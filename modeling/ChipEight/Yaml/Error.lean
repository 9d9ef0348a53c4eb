/-
# What can be wrong with a document

Either the text is no YAML document, or a scalar is refused by its own tag, or the
collections lie too deep in one another.
-/

namespace ChipEight.Yaml

/-- Why a scalar is refused. -/
inductive ScalarError
  /-- A number is not written as one. -/
  | badNumber
  /-- A date that does not exist, or a clock too far from universal time. -/
  | badDate
  /-- A code that no character has. -/
  | badCharacter
  /-- A truth value that is neither of the two. -/
  | badTruth
  /-- A number without a digit or a letter. -/
  | emptyNumber
  /-- A point in time that is not written as one. -/
  | noDate
  /-- A point in time made from a collection. -/
  | dateOfCollection
  /-- A code or a sum that is too large. -/
  | tooLarge
  /-- A collection that stands for a scalar inside itself. -/
  | endless
  deriving DecidableEq, Repr

/-- Wording of a refused scalar. -/
def ScalarError.message : ScalarError → String
  | badNumber => "a number is not written as one"
  | badDate => "there is no such date"
  | badCharacter => "there is no such character"
  | badTruth => "a truth value is neither true nor false"
  | emptyNumber => "a number has no digits"
  | noDate => "a date is not written as one"
  | dateOfCollection => "a collection is no date"
  | tooLarge => "a number is too large"
  | endless => "a collection stands for a scalar inside itself"

/-- What is wrong with a text. -/
inductive Error
  /-- It is no YAML document. -/
  | malformed
  /-- A scalar in it is refused. -/
  | scalar (error : ScalarError)
  /-- Collections are nested too deeply. -/
  | tooDeep
  deriving DecidableEq, Repr

end ChipEight.Yaml
