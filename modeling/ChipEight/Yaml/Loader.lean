/-
# Loaders of documents

A loader makes a value of a text, or says why there is none. Bytes that are no text it
cannot read; but it takes a file piece by piece, and may be done, mostly with something that
is malformed, before it comes to the first byte that is not UTF-8 (`Loader.early`). Which
loader a host has is its own matter, and `Yaml.loader` is the one that is used here.
-/

import ChipEight.Yaml.Document

namespace ChipEight.Yaml

/-- Why a loader makes no value of a text. -/
inductive Refusal
  /-- The text is malformed, and the loader says how. -/
  | malformed (how : String)
  /-- The loader stumbles over a scalar that its own tag refuses. -/
  | scalar (error : ScalarError)
  /-- The loader stumbles over collections that are nested too deeply. -/
  | tooDeep
  deriving DecidableEq, Repr

/-- A loader of documents. -/
structure Loader where
  /-- The answer to a text. -/
  ofText : String → Except Refusal Value
  /-- The answer to bytes that are no text, if there is one before the first byte that is
  not UTF-8. -/
  early : ByteArray → Option (Except Refusal Value)

namespace Loader

/-- Why the content of a file gives no value. -/
inductive Error
  | refused (refusal : Refusal)
  /-- The loader came to a byte that is not UTF-8. -/
  | notUtf8
  deriving DecidableEq, Repr

/-- What a loader makes of the content of a file. -/
def load (l : Loader) (content : ByteArray) : Except Error Value :=
  match String.fromUTF8? content with
  | some text => (l.ofText text).mapError .refused
  | none =>
    match l.early content with
    | some answer => answer.mapError .refused
    | none => .error .notUtf8

end Loader

/-- What is wrong with a text, as a loader says it. -/
def Error.refusal : Error → Refusal
  | malformed => .malformed "not a YAML document"
  | scalar error => .scalar error
  | tooDeep => .tooDeep

/-- The loader of `Yaml.load`, which decodes a file before it reads it. -/
def loader : Loader where
  ofText text := (load text).mapError Error.refusal
  early _ := none

end ChipEight.Yaml
