/-
# Files by path

A program asks a host two things of a path: whether there is anything at it
(`Files.look`), and what the file there holds (`Files.read`). A directory tree
answers both (`ChipEight.Directory.read`), and so does a list of what was asked
before.
-/

import ChipEight.Text.Quoted

namespace ChipEight

namespace Files

/-- Why a path gives no answer. -/
inductive Error
  | notFound
  | notDirectory
  | isDirectory
  | nameTooLong
  /-- The links of a path lead in a circle. -/
  | endless
  /-- A path with a zero character is no path. -/
  | zeroCharacter
  /-- A path with a surrogate has no bytes. -/
  | noBytes
  /-- The system has another reason. -/
  | refused (reason : String)
  deriving DecidableEq, Repr

namespace Error

/-- The error as a system reports it. -/
def message (e : Error) (path : Text) : String :=
  let reason := match e with
    | notFound => "[Errno 2] No such file or directory: "
    | notDirectory => "[Errno 20] Not a directory: "
    | isDirectory => "[Errno 21] Is a directory: "
    | nameTooLong => "[Errno 36] File name too long: "
    | endless => "[Errno 40] Too many levels of symbolic links: "
    | zeroCharacter => "embedded null byte: "
    | noBytes => "surrogates not allowed: "
    | refused reason => reason ++ ": "
  reason ++ Text.quoted path

/-- No system is asked about the path, for it is no path. -/
def isOfPath : Error → Bool
  | zeroCharacter | noBytes => true
  | _ => false

/-- The answer to whether there is anything is that there is nothing, and not that it
cannot be said. -/
def meansNothing : Error → Bool
  | notFound | notDirectory | endless => true
  | e => e.isOfPath

end Error

end Files

/-- What a host has at each path. -/
structure Files where
  /-- Looks whether there is anything at a path. -/
  look : Text → Except Files.Error Unit
  /-- Opens the file at a path and reads it. -/
  read : Text → Except Files.Error ByteArray

namespace Files

/-- No files at all. -/
def none : Files := ⟨fun _ => .error .notFound, fun _ => .error .notFound⟩

/-- What a host answers about one path. -/
structure Answer where
  path : Text
  look : Except Error Unit
  read : Except Error ByteArray

/-- The files of a list of answers, and no others. -/
def ofList (known : List Answer) : Files :=
  let find (path : Text) := known.find? fun answer => answer.path = path
  { look := fun path => (find path).elim (.error .notFound) Answer.look
    read := fun path => (find path).elim (.error .notFound) Answer.read }

/-- A point of a path has bytes: a character, or one of the last 128 of the lower
surrogates, which stand for single bytes. -/
def hasBytes (p : Text.Point) : Bool := p.char?.isSome || (0xDC80 ≤ p.code && p.code < 0xDD00)

/-- The string of a path, if it is one. No known path has bytes that are no UTF-8. -/
def stringOf (path : Text) : Except Error String :=
  if !path.points.all hasBytes then .error .noBytes
  else if path.points.contains (.char (Char.ofNat 0)) then .error .zeroCharacter
  else match path.toString? with
    | some s => .ok s
    | .none => .error .notFound

/-- The slashes that a path starts with, as far as they count: two are two, and more
are one. -/
def root : List Text.Point → Text
  | .char '/' :: .char '/' :: .char '/' :: _ => "/"
  | .char '/' :: .char '/' :: _ => "//"
  | .char '/' :: _ => "/"
  | _ => ""

/-- A path without empty names and `.`, as one writes it by hand; what is left of
a path of these alone is the working directory. -/
def tidy (path : Text) : Text :=
  let names := (path.splitOn '/').filter fun name => !name.isEmpty && name ≠ Text.ofString "."
  let tidied := root path.points ++ .intercalate "/" names
  if tidied.isEmpty then "." else tidied

end Files
end ChipEight
