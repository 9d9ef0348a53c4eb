/-
# Directory trees

A directory tree as a value, and what a path finds in it (`Directory.read`). A path
is read name by name: empty names and `.` stay where they are but ask for a
directory, and `..` goes up. A leading slash starts from another tree, the outermost
one; of the directories between the two trees nothing is known but that they are
there.
-/

import ChipEight.Files

namespace ChipEight

/-- A file or a directory. -/
inductive Directory
  | file (content : ByteArray)
  | dir (entries : List (String × Directory))

namespace Directory

/-- A directory with nothing in it. -/
def empty : Directory := .dir []

/-- The longest name, in bytes. -/
def maxName : Nat := 255

/-- The longest path, in bytes. -/
def maxPath : Nat := 4095

/-- Follows names from a place; `above` are the directories over it, nearest first,
and over all of them there is only `top`. -/
def follow (top : Directory) (above : List Directory) (place : Directory) :
    List String → Except Files.Error Directory
  | [] => .ok place
  | name :: rest =>
    match place with
    | .file _ => .error .notDirectory
    | .dir entries =>
      if name = "" ∨ name = "." then follow top above place rest
      else if name = ".." then
        match above with
        | [] => follow top [] top rest
        | up :: above => follow top above up rest
      else if maxName < name.utf8ByteSize then .error .nameTooLong
      else
        match entries.lookup name with
        | none => .error .notFound
        | some found => follow top (place :: above) found rest

/-- What a path finds from a working directory, or from the outermost one if it
starts with a slash. -/
def find (outermost d : Directory) (path : Text) : Except Files.Error Directory := do
  let path ← Files.stringOf path
  if path = "" then throw .notFound
  if maxPath < path.utf8ByteSize then throw .nameTooLong
  let names := path.splitOn "/"
  if path.startsWith "/" then follow outermost [] outermost names else follow empty [] d names

/-- The files at paths from a working directory or the outermost one. -/
def read (outermost d : Directory) : Files where
  look path := (find outermost d path).map fun _ => ()
  read path := do
    match ← find outermost d path with
    | .dir _ => throw .isDirectory
    | .file content => return content

end Directory
end ChipEight
