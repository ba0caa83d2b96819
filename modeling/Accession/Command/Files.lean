import Accession.Text.Search

/-!
# Files held in memory

* `FileError` : why a file cannot be read as text.
* `FileTree.read` : the text at a path in a tree of files.
-/

namespace Accession

/-- A file that cannot be read as text: its path, and why. -/
structure FileError where
  path : String
  why : String
  deriving DecidableEq, Repr

/-- The wording of a failure to read a file. -/
def FileError.message (e : FileError) : String :=
  "failed to read " ++ e.path ++ ": " ++ e.why

/-- The texts of files by path. -/
abbrev FileTree := List (String × String)

namespace FileTree

/-- There is no file or directory of that name. -/
def missing : String := "No such file or directory (os error 2)"

/-- A file stands where a directory is meant. -/
def notDirectory : String := "Not a directory (os error 20)"

/-- A directory stands where a file is meant. -/
def isDirectory : String := "Is a directory (os error 21)"

/-- The steps of a path. -/
def steps (path : String) : List String := Text.split "/" path

/-- The text of the file at a place. -/
def file? (t : FileTree) (place : List String) : Option String :=
  (t.find? fun f => steps f.1 = place).map Prod.snd

/-- There is a file below the place. -/
def hasDirectory (t : FileTree) (place : List String) : Bool :=
  place.isEmpty || t.any fun f => place.isPrefixOf (steps f.1) && steps f.1 != place

/-- Follows the steps of a path from a place. -/
def follow (t : FileTree) : (place : List String) → List String → Except String (List String)
  | place, [] => .ok place
  | place, step :: rest =>
    if (t.file? place).isSome then .error notDirectory
    else if !t.hasDirectory place then .error missing
    else if step = "" ∨ step = "." then follow t place rest
    else if step = ".." then
      if place.isEmpty then .error missing else follow t place.dropLast rest
    else follow t (place ++ [step]) rest

/-- The text of the file at a path. -/
def read (t : FileTree) (path : String) : Except FileError String :=
  let fail (why : String) : Except FileError String := .error ⟨path, why⟩
  match steps path with
  | [] => fail missing
  | "" :: _ => fail missing
  | path =>
    match t.follow [] path with
    | .error why => fail why
    | .ok place =>
      match t.file? place with
      | some contents => .ok contents
      | none => fail (if t.hasDirectory place then isDirectory else missing)

end FileTree

end Accession
