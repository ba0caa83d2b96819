import Accession.Command.Run

/-!
# The program

Reads the files that the command line names, runs the command on them, and writes its log.  No
database comes with it: a load into one finds that it cannot be reached.
-/

namespace Accession

/-- The text of a file, or why it cannot be read. -/
def readFile (path : String) : IO (Except FileError String) := do
  try
    let bytes ← IO.FS.readBinFile path
    match String.fromUTF8? bytes with
    | some contents => pure (.ok contents)
    | none => pure (.error ⟨path, "stream did not contain valid UTF-8"⟩)
  catch
    | .noFileOrDirectory _ _ _ => pure (.error ⟨path, FileTree.missing⟩)
    | e => pure (.error ⟨path, toString e⟩)

/-- The files of a command, read beforehand. -/
def readFiles (paths : List String) : IO Command.Files := do
  let read ← paths.mapM fun path => do pure (path, ← readFile path)
  pure fun path => (read.lookup path).getD (.error ⟨path, FileTree.missing⟩)

/-- How the program is called. -/
def usage : String :=
  "usage: accession validate [--spec FILE] [--schema FILE]\n"
    ++ "       accession load --input FILE [--spec FILE] [--schema FILE] [--dry-run]\n"
    ++ "         [--database-url URL] [--on-error abort|skip] [--per-record-transactions]\n"
    ++ "         [--max-connections N]"

/-- Does what the arguments ask for, and answers the exit status. -/
def runProgram (args : List String) : IO UInt32 := do
  let invocation := Invocation.ofArguments args
  let files ← match invocation with
    | .command c => readFiles c.paths
    | _ => readFiles []
  let outcome := invocation.run files
  match invocation with
  | .command _ => outcome.log.forM fun l => IO.println l.display
  | _ => IO.println usage
  pure (UInt32.ofNat outcome.exit)

end Accession

/-- The program. -/
def main (args : List String) : IO UInt32 := Accession.runProgram args
