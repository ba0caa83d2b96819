import Accession.Command.Arguments
import Accession.Command.Files
import Accession.Mapping.Document
import Accession.Mapping.Fit
import Accession.Record.Layout
import Accession.Store.Memory
import Accession.Store.Pool
import Accession.Store.Schema.Document

/-!
# Running a command

`Command.run` does what a command says, with the files and the database that it is given, and
leaves a log, an exit status and the database.  Files are read in order, and the first that is at
fault ends the run: the mapping, the schema, the records.  Only then is the database asked for a
connection, and not at all if the rows are to go into memory.

* `Command.runLoad` : what a load does, in memory or in the database.
* `Invocation.runWith` : what arguments ask for.
* `Invocation.run` : the same where no database can be reached, as in the program itself.
-/

namespace Accession

/-- A line of the log. -/
structure LogLine where
  level : String
  text : String
  fields : List (String × String)
  deriving DecidableEq, Repr

/-- A line as it is written. -/
def LogLine.display (l : LogLine) : String :=
  String.intercalate " " (l.level :: l.text :: l.fields.map fun f => f.1 ++ "=" ++ f.2)

/-- Why a command fails. -/
inductive CommandError where
  | file (e : FileError)
  | mapping (e : MappingError)
  | schema (e : SchemaError)
  | records (path : String) (e : ReadError)
  | load (e : LoadError)
  /-- No database is named. -/
  | noDatabase
  /-- The settings of the pool leave no room for a connection. -/
  | noPool
  /-- The pool makes no connection. -/
  | noConnection (why : String)
  deriving DecidableEq, Repr

namespace CommandError

/-- The wording of a failure. -/
def message : CommandError → String
  | file e => e.message
  | mapping e => e.message
  | schema e => e.message
  | records path (.notJson why) => "invalid JSON in " ++ path ++ ": " ++ why
  | records _ (.malformed m) => m.message
  | load e => e.message
  | noDatabase => "no --database-url given and DATABASE_URL is not set"
  | noPool => "max_size must be positive"
  | noConnection why => (StoreError.connection why).message

/-- The exit status after a failure: a pool that cannot be set up aborts the run. -/
def status : CommandError → Nat
  | noPool => 101
  | _ => 1

/-- The line about a failure; an aborted run leaves none. -/
def line? : CommandError → Option LogLine
  | noPool => none
  | e => some ⟨"ERROR", e.message, []⟩

end CommandError

/-- What a run leaves; the states of the database are `σ`. -/
structure Outcome (σ : Type) where
  exit : Nat
  log : List LogLine
  database : σ
  deriving DecidableEq, Repr

namespace Command

/-- The reading of a file by its path. -/
abbrev Files := String → Except FileError String

/-- What a run changes. -/
structure World (σ : Type) where
  /-- The lines so far, in order. -/
  log : List LogLine
  database : σ
  deriving DecidableEq, Repr

/-- A step of a run. -/
abbrev Run (σ α : Type) := Step (World σ) CommandError α

variable {σ ε α : Type}

/-- Adds lines to the log. -/
def write (lines : List LogLine) : Run σ Unit :=
  ExceptT.mk fun w => (.ok (), { w with log := w.log ++ lines })

/-- Adds a line to the log. -/
def inform (text : String) (fields : List (String × String)) : Run σ Unit :=
  write [⟨"INFO", text, fields⟩]

/-- A result as a step, with its error as that of a command. -/
def ofExcept (error : ε → CommandError) (result : Except ε α) : Run σ α :=
  ExceptT.mk fun w => (result.mapError error, w)

/-- A step of the database as a step of a run, with its error as that of a command. -/
def onDatabase (error : ε → CommandError) (step : Step σ ε α) : Run σ α :=
  ExceptT.mk fun w =>
    let (answer, s) := step w.database
    (answer.mapError error, { w with database := s })

/-- The mapping at a path. -/
def readMapping (files : Files) (path : String) : Run σ Mapping := do
  let contents ← ofExcept .file (files path)
  ofExcept .mapping (Mapping.ofYaml contents)

/-- The schema at a path. -/
def readSchema (files : Files) (path : String) : Run σ Registry := do
  let contents ← ofExcept .file (files path)
  ofExcept .schema (Registry.ofYaml contents)

/-- The records at a path. -/
def readRecords (files : Files) (path : String) : Run σ (List Record) := do
  let contents ← ofExcept .file (files path)
  ofExcept (.records path) (Record.readAll contents)

/-- Texts in quotes within brackets. -/
def listed (texts : List String) : String :=
  "[" ++ String.intercalate ", " (texts.map Text.quoted) ++ "]"

/-- Checks a mapping, and its fit to a schema if one is given. -/
def runValidate (files : Files) (mapping : String) (schema : Option String) : Run σ Unit := do
  let m ← readMapping files mapping
  inform "loader spec is valid" [("spec", mapping), ("tables", listed m.root.tables)]
  match schema with
  | none => pure ()
  | some schema => do
    let r ← readSchema files schema
    ofExcept .mapping (m.validateAgainst r)
    inform "loader spec matches schema" [("schema", schema)]

/-- The lines about a batch that was loaded. -/
def reportLines (r : Load.Report) : List LogLine :=
  ⟨"INFO", "load complete",
    [("total", toString r.total), ("loaded", toString r.loaded),
      ("failed", toString r.failures.length), ("created", toString r.stats.created),
      ("reused", toString r.stats.reused), ("skipped", toString r.stats.skipped)]⟩
    :: r.failures.map fun f => ⟨"ERROR", f.message, [("index", toString f.index)]⟩

/-- Loads records into memory. -/
def loadIntoMemory (m : Mapping) (r : Registry) (options : Load.Options)
    (records : List Record) : Run σ Load.Report := do
  inform "dry run: loading into an in-memory store" []
  let store := Store.inMemory r m.config.textMatch
  ofExcept .load (Load.loadRecords store m options records Memory.empty).1

/-- Loads records into the database of a URL, through one connection of a pool. -/
def loadIntoDatabase (database : Database σ) (job : LoadJob) (m : Mapping) (r : Registry)
    (records : List Record) : Run σ Load.Report :=
  match job.databaseUrl, Pool.create? poolConfig with
  | none, _ => throw .noDatabase
  | some _, none => throw .noPool
  | some url, some pool => do
    let backend ← onDatabase .noConnection (database.connect url pool)
    let store : Store σ := ⟨backend, r, m.config.textMatch⟩
    onDatabase .load (Load.loadRecords store m job.options records)
where
  /-- How the pool of the load is kept. -/
  poolConfig : PoolConfig := { PoolConfig.default with maxConnections := job.maxConnections }

/-- Loads records. -/
def runLoad (database : Database σ) (files : Files) (job : LoadJob) : Run σ Unit := do
  let m ← readMapping files job.mapping
  let r ← readSchema files job.schema
  ofExcept .mapping (m.validateAgainst r)
  let records ← readRecords files job.records
  let report ←
    if job.dryRun then loadIntoMemory m r job.options records
    else loadIntoDatabase database job m r records
  write (reportLines report)

/-- Does what a command says. -/
def perform (database : Database σ) (files : Files) : Command → Run σ Unit
  | validate mapping schema => runValidate files mapping schema
  | load job => runLoad database files job

/-- Does what a command says with a database that it finds in the state `s`, and leaves a log, an
exit status and the database. -/
def run (database : Database σ) (s : σ) (files : Files) (c : Command) : Outcome σ :=
  match perform database files c ⟨[], s⟩ with
  | (.ok (), w) => ⟨0, w.log, w.database⟩
  | (.error e, w) => ⟨e.status, w.log ++ e.line?.toList, w.database⟩

/-- The paths of the files that a command reads. -/
def paths : Command → List String
  | validate mapping schema => mapping :: schema.toList
  | load job => [job.mapping, job.schema, job.records]

end Command

namespace Invocation

variable {σ : Type}

/-- Does what arguments ask for, with a database that is found in the state `s`; what cannot be
understood has a status of its own. -/
def runWith (database : Database σ) (s : σ) (files : Command.Files) : Invocation → Outcome σ
  | command c => c.run database s files
  | information => ⟨0, [], s⟩
  | misuse => ⟨2, [], s⟩

/-- Does what arguments ask for where no database can be reached. -/
def run (files : Command.Files) (i : Invocation) : Outcome Unit :=
  i.runWith .unreachable () files

end Invocation

end Accession
