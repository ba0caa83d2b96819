import Accession.Decimal.Integer
import Accession.Load.Options
import Accession.Text.Search

/-!
# Arguments of the command line

* `Command` : what is to be done, with the files it is to be done with.
* `Invocation.ofArguments` : what the arguments ask for: a command, or help, or nothing that can be
  understood.

An option has a long name, may have a letter, and takes a value or none.  The value follows as an
argument of its own, or in the same one: after an equals sign, or right after the letter.  No
option may be given twice.
-/

namespace Accession

/-- What a load is made from, and how. -/
structure LoadJob where
  mapping : String
  schema : String
  records : String
  databaseUrl : Option String
  /-- The rows go into memory, not into a database. -/
  dryRun : Bool
  options : Load.Options
  maxConnections : Nat
  deriving DecidableEq, Repr

/-- What is to be done. -/
inductive Command where
  /-- Checks a mapping, and its fit to a schema if one is given. -/
  | validate (mapping : String) (schema : Option String)
  /-- Loads records. -/
  | load (job : LoadJob)
  deriving DecidableEq, Repr

/-- What arguments ask for. -/
inductive Invocation where
  | command (c : Command)
  /-- The usage, or the version, is asked for. -/
  | information
  /-- The arguments are not understood. -/
  | misuse
  deriving DecidableEq, Repr

namespace Command

/-! ### Options -/

/-- What an option takes. -/
inductive OptionKind where
  /-- No value; the usage is asked for. -/
  | help
  /-- No value. -/
  | flag
  /-- A value that the test admits. -/
  | value (admits : String → Bool)

/-- An option. -/
structure OptionSpec where
  name : String
  letter : Option Char
  kind : OptionKind

/-- The values of options by name; that of a flag is empty. -/
abbrev Given := Dict String String

/-- Why the reading of arguments ends early. -/
inductive Stop where
  | information
  | misuse
  deriving DecidableEq, Repr

/-- The form of an argument. -/
inductive Argument where
  /-- Two hyphens: no option follows. -/
  | terminator
  /-- A long name, with what follows an equals sign. -/
  | long (name : String) (value : Option String)
  /-- A letter, with what follows it. -/
  | short (letter : Char) (rest : List Char)
  /-- Anything else. -/
  | plain (text : String)

/-- The form of an argument. -/
def Argument.ofText (s : String) : Argument :=
  match s.toList with
  | ['-', '-'] => .terminator
  | '-' :: '-' :: cs =>
    let name := cs.takeWhile (· != '=')
    .long (String.ofList name)
      (match cs.drop name.length with
      | [] => none
      | _ :: value => some (String.ofList value))
  | '-' :: letter :: rest => .short letter rest
  | _ => .plain s

/-- The value that follows a letter in the same argument, if there is one. -/
def attached (rest : List Char) : Option String :=
  match rest with
  | [] => none
  | '=' :: value => some (String.ofList value)
  | value => some (String.ofList value)

/-- Adds the value of an option, which may not be given already. -/
def give (given : Given) (name value : String) : Except Stop Given :=
  if given.contains name then .error .misuse else .ok (given.insert name value)

/-- Adds the value of an option that admits it. -/
def giveValue (given : Given) (o : OptionSpec) (value : String) : Except Stop Given :=
  match o.kind with
  | .value admits => if admits value then give given o.name value else .error .misuse
  | _ => .error .misuse

/-- What is given after an option, and the option if its value is still to follow. -/
def meet (given : Given) (o : OptionSpec) (value : Option String) :
    Except Stop (Given × Option OptionSpec) :=
  match o.kind, value with
  | .help, none => .error .information
  | .flag, none => (give given o.name "").map fun given => (given, none)
  | .value _, none => .ok (given, some o)
  | .value _, some value => (giveValue given o value).map fun given => (given, none)
  | _, some _ => .error .misuse

/-- Adds a letter without a value, and goes on with the letters that follow. -/
def meetLetters (options : List OptionSpec) :
    Given → (letter : Char) → (rest : List Char) → Except Stop (Given × Option OptionSpec)
  | given, letter, rest =>
    match options.find? (·.letter = some letter) with
    | none => .error .misuse
    | some o =>
      match o.kind with
      -- the rest of the argument is its value, not more letters
      | .value _ => meet given o (attached rest)
      | _ =>
        match meet given o none, rest with
        | .error e, _ => .error e
        | .ok met, [] => .ok met
        | .ok (given, _), letter :: rest => meetLetters options given letter rest
termination_by _ _ rest => rest.length

/-- Reads arguments; `pending` is an option whose value is to follow. -/
def readOptions (options : List OptionSpec) :
    (pending : Option OptionSpec) → Given → List String → Except Stop Given
  | none, given, [] => .ok given
  | some _, _, [] => .error .misuse
  | pending, given, arg :: rest =>
    match Argument.ofText arg, pending with
    | .plain value, some o => do
      let given ← giveValue given o value
      readOptions options none given rest
    | .plain _, none => .error .misuse
    | .terminator, none => if rest.isEmpty then .ok given else .error .misuse
    | .long name value, none =>
      match options.find? (·.name = name) with
      | none => .error .misuse
      | some o => do
        let (given, pending) ← meet given o value
        readOptions options pending given rest
    | .short letter letters, none => do
      let (given, pending) ← meetLetters options given letter letters
      readOptions options pending given rest
    -- an option is no value, and neither is the end of the options
    | _, some _ => .error .misuse

/-! ### Commands -/

/-- A path is not empty. -/
def isPath (s : String) : Bool := s != ""

/-- The number that a text spells, if it is one of connections. -/
def readConnections? (s : String) : Option Nat :=
  (Decimal.readWord? s.toList).bind fun i =>
    if 0 ≤ i ∧ i < 0x100000000 then some i.toNat else none

/-- The option that asks for the usage. -/
def helpOption : OptionSpec := ⟨"help", some 'h', .help⟩

/-- The path of the mapping where none is given. -/
def defaultMapping : String := "config/loader.yaml"

/-- The path of the schema of a load where none is given. -/
def defaultSchema : String := "config/schema.yaml"

/-- The number of connections where none is given. -/
def defaultConnections : Nat := 4

/-- The options of a check. -/
def validateOptions : List OptionSpec :=
  [helpOption, ⟨"spec", some 's', .value isPath⟩, ⟨"schema", none, .value isPath⟩]

/-- The check that options ask for. -/
def ofValidateOptions (given : Given) : Command :=
  .validate ((given.get? "spec").getD defaultMapping) (given.get? "schema")

/-- The options of a load. -/
def loadOptions : List OptionSpec :=
  [helpOption, ⟨"spec", some 's', .value isPath⟩, ⟨"schema", none, .value isPath⟩,
    ⟨"input", some 'i', .value isPath⟩, ⟨"database-url", none, .value fun _ => true⟩,
    ⟨"dry-run", none, .flag⟩,
    ⟨"on-error", none, .value fun s => (Load.ErrorPolicy.ofName? s).isSome⟩,
    ⟨"per-record-transactions", none, .flag⟩,
    ⟨"max-connections", none, .value fun s => (readConnections? s).isSome⟩]

/-- The load that options ask for; records are to be given. -/
def ofLoadOptions? (given : Given) : Option Command :=
  (given.get? "input").map fun records => .load
    { mapping := (given.get? "spec").getD defaultMapping
      schema := (given.get? "schema").getD defaultSchema
      records := records
      databaseUrl := given.get? "database-url"
      dryRun := given.contains "dry-run"
      options :=
        { onError := ((given.get? "on-error").bind Load.ErrorPolicy.ofName?).getD .abort
          scope := if given.contains "per-record-transactions" then .perRecord else .perRow }
      maxConnections :=
        ((given.get? "max-connections").bind readConnections?).getD defaultConnections }

end Command

namespace Invocation

open Command (Argument Given OptionSpec readOptions)

/-- The invocation of a command whose options are read. -/
def ofOptions (options : List OptionSpec) (command? : Given → Option Command)
    (args : List String) : Invocation :=
  match readOptions options none [] args with
  | .error .information => information
  | .error .misuse => misuse
  | .ok given =>
    match command? given with
    | some c => command c
    | none => misuse

/-- Help about a command, or about all. -/
def ofHelp : List String → Invocation
  | [] => information
  | [name] => if ["validate", "load", "help"].contains name then information else misuse
  | _ => misuse

/-- What arguments ask for. -/
def ofArguments : List String → Invocation
  | [] => misuse
  | "validate" :: args =>
    ofOptions Command.validateOptions (fun given => some (Command.ofValidateOptions given)) args
  | "load" :: args => ofOptions Command.loadOptions Command.ofLoadOptions? args
  | "help" :: args => ofHelp args
  | arg :: _ =>
    match Argument.ofText arg with
    | .long "help" none => information
    | .long "version" none => information
    | .short 'h' _ => information
    | .short 'V' _ => information
    | _ => misuse

end Invocation

end Accession
