import Accession.Mapping.Scope
import Accession.Mapping.Source
import Accession.Yaml.Decode

/-!
# Mapping documents

A mapping is written as a YAML document: settings under `config`, and the root under `mapping`.
The key of an entry of a node either starts with the mark of a child, and its value is the node
below, or names a table and a column, and its value is the source of the column.  A key that starts
with the mark of deferred columns names a column that is left empty, whatever its value.

* `Mapping.Node.ofEntries` : the node that the entries of a mapping write.
* `Mapping.ofYaml` : the mapping of a document.
-/

namespace Accession.Mapping

/-! ### Entries -/

/-- A key without the mark of deferred columns, and whether the mark was there. -/
def bindingKey (c : Config) (key : String) : Bool × String :=
  match Text.after? c.deferredMark key with
  | some rest => (true, rest)
  | none => (false, key)

/-- The table and the column of a key. -/
def splitKey? (c : Config) (key : String) : Option (String × String) :=
  match Text.split c.tableDelimiter key with
  | [table, column] => if table = "" ∨ column = "" then none else some (table, column)
  | _ => none

/-- The source of an entry; that of a deferred column is not read. -/
def readSource (c : Config) (path key : String) (isDeferred : Bool) (value : Yaml) :
    Except MappingError Source :=
  if isDeferred then .ok .deferred
  else match Source.ofYaml c value with
    | .ok source => .ok source
    | .error f => .error (.value path key f)

namespace Node

/-- Binds the column of an entry, which is to be of the table of the node and not yet bound. -/
def bind (n : Node) (path key table column : String) (source : Source) :
    Except MappingError Node :=
  match n.table with
  | some t =>
    if t ≠ table then .error (.tableMismatch path key t table)
    else if n.bindings.contains column then .error (.key path key (.repeated column))
    else .ok (n.withBinding table column source)
  | none =>
    if n.bindings.contains column then .error (.key path key (.repeated column))
    else .ok (n.withBinding table column source)

/-- The node after an entry that names a table and a column. -/
def readBinding (c : Config) (path key : String) (value : Yaml) (n : Node) :
    Except MappingError Node :=
  let (isDeferred, name) := bindingKey c key
  match splitKey? c name with
  | none => .error (.key path key (.malformed c.tableDelimiter))
  | some (table, column) =>
    match readSource c path key isDeferred value with
    | .error e => .error e
    | .ok source => n.bind path key table column source

mutual

/-- The node that a value writes, if it is a mapping. -/
def ofYaml? (c : Config) (name path : String) : Yaml → Option (Except MappingError Node)
  | .mapping entries => some (readEntries c path entries (Node.new name))
  | .tagged _ v => ofYaml? c name path v
  | _ => none

/-- The node after the entries that follow. -/
def readEntries (c : Config) (path : String) : List (Yaml × Yaml) → Node →
    Except MappingError Node
  | [], n => .ok n
  | (key, value) :: rest, n =>
    match key.asText? with
    | none => .error (.key path key.display .notText)
    | some key =>
      match Text.after? c.childMark key with
      | some child =>
        if child = "" then .error (.key path key .unnamedChild)
        else match ofYaml? c child (childPath path child) value with
          | none => .error (.value path key .noChild)
          | some (.error e) => .error e
          | some (.ok below) => readEntries c path rest (n.withChild child below)
      | none =>
        match readBinding c path key value n with
        | .error e => .error e
        | .ok n => readEntries c path rest n

end

/-- The node that entries write. -/
def ofEntries (c : Config) (name path : String) (entries : List (Yaml × Yaml)) :
    Except MappingError Node :=
  readEntries c path entries (Node.new name)

end Node

/-! ### Documents -/

open Yaml (Decode)

/-- The settings of a document. -/
def decodeConfig (n : Yaml.Node) : Decode Config := do
  let found ← Decode.fields
    ["field_delimiter", "child_prefix", "table_delimiter", "deferred_prefix", "text_match"] n
  let d := Config.default
  let fieldDelimiter ← Decode.field found "field_delimiter" d.fieldDelimiter Decode.text
  let childMark ← Decode.field found "child_prefix" d.childMark Decode.text
  let tableDelimiter ← Decode.field found "table_delimiter" d.tableDelimiter Decode.text
  let deferredMark ← Decode.field found "deferred_prefix" d.deferredMark Decode.text
  let textMatch ← Decode.field found "text_match" d.textMatch (Decode.name TextMatch.ofName?)
  pure ⟨fieldDelimiter, childMark, tableDelimiter, deferredMark, textMatch⟩

/-- The depth at which the values of the root stand. -/
def rootDepth : Nat := 2

/-- Values keep their tags, and no key occurs twice. -/
def valueKeeping : Decode.Keeping := ⟨true, true⟩

/-- The entries of the root. -/
def decodeRoot (n : Yaml.Node) : Decode (List (Yaml × Yaml)) := do
  let read := Decode.value valueKeeping (Decode.maxDepth - rootDepth) false
  Decode.entryValues valueKeeping read read (← Decode.entries n)

/-- The settings of a document, and the entries of its root. -/
def decode (n : Yaml.Node) : Decode (Config × List (Yaml × Yaml)) := do
  let found ← Decode.fields ["config", "mapping"] n
  let config ← Decode.field found "config" Config.default decodeConfig
  let entries ← Decode.required found "mapping" decodeRoot
  pure (config, entries)

/-- The mapping of settings and of the entries of a root. -/
def ofEntries (c : Config) (entries : List (Yaml × Yaml)) : Except MappingError Mapping :=
  match c.fault? with
  | some f => .error (.config f)
  | none =>
    match Node.ofEntries c rootName rootName entries with
    | .error e => .error e
    | .ok root => ofTree c root

/-- The mapping of a document. -/
def ofYaml (contents : String) : Except MappingError Mapping :=
  match Decode.run decode contents with
  | .error e => .error (.document e)
  | .ok (c, entries) => ofEntries c entries

end Accession.Mapping
