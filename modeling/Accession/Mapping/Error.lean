import Accession.Mapping.Config
import Accession.Yaml.Cursor

/-!
# Faults of a mapping

`MappingError` lists why a mapping is refused, with the path of the node at fault, and
`MappingError.message` words it.
-/

namespace Accession

namespace Mapping

/-- What is wrong with a key. -/
inductive KeyFault where
  /-- The key is no text. -/
  | notText
  /-- The key is the mark of a child and nothing else. -/
  | unnamedChild
  /-- The key is not a table and a column around the delimiter. -/
  | malformed (delimiter : String)
  /-- The column is bound by an earlier key. -/
  | repeated (column : String)
  /-- The column is the primary key of its table. -/
  | generated
  deriving DecidableEq, Repr

/-- What is wrong with a key, in words. -/
def KeyFault.message : KeyFault → String
  | notText => "keys must be strings"
  | unnamedChild => "child loader has no name"
  | malformed delimiter => "expected 'table" ++ delimiter ++ "column'"
  | repeated column => "column '" ++ column ++ "' is bound more than once"
  | generated => "the primary key is generated by the store"

/-- What is wrong with a value. -/
inductive ValueFault where
  /-- The value of the key of a child is no mapping. -/
  | noChild
  /-- A literal is no scalar. -/
  | noLiteral
  /-- The text after `tag` is no tag. -/
  | noTag
  /-- The text after `fk` names no table. -/
  | noForeignKey
  /-- The one key of a mapping is none of those that say what its value is. -/
  | unknownForm
  /-- The value is none of those that a column may have. -/
  | unsupported
  deriving DecidableEq, Repr

/-- What is wrong with a value, in words. -/
def ValueFault.message : ValueFault → String
  | noChild => "a child loader must be a mapping"
  | noLiteral => "a literal must be a scalar"
  | noTag => "malformed tag reference"
  | noForeignKey => "malformed foreign key reference"
  | unknownForm => "expected one of 'literal', 'tag' or 'fk'"
  | unsupported => "unsupported value"

end Mapping

/-- Why a mapping is refused. -/
inductive MappingError where
  /-- The document is not YAML, or not laid out as a mapping. -/
  | document (e : Yaml.Error)
  /-- The settings are not usable. -/
  | config (f : Mapping.ConfigFault)
  /-- A key cannot be read. -/
  | key (node key : String) (f : Mapping.KeyFault)
  /-- A value cannot be read. -/
  | value (node key : String) (f : Mapping.ValueFault)
  /-- A column of another table than the node's. -/
  | tableMismatch (node column expected found : String)
  /-- A reference to a table that no node around binds. -/
  | danglingForeignKey (node column table : String)
  /-- A tag of another field than the one whose occurrences the node is applied to. -/
  | tagOutOfScope (node column tag field : String)
  /-- A table that the schema does not have. -/
  | unknownTable (node table : String)
  /-- A column that its table does not have. -/
  | unknownColumn (node table column : String)
  /-- A reference to a column other than the primary key. -/
  | notPrimaryKey (node column table referenced primaryKey : String)
  deriving DecidableEq, Repr

/-- The wording of a refusal. -/
def MappingError.message : MappingError → String
  | document e => "failed to parse YAML: " ++ e.message
  | config f => "invalid config: " ++ f.message
  | key node k f => "node '" ++ node ++ "': invalid key '" ++ k ++ "': " ++ f.message
  | value node k f => "node '" ++ node ++ "': invalid value for '" ++ k ++ "': " ++ f.message
  | tableMismatch node column expected found =>
    "node '" ++ node ++ "': column '" ++ column ++ "' targets table '" ++ found
      ++ "' but the node binds table '" ++ expected ++ "'"
  | danglingForeignKey node column table =>
    "node '" ++ node ++ "': column '" ++ column ++ "' references table '" ++ table
      ++ "', which is not bound by any enclosing node"
  | tagOutOfScope node column tag field =>
    "node '" ++ node ++ "': column '" ++ column ++ "' reads '" ++ tag
      ++ "', but the node is applied to single '" ++ field ++ "' field occurrences"
  | unknownTable node table => "node '" ++ node ++ "': unknown table '" ++ table ++ "'"
  | unknownColumn node table column =>
    "node '" ++ node ++ "': table '" ++ table ++ "' has no column '" ++ column ++ "'"
  | notPrimaryKey node column table referenced primaryKey =>
    "node '" ++ node ++ "': column '" ++ column ++ "' references '" ++ table ++ "." ++ referenced
      ++ "', but the primary key of '" ++ table ++ "' is '" ++ primaryKey ++ "'"

end Accession
