import Accession.Mapping.Error
import Accession.Mapping.Node
import Accession.Text.Digit
import Accession.Text.Identifier
import Accession.Yaml.Value

/-!
# Sources as they are written

* `Mapping.Source.ofText` : a text by its form; three digits are the tag of a field, two
  identifiers around the delimiter of tables are a reference, and anything else is a literal.
* `Mapping.Source.ofYaml` : any value; a mapping of one key says what its value is.
-/

namespace Accession.Mapping.Source

/-- The text is three digits of any script, alone or before the delimiter and one character that
is no line feed. -/
def isTagText (delimiter raw : List Char) : Bool :=
  let (code, rest) := raw.splitAt 3
  code.length == 3 && code.all Text.isDecimalDigit
    && (rest.isEmpty
      || match delimiter.isPrefixOf? rest with
        | some [c] => c != '\n'
        | _ => false)

/-- The text as two identifiers around the delimiter at a place. -/
def splitAt? (delimiter raw : List Char) (place : Nat) : Option (List Char × List Char) :=
  match delimiter.isPrefixOf? (raw.drop place) with
  | some column =>
    if Text.isIdentifier (raw.take place) && Text.isIdentifier column then
      some (raw.take place, column)
    else none
  | none => none

/-- The text as two identifiers around the delimiter, the first as long as can be. -/
def splitReference? (delimiter raw : List Char) : Option (List Char × List Char) :=
  (List.range (raw.length + 1)).reverse.findSome? (splitAt? delimiter raw)

/-- A text that is no tag. -/
def ofPlainText (c : Config) (raw : String) : Source :=
  match splitReference? c.tableDelimiter.toList raw.toList with
  | some (table, column) => foreignKey (String.ofList table) (some (String.ofList column))
  | none => literal (.text raw)

/-- The source that a text gives by its form. -/
def ofText (c : Config) (raw : String) : Source :=
  if isTagText c.fieldDelimiter.toList raw.toList then
    match Tag.parse raw c.fieldDelimiter with
    | some t => tag t
    | none => ofPlainText c raw
  else ofPlainText c raw

/-- A reference that is said to be one: a table, or a table and a column around the delimiter. -/
def ofReference? (c : Config) (raw : String) : Option Source :=
  match Text.split c.tableDelimiter raw with
  | [table] => if table = "" then none else some (foreignKey table none)
  | [table, column] =>
    if table = "" ∨ column = "" then none else some (foreignKey table (some column))
  | _ => none

/-- The constant that a scalar gives; an integer beyond a signed word is a double. -/
def literal? : Yaml → Option Value
  | .text s => some (.text s)
  | .bool b => some (.boolean b)
  | .integer i =>
    if Decimal.fitsWord i then some (.integer i) else some (.float (Float.ofInt i))
  | .float x => some (.float x)
  | _ => none

/-- A value as a source, or the given fault. -/
def orFault {α : Type} (f : ValueFault) : Option α → Except ValueFault α
  | some a => .ok a
  | none => .error f

/-- The source of a mapping of one key. -/
def ofForm (c : Config) (kind value : Yaml) : Except ValueFault Source :=
  match kind.asText? with
  | some "literal" => orFault .noLiteral ((literal? value).map literal)
  | some "tag" =>
    orFault .noTag ((value.asText?.bind fun raw => Tag.parse raw c.fieldDelimiter).map tag)
  | some "fk" => orFault .noForeignKey (value.asText?.bind (ofReference? c))
  | _ => .error .unknownForm

/-- The source that a value gives. -/
def ofYaml (c : Config) : Yaml → Except ValueFault Source
  | .null => .ok deferred
  | .text s => .ok (ofText c s)
  | .mapping [(kind, value)] => ofForm c kind value
  | v => orFault .unsupported ((literal? v).map literal)

end Accession.Mapping.Source
