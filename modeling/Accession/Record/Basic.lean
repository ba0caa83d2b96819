import Accession.Dict
import Accession.Record.Tag

/-!
# Catalogue records

A record is a list of fields that may repeat.  A field has a code, and holds either one text or
subfields of one character each.

* `Field.value` : the text of a whole field.
* `Place` : the whole record, or one of its fields; what a tag is read from.
* `Place.resolve` : the text that a tag names at a place.
* `Place.occurrences` : the fields of one code below a place.
-/

namespace Accession

/-- One field of a record. -/
structure Field where
  /-- The code of the field. -/
  tag : String
  /-- The text of a field without subfields. -/
  text : Option String
  /-- Subfields by code, in order. -/
  subfields : Dict Char String
  deriving DecidableEq, Repr

namespace Field

/-- A field that holds one text. -/
def control (tag text : String) : Field := ⟨tag, some text, []⟩

/-- A field for subfields. -/
def data (tag : String) : Field := ⟨tag, none, []⟩

/-- Adds a subfield; one that is present keeps its text. -/
def addSubfield (f : Field) (code : Char) (text : String) : Field :=
  { f with subfields := f.subfields.insertNew code text }

/-- The text of a whole field: its own, or those of its subfields with a space between. -/
def value (f : Field) : Option String :=
  match f.text with
  | some text => some text
  | none => if f.subfields.isEmpty then none else some (String.intercalate " " f.subfields.values)

/-- The text that a tag names in this field; there is none for another code. -/
def resolve (f : Field) (tag : Tag) : Option String :=
  if tag.field = f.tag then
    match tag.subfield with
    | some code => f.subfields.get? code
    | none => f.value
  else none

end Field

/-- A catalogue record. -/
structure Record where
  /-- The fields in document order. -/
  fields : List Field
  deriving DecidableEq, Repr

namespace Record

/-- The fields of one code, in document order. -/
def occurrences (r : Record) (code : String) : List Field := r.fields.filter (·.tag = code)

/-- The first field of a code. -/
def first? (r : Record) (code : String) : Option Field := r.fields.find? (·.tag = code)

/-- The text that a tag names in the first field of its code. -/
def resolve (r : Record) (tag : Tag) : Option String :=
  (r.first? tag.field).bind (·.resolve tag)

end Record

/-- What a tag is read from. -/
inductive Place where
  | record (r : Record)
  | field (f : Field)
  deriving DecidableEq, Repr

namespace Place

/-- Fields can be chosen below this place. -/
def isComposite : Place → Bool
  | record _ => true
  | field _ => false

/-- The fields of one code below this place, in document order; a field has none. -/
def occurrences (code : String) : Place → List Place
  | record r => (r.occurrences code).map field
  | field _ => []

/-- The text that a tag names at this place. -/
def resolve (tag : Tag) : Place → Option String
  | record r => r.resolve tag
  | field f => f.resolve tag

end Place

end Accession
