import Accession.Text.Blank
import Accession.Text.Search

/-!
# Tags

A `Tag` names the value of a field, or of one of its subfields: `650`, or `650$a` with the
delimiter `$`.

* `Tag.parse` : reads a tag, with white space around it and any non-empty delimiter.
* `Tag.format` : writes a tag.
-/

namespace Accession

/-- The address of a field or of one of its subfields. -/
structure Tag where
  /-- The code of the field. -/
  field : String
  /-- The code of the subfield. -/
  subfield : Option Char
  deriving DecidableEq, Repr

namespace Tag

/-- Reads the code of a field, or the codes of a field and of a subfield around the delimiter.
The code of a field is not empty, and that of a subfield is one character. -/
def parse (raw delimiter : String) : Option Tag :=
  let chars := Text.trimmed raw.toList
  if chars = [] ∨ delimiter = "" then none
  else match Text.pieces delimiter.toList chars with
    | [field] => if field = [] then none else some ⟨String.ofList field, none⟩
    | [field, [code]] => if field = [] then none else some ⟨String.ofList field, some code⟩
    | _ => none

/-- Writes a tag. -/
def format (tag : Tag) (delimiter : String) : String :=
  match tag.subfield with
  | none => tag.field
  | some code => tag.field ++ delimiter ++ code.toString

/-- The delimiter of a tag on its own. -/
def defaultDelimiter : String := "$"

/-- The text of a tag on its own. -/
def display (tag : Tag) : String := tag.format defaultDelimiter

end Tag

end Accession
