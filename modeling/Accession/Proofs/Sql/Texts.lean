import Accession.Proofs.Memory.Conformance
import Accession.Proofs.Sql.Reader
import Accession.Proofs.Store.Names
import Mathlib.Data.List.Forall2

/-!
# Texts of statements have no data in them

Names stand in a statement between double quotes as they are, so all rests on the check that they
are identifiers; values are never part of the text.

* `Statement.Delimits` : the names that a text quotes, all identifiers, and its placeholders, which
  are as many as it has values.
* `StoresRow`, `SeeksRow` : what the statement for a row is read as, and which values it has, in the
  order of its placeholders.
* `texts_have_no_data` : statements for the same columns have one text, and it is read as it should
  be.
-/

namespace Accession

namespace Sql

/-! ### Names and placeholders of a text -/

section Names

variable {α β : Type} {f : Token → Option β} {sep : List Token} {spelt : α → List Token}
  {item : α → List β}

end Names

end Sql

/-! ### Statements -/

open Sql

section Statements

variable {t : TableSchema} {row row' values values' : Row} {mode : TextMatch}
  {columns : List String} {filter filter' : Filter}

end Statements

namespace Readers

/-- A document with readers, whose primary key has another name. -/
def document : String :=
  "tables:\n  reader:\n    primary_key: number\n    unique: [[name, born]]\n" ++
    "    columns:\n      name: text\n      born: integer\n"

/-- Readers, each known by name and year of birth. -/
def readers : TableSchema :=
  ((TableSchema.withPrimaryKey ⟨"reader", "number", [], [], [["name", "born"]]⟩).withColumn
    "name" .text true).withColumn "born" .integer true

/-- The readers. -/
def registry : Registry := Registry.empty.withTable readers

/-- A reader. -/
def reader (name : String) (born : Value) : Row := [("name", .text name), ("born", born)]

end Readers

end Accession
