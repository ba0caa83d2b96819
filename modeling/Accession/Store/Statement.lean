import Accession.Store.Filter
import Accession.Store.Schema

/-!
# Statements for a database

A statement is a text with numbered placeholders, and the values that stand for them, in order.
Names are quoted; values are never part of the text.

* `Statement.insertion` : stores a row and answers its key.
* `Statement.lookup` : the least key of a row that meets a filter.
* `escapePattern` : a text as a pattern that matches only itself.
-/

namespace Accession

/-- A statement and the values of its placeholders. -/
structure Statement where
  sql : String
  binds : List Value

/-- How a column is compared with a placeholder. -/
inductive Comparison where
  /-- The value equals that of the placeholder. -/
  | equals
  /-- The text in lower case matches the pattern of the placeholder. -/
  | lowerLike
  /-- The text in lower case equals that of the placeholder. -/
  | lowerEquals
  deriving DecidableEq, Repr

/-- A comparison of a column with the placeholder of a position. -/
structure Clause where
  column : String
  comparison : Comparison
  position : Nat
  deriving DecidableEq, Repr

/-! ### Parts of a statement -/

/-- A name between double quotes. -/
def quotedName (name : String) : String := "\"" ++ name ++ "\""

/-- The placeholder of a position, counted from one. -/
def placeholder (position : Nat) : String := "$" ++ toString position

/-- The key of a row as an integer, under a name of its own. -/
def keyColumn (t : TableSchema) : String :=
  "CAST(" ++ quotedName t.primaryKey ++ " AS BIGINT) AS pk_value"

/-- Parts with commas between them. -/
def commaSeparated (parts : List String) : String := String.intercalate ", " parts

/-- A character in a pattern: the three that have a meaning there follow a backslash. -/
def escapeChar (c : Char) : List Char :=
  if c = '%' ∨ c = '_' ∨ c = '\\' then ['\\', c] else [c]

/-- A text as a pattern that matches only itself. -/
def escapePattern (text : List Char) : List Char := text.flatMap escapeChar

/-- The pattern of the texts in which a needle occurs. -/
def containsPattern (needle : List Char) : List Char := '%' :: escapePattern needle ++ ['%']

/-- The text of a clause. -/
def Clause.sql (c : Clause) : String :=
  match c.comparison with
  | .equals => quotedName c.column ++ " = " ++ placeholder c.position
  | .lowerLike => "LOWER(" ++ quotedName c.column ++ ") LIKE " ++ placeholder c.position
  | .lowerEquals => "LOWER(" ++ quotedName c.column ++ ") = " ++ placeholder c.position

namespace Condition

/-- How a condition compares its column. -/
def comparison : Condition → Comparison
  | equals _ => .equals
  | text _ .contains => .lowerLike
  | text _ .exact => .lowerEquals

/-- What a condition compares its column with. -/
def bind : Condition → Value
  | equals value => value
  | text needle .contains =>
    .text (String.ofList (containsPattern (Text.lowered needle.toList)))
  | text needle .exact => .text (Text.lower needle)

end Condition

/-- The clauses of a filter, the first with the placeholder of a position. -/
def clausesFrom : (position : Nat) → Filter → List Clause
  | _, [] => []
  | position, (column, condition) :: rest =>
    ⟨column, condition.comparison, position⟩ :: clausesFrom (position + 1) rest

/-- Clauses that are all to hold; without any, one that always holds. -/
def conjunction (clauses : List Clause) : String :=
  if clauses.isEmpty then "1 = 1" else String.intercalate " AND " (clauses.map Clause.sql)

namespace Statement

/-- Stores a row whose values are already coerced, and answers its key. -/
def insertion (t : TableSchema) (row : Row) : Statement where
  sql :=
    "INSERT INTO " ++ quotedName t.name
      ++ (if row.isEmpty then " DEFAULT VALUES"
        else " (" ++ commaSeparated (row.keys.map quotedName) ++ ") VALUES ("
          ++ commaSeparated ((List.range' 1 row.length).map placeholder) ++ ")")
      ++ " RETURNING " ++ keyColumn t
  binds := row.values

/-- The least key of a row that meets a filter. -/
def lookup (t : TableSchema) (filter : Filter) : Statement where
  sql :=
    "SELECT " ++ keyColumn t ++ " FROM " ++ quotedName t.name ++ " WHERE "
      ++ conjunction (clausesFrom 1 filter) ++ " ORDER BY " ++ quotedName t.primaryKey
      ++ " ASC LIMIT 1"
  binds := filter.map fun c => c.2.bind

end Statement

end Accession
