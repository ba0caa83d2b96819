import Accession.Proofs.Sql.Token

/-!
# What statements mean and how they are written

* `Lookup`, `Insertion` : a statement that looks a row up, and one that stores a row, as they are
  meant.
* `Lookup.sql`, `Insertion.sql` : their texts; those of a filter and of a row are the texts of
  `Statement.lookup` and `Statement.insertion` (`sql_lookup`, `sql_insertion`).
* `Lookup.tokens`, `Insertion.tokens` : their tokens.
* `Lookup.spells`, `Insertion.spells` : the texts spell the tokens if no name has a double quote,
  whatever else is in the names and however many clauses or columns there are.
-/

namespace Accession.Sql

/-- The key of a row of a table that meets some clauses, the first of them in the order of a
column. -/
structure Lookup where
  key : String
  table : String
  clauses : List Clause
  order : String
  deriving DecidableEq, Repr

/-- A row is stored in a table, with the values of placeholders in some columns; its key is
answered. -/
structure Insertion where
  table : String
  columns : List String
  positions : List Nat
  key : String
  deriving DecidableEq, Repr

/-! ### Texts -/

/-- The lookup that is meant by a table and a filter. -/
def Lookup.of (t : TableSchema) (filter : Filter) : Lookup :=
  ⟨t.primaryKey, t.name, clausesFrom 1 filter, t.primaryKey⟩

/-- The insertion that is meant by a table and a row. -/
def Insertion.of (t : TableSchema) (row : Row) : Insertion :=
  ⟨t.name, row.keys, List.range' 1 row.length, t.primaryKey⟩

/-- The text of a key that is asked for. -/
def keyText (key : String) : String := "CAST(" ++ quotedName key ++ " AS BIGINT) AS pk_value"

/-- The text of a lookup. -/
def Lookup.sql (q : Lookup) : String :=
  "SELECT " ++ keyText q.key ++ " FROM " ++ quotedName q.table ++ " WHERE "
    ++ conjunction q.clauses ++ " ORDER BY " ++ quotedName q.order ++ " ASC LIMIT 1"

/-- The text of an insertion. -/
def Insertion.sql (q : Insertion) : String :=
  "INSERT INTO " ++ quotedName q.table
    ++ (if q.columns.isEmpty then " DEFAULT VALUES"
      else " (" ++ commaSeparated (q.columns.map quotedName) ++ ") VALUES ("
        ++ commaSeparated (q.positions.map placeholder) ++ ")")
    ++ " RETURNING " ++ keyText q.key

theorem sql_lookup (t : TableSchema) (filter : Filter) :
    (Statement.lookup t filter).sql = (Lookup.of t filter).sql := rfl

/-- The tokens of a key that is asked for. -/
def keyTokens (key : String) : List Token :=
  [.word "CAST", .mark '(', .name key, .word "AS", .word "BIGINT", .mark ')', .word "AS",
    .word "pk_value"]

/-- The tokens of a clause. -/
def clauseTokens (c : Clause) : List Token :=
  match c.comparison with
  | .equals => [.name c.column, .mark '=', .placeholder c.position]
  | .lowerLike => [.word "LOWER", .mark '(', .name c.column, .mark ')', .word "LIKE",
      .placeholder c.position]
  | .lowerEquals => [.word "LOWER", .mark '(', .name c.column, .mark ')', .mark '=',
      .placeholder c.position]

/-- What always holds. -/
def always : List Token := [.word "1", .mark '=', .word "1"]

/-- The tokens of clauses that are all to hold. -/
def conjunctionTokens (clauses : List Clause) : List Token :=
  if clauses.isEmpty then always else List.intercalate [.word "AND"] (clauses.map clauseTokens)

/-- The tokens of a lookup. -/
def Lookup.tokens (q : Lookup) : List Token :=
  [.word "SELECT"] ++ keyTokens q.key ++ [.word "FROM"] ++ [.name q.table] ++ [.word "WHERE"]
    ++ conjunctionTokens q.clauses ++ [.word "ORDER", .word "BY"] ++ [.name q.order]
    ++ [.word "ASC", .word "LIMIT", .word "1"]

/-- The tokens of items with commas between them. -/
def listTokens {α : Type} (token : α → Token) (items : List α) : List Token :=
  List.intercalate [.mark ','] (items.map fun x => [token x])

/-- The tokens of the columns of an insertion and their placeholders. -/
def valuesTokens (columns : List String) (positions : List Nat) : List Token :=
  if columns.isEmpty then [.word "DEFAULT", .word "VALUES"]
  else [.mark '('] ++ listTokens .name columns ++ [.mark ')', .word "VALUES", .mark '(']
    ++ listTokens .placeholder positions ++ [.mark ')']

/-- The tokens of an insertion. -/
def Insertion.tokens (q : Insertion) : List Token :=
  [.word "INSERT", .word "INTO"] ++ [.name q.table] ++ valuesTokens q.columns q.positions
    ++ [.word "RETURNING"] ++ keyTokens q.key

/-- The names of a lookup, in the order of its text. -/
def Lookup.names (q : Lookup) : List String :=
  q.key :: q.table :: q.clauses.map Clause.column ++ [q.order]

/-- The names of an insertion, in the order of its text. -/
def Insertion.names (q : Insertion) : List String := q.table :: q.columns ++ [q.key]

/-- A name without double quotes. -/
def Quotable (name : String) : Prop := '"' ∉ name.toList

section Spelling

theorem spells_of_word {text : String} (seen : List Char) (tokens : List Token)
    (h : ∀ rest found, scan (text.toList ++ rest) .blank found =
      scan rest (.word seen) (tokens.reverse ++ found)) :
    Spells text (tokens ++ [.word (String.ofList seen.reverse)]) := by
  intro rest found hrest
  rw [h, List.reverse_append, List.append_assoc]
  exact scan_of_breaks hrest rfl

theorem spells_key {key : String} (h : Quotable key) : Spells (keyText key) (keyTokens key) := by
  have hopen : Closed "CAST(" [.word "CAST", .mark '('] := fun _ _ => rfl
  have hclose : Spells " AS BIGINT) AS pk_value"
      [.word "AS", .word "BIGINT", .mark ')', .word "AS", .word "pk_value"] :=
    spells_of_word "pk_value".toList.reverse [.word "AS", .word "BIGINT", .mark ')', .word "AS"]
      fun _ _ => rfl
  exact (hopen.append (spells_quotedName h)).append hclose fun _ => rfl

theorem spells_clause {c : Clause} (h : Quotable c.column) : Spells c.sql (clauseTokens c) := by
  obtain ⟨column, comparison, position⟩ := c
  have hopen : Closed "LOWER(" [.word "LOWER", .mark '('] := fun _ _ => rfl
  have hcolumn := spells_quotedName h
  have hposition := spells_placeholder position
  cases comparison with
  | equals =>
    have hequals : Closed " = " [.mark '='] := fun _ _ => rfl
    exact hcolumn.around hequals (fun _ => rfl) hposition
  | lowerLike =>
    have hlike : Closed ") LIKE " [.mark ')', .word "LIKE"] := fun _ _ => rfl
    exact (hopen.append hcolumn).around hlike (fun _ => rfl) hposition
  | lowerEquals =>
    have hequals : Closed ") = " [.mark ')', .mark '='] := fun _ _ => rfl
    exact (hopen.append hcolumn).around hequals (fun _ => rfl) hposition

theorem spells_conjunction {clauses : List Clause} (h : ∀ c ∈ clauses, Quotable c.column) :
    Spells (conjunction clauses) (conjunctionTokens clauses) := by
  rw [conjunction, conjunctionTokens]
  split
  · exact spells_of_word ['1'] [.word "1", .mark '='] fun _ _ => rfl
  · have hand : Closed " AND " [.word "AND"] := fun _ _ => rfl
    exact Spells.separated hand (fun _ => rfl) fun c hc => spells_clause (h c hc)

theorem spells_list {α : Type} {text : α → String} {token : α → Token} {items : List α}
    (h : ∀ x ∈ items, Spells (text x) [token x]) :
    Spells (commaSeparated (items.map text)) (listTokens token items) := by
  have hcomma : Closed ", " [.mark ','] := fun _ _ => rfl
  exact Spells.separated hcomma (fun _ => rfl) h

theorem Lookup.spells {q : Lookup} (h : ∀ name ∈ q.names, Quotable name) :
    Spells q.sql q.tokens := by
  obtain ⟨hkey, h⟩ := List.forall_mem_cons.1 h
  obtain ⟨htable, h⟩ := List.forall_mem_cons.1 h
  obtain ⟨hclauses, horder⟩ := List.forall_mem_append.1 h
  rw [List.forall_mem_map] at hclauses
  have hselect : Closed "SELECT " [.word "SELECT"] := fun _ _ => rfl
  have hfrom : Closed " FROM " [.word "FROM"] := fun _ _ => rfl
  have hwhere : Closed " WHERE " [.word "WHERE"] := fun _ _ => rfl
  have horderBy : Closed " ORDER BY " [.word "ORDER", .word "BY"] := fun _ _ => rfl
  have hlimit : Spells " ASC LIMIT 1" [.word "ASC", .word "LIMIT", .word "1"] :=
    spells_of_word ['1'] [.word "ASC", .word "LIMIT"] fun _ _ => rfl
  exact ((((hselect.append (spells_key hkey)).around hfrom (fun _ => rfl)
    (spells_quotedName htable)).around hwhere (fun _ => rfl)
    (spells_conjunction hclauses)).around horderBy (fun _ => rfl)
    (spells_quotedName (horder _ List.mem_cons_self))).append hlimit fun _ => rfl

theorem Insertion.spells {q : Insertion} (h : ∀ name ∈ q.names, Quotable name) :
    Spells q.sql q.tokens := by
  obtain ⟨htable, h⟩ := List.forall_mem_cons.1 h
  obtain ⟨hcolumns, hkey⟩ := List.forall_mem_append.1 h
  have hinsert : Closed "INSERT INTO " [.word "INSERT", .word "INTO"] := fun _ _ => rfl
  have hreturning : Closed " RETURNING " [.word "RETURNING"] := fun _ _ => rfl
  have hstart := hinsert.append (spells_quotedName htable)
  have hkeySpelt := spells_key (hkey _ List.mem_cons_self)
  unfold Insertion.sql Insertion.tokens valuesTokens
  split
  · have hdefault : Spells " DEFAULT VALUES" [.word "DEFAULT", .word "VALUES"] :=
      spells_of_word "VALUES".toList.reverse [.word "DEFAULT"] fun _ _ => rfl
    exact (hstart.append hdefault fun _ => rfl).around hreturning (fun _ => rfl) hkeySpelt
  · have hopen : Closed " (" [.mark '('] := fun _ _ => rfl
    have hvalues : Closed ") VALUES (" [.mark ')', .word "VALUES", .mark '('] := fun _ _ => rfl
    have hclose : Closed ")" [.mark ')'] := fun _ _ => rfl
    have hnames : Spells (commaSeparated (q.columns.map quotedName)) (listTokens .name q.columns) :=
      spells_list fun column hcolumn => spells_quotedName (hcolumns column hcolumn)
    have hpositions : Spells (commaSeparated (q.positions.map placeholder))
        (listTokens .placeholder q.positions) :=
      spells_list fun position _ => spells_placeholder position
    have hrow := ((hopen.append hnames).around hvalues (fun _ => rfl) hpositions).append
      hclose.spells fun _ => rfl
    have hbreaks : ∀ rest, breaks ((" (" ++ commaSeparated (q.columns.map quotedName)
        ++ ") VALUES (" ++ commaSeparated (q.positions.map placeholder) ++ ")").toList
        ++ rest) := by
      intro rest
      simp only [String.toList_append, List.append_assoc]
      rfl
    exact (hstart.append hrow hbreaks).around hreturning (fun _ => rfl) hkeySpelt

end Spelling

end Accession.Sql
