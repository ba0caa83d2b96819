import Accession.Proofs.Memory.Conformance
import Accession.Proofs.Sql.Pattern
import Accession.Proofs.Sql.Reader

/-!
# The two lookups agree

A lookup asked of a database and the lookup in memory give one answer, if the table of the database
holds the rows of the table in memory.

In the database a column may be without a value, so what a clause says about a row is true, false,
or not known, and only a row of which all clauses together are true is found.  Of those the one with
the least key is answered.  In memory the clauses are searched for the first row that meets them;
that is the same row, because the keys of a table ascend.

* `Clause.truth?`, `conjunctionTruth?` : what clauses say about a row.  A column that does not
  exist, a placeholder without a value, or the lower case of what is no text, is an error.
* `Lookup.Answers` : the answers that a database may give to a lookup.
* `TableSchema.dataRow` : a row of the store in memory as a database holds it.
* `truth_of_filter` : a row is found in the database exactly when it meets the filter.
* `lookups_agree` : the answers agree.
-/

namespace Accession.Sql

/-! ### What clauses say -/

/-- What clauses say about a row in which columns may have no value. -/
inductive Truth where
  | yes
  | no
  | unknown
  deriving DecidableEq, Repr

namespace Truth

/-- The truth of what is known. -/
def ofBool : Bool → Truth
  | true => yes
  | false => no

/-- Both are true. -/
def and : Truth → Truth → Truth
  | no, _ => no
  | _, no => no
  | unknown, _ => unknown
  | _, unknown => unknown
  | yes, yes => yes

theorem and_eq_yes {a b : Truth} : a.and b = yes ↔ a = yes ∧ b = yes := by
  cases a <;> cases b <;> decide

theorem ofBool_eq_yes {b : Bool} : ofBool b = yes ↔ b := by
  cases b <;> decide

end Truth

/-- A row of a database: the value of each column, if it has one; there may be no such column. -/
abbrev DataRow := String → Option (Option Value)

/-- The value of a placeholder; they are counted from one. -/
def bindAt? (binds : List Value) : (position : Nat) → Option Value
  | 0 => none
  | n + 1 => binds[n]?

/-- A text in lower case. -/
def lowered? : Value → Option String
  | .text s => some (Text.lower s)
  | _ => none

/-- What a comparison says of a value and that of a placeholder. -/
def compare? : Comparison → Value → Value → Option Bool
  | .equals, v, w => some (v == w)
  | .lowerEquals, v, w => (lowered? v).map fun s => Value.text s == w
  | .lowerLike, v, .text pattern => (lowered? v).bind fun s => like? pattern.toList s.toList
  | .lowerLike, _, _ => none

/-- What a clause says about a row; nothing is known of a column without a value. -/
def truth? (binds : List Value) (row : DataRow) (c : Clause) : Option Truth :=
  match row c.column, bindAt? binds c.position with
  | some (some v), some w => (compare? c.comparison v w).map .ofBool
  | some none, some _ => some .unknown
  | _, _ => none

/-- What clauses say together. -/
def conjunctionTruth? (binds : List Value) (row : DataRow) : List Clause → Option Truth
  | [] => some .yes
  | c :: clauses => do
    let first ← truth? binds row c
    let rest ← conjunctionTruth? binds row clauses
    pure (first.and rest)

/-- The integer in a column. -/
def integerAt? (row : DataRow) (column : String) : Option Int :=
  match row column with
  | some (some (.integer i)) => some i
  | _ => none

namespace Lookup

/-- The clauses are true of the row. -/
def Finds (q : Lookup) (binds : List Value) (row : DataRow) : Prop :=
  conjunctionTruth? binds row q.clauses = some .yes

/-- The answers that a database may give: no key if no row is found, else the key of a row that is
found and comes before no other in the order. -/
inductive Answers (q : Lookup) (binds : List Value) (db : String → List DataRow) :
    Option Int → Prop
  | none (hread : ∀ row ∈ db q.table, (conjunctionTruth? binds row q.clauses).isSome)
      (hnone : ∀ row ∈ db q.table, ¬ q.Finds binds row) : Answers q binds db none
  | some (hread : ∀ row ∈ db q.table, (conjunctionTruth? binds row q.clauses).isSome)
      {row : DataRow} {key place : Int} (hrow : row ∈ db q.table) (hfinds : q.Finds binds row)
      (hkey : integerAt? row q.key = some key) (hplace : integerAt? row q.order = some place)
      (hleast : ∀ other ∈ db q.table, q.Finds binds other →
        ∃ place', integerAt? other q.order = some place' ∧ place ≤ place') :
      Answers q binds db (some key)

/-- There is only one answer where the order is that of the keys. -/
theorem Answers.unique {q : Lookup} {binds : List Value} {db : String → List DataRow}
    {a b : Option Int} (horder : q.order = q.key) (ha : q.Answers binds db a)
    (hb : q.Answers binds db b) : a = b := by
  cases ha with
  | none _ hnone => cases hb with
    | none => rfl
    | some _ hrow hfinds => exact absurd hfinds (hnone _ hrow)
  | @some _ row key place hrow hfinds hkey hplace hleast => cases hb with
    | none _ hnone => exact absurd hfinds (hnone _ hrow)
    | @some _ row' key' place' hrow' hfinds' hkey' hplace' hleast' =>
      obtain ⟨p, hp, hle⟩ := hleast row' hrow' hfinds'
      obtain ⟨p', hp', hle'⟩ := hleast' row hrow hfinds
      rw [horder] at hplace hplace' hp hp'
      cases hkey.symm.trans hplace
      cases hkey'.symm.trans hplace'
      cases hkey'.symm.trans hp
      cases hkey.symm.trans hp'
      exact congrArg Option.some (Int.le_antisymm hle hle')

end Lookup

end Sql

/-! ### Rows of the store in memory -/

open Sql

namespace TableSchema

/-- A stored row as a database holds it: the key in the column of the primary key, and no value
where the row has none. -/
def dataRow (t : TableSchema) (stored : StoredRow) : DataRow := fun column =>
  if column = t.primaryKey then some (some (.integer stored.key))
  else if t.hasColumn column then some (stored.values.get? column)
  else none

/-- The conditions are on declared columns other than the primary key, and those on texts are on
columns of texts. -/
def Searchable (t : TableSchema) (filter : Filter) : Prop :=
  ∀ c ∈ filter, c.1 ≠ t.primaryKey ∧ t.hasColumn c.1 ∧
    (c.2.comparison ≠ .equals → t.columnType? c.1 = some .text)

variable {t : TableSchema} {stored : StoredRow} {column : String}

theorem integerAt?_dataRow (t : TableSchema) (stored : StoredRow) :
    integerAt? (t.dataRow stored) t.primaryKey = some stored.key := by
  rw [integerAt?, dataRow, if_pos rfl]

theorem dataRow_of_ne (hkey : column ≠ t.primaryKey) (hcolumn : t.hasColumn column) :
    t.dataRow stored column = some (stored.values.get? column) := by
  rw [dataRow, if_neg hkey, if_pos hcolumn]

/-- In a column of texts a stored value is a text. -/
theorem text_of_conforms {value : Value} (h : t.Conforms stored.values)
    (htype : t.columnType? column = some .text) (hvalue : stored.values.get? column = some value) :
    ∃ s, value = .text s := by
  obtain ⟨c, hc, hkind⟩ := h.declared _ (Dict.mem_of_get? hvalue)
  rw [columnType?, hc] at htype
  cases value with
  | text s => exact ⟨s, rfl⟩
  | integer | float | boolean => simp [← hkind, Value.type] at htype

end TableSchema

namespace Sql

variable {t : TableSchema} {filter : Filter} {stored : StoredRow} {column : String}
  {condition : Condition}

/-- A comparison with what a condition is compared with says whether the condition holds. -/
theorem compare?_bind (condition : Condition) (value : Value)
    (htext : condition.comparison ≠ .equals → ∃ s, value = .text s) :
    compare? condition.comparison value condition.bind = some (condition.holds value) := by
  cases condition with
  | equals expected => rfl
  | text needle mode =>
    obtain ⟨s, rfl⟩ := htext (by cases mode <;> exact Comparison.noConfusion)
    cases mode with
    | contains =>
      simp only [Condition.comparison, Condition.bind, compare?, lowered?, Option.bind_some,
        String.toList_ofList, Text.lower, like?_containsPattern]
      rfl
    | exact =>
      have hequal : (Value.text (Text.lower s) == Value.text (Text.lower needle)) =
          (Text.lowered s.toList == Text.lowered needle.toList) := by
        rw [Bool.eq_iff_iff]
        exact (beq_iff_eq (a := Text.lower s)).trans (String.ofList_inj.trans beq_iff_eq.symm)
      exact congrArg some hequal

/-- A clause is true of a row if the row has a value there and meets the condition. -/
theorem truth?_clause (binds : List Value) (position : Nat) (hkey : column ≠ t.primaryKey)
    (hcolumn : t.hasColumn column)
    (htext : condition.comparison ≠ .equals → t.columnType? column = some .text)
    (hrow : t.Conforms stored.values) (hbind : bindAt? binds position = some condition.bind) :
    ∃ truth, truth? binds (t.dataRow stored) ⟨column, condition.comparison, position⟩ =
      some truth ∧
      (truth = .yes ↔ ∃ v, stored.values.get? column = some v ∧ condition.holds v) := by
  rw [truth?, TableSchema.dataRow_of_ne hkey hcolumn, hbind]
  cases hvalue : stored.values.get? column with
  | none => exact ⟨.unknown, rfl, by simp⟩
  | some v =>
    have hcompare := compare?_bind condition v fun h =>
      TableSchema.text_of_conforms hrow (htext h) hvalue
    refine ⟨.ofBool (condition.holds v), by simp [hcompare], ?_⟩
    rw [Truth.ofBool_eq_yes]
    simp

/-- **A row is found exactly when it meets the filter**, and no clause is an error. -/
theorem truth_of_filter (before : List Value) (hfilter : t.Searchable filter)
    (hrow : t.Conforms stored.values) :
    ∃ truth, conjunctionTruth? (before ++ filter.map fun c => c.2.bind) (t.dataRow stored)
        (clausesFrom (before.length + 1) filter) = some truth ∧
      (truth = .yes ↔ filter.holds stored.values) := by
  induction filter generalizing before with
  | nil => exact ⟨.yes, rfl, by simp [Filter.holds]⟩
  | cons c filter ih =>
    obtain ⟨column, condition⟩ := c
    obtain ⟨⟨hkey, hcolumn, htext⟩, hrest⟩ := List.forall_mem_cons.1 hfilter
    obtain ⟨first, hfirst, hmeets⟩ :=
      truth?_clause (before ++ condition.bind :: filter.map fun c => c.2.bind) (before.length + 1)
        hkey hcolumn htext hrow (by simp [bindAt?])
    -- the rest is read after one value more
    obtain ⟨rest, hrestTruth, hmeetsRest⟩ := ih (before ++ [condition.bind]) hrest
    rw [List.append_assoc, List.length_append] at hrestTruth
    refine ⟨first.and rest, ?_, ?_⟩
    · exact Option.bind_eq_some_iff.2 ⟨first, hfirst,
        Option.bind_eq_some_iff.2 ⟨rest, hrestTruth, rfl⟩⟩
    · rw [Truth.and_eq_yes, hmeets, hmeetsRest, Filter.holds_cons]

section Stored

variable {rows : List StoredRow} {db : String → List DataRow}

/-- The first row that meets the filter has the least key of those that do. -/
theorem answers_first (hfilter : t.Searchable filter)
    (hrows : ∀ stored ∈ rows, t.Conforms stored.values)
    (hsorted : rows.Pairwise fun a b => a.key < b.key)
    (hdb : (db t.name).Perm (rows.map t.dataRow)) :
    (Lookup.of t filter).Answers (filter.map fun c => c.2.bind) db
      ((rows.find? fun row => filter.holds row.values).map StoredRow.key) := by
  have hmem : ∀ row, row ∈ db t.name ↔ ∃ stored ∈ rows, t.dataRow stored = row := fun row =>
    hdb.mem_iff.trans List.mem_map
  have htruth : ∀ stored ∈ rows, ∃ truth, conjunctionTruth? (filter.map fun c => c.2.bind)
      (t.dataRow stored) (clausesFrom 1 filter) = some truth ∧
      (truth = .yes ↔ filter.holds stored.values) := fun stored hstored =>
    truth_of_filter [] hfilter (hrows stored hstored)
  have hread : ∀ row ∈ db t.name, (conjunctionTruth? (filter.map fun c => c.2.bind) row
      (clausesFrom 1 filter)).isSome := by
    intro row hrow
    obtain ⟨stored, hstored, rfl⟩ := (hmem row).1 hrow
    obtain ⟨truth, h, -⟩ := htruth stored hstored
    exact Option.isSome_of_eq_some h
  have hfinds : ∀ stored ∈ rows, (Lookup.of t filter).Finds (filter.map fun c => c.2.bind)
      (t.dataRow stored) ↔ filter.holds stored.values := by
    intro stored hstored
    obtain ⟨truth, h, hyes⟩ := htruth stored hstored
    rw [← hyes, Lookup.Finds, Lookup.of, h, Option.some.injEq]
  cases hfirst : rows.find? fun row => filter.holds row.values with
  | none =>
    rw [List.find?_eq_none] at hfirst
    refine .none hread fun row hrow h => ?_
    obtain ⟨stored, hstored, rfl⟩ := (hmem row).1 hrow
    exact hfirst stored hstored ((hfinds stored hstored).1 h)
  | some stored =>
    have hstored := List.mem_of_find?_eq_some hfirst
    have hholds := List.find?_some hfirst
    refine .some hread ((hmem _).2 ⟨stored, hstored, rfl⟩) ((hfinds stored hstored).2 hholds)
      (TableSchema.integerAt?_dataRow t stored) (TableSchema.integerAt?_dataRow t stored) ?_
    intro row hrow h
    obtain ⟨other, hother, rfl⟩ := (hmem row).1 hrow
    exact ⟨other.key, TableSchema.integerAt?_dataRow t other,
      Memory.key_le_of_find? hsorted hfirst hother ((hfinds other hother).1 h)⟩

end Stored

/-- **The two lookups agree.**  The table of a database holds the rows that the table in memory has
after some requests.  Then the lookup that is meant by a filter has one answer in the database: the
one in memory.  Its text is that of the statement, and it is what a database reads from that text,
if no name in it has a double quote. -/
theorem lookups_agree {r : Registry} {requests : List Request} (hs : ∀ q ∈ requests, q.On r)
    (ht : r.get? t.name = some t) (hfilter : t.Searchable filter) (db : String → List DataRow)
    (hdb : (db t.name).Perm (((Memory.run r requests .empty).rows t.name).map t.dataRow)) :
    let meant := Lookup.of t filter
    let statement := Statement.lookup t filter
    (∀ answer, meant.Answers statement.binds db answer ↔
      answer = (Memory.run r requests .empty).find t filter) ∧
    statement.sql = meant.sql ∧
    ((∀ name ∈ meant.names, Quotable name) → Lookup.read? statement.sql = some meant) := by
  intro meant statement
  have hanswers : meant.Answers statement.binds db ((Memory.run r requests .empty).find t filter) :=
    answers_first hfilter ((Memory.conforming_run hs).rows t.name t ht)
      ((Memory.ascending_run hs).sorted t.name) hdb
  refine ⟨fun answer => ⟨fun h => h.unique rfl hanswers, fun h => h ▸ hanswers⟩,
    sql_lookup t filter, fun hnames => ?_⟩
  rw [sql_lookup]
  exact Lookup.read?_sql hnames

namespace Books

/-- Books with their titles and editions. -/
def books : TableSchema :=
  ((TableSchema.new "book").withColumn "title" .text true).withColumn "edition" .integer true

/-- The books. -/
def registry : Registry := Registry.empty.withTable books

/-- A book of the second edition. -/
def book (title : String) : Row := [("title", .text title), ("edition", .integer 2)]

/-- Five books, the third without a title; the first of them is taken back. -/
def history : List Request :=
  [.call .begin, .call (.insert books (book "100% Lean")), .call .rollback,
    .upsert .exact "book" (book "1000 Lean"), .upsert .exact "book" [("edition", .integer 2)],
    .upsert .exact "book" (book "At 100% LEAN"), .upsert .exact "book" (book "100% lean")]

/-- Titles with a per cent sign, in the second edition. -/
def wanted : Filter := [("title", .text "0% L" .contains), ("edition", .equals (.integer 2))]

/-- The books in a database, latest first. -/
def db (table : String) : List DataRow :=
  (((Memory.run registry history .empty).rows table).map books.dataRow).reverse

/-- The per cent sign is none of the pattern's, and of two books the earlier is found. -/
theorem book_found : (∀ q ∈ history, q.On registry) ∧ registry.get? "book" = some books ∧
    books.Searchable wanted ∧
    (db "book").Perm (((Memory.run registry history .empty).rows "book").map books.dataRow) ∧
    (Memory.run registry history .empty).find books wanted = some 4 ∧
    (Lookup.of books wanted).Answers (Statement.lookup books wanted).binds db (some 4) ∧
    Lookup.read? (Statement.lookup books wanted).sql = some (Lookup.of books wanted) := by
  have hs : ∀ q ∈ history, q.On registry := by decide +kernel
  have ht : registry.get? "book" = some books := by decide +kernel
  have hfilter : books.Searchable wanted := by
    simp only [TableSchema.Searchable]
    decide +kernel
  have hdb : (db "book").Perm
      (((Memory.run registry history .empty).rows "book").map books.dataRow) :=
    List.reverse_perm _
  have hfind : (Memory.run registry history .empty).find books wanted = some 4 := by
    decide +kernel
  obtain ⟨hanswers, -, hread⟩ := lookups_agree hs ht hfilter db hdb
  refine ⟨hs, ht, hfilter, hdb, hfind, (hanswers _).2 hfind.symm, hread ?_⟩
  simp only [Quotable]
  decide +kernel

end Books

end Sql

end Accession
