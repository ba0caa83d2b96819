import Accession.Record.Tag
import Accession.Store.Value

/-!
# The nodes of a mapping

A mapping is a tree.  Each node fills the columns of at most one table, and its children are
applied to what the node is applied to.

* `Mapping.Source` : where the value of a column comes from.
* `Mapping.Node` : a node; `Node.withBinding` and `Node.withChild` build it step by step.
* `Node.nodes` : a node and those below it.
* `Node.fieldCodes` : the codes of the fields that a node reads.
* `Node.fanOutField?` : the field over whose occurrences a node is repeated.
-/

namespace Accession.Mapping

/-- Where the value of a column comes from. -/
inductive Source where
  /-- A constant. -/
  | literal (value : Value)
  /-- The text that a tag names. -/
  | tag (tag : Tag)
  /-- The key of the nearest row of a table around. -/
  | foreignKey (table : String) (column : Option String)
  /-- Nowhere; the column is left empty. -/
  | deferred

/-- A node of a mapping. -/
structure Node where
  name : String
  /-- The table whose columns are bound. -/
  table : Option String
  /-- The sources of columns, in the order in which they were bound. -/
  bindings : Dict String Source
  /-- Nodes below this one, by key. -/
  children : List (String × Node)
  /-- Columns that were bound for another table, with that table. -/
  conflicts : List (String × String)

/-- The codes in ascending order, with one more among them. -/
def insertCode (code : String) : List String → List String
  | [] => [code]
  | c :: rest =>
    if code = c then c :: rest
    else if code < c then code :: c :: rest
    else c :: insertCode code rest

namespace Source

/-- The code of the field that a source reads. -/
def fieldCode? : Source → Option String
  | tag t => some t.field
  | _ => none

end Source

namespace Node

/-- A node that binds nothing. -/
def new (name : String) : Node := ⟨name, none, [], [], []⟩

/-- Binds a column of a table.  The first binding settles the table of the node; a column of
another table is set apart. -/
def withBinding (n : Node) (table column : String) (source : Source) : Node :=
  match n.table with
  | none => { n with table := some table, bindings := n.bindings.insert column source }
  | some t =>
    if t = table then { n with bindings := n.bindings.insert column source }
    else { n with conflicts := n.conflicts ++ [(column, table)] }

/-- Adds a node below this one. -/
def withChild (n : Node) (key : String) (child : Node) : Node :=
  { n with children := Dict.insert n.children key child }

/-- The codes of the fields that the node reads, each once, in ascending order. -/
def fieldCodes (n : Node) : List String :=
  (n.bindings.values.filterMap Source.fieldCode?).foldl (fun codes c => insertCode c codes) []

/-- The field over whose occurrences the node is repeated: the only one that it reads. -/
def fanOutField? (n : Node) : Option String :=
  match n.fieldCodes with
  | [code] => some code
  | _ => none

theorem children_withBinding (n : Node) (table column : String) (source : Source) :
    (n.withBinding table column source).children = n.children := by
  rw [withBinding]
  split
  · rfl
  · split <;> rfl

theorem mem_insertCode {c code : String} {codes : List String} :
    c ∈ insertCode code codes ↔ c = code ∨ c ∈ codes := by
  induction codes with
  | nil => simp [insertCode]
  | cons d codes ih =>
    rw [insertCode]
    split
    · next h => simp [h]
    · split
      · rw [List.mem_cons]
      · rw [List.mem_cons, ih, List.mem_cons, or_left_comm]

theorem mem_foldl_insertCode {c : String} {codes found : List String} :
    c ∈ codes.foldl (fun codes c => insertCode c codes) found ↔ c ∈ codes ∨ c ∈ found := by
  induction codes generalizing found with
  | nil => simp
  | cons d codes ih =>
    rw [List.foldl_cons, ih, mem_insertCode, List.mem_cons, or_left_comm, or_assoc]

theorem mem_fieldCodes {c : String} {n : Node} :
    c ∈ n.fieldCodes ↔ c ∈ n.bindings.values.filterMap Source.fieldCode? := by
  simp [fieldCodes, mem_foldl_insertCode]

theorem foldl_insertCode_same {code : String} {codes : List String} (h : ∀ c ∈ codes, c = code) :
    codes.foldl (fun codes c => insertCode c codes) [code] = [code] := by
  induction codes with
  | nil => rfl
  | cons c codes ih =>
    obtain ⟨rfl, h⟩ := List.forall_mem_cons.1 h
    rw [List.foldl_cons, insertCode, if_pos rfl, ih h]

/-- The node is repeated over a field when its tags name that field and no other. -/
theorem fanOutField?_eq_some {n : Node} {code : String} :
    n.fanOutField? = some code ↔
      code ∈ n.bindings.values.filterMap Source.fieldCode? ∧
        ∀ c ∈ n.bindings.values.filterMap Source.fieldCode?, c = code := by
  constructor
  · intro h
    have hcodes : n.fieldCodes = [code] := by
      unfold fanOutField? at h
      split at h
      · next c hc => rw [hc, Option.some.inj h]
      · cases h
    simp only [← mem_fieldCodes, hcodes]
    simp
  · rintro ⟨hmem, hall⟩
    have hcodes : n.fieldCodes = [code] := by
      unfold fieldCodes
      cases hl : n.bindings.values.filterMap Source.fieldCode? with
      | nil => simp [hl] at hmem
      | cons c codes =>
        rw [hl] at hall
        obtain ⟨rfl, hall⟩ := List.forall_mem_cons.1 hall
        exact foldl_insertCode_same hall
    rw [fanOutField?, hcodes]

mutual

/-- A node and those below it. -/
def nodes : Node → List Node
  | ⟨name, table, bindings, children, conflicts⟩ =>
    ⟨name, table, bindings, children, conflicts⟩ :: nodesOf children

/-- Some nodes and those below them. -/
def nodesOf : List (String × Node) → List Node
  | [] => []
  | (_, n) :: rest => nodes n ++ nodesOf rest

end

/-- The tables of a node and of those below, added to those found before. -/
def addTables : Node → List String → List String
  | ⟨_, table, _, children, _⟩, found =>
    addTablesOf children
      (match table with
      | some t => if found.contains t then found else found ++ [t]
      | none => found)
where
  /-- The same for nodes with their keys. -/
  addTablesOf : List (String × Node) → List String → List String
  | [], found => found
  | (_, n) :: rest, found => addTablesOf rest (addTables n found)

/-- The tables of a node and of those below, in the order in which they are first met. -/
def tables (n : Node) : List String := n.addTables []

end Node

end Accession.Mapping
