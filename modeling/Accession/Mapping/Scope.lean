import Accession.Mapping.Error
import Accession.Mapping.Node

/-!
# Scopes of a mapping

A tree is checked from the root down, with the tables of the nodes around, and with the field to
whose occurrences the nodes are applied, if there is one.

* `Mapping.Node.fault?` : the first fault of a tree; columns are bound for one table in each node,
  references name tables of nodes around, and tags name a field that is within reach.
* `Mapping.Node.warnings` : the nodes that read several fields and are not applied to occurrences
  of one of them.
* `Mapping` : a tree without fault and usable settings; `Mapping.ofTree` checks both.
-/

namespace Accession

namespace Mapping

/-- The name and the path of the root. -/
def rootName : String := "mapping"

/-- The path of a child. -/
def childPath (path key : String) : String := path ++ "/" ++ key

/-- What is known of the place of a node in its tree. -/
structure Scope where
  /-- The path of the node. -/
  path : String
  /-- The tables of the nodes around, the nearest first. -/
  enclosing : List String
  /-- The field to whose single occurrences the node is applied. -/
  field : Option String
  deriving DecidableEq, Repr

namespace Scope

/-- The scope of the root. -/
def root : Scope := ⟨rootName, [], none⟩

/-- The scope of the child of a node under a key. -/
def below (s : Scope) (n : Node) (key : String) : Scope where
  path := childPath s.path key
  enclosing := n.table.toList ++ s.enclosing
  field := s.field <|> n.fanOutField?

end Scope

/-! ### Faults -/

/-- The fault of a binding. -/
def bindingFault? (c : Config) (s : Scope) : String × Source → Option MappingError
  | (column, .foreignKey table _) =>
    if s.enclosing.contains table then none
    else some (.danglingForeignKey s.path column table)
  | (column, .tag tag) =>
    match s.field with
    | none => none
    | some field =>
      if field = tag.field then none
      else some (.tagOutOfScope s.path column (tag.format c.fieldDelimiter) field)
  | _ => none

namespace Node

/-- The fault of the columns that were set apart. -/
def conflictFault? (s : Scope) (n : Node) : Option MappingError :=
  match n.conflicts, n.table with
  | (column, found) :: _, some expected => some (.tableMismatch s.path column expected found)
  | _, _ => none

/-- The first fault of a node on its own. -/
def ownFault? (c : Config) (s : Scope) (n : Node) : Option MappingError :=
  match n.conflictFault? s with
  | some e => some e
  | none => n.bindings.findSome? (bindingFault? c s)

mutual

/-- The first fault of a tree, each node before those below it. -/
def fault? (c : Config) (s : Scope) : Node → Option MappingError
  | ⟨name, table, bindings, children, conflicts⟩ =>
    let n : Node := ⟨name, table, bindings, children, conflicts⟩
    match n.ownFault? c s with
    | some e => some e
    | none => childrenFault? c (s.below n) children

/-- The first fault of the trees below a node. -/
def childrenFault? (c : Config) (below : String → Scope) : List (String × Node) →
    Option MappingError
  | [] => none
  | (key, n) :: rest =>
    match fault? c (below key) n with
    | some e => some e
    | none => childrenFault? c below rest

end

/-! ### Warnings -/

/-- The node reads several fields, and is applied to what is no occurrence of one of them. -/
def readsAcross (s : Scope) (n : Node) : Bool := s.field.isNone && decide (1 < n.fieldCodes.length)

mutual

/-- The paths of the nodes of a tree that read several fields of a whole record. -/
def readersAcross (s : Scope) : Node → List String
  | ⟨name, table, bindings, children, conflicts⟩ =>
    let n : Node := ⟨name, table, bindings, children, conflicts⟩
    (if n.readsAcross s then [s.path] else []) ++ childReaders (s.below n) children

/-- The same for the trees below a node. -/
def childReaders (below : String → Scope) : List (String × Node) → List String
  | [] => []
  | (key, n) :: rest => readersAcross (below key) n ++ childReaders below rest

end

/-- The paths of the nodes that are worth a warning: the root is meant to read many fields, and
any other node that does may have been meant to be repeated. -/
def warnings (n : Node) : List String := childReaders (Scope.root.below n) n.children

end Node

end Mapping

/-! ### Mappings -/

/-- A tree of nodes and how it is written. -/
structure Mapping where
  config : Mapping.Config
  root : Mapping.Node

namespace Mapping

/-- The first fault of settings and a tree. -/
def treeFault? (c : Config) (root : Node) : Option MappingError :=
  match c.fault? with
  | some f => some (.config f)
  | none => root.fault? c Scope.root

/-- The mapping of a tree, if it has no fault. -/
def ofTree (c : Config) (root : Node) : Except MappingError Mapping :=
  match treeFault? c root with
  | some e => .error e
  | none => .ok ⟨c, root⟩

end Mapping

end Accession
