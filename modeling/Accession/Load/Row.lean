import Accession.Load.Keys
import Accession.Mapping.Node
import Accession.Record.Basic

/-!
# Rows of a node

* `Mapping.Node.fanOut` : the places that a node is applied to.
* `Mapping.Source.evaluate` : the value of a source at a place.
* `Mapping.Node.row?` : the row that a node makes at a place.
-/

namespace Accession.Mapping

/-- The value of a source at a place, with the rows around. -/
def Source.evaluate (source : Source) (place : Place) (keys : KeyStacks) : Option Value :=
  match source with
  | .literal value => some value
  | .tag t => (place.resolve t).map .text
  | .foreignKey table _ => (keys.peek table).map .integer
  | .deferred => none

namespace Node

/-- The places that a node is applied to: each occurrence of the one field that it reads, if
fields can be chosen at the place, and else the place itself. -/
def fanOut (n : Node) (place : Place) : List Place :=
  match n.fanOutField? with
  | some code => if place.isComposite then place.occurrences code else [place]
  | none => [place]

/-- The bindings that have a value, in order. -/
def values (n : Node) (place : Place) (keys : KeyStacks) : Row :=
  n.bindings.filterMap fun b => (b.2.evaluate place keys).map fun value => (b.1, value)

/-- The row that a node makes at a place: it has a table, and some column has a value. -/
def row? (n : Node) (place : Place) (keys : KeyStacks) : Option Row :=
  match n.table with
  | none => none
  | some _ =>
    match n.values place keys with
    | [] => none
    | row => some row

end Node

end Accession.Mapping
