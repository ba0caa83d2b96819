import Accession.Text.Search
import Accession.Yaml.Node
import Accession.Yaml.Value

/-!
# Decoding YAML nodes

A `Yaml.Decode` reads what is wanted from the nodes of a document: aliases are followed, and
counted, so that a short text cannot stand for a huge one.

* `Yaml.Decode.text`, `Yaml.Decode.entries`, `Yaml.Decode.items`, `Yaml.Decode.name` : a node where
  a text, a mapping, a sequence or one of some names is wanted.
* `Yaml.Decode.value` : a node as a value of its own kind.
* `Yaml.Decode.fields` : the entries of a mapping with a fixed set of keys.
-/

namespace Accession.Yaml

/-- A reading of nodes of a document; the state counts the aliases followed. -/
abbrev Decode (α : Type) := ReaderT Document (StateT Nat (Except Error)) α

namespace Decode

/-- How often aliases may be followed, for each part of a document. -/
def followsPerPart : Nat := 100

/-- How many collections may be nested. -/
def maxDepth : Nat := 128

/-- The node that an alias stands for. -/
def target (slot : Nat) : Decode Node := do
  let document ← read
  let follows ← get
  if document.size * followsPerPart ≤ follows then throw .repetition
  set (follows + 1)
  match document.anchored.lookup slot with
  | some n => pure n
  | none => throw .unknownAnchor

/-- The node itself, or the one that it stands for. -/
def follow : Node → Decode Node
  | .alias slot => target slot
  | n => pure n

/-- The text of a scalar of any form. -/
def text (n : Node) : Decode String := do
  match ← follow n with
  | .scalar _ s _ => pure s
  | _ => throw .shape

/-- The entries of a mapping; nothing written is a mapping without entries. -/
def entries (n : Node) : Decode (List (Node × Node)) := do
  match ← follow n with
  | .mapping _ entries => pure entries
  | .scalar _ "" true => pure []
  | _ => throw .shape

/-- The items of a sequence; nothing written is a sequence without items. -/
def items (n : Node) : Decode (List Node) := do
  match ← follow n with
  | .sequence _ items => pure items
  | .scalar _ "" true => pure []
  | _ => throw .shape

/-- The items of a sequence, each read by `item`. -/
def list {α : Type} (item : Node → Decode α) (n : Node) : Decode (List α) := do
  (← items n).mapM item

/-- A mapping from texts; of entries with the same key the last gives the value, and the first
the place. -/
def dict {α : Type} (value : Node → Decode α) (n : Node) : Decode (Dict String α) := do
  let read ← (← entries n).mapM fun e => do pure (← text e.1, ← value e.2)
  pure (Dict.ofEntries read)

/-! ### Names -/

/-- The tag that a node gives itself, without the exclamation mark in front. -/
def ownTag? (tag : Option String) : Option String := tag.bind (Text.after? "!" ·)

/-- One of some names, as a scalar, or as the tag of a null. -/
def name {α : Type} (ofName? : String → Option α) (n : Node) : Decode α := do
  match ← follow n with
  | .scalar p s plain =>
    match ownTag? p.tag with
    | none => known s
    | some tag => if plain && (s == "" || nullWords.contains s) then known tag else throw .shape
  | _ => throw .shape
where
  /-- What a name stands for. -/
  known (s : String) : Decode α :=
    match ofName? s with
    | some a => pure a
    | none => throw .shape

/-! ### Mappings with a fixed set of keys -/

/-- The values of those entries whose keys are among the given ones; no such key may occur
twice, and other entries are passed over. -/
def fields (keys : List String) (n : Node) : Decode (Dict String Node) := do
  (← entries n).foldlM (fun found e => do
    let key ← text e.1
    if !keys.contains key then pure found
    else if found.contains key then throw .duplicateKey
    else pure (found ++ [(key, e.2)])) []

/-- The value of a key, read by `value`, or a default where the key is missing. -/
def field {α : Type} (found : Dict String Node) (key : String) (default : α)
    (value : Node → Decode α) : Decode α :=
  match found.get? key with
  | some n => value n
  | none => pure default

/-- The value of a key that may not be missing. -/
def required {α : Type} (found : Dict String Node) (key : String) (value : Node → Decode α) :
    Decode α :=
  match found.get? key with
  | some n => value n
  | none => throw (.missing key)

/-! ### Values -/

/-- What a value keeps of its node. -/
structure Keeping where
  /-- Tags that nodes give themselves are kept; where they are not, there may be none. -/
  tags : Bool
  /-- The keys of a mapping are to be different. -/
  distinctKeys : Bool

/-- The value of a scalar; `named` if its tag, or that of the mapping it is a key of, is already
read. -/
def scalarValue (named : Bool) (tag : Option String) (s : String) (plain : Bool) :
    Except Error Yaml :=
  match tag, named with
  | some tag, false => ofTyped tag s
  | _, _ => if plain then ofPlain s else .ok (.text s)

/-- The entries of a mapping, each key and value read. -/
def entryValues (keep : Keeping) (key value : Node → Decode Yaml) (nodes : List (Node × Node)) :
    Decode (List (Yaml × Yaml)) :=
  nodes.foldlM (fun read e => do
    let k ← key e.1
    if keep.distinctKeys && read.any fun r => r.1.same k then throw .duplicateKey
    let v ← value e.2
    pure (read ++ [(k, v)])) []

/-- The value of a node whose tag is already read if `named`; `inner` reads the nodes inside, and
where there is none, no collection may stand. -/
def content (keep : Keeping) (inner : Option (Bool → Node → Decode Yaml)) (named : Bool) :
    Node → Decode Yaml
  | .scalar p s plain => liftM (scalarValue named p.tag s plain)
  | .sequence _ items =>
    match inner with
    | none => throw .depth
    | some read => do pure (.sequence (← items.mapM (read false)))
  | .mapping _ entries =>
    match inner with
    | none => throw .depth
    | some read => do pure (.mapping (← entryValues keep (read named) (read false) entries))
  | .alias _ => throw .unknownAnchor

/-- The tag that a node gives itself. -/
def nodeTag? : Node → Option String
  | .scalar p _ _ => ownTag? p.tag
  | .sequence p _ => ownTag? p.tag
  | .mapping p _ => ownTag? p.tag
  | .alias _ => none

/-- The value of a node, with the tag that it gives itself around it. -/
def valueWith (keep : Keeping) (inner : Option (Bool → Node → Decode Yaml)) (named : Bool)
    (n : Node) : Decode Yaml := do
  let named := match n with
    | .alias _ => false
    | _ => named
  let n ← follow n
  match nodeTag? n, named with
  | some tag, false =>
    if keep.tags && tag != "" then do pure (.tagged tag (← content keep inner true n))
    else throw .shape
  | _, _ => content keep inner named n

/-- The value of a node within which at most `depth` collections are nested. -/
def value (keep : Keeping) : (depth : Nat) → (named : Bool) → Node → Decode Yaml
  | 0 => valueWith keep none
  | depth + 1 => valueWith keep (some (value keep depth))

/-! ### Documents -/

/-- Reads the root of a document. -/
def run {α : Type} (reading : Node → Decode α) (contents : String) : Except Error α := do
  let document ← Document.parse contents
  let (a, _) ← reading (document.root.getD emptyNode) document 0
  pure a

end Decode

end Accession.Yaml
