import Accession.Dict
import Accession.Yaml.Token

/-!
# The nodes of a YAML document

* `Yaml.Node` : a scalar, a sequence, a mapping, or an alias of a node elsewhere.
* `Yaml.Document` : the root of a document, if it is not empty, and the nodes that aliases name.
* `Yaml.Document.parse` : the one document of a text.

An anchor gives its node a slot: the number of different names that have been anchored before.  An
alias names the slot of its anchor, and stands for the last node of the document in that slot.
-/

namespace Accession.Yaml

/-- The anchor and the tag of a node. -/
structure Props where
  slot : Option Nat
  tag : Option String
  deriving DecidableEq, Repr

/-- The properties of a scalar that is written; an exclamation mark alone is no tag of one. -/
def Props.ofScalar (p : Props) : Props := if p.tag = some "!" then { p with tag := none } else p

/-- A node as it is written. -/
inductive Node where
  | scalar (props : Props) (text : String) (plain : Bool)
  | sequence (props : Props) (items : List Node)
  | mapping (props : Props) (entries : List (Node × Node))
  | alias (slot : Nat)

/-- A document. -/
structure Document where
  root : Option Node
  /-- Nodes by slot, the last of each slot first. -/
  anchored : List (Nat × Node)
  /-- The number of scalars, aliases, and ends of collections. -/
  size : Nat

/-! ### From tokens to nodes -/

/-- Tokens not yet read, and the slot of each name anchored so far. -/
structure Input where
  tokens : List Token
  names : Dict String Nat

/-- The tokens after the first one. -/
def Input.skip (i : Input) : Input := { i with tokens := i.tokens.drop 1 }

/-- The first token. -/
def Input.peek (i : Input) : Option Token := i.tokens.head?

/-- Anchors a name to the next slot. -/
def Input.anchor (name : String) (i : Input) : Nat × Input :=
  (i.names.length, { i with names := i.names.insert name i.names.length })

/-- Handles of tags and what they stand for. -/
abbrev Handles := List (String × String)

/-- The handles of every document. -/
def defaultHandles : Handles := [("!", "!"), ("!!", "tag:yaml.org,2002:")]

/-- The tag that a handle and a suffix write. -/
def resolveTag (handles : Handles) (handle suffix : String) : Except Error String :=
  if handle = "" then .ok suffix
  else match handles.lookup handle with
    | some start => .ok (start ++ suffix)
    | none => .error .lexeme

/-- The anchor and the tag in front, in either order. -/
def readProps (handles : Handles) (i : Input) : Except Error ((Props × Bool) × Input) :=
  match i.tokens with
  | .anchor name :: .tag handle suffix :: _ => do
    let tag ← resolveTag handles handle suffix
    let (slot, i) := i.skip.skip.anchor name
    pure ((⟨some slot, some tag⟩, true), i)
  | .anchor name :: _ =>
    let (slot, i) := i.skip.anchor name
    .ok ((⟨some slot, none⟩, true), i)
  | .tag handle suffix :: .anchor name :: _ => do
    let tag ← resolveTag handles handle suffix
    let (slot, i) := i.skip.skip.anchor name
    pure ((⟨some slot, some tag⟩, true), i)
  | .tag handle suffix :: _ => do
    let tag ← resolveTag handles handle suffix
    pure ((⟨none, some tag⟩, true), i.skip)
  | _ => .ok ((⟨none, none⟩, false), i)

/-- A node that is not written. -/
def emptyNode : Node := .scalar ⟨none, none⟩ "" true

/-- The tokens that end an entry of a block mapping. -/
def endsBlockEntry (t : Option Token) : Bool :=
  t == some .key || t == some .value || t == some .blockEnd

/-- The tokens that end an entry within brackets. -/
def endsFlowEntry (close : Token) (t : Option Token) : Bool :=
  t == some .flowEntry || t == some close

mutual

/-- A node; `block` allows block collections, and `indentless` a sequence whose hyphens are not
indented. -/
def readNode (handles : Handles) :
    (fuel : Nat) → (block indentless : Bool) → Input → Except Error (Node × Input)
  | 0, _, _, _ => .error .arrangement
  | fuel + 1, block, indentless, i =>
    match i.peek with
    | some (.alias name) =>
      match i.names.get? name with
      | some slot => .ok (.alias slot, i.skip)
      | none => .error .unknownAnchor
    | _ => do
      let ((props, given), i) ← readProps handles i
      match i.peek with
      | some .blockEntry =>
        if indentless then
          let (items, i) ← readHyphens handles fuel false i
          pure (.sequence props items, i)
        else if given then pure (.scalar props "" true, i)
        else throw .arrangement
      | some (.scalar text plain) => pure (.scalar props.ofScalar text plain, i.skip)
      | some .flowSequenceStart =>
        let (items, i) ← readFlowItems handles fuel true i.skip
        pure (.sequence props items, i)
      | some .flowMappingStart =>
        let (entries, i) ← readFlowEntries handles fuel true i.skip
        pure (.mapping props entries, i)
      | some .blockSequenceStart =>
        if block then
          let (items, i) ← readHyphens handles fuel true i.skip
          pure (.sequence props items, i)
        else if given then pure (.scalar props "" true, i)
        else throw .arrangement
      | some .blockMappingStart =>
        if block then
          let (entries, i) ← readBlockEntries handles fuel i.skip
          pure (.mapping props entries, i)
        else if given then pure (.scalar props "" true, i)
        else throw .arrangement
      | _ => if given then pure (.scalar props "" true, i) else throw .arrangement

/-- The items of a block sequence; `closed` if a token marks its end. -/
def readHyphens (handles : Handles) :
    (fuel : Nat) → (closed : Bool) → Input → Except Error (List Node × Input)
  | 0, _, _ => .error .arrangement
  | fuel + 1, closed, i =>
    match i.peek with
    | some .blockEntry => do
      let i := i.skip
      let ends := i.peek == some .blockEntry || i.peek == some .blockEnd
        || (!closed && endsBlockEntry i.peek)
      let (item, i) ← if ends then pure (emptyNode, i) else readNode handles fuel true false i
      let (items, i) ← readHyphens handles fuel closed i
      pure (item :: items, i)
    | some .blockEnd => .ok ([], if closed then i.skip else i)
    | _ => if closed then .error .arrangement else .ok ([], i)

/-- The entries of a block mapping, and its end. -/
def readBlockEntries (handles : Handles) :
    (fuel : Nat) → Input → Except Error (List (Node × Node) × Input)
  | 0, _ => .error .arrangement
  | fuel + 1, i =>
    match i.peek with
    | some .key => do
      let i := i.skip
      let (key, i) ←
        if endsBlockEntry i.peek then pure (emptyNode, i) else readNode handles fuel true true i
      let (value, i) ← readBlockValue handles fuel i
      let (entries, i) ← readBlockEntries handles fuel i
      pure ((key, value) :: entries, i)
    | some .blockEnd => .ok ([], i.skip)
    | _ => .error .arrangement

/-- The value of an entry of a block mapping, which may be missing. -/
def readBlockValue (handles : Handles) :
    (fuel : Nat) → Input → Except Error (Node × Input)
  | 0, _ => .error .arrangement
  | fuel + 1, i =>
    match i.peek with
    | some .value =>
      let i := i.skip
      if endsBlockEntry i.peek then .ok (emptyNode, i) else readNode handles fuel true true i
    | _ => .ok (emptyNode, i)

/-- The items between brackets, and the closing one; an item may be a single entry of a mapping. -/
def readFlowItems (handles : Handles) :
    (fuel : Nat) → (first : Bool) → Input → Except Error (List Node × Input)
  | 0, _, _ => .error .arrangement
  | fuel + 1, first, i =>
    if i.peek == some .flowSequenceEnd then .ok ([], i.skip)
    else do
      let i ← if first then pure i
        else if i.peek == some .flowEntry then pure i.skip else throw .arrangement
      match i.peek with
      | some .flowSequenceEnd => pure ([], i.skip)
      | some .key =>
        let (entry, i) ← readFlowPair handles fuel i.skip
        let (items, i) ← readFlowItems handles fuel false i
        pure (.mapping ⟨none, none⟩ [entry] :: items, i)
      | _ =>
        let (item, i) ← readNode handles fuel false false i
        let (items, i) ← readFlowItems handles fuel false i
        pure (item :: items, i)

/-- The single entry of a mapping that is an item between brackets, after its key token.  A key
that is not written takes the token after it along. -/
def readFlowPair (handles : Handles) :
    (fuel : Nat) → Input → Except Error ((Node × Node) × Input)
  | 0, _ => .error .arrangement
  | fuel + 1, i => do
    let missing := i.peek == some .value || endsFlowEntry .flowSequenceEnd i.peek
    let (key, i) ←
      if missing then pure (emptyNode, i.skip) else readNode handles fuel false false i
    let (value, i) ← readFlowValue handles fuel .flowSequenceEnd i
    pure ((key, value), i)

/-- The value of an entry between brackets, which may be missing. -/
def readFlowValue (handles : Handles) :
    (fuel : Nat) → (close : Token) → Input → Except Error (Node × Input)
  | 0, _, _ => .error .arrangement
  | fuel + 1, close, i =>
    if i.peek == some .value then
      let i := i.skip
      if endsFlowEntry close i.peek then .ok (emptyNode, i) else readNode handles fuel false false i
    else .ok (emptyNode, i)

/-- The entries between braces, and the closing one; an entry may be a key alone. -/
def readFlowEntries (handles : Handles) :
    (fuel : Nat) → (first : Bool) → Input → Except Error (List (Node × Node) × Input)
  | 0, _, _ => .error .arrangement
  | fuel + 1, first, i =>
    if i.peek == some .flowMappingEnd then .ok ([], i.skip)
    else do
      let i ← if first then pure i
        else if i.peek == some .flowEntry then pure i.skip else throw .arrangement
      match i.peek with
      | some .flowMappingEnd => pure ([], i.skip)
      | some .key =>
        let i := i.skip
        -- `? : v` and `?` alone have an empty key
        let missing := i.peek == some .value || endsFlowEntry .flowMappingEnd i.peek
        let (key, i) ←
          if missing then pure (emptyNode, i) else readNode handles fuel false false i
        let (value, i) ← readFlowValue handles fuel .flowMappingEnd i
        let (entries, i) ← readFlowEntries handles fuel false i
        pure ((key, value) :: entries, i)
      | _ =>
        let (key, i) ← readNode handles fuel false false i
        let (entries, i) ← readFlowEntries handles fuel false i
        pure ((key, emptyNode) :: entries, i)

end

/-! ### Documents -/

mutual

/-- The nodes with a slot in a node, in document order. -/
def Node.anchored : Node → List (Nat × Node)
  | .alias _ => []
  | .scalar p text plain => own p (.scalar p text plain)
  | .sequence p items => own p (.sequence p items) ++ anchoredItems items
  | .mapping p entries => own p (.mapping p entries) ++ anchoredEntries entries
where
  /-- The node in its slot, if it has one. -/
  own (p : Props) (n : Node) : List (Nat × Node) :=
    match p.slot with
    | some slot => [(slot, n)]
    | none => []

/-- The same for the items of a sequence. -/
def anchoredItems : List Node → List (Nat × Node)
  | [] => []
  | n :: rest => n.anchored ++ anchoredItems rest

/-- The same for the entries of a mapping. -/
def anchoredEntries : List (Node × Node) → List (Nat × Node)
  | [] => []
  | (k, v) :: rest => k.anchored ++ v.anchored ++ anchoredEntries rest

end

mutual

/-- The number of scalars, aliases, and ends of collections in a node. -/
def Node.size : Node → Nat
  | .alias _ => 1
  | .scalar .. => 1
  | .sequence _ items => 2 + sizeItems items
  | .mapping _ entries => 2 + sizeEntries entries

/-- The same for the items of a sequence. -/
def sizeItems : List Node → Nat
  | [] => 0
  | n :: rest => n.size + sizeItems rest

/-- The same for the entries of a mapping. -/
def sizeEntries : List (Node × Node) → Nat
  | [] => 0
  | (k, v) :: rest => k.size + v.size + sizeEntries rest

end

/-- Reads the directives in front of a document: whether a version is given, and the handles. -/
def readDirectives : (version : Bool) → Handles → List Token →
    Except Error ((Bool × Handles) × List Token)
  | version, handles, .versionDirective major minor :: rest =>
    if version || major ≠ 1 || (minor ≠ 1 && minor ≠ 2) then .error .lexeme
    else readDirectives true handles rest
  | version, handles, .tagDirective handle start :: rest =>
    if (handles.lookup handle).isSome then .error .lexeme
    else readDirectives version ((handle, start) :: handles) rest
  | version, handles, rest => .ok ((version, handles), rest)

/-- A token before which a document has no content. -/
def endsContent : List Token → Bool
  | [] => true
  | .documentStart :: _ => true
  | .documentEnd :: _ => true
  | .versionDirective .. :: _ => true
  | .tagDirective .. :: _ => true
  | _ => false

/-- The tokens are those of the directives or of the start of a document. -/
def startsDocument : List Token → Bool
  | .documentEnd :: _ => false
  | [] => false
  | ts => endsContent ts

namespace Document

/-- The handles that hold beside those of the directives. -/
def withDefaults (handles : Handles) : Handles := handles ++ defaultHandles

/-- The root of the document in front, and the tokens after it. -/
def readRoot (ts : List Token) : Except Error (Node × Input) := do
  -- every node takes a token, or is an empty one beside a token
  let fuel := 4 * ts.length + 4
  if startsDocument ts then
    let ((_, handles), rest) ← readDirectives false [] ts
    match rest with
    | .documentStart :: rest =>
      if endsContent rest then pure (emptyNode, ⟨rest, []⟩)
      else readNode (withDefaults handles) fuel true false ⟨rest, []⟩
    | _ => throw .arrangement
  else readNode defaultHandles fuel true false ⟨ts, []⟩

/-- The document of a stream of tokens; nothing may follow it. -/
def ofTokens (ts : List Token) : Except Error Document :=
  if ts.isEmpty then .ok ⟨none, [], 1⟩
  else do
    let (root, i) ← readRoot ts
    if !(i.tokens.all (· == .documentEnd)) then throw .documents
    pure ⟨some root, root.anchored.reverse, root.size⟩

/-- The document of a text. -/
def parse (text : String) : Except Error Document := do
  let ts ← tokens text.toList
  ofTokens ts

end Document

end Accession.Yaml
