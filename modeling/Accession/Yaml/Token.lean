import Accession.Yaml.Scalar.Block
import Accession.Yaml.Scalar.Plain
import Accession.Yaml.Scalar.Quoted

/-!
# Tokens of YAML text

`Yaml.tokens` cuts a text into tokens.  Indentation opens and closes block collections, which get
tokens of their own.  A key is recognised only when its value sign is met, so its token, and one
that opens a mapping, are put in front of tokens already made (`Lexer.insertAt`).
-/

namespace Accession.Yaml

/-- A token; the end of a stream has none. -/
inductive Token where
  | versionDirective (major minor : Nat)
  | tagDirective (handle replacement : String)
  | documentStart
  | documentEnd
  | blockSequenceStart
  | blockMappingStart
  | blockEnd
  | flowSequenceStart
  | flowSequenceEnd
  | flowMappingStart
  | flowMappingEnd
  | blockEntry
  | flowEntry
  | key
  | value
  | alias (name : String)
  | anchor (name : String)
  | tag (handle suffix : String)
  | scalar (text : String) (plain : Bool)
  deriving DecidableEq, Repr

/-- A place where a key may start: the number of tokens before it, whether only a key may stand
there, and the place. -/
structure KeyStart where
  tokenCount : Nat
  required : Bool
  column : Nat
  line : Nat
  offset : Nat
  deriving Repr

/-- The state of cutting a text into tokens. -/
structure Lexer where
  cursor : Cursor
  tokens : Array Token
  /-- The indentation of the innermost block collection, -1 if there is none. -/
  indent : Int
  /-- The indentations around it. -/
  outer : List Int
  /-- The place where a key may have started within the innermost brackets. -/
  key : Option KeyStart
  /-- The same for the brackets around, and for the text outside of brackets. -/
  outerKeys : List (Option KeyStart)
  /-- A key may start here. -/
  keyAllowed : Bool
  /-- More than the length of the text, to bound the loops over it. -/
  fuel : Nat

namespace Lexer

/-- The start of a text. -/
def start (text : List Char) : Lexer :=
  ⟨⟨text, 0, 0, 0⟩, #[], -1, [], none, [], true, text.length + 1⟩

/-- The place is within brackets. -/
def inFlow (x : Lexer) : Bool := !x.outerKeys.isEmpty

/-- Adds a token at the end. -/
def push (t : Token) (x : Lexer) : Lexer := { x with tokens := x.tokens.push t }

/-- Adds a token in front of the one at an index. -/
def insertAt (i : Nat) (t : Token) (x : Lexer) : Lexer :=
  { x with tokens := x.tokens.insertIdxIfInBounds i t }

/-- Goes to a place. -/
def goTo (c : Cursor) (x : Lexer) : Lexer := { x with cursor := c }

/-- Adds the token of a sign of some length. -/
def sign (t : Token) (length : Nat) (x : Lexer) : Lexer :=
  (x.goTo (x.cursor.advance length)).push t

/-! ### Indentation -/

/-- Closes the block collections that are indented further than `column`. -/
def unrollFrom : (outer : List Int) → (column : Int) → Lexer → Lexer
  | [], _, x => x
  | around :: outer, column, x =>
    if column < x.indent then
      unrollFrom outer column { x.push .blockEnd with indent := around, outer := outer }
    else x

/-- Closes the block collections that are indented further than `column`; brackets keep them
open. -/
def unroll (column : Int) (x : Lexer) : Lexer :=
  if x.inFlow then x else unrollFrom x.outer column x

/-- Opens a block collection at a column further in than the innermost one, its token put in
front of the one at an index. -/
def roll (column : Nat) (index : Nat) (t : Token) (x : Lexer) : Lexer :=
  if x.inFlow then x
  else if x.indent < column then
    { x.insertAt index t with indent := column, outer := x.indent :: x.outer }
  else x

/-! ### Keys -/

/-- The greatest length of a key, its value sign included. -/
def maxKeyLength : Nat := 1024

/-- A key that started there may still be followed by its value sign: the line has not ended, and
the key is not too long. -/
def reaches (x : Lexer) (k : KeyStart) : Bool :=
  x.cursor.line ≤ k.line && x.cursor.offset ≤ k.offset + maxKeyLength

/-- Gives up the key that may have started; it is an error if only a key may stand there. -/
def dropKey (x : Lexer) : Except Error Lexer :=
  match x.key with
  | some k => if k.required then .error .key else .ok { x with key := none }
  | none => .ok x

/-- Notes that a key may start here, if it may. -/
def saveKey (x : Lexer) : Except Error Lexer :=
  if x.keyAllowed then do
    let required := !x.inFlow && x.indent == (x.cursor.column : Int)
    let x ← x.dropKey
    pure { x with key := some ⟨x.tokens.size, required, x.cursor.column, x.cursor.line,
      x.cursor.offset⟩ }
  else pure x

/-! ### Signs -/

/-- The start or the end of a document. -/
def readDocumentMark (t : Token) (x : Lexer) : Except Error Lexer := do
  let x ← (x.unroll (-1)).dropKey
  pure ({ x with keyAllowed := false }.sign t 3)

/-- An opening bracket. -/
def readFlowStart (t : Token) (x : Lexer) : Except Error Lexer := do
  let x ← x.saveKey
  pure ({ x with key := none, outerKeys := x.key :: x.outerKeys, keyAllowed := true }.sign t 1)

/-- A closing bracket. -/
def readFlowEnd (t : Token) (x : Lexer) : Except Error Lexer := do
  let x ← x.dropKey
  let x := match x.outerKeys with
    | [] => x
    | k :: ks => { x with key := k, outerKeys := ks }
  pure ({ x with keyAllowed := false }.sign t 1)

/-- A comma within brackets. -/
def readFlowEntry (x : Lexer) : Except Error Lexer := do
  let x ← x.dropKey
  pure ({ x with keyAllowed := true }.sign .flowEntry 1)

/-- The hyphen of an item. -/
def readBlockEntry (x : Lexer) : Except Error Lexer := do
  if !x.inFlow && !x.keyAllowed then throw .token
  let x ← (x.roll x.cursor.column x.tokens.size .blockSequenceStart).dropKey
  pure ({ x with keyAllowed := true }.sign .blockEntry 1)

/-- The question mark of a key. -/
def readKey (x : Lexer) : Except Error Lexer := do
  if !x.inFlow && !x.keyAllowed then throw .token
  let x ← (x.roll x.cursor.column x.tokens.size .blockMappingStart).dropKey
  pure ({ x with keyAllowed := !x.inFlow }.sign .key 1)

/-- The colon of a value; what may have been a key before it now is one. -/
def readValue (x : Lexer) : Except Error Lexer := do
  let pending ← match x.key with
    | some k =>
      if x.reaches k then pure (some k) else if k.required then throw .key else pure none
    | none => pure none
  match pending with
  | some k =>
    let x := (x.insertAt k.tokenCount .key).roll k.column k.tokenCount .blockMappingStart
    pure ({ x with key := none, keyAllowed := false }.sign .value 1)
  | none =>
    if !x.inFlow && !x.keyAllowed then throw .token
    let x := { x with key := none }.roll x.cursor.column x.tokens.size .blockMappingStart
    pure ({ x with keyAllowed := !x.inFlow }.sign .value 1)

/-! ### Anchors, tags and directives -/

/-- The name of an anchor or an alias, after its mark. -/
def readName (c : Cursor) : Except Error (String × Cursor) :=
  let (name, c) := c.takeWhile isWordChar
  let ends := match c.rest with
    | [] => true
    | d :: _ => isGap d || ['?', ':', ',', ']', '\x7d', '%', '@', '`'].contains d
  if name.isEmpty || !ends then .error .lexeme else .ok (String.ofList name, c)

/-- An anchor or an alias. -/
def readReference (make : String → Token) (x : Lexer) : Except Error Lexer := do
  let x ← x.saveKey
  let (name, c) ← readName (x.cursor.advance 1)
  pure (({ x with keyAllowed := false }.push (make name)).goTo c)

/-- A character of a tag; within angle brackets some more are allowed. -/
def isTagChar (verbatim : Bool) (c : Char) : Bool :=
  isWordChar c || ";/?:@&=+$.!~*'()%".toList.contains c
    || (verbatim && [',', '[', ']'].contains c)

/-- The bytes that a run of escapes in a tag stands for, and the number of the escapes. -/
def tagEscapes : (count : Nat) → List Char → Except Error (List UInt8)
  | 0, _ => .ok []
  | count + 1, '%' :: a :: b :: rest =>
    match Decimal.readDigits? 16 [a, b] with
    | some n => (tagEscapes count rest).map (UInt8.ofNat n :: ·)
    | none => .error .lexeme
  | _ + 1, _ => .error .lexeme

/-- The number of bytes of a character in UTF-8, by the first of them. -/
def byteCount? (n : Nat) : Option Nat :=
  if n < 0x80 then some 1
  else if n < 0xC0 then none
  else if n < 0xE0 then some 2
  else if n < 0xF0 then some 3
  else if n < 0xF8 then some 4
  else none

/-- The characters of a tag, with escapes of bytes in place of some of them. -/
def decodeTag : (fuel : Nat) → List Char → Except Error (List Char)
  | 0, _ => .ok []
  | _ + 1, [] => .ok []
  | fuel + 1, '%' :: rest =>
    match (Decimal.readDigits? 16 (rest.take 2)).bind byteCount? with
    | none => .error .lexeme
    | some count =>
      match tagEscapes count ('%' :: rest) with
      | .error e => .error e
      | .ok bytes =>
        match String.fromUTF8? ⟨bytes.toArray⟩ with
        | none => .error .lexeme
        | some s => (decodeTag fuel (rest.drop (3 * count - 1))).map (s.toList ++ ·)
  | fuel + 1, c :: rest => (decodeTag fuel rest).map (c :: ·)

/-- The characters of a tag in front. -/
def readTagText (verbatim : Bool) (c : Cursor) : Except Error (List Char × Cursor) :=
  let (raw, c) := c.takeWhile (isTagChar verbatim)
  match decodeTag (raw.length + 1) raw with
  | .ok text => .ok (text, c)
  | .error e => .error e

/-- The handle of a tag: an exclamation mark, or a word between two. -/
def readHandle (c : Cursor) : List Char × Cursor :=
  let (word, c) := (c.advance 1).takeWhile isWordChar
  if c.rest.head? = some '!' then ('!' :: word ++ ['!'], c.advance 1) else ('!' :: word, c)

/-- The handle and the rest of a tag. -/
def readTagParts (c : Cursor) : Except Error ((List Char × List Char) × Cursor) := do
  if (c.rest.drop 1).head? = some '<' then
    let (text, c) ← readTagText true (c.advance 2)
    if text.isEmpty || c.rest.head? != some '>' then throw .lexeme
    pure (([], text), c.advance 1)
  else
    let (handle, c) := readHandle c
    let (text, c) ← readTagText false c
    if 2 ≤ handle.length && handle.getLast? == some '!' then
      if text.isEmpty then throw .lexeme
      pure ((handle, text), c)
    else if handle.length = 1 && text.isEmpty then pure (([], ['!']), c)
    else pure ((['!'], handle.drop 1 ++ text), c)

/-- A tag. -/
def readTag (x : Lexer) : Except Error Lexer := do
  let x ← x.saveKey
  let ((handle, suffix), c) ← readTagParts x.cursor
  let ends := gapFollows c.rest || (x.inFlow && c.rest.head? == some ',')
  if !ends then throw .lexeme
  pure (({ x with keyAllowed := false }.push
    (.tag (String.ofList handle) (String.ofList suffix))).goTo c)

/-- A number of a version, of at most nine digits. -/
def readVersionNumber (c : Cursor) : Except Error (Nat × Cursor) :=
  let (digits, c) := c.takeWhile Char.isDigit
  match Decimal.readDigits? 10 digits with
  | some n => if digits.length ≤ 9 then .ok (n, c) else .error .lexeme
  | none => .error .lexeme

/-- What a directive says, after its percent sign. -/
def readDirectiveBody (c : Cursor) : Except Error (Token × Cursor) := do
  let (name, c) := c.takeWhile isWordChar
  if !gapFollows c.rest then throw .lexeme
  let c := c.skipWhile isSpace
  if name = "YAML".toList then
    let (major, c) ← readVersionNumber c
    if c.rest.head? ≠ some '.' then throw .lexeme
    let (minor, c) ← readVersionNumber (c.advance 1)
    pure (.versionDirective major minor, c)
  else if name = "TAG".toList then
    if c.rest.head? ≠ some '!' then throw .lexeme
    let (handle, c) := readHandle c
    if handle ≠ ['!'] && handle.getLast? ≠ some '!' then throw .lexeme
    if !((c.rest.head?.map isSpace).getD false) then throw .lexeme
    let (text, c) ← readTagText true (c.skipWhile isSpace)
    if text.isEmpty || !gapFollows c.rest then throw .lexeme
    pure (.tagDirective (String.ofList handle) (String.ofList text), c)
  else throw .lexeme

/-- A directive, which takes a line. -/
def readDirective (x : Lexer) : Except Error Lexer := do
  let x ← (x.unroll (-1)).dropKey
  let (t, c) ← readDirectiveBody (x.cursor.advance 1)
  let c ← c.endOfLine
  pure (({ x with keyAllowed := false }.push t).goTo c)

/-! ### Scalars -/

/-- A block scalar. -/
def readBlockScalar (folded : Bool) (x : Lexer) : Except Error Lexer := do
  let x ← x.dropKey
  let (text, c) ← x.cursor.readBlock folded x.indent x.fuel
  pure (({ x with keyAllowed := true }.push (.scalar (String.ofList text) false)).goTo c)

/-- A scalar in quotes. -/
def readQuotedScalar (single : Bool) (x : Lexer) : Except Error Lexer := do
  let x ← x.saveKey
  let (text, c) ← x.cursor.readQuoted single x.fuel
  pure (({ x with keyAllowed := false }.push (.scalar (String.ofList text) false)).goTo c)

/-- A scalar without quotes; a key may start after it if a line has ended. -/
def readPlainScalar (x : Lexer) : Except Error Lexer := do
  let x ← x.saveKey
  let s ← x.cursor.readPlain x.inFlow (x.indent + 1).toNat x.fuel
  pure (({ x with keyAllowed := s.broken }.push (.scalar (String.ofList s.text) true)).goTo
    s.cursor)

/-! ### The text as a whole -/

/-- Passes over blanks, comments and line breaks, and over a byte order mark at the start of a line.
Where a key may start outside of brackets a tab is no blank; after a line break outside of brackets
a key may start. -/
def skipGap : (fuel : Nat) → Lexer → Lexer
  | 0, x => x
  | fuel + 1, x =>
    let tabs := x.inFlow || !x.keyAllowed
    let c := x.cursor.skipByteOrderMark
    let c := (c.skipWhile fun d => d == ' ' || (tabs && d == '\t')).skipComment
    match c.rest with
    | [] => x.goTo c
    | d :: _ =>
      if isBreak d then
        skipGap fuel { x.goTo c.nextLine with keyAllowed := x.keyAllowed || !x.inFlow }
      else x.goTo c

/-- The character starts a plain scalar, `rest` following it. -/
def startsPlain (inFlow : Bool) (c : Char) (rest : List Char) : Bool :=
  if c == '-' then !((rest.head?.map isSpace).getD false)
  else if c == '?' || c == ':' then !inFlow && !gapFollows rest
  else !isGap c && !isFlowMark c
    && ! ['#', '&', '*', '!', '|', '>', '\'', '"', '%', '@', '`'].contains c

/-- Reads the token that starts with the character in front. -/
def readToken (c : Char) (rest : List Char) (x : Lexer) : Except Error Lexer :=
  if x.cursor.column == 0 && c == '%' then x.readDirective
  else if x.cursor.atMarks '-' then x.readDocumentMark .documentStart
  else if x.cursor.atMarks '.' then x.readDocumentMark .documentEnd
  else match c with
    | '[' => x.readFlowStart .flowSequenceStart
    | '\x7b' => x.readFlowStart .flowMappingStart
    | ']' => x.readFlowEnd .flowSequenceEnd
    | '\x7d' => x.readFlowEnd .flowMappingEnd
    | ',' => x.readFlowEntry
    | '*' => x.readReference .alias
    | '&' => x.readReference .anchor
    | '!' => x.readTag
    | '\'' => x.readQuotedScalar true
    | '"' => x.readQuotedScalar false
    | _ =>
      if c == '-' && gapFollows rest then x.readBlockEntry
      else if c == '?' && (x.inFlow || gapFollows rest) then x.readKey
      else if c == ':' && (x.inFlow || gapFollows rest) then x.readValue
      else if c == '|' && !x.inFlow then x.readBlockScalar false
      else if c == '>' && !x.inFlow then x.readBlockScalar true
      else if startsPlain x.inFlow c rest then x.readPlainScalar
      else .error .token

/-- Cuts the text from the cursor on. -/
def run : (fuel : Nat) → Lexer → Except Error Lexer
  | 0, x => .ok x
  | fuel + 1, x => do
    let x := skipGap x.fuel x
    let x := x.unroll x.cursor.column
    match x.cursor.rest with
    | [] => (x.unroll (-1)).dropKey
    | c :: rest =>
      let x ← x.readToken c rest
      run fuel x

end Lexer

/-- The tokens of a text. -/
def tokens (text : List Char) : Except Error (List Token) := do
  if !text.all isAllowed then throw .character
  let start := Lexer.start text
  let x ← start.run start.fuel
  pure x.tokens.toList

end Accession.Yaml
