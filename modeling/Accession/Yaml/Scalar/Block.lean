import Accession.Yaml.Cursor

/-!
# Block scalars

A block scalar stands on lines of its own, indented further than what it belongs to.  After `|`
its line breaks are kept, after `>` single ones between lines that start with no blank are folded.
A sign settles what becomes of the line breaks at its end: one is kept, or with `+` all, or with
`-` none.
-/

namespace Accession.Yaml

/-- What becomes of the line breaks at the end of a block scalar. -/
inductive Chomping where
  | strip
  | clip
  | keep
  deriving DecidableEq, Repr

/-- What the first line of a block scalar says: the chomping, and the indentation in addition to
that of the block around it, if it is given. -/
structure BlockHeader where
  chomping : Chomping
  increment : Option Nat

/-- The chomping that a sign stands for. -/
def chomping? : Char → Option Chomping
  | '+' => some .keep
  | '-' => some .strip
  | _ => none

/-- The digit of an indentation, which is not zero. -/
def increment? : List Char → Except Error (Option Nat)
  | c :: _ =>
    if c == '0' then .error .lexeme
    else if c.isDigit then .ok (some (c.toNat - '0'.toNat))
    else .ok none
  | [] => .ok none

/-- Reads the signs after the mark of a block scalar, in either order. -/
def readBlockHeader (c : Cursor) : Except Error (BlockHeader × Cursor) := do
  match c.rest.head?.bind chomping? with
  | some chomping =>
    let c := c.advance 1
    match ← increment? c.rest with
    | some n => pure (⟨chomping, some n⟩, c.advance 1)
    | none => pure (⟨chomping, none⟩, c)
  | none =>
    match ← increment? c.rest with
    | none => pure (⟨.clip, none⟩, c)
    | some n =>
      let c := c.advance 1
      match c.rest.head?.bind chomping? with
      | some chomping => pure (⟨chomping, some n⟩, c.advance 1)
      | none => pure (⟨.clip, some n⟩, c)

/-- Blank lines before a line of a block scalar: their line breaks, the greatest indentation met,
and the place after the indentation of that line. -/
structure BlankLines where
  breaks : List Char
  widest : Nat
  cursor : Cursor

/-- Reads on blank lines and indentation; `indent` is zero while it is not known. -/
def readBlankLines (indent : Nat) (breaks : List Char) (widest column line offset : Nat) :
    List Char → Except Error BlankLines
  | [] => .ok ⟨breaks, max widest column, ⟨[], column, line, offset⟩⟩
  | '\r' :: '\n' :: rest =>
    readBlankLines indent (breaks ++ ['\n']) (max widest column) 0 (line + 1) (offset + 2) rest
  | c :: rest =>
    if c == ' ' && (indent == 0 || column < indent) then
      readBlankLines indent breaks widest (column + 1) line (offset + 1) rest
    else if c == '\t' && (indent == 0 || column < indent) then .error .lexeme
    else if isBreak c then
      readBlankLines indent (breaks ++ [normalBreak c]) (max widest column) 0 (line + 1)
        (offset + 1) rest
    else .ok ⟨breaks, max widest column, ⟨c :: rest, column, line, offset⟩⟩

/-- Reads the blank lines in front. -/
def Cursor.readBlanks (indent : Nat) (c : Cursor) : Except Error BlankLines :=
  readBlankLines indent [] 0 c.column c.line c.offset c.rest

/-- A block scalar that is being read. -/
structure BlockText where
  /-- Its characters so far, the last first. -/
  text : List Char
  /-- The line break at the end of the last line. -/
  lineBreak : List Char
  /-- The line breaks of the blank lines after it. -/
  blankLines : List Char
  /-- The last line starts with a blank. -/
  indented : Bool

/-- What stands between the lines so far and a line that starts with `c`. -/
def BlockText.joint (folded : Bool) (b : BlockText) (c : Char) : List Char :=
  if folded && b.lineBreak == ['\n'] && !b.indented && !isSpace c then
    (if b.blankLines.isEmpty then [' '] else []) ++ b.blankLines
  else b.lineBreak ++ b.blankLines

/-- Reads on the lines of a block scalar that is indented by `indent`. -/
def readBlockLines (folded : Bool) (indent : Nat) :
    (fuel : Nat) → BlockText → Cursor → Except Error (BlockText × Cursor)
  | 0, b, c => .ok (b, c)
  | fuel + 1, b, c =>
    match c.rest with
    | [] => .ok (b, c)
    | d :: _ =>
      if c.column ≠ indent then .ok (b, c)
      else do
        let (line, c) := c.takeWhile (! isBreak ·)
        let (lineBreak, c) := c.takeBreak
        let blanks ← c.readBlanks indent
        readBlockLines folded indent fuel
          ⟨line.reverse ++ ((b.joint folded d).reverse ++ b.text), lineBreak, blanks.breaks,
            isSpace d⟩ blanks.cursor

/-- Reads the block scalar whose mark is in front; `outer` is the indentation of the block around
it, -1 at the top, and `fuel` exceeds the length of the text. -/
def Cursor.readBlock (folded : Bool) (outer : Int) (fuel : Nat) (c : Cursor) :
    Except Error (List Char × Cursor) := do
  let (header, c) ← readBlockHeader (c.advance 1)
  let c ← c.endOfLine
  let given := match header.increment with
    | some n => outer.toNat + n
    | none => 0
  let blanks ← c.readBlanks given
  let indent := if given = 0 then max (max blanks.widest (outer + 1).toNat) 1 else given
  let (b, c) ← readBlockLines folded indent fuel ⟨[], [], blanks.breaks, false⟩ blanks.cursor
  let tail := match header.chomping with
    | .strip => []
    | .clip => b.lineBreak
    | .keep => b.lineBreak ++ b.blankLines
  pure (b.text.reverse ++ tail, c)

end Accession.Yaml
