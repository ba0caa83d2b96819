/-!
# Places in YAML text

* `Yaml.Error` : why a text is not read.
* `Yaml.isBreak`, `Yaml.isGap`, … : the classes of characters.
* `Yaml.Cursor` : the text from a place on, with its line and column.
-/

namespace Accession.Yaml

/-- Why a YAML text is not read. -/
inductive Error where
  /-- A character that may not stand in a text. -/
  | character
  /-- A character that starts no token, or a token where none may stand. -/
  | token
  /-- A scalar, tag, anchor or directive that is not written as one. -/
  | lexeme
  /-- A key without a value sign, or a value sign without a key. -/
  | key
  /-- Tokens that form no document. -/
  | arrangement
  /-- More than one document, or none. -/
  | documents
  /-- An alias without an anchor. -/
  | unknownAnchor
  /-- Nodes nest too deep. -/
  | depth
  /-- Aliases are followed too often. -/
  | repetition
  /-- A key occurs twice. -/
  | duplicateKey
  /-- A key is missing. -/
  | missing (name : String)
  /-- A node that is none of the expected kind. -/
  | shape
  deriving DecidableEq, Repr

/-- What is wrong with the text. -/
def Error.message : Error → String
  | character => "control characters are not allowed"
  | token => "found a token that may not stand here"
  | lexeme => "found a malformed token"
  | key => "could not match a key and a value"
  | arrangement => "did not find the expected node"
  | documents => "did not find exactly one document"
  | unknownAnchor => "unknown anchor"
  | depth => "recursion limit exceeded"
  | repetition => "repetition limit exceeded"
  | duplicateKey => "duplicate entry"
  | missing name => "missing field `" ++ name ++ "`"
  | shape => "invalid type"

/-! ### Classes of characters -/

/-- A character that may stand in a text. -/
def isAllowed (c : Char) : Bool :=
  let n := c.toNat
  n == 0x09 || n == 0x0A || n == 0x0D || (0x20 ≤ n && n ≤ 0x7E) || n == 0x85
    || (0xA0 ≤ n && n ≤ 0xD7FF) || (0xE000 ≤ n && n ≤ 0xFFFD) || 0x10000 ≤ n

/-- A line break. -/
def isBreak (c : Char) : Bool :=
  c == '\n' || c == '\r' || c == '\u0085' || c == '\u2028' || c == '\u2029'

/-- A space or a tab. -/
def isSpace (c : Char) : Bool := c == ' ' || c == '\t'

/-- A space, a tab or a line break. -/
def isGap (c : Char) : Bool := isSpace c || isBreak c

/-- The text ends, or goes on with a space, a tab or a line break. -/
def gapFollows : List Char → Bool
  | [] => true
  | c :: _ => isGap c

/-- A character of anchors and tag handles. -/
def isWordChar (c : Char) : Bool := c.isAlphanum || c == '_' || c == '-'

/-- One of the brackets and the comma of flow collections. -/
def isFlowMark (c : Char) : Bool :=
  c == ',' || c == '[' || c == ']' || c == '\x7b' || c == '\x7d'

/-- The form in which a line break enters a scalar: that of a line feed, unless it separates
lines or paragraphs. -/
def normalBreak (c : Char) : Char := if c == '\u2028' || c == '\u2029' then c else '\n'

/-! ### Cursors -/

/-- The text from a place on. -/
structure Cursor where
  rest : List Char
  /-- Characters since the start of the line. -/
  column : Nat
  /-- Line breaks before the place. -/
  line : Nat
  /-- Characters before the place. -/
  offset : Nat
  deriving DecidableEq, Repr

namespace Cursor

/-- The place some characters further on, on the same line. -/
def advance (n : Nat) (c : Cursor) : Cursor :=
  { c with rest := c.rest.drop n, column := c.column + n, offset := c.offset + n }

/-- The characters in front that satisfy `p`, none of them a line break, and the place after
them. -/
def takeWhile (p : Char → Bool) (c : Cursor) : List Char × Cursor :=
  let taken := c.rest.takeWhile p
  (taken, c.advance taken.length)

/-- The place after the characters in front that satisfy `p`, none of them a line break. -/
def skipWhile (p : Char → Bool) (c : Cursor) : Cursor := (c.takeWhile p).2

/-- The place at the start of the next line, the rest of this one being a line break; a carriage
return and a line feed are one. -/
def nextLine (c : Cursor) : Cursor :=
  match c.rest with
  | '\r' :: '\n' :: rest => ⟨rest, 0, c.line + 1, c.offset + 2⟩
  | _ :: rest => ⟨rest, 0, c.line + 1, c.offset + 1⟩
  | [] => c

/-- A line break in front, in the form in which it enters a scalar, and the place after it. -/
def takeBreak (c : Cursor) : List Char × Cursor :=
  match c.rest with
  | b :: _ => if isBreak b then ([normalBreak b], c.nextLine) else ([], c)
  | [] => ([], c)

/-- The line starts here and with three marks, a gap after them. -/
def atMarks (mark : Char) (c : Cursor) : Bool :=
  c.column == 0 && [mark, mark, mark].isPrefixOf c.rest && gapFollows (c.rest.drop 3)

/-- A document ends or starts here. -/
def atDocumentMark (c : Cursor) : Bool := c.atMarks '-' || c.atMarks '.'

/-- The place after the comment in front, if there is one. -/
def skipComment (c : Cursor) : Cursor :=
  if c.rest.head? = some '#' then c.skipWhile (! isBreak ·) else c

/-- The place after a byte order mark at the start of a line; the mark takes up a column. -/
def skipByteOrderMark (c : Cursor) : Cursor :=
  if c.column = 0 ∧ c.rest.head? = some '\ufeff' then c.advance 1 else c

/-- The place at the end of a line on which nothing but blanks and a comment follows. -/
def endOfLine (c : Cursor) : Except Error Cursor :=
  let c := (c.skipWhile isSpace).skipComment
  match c.rest with
  | [] => .ok c
  | b :: _ => if isBreak b then .ok c.nextLine else .error .lexeme

end Cursor

end Accession.Yaml
