import Accession.Decimal.Integer
import Accession.Yaml.Scalar.Folding

/-!
# Quoted scalars

In single quotes a quote is written twice; in double quotes a backslash starts an escape, and an
escaped line break joins two lines.
-/

namespace Accession.Yaml

/-- The character that an escape of one letter names. -/
def simpleEscape? : Char → Option Char
  | '0' => some '\x00'
  | 'a' => some '\x07'
  | 'b' => some '\x08'
  | 't' => some '\t'
  | '\t' => some '\t'
  | 'n' => some '\n'
  | 'v' => some '\x0b'
  | 'f' => some '\x0c'
  | 'r' => some '\r'
  | 'e' => some '\x1b'
  | ' ' => some ' '
  | '"' => some '"'
  | '/' => some '/'
  | '\\' => some '\\'
  | 'N' => some '\u0085'
  | '_' => some '\u00a0'
  | 'L' => some '\u2028'
  | 'P' => some '\u2029'
  | _ => none

/-- The number of hexadecimal digits after the letter of an escape. -/
def escapeLength? : Char → Option Nat
  | 'x' => some 2
  | 'u' => some 4
  | 'U' => some 8
  | _ => none

/-- The character of an escape and its length, without the backslash. -/
def readEscape : List Char → Except Error (Char × Nat)
  | [] => .error .lexeme
  | letter :: rest =>
    match simpleEscape? letter, escapeLength? letter with
    | some c, _ => .ok (c, 1)
    | none, none => .error .lexeme
    | none, some length =>
      match Decimal.readDigits? 16 (rest.take length) with
      | none => .error .lexeme
      | some n =>
        if rest.length < length || (0xD800 ≤ n && n ≤ 0xDFFF) || 0x10FFFF < n then .error .lexeme
        else .ok (Char.ofNat n, 1 + length)

/-- Characters of a quoted scalar up to a gap or its end, and the place after them. -/
structure QuotedRun where
  text : List Char
  cursor : Cursor
  /-- The run ends with an escaped line break. -/
  escapedBreak : Bool

/-- Reads on a run of a scalar, in single or double quotes. -/
def readQuotedRun (single : Bool) : (fuel : Nat) → List Char → Cursor → Except Error QuotedRun
  | 0, done, c => .ok ⟨done.reverse, c, false⟩
  | fuel + 1, done, c =>
    match c.rest with
    | [] => .ok ⟨done.reverse, c, false⟩
    | d :: rest =>
      if isGap d then .ok ⟨done.reverse, c, false⟩
      else if single then
        if d == '\'' then
          if rest.head? == some '\'' then readQuotedRun single fuel ('\'' :: done) (c.advance 2)
          else .ok ⟨done.reverse, c, false⟩
        else readQuotedRun single fuel (d :: done) (c.advance 1)
      else if d == '"' then .ok ⟨done.reverse, c, false⟩
      else if d == '\\' then
        if (rest.head?.map isBreak).getD false then
          .ok ⟨done.reverse, (c.advance 1).nextLine, true⟩
        else do
          let (e, length) ← readEscape rest
          readQuotedRun single fuel (e :: done) (c.advance (1 + length))
      else readQuotedRun single fuel (d :: done) (c.advance 1)

/-- Reads on a quoted scalar, `text` being its characters so far, the last first. -/
def readQuotedFrom (single : Bool) :
    (fuel : Nat) → (text : List Char) → Cursor → Except Error (List Char × Cursor)
  | 0, _, _ => .error .lexeme
  | fuel + 1, text, c =>
    if c.atDocumentMark then .error .lexeme
    else do
      let run ← readQuotedRun single (fuel + 1) [] c
      let text := run.text.reverse ++ text
      match run.cursor.rest with
      | [] => .error .lexeme
      | d :: _ =>
        if d == (if single then '\'' else '"') then pure (text.reverse, run.cursor.advance 1)
        else
          let known := if run.escapedBreak then Gap.escaped else Gap.none
          let (gap, c) ← run.cursor.readGap 0 known
          readQuotedFrom single fuel (gap.folded.reverse ++ text) c

/-- Reads the scalar whose quote is in front; `fuel` exceeds the length of the text. -/
def Cursor.readQuoted (single : Bool) (fuel : Nat) (c : Cursor) :
    Except Error (List Char × Cursor) :=
  readQuotedFrom single fuel [] (c.advance 1)

end Accession.Yaml
