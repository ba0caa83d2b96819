import Accession.Json.Fault
import Accession.Json.Value
import Accession.Decimal.Reader

/-!
# Reading JSON text

`Json.parse` reads one value with nothing but blanks around it.

* Objects keep the last value of a repeated key, and values nest at most 127 deep.
* A number is an integer if it is written as one and fits a 64-bit word, signed or unsigned;
  any other is a double, taken as its leading digits times or over one power of ten
  (`Json.scale?`), and refused when it is too great.
* Escapes name code points; a surrogate counts only as half of a pair.
-/

namespace Accession.Json

/-- Stops where the unread characters begin. -/
def stop {α : Type} (cause : Fault.Cause) (rest : List Char) : Except Fault α :=
  .error ⟨cause, rest, false⟩

/-- Stops at the first of the unread characters. -/
def stopAt {α : Type} (cause : Fault.Cause) (rest : List Char) : Except Fault α :=
  .error ⟨cause, rest, true⟩

/-- The characters allowed between the parts of a value. -/
def isSpace (c : Char) : Bool := c == ' ' || c == '\n' || c == '\t' || c == '\r'

/-- The text after the blanks in front. -/
def skipSpace (cs : List Char) : List Char := cs.dropWhile isSpace

/-! ### Numbers -/

/-- The greatest unsigned 64-bit word. -/
def unsignedMax : Nat := 0xFFFFFFFFFFFFFFFF

/-- The greatest power of ten that a double is scaled by at once. -/
def maxScale : Nat := 308

/-- A power of ten, up to the greatest one. -/
def powerOfTen (e : Nat) : Float := Decimal.nearest ⟨1, e⟩

/-- A double times a power of ten: one multiplication, or one division after divisions by the
greatest power; `none` when the result is too great. -/
def scale? : (fuel : Nat) → Float → Int → Option Float
  | 0, x, _ => some x
  | fuel + 1, x, e =>
    if e.natAbs ≤ maxScale then
      if 0 ≤ e then
        let y := x * powerOfTen e.toNat
        if y.isInf then none else some y
      else some (x / powerOfTen e.natAbs)
    else if x == 0 then some x
    else if 0 ≤ e then none
    else scale? fuel (x / powerOfTen maxScale) (e + maxScale)

/-- Reads on the digits of a significand as long as it fits an unsigned word: the significand,
the number of digits read, and the text after them. -/
def significand : Nat → Nat → List Char → Nat × Nat × List Char
  | n, count, [] => (n, count, [])
  | n, count, c :: cs =>
    if c.isDigit then
      let m := n * 10 + (c.toNat - '0'.toNat)
      if m ≤ unsignedMax then significand m (count + 1) cs else (n, count, c :: cs)
    else (n, count, c :: cs)

/-- The double `± n · 10 ^ e`. -/
def makeFloat (negative : Bool) (n : Nat) (e : Int) (rest : List Char) :
    Except Fault (Json × List Char) :=
  match scale? 32 (Float.ofNat n) e with
  | some x => .ok (.float (if negative then -x else x), rest)
  | none => stop .numberOutOfRange rest

/-- The bound on written exponents; past it a double is zero or too great. -/
def exponentMax : Nat := 0x7FFFFFFF

/-- Reads on the digits of an exponent; `none` in place of one past the bound. -/
def exponentDigits : Nat → List Char → Option Nat × List Char
  | n, [] => (some n, [])
  | n, c :: cs =>
    if c.isDigit then
      let m := n * 10 + (c.toNat - '0'.toNat)
      if m ≤ exponentMax then exponentDigits m cs else (none, c :: cs)
    else (some n, c :: cs)

/-- The exponent of a number, after its letter. -/
def readExponent (negative : Bool) (n : Nat) (e : Int) (cs : List Char) :
    Except Fault (Json × List Char) :=
  let (down, cs) := match cs with
    | '+' :: cs => (false, cs)
    | '-' :: cs => (true, cs)
    | cs => (false, cs)
  match cs with
  | [] => stop .endInValue []
  | c :: rest =>
    if !c.isDigit then stop .invalidNumber rest
    else match exponentDigits (c.toNat - '0'.toNat) rest with
      | (some k, rest) => makeFloat negative n (if down then e - k else e + k) rest
      | (none, rest) =>
        -- the exponent is past its bound, so the number is zero or too great
        if n ≠ 0 ∧ !down then stop .numberOutOfRange rest
        else .ok (.float (if negative then -0.0 else 0.0), rest.dropWhile Char.isDigit)

/-- What follows the digits of a number: an exponent or nothing. -/
def readScaled (negative : Bool) (n : Nat) (e : Int) : List Char → Except Fault (Json × List Char)
  | 'e' :: cs => readExponent negative n e cs
  | 'E' :: cs => readExponent negative n e cs
  | cs => makeFloat negative n e cs

/-- The places of a number, after its point. -/
def readPlaces (negative : Bool) (n : Nat) (e : Int) (cs : List Char) :
    Except Fault (Json × List Char) :=
  match significand n 0 cs with
  | (m, count, rest) =>
    match rest with
    | c :: _ =>
      -- digits that do not fit the significand any more are passed over
      if c.isDigit then readScaled negative m (e - count) (rest.dropWhile Char.isDigit)
      else if count = 0 then stopAt .invalidNumber rest
      else readScaled negative m (e - count) rest
    | [] => if count = 0 then stopAt .endInValue [] else readScaled negative m (e - count) []

/-- What follows the digits of a whole number that is read as a double: places, an exponent or
nothing. -/
def readRest (negative : Bool) (n : Nat) (e : Int) : List Char → Except Fault (Json × List Char)
  | '.' :: cs => readPlaces negative n e cs
  | cs => readScaled negative n e cs

/-- The number that a significand of one word makes. -/
def wholeNumber (negative : Bool) (n : Nat) (rest : List Char) : Except Fault (Json × List Char) :=
  if !negative then .ok (.integer n, rest)
  -- minus zero, and what no signed word holds
  else if n = 0 ∨ 0x8000000000000000 < n then .ok (.float (-(Float.ofNat n)), rest)
  else .ok (.integer (-(n : Int)), rest)

/-- A number, after its sign. -/
def readNumber (negative : Bool) : List Char → Except Fault (Json × List Char)
  | [] => stop .endInValue []
  | '0' :: rest =>
    match rest with
    | c :: _ =>
      if c.isDigit then stopAt .invalidNumber rest
      else if c == '.' || c == 'e' || c == 'E' then readRest negative 0 0 rest
      else wholeNumber negative 0 rest
    | [] => wholeNumber negative 0 []
  | c :: rest =>
    if !c.isDigit then stop .invalidNumber rest
    else match significand (c.toNat - '0'.toNat) 0 rest with
      | (n, _, rest) =>
        match rest with
        | d :: _ =>
          if d.isDigit then
            let (more, after) := rest.span Char.isDigit
            readRest negative n more.length after
          else if d == '.' || d == 'e' || d == 'E' then readRest negative n 0 rest
          else wholeNumber negative n rest
        | [] => wholeNumber negative n []

/-! ### Text -/

/-- Four hexadecimal digits. -/
def readHex : List Char → Except Fault (Nat × List Char)
  | a :: b :: c :: d :: rest =>
    match Decimal.readDigits? 16 [a, b, c, d] with
    | some n => .ok (n, rest)
    | none => stop .invalidEscape rest
  | _ => stop .endInText []

/-- The code point of an escape, after its letter `u`; a leading surrogate wants a trailing one
in a second escape. -/
def readCodePoint (cs : List Char) : Except Fault (Char × List Char) := do
  let (n, rest) ← readHex cs
  if 0xDC00 ≤ n ∧ n ≤ 0xDFFF then stop .loneSurrogate rest
  else if n < 0xD800 ∨ 0xDBFF < n then pure (Char.ofNat n, rest)
  else match rest with
    | [] => stop .endInText []
    | c :: rest =>
      if c ≠ '\\' then stop .endOfEscape rest
      else match rest with
        | [] => stop .endInText []
        | u :: rest =>
          if u ≠ 'u' then stop .endOfEscape rest
          else do
            let (m, rest) ← readHex rest
            if m < 0xDC00 ∨ 0xDFFF < m then stop .loneSurrogate rest
            else pure (Char.ofNat ((n - 0xD800) * 0x400 + (m - 0xDC00) + 0x10000), rest)

/-- The character of an escape, after its backslash. -/
def readEscape : List Char → Except Fault (Char × List Char)
  | [] => stop .endInText []
  | c :: rest =>
    match c with
    | '"' => .ok ('"', rest)
    | '\\' => .ok ('\\', rest)
    | '/' => .ok ('/', rest)
    | 'b' => .ok ('\x08', rest)
    | 'f' => .ok ('\x0c', rest)
    | 'n' => .ok ('\n', rest)
    | 'r' => .ok ('\r', rest)
    | 't' => .ok ('\t', rest)
    | 'u' => readCodePoint rest
    | _ => stop .invalidEscape rest

/-- The rest of a text in quotes; `done` holds its characters so far, last first. -/
def readText : (fuel : Nat) → List Char → List Char → Except Fault (String × List Char)
  | 0, _, cs => stop .endInText cs
  | fuel + 1, done, cs =>
    match cs with
    | [] => stop .endInText []
    | '"' :: rest => .ok (String.ofList done.reverse, rest)
    | '\\' :: rest => do
      let (c, rest) ← readEscape rest
      readText fuel (c :: done) rest
    | c :: rest =>
      if c.toNat < 0x20 then stop .controlCharacter rest else readText fuel (c :: done) rest

/-! ### Values -/

/-- The rest of a word such as `true`. -/
def readIdent (value : Json) : List Char → List Char → Except Fault (Json × List Char)
  | [], cs => .ok (value, cs)
  | _ :: _, [] => stop .endInValue []
  | w :: word, c :: cs => if c = w then readIdent value word cs else stop .expectedIdent cs

/-- How deep arrays and objects may nest. -/
def maxDepth : Nat := 127

mutual

/-- A value, after the blanks in front of it; arrays and objects may still nest `depth` deep. -/
def readValue : (fuel depth : Nat) → List Char → Except Fault (Json × List Char)
  | 0, _, cs => stop .endInValue cs
  | fuel + 1, depth, cs =>
    match skipSpace cs with
    | [] => stopAt .endInValue []
    | 'n' :: rest => readIdent .null ['u', 'l', 'l'] rest
    | 't' :: rest => readIdent (.bool true) ['r', 'u', 'e'] rest
    | 'f' :: rest => readIdent (.bool false) ['a', 'l', 's', 'e'] rest
    | '"' :: rest => do
      let (s, rest) ← readText (rest.length + 1) [] rest
      pure (.text s, rest)
    | '-' :: rest => readNumber true rest
    | '[' :: rest =>
      match depth with
      | 0 => stopAt .nestingTooDeep ('[' :: rest)
      | depth + 1 => readItems fuel depth true [] rest
    | '\x7b' :: rest =>
      match depth with
      | 0 => stopAt .nestingTooDeep ('\x7b' :: rest)
      | depth + 1 => readEntries fuel depth true [] rest
    | c :: rest =>
      if c.isDigit then readNumber false (c :: rest) else stopAt .expectedValue (c :: rest)

/-- The rest of an array, whose items so far are `done`, last first. -/
def readItems :
    (fuel depth : Nat) → (first : Bool) → List Json → List Char →
      Except Fault (Json × List Char)
  | 0, _, _, _, cs => stop .endInList cs
  | fuel + 1, depth, first, done, cs =>
    match skipSpace cs with
    | [] => stopAt .endInList []
    | ']' :: rest => .ok (.array done.reverse, rest)
    | c :: rest =>
      if first then do
        let (v, rest) ← readValue fuel depth (c :: rest)
        readItems fuel depth false (v :: done) rest
      else if c ≠ ',' then stopAt .expectedCommaOrBracket (c :: rest)
      else match skipSpace rest with
        | [] => stopAt .endInValue []
        | ']' :: rest => stopAt .trailingComma (']' :: rest)
        | rest => do
          let (v, rest) ← readValue fuel depth rest
          readItems fuel depth false (v :: done) rest

/-- The rest of an object, whose entries so far are `done`. -/
def readEntries :
    (fuel depth : Nat) → (first : Bool) → List (String × Json) → List Char →
      Except Fault (Json × List Char)
  | 0, _, _, _, cs => stop .endInObject cs
  | fuel + 1, depth, first, done, cs =>
    match skipSpace cs with
    | [] => stopAt .endInObject []
    | '\x7d' :: rest => .ok (.object done, rest)
    | c :: rest =>
      if first then
        if c = '"' then readEntry fuel depth done rest else stopAt .keyNotText (c :: rest)
      else if c ≠ ',' then stopAt .expectedCommaOrBrace (c :: rest)
      else match skipSpace rest with
        | [] => stopAt .endInValue []
        | '"' :: rest => readEntry fuel depth done rest
        | '\x7d' :: rest => stopAt .trailingComma ('\x7d' :: rest)
        | rest => stopAt .keyNotText rest

/-- An entry of an object, after the quote of its key, and the rest of the object. -/
def readEntry :
    (fuel depth : Nat) → List (String × Json) → List Char →
      Except Fault (Json × List Char)
  | 0, _, _, cs => stop .endInObject cs
  | fuel + 1, depth, done, cs => do
    let (key, rest) ← readText (cs.length + 1) [] cs
    match skipSpace rest with
    | [] => stopAt .endInObject []
    | ':' :: rest =>
      let (v, rest) ← readValue fuel depth rest
      readEntries fuel depth false (insert key v done) rest
    | rest => stopAt .expectedColon rest

end

/-- The value that a text holds. -/
def parse (text : List Char) : Except Fault Json := do
  let (v, rest) ← readValue (2 * text.length + 2) maxDepth text
  match skipSpace rest with
  | [] => pure v
  | rest => stopAt .trailingCharacters rest

/-- The value that a text holds, or the wording of its fault. -/
def decode (text : List Char) : Except String Json :=
  match parse text with
  | .ok v => .ok v
  | .error f => .error (f.message text)

end Accession.Json
