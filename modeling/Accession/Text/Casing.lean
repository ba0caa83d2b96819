import Accession.Text.Casing.Table

/-!
# Lower case

`lower` maps a text to lower case by the full Unicode rules: a capital may become two characters,
and a capital sigma at the end of a word takes its final form, which depends on the characters
around it.
-/

namespace Accession.Text

namespace LowerRun

/-- The character is one of the capitals of the run. -/
def covers (r : LowerRun) (c : Char) : Bool :=
  r.first ≤ c.toNat && c.toNat ≤ r.last && (c.toNat - r.first) % r.stride == 0

/-- The lower case of a capital of the run. -/
def lower (r : LowerRun) (c : Char) : Char := Char.ofNat (r.image + (c.toNat - r.first))

end LowerRun

/-- The property Cased. -/
def isCased (c : Char) : Bool := inRanges casedRanges c

/-- The property Case_Ignorable. -/
def isIgnorable (c : Char) : Bool := inRanges ignorableRanges c

/-- The lower case of a character apart from its neighbours. -/
def lowerChar (c : Char) : List Char :=
  if c.toNat < 0x80 then [c.toLower]
  else if c = '\u0130' then ['i', '\u0307']
  else match lowerRuns.find? (·.covers c) with
    | some r => [r.lower c]
    | none => [c]

/-- The first character that case rules do not look through is a cased one. -/
def meetsCased (cs : List Char) : Bool :=
  match cs.dropWhile isIgnorable with
  | [] => false
  | c :: _ => isCased c

/-- A sigma ends a word when a cased character stands before it and none after it; `before` is
read outwards from the sigma. -/
def endsWord (before after : List Char) : Bool := meetsCased before && !meetsCased after

/-- The lower case of a text that follows the characters `before`, nearest first. -/
def lowerAfter (before : List Char) : List Char → List Char
  | [] => []
  | c :: text =>
    (if c = 'Σ' then [if endsWord before text then 'ς' else 'σ'] else lowerChar c)
      ++ lowerAfter (c :: before) text

/-- The characters in lower case. -/
def lowered (cs : List Char) : List Char := lowerAfter [] cs

/-- The text in lower case. -/
def lower (s : String) : String := String.ofList (lowered s.toList)

end Accession.Text
