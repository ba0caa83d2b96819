import Accession.Store.Statement

/-!
# The tokens of a statement

A database reads a statement as words, names between double quotes, numbered placeholders, and
single marks.  Inside a name a double quote is written twice; outside, it can only begin one.

* `tokens?` : the tokens of a text, by a scan from left to right; a text that cannot be read, or
  that ends inside a name, has none.
* `Spells` : a text is read as some tokens wherever it stands between others; `Closed` : the same,
  and whatever follows does not belong to its last token.
* `Spells.separated` : parts with separators between them spell the tokens of the parts, with those
  of the separators between them.
-/

namespace Accession.Sql

/-- A word or number, a quoted name, a placeholder, or a mark that stands for itself. -/
inductive Token where
  | word (text : String)
  | name (text : String)
  | placeholder (position : Nat)
  | mark (c : Char)
  deriving DecidableEq, Repr

namespace Token

/-- The name that a token quotes. -/
def name? : Token → Option String
  | name text => some text
  | _ => none

/-- The position of a placeholder. -/
def position? : Token → Option Nat
  | placeholder position => some position
  | _ => none

end Token

/-- Where a scan stands: between tokens, or inside one, whose characters so far are kept with the
latest first. -/
inductive Within where
  | blank
  | word (seen : List Char)
  | name (seen : List Char)
  /-- After a double quote in a name: the name is over, unless another one follows. -/
  | quote (seen : List Char)
  | placeholder (seen : List Char)

namespace Within

/-- Where the scan stands after a character that belongs to the same token. -/
def goOn? : Within → Char → Option Within
  | blank, _ => none
  | word seen, c => if Text.continuesIdentifier c then some (word (c :: seen)) else none
  | name seen, c => some (if c = '"' then quote seen else name (c :: seen))
  | quote seen, c => if c = '"' then some (name (c :: seen)) else none
  | placeholder seen, c => if c.isDigit then some (placeholder (c :: seen)) else none

/-- The tokens found once the current one is over, if it may be. -/
def finish? : Within → List Token → Option (List Token)
  | blank, found => some found
  | word seen, found => some (.word (String.ofList seen.reverse) :: found)
  | name _, _ => none
  | quote seen, found => some (.name (String.ofList seen.reverse) :: found)
  | placeholder [], _ => none
  | placeholder (d :: seen), found =>
    some (.placeholder (Nat.ofDigitChars 10 (d :: seen).reverse 0) :: found)

end Within

/-- The marks of a statement. -/
def marks : List Char := ['(', ')', ',', '=']

/-- A character that does not belong to the token before it. -/
def start? (c : Char) (found : List Token) : Option (Within × List Token) :=
  if c.isWhitespace then some (.blank, found)
  else if c = '"' then some (.name [], found)
  else if c = '$' then some (.placeholder [], found)
  else if Text.continuesIdentifier c then some (.word [c], found)
  else if c ∈ marks then some (.blank, .mark c :: found)
  else none

/-- The tokens of a text after those found before it, latest first. -/
def scan : List Char → Within → List Token → Option (List Token)
  | [], w, found => w.finish? found
  | c :: text, w, found =>
    match w.goOn? c with
    | some w => scan text w found
    | none =>
      match (w.finish? found).bind (start? c) with
      | some (w, found) => scan text w found
      | none => none

/-- The tokens of a statement. -/
def tokens? (sql : String) : Option (List Token) := (scan sql.toList .blank []).map List.reverse

/-- The text does not go on with a token before it. -/
def breaks : List Char → Bool
  | [] => true
  | c :: _ => c != '"' && !Text.continuesIdentifier c

/-- The text is read as the tokens, if what follows does not go on with the last of them. -/
def Spells (text : String) (tokens : List Token) : Prop :=
  ∀ rest found, breaks rest →
    scan (text.toList ++ rest) .blank found = scan rest .blank (tokens.reverse ++ found)

/-- The text is read as the tokens, whatever follows. -/
def Closed (text : String) (tokens : List Token) : Prop :=
  ∀ rest found, scan (text.toList ++ rest) .blank found = scan rest .blank (tokens.reverse ++ found)

section Scan

variable {w : Within} {found found' : List Token} {rest seen : List Char}

theorem goOn?_eq_none {c : Char} (hc : c ≠ '"') (hw : Text.continuesIdentifier c = false)
    (hfinish : w.finish? found = some found') : w.goOn? c = none := by
  cases w with
  | blank => rfl
  | word seen => simp [Within.goOn?, hw]
  | name seen => cases hfinish
  | quote seen => simp [Within.goOn?, hc]
  | placeholder seen =>
    have hdigit : c.isDigit = false := by
      simp only [Text.continuesIdentifier, Char.isAlphanum, Bool.or_eq_false_iff] at hw
      exact hw.1.2
    simp [Within.goOn?, hdigit]

/-- A token is over where the text does not go on with it. -/
theorem scan_of_breaks (hrest : breaks rest) (hfinish : w.finish? found = some found') :
    scan rest w found = scan rest .blank found' := by
  cases rest with
  | nil => exact hfinish
  | cons c rest =>
    simp only [breaks, Bool.and_eq_true, bne_iff_ne, Bool.not_eq_true'] at hrest
    simp only [scan, goOn?_eq_none hrest.1 hrest.2 hfinish, hfinish]
    rfl

theorem scan_name (chars : List Char) (h : '"' ∉ chars) :
    scan (chars ++ rest) (.name seen) found = scan rest (.name (chars.reverse ++ seen)) found := by
  induction chars generalizing seen with
  | nil => rfl
  | cons c chars ih =>
    have hc : c ≠ '"' := fun hc => h (hc ▸ List.mem_cons_self)
    rw [List.cons_append, scan, Within.goOn?, if_neg hc]
    refine (ih fun hmem => h (List.mem_cons_of_mem _ hmem)).trans ?_
    rw [List.reverse_cons, List.append_assoc]
    rfl

theorem scan_digits (digits : List Char) (h : ∀ c ∈ digits, c.isDigit) :
    scan (digits ++ rest) (.placeholder seen) found =
      scan rest (.placeholder (digits.reverse ++ seen)) found := by
  induction digits generalizing seen with
  | nil => rfl
  | cons c digits ih =>
    obtain ⟨hc, hdigits⟩ := List.forall_mem_cons.1 h
    rw [List.cons_append, scan, Within.goOn?, if_pos hc]
    refine (ih hdigits).trans ?_
    rw [List.reverse_cons, List.append_assoc]
    rfl

end Scan

section Texts

variable {a b sep text : String} {as bs ss tokens : List Token}

theorem tokens?_of_spells (h : Spells text tokens) : tokens? text = some tokens := by
  have hscan := h [] [] rfl
  rw [List.append_nil, List.append_nil] at hscan
  rw [tokens?, hscan]
  exact congrArg some (List.reverse_reverse tokens)

theorem Closed.spells (h : Closed text tokens) : Spells text tokens := fun rest found _ =>
  h rest found

theorem Closed.append (ha : Closed a as) (hb : Spells b bs) : Spells (a ++ b) (as ++ bs) := by
  intro rest found hrest
  rw [String.toList_append, List.append_assoc, ha, hb _ _ hrest, List.reverse_append,
    List.append_assoc]

theorem Spells.append (ha : Spells a as) (hb : Spells b bs)
    (hbreaks : ∀ rest, breaks (b.toList ++ rest)) : Spells (a ++ b) (as ++ bs) := by
  intro rest found hrest
  rw [String.toList_append, List.append_assoc, ha _ _ (hbreaks rest), hb _ _ hrest,
    List.reverse_append, List.append_assoc]

theorem Spells.around (ha : Spells a as) (hsep : Closed sep ss)
    (hbreaks : ∀ rest, breaks (sep.toList ++ rest)) (hb : Spells b bs) :
    Spells (a ++ sep ++ b) (as ++ ss ++ bs) := by
  intro rest found hrest
  have hgo := ha (sep.toList ++ (b.toList ++ rest)) found (hbreaks _)
  rw [String.toList_append, String.toList_append, List.append_assoc, List.append_assoc, hgo, hsep,
    hb _ _ hrest]
  simp only [List.reverse_append, List.append_assoc]

/-- Parts with separators between them. -/
theorem Spells.separated {α : Type} {part : α → String} {spelt : α → List Token} {parts : List α}
    (hsep : Closed sep ss) (hbreaks : ∀ rest, breaks (sep.toList ++ rest))
    (h : ∀ p ∈ parts, Spells (part p) (spelt p)) :
    Spells (String.intercalate sep (parts.map part)) (List.intercalate ss (parts.map spelt)) := by
  induction parts with
  | nil => exact fun _ _ _ => rfl
  | cons p parts ih =>
    obtain ⟨hp, hparts⟩ := List.forall_mem_cons.1 h
    cases parts with
    | nil => simpa using hp
    | cons q parts =>
      simp only [List.map_cons, String.intercalate_cons_cons, List.intercalate_cons_cons]
      exact hp.around hsep hbreaks (ih hparts)

/-- A name without double quotes is read back from between them. -/
theorem spells_quotedName {name : String} (h : '"' ∉ name.toList) :
    Spells (quotedName name) [.name name] := by
  intro rest found hrest
  have hquote : (quotedName name).toList ++ rest = '"' :: (name.toList ++ '"' :: rest) := by
    simp [quotedName, String.toList_append]
  rw [hquote]
  change scan (name.toList ++ '"' :: rest) (.name []) found = _
  rw [scan_name name.toList h, List.append_nil]
  change scan rest (.quote name.toList.reverse) found = _
  refine scan_of_breaks hrest ?_
  rw [Within.finish?, List.reverse_reverse, String.ofList_toList]
  rfl

theorem spells_placeholder (position : Nat) :
    Spells (placeholder position) [.placeholder position] := by
  intro rest found hrest
  have hdigits : (placeholder position).toList ++ rest =
      '$' :: (Nat.toDigits 10 position ++ rest) := by
    simp [placeholder, String.toList_append]
  rw [hdigits]
  change scan (Nat.toDigits 10 position ++ rest) (.placeholder []) found = _
  rw [scan_digits _ fun c hc => Nat.isDigit_of_mem_toDigits (by omega) (by omega) hc,
    List.append_nil]
  refine scan_of_breaks hrest ?_
  -- a number has a digit
  obtain ⟨d, seen, hseen⟩ := List.exists_cons_of_ne_nil
    (List.reverse_ne_nil_iff.2 (Nat.toDigits_ne_nil (n := position) (b := 10)))
  rw [hseen, Within.finish?, ← hseen, List.reverse_reverse, Nat.ofDigitChars_ten_toDigits]
  rfl

end Texts

end Accession.Sql
