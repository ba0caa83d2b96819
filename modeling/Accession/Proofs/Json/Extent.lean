import Mathlib.Data.List.TakeDrop
import Mathlib.Data.List.TakeWhile
import Accession.Json.Reader
import Accession.Proofs.Text.Blanks

/-!
# Where a value of JSON ends

A value ends where it ends, whatever stands behind it after white space.

* `Carries` : a reader that succeeds also succeeds with more text behind, and leaves that unread.
* `readNumber_carries`, `readText_carries`, `readValue_carries` : the readers do so.
* `Lone` : a text decodes to at most one value, with nothing but white space around it.
* `lone_decode` : that is so for `Json.decode`.
-/

namespace Accession.Json

open Text (isBlank isDigit_of_isBlank)

/-- Nothing, or text that begins with white space. -/
def Apart (more : List Char) : Prop := ∀ c ∈ more.head?, isBlank c

theorem ne_of_isBlank {c d : Char} (h : isBlank c) (hd : isBlank d = false) : c ≠ d := by
  rintro rfl
  rw [h] at hd
  cases hd

theorem isBlank_of_isSpace {c : Char} (h : isSpace c) : isBlank c := by
  simp only [isSpace, Bool.or_eq_true, beq_iff_eq] at h
  rcases h with ((rfl | rfl) | rfl) | rfl <;> decide

/-- If the first reading succeeds, so does the second, with more text left. -/
def Carries {α : Type} (more : List Char) (short long : Except Fault (α × List Char)) : Prop :=
  ∀ a rest, short = .ok (a, rest) → long = .ok (a, rest ++ more)

namespace Carries

variable {α β : Type} {more rest : List Char}

theorem ok (a : α) (rest : List Char) : Carries more (.ok (a, rest)) (.ok (a, rest ++ more)) := by
  intro b rest' h
  cases h
  rfl

theorem error {f : Fault} {long : Except Fault (α × List Char)} : Carries more (.error f) long :=
  fun _ _ h => nomatch h

theorem bind {short long : Except Fault (α × List Char)}
    {next next' : α × List Char → Except Fault (β × List Char)} (h : Carries more short long)
    (hnext : ∀ a rest, Carries more (next (a, rest)) (next' (a, rest ++ more))) :
    Carries more (short >>= next) (long >>= next') := by
  intro b rest' hb
  rcases short with f | ⟨a, rest⟩
  · cases hb
  · rw [h a rest rfl]
    exact hnext a rest b rest' hb

end Carries

/-! ### Numbers -/

section Numbers

variable {more : List Char} (hmore : Apart more)

include hmore

theorem dropDigits_append (cs : List Char) :
    (cs ++ more).dropWhile Char.isDigit = cs.dropWhile Char.isDigit ++ more := by
  induction cs with
  | nil =>
    cases more with
    | nil => rfl
    | cons c more => exact List.dropWhile_cons_of_neg (by simp [isDigit_of_isBlank (hmore c rfl)])
  | cons c cs ih =>
    rw [List.cons_append, List.dropWhile_cons, List.dropWhile_cons, ih]
    split <;> rfl

theorem takeDigits_append (cs : List Char) :
    (cs ++ more).takeWhile Char.isDigit = cs.takeWhile Char.isDigit := by
  induction cs with
  | nil =>
    cases more with
    | nil => rfl
    | cons c more => exact List.takeWhile_cons_of_neg (by simp [isDigit_of_isBlank (hmore c rfl)])
  | cons c cs ih => rw [List.cons_append, List.takeWhile_cons, List.takeWhile_cons, ih]

theorem significand_append (n count : Nat) (cs : List Char) :
    significand n count (cs ++ more) =
      ((significand n count cs).1, (significand n count cs).2.1,
        (significand n count cs).2.2 ++ more) := by
  induction cs generalizing n count with
  | nil =>
    cases more with
    | nil => rfl
    | cons c more => simp [significand, isDigit_of_isBlank (hmore c rfl)]
  | cons c cs ih =>
    rw [List.cons_append, significand, significand]
    split
    · dsimp only
      split
      · exact ih _ _
      · rfl
    · rfl

theorem exponentDigits_append (n : Nat) (cs : List Char) :
    exponentDigits n (cs ++ more) =
      ((exponentDigits n cs).1, (exponentDigits n cs).2 ++ more) := by
  induction cs generalizing n with
  | nil =>
    cases more with
    | nil => rfl
    | cons c more => simp [exponentDigits, isDigit_of_isBlank (hmore c rfl)]
  | cons c cs ih =>
    rw [List.cons_append, exponentDigits, exponentDigits]
    split
    · dsimp only
      split
      · exact ih _
      · rfl
    · rfl

omit hmore in
theorem makeFloat_carries (negative : Bool) (n : Nat) (e : Int) (rest : List Char) :
    Carries more (makeFloat negative n e rest) (makeFloat negative n e (rest ++ more)) := by
  unfold makeFloat
  cases scale? 32 (Float.ofNat n) e with
  | none => exact .error
  | some x => exact .ok _ rest

/-- The exponent of a number, after its sign. -/
def readPower (negative down : Bool) (n : Nat) (e : Int) :
    List Char → Except Fault (Json × List Char)
  | [] => stop .endInValue []
  | c :: rest =>
    if !c.isDigit then stop .invalidNumber rest
    else match exponentDigits (c.toNat - '0'.toNat) rest with
      | (some k, rest) => makeFloat negative n (if down then e - k else e + k) rest
      | (none, rest) =>
        if n ≠ 0 ∧ !down then stop .numberOutOfRange rest
        else .ok (.float (if negative then -0.0 else 0.0), rest.dropWhile Char.isDigit)

theorem readPower_carries (negative down : Bool) (n : Nat) (e : Int) (cs : List Char) :
    Carries more (readPower negative down n e cs) (readPower negative down n e (cs ++ more)) := by
  cases cs with
  | nil => exact .error
  | cons c rest =>
    rw [List.cons_append, readPower, readPower, exponentDigits_append hmore]
    split
    · exact .error
    · rcases exponentDigits (c.toNat - '0'.toNat) rest with ⟨_ | k, rest⟩
      · dsimp only
        split
        · exact .error
        · rw [dropDigits_append hmore]
          exact .ok _ _
      · exact makeFloat_carries negative n _ rest

omit hmore in
theorem readExponent_of_sign (negative : Bool) (n : Nat) (e : Int) {c : Char} (cs : List Char)
    (hplus : c ≠ '+') (hminus : c ≠ '-') :
    readExponent negative n e (c :: cs) = readPower negative false n e (c :: cs) := by
  unfold readExponent
  split
  next down rest heq =>
    split at heq
    · next h => exact absurd (List.cons.inj h).1 hplus
    · next h => exact absurd (List.cons.inj h).1 hminus
    · cases heq
      rfl

theorem readExponent_carries (negative : Bool) (n : Nat) (e : Int) (cs : List Char) :
    Carries more (readExponent negative n e cs) (readExponent negative n e (cs ++ more)) := by
  cases cs with
  | nil => exact .error
  | cons c cs =>
    by_cases hplus : c = '+'
    · subst hplus
      exact readPower_carries hmore negative false n e cs
    by_cases hminus : c = '-'
    · subst hminus
      exact readPower_carries hmore negative true n e cs
    rw [List.cons_append, readExponent_of_sign negative n e cs hplus hminus,
      readExponent_of_sign negative n e (cs ++ more) hplus hminus, ← List.cons_append]
    exact readPower_carries hmore negative false n e (c :: cs)

omit hmore in
/-- Without an exponent, a number is made of its digits. -/
theorem readScaled_of_ne (negative : Bool) (n : Nat) (e : Int) (cs : List Char)
    (hcs : ∀ c ∈ cs.head?, c ≠ 'e' ∧ c ≠ 'E') :
    readScaled negative n e cs = makeFloat negative n e cs := by
  unfold readScaled
  split
  · exact absurd rfl (hcs 'e' rfl).1
  · exact absurd rfl (hcs 'E' rfl).2
  · rfl

theorem readScaled_carries (negative : Bool) (n : Nat) (e : Int) (cs : List Char) :
    Carries more (readScaled negative n e cs) (readScaled negative n e (cs ++ more)) := by
  cases cs with
  | nil =>
    have hlong : ∀ c ∈ more.head?, c ≠ 'e' ∧ c ≠ 'E' := fun c hc =>
      ⟨ne_of_isBlank (hmore c hc) (by decide), ne_of_isBlank (hmore c hc) (by decide)⟩
    rw [List.nil_append, readScaled_of_ne negative n e more hlong]
    exact makeFloat_carries negative n e []
  | cons c cs =>
    by_cases hlower : c = 'e'
    · subst hlower
      exact readExponent_carries hmore negative n e cs
    by_cases hupper : c = 'E'
    · subst hupper
      exact readExponent_carries hmore negative n e cs
    have hne : ∀ d ∈ some c, d ≠ 'e' ∧ d ≠ 'E' := fun d hd => by
      cases hd
      exact ⟨hlower, hupper⟩
    rw [readScaled_of_ne negative n e (c :: cs) hne,
      readScaled_of_ne negative n e (c :: cs ++ more) hne]
    exact makeFloat_carries negative n e (c :: cs)

theorem readPlaces_carries (negative : Bool) (n : Nat) (e : Int) (cs : List Char) :
    Carries more (readPlaces negative n e cs) (readPlaces negative n e (cs ++ more)) := by
  rw [readPlaces, readPlaces, significand_append hmore]
  rcases significand n 0 cs with ⟨m, count, _ | ⟨c, rest⟩⟩
  · dsimp only
    split
    · exact .error
    · next hcount =>
      -- the places end with the text, or with the white space behind it
      have hscaled := readScaled_carries hmore negative m (e - count) []
      cases more with
      | nil => exact hscaled
      | cons d more =>
        dsimp only [List.nil_append]
        rw [isDigit_of_isBlank (hmore d rfl), if_neg Bool.false_ne_true]
        exact hscaled
  · dsimp only [List.cons_append]
    split
    · rw [← List.cons_append, dropDigits_append hmore]
      exact readScaled_carries hmore negative m (e - count) _
    · split
      · exact .error
      · exact readScaled_carries hmore negative m (e - count) (c :: rest)

omit hmore in
theorem readRest_of_ne (negative : Bool) (n : Nat) (e : Int) (cs : List Char)
    (hcs : ∀ c ∈ cs.head?, c ≠ '.') : readRest negative n e cs = readScaled negative n e cs := by
  unfold readRest
  split
  · exact absurd rfl (hcs '.' rfl)
  · rfl

theorem readRest_carries (negative : Bool) (n : Nat) (e : Int) (cs : List Char) :
    Carries more (readRest negative n e cs) (readRest negative n e (cs ++ more)) := by
  cases cs with
  | nil =>
    have hlong : ∀ c ∈ more.head?, c ≠ '.' := fun c hc => ne_of_isBlank (hmore c hc) (by decide)
    rw [List.nil_append, readRest_of_ne negative n e more hlong]
    exact readScaled_carries hmore negative n e []
  | cons c cs =>
    by_cases hpoint : c = '.'
    · subst hpoint
      exact readPlaces_carries hmore negative n e cs
    have hne : ∀ d ∈ some c, d ≠ '.' := fun d hd => by
      cases hd
      exact hpoint
    rw [readRest_of_ne negative n e (c :: cs) hne,
      readRest_of_ne negative n e (c :: cs ++ more) hne]
    exact readScaled_carries hmore negative n e (c :: cs)

omit hmore in
theorem wholeNumber_carries (negative : Bool) (n : Nat) (rest : List Char) :
    Carries more (wholeNumber negative n rest) (wholeNumber negative n (rest ++ more)) := by
  unfold wholeNumber
  split
  · exact .ok _ rest
  · split
    · exact .ok _ rest
    · exact .ok _ rest

/-- What follows the digits of a whole number that fits a word. -/
def readAfter (negative : Bool) (n : Nat) : List Char → Except Fault (Json × List Char)
  | [] => wholeNumber negative n []
  | c :: rest =>
    if c == '.' || c == 'e' || c == 'E' then readRest negative n 0 (c :: rest)
    else wholeNumber negative n (c :: rest)

theorem readAfter_carries (negative : Bool) (n : Nat) (cs : List Char) :
    Carries more (readAfter negative n cs) (readAfter negative n (cs ++ more)) := by
  cases cs with
  | nil =>
    have hwhole : readAfter negative n more = wholeNumber negative n more := by
      cases more with
      | nil => rfl
      | cons c more =>
        have hblank := hmore c rfl
        have hpoint : c ≠ '.' := ne_of_isBlank hblank (by decide)
        have hlower : c ≠ 'e' := ne_of_isBlank hblank (by decide)
        have hupper : c ≠ 'E' := ne_of_isBlank hblank (by decide)
        simp [readAfter, hpoint, hlower, hupper]
    rw [List.nil_append, hwhole]
    exact wholeNumber_carries negative n []
  | cons c cs =>
    rw [List.cons_append, readAfter, readAfter]
    split
    · exact readRest_carries hmore negative n 0 (c :: cs)
    · exact wholeNumber_carries negative n (c :: cs)

omit hmore in
theorem readNumber_zero (negative : Bool) (cs : List Char) : readNumber negative ('0' :: cs) =
    if cs.head?.any Char.isDigit then stopAt .invalidNumber cs else readAfter negative 0 cs := by
  cases cs with
  | nil => rfl
  | cons c cs => rfl

omit hmore in
theorem readNumber_of_ne (negative : Bool) {c : Char} (hc : c ≠ '0') (cs : List Char) :
    readNumber negative (c :: cs) =
      if !c.isDigit then stop .invalidNumber cs
      else
        let (n, _, rest) := significand (c.toNat - '0'.toNat) 0 cs
        if rest.head?.any Char.isDigit then
          readRest negative n (rest.takeWhile Char.isDigit).length (rest.dropWhile Char.isDigit)
        else readAfter negative n rest := by
  rw [readNumber]
  · split
    · rfl
    · rcases significand (c.toNat - '0'.toNat) 0 cs with ⟨n, count, _ | ⟨d, rest⟩⟩
      · rfl
      · simp only [List.span_eq_takeWhile_dropWhile, readAfter]
        rfl
  · rintro rfl
    exact hc rfl

theorem any_head_append (cs : List Char) :
    (cs ++ more).head?.any Char.isDigit = cs.head?.any Char.isDigit := by
  cases cs with
  | nil =>
    cases more with
    | nil => rfl
    | cons c more => exact isDigit_of_isBlank (hmore c rfl)
  | cons c cs => rfl

theorem readNumber_carries (negative : Bool) (cs : List Char) :
    Carries more (readNumber negative cs) (readNumber negative (cs ++ more)) := by
  cases cs with
  | nil => exact .error
  | cons c cs =>
    rw [List.cons_append]
    by_cases hzero : c = '0'
    · subst hzero
      rw [readNumber_zero, readNumber_zero, any_head_append hmore]
      split
      · exact .error
      · exact readAfter_carries hmore negative 0 cs
    · rw [readNumber_of_ne negative hzero, readNumber_of_ne negative hzero,
        significand_append hmore]
      split
      · exact .error
      · rcases significand (c.toNat - '0'.toNat) 0 cs with ⟨n, count, rest⟩
        dsimp only
        rw [any_head_append hmore, takeDigits_append hmore, dropDigits_append hmore]
        split
        · exact readRest_carries hmore negative n _ _
        · exact readAfter_carries hmore negative n rest

end Numbers

/-! ### Texts -/

section Texts

variable {more : List Char}

theorem readHex_carries (cs : List Char) : Carries more (readHex cs) (readHex (cs ++ more)) := by
  match cs with
  | a :: b :: c :: d :: rest =>
    simp only [List.cons_append, readHex]
    cases Decimal.readDigits? 16 [a, b, c, d] with
    | none => exact .error
    | some n => exact .ok n rest
  | [] | [_] | [_, _] | [_, _, _] => exact .error

theorem readCodePoint_carries (cs : List Char) :
    Carries more (readCodePoint cs) (readCodePoint (cs ++ more)) := by
  refine (readHex_carries cs).bind fun n rest => ?_
  dsimp only
  split
  · exact .error
  · split
    · exact .ok _ rest
    · match rest with
      | [] => exact .error
      | c :: rest =>
        dsimp only [List.cons_append]
        split
        · exact .error
        · match rest with
          | [] => exact .error
          | u :: rest =>
            dsimp only [List.cons_append]
            split
            · exact .error
            · refine (readHex_carries rest).bind fun m rest => ?_
              dsimp only
              split
              · exact .error
              · exact .ok _ rest

theorem readEscape_carries (cs : List Char) :
    Carries more (readEscape cs) (readEscape (cs ++ more)) := by
  cases cs with
  | nil => exact .error
  | cons c rest =>
    unfold readEscape
    dsimp only [List.cons_append]
    split
    all_goals first
      | exact .ok _ rest
      | exact readCodePoint_carries rest
      | exact .error

theorem readText_of_ne (fuel : Nat) (done : List Char) {c : Char} (rest : List Char)
    (hquote : c ≠ '"') (hescape : c ≠ '\\') : readText (fuel + 1) done (c :: rest) =
      if c.toNat < 0x20 then stop .controlCharacter rest else readText fuel (c :: done) rest := by
  rw [readText]
  · rintro rfl
    exact hquote rfl
  · rintro rfl
    exact hescape rfl

theorem readText_carries {fuel fuel' : Nat} (hfuel : fuel ≤ fuel') (done cs : List Char) :
    Carries more (readText fuel done cs) (readText fuel' done (cs ++ more)) := by
  induction fuel generalizing fuel' done cs with
  | zero => exact .error
  | succ fuel ih =>
    cases fuel' with
    | zero => exact absurd hfuel (Nat.not_succ_le_zero fuel)
    | succ fuel' =>
      have ih := fun done cs => ih (Nat.le_of_succ_le_succ hfuel) done cs
      cases cs with
      | nil => exact .error
      | cons c rest =>
        by_cases hquote : c = '"'
        · subst hquote
          exact .ok _ rest
        by_cases hescape : c = '\\'
        · subst hescape
          exact (readEscape_carries rest).bind fun c rest => ih (c :: done) rest
        rw [List.cons_append, readText_of_ne fuel done rest hquote hescape,
          readText_of_ne fuel' done (rest ++ more) hquote hescape]
        split
        · exact .error
        · exact ih (c :: done) rest

theorem readIdent_carries (value : Json) (word cs : List Char) :
    Carries more (readIdent value word cs) (readIdent value word (cs ++ more)) := by
  induction word generalizing cs with
  | nil => exact .ok value cs
  | cons w word ih =>
    cases cs with
    | nil => exact .error
    | cons c cs =>
      rw [List.cons_append, readIdent, readIdent]
      split
      · exact ih cs
      · exact .error

end Texts

/-! ### Values -/

section Values

variable {more : List Char}

/-- The readers of values carry more text, with so much fuel. -/
structure CarriesAt (more : List Char) (fuel fuel' : Nat) : Prop where
  value : ∀ depth cs, Carries more (readValue fuel depth cs) (readValue fuel' depth (cs ++ more))
  items : ∀ depth first done cs,
    Carries more (readItems fuel depth first done cs)
      (readItems fuel' depth first done (cs ++ more))
  entries : ∀ depth first done cs, Carries more (readEntries fuel depth first done cs)
    (readEntries fuel' depth first done (cs ++ more))
  entry : ∀ depth done cs,
    Carries more (readEntry fuel depth done cs) (readEntry fuel' depth done (cs ++ more))

theorem mem_of_skipSpace {c : Char} {cs rest : List Char} (h : skipSpace cs = c :: rest) :
    c ∈ cs := by
  have hmem : c ∈ skipSpace cs := h ▸ List.mem_cons_self
  exact (List.dropWhile_sublist isSpace).subset hmem

theorem skipSpace_append {c : Char} {cs rest : List Char} (h : skipSpace cs = c :: rest) :
    skipSpace (cs ++ more) = c :: (rest ++ more) := by
  induction cs with
  | nil => cases h
  | cons d cs ih =>
    rw [skipSpace, List.dropWhile_cons] at h
    rw [List.cons_append, skipSpace, List.dropWhile_cons]
    split at h
    · next hspace =>
      rw [if_pos hspace]
      exact ih h
    · next hspace =>
      rw [if_neg hspace]
      cases h
      rfl

variable {fuel fuel' : Nat}

theorem CarriesAt.readItems (h : CarriesAt more fuel fuel') (depth : Nat) (first : Bool)
    (done : List Json) (cs : List Char) : Carries more (readItems (fuel + 1) depth first done cs)
      (readItems (fuel' + 1) depth first done (cs ++ more)) := by
  have hnext (cs : List Char) : Carries more
      (Json.readValue fuel depth cs >>= fun p => Json.readItems fuel depth false (p.1 :: done) p.2)
      (Json.readValue fuel' depth (cs ++ more) >>=
        fun p => Json.readItems fuel' depth false (p.1 :: done) p.2) :=
    (h.value depth cs).bind fun v rest => h.items depth false (v :: done) rest
  rw [Json.readItems, Json.readItems]
  cases hcs : skipSpace cs with
  | nil => exact .error
  | cons c rest =>
    rw [skipSpace_append hcs]
    by_cases hclose : c = ']'
    · subst hclose
      exact .ok _ rest
    simp only
    split
    · exact hnext (c :: rest)
    · split
      · exact .error
      · cases hrest : skipSpace rest with
        | nil => exact .error
        | cons d after =>
          rw [skipSpace_append hrest]
          split
          · exact .error
          · exact .error
          · next hopen =>
            split
            · next heq => cases heq
            · next heq => exact absurd (congrArg (· :: after) (List.cons.inj heq).1) (hopen after)
            · exact hnext (d :: after)

theorem CarriesAt.readEntries (h : CarriesAt more fuel fuel') (depth : Nat) (first : Bool)
    (done : List (String × Json)) (cs : List Char) :
    Carries more (readEntries (fuel + 1) depth first done cs)
      (readEntries (fuel' + 1) depth first done (cs ++ more)) := by
  rw [Json.readEntries, Json.readEntries]
  cases hcs : skipSpace cs with
  | nil => exact .error
  | cons c rest =>
    rw [skipSpace_append hcs]
    by_cases hclose : c = '\x7d'
    · subst hclose
      exact .ok _ rest
    simp only
    split
    · split
      · exact h.entry depth done rest
      · exact .error
    · split
      · exact .error
      · cases hrest : skipSpace rest with
        | nil => exact .error
        | cons d after =>
          rw [skipSpace_append hrest]
          by_cases hquote : d = '"'
          · subst hquote
            exact h.entry depth done after
          · split
            · exact .error
            · next heq => exact absurd (List.cons.inj heq).1 hquote
            · exact .error
            · exact .error

theorem CarriesAt.readEntry (h : CarriesAt more fuel fuel') (depth : Nat)
    (done : List (String × Json)) (cs : List Char) :
    Carries more (readEntry (fuel + 1) depth done cs)
      (readEntry (fuel' + 1) depth done (cs ++ more)) := by
  have htext : Carries more (readText (cs.length + 1) [] cs)
      (readText ((cs ++ more).length + 1) [] (cs ++ more)) := by
    refine readText_carries ?_ [] cs
    rw [List.length_append]
    omega
  rw [Json.readEntry, Json.readEntry]
  refine htext.bind fun key rest => ?_
  dsimp only
  cases hrest : skipSpace rest with
  | nil => exact .error
  | cons c after =>
    rw [skipSpace_append hrest]
    by_cases hcolon : c = ':'
    · subst hcolon
      exact (h.value depth after).bind fun v rest => h.entries depth false (insert key v done) rest
    · split
      · exact .error
      · next heq => exact absurd (List.cons.inj heq).1 hcolon
      · exact .error

theorem readValue_congr {cs cs' : List Char} (h : skipSpace cs = skipSpace cs') (depth : Nat) :
    readValue (fuel + 1) depth cs = readValue (fuel + 1) depth cs' := by
  rw [readValue, readValue, h]

/-- The characters that settle what a value is, but for digits. -/
def marks : List Char := ['n', 't', 'f', '"', '-', '[', '\x7b']

theorem readValue_of_notMem {c : Char} {cs rest : List Char} (hcs : skipSpace cs = c :: rest)
    (hc : c ∉ marks) (depth : Nat) : readValue (fuel + 1) depth cs =
      if c.isDigit then readNumber false (c :: rest) else stopAt .expectedValue (c :: rest) := by
  simp only [marks, List.mem_cons, List.not_mem_nil, or_false, not_or] at hc
  obtain ⟨hnull, htrue, hfalse, hquote, hminus, harray, hobject⟩ := hc
  rw [readValue, hcs]
  simp only

variable (hmore : Apart more)

include hmore

theorem CarriesAt.readValue (h : CarriesAt more fuel fuel') (depth : Nat) (cs : List Char) :
    Carries more (readValue (fuel + 1) depth cs) (readValue (fuel' + 1) depth (cs ++ more)) := by
  cases hcs : skipSpace cs with
  | nil =>
    rw [Json.readValue, hcs]
    exact .error
  | cons c rest =>
    have hlong : skipSpace (cs ++ more) = c :: (rest ++ more) := skipSpace_append hcs
    by_cases hc : c ∈ marks
    · rw [Json.readValue, Json.readValue, hcs, hlong]
      simp only [marks, List.mem_cons, List.not_mem_nil, or_false] at hc
      rcases hc with rfl | rfl | rfl | rfl | rfl | rfl | rfl
      · exact readIdent_carries .null _ rest
      · exact readIdent_carries (.bool true) _ rest
      · exact readIdent_carries (.bool false) _ rest
      · refine (readText_carries ?_ [] rest).bind fun s rest => .ok (Json.text s) rest
        rw [List.length_append]
        omega
      · exact readNumber_carries hmore true rest
      · cases depth with
        | zero => exact .error
        | succ depth => exact h.items depth true [] rest
      · cases depth with
        | zero => exact .error
        | succ depth => exact h.entries depth true [] rest
    · rw [readValue_of_notMem hcs hc, readValue_of_notMem hlong hc]
      split
      · exact readNumber_carries hmore false (c :: rest)
      · exact .error

/-- **The readers of values carry more text.** -/
theorem carriesAt (hfuel : fuel ≤ fuel') : CarriesAt more fuel fuel' := by
  induction fuel generalizing fuel' with
  | zero =>
    constructor
    all_goals intros
    · rw [Json.readValue]; exact .error
    · rw [Json.readItems]; exact .error
    · rw [Json.readEntries]; exact .error
    · rw [Json.readEntry]; exact .error
  | succ fuel ih =>
    cases fuel' with
    | zero => exact absurd hfuel (Nat.not_succ_le_zero fuel)
    | succ fuel' =>
      have h : CarriesAt more fuel fuel' := ih (Nat.le_of_succ_le_succ hfuel)
      exact ⟨h.readValue hmore, h.readItems, h.readEntries, h.readEntry⟩

end Values

/-! ### Documents -/

/-- A text decodes to at most one value, with nothing but white space around it.  So no blank text
decodes; and where one decodes, a longer one with white space between decodes to nothing else, and
only if there is nothing but white space in it. -/
structure Lone (decode : List Char → Except String Json) : Prop where
  blank : ∀ text, text.all isBlank → ∀ v, decode text ≠ .ok v
  value : ∀ body v, decode body = .ok v → ∀ before after w, before.all isBlank → Apart after →
    decode (before ++ body ++ after) = .ok w → w = v ∧ after.all isBlank

theorem decode_eq_ok {text : List Char} {v : Json} : decode text = .ok v ↔ ∃ rest,
    readValue (2 * text.length + 2) maxDepth text = .ok (v, rest) ∧ skipSpace rest = [] := by
  rw [decode, parse]
  rcases readValue (2 * text.length + 2) maxDepth text with f | ⟨w, rest⟩
  · simp [bind, Except.bind]
  · simp only [bind, Except.bind]
    cases hskip : skipSpace rest with
    | nil => simp [pure, Except.pure, hskip]
    | cons c more => simp [stopAt, hskip]

/-- White space that is not passed over is no value. -/
theorem readValue_of_isBlank {c : Char} {cs rest : List Char} {fuel depth : Nat}
    (hcs : skipSpace cs = c :: rest) (hc : isBlank c) :
    readValue (fuel + 1) depth cs = stopAt .expectedValue (c :: rest) := by
  have hmarks : marks.all fun d => !isBlank d := by decide
  have hnotMem : c ∉ marks := fun hmem => by
    have hplain : isBlank c = false := by simpa using List.all_eq_true.1 hmarks c hmem
    exact ne_of_isBlank hc hplain rfl
  rw [readValue_of_notMem hcs hnotMem, isDigit_of_isBlank hc]
  rfl

/-- **One text is one value.** -/
theorem lone_decode : Lone decode where
  blank text hblank v h := by
    obtain ⟨rest, hread, -⟩ := decode_eq_ok.1 h
    cases hskip : skipSpace text with
    | nil =>
      rw [readValue, hskip] at hread
      cases hread
    | cons c after =>
      have hc : isBlank c := List.all_eq_true.1 hblank c (mem_of_skipSpace hskip)
      rw [readValue_of_isBlank hskip hc] at hread
      cases hread
  value body v h before after w hbefore hafter hw := by
    obtain ⟨rest, hread, hrest⟩ := decode_eq_ok.1 h
    obtain ⟨rest', hread', hrest'⟩ := decode_eq_ok.1 hw
    rw [List.append_assoc] at hread'
    cases hskip : skipSpace before with
    | cons c more =>
      -- white space of another kind is before the value
      have hc : isBlank c := List.all_eq_true.1 hbefore c (mem_of_skipSpace hskip)
      rw [readValue_of_isBlank (skipSpace_append hskip) hc] at hread'
      cases hread'
    | nil =>
      have hspace : skipSpace (before ++ (body ++ after)) = skipSpace (body ++ after) :=
        List.dropWhile_append_of_pos (List.dropWhile_eq_nil_iff.1 hskip)
      have hfuel : 2 * body.length + 2 ≤ 2 * (before ++ (body ++ after)).length + 2 := by
        simp only [List.length_append]
        omega
      have hlong := (carriesAt hafter hfuel).value maxDepth body v rest hread
      rw [readValue_congr hspace, hlong] at hread'
      cases hread'
      refine ⟨rfl, List.all_eq_true.2 fun c hc => isBlank_of_isSpace ?_⟩
      exact List.dropWhile_eq_nil_iff.1 hrest' c (List.mem_append_right _ hc)

end Accession.Json
