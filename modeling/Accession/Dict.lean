/-!
# Ordered dictionaries

A `Dict` is a list of entries in the order in which their keys were first added.

* `Dict.get?` : the value of a key.
* `Dict.insert` : gives a key a value; a key that is present keeps its place.
* `Dict.insertNew` : the same for a key that is not present; one that is keeps its value.
* `Dict.modify` : changes the value of a key that is present.
* `Dict.erase` : removes a key.

What each of them does is said through `get?`: `get?_insert_self`, `get?_insert_of_ne`, and the
same for `modify`.  Adding a key and removing it again gives back the dictionary itself, order
included (`erase_insert`).
-/

namespace Accession

/-- Entries in the order in which their keys were first added. -/
abbrev Dict (κ ν : Type) := List (κ × ν)

namespace Dict

variable {κ ν : Type} [DecidableEq κ]

/-- The value of a key. -/
def get? (d : Dict κ ν) (k : κ) : Option ν :=
  match d with
  | [] => none
  | (k', v) :: rest => if k' = k then some v else get? rest k

/-- The key is present. -/
def contains (d : Dict κ ν) (k : κ) : Bool := (get? d k).isSome

/-- The keys in order. -/
def keys (d : Dict κ ν) : List κ := d.map Prod.fst

/-- The values in order. -/
def values (d : Dict κ ν) : List ν := d.map Prod.snd

/-- Gives a key a value: in its place if it is present, else at the end. -/
def insert (d : Dict κ ν) (k : κ) (v : ν) : Dict κ ν :=
  match d with
  | [] => [(k, v)]
  | (k', v') :: rest => if k' = k then (k, v) :: rest else (k', v') :: insert rest k v

/-- Adds a key at the end, unless it is present. -/
def insertNew (d : Dict κ ν) (k : κ) (v : ν) : Dict κ ν :=
  if contains d k then d else d ++ [(k, v)]

/-- Changes the value of a key that is present. -/
def modify (d : Dict κ ν) (k : κ) (f : ν → ν) : Dict κ ν :=
  match d with
  | [] => []
  | (k', v) :: rest => if k' = k then (k', f v) :: rest else (k', v) :: modify rest k f

/-- Removes a key. -/
def erase (d : Dict κ ν) (k : κ) : Dict κ ν :=
  match d with
  | [] => []
  | (k', v) :: rest => if k' = k then rest else (k', v) :: erase rest k

/-- The dictionary of entries added one after another. -/
def ofEntries (entries : List (κ × ν)) : Dict κ ν :=
  entries.foldl (fun d e => insert d e.1 e.2) []

/-! ### Look-up -/

variable {d : Dict κ ν} {k k' : κ} {v w : ν}

theorem get?_cons (e : κ × ν) (d : Dict κ ν) (k : κ) :
    get? (e :: d) k = if e.1 = k then some e.2 else get? d k := rfl

theorem mem_of_get? (h : get? d k = some v) : (k, v) ∈ d := by
  induction d with
  | nil => cases h
  | cons e d ih =>
    rw [get?_cons] at h
    split at h
    · next hk =>
      cases h
      exact hk ▸ List.mem_cons_self
    · exact List.mem_cons_of_mem _ (ih h)

theorem contains_iff_mem_keys : contains d k ↔ k ∈ keys d := by
  induction d with
  | nil => simp [contains, get?, keys]
  | cons e d ih =>
    rw [contains, get?_cons, keys, List.map_cons, List.mem_cons]
    split
    · next hk => simp [hk]
    · next hk => exact ih.trans (or_iff_right (Ne.symm hk)).symm

theorem get?_eq_none_iff : get? d k = none ↔ k ∉ keys d := by
  rw [← contains_iff_mem_keys, contains, Bool.not_eq_true, Option.isSome_eq_false_iff,
    Option.isNone_iff_eq_none]

@[simp] theorem get?_insert_self : get? (insert d k v) k = some v := by
  induction d with
  | nil => simp [insert, get?_cons]
  | cons e d ih =>
    rw [insert]
    split
    · simp [get?_cons]
    · next hk => rw [get?_cons, if_neg hk, ih]

theorem get?_insert_of_ne (h : k' ≠ k) : get? (insert d k v) k' = get? d k' := by
  induction d with
  | nil => simp [insert, get?_cons, Ne.symm h]
  | cons e d ih =>
    rw [insert]
    split
    · next hk => rw [get?_cons, get?_cons, if_neg (Ne.symm h), if_neg (hk ▸ Ne.symm h)]
    · rw [get?_cons, get?_cons, ih]

theorem get?_modify_self (f : ν → ν) : get? (modify d k f) k = (get? d k).map f := by
  induction d with
  | nil => rfl
  | cons e d ih =>
    rw [modify]
    split
    · next hk => simp [get?_cons, hk]
    · next hk => rw [get?_cons, if_neg hk, ih, get?_cons, if_neg hk]

theorem get?_modify_of_ne (f : ν → ν) (h : k' ≠ k) : get? (modify d k f) k' = get? d k' := by
  induction d with
  | nil => rfl
  | cons e d ih =>
    rw [modify]
    split
    · next hk => rw [get?_cons, get?_cons, if_neg (hk ▸ Ne.symm h), if_neg (hk ▸ Ne.symm h)]
    · rw [get?_cons, get?_cons, ih]

theorem get?_erase_of_ne (h : k' ≠ k) : get? (erase d k) k' = get? d k' := by
  induction d with
  | nil => rfl
  | cons e d ih =>
    rw [erase]
    split
    · next hk => rw [get?_cons, if_neg (hk ▸ Ne.symm h)]
    · rw [get?_cons, get?_cons, ih]

/-! ### Entries -/

theorem mem_insert {e : κ × ν} (h : e ∈ insert d k v) : e = (k, v) ∨ e ∈ d := by
  induction d with
  | nil => exact .inl (List.mem_singleton.1 h)
  | cons e' d ih =>
    rw [insert] at h
    split at h
    · rcases List.mem_cons.1 h with h | h
      · exact .inl h
      · exact .inr (List.mem_cons_of_mem _ h)
    · rcases List.mem_cons.1 h with rfl | h
      · exact .inr List.mem_cons_self
      · exact (ih h).imp id (List.mem_cons_of_mem _)

theorem mem_erase {e : κ × ν} (h : e ∈ erase d k) : e ∈ d := by
  induction d with
  | nil => exact h
  | cons e' d ih =>
    rw [erase] at h
    split at h
    · exact List.mem_cons_of_mem _ h
    · rcases List.mem_cons.1 h with rfl | h
      · exact List.mem_cons_self
      · exact List.mem_cons_of_mem _ (ih h)

theorem keys_insert : keys (insert d k v) = if k ∈ keys d then keys d else keys d ++ [k] := by
  induction d with
  | nil => simp [insert, keys]
  | cons e d ih =>
    rw [insert]
    split
    · next hk => simp [keys, hk]
    · next hk =>
      have hmem : k ∈ keys (e :: d) ↔ k ∈ keys d := by simp [keys, Ne.symm hk]
      change e.1 :: keys (insert d k v) = _
      rw [ih]
      simp only [hmem]
      split <;> rfl

theorem length_insert (d : Dict κ ν) (k : κ) (v : ν) :
    (insert d k v).length = if k ∈ keys d then d.length else d.length + 1 := by
  have hlength := congrArg List.length (keys_insert (d := d) (k := k) (v := v))
  by_cases hk : k ∈ keys d
  · rw [if_pos hk] at hlength ⊢
    simpa [keys] using hlength
  · rw [if_neg hk] at hlength ⊢
    simpa [keys] using hlength

theorem insert_of_not_mem (h : k ∉ keys d) : insert d k v = d ++ [(k, v)] := by
  induction d with
  | nil => rfl
  | cons e d ih =>
    rw [keys, List.map_cons, List.mem_cons, not_or] at h
    rw [insert, if_neg (Ne.symm h.1), ih h.2, List.cons_append]

theorem keys_erase : keys (erase d k) = (keys d).erase k := by
  induction d with
  | nil => rfl
  | cons e d ih =>
    rw [erase]
    split
    · next hk => simp [keys, hk]
    · next hk =>
      change e.1 :: keys (erase d k) = (e.1 :: keys d).erase k
      rw [ih, List.erase_cons_tail (by simpa using hk)]

theorem nodup_keys_insert (h : (keys d).Nodup) : (keys (insert d k v)).Nodup := by
  rw [keys_insert]
  split
  · exact h
  · next hk =>
    refine List.nodup_append.2 ⟨h, by simp, fun a ha b hb hab => hk ?_⟩
    rw [← List.mem_singleton.1 hb, ← hab]
    exact ha

theorem nodup_keys_erase (h : (keys d).Nodup) : (keys (erase d k)).Nodup := by
  rw [keys_erase]
  exact h.sublist List.erase_sublist

theorem get?_erase_self (h : (keys d).Nodup) : get? (erase d k) k = none := by
  rw [get?_eq_none_iff, keys_erase]
  exact fun hk => (h.mem_erase_iff.1 hk).1 rfl

/-- A dictionary is known by its keys in order and by what they mean. -/
theorem eq_of_keys {d' : Dict κ ν} (hkeys : keys d = keys d') (hdistinct : (keys d).Nodup)
    (h : ∀ k, get? d k = get? d' k) : d = d' := by
  induction d generalizing d' with
  | nil => exact (List.map_eq_nil_iff.1 hkeys.symm).symm
  | cons e d ih =>
    cases d' with
    | nil => cases hkeys
    | cons e' d' =>
      have hfirst : e.1 = e'.1 := (List.cons.inj hkeys).1
      have hrest : keys d = keys d' := (List.cons.inj hkeys).2
      have hnew : e.1 ∉ keys d := (List.nodup_cons.1 hdistinct).1
      have hvalue := h e.1
      rw [get?_cons, get?_cons, if_pos rfl, if_pos hfirst.symm, Option.some_inj] at hvalue
      obtain rfl : e = e' := Prod.ext hfirst hvalue
      refine congrArg (List.cons e) (ih hrest (List.nodup_cons.1 hdistinct).2 fun k => ?_)
      by_cases hk : e.1 = k
      · rw [get?_eq_none_iff.2 (hk ▸ hnew), get?_eq_none_iff.2 (hrest ▸ hk ▸ hnew)]
      · have hlater := h k
        rwa [get?_cons, get?_cons, if_neg hk, if_neg hk] at hlater

theorem insert_insert : insert (insert d k v) k w = insert d k w := by
  induction d with
  | nil => simp [insert]
  | cons e d ih =>
    simp only [insert]
    split
    · simp [insert]
    · next hk => rw [insert, if_neg hk, ih]

theorem insert_of_get? (h : get? d k = some v) : insert d k v = d := by
  induction d with
  | nil => cases h
  | cons e d ih =>
    rw [get?_cons] at h
    rw [insert]
    split at h
    · next hk =>
      cases h
      rw [if_pos hk, ← hk]
    · next hk => rw [if_neg hk, ih h]

/-- A key that was not present leaves no trace. -/
theorem erase_insert (h : get? d k = none) : erase (insert d k v) k = d := by
  induction d with
  | nil => simp [insert, erase]
  | cons e d ih =>
    rw [get?_cons] at h
    split at h
    · cases h
    · next hk => rw [insert, if_neg hk, erase, if_neg hk, ih h]

/-! ### Dictionaries made of entries -/

variable {entries : List (κ × ν)}

theorem ofEntries_append (entries : List (κ × ν)) (k : κ) (v : ν) :
    ofEntries (entries ++ [(k, v)]) = insert (ofEntries entries) k v := by
  rw [ofEntries, List.foldl_append]
  rfl

theorem mem_keys_ofEntries : k ∈ keys (ofEntries entries) ↔ k ∈ entries.map Prod.fst := by
  -- entries are added at the end, so the induction begins there
  rw [← entries.reverse_reverse]
  induction entries.reverse with
  | nil => rfl
  | cons e entries ih =>
    rw [List.reverse_cons, ofEntries_append, keys_insert, List.map_append]
    by_cases hk : e.1 ∈ keys (ofEntries entries.reverse)
    · rw [if_pos hk, List.mem_append, ih, or_iff_left_of_imp]
      intro hlast
      obtain rfl := List.mem_singleton.1 hlast
      exact ih.1 hk
    · rw [if_neg hk, List.mem_append, List.mem_append, ih, List.map_singleton]

/-- Entries with different keys are a dictionary as they are. -/
theorem ofEntries_of_nodup (h : (entries.map Prod.fst).Nodup) : ofEntries entries = entries := by
  revert h
  rw [← entries.reverse_reverse]
  induction entries.reverse with
  | nil => exact fun _ => rfl
  | cons e entries ih =>
    rw [List.reverse_cons, List.map_append, List.nodup_append]
    rintro ⟨hentries, -, hnew⟩
    rw [ofEntries_append, insert_of_not_mem, ih hentries]
    exact fun hk => hnew e.1 (mem_keys_ofEntries.1 hk) e.1 (by simp) rfl

theorem length_ofEntries_le (entries : List (κ × ν)) :
    (ofEntries entries).length ≤ entries.length := by
  rw [← entries.reverse_reverse]
  induction entries.reverse with
  | nil => exact Nat.le_refl 0
  | cons e entries ih =>
    rw [List.reverse_cons, ofEntries_append, length_insert, List.length_append,
      List.length_singleton]
    split <;> omega

/-- No entry is lost just if the keys are different. -/
theorem length_ofEntries_eq_iff :
    (ofEntries entries).length = entries.length ↔ (entries.map Prod.fst).Nodup := by
  refine ⟨?_, fun h => by rw [ofEntries_of_nodup h]⟩
  rw [← entries.reverse_reverse]
  induction entries.reverse with
  | nil => exact fun _ => List.nodup_nil
  | cons e entries ih =>
    intro h
    have hle := length_ofEntries_le entries.reverse
    rw [List.reverse_cons, ofEntries_append, length_insert, List.length_append,
      List.length_singleton] at h
    by_cases hk : e.1 ∈ keys (ofEntries entries.reverse)
    · rw [if_pos hk] at h
      omega
    · rw [if_neg hk] at h
      rw [mem_keys_ofEntries] at hk
      rw [List.reverse_cons, List.map_append, List.map_singleton, List.nodup_append]
      refine ⟨ih (by omega), by simp, fun a ha b hb => ?_⟩
      rw [List.mem_singleton.1 hb]
      exact fun hab => hk (hab ▸ ha)

end Dict

end Accession
