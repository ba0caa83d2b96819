import Accession.Proofs.Store.Lookups
import Accession.Store.Memory

/-!
# Upserts into the store in memory

An upsert opens a transaction for its insertion and closes it again, so all that is left of it is
the row, or nothing.

* `Memory.existing?` : the key that the lookup after a conflict finds.
* `Memory.upsert_free`, `Memory.upsert_taken`, `Memory.upsert_refused` : what an upsert does, by
  what the checks say of the row.
* `Memory.existing?_of_taken` : a conflict is always resolved, since the row in the way meets the
  filter of its constraint.
* `Memory.upsert_cases` : all that an upsert can do.  `Memory.upsert_ok` is about one that succeeds,
  and `Memory.upsert_unchanged` about one that fails.
-/

namespace Accession

namespace Memory

variable {r : Registry} {mode : TextMatch} {m m' : Memory} {t : TableSchema} {table : String}
  {row values : Row} {columns : List String} {constraints : List (List String)} {stored : StoredRow}
  {key : Key}

/-- The row of a key is in the table. -/
def HasKey (m : Memory) (table : String) (key : Key) : Prop :=
  ∃ stored ∈ m.rows table, stored.key = key

/-! ### The lookup after a conflict -/

/-- The key of the first row found by some constraints in order. -/
def existing? (m : Memory) (mode : TextMatch) (t : TableSchema) (row : Row) :
    List (List String) → Option Key
  | [] => none
  | columns :: rest =>
    match (constraintFilter? mode t row columns).bind (m.find t) with
    | some key => some key
    | none => existing? m mode t row rest

theorem findExisting_apply (m : Memory) (row : Row) (constraints : List (List String)) :
    (Store.inMemory r mode).findExisting t row constraints m =
      match m.existing? mode t row constraints with
      | some key => (.ok key, m)
      | none => (.error (.unmatchedConflict t.name), m) := by
  induction constraints with
  | nil => rfl
  | cons columns rest ih =>
    rw [Store.findExisting, existing?]
    have hmode : (Store.inMemory r mode).textMatch = mode := rfl
    rw [hmode]
    cases constraintFilter? mode t row columns with
    | none => exact ih
    | some filter =>
      have hfind : Step.ofStore ((Store.inMemory r mode).backend.find t filter) m =
          (.ok (m.find t filter), m) := rfl
      dsimp only [Option.bind_some]
      rw [Step.bind_ok hfind]
      cases m.find t filter with
      | none => exact ih
      | some key => rfl

theorem hasKey_of_find {filter : Filter} (h : m.find t filter = some key) :
    m.HasKey t.name key := by
  rw [find, Option.map_eq_some_iff] at h
  obtain ⟨stored, hstored, rfl⟩ := h
  exact ⟨stored, List.mem_of_find?_eq_some hstored, rfl⟩

/-- Where a row meets the filter, the lookup finds one. -/
theorem find_of_holds {filter : Filter} (hstored : stored ∈ m.rows t.name)
    (hholds : filter.holds stored.values) : ∃ key, m.find t filter = some key := by
  have hsome : ((m.rows t.name).find? fun r => filter.holds r.values).isSome :=
    List.find?_isSome.2 ⟨stored, hstored, hholds⟩
  obtain ⟨first, hfirst⟩ := Option.isSome_iff_exists.1 hsome
  exact ⟨first.key, by rw [find, hfirst]; rfl⟩

theorem hasKey_of_existing? (h : m.existing? mode t row constraints = some key) :
    m.HasKey t.name key := by
  induction constraints with
  | nil => cases h
  | cons columns rest ih =>
    rw [existing?] at h
    split at h
    · next key' hkey =>
      cases h
      obtain ⟨filter, -, hfind⟩ := Option.bind_eq_some_iff.1 hkey
      exact hasKey_of_find hfind
    · exact ih h

/-- A row in the way is one that the lookup finds. -/
theorem resembles_of_agrees (mode : TextMatch) (h : agrees columns values stored) :
    Resembles mode columns values stored.values := by
  intro c hc
  obtain ⟨v, w, hv, hw, hwv⟩ := agrees_iff.1 h c hc
  exact ⟨v, w, hv, hw, seeking_holds mode hwv⟩

theorem existing?_of_found (hcolumns : columns ∈ constraints)
    (hfound : (constraintFilter? mode t row columns).bind (m.find t) = some key) :
    ∃ first, m.existing? mode t row constraints = some first := by
  induction constraints with
  | nil => cases hcolumns
  | cons columns' rest ih =>
    rw [existing?]
    split
    · next first _ => exact ⟨first, rfl⟩
    · next hnone =>
      -- so the constraint is one of the others
      refine ih ((List.mem_cons.1 hcolumns).resolve_left ?_)
      rintro rfl
      rw [hfound] at hnone
      cases hnone

/-- **A conflict is always resolved**, at the latest by the constraint that is violated. -/
theorem existing?_of_taken (mode : TextMatch) (hc : t.coerceRow row = .ok values)
    (ht : m.Taken t values) : ∃ key, m.existing? mode t row t.unique = some key := by
  obtain ⟨columns, hcolumns, stored, hstored, ha⟩ := ht
  obtain ⟨filter, hfilter, hholds⟩ := resembles_iff.1 (resembles_of_agrees mode ha)
  obtain ⟨key, hkey⟩ := find_of_holds hstored hholds
  have hfound : (constraintFilter? mode t row columns).bind (m.find t) = some key := by
    rw [constraintFilter?_of_coerceRow mode hc, hfilter, Option.bind_some, hkey]
  exact existing?_of_found hcolumns hfound

/-! ### The transaction of an upsert -/

theorem commit_store_begin (m : Memory) (table : String) (values : Row) :
    (m.begin.store table values).commit = (.ok (), m.store table values) := by
  -- the log of the upsert is handed on, or dropped if no transaction is around it
  obtain ⟨tables, sequences, _ | ⟨log, outer⟩⟩ := m <;> rfl

theorem upsert_apply (ht : r.get? table = some t) (m : Memory) (row : Row) :
    (Store.inMemory r mode).upsert table row m =
      (Store.inMemory r mode).settle t row (m.begin.insert t row).1 (m.begin.insert t row).2 := by
  have hschema : (Store.inMemory r mode).schemas.get? table = some t := ht
  simp only [Store.upsert, hschema]
  rfl

theorem settle_error (m : Memory) (row : Row) {e : StoreError}
    (he : e.isUniqueViolation = false) :
    (Store.inMemory r mode).settle t row (.error e) m.begin = (.error (.store e), m) := by
  rw [Store.settle, he]
  rfl

theorem settle_conflict (m : Memory) (row : Row) {e : StoreError} (he : e.isUniqueViolation)
    (hk : m.existing? mode t row t.unique = some key) :
    (Store.inMemory r mode).settle t row (.error e) m.begin = (.ok ⟨key, false⟩, m) := by
  have hroll : Step.ofStore (Store.inMemory r mode).backend.rollback m.begin = (.ok (), m) := rfl
  have hfind : (Store.inMemory r mode).findExisting t row t.unique m = (.ok key, m) := by
    rw [findExisting_apply, hk]
  rw [Store.settle, Step.bind_ok hroll, if_pos he, Step.bind_ok hfind]
  rfl

/-- A row that no check refuses is stored. -/
theorem upsert_free (ht : r.get? table = some t) (hc : t.coerceRow row = .ok values)
    (hr : m.refusal? t values = none) : (Store.inMemory r mode).upsert table row m =
      (.ok ⟨m.sequence t.name + 1, true⟩, m.store t.name values) := by
  have hinsert : m.begin.insert t row =
      (.ok (m.sequence t.name + 1), m.begin.store t.name values) := insert_of_ok hc hr
  have hcommit : Step.ofStore (Store.inMemory r mode).backend.commit
      (m.begin.store t.name values) = (.ok (), m.store t.name values) :=
    Step.ofStore_of_ok (commit_store_begin m t.name values)
  rw [upsert_apply ht, hinsert, Store.settle, Step.bind_ok hcommit]
  rfl

/-- For a row that is refused for want of uniqueness only, the constraints lead to a key. -/
theorem upsert_conflict (mode : TextMatch) (ht : r.get? table = some t)
    (hc : t.coerceRow row = .ok values) (ha : m.Admits t values) (htaken : m.Taken t values) :
    ∃ key, m.existing? mode t row t.unique = some key ∧
      (Store.inMemory r mode).upsert table row m = (.ok ⟨key, false⟩, m) := by
  obtain ⟨e, hr, he⟩ := refusal?_of_taken ha htaken
  obtain ⟨key, hkey⟩ := existing?_of_taken mode hc htaken
  have hinsert : m.begin.insert t row = (.error e, m.begin) := insert_of_refusal hc hr
  refine ⟨key, hkey, ?_⟩
  rw [upsert_apply ht, hinsert]
  exact settle_conflict m row he hkey

/-- For a row that is refused for want of uniqueness only, there is one in the table. -/
theorem upsert_taken (mode : TextMatch) (ht : r.get? table = some t)
    (hc : t.coerceRow row = .ok values) (ha : m.Admits t values) (htaken : m.Taken t values) :
    ∃ key, m.HasKey t.name key ∧
      (Store.inMemory r mode).upsert table row m = (.ok ⟨key, false⟩, m) := by
  obtain ⟨key, hkey, hu⟩ := upsert_conflict mode ht hc ha htaken
  exact ⟨key, hasKey_of_existing? hkey, hu⟩

/-- Any other refusal is the answer. -/
theorem upsert_refused (ht : r.get? table = some t) (hc : t.coerceRow row = .ok values)
    {e : StoreError} (hr : m.refusal? t values = some e) (he : e.isUniqueViolation = false) :
    (Store.inMemory r mode).upsert table row m = (.error (.store e), m) := by
  have hinsert : m.begin.insert t row = (.error e, m.begin) := insert_of_refusal hc hr
  rw [upsert_apply ht, hinsert]
  exact settle_error m row he

theorem upsert_of_coerceRow_error (ht : r.get? table = some t) {e : StoreError}
    (hc : t.coerceRow row = .error e) :
    (Store.inMemory r mode).upsert table row m = (.error (.store e), m) := by
  have hinsert : m.begin.insert t row = (.error e, m.begin) := insert_of_error hc
  rw [upsert_apply ht, hinsert]
  exact settle_error m row (TableSchema.isUniqueViolation_of_coerceRow hc)

/-- **All that an upsert can do**: it stores the coerced row, or it finds the key of a row, or it
fails.  In the last two cases the store is as it was. -/
theorem upsert_cases (r : Registry) (mode : TextMatch) (m : Memory) (table : String) (row : Row) :
    (∃ t values, r.get? table = some t ∧ t.coerceRow row = .ok values ∧ m.Admits t values ∧
      (m.refusal? t values = none ∧ (Store.inMemory r mode).upsert table row m =
          (.ok ⟨m.sequence t.name + 1, true⟩, m.store t.name values) ∨
        m.Taken t values ∧ ∃ key, m.HasKey t.name key ∧
          (Store.inMemory r mode).upsert table row m = (.ok ⟨key, false⟩, m))) ∨
      ∃ e, (Store.inMemory r mode).upsert table row m = (.error e, m) := by
  cases ht : r.get? table with
  | none =>
    have hschema : (Store.inMemory r mode).schemas.get? table = none := ht
    refine .inr ⟨.store (.unknownTable table), ?_⟩
    simp only [Store.upsert, hschema]
    rfl
  | some t =>
    cases hc : t.coerceRow row with
    | error e => exact .inr ⟨_, upsert_of_coerceRow_error ht hc⟩
    | ok values =>
      rcases refusal?_cases m t values with ⟨hr, ha, -⟩ | ⟨e, -, -, ha, htaken⟩ | ⟨e, hr, he⟩
      · exact .inl ⟨t, values, rfl, hc, ha, .inl ⟨hr, upsert_free ht hc hr⟩⟩
      · exact .inl ⟨t, values, rfl, hc, ha, .inr ⟨htaken, upsert_taken mode ht hc ha htaken⟩⟩
      · exact .inr ⟨_, upsert_refused ht hc hr he⟩

/-- **All that an upsert that succeeds can have done**: it stored the coerced row, or it found the
key of a row and left the store as it was. -/
theorem upsert_ok {u : Upserted} (h : (Store.inMemory r mode).upsert table row m = (.ok u, m')) :
    ∃ t values, r.get? table = some t ∧ t.coerceRow row = .ok values ∧ m.Admits t values ∧
      m'.HasKey t.name u.key ∧
      ((m' = m.store t.name values ∧ u = ⟨m.sequence t.name + 1, true⟩) ∨
        (m' = m ∧ u.created = false ∧ m.Taken t values)) := by
  rcases upsert_cases r mode m table row with
    ⟨t, values, ht, hc, ha, ⟨-, hu⟩ | ⟨htaken, key, hkey, hu⟩⟩ | ⟨e, hu⟩
  all_goals
    rw [hu] at h
    cases h
  · exact ⟨t, values, ht, hc, ha, ⟨⟨_, values⟩, by simp, rfl⟩, .inl ⟨rfl, rfl⟩⟩
  · exact ⟨t, values, ht, hc, ha, hkey, .inr ⟨rfl, rfl, htaken⟩⟩

/-- An upsert that fails leaves the store as it was. -/
theorem upsert_unchanged {e : LoadError}
    (h : (Store.inMemory r mode).upsert table row m = (.error e, m')) : m' = m := by
  rcases upsert_cases r mode m table row with
    ⟨_, _, -, -, -, ⟨-, hu⟩ | ⟨-, _, -, hu⟩⟩ | ⟨_, hu⟩
  all_goals
    rw [hu] at h
    cases h
  rfl

end Memory

end Accession
