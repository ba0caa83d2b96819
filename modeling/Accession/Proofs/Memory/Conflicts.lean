import Mathlib.Order.Bounds.Basic
import Accession.Proofs.Memory.Again
import Accession.Proofs.Memory.Conformance
import Accession.Proofs.Store.Names

/-!
# Conflicts and what they lead to

A row is refused when a stored one equals it on a constraint, but it is found again by a looser
comparison, and by all constraints in order.  So a conflict always leads to a row, which need not be
the one in the way.

* `Memory.meeting` : the keys of the rows that meet a filter; a lookup answers the least of them
  (`Memory.find_eq_some_iff`).
* `Memory.conflict_resolved` : the key that a conflict leads to, and the lookups that are made.
* `Memory.upsert_twice` : the key of a row that is upserted twice.
-/

namespace Accession

namespace Memory

variable {r : Registry} {mode : TextMatch} {m m' : Memory} {t : TableSchema} {table : String}
  {row values : Row} {filter : Filter} {columns : List String} {constraints : List (List String)}
  {key : Key} {requests : List Request} {u : Upserted}

/-! ### The least key -/

/-- The keys of the stored rows that meet a filter. -/
def meeting (m : Memory) (t : TableSchema) (filter : Filter) : Set Key :=
  {key | ∃ stored ∈ m.rows t.name, filter.holds stored.values ∧ stored.key = key}

theorem find_eq_none_iff : m.find t filter = none ↔ m.meeting t filter = ∅ := by
  rw [find, Option.map_eq_none_iff, List.find?_eq_none, Set.eq_empty_iff_forall_notMem]
  constructor
  · rintro h key ⟨stored, hstored, hholds, -⟩
    exact h stored hstored hholds
  · exact fun h stored hstored hholds => h stored.key ⟨stored, hstored, hholds, rfl⟩

theorem isLeast_of_find (h : Ascending m) (hkey : m.find t filter = some key) :
    IsLeast (m.meeting t filter) key := by
  rw [find, Option.map_eq_some_iff] at hkey
  obtain ⟨first, hfirst, rfl⟩ := hkey
  have hholds := List.find?_some hfirst
  refine ⟨⟨first, List.mem_of_find?_eq_some hfirst, hholds, rfl⟩, ?_⟩
  rintro _ ⟨other, hother, hholds, rfl⟩
  exact key_le_of_find? (h.sorted t.name) hfirst hother hholds

/-- A lookup answers the least key of the rows that meet its filter. -/
theorem find_eq_some_iff (h : Ascending m) :
    m.find t filter = some key ↔ IsLeast (m.meeting t filter) key := by
  refine ⟨isLeast_of_find h, fun hleast => ?_⟩
  cases hfind : m.find t filter with
  | none =>
    rw [find_eq_none_iff] at hfind
    exact absurd hleast.1 (by simp [hfind])
  | some first => rw [(isLeast_of_find h hfind).unique hleast]

/-- The constraints lead to the least key of the rows that meet the filter of the first constraint
that leads to any. -/
theorem isLeast_of_existing? (h : Ascending m)
    (hkey : m.existing? mode t row constraints = some key) :
    ∃ before columns after filter, constraints = before ++ columns :: after ∧
      constraintFilter? mode t row columns = some filter ∧ IsLeast (m.meeting t filter) key ∧
      ∀ earlier ∈ before, ∀ f ∈ constraintFilter? mode t row earlier, m.meeting t f = ∅ := by
  induction constraints with
  | nil => cases hkey
  | cons columns rest ih =>
    rw [existing?] at hkey
    split at hkey
    · next first hfirst =>
      cases hkey
      obtain ⟨filter, hfilter, hfind⟩ := Option.bind_eq_some_iff.1 hfirst
      exact ⟨[], columns, rest, filter, rfl, hfilter, isLeast_of_find h hfind, by simp⟩
    · next hnone =>
      obtain ⟨before, chosen, after, filter, rfl, hfilter, hleast, hbefore⟩ := ih hkey
      refine ⟨columns :: before, chosen, after, filter, rfl, hfilter, hleast, ?_⟩
      refine List.forall_mem_cons.2 ⟨fun f hf => ?_, hbefore⟩
      rw [Option.mem_def.1 hf] at hnone
      exact find_eq_none_iff.1 hnone

/-! ### Conflicts -/

theorem taken_of_insert {e : StoreError} (h : (m.insert t row).1 = .error e)
    (he : e.isUniqueViolation) :
    ∃ values, t.coerceRow row = .ok values ∧ m.Admits t values ∧ m.Taken t values := by
  cases hc : t.coerceRow row with
  | error e' =>
    rw [insert_of_error hc] at h
    cases h
    rw [TableSchema.isUniqueViolation_of_coerceRow hc] at he
    cases he
  | ok values =>
    rcases refusal?_cases m t values with ⟨hr, -⟩ | ⟨e', hr, -, ha, htaken⟩ | ⟨e', hr, he'⟩
    · rw [insert_of_ok hc hr] at h
      cases h
    · exact ⟨values, rfl, ha, htaken⟩
    · rw [insert_of_refusal hc hr] at h
      cases h
      rw [he] at he'
      cases he'

/-- **A conflict is always resolved.**  After any requests, a row whose insertion is refused for
want of uniqueness is upserted with success: nothing is stored, and the answer is the least key
among the rows that meet the filter of the first constraint that the row fills and some row meets.
In a registry that passes the check, every lookup that an upsert makes has one condition for each
column of a constraint, and so at least one. -/
theorem conflict_resolved (hs : ∀ q ∈ requests, q.On r) (ht : r.get? table = some t)
    (mode : TextMatch) (row : Row) :
    let m := run r requests empty
    let store := Store.inMemory r mode
    (∀ e, (m.insert t row).1 = .error e → e.isUniqueViolation →
      ∃ key, store.upsert table row m = (.ok ⟨key, false⟩, m) ∧
        ∃ before columns after filter, t.unique = before ++ columns :: after ∧
          (∀ c ∈ columns, row.contains c) ∧
          constraintFilter? mode t row columns = some filter ∧ IsLeast (m.meeting t filter) key ∧
          ∀ earlier ∈ before, (∀ c ∈ earlier, row.contains c) →
            ∃ f, constraintFilter? mode t row earlier = some f ∧ m.meeting t f = ∅) ∧
    (r.validate = .ok () → ∀ name filter answer,
      .find name filter answer ∈ (store.watched.upsert table row ⟨m, []⟩).2.trace →
        ∃ columns ∈ t.unique, constraintFilter? mode t row columns = some filter ∧
          filter.map Prod.fst = columns ∧ filter ≠ []) := by
  intro m store
  constructor
  · intro e he hunique
    obtain ⟨values, hc, ha, htaken⟩ := taken_of_insert he hunique
    obtain ⟨key, hkey, hu⟩ := upsert_conflict mode ht hc ha htaken
    obtain ⟨before, columns, after, filter, hsplit, hfilter, hleast, hbefore⟩ :=
      isLeast_of_existing? (ascending_run hs) hkey
    refine ⟨key, hu, before, columns, after, filter, hsplit, ?_, hfilter, hleast, ?_⟩
    · exact (isSome_constraintFilter? mode hc columns).1 (Option.isSome_of_eq_some hfilter)
    · intro earlier hearlier hfills
      obtain ⟨f, hf⟩ := Option.isSome_iff_exists.1 ((isSome_constraintFilter? mode hc _).2 hfills)
      exact ⟨f, hf, hbefore earlier hearlier f hf⟩
  · intro hvalid name filter answer hfind
    obtain ⟨calls, htrace, hcalls⟩ := store.upsert_seeks ht row ⟨m, []⟩
    rw [htrace] at hfind
    obtain ⟨columns, hcolumns, hfilter⟩ := hcalls _ hfind
    have hconditions := columns_of_constraintFilter? hfilter
    refine ⟨columns, hcolumns, hfilter, hconditions, ?_⟩
    rintro rfl
    exact Registry.ne_nil_of_validate hvalid ht columns hcolumns hconditions.symm

namespace Waters

/-- Waters, each known by its number and by its name. -/
def waters : TableSchema :=
  ((((TableSchema.new "water").withColumn "number" .integer true).withColumn
    "name" .text true).withUnique ["number"]).withUnique ["name"]

/-- The waters. -/
def registry : Registry := Registry.empty.withTable waters

/-- A water with its name. -/
def named (name : String) : Row := [("name", .text name)]

/-- A name in small letters, one that is taken back, and the first with a capital. -/
def history : List Request :=
  [.upsert .contains "water" (named "rhine"), .call .begin,
    .upsert .contains "water" (named "Oder"), .call .rollback,
    .upsert .contains "water" (named "Rhine")]

/-- The number is new, but the name is not. -/
def numbered : Row := [("number", .integer 8), ("name", .text "Rhine")]

/-- The filter by the name. -/
def byName : Filter := [("name", .text "Rhine" .contains)]

/-- The row in the way has the key 3, and the name leads to another, with the key 1. -/
theorem rhine_resolved :
    let m := run registry history empty
    let store := Store.inMemory registry .contains
    (∀ q ∈ history, q.On registry) ∧ registry.get? "water" = some waters ∧
      registry.validate = .ok () ∧
      (m.insert waters numbered).1 = .error (.uniqueViolation "water" (some "name")) ∧
      store.upsert "water" numbered m = (.ok ⟨1, false⟩, m) ∧
      .find "water" byName (.ok (some 1)) ∈
        (store.watched.upsert "water" numbered ⟨m, []⟩).2.trace ∧
      ∃ columns ∈ waters.unique,
        constraintFilter? .contains waters numbered columns = some byName ∧
          byName.map Prod.fst = columns ∧ byName ≠ [] := by
  intro m store
  have hs : ∀ q ∈ history, q.On registry := by decide +kernel
  have ht : registry.get? "water" = some waters := by decide +kernel
  have hvalid : registry.validate = .ok () := by rfl
  have hrefused : (m.insert waters numbered).1 =
      .error (.uniqueViolation "water" (some "name")) := by decide +kernel
  have hanswer : (store.upsert "water" numbered m).1 = .ok ⟨1, false⟩ := by decide +kernel
  have hfind : .find "water" byName (.ok (some 1)) ∈
      (store.watched.upsert "water" numbered ⟨m, []⟩).2.trace := List.mem_of_getLast? rfl
  obtain ⟨hconflict, hlookups⟩ := conflict_resolved hs ht .contains numbered
  obtain ⟨key, hu, -⟩ := hconflict _ hrefused rfl
  rw [hu] at hanswer
  cases hanswer
  exact ⟨hs, ht, hvalid, hrefused, hu, hfind, hlookups hvalid _ _ _ hfind⟩

end Waters

/-! ### The same row twice -/

/-- The row can be compared on the columns: it has a value in each of them, and a number where it
has a double.  It is identified if that holds of the columns of some constraint. -/
def Comparable (columns : List String) (values : Row) : Prop :=
  ∀ c ∈ columns, ∃ v ∈ values.get? c, v.isNaN = false

theorem Comparable.resembles (h : Comparable columns values) (mode : TextMatch) :
    Resembles mode columns values values :=
  resembles_of_agrees mode (agrees_self h 0)

theorem comparable_of_resembles {other : Row} (h : Resembles mode columns values other) :
    Comparable columns values := by
  intro c hc
  obtain ⟨v, w, hv, -, hholds⟩ := h c hc
  exact ⟨v, hv, isNaN_of_seeking hholds⟩

theorem le_sequence_of_mem_meeting (h : Ascending m) (hkey : key ∈ m.meeting t filter) :
    key ≤ m.sequence t.name := by
  obtain ⟨stored, hstored, -, rfl⟩ := hkey
  exact h.given t.name stored hstored

theorem meeting_store (m : Memory) (t : TableSchema) (values : Row) (filter : Filter) :
    (m.store t.name values).meeting t filter =
      m.meeting t filter ∪ {key | filter.holds values ∧ m.sequence t.name + 1 = key} := by
  ext key
  constructor
  · rintro ⟨stored, hstored, hholds, hkey⟩
    rcases mem_rows_store hstored with hold | ⟨-, rfl⟩
    · exact .inl ⟨stored, hold, hholds, hkey⟩
    · exact .inr ⟨hholds, hkey⟩
  · rintro (⟨stored, hold, hholds, hkey⟩ | ⟨hholds, rfl⟩)
    · exact ⟨stored, rows_subset_store hold, hholds, hkey⟩
    · exact ⟨⟨_, values⟩, by simp, hholds, rfl⟩

/-- A constraint on which a row can be compared leads to the row itself, once it is stored. -/
theorem sequence_mem_meeting {filter : Filter} (h : Comparable columns values)
    (hfilter : Filter.seeking? mode values columns = some filter) :
    m.sequence t.name + 1 ∈ (m.store t.name values).meeting t filter := by
  obtain ⟨filter', hfilter', hholds⟩ := resembles_iff.1 (h.resembles mode)
  cases hfilter.symm.trans hfilter'
  rw [meeting_store]
  exact .inr ⟨hholds, rfl⟩

/-- A row that was just stored is found by the first constraint on which it can be compared, unless
that constraint finds a row from before. -/
theorem isLeast_of_existing?_store (h : Ascending m) (hc : t.coerceRow row = .ok values)
    (hkey : (m.store t.name values).existing? mode t row t.unique = some key) :
    ∃ before columns after filter, t.unique = before ++ columns :: after ∧
      (∀ earlier ∈ before, ¬ Comparable earlier values) ∧ Comparable columns values ∧
      constraintFilter? mode t row columns = some filter ∧
      IsLeast ((m.store t.name values).meeting t filter) key ∧
      (key = m.sequence t.name + 1 ↔ m.meeting t filter = ∅) := by
  obtain ⟨before, columns, after, filter, hsplit, hfilter, hleast, hbefore⟩ :=
    isLeast_of_existing? (h.store t.name values) hkey
  have hseeking := (constraintFilter?_of_coerceRow mode hc columns).symm.trans hfilter
  obtain ⟨stored, -, hholds, -⟩ := hleast.1
  have hcomparable := comparable_of_resembles (resembles_iff.2 ⟨filter, hseeking, hholds⟩)
  refine ⟨before, columns, after, filter, hsplit, fun earlier hearlier hcomp => ?_, hcomparable,
    hfilter, hleast, ?_, fun hempty => ?_⟩
  · -- an earlier constraint on which the row can be compared would have found it
    obtain ⟨f, hf, -⟩ := resembles_iff.1 (hcomp.resembles mode)
    have hown := sequence_mem_meeting (m := m) (t := t) hcomp hf
    rw [hbefore earlier hearlier f ((constraintFilter?_of_coerceRow mode hc earlier).trans hf)]
      at hown
    exact hown
  · rintro rfl
    refine Set.eq_empty_iff_forall_notMem.2 fun k hk => ?_
    have hstays : k ∈ (m.store t.name values).meeting t filter := by
      rw [meeting_store]
      exact .inl hk
    exact Int.not_le.2 (Int.lt_add_one_of_le (le_sequence_of_mem_meeting h hk)) (hleast.2 hstays)
  · have hmem := hleast.1
    rw [meeting_store, hempty, Set.empty_union] at hmem
    exact hmem.2.symm

/-- Where no text is compared, the lookup finds none but a row in the way. -/
theorem meeting_eq_empty (hc : t.coerceRow row = .ok values) (hr : m.refusal? t values = none)
    (hcolumns : columns ∈ t.unique) (htext : ∀ c ∈ columns, t.columnType? c ≠ some .text)
    (hfilter : constraintFilter? mode t row columns = some filter) : m.meeting t filter = ∅ := by
  rw [constraintFilter?_of_coerceRow mode hc] at hfilter
  refine Set.eq_empty_iff_forall_notMem.2 fun key ⟨stored, hstored, hholds, _⟩ => ?_
  refine not_taken_of_refusal? hr ⟨columns, hcolumns, stored, hstored, ?_⟩
  refine agrees_iff.2 fun c hmem => ?_
  obtain ⟨v, w, hv, hw, hsought⟩ := resembles_iff.2 ⟨filter, hfilter, hholds⟩ c hmem
  refine ⟨v, w, hv, hw, beq_of_seeking hsought fun htype => htext c hmem ?_⟩
  obtain ⟨col, hcol, hcoltype⟩ := TableSchema.declared_of_coerceRow hc _ (Dict.mem_of_get? hv)
  rw [TableSchema.columnType?, hcol, Option.map_some, ← hcoltype, htype]

/-- **A row that is upserted twice is reused the second time.**  Its key is the same if the row was
reused the first time, too.  If it was created, then the key is the least among the rows that meet
the filter of the first constraint on which the row can be compared; it is the same only if no row
from before meets that filter, which is so if no text is compared. -/
theorem upsert_twice (hs : ∀ q ∈ requests, q.On r) (hi : r.Identifies table row)
    (h : (Store.inMemory r mode).upsert table row (run r requests empty) = (.ok u, m')) :
    ∃ key, (Store.inMemory r mode).upsert table row m' = (.ok ⟨key, false⟩, m') ∧
      (u.created = false → key = u.key) ∧
      (u.created → ∃ t values before columns after filter, r.get? table = some t ∧
        t.coerceRow row = .ok values ∧ t.unique = before ++ columns :: after ∧
        (∀ earlier ∈ before, ¬ Comparable earlier values) ∧ Comparable columns values ∧
        constraintFilter? mode t row columns = some filter ∧
        IsLeast (m'.meeting t filter) key ∧
        (key = u.key ↔ (run r requests empty).meeting t filter = ∅) ∧
        ((∀ c ∈ columns, t.columnType? c ≠ some .text) → key = u.key)) := by
  have hascending := ascending_run hs
  generalize run r requests empty = m at h hascending ⊢
  rcases upsert_cases r mode m table row with
    ⟨t, values, ht, hc, ha, ⟨hr, hu⟩ | ⟨-, key, -, hu⟩⟩ | ⟨e, hu⟩
  · rw [hu] at h
    cases h
    have hidentified := hi t ht values (by rw [hc]; rfl)
    obtain ⟨key, hkey, hagain⟩ := upsert_conflict mode ht hc
      (ha.mono fun _ => rows_subset_store) (taken_store hidentified)
    obtain ⟨before, columns, after, filter, hsplit, hbefore, hcomparable, hfilter, hleast, hsame⟩ :=
      isLeast_of_existing?_store hascending hc hkey
    have hcolumns : columns ∈ t.unique := by simp [hsplit]
    refine ⟨key, hagain, Bool.noConfusion, fun _ => ⟨t, values, before, columns, after, filter, ht,
      hc, hsplit, hbefore, hcomparable, hfilter, hleast, hsame, fun htext => ?_⟩⟩
    exact hsame.2 (meeting_eq_empty hc hr hcolumns htext hfilter)
  · -- nothing was stored, so the second time is like the first
    have hkey := hu.symm.trans h
    cases hkey
    exact ⟨key, h, fun _ => rfl, Bool.noConfusion⟩
  · rw [hu] at h
    cases h

namespace Waters

/-- One name, in small letters. -/
def small : List Request := [.upsert .contains "water" (named "rhine")]

/-- **The second key need not be the first.**  A name with a capital is not in the way of the same
name in small letters, so it is stored, under the key 2.  The second time it is in its own way; but
texts are looked up without regard to case, in either mode, and the first that is found has the
key 1. -/
theorem second_key_differs :
    (∀ q ∈ small, q.On registry) ∧ registry.Identifies "water" (named "Rhine") ∧
      ∀ mode ∈ [TextMatch.contains, TextMatch.exact],
        let store := Store.inMemory registry mode
        let first := store.upsert "water" (named "Rhine") (run registry small empty)
        first.1 = .ok ⟨2, true⟩ ∧
          (store.upsert "water" (named "Rhine") first.2).1 = .ok ⟨1, false⟩ := by
  decide +kernel

/-- So the row stays as it was stored, and the upsert answers the key of the other. -/
theorem rhine_twice :
    let store := Store.inMemory registry .exact
    let first := store.upsert "water" (named "Rhine") (run registry small empty)
    (∀ q ∈ small, q.On registry) ∧ registry.Identifies "water" (named "Rhine") ∧
      first = (.ok ⟨2, true⟩, first.2) ∧
      store.upsert "water" (named "Rhine") first.2 = (.ok ⟨1, false⟩, first.2) := by
  intro store first
  have hs : ∀ q ∈ small, q.On registry := by decide +kernel
  have hi : registry.Identifies "water" (named "Rhine") := by decide +kernel
  have hcreated : first.1 = .ok ⟨2, true⟩ := by decide +kernel
  have hfirst : first = (.ok ⟨2, true⟩, first.2) := Prod.ext hcreated rfl
  have hanswer : (store.upsert "water" (named "Rhine") first.2).1 = .ok ⟨1, false⟩ := by
    decide +kernel
  obtain ⟨key, hagain, -⟩ := upsert_twice hs hi hfirst
  rw [hagain] at hanswer
  cases hanswer
  exact ⟨hs, hi, hfirst, hagain⟩

end Waters

end Memory

end Accession
