import Accession.Proofs.Memory.Conflicts
import Accession.Proofs.Text.Lowered

/-!
# Texts that contain a needle

A lookup for a contained text compares lower cases.  A text that contains the needle, letter for
letter, is found if the needle is in lower case there what it is alone; that is so for every needle
but those with a capital sigma at an end of a word that the text may carry on.

* `TextMatch.contains_of_steady` : a needle is found where it is steady.
* `TextMatch.contains_everywhere_iff` : the needles that are found in every text around them.
* `Row.Shows` : a column of a row contains a needle, letter for letter.
* `Memory.contained_text_found` : what this means for the store in memory.
-/

namespace Accession

variable {needle before after column : String}

/-! ### Matching -/

/-- A needle is found in a text around it where it is steady. -/
theorem TextMatch.contains_of_steady
    (h : Text.Steady before.toList.reverse after.toList needle.toList) :
    TextMatch.contains.holds (before ++ needle ++ after) needle := by
  rw [holds, Text.occursIn_iff_infix, String.toList_append, String.toList_append]
  exact Text.lowered_infix_of_steady h

/-- The needles that are found in every text around them are the settled ones. -/
theorem TextMatch.contains_everywhere_iff :
    (∀ before after, TextMatch.contains.holds (before ++ needle ++ after) needle) ↔
      Text.Settled needle.toList := by
  refine ⟨fun h => ?_, fun h before after => contains_of_steady (Text.steady_of_settled h _ _)⟩
  by_contra hsettled
  obtain ⟨before, after, hinfix⟩ := Text.not_infix_of_not_settled hsettled
  have hholds := h (String.ofList before) (String.ofList after)
  simp only [holds, Text.occursIn_iff_infix, String.toList_append, String.toList_ofList] at hholds
  exact hinfix hholds

/-! ### Finding -/

/-- The column of the row displays as a text that contains the needle between two others. -/
def Row.Shows (row : Row) (column before needle after : String) : Prop :=
  ∃ value, row.get? column = some value ∧ value.display = before ++ needle ++ after

theorem Filter.holds_insert {condition : Condition} {filter rest : Filter} {row : Row} :
    Filter.holds (filter ++ (column, condition) :: rest) row ↔
      (∃ v, row.get? column = some v ∧ condition.holds v) ∧ Filter.holds (filter ++ rest) row := by
  induction filter with
  | nil => exact Filter.holds_cons
  | cons c filter ih =>
    rw [List.cons_append, List.cons_append, Filter.holds_cons, Filter.holds_cons, ih]
    exact and_left_comm

namespace Memory

variable {m : Memory} {t : TableSchema} {filter rest : Filter} {row : StoredRow}

/-- If a row meets the filter, some row that does is found. -/
theorem exists_find_of_holds (hrow : row ∈ m.rows t.name) (h : filter.holds row.values) :
    ∃ found ∈ m.rows t.name, filter.holds found.values ∧ m.find t filter = some found.key := by
  have hsome : ((m.rows t.name).find? fun r => filter.holds r.values).isSome :=
    List.find?_isSome.2 ⟨row, hrow, h⟩
  obtain ⟨found, hfound⟩ := Option.isSome_iff_exists.1 hsome
  have hholds := List.find?_some hfound
  refine ⟨found, List.mem_of_find?_eq_some hfound, hholds, ?_⟩
  rw [find, hfound, Option.map_some]

/-- The row meets the filter if the needle is found in its column and it meets the rest. -/
theorem holds_of_shows (hrest : Filter.holds (filter ++ rest) row.values)
    (hshows : Row.Shows row.values column before needle after)
    (h : TextMatch.contains.holds (before ++ needle ++ after) needle) :
    Filter.holds (filter ++ (column, .text needle .contains) :: rest) row.values := by
  obtain ⟨value, hvalue, hdisplay⟩ := hshows
  refine Filter.holds_insert.2 ⟨⟨value, hvalue, ?_⟩, hrest⟩
  rw [Condition.holds, hdisplay, h]

/-- A store with one table, of one row and one column. -/
def single (text : String) : Memory :=
  ⟨[("table", [⟨1, [("column", .text text)]⟩])], [("table", 1)], []⟩

theorem mem_rows_single (text : String) :
    ⟨1, [("column", .text text)]⟩ ∈ (single text).rows (TableSchema.new "table").name :=
  List.mem_singleton_self _

theorem holds_of_find_single {text : String} (h : ((single text).find (.new "table")
    [("column", .text needle .contains)]).isSome) : TextMatch.contains.holds text needle := by
  rw [find, Option.isSome_map, List.find?_isSome] at h
  obtain ⟨row, hrow, hholds⟩ := h
  obtain rfl := List.mem_singleton.1 hrow
  obtain ⟨⟨value, hvalue, hmatch⟩, -⟩ := Filter.holds_cons.1 hholds
  cases hvalue
  exact hmatch

/-- **A row that contains the needle is found, unless the lower case of a sigma is in doubt.**  A
lookup for a contained text finds a row that meets its filter if some row has the needle in its
column, letter for letter, where the needle is steady, and meets the other conditions.  The needles
that match every text around them, and those that are found in every row that contains them, are the
settled ones. -/
theorem contained_text_found (needle : String) :
    (∀ before after, Text.Steady before.toList.reverse after.toList needle.toList →
      TextMatch.contains.holds (before ++ needle ++ after) needle) ∧
    (∀ (m : Memory) (t : TableSchema) (column : String) (filter rest : Filter),
      ∀ row ∈ m.rows t.name, Filter.holds (filter ++ rest) row.values →
      ∀ before after, Row.Shows row.values column before needle after →
      Text.Steady before.toList.reverse after.toList needle.toList →
      ∃ found ∈ m.rows t.name,
        Filter.holds (filter ++ (column, .text needle .contains) :: rest) found.values ∧
        m.find t (filter ++ (column, .text needle .contains) :: rest) = some found.key) ∧
    ((∀ before after, TextMatch.contains.holds (before ++ needle ++ after) needle) ↔
      Text.Settled needle.toList) ∧
    ((∀ (m : Memory) (t : TableSchema) (column : String) (filter rest : Filter),
      (∃ row ∈ m.rows t.name, Filter.holds (filter ++ rest) row.values ∧
        ∃ before after, Row.Shows row.values column before needle after) →
      (m.find t (filter ++ (column, .text needle .contains) :: rest)).isSome) ↔
      Text.Settled needle.toList) := by
  refine ⟨fun before after => TextMatch.contains_of_steady, ?_, TextMatch.contains_everywhere_iff,
    fun h => ?_, fun h => ?_⟩
  · intro m t column filter rest row hrow hrest before after hshows hsteady
    exact exists_find_of_holds hrow (holds_of_shows hrest hshows
      (TextMatch.contains_of_steady hsteady))
  · -- a needle that is found in the only row of a store matches the text of that row
    refine TextMatch.contains_everywhere_iff.1 fun before after => ?_
    exact holds_of_find_single (h (single _) (.new "table") "column" [] []
      ⟨_, mem_rows_single _, rfl, before, after, _, rfl, rfl⟩)
  · rintro m t column filter rest ⟨row, hrow, hrest, before, after, hshows⟩
    obtain ⟨found, -, -, hfound⟩ := exists_find_of_holds hrow (holds_of_shows hrest hshows
      (TextMatch.contains_everywhere_iff.2 h before after))
    rw [hfound, Option.isSome_some]

/-- A sigma that ends a word of the needle need not end one of the text: then the needle matches no
part of the text that contains it, and its row is not found. -/
theorem final_sigma_missed :
    TextMatch.contains.holds ("" ++ "ΑΣ" ++ "Α") "ΑΣ" = false ∧
      Row.Shows [("column", .text "ΑΣΑ")] "column" "" "ΑΣ" "Α" ∧
      (single "ΑΣΑ").find (.new "table") [("column", .text "ΑΣ" .contains)] = none := by
  refine ⟨by decide +kernel, ⟨.text "ΑΣΑ", rfl, by decide⟩, by decide +kernel⟩

/-- Where the word of the text ends as well, the needle matches and its row is found. -/
theorem final_sigma_found :
    TextMatch.contains.holds ("ΑΒ, " ++ "ΑΣ" ++ ", Α") "ΑΣ" ∧
      ∃ found ∈ (single "ΑΒ, ΑΣ, Α").rows "table",
        (single "ΑΒ, ΑΣ, Α").find (.new "table") [("column", .text "ΑΣ" .contains)] =
          some found.key := by
  have hsteady : Text.Steady "ΑΒ, ".toList.reverse ", Α".toList "ΑΣ".toList :=
    Text.steady_of_uncased (by decide +kernel) (by decide +kernel)
  obtain ⟨hmatch, hfind, -⟩ := contained_text_found "ΑΣ"
  obtain ⟨found, hfound, -, hkey⟩ := hfind (single "ΑΒ, ΑΣ, Α") (.new "table") "column" [] []
    _ (mem_rows_single _) rfl "ΑΒ, " ", Α" ⟨_, rfl, by decide⟩ hsteady
  exact ⟨hmatch "ΑΒ, " ", Α" hsteady, found, hfound, hkey⟩

end Memory

end Accession
