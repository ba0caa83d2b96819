import Mathlib.Data.List.Forall2
import Accession.Proofs.Json.Extent
import Accession.Proofs.Text.Lines
import Accession.Record.Layout

/-!
# The layouts of records

A record may be written as a list of fields, or as an object with such a list; records may be
written in one array, one on a line, or some in an array on each line.  All of them are read alike.

* `FieldList` : a list of fields that cannot be taken for records; `Form` : a record in one of its
  two forms.
* `readLists` : the records of lists of fields, or the first fault among them.
* `Document` : one record, or an array of records; `Lines` : such documents on lines, with blank
  lines between them.
* `layouts_agree` : the records do not depend on the layout, and a fault is told by its position
  among all records.
-/

namespace Accession.Record

open Json (Apart Lone)
open Text (isBlank trimmed)

/-- A list of fields is not empty, and each field is an object of one key that is not that of the
fields of a record. -/
structure FieldList (items : List Json) : Prop where
  nonempty : items ≠ []
  field : ∀ item ∈ items, ∃ key value, item = .object [(key, value)] ∧ key ≠ fieldsKey

/-- The ways to write the record of a list of fields. -/
inductive Form (items : List Json) : Json → Prop
  | bare : Form items (.array items)
  | object {entries : List (String × Json)} (h : entries.lookup fieldsKey = some (.array items)) :
      Form items (.object entries)

/-- The document is a record in one of its forms. -/
def Writes (items : List Json) (form : Json) : Prop := FieldList items ∧ Form items form

section Reading

variable {items : List Json}

theorem isFieldList_of_fieldList (h : FieldList items) : isFieldList items := by
  have hall : items.all isField := List.all_eq_true.2 fun item hitem => by
    obtain ⟨key, value, rfl, hkey⟩ := h.field item hitem
    exact decide_eq_true hkey
  rw [isFieldList, hall, Bool.and_true, Bool.not_eq_true', List.isEmpty_eq_false_iff]
  exact h.nonempty

theorem isField_of_form {form : Json} (h : Form items form) : isField form = false := by
  cases h with
  | bare => rfl
  | @object entries h =>
    match entries, h with
    | [], _ => rfl
    | [(key, value)], h =>
      rw [List.lookup_cons] at h
      split at h
      · next heq => exact decide_eq_false (not_not.2 (eq_of_beq heq).symm)
      · cases h
    | _ :: _ :: _, _ => rfl

theorem ofItem_of_form {form : Json} (h : Form items form) : ofItem form = ofFieldList items := by
  cases h with
  | bare => rfl
  | object h => rw [ofItem, ofObject, h]

/-! ### Lists of fields -/

/-- The records of lists of fields, of which the first has position `index`. -/
def readLists : (index : Nat) → List (List Json) → Except Malformed (List Record)
  | _, [] => .ok []
  | index, items :: rest => do
    let record ← atIndex index (ofFieldList items)
    let records ← readLists (index + 1) rest
    pure (record :: records)

theorem readLists_of_ok {record : Record} (h : ofFieldList items = .ok record) (index : Nat)
    (rest : List (List Json)) : readLists index (items :: rest) =
      (readLists (index + 1) rest).map (record :: ·) := by
  rw [readLists, h]
  rfl

theorem readLists_of_error {reason : String} (h : ofFieldList items = .error reason) (index : Nat)
    (rest : List (List Json)) : readLists index (items :: rest) = .error ⟨index, reason⟩ := by
  rw [readLists, h]
  rfl

variable {lists group : List (List Json)} {forms : List Json}

theorem ofItems_eq_readLists (h : List.Forall₂ Form lists forms) (index : Nat) :
    ofItems index forms = readLists index lists := by
  induction h generalizing index with
  | nil => rfl
  | cons hform _ ih => rw [ofItems, readLists, ofItem_of_form hform, ih]

theorem readLists_shift (lists : List (List Json)) (index offset : Nat) :
    (readLists index lists).mapError (Malformed.shift offset) =
      readLists (index + offset) lists := by
  induction lists generalizing index with
  | nil => rfl
  | cons items rest ih =>
    cases h : ofFieldList items with
    | error reason =>
      rw [readLists_of_error h, readLists_of_error h]
      rfl
    | ok record =>
      rw [readLists_of_ok h, readLists_of_ok h, Nat.add_right_comm, ← ih]
      cases readLists (index + 1) rest <;> rfl

/-- The lists after some others, which are all records. -/
theorem readLists_append (group lists : List (List Json)) (index : Nat) :
    readLists index (group ++ lists) =
      match readLists index group with
      | .error m => .error m
      | .ok records => (readLists (index + records.length) lists).map (records ++ ·) := by
  induction group generalizing index with
  | nil =>
    have hall : readLists index lists = (readLists index lists).map ([] ++ ·) := by
      cases readLists index lists <;> rfl
    exact hall
  | cons items rest ih =>
    cases h : ofFieldList items with
    | error reason =>
      rw [List.cons_append, readLists_of_error h, readLists_of_error h]
    | ok record =>
      rw [List.cons_append, readLists_of_ok h, readLists_of_ok h, ih]
      cases readLists (index + 1) rest with
      | error m => rfl
      | ok records =>
        have hindex : index + (record :: records).length = index + 1 + records.length := by
          rw [List.length_cons, Nat.add_assoc, Nat.add_comm 1]
        dsimp only [Except.map]
        rw [hindex]
        cases readLists (index + 1 + records.length) lists <;> rfl

theorem readLists_eq_ok {records : List Record}
    (h : List.Forall₂ (fun items record => ofFieldList items = .ok record) lists records)
    (index : Nat) : readLists index lists = .ok records := by
  induction h generalizing index with
  | nil => rfl
  | cons hitems _ ih =>
    rw [readLists_of_ok hitems, ih]
    rfl

/-- The first list that is no record settles the fault. -/
theorem readLists_eq_error {before after : List (List Json)} {reason : String}
    (hbefore : ∀ items ∈ before, (ofFieldList items).isOk) (h : ofFieldList items = .error reason)
    (index : Nat) : readLists index (before ++ items :: after) =
      .error ⟨index + before.length, reason⟩ := by
  induction before generalizing index with
  | nil => exact readLists_of_error h index after
  | cons first before ih =>
    obtain ⟨hfirst, hbefore⟩ := List.forall_mem_cons.1 hbefore
    cases hrecord : ofFieldList first with
    | error reason =>
      rw [hrecord] at hfirst
      cases hfirst
    | ok record =>
      rw [List.cons_append, readLists_of_ok hrecord, ih hbefore, List.length_cons, Nat.add_assoc,
        Nat.add_comm 1]
      rfl

/-! ### Documents -/

/-- One record in one of its forms, or an array of such records. -/
inductive Document : List (List Json) → Json → Prop
  | one {items : List Json} {form : Json} (h : Writes items form) : Document [items] form
  | group {lists : List (List Json)} {forms : List Json} (h : List.Forall₂ Writes lists forms) :
      Document lists (.array forms)

theorem isFieldList_of_forms (h : List.Forall₂ Form lists forms) : isFieldList forms = false := by
  cases h with
  | nil => rfl
  | cons hform _ => simp [isFieldList, isField_of_form hform]

theorem ofJson_of_document {document : Json} (h : Document lists document) :
    ofJson document = readLists 0 lists := by
  cases h with
  | one h =>
    obtain ⟨hlist, hform⟩ := h
    cases hform with
    | bare =>
      rw [ofJson, if_pos (isFieldList_of_fieldList hlist)]
      rfl
    | object h =>
      rw [ofJson, h, Option.isSome_some, if_pos rfl, ofObject, h]
      rfl
  | group h =>
    have hforms := h.imp fun _ _ hwrites => hwrites.2
    rw [ofJson, isFieldList_of_forms hforms]
    exact ofItems_eq_readLists hforms 0

/-! ### Texts -/

variable {decode : Decoder} {lines : List (List Char)}

/-- Documents on lines of their own, with blank lines between them and white space around them. -/
inductive Lines (decode : Decoder) : List (List Char) → List (List Json) → Prop
  | nil : Lines decode [] []
  | blank {line : List Char} {lines : List (List Char)} {lists : List (List Json)}
      (h : line.all isBlank) (rest : Lines decode lines lists) : Lines decode (line :: lines) lists
  | document {line : List Char} {lines : List (List Char)} {group lists : List (List Json)}
      {document : Json} (h : decode (trimmed line) = .ok document)
      (hgroup : Document group document) (rest : Lines decode lines lists) :
      Lines decode (line :: lines) (group ++ lists)

/-- The text of some lines. -/
def unlines (lines : List (List Char)) : List Char := ['\n'].intercalate lines

/-- A line is followed by the end of the text, or by a line end and the other lines. -/
theorem unlines_cons (line : List Char) (lines : List (List Char)) : ∃ gap, gap.all isBlank ∧
    unlines (line :: lines) = line ++ (gap ++ unlines lines) ∧ Apart (gap ++ unlines lines) := by
  cases lines with
  | nil => exact ⟨[], rfl, by simp [unlines], fun _ h => nomatch h⟩
  | cons next lines =>
    refine ⟨['\n'], rfl, ?_, fun c hc => ?_⟩
    · rw [unlines, List.intercalate_cons_cons, List.append_assoc]
      rfl
    · cases hc
      rfl

theorem documentLines_unlines (h : ∀ line ∈ lines, '\n' ∉ line) :
    documentLines (unlines lines) = (lines.map trimmed).filter (! ·.isEmpty) := by
  cases lines with
  | nil => rfl
  | cons line lines => rw [documentLines, unlines, Text.pieces_intercalate h (List.cons_ne_nil _ _)]

/-- The documents of lines, read one after another. -/
theorem readLines_eq (hdecode : Lone decode) (h : Lines decode lines lists) (offset : Nat) :
    readLines decode offset ((lines.map trimmed).filter (! ·.isEmpty)) =
      (readLists offset lists).mapError .malformed := by
  induction h generalizing offset with
  | nil => rfl
  | blank hline _ ih =>
    rw [List.map_cons, Text.trimmed_eq_nil.2 hline]
    exact ih offset
  | @document line lines group lists document hdocument hgroup _ ih =>
    have hne : trimmed line ≠ [] := fun hnil => by
      rw [hnil] at hdocument
      exact hdecode.blank [] rfl _ hdocument
    have hkept : (! (trimmed line).isEmpty) = true := by simpa using hne
    have hshift := readLists_shift group 0 offset
    rw [Nat.zero_add] at hshift
    rw [List.map_cons, List.filter_cons, if_pos hkept, readLines, hdocument]
    dsimp only
    rw [ofJson_of_document hgroup, readLists_append, ← hshift]
    cases readLists 0 group with
    | error m => rfl
    | ok records =>
      dsimp only [Except.mapError]
      rw [ih]
      cases readLists (offset + records.length) lists <;> rfl

/-- There is no document in white space. -/
theorem lists_eq_nil (hdecode : Lone decode) (h : Lines decode lines lists)
    (hblank : (unlines lines).all isBlank) : lists = [] := by
  induction h with
  | nil => rfl
  | @blank line lines _ _ _ ih =>
    obtain ⟨gap, -, hlines, -⟩ := unlines_cons line lines
    rw [hlines, List.all_append, List.all_append, Bool.and_eq_true, Bool.and_eq_true] at hblank
    exact ih hblank.2.2
  | @document line lines _ _ document hdocument =>
    obtain ⟨gap, -, hlines, -⟩ := unlines_cons line lines
    rw [hlines, List.all_append, Bool.and_eq_true] at hblank
    rw [Text.trimmed_eq_nil.2 hblank.1] at hdocument
    exact absurd hdocument (hdecode.blank [] rfl document)

theorem apart_append {after more : List Char} (hafter : after.all isBlank) (hmore : Apart more) :
    Apart (after ++ more) := by
  cases after with
  | nil => exact hmore
  | cons c after =>
    rintro _ ⟨⟩
    exact List.all_eq_true.1 hafter c List.mem_cons_self

/-- If lines decode as a whole, there is one document among them. -/
theorem document_of_decode (hdecode : Lone decode) (h : Lines decode lines lists)
    (before : List Char) (hbefore : before.all isBlank) {whole : Json}
    (hwhole : decode (before ++ unlines lines) = .ok whole) : Document lists whole := by
  -- by lines, with the blank ones so far in front
  induction h generalizing before with
  | nil =>
    refine absurd hwhole (hdecode.blank _ ?_ whole)
    rw [List.all_append, hbefore]
    rfl
  | @blank line lines _ hline _ ih =>
    obtain ⟨gap, hgap, hlines, -⟩ := unlines_cons line lines
    rw [hlines, ← List.append_assoc, ← List.append_assoc] at hwhole
    refine ih _ ?_ hwhole
    rw [List.all_append, List.all_append, hbefore, hline, hgap]
    rfl
  | @document line lines group lists document hdocument hgroup rest =>
    obtain ⟨gap, -, hlines, hapart⟩ := unlines_cons line lines
    obtain ⟨front, back, hline, hfront, hback⟩ := Text.eq_trimmed line
    have htext : before ++ unlines (line :: lines) =
        (before ++ front) ++ trimmed line ++ (back ++ (gap ++ unlines lines)) := by
      rw [hlines]
      nth_rewrite 1 [hline]
      simp only [List.append_assoc]
    have hlead : (before ++ front).all isBlank := by
      rw [List.all_append, hbefore, hfront]
      rfl
    rw [htext] at hwhole
    obtain ⟨rfl, hblank⟩ := hdecode.value (trimmed line) document hdocument _ _ whole hlead
      (apart_append hback hapart) hwhole
    -- what follows the document is blank, so there is no other one
    rw [List.all_append, List.all_append, Bool.and_eq_true, Bool.and_eq_true] at hblank
    rw [lists_eq_nil hdecode rest hblank.2.2, List.append_nil]
    exact hgroup

theorem readWith_of_ok {text : List Char} {document : Json} (h : decode text = .ok document) :
    readWith decode text = (ofJson document).mapError .malformed := by
  rw [readWith, h]
  dsimp only
  cases ofJson document <;> rfl

/-- **Layouts of records are interchangeable.**  Let records be lists of fields, each written in
one of its two forms.  One array of them, and lines on which each of them or some of them in an
array are written, are read alike, the forms and the grouping chosen freely; and so is any other
text that decodes to one array.  If all lists are records, these are the answer, in order; else it
is the fault of the first one that is none, with its position among all of them. -/
theorem layouts_agree {decode : Decoder} (hdecode : Lone decode) {lists : List (List Json)}
    {forms : List Json} (hforms : List.Forall₂ Writes lists forms) {lines : List (List Char)}
    (hlines : Lines decode lines lists) (hends : ∀ line ∈ lines, '\n' ∉ line) :
    readWith decode (unlines lines) = (ofJson (.array forms)).mapError .malformed ∧
      (∀ text, decode text = .ok (.array forms) →
        readWith decode text = (ofJson (.array forms)).mapError .malformed) ∧
      (∀ records, List.Forall₂ (fun items record => ofFieldList items = .ok record) lists records →
        ofJson (.array forms) = .ok records) ∧
      ∀ before items after reason, lists = before ++ items :: after →
        (∀ items' ∈ before, (ofFieldList items').isOk) → ofFieldList items = .error reason →
          ofJson (.array forms) = .error ⟨before.length, reason⟩ := by
  have hall : ofJson (.array forms) = readLists 0 lists := ofJson_of_document (.group hforms)
  rw [hall]
  refine ⟨?_, fun text htext => ?_, fun records hrecords => readLists_eq_ok hrecords 0, ?_⟩
  · cases htext : decode (unlines lines) with
    | error why =>
      rw [readWith, htext, documentLines_unlines hends]
      exact readLines_eq hdecode hlines 0
    | ok whole =>
      have hwhole : Document lists whole :=
        document_of_decode hdecode hlines [] rfl htext
      rw [readWith_of_ok htext, ofJson_of_document hwhole]
  · rw [readWith_of_ok htext, hall]
  · rintro before items after reason rfl hbefore hitems
    rw [readLists_eq_error hbefore hitems, Nat.zero_add]

end Reading

namespace Catalogue

/-- A list of one field, with a text. -/
def numbered (number : String) : List Json := [.object [("001", .text number)]]

/-- A list of one field, with a value that no field has. -/
def untitled : List Json := [.object [("245", .bool true)]]

/-- A record on a line, and an array of two records on another. -/
def lines : List (List Char) :=
  ["[\x7b\"001\": \"a\"\x7d]".toList, "  ".toList,
    " [\x7b\"fields\": [\x7b\"245\": true\x7d]\x7d, [\x7b\"001\": \"c\"\x7d]] ".toList]

theorem writes_numbered (number : String) :
    Writes (numbered number) (.array (numbered number)) := by
  refine ⟨⟨List.cons_ne_nil _ _, List.forall_mem_singleton.2 ?_⟩, .bare⟩
  exact ⟨"001", .text number, rfl, by decide⟩

theorem writes_untitled {form : Json} (h : Form untitled form) : Writes untitled form := by
  refine ⟨⟨List.cons_ne_nil _ _, List.forall_mem_singleton.2 ?_⟩, h⟩
  exact ⟨"245", .bool true, rfl, by decide⟩

/-- The records are read as one array of them is, and the fault is told of the second record. -/
theorem lines_read : readWith Json.decode (unlines lines) =
    .error (.malformed ⟨1, "field 245 must be a string or an object"⟩) := by
  have hforms : List.Forall₂ Writes [numbered "a", untitled, numbered "c"]
      [.array (numbered "a"), .array untitled, .array (numbered "c")] :=
    .cons (writes_numbered "a") (.cons (writes_untitled .bare) (.cons (writes_numbered "c") .nil))
  have hfirst : Json.decode (trimmed "[\x7b\"001\": \"a\"\x7d]".toList) =
      .ok (.array (numbered "a")) := by
    cbv
  have hthird : Json.decode (trimmed
      " [\x7b\"fields\": [\x7b\"245\": true\x7d]\x7d, [\x7b\"001\": \"c\"\x7d]] ".toList) =
      .ok (.array [.object [("fields", .array untitled)], .array (numbered "c")]) := by
    cbv
  have hgroup : List.Forall₂ Writes [untitled, numbered "c"]
      [.object [("fields", .array untitled)], .array (numbered "c")] :=
    .cons (writes_untitled (.object rfl)) (.cons (writes_numbered "c") .nil)
  have hlines : Lines Json.decode lines ([numbered "a"] ++ ([untitled, numbered "c"] ++ [])) :=
    .document hfirst (.one (writes_numbered "a"))
      (.blank rfl (.document hthird (.group hgroup) .nil))
  obtain ⟨hread, -, -, hfault⟩ := layouts_agree Json.lone_decode hforms hlines (by decide)
  rw [hread, hfault [numbered "a"] untitled [numbered "c"] _ rfl (by decide) rfl]
  rfl

end Catalogue

end Accession.Record
