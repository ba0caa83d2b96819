import Accession.Json.Reader
import Accession.Record.Basic
import Accession.Text.Blank
import Accession.Text.Search

/-!
# Records in JSON

Records are written in several layouts, all read by `Record.ofJson` and `Record.readAll`:

* an object with an array `fields`, or an array of such objects;
* an array of fields, each an object of one key, or an array of such arrays;
* a text of several such documents, one on a line.

`Record.readWith` reads a text of records with any decoder of single documents.

A field is an object that gives a code a text, a number, or an object with an array `subfields`.
-/

namespace Accession

/-- A record that is not written as one: its position among the records, and what is wrong. -/
structure Malformed where
  index : Nat
  reason : String
  deriving DecidableEq, Repr

/-- Why records cannot be read. -/
inductive ReadError where
  /-- The text is not JSON. -/
  | notJson (why : String)
  /-- A document is not a record. -/
  | malformed (fault : Malformed)
  deriving DecidableEq, Repr

namespace Malformed

/-- What is wrong, and where. -/
def message (m : Malformed) : String := "record " ++ toString m.index ++ ": " ++ m.reason

/-- The fault of a record that `offset` others precede. -/
def shift (offset : Nat) (m : Malformed) : Malformed := { m with index := m.index + offset }

end Malformed

namespace Record

/-- The key of the array of fields of a record. -/
def fieldsKey : String := "fields"

/-- The key of the array of subfields of a field. -/
def subfieldsKey : String := "subfields"

/-- The key that a list of fields may hold beside its fields; it is passed over. -/
def leaderKey : String := "leader"

/-! ### Subfields and fields -/

/-- Adds the entries of one object of subfields; values that are no text are passed over. -/
def addSubfields (tag : String) (field : Field) :
    List (String × Json) → Except String Field
  | [] => .ok field
  | (code, value) :: rest =>
    match code.toList with
    | [c] =>
      match value with
      | .text s => addSubfields tag (field.addSubfield c s) rest
      | _ => addSubfields tag field rest
    | _ => .error ("field " ++ tag ++ ": subfield code '" ++ code
        ++ "' must be a single character")

/-- Adds the subfields of an array of objects. -/
def addSubfieldItems (tag : String) (field : Field) : List Json → Except String Field
  | [] => .ok field
  | .object entries :: rest =>
    match addSubfields tag field entries with
    | .ok field => addSubfieldItems tag field rest
    | .error reason => .error reason
  | _ :: _ => .error ("field " ++ tag ++ ": subfield must be an object")

/-- The field that a code and its value write. -/
def fieldOfJson (tag : String) : Json → Except String Field
  | .text s => .ok (Field.control tag s)
  | .integer i => .ok (Field.control tag (toString i))
  | .float x => .ok (Field.control tag (Json.number.text x))
  | .object body =>
    match body.lookup subfieldsKey with
    | some (.array items) => addSubfieldItems tag (Field.data tag) items
    | _ => .ok (Field.data tag)
  | _ => .error ("field " ++ tag ++ " must be a string or an object")

/-- The fields of the entries of one object. -/
def fieldsOfEntries : List (String × Json) → Except String (List Field)
  | [] => .ok []
  | (tag, value) :: rest =>
    if tag = leaderKey then fieldsOfEntries rest
    else do
      let field ← fieldOfJson tag value
      let fields ← fieldsOfEntries rest
      pure (field :: fields)

/-- The fields of a list of objects. -/
def fieldsOfItems : List Json → Except String (List Field)
  | [] => .ok []
  | .object entries :: rest => do
    let fields ← fieldsOfEntries entries
    let more ← fieldsOfItems rest
    pure (fields ++ more)
  | _ :: _ => .error "field must be an object"

/-! ### Records -/

/-- The record that a list of fields writes. -/
def ofFieldList (items : List Json) : Except String Record :=
  (fieldsOfItems items).map Record.mk

/-- The record that an object writes. -/
def ofObject (entries : List (String × Json)) : Except String Record :=
  match entries.lookup fieldsKey with
  | some (.array items) => ofFieldList items
  | _ => .error "record object has no 'fields' array"

/-- The record that one item of an array writes. -/
def ofItem : Json → Except String Record
  | .object entries => ofObject entries
  | .array items => ofFieldList items
  | _ => .error "record must be an object or an array of fields"

/-- The item is an object of one key, and the key is not that of a list of fields. -/
def isField : Json → Bool
  | .object [(key, _)] => key ≠ fieldsKey
  | _ => false

/-- An array of fields is one record. -/
def isFieldList (items : List Json) : Bool := !items.isEmpty && items.all isField

/-- The record at a position, or the fault there. -/
def atIndex {α : Type} (index : Nat) : Except String α → Except Malformed α
  | .ok a => .ok a
  | .error reason => .error ⟨index, reason⟩

/-- The records of the items of an array, of which the first has position `index`. -/
def ofItems : Nat → List Json → Except Malformed (List Record)
  | _, [] => .ok []
  | index, item :: rest => do
    let record ← atIndex index (ofItem item)
    let records ← ofItems (index + 1) rest
    pure (record :: records)

/-- The records that a document writes. -/
def ofJson : Json → Except Malformed (List Record)
  | .object entries =>
    if (entries.lookup fieldsKey).isSome then do
      let record ← atIndex 0 (ofObject entries)
      pure [record]
    else .error ⟨0, "expected a record object or an array of records"⟩
  | .array items =>
    if isFieldList items then do
      let record ← atIndex 0 (ofFieldList items)
      pure [record]
    else ofItems 0 items
  | _ => .error ⟨0, "expected a record object or an array of records"⟩

/-! ### Texts of records -/

/-- A reading of a text as one document. -/
abbrev Decoder := List Char → Except String Json

/-- The records of documents on lines of their own, after `offset` records. -/
def readLines (decode : Decoder) :
    (offset : Nat) → List (List Char) → Except ReadError (List Record)
  | _, [] => .ok []
  | offset, line :: rest =>
    match decode line with
    | .error why => .error (.notJson why)
    | .ok document =>
      match ofJson document with
      | .error m => .error (.malformed (m.shift offset))
      | .ok records => (readLines decode (offset + records.length) rest).map (records ++ ·)

/-- The lines of a text that are not blank, trimmed. -/
def documentLines (text : List Char) : List (List Char) :=
  ((Text.pieces ['\n'] text).map Text.trimmed).filter (! ·.isEmpty)

/-- The records of a text: of one document, or else of one document on each line. -/
def readWith (decode : Decoder) (text : List Char) : Except ReadError (List Record) :=
  match decode text with
  | .ok document =>
    match ofJson document with
    | .ok records => .ok records
    | .error m => .error (.malformed m)
  | .error _ => readLines decode 0 (documentLines text)

/-- The records of a text of JSON. -/
def readAll (text : String) : Except ReadError (List Record) :=
  readWith Json.decode text.toList

end Record

end Accession
