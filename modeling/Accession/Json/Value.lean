import Accession.Decimal.Layout

/-!
# JSON values

* `Json` : a JSON value.  The entries of an object are kept in the order of their keys, each key
  once.
* `Json.insert` : adds an entry to an object, in place of an earlier one of the same key.
* `Json.number` : how a number that is no 64-bit integer is written.
-/

namespace Accession

/-- A JSON value. -/
inductive Json where
  | null
  | bool (b : Bool)
  | integer (i : Int)
  | float (x : Float)
  | text (s : String)
  | array (items : List Json)
  | object (entries : List (String × Json))

namespace Json

/-- Adds an entry to entries sorted by key; an entry of the same key is replaced. -/
def insert (key : String) (value : Json) : List (String × Json) → List (String × Json)
  | [] => [(key, value)]
  | (k, v) :: rest =>
    if key < k then (key, value) :: (k, v) :: rest
    else if key = k then (key, value) :: rest
    else (k, v) :: insert key value rest

/-- Numbers are written positionally while the exponent of the first digit is at least -5 and
below 16, with a point, and with a sign on every exponent. -/
def number : Decimal.Layout where
  tie := .even
  positional := some (-5, 15)
  wholeSuffix := ".0"
  exponentPlus := "+"
  nan := "null"
  infinity := "null"

/-- The value of a key of an object. -/
def get? (key : String) : Json → Option Json
  | object entries => entries.lookup key
  | _ => none

end Json

end Accession
