/-!
# Faults of JSON text

* `Json.Fault` : why a text is no JSON value, and how much of it was left unread.
* `Json.Fault.message` : the fault and its place, as a line and a column counted in bytes.
-/

namespace Accession.Json

/-- Why a text is no JSON value. -/
inductive Fault.Cause where
  | endInList
  | endInObject
  | endInText
  | endInValue
  | expectedColon
  | expectedCommaOrBracket
  | expectedCommaOrBrace
  | expectedIdent
  | expectedValue
  | invalidEscape
  | invalidNumber
  | numberOutOfRange
  | controlCharacter
  | keyNotText
  | loneSurrogate
  | trailingComma
  | trailingCharacters
  | endOfEscape
  | nestingTooDeep
  deriving DecidableEq, Repr

/-- What the fault is. -/
def Fault.Cause.message : Fault.Cause → String
  | endInList => "EOF while parsing a list"
  | endInObject => "EOF while parsing an object"
  | endInText => "EOF while parsing a string"
  | endInValue => "EOF while parsing a value"
  | expectedColon => "expected `:`"
  | expectedCommaOrBracket => "expected `,` or `]`"
  | expectedCommaOrBrace => "expected `,` or `\x7d`"
  | expectedIdent => "expected ident"
  | expectedValue => "expected value"
  | invalidEscape => "invalid escape"
  | invalidNumber => "invalid number"
  | numberOutOfRange => "number out of range"
  | controlCharacter => "control character (\\u0000-\\u001F) found while parsing a string"
  | keyNotText => "key must be a string"
  | loneSurrogate => "lone leading surrogate in hex escape"
  | trailingComma => "trailing comma"
  | trailingCharacters => "trailing characters"
  | endOfEscape => "unexpected end of hex escape"
  | nestingTooDeep => "recursion limit exceeded"

/-- A fault, the characters not yet read when it was met, and whether the place meant is one byte
further on. -/
structure Fault where
  cause : Fault.Cause
  rest : List Char
  ahead : Bool
  deriving DecidableEq, Repr

/-- The number of bytes of the characters in UTF-8. -/
def byteCount (cs : List Char) : Nat := cs.foldl (fun count c => count + c.utf8Size) 0

/-- The fault with its place in the text it was met in. -/
def Fault.message (text : List Char) (f : Fault) : String :=
  let read := text.take (text.length - f.rest.length)
  let ahead := if f.ahead && !f.rest.isEmpty then 1 else 0
  let crossed := ahead == 1 && f.rest.head? == some '\n'
  let lastLine := (read.reverse.takeWhile (· ≠ '\n')).reverse
  let line := read.count '\n' + 1 + (if crossed then 1 else 0)
  let column := if crossed then 0 else byteCount lastLine + ahead
  f.cause.message ++ " at line " ++ toString line ++ " column " ++ toString column

end Accession.Json
