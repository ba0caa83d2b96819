import Accession.Yaml.Cursor

/-!
# Folding

Between two runs of characters of a plain or quoted scalar there is a `Gap`: blanks, or line
breaks with blanks around them.  `Gap.folded` is what it adds to the scalar: blanks as they are, a
single line break as a space, and several without the first.
-/

namespace Accession.Yaml

/-- What stands between two runs of a scalar. -/
structure Gap where
  /-- Blanks before any line break. -/
  blanks : List Char
  /-- A line has ended. -/
  broken : Bool
  /-- The first line break, unless it is escaped. -/
  first : Option Char
  /-- The line breaks after it. -/
  more : List Char
  deriving DecidableEq, Repr

namespace Gap

/-- No gap. -/
def none : Gap := ⟨[], false, .none, []⟩

/-- An escaped line break. -/
def escaped : Gap := ⟨[], true, .none, []⟩

/-- The gap and a blank after it. -/
def addBlank (c : Char) (g : Gap) : Gap :=
  if g.broken then g else { g with blanks := g.blanks ++ [c] }

/-- The gap and a line break after it. -/
def addBreak (c : Char) (g : Gap) : Gap :=
  if g.broken then { g with more := g.more ++ [normalBreak c] }
  else ⟨[], true, some (normalBreak c), []⟩

/-- What the gap adds to the scalar. -/
def folded (g : Gap) : List Char :=
  if !g.broken then g.blanks
  else match g.first with
    | .none => g.more
    | some '\n' => if g.more = [] then [' '] else g.more
    | some c => c :: g.more

end Gap

/-- Reads on a gap.  After a line break, a tab before the column `indent` is refused. -/
def readGapFrom (indent : Nat) (g : Gap) (column line offset : Nat) :
    List Char → Except Error (Gap × Cursor)
  | [] => .ok (g, ⟨[], column, line, offset⟩)
  | '\r' :: '\n' :: rest => readGapFrom indent (g.addBreak '\n') 0 (line + 1) (offset + 2) rest
  | c :: rest =>
    if isBreak c then readGapFrom indent (g.addBreak c) 0 (line + 1) (offset + 1) rest
    else if isSpace c then
      if g.broken && c == '\t' && column < indent then .error .lexeme
      else readGapFrom indent (g.addBlank c) (column + 1) line (offset + 1) rest
    else .ok (g, ⟨c :: rest, column, line, offset⟩)

/-- Reads the gap in front, after a part of it that is already known. -/
def Cursor.readGap (indent : Nat) (known : Gap) (c : Cursor) : Except Error (Gap × Cursor) :=
  readGapFrom indent known c.column c.line c.offset c.rest

end Accession.Yaml
