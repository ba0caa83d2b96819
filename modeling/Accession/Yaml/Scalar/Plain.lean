import Accession.Yaml.Scalar.Folding

/-!
# Plain scalars

A plain scalar has no quotes.  It ends before a colon with a gap after it, before a comment, where
a line is indented too little, and, within brackets, before a comma or a bracket.
-/

namespace Accession.Yaml

/-- The characters of a plain scalar up to a gap or its end; within brackets a colon before a
comma or a bracket is refused. -/
def plainRun (flow : Bool) : List Char → Except Error (List Char)
  | [] => .ok []
  | c :: rest =>
    if isGap c then .ok []
    else if c == ':' && flow && (match rest with
        | d :: _ => isFlowMark d || d == '?'
        | [] => false) then .error .lexeme
    else if c == ':' && gapFollows rest then .ok []
    else if flow && isFlowMark c then .ok []
    else match plainRun flow rest with
      | .ok run => .ok (c :: run)
      | .error e => .error e

/-- A scalar that has been read: its characters, whether a line has ended after them, and the
place where reading goes on. -/
structure PlainScalar where
  text : List Char
  broken : Bool
  cursor : Cursor

/-- Reads on a plain scalar, `text` being its characters so far, the last first, and `gap` what
follows them; outside of brackets its lines are indented by `indent`. -/
def readPlainFrom (flow : Bool) (indent : Nat) :
    (fuel : Nat) → (text : List Char) → Gap → Cursor → Except Error PlainScalar
  | 0, text, gap, c => .ok ⟨text.reverse, gap.broken, c⟩
  | fuel + 1, text, gap, c =>
    if c.atDocumentMark || c.rest.head? == some '#' then .ok ⟨text.reverse, gap.broken, c⟩
    else do
      let run ← plainRun flow c.rest
      let (text, gap) :=
        if run.isEmpty then (text, gap)
        else (run.reverse ++ (gap.folded.reverse ++ text), Gap.none)
      let c := c.advance run.length
      match c.rest with
      | [] => pure ⟨text.reverse, gap.broken, c⟩
      | d :: _ =>
        if !isGap d then pure ⟨text.reverse, gap.broken, c⟩
        else
          let (gap, c) ← c.readGap indent gap
          if !flow && c.column < indent then pure ⟨text.reverse, gap.broken, c⟩
          else readPlainFrom flow indent fuel text gap c

/-- Reads the plain scalar in front; `fuel` exceeds the length of the text. -/
def Cursor.readPlain (flow : Bool) (indent fuel : Nat) (c : Cursor) : Except Error PlainScalar :=
  readPlainFrom flow indent fuel [] Gap.none c

end Accession.Yaml
