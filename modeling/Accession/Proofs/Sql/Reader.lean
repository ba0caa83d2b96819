import Accession.Proofs.Sql.Query

/-!
# Reading statements back

A database reads a statement from its tokens.  What was written is what is read back, if no name has
a double quote.

* `Lookup.read?`, `Insertion.read?` : the statement that a text is.
* `Lookup.read?_sql`, `Insertion.read?_sql` : reading gives back what was written.
-/

namespace Accession.Sql

/-! ### Parts -/

/-- What follows some tokens. -/
def after? (expected tokens : List Token) : Option (List Token) := expected.isPrefixOf? tokens

/-- A quoted name, and what follows. -/
def quoted? : List Token → Option (String × List Token)
  | .name name :: rest => some (name, rest)
  | _ => none

/-- The key that is asked for, and what follows. -/
def readKey? (tokens : List Token) : Option (String × List Token) := do
  let (key, rest) ← quoted? (← after? [.word "CAST", .mark '('] tokens)
  let rest ← after? [.word "AS", .word "BIGINT", .mark ')', .word "AS", .word "pk_value"] rest
  pure (key, rest)

/-- The clause that the tokens are. -/
def readClause? : List Token → Option Clause
  | [.name column, .mark '=', .placeholder position] => some ⟨column, .equals, position⟩
  | [.word "LOWER", .mark '(', .name column, .mark ')', .word "LIKE", .placeholder position] =>
    some ⟨column, .lowerLike, position⟩
  | [.word "LOWER", .mark '(', .name column, .mark ')', .mark '=', .placeholder position] =>
    some ⟨column, .lowerEquals, position⟩
  | _ => none

/-- The clauses that are all to hold. -/
def readConjunction? (tokens : List Token) : Option (List Clause) :=
  if tokens = always then some [] else (tokens.splitOn (.word "AND")).mapM readClause?

/-- What stands before a token, and what follows from it on. -/
def cutAt (token : Token) (tokens : List Token) : List Token × List Token :=
  (tokens.takeWhile (· ≠ token), tokens.dropWhile (· ≠ token))

/-- The only token, as an item of a list. -/
def only? {α : Type} (item? : Token → Option α) : List Token → Option α
  | [token] => item? token
  | _ => none

/-- The items of a list up to a closing parenthesis, and what follows it. -/
def readList? {α : Type} (item? : Token → Option α) (tokens : List Token) :
    Option (List α × List Token) := do
  let cut := cutAt (.mark ')') tokens
  let items ← (cut.1.splitOn (.mark ',')).mapM (only? item?)
  let rest ← after? [.mark ')'] cut.2
  pure (items, rest)

/-- The columns and placeholders of an insertion, and what follows. -/
def readValues? (tokens : List Token) : Option (List String × List Nat × List Token) :=
  match after? [.word "DEFAULT", .word "VALUES"] tokens with
  | some rest => some ([], [], rest)
  | none => do
    let (columns, rest) ← readList? Token.name? (← after? [.mark '('] tokens)
    let (positions, rest) ← readList? Token.position?
      (← after? [.word "VALUES", .mark '('] rest)
    pure (columns, positions, rest)

/-! ### Statements -/

namespace Lookup

/-- The lookup that the tokens are. -/
def ofTokens? (tokens : List Token) : Option Lookup := do
  let (key, rest) ← readKey? (← after? [.word "SELECT"] tokens)
  let (table, rest) ← quoted? (← after? [.word "FROM"] rest)
  let cut := cutAt (.word "ORDER") (← after? [.word "WHERE"] rest)
  let clauses ← readConjunction? cut.1
  let (order, rest) ← quoted? (← after? [.word "ORDER", .word "BY"] cut.2)
  if rest = [.word "ASC", .word "LIMIT", .word "1"] then some ⟨key, table, clauses, order⟩
  else none

/-- The lookup that a text is. -/
def read? (sql : String) : Option Lookup := (tokens? sql).bind ofTokens?

end Lookup

namespace Insertion

/-- The insertion that the tokens are. -/
def ofTokens? (tokens : List Token) : Option Insertion := do
  let (table, rest) ← quoted? (← after? [.word "INSERT", .word "INTO"] tokens)
  let (columns, positions, rest) ← readValues? rest
  let (key, rest) ← readKey? (← after? [.word "RETURNING"] rest)
  if rest = [] then some ⟨table, columns, positions, key⟩ else none

/-- The insertion that a text is. -/
def read? (sql : String) : Option Insertion := (tokens? sql).bind ofTokens?

end Insertion

section Reading

variable {α : Type} {rest : List Token}

theorem mapM_map {β : Type} {read? : List Token → Option β} {write : β → List Token}
    (items : List β) (h : ∀ x ∈ items, read? (write x) = some x) :
    (items.map write).mapM read? = some items := by
  induction items with
  | nil => rfl
  | cons x items ih =>
    obtain ⟨hx, hitems⟩ := List.forall_mem_cons.1 h
    rw [List.map_cons, List.mapM_cons, hx, ih hitems]
    rfl

theorem readClause?_tokens (c : Clause) : readClause? (clauseTokens c) = some c := by
  obtain ⟨column, comparison, position⟩ := c
  cases comparison <;> rfl

/-- What is in no part and no separator is in none of the parts with separators between them. -/
theorem not_mem_separated {x : Token} {sep : List Token} {spelt : α → List Token} (hsep : x ∉ sep)
    (h : ∀ p, x ∉ spelt p) (parts : List α) : x ∉ List.intercalate sep (parts.map spelt) := by
  induction parts with
  | nil => exact List.not_mem_nil
  | cons p parts ih =>
    cases parts with
    | nil => simpa using h p
    | cons q parts =>
      rw [List.map_cons, List.map_cons, List.intercalate_cons_cons, ← List.map_cons]
      simp only [List.mem_append, not_or]
      exact ⟨⟨h p, hsep⟩, ih⟩

theorem cutAt_append {token : Token} {before : List Token} (h : token ∉ before) :
    cutAt token (before ++ token :: rest) = (before, token :: rest) := by
  have hother : ∀ x ∈ before, decide (x ≠ token) = true := fun x hx =>
    decide_eq_true fun heq => h (heq ▸ hx)
  rw [cutAt, List.takeWhile_append_of_pos hother, List.dropWhile_append_of_pos hother,
    List.takeWhile_cons_of_neg (by simp), List.dropWhile_cons_of_neg (by simp), List.append_nil]

theorem not_mem_clauseTokens {word : String} (h : word ≠ "LOWER" ∧ word ≠ "LIKE") (c : Clause) :
    Token.word word ∉ clauseTokens c := by
  obtain ⟨column, comparison, position⟩ := c
  cases comparison <;> simp [clauseTokens, h.1, h.2]

theorem order_not_mem_conjunctionTokens (clauses : List Clause) :
    Token.word "ORDER" ∉ conjunctionTokens clauses := by
  rw [conjunctionTokens]
  split
  · decide
  · exact not_mem_separated (by decide) (not_mem_clauseTokens (by decide)) clauses

/-- A clause begins otherwise than what always holds. -/
theorem intercalate_clauseTokens_ne_always {sep : List Token} {clauses : List Clause} :
    List.intercalate sep (clauses.map clauseTokens) ≠ always := by
  cases clauses with
  | nil => simp [always]
  | cons c clauses =>
    obtain ⟨column, comparison, position⟩ := c
    cases clauses <;> cases comparison <;> simp [clauseTokens, always, List.intercalate_cons_cons]

theorem readConjunction?_tokens (clauses : List Clause) :
    readConjunction? (conjunctionTokens clauses) = some clauses := by
  rw [conjunctionTokens]
  split
  · next h =>
    rw [List.isEmpty_iff.1 h]
    rfl
  · next h =>
    rw [readConjunction?, if_neg intercalate_clauseTokens_ne_always,
      List.splitOn_intercalate, mapM_map clauses fun c _ => readClause?_tokens c]
    · intro part hpart
      obtain ⟨c, -, rfl⟩ := List.mem_map.1 hpart
      exact not_mem_clauseTokens (by decide) c
    · simpa using h

variable {item? : Token → Option α} {token : α → Token}

theorem readList?_tokens {items : List α} (hne : items ≠ []) (hitem : ∀ x, item? (token x) = some x)
    (hmark : ∀ c x, token x ≠ .mark c) :
    readList? item? (listTokens token items ++ .mark ')' :: rest) = some (items, rest) := by
  have hitemMark : ∀ c x, Token.mark c ∉ [token x] := fun c x hmem =>
    hmark c x (List.mem_singleton.1 hmem).symm
  have hclose : Token.mark ')' ∉ listTokens token items :=
    not_mem_separated (by decide) (hitemMark ')') items
  have hparts : (listTokens token items).splitOn (.mark ',') = items.map fun x => [token x] := by
    refine List.splitOn_intercalate _ (fun part hpart => ?_) (by simpa using hne)
    obtain ⟨x, -, rfl⟩ := List.mem_map.1 hpart
    exact hitemMark ',' x
  have hitems : (items.map fun x => [token x]).mapM (only? item?) = some items :=
    mapM_map items fun x _ => hitem x
  rw [readList?, cutAt_append hclose]
  dsimp only
  rw [hparts, hitems]
  rfl

theorem readValues?_tokens {columns : List String} {positions : List Nat}
    (h : columns = [] ↔ positions = []) :
    readValues? (valuesTokens columns positions ++ rest) = some (columns, positions, rest) := by
  cases columns with
  | nil =>
    rw [h.1 rfl]
    rfl
  | cons column columns =>
    have hcolumns : readList? Token.name? (listTokens .name (column :: columns) ++ .mark ')' ::
        .word "VALUES" :: .mark '(' :: (listTokens .placeholder positions ++ .mark ')' :: rest)) =
        some (column :: columns, _) :=
      readList?_tokens (List.cons_ne_nil _ _) (fun _ => rfl) fun _ _ => Token.noConfusion
    have hpositions : readList? Token.position? (listTokens .placeholder positions ++
        .mark ')' :: rest) = some (positions, rest) :=
      readList?_tokens (fun hnil => List.cons_ne_nil _ _ (h.2 hnil)) (fun _ => rfl) fun _ _ =>
        Token.noConfusion
    have htokens : valuesTokens (column :: columns) positions ++ rest = .mark '(' ::
        (listTokens .name (column :: columns) ++ .mark ')' :: .word "VALUES" :: .mark '(' ::
          (listTokens .placeholder positions ++ .mark ')' :: rest)) := by
      simp [valuesTokens, List.append_assoc]
    rw [htokens, readValues?]
    change (readList? Token.name? _).bind _ = _
    rw [hcolumns]
    change (readList? Token.position? _).bind _ = _
    rw [hpositions]
    rfl

/-- A lookup is read back as it was meant. -/
theorem Lookup.read?_sql {q : Lookup} (h : ∀ name ∈ q.names, Quotable name) :
    read? q.sql = some q := by
  rw [read?, tokens?_of_spells (spells h)]
  have htokens : q.tokens = .word "SELECT" :: (keyTokens q.key ++ .word "FROM" :: .name q.table ::
      .word "WHERE" :: (conjunctionTokens q.clauses ++ .word "ORDER" :: [.word "BY",
        .name q.order, .word "ASC", .word "LIMIT", .word "1"])) := by
    simp [tokens, List.append_assoc]
  rw [htokens]
  change (readConjunction? (cutAt _ (_ ++ _)).1).bind _ = _
  rw [cutAt_append (order_not_mem_conjunctionTokens _)]
  dsimp only
  rw [readConjunction?_tokens]
  rfl

theorem Insertion.read?_sql {q : Insertion} (h : ∀ name ∈ q.names, Quotable name)
    (hsize : q.columns = [] ↔ q.positions = []) : read? q.sql = some q := by
  rw [read?, tokens?_of_spells (spells h)]
  have htokens : q.tokens = .word "INSERT" :: .word "INTO" :: .name q.table ::
      (valuesTokens q.columns q.positions ++ .word "RETURNING" :: (keyTokens q.key ++ [])) := by
    simp [tokens, List.append_assoc]
  rw [htokens]
  change (readValues? (_ ++ _)).bind _ = _
  rw [readValues?_tokens hsize]
  rfl

end Reading

end Accession.Sql
