import DryRun.Proofs.Reading.InsertSyntax

/-!
# The check of a statement

A fault of a list of tokens has a place: that of a separator before the end, that of a parenthesis that closes
none, or the end of the list if a parenthesis is left open. The check goes from left to right and gives the fault
at the first place (`checkTokens_eq_error`), so that what is read is one statement with balanced parentheses.
Each parenthesis that such a statement opens is closed in it, and the readers of headers, which look for the
closing one, always find it (`readStatement_check`).
-/

namespace DryRun

open Text Sql

namespace Sql

/-! ## Faults and their places -/

/-- The faults of a list of tokens behind `depth` open parentheses. -/
inductive FaultAt (depth : Int) (ts : List Token) : Nat → ReadError → Prop where
  /-- A separator before the end. -/
  | several {k : Nat} {t : Token} (ht : ts[k]? = some t) (hk : t.kind = .semicolon) (hmore : k + 1 < ts.length) :
      FaultAt depth ts k .several
  /-- A parenthesis that closes none. -/
  | unbalanced {k : Nat} {t : Token} (ht : ts[k]? = some t) (hk : t.kind = .rightParen)
      (hbelow : depth + nesting (ts.take (k + 1)) < 0) : FaultAt depth ts k (.unbalanced t.start)
  /-- A parenthesis that is left open at the end. -/
  | unclosed (hopen : 0 < depth + nesting ts) : FaultAt depth ts ts.length .unclosed

/-- The fault at the first place where there is one. -/
def FirstFault (depth : Int) (ts : List Token) (k : Nat) (e : ReadError) : Prop :=
  FaultAt depth ts k e ∧ ∀ j < k, ∀ e', ¬ FaultAt depth ts j e'

section Fault

variable {depth : Int} {t : Token} {ts : List Token} {k : Nat} {e : ReadError}

theorem faultAt_nil : FaultAt depth [] k e ↔ k = 0 ∧ 0 < depth ∧ e = .unclosed := by
  constructor
  · rintro (⟨ht, -, -⟩ | ⟨ht, -, -⟩ | hopen)
    · cases ht
    · cases ht
    · exact ⟨rfl, by simpa [nesting] using hopen, rfl⟩
  · rintro ⟨rfl, hd, rfl⟩
    exact .unclosed (by simpa [nesting] using hd)

theorem faultAt_zero : FaultAt depth (t :: ts) 0 e ↔
    (t.kind = .semicolon ∧ ts ≠ [] ∧ e = .several) ∨
    (t.kind = .rightParen ∧ depth ≤ 0 ∧ e = .unbalanced t.start) := by
  constructor
  · generalize hplace : (0 : Nat) = place
    rintro (⟨ht, hk, hmore⟩ | ⟨ht, hk, hbelow⟩ | hopen)
    · subst hplace
      cases ht
      exact .inl ⟨hk, List.ne_nil_of_length_pos (by simpa using hmore), rfl⟩
    · subst hplace
      cases ht
      simp only [Nat.zero_add, List.take_succ_cons, List.take_zero, nesting, hk, Kind.nesting] at hbelow
      exact .inr ⟨hk, by omega, rfl⟩
    · cases hplace
  · rintro (⟨hk, hne, rfl⟩ | ⟨hk, hd, rfl⟩)
    · exact .several rfl hk (by simpa using List.length_pos_iff.2 hne)
    · refine .unbalanced rfl hk ?_
      simp only [Nat.zero_add, List.take_succ_cons, List.take_zero, nesting, hk, Kind.nesting]
      omega

theorem faultAt_succ : FaultAt depth (t :: ts) (k + 1) e ↔ FaultAt (depth + t.kind.nesting) ts k e := by
  constructor
  · generalize hplace : k + 1 = place
    rintro (⟨ht, hk, hmore⟩ | ⟨ht, hk, hbelow⟩ | hopen)
    · subst hplace
      exact .several ht hk (by simpa using hmore)
    · subst hplace
      rw [List.take_succ_cons, nesting, ← Int.add_assoc] at hbelow
      exact .unbalanced ht hk hbelow
    · rw [nesting, ← Int.add_assoc] at hopen
      obtain rfl : k = ts.length := by simpa using hplace
      exact .unclosed hopen
  · rintro (⟨ht, hk, hmore⟩ | ⟨ht, hk, hbelow⟩ | hopen)
    · exact .several ht hk (by simpa using hmore)
    · refine .unbalanced ht hk ?_
      rwa [List.take_succ_cons, nesting, ← Int.add_assoc]
    · exact .unclosed (by rwa [nesting, ← Int.add_assoc])

/-- The first fault of a list is at its first token, or is the first one behind it. -/
theorem exists_firstFault_cons : (∃ k, FirstFault depth (t :: ts) k e) ↔
    FaultAt depth (t :: ts) 0 e ∨
      (∀ e', ¬ FaultAt depth (t :: ts) 0 e') ∧ ∃ k, FirstFault (depth + t.kind.nesting) ts k e := by
  constructor
  · rintro ⟨k, hfault, hfirst⟩
    cases k with
    | zero => exact .inl hfault
    | succ k =>
      refine .inr ⟨hfirst 0 (Nat.zero_lt_succ k), k, faultAt_succ.1 hfault, fun j hj e' h => ?_⟩
      exact hfirst (j + 1) (Nat.succ_lt_succ hj) e' (faultAt_succ.2 h)
  · rintro (hfault | ⟨hzero, k, hfault, hfirst⟩)
    · exact ⟨0, hfault, fun j hj => absurd hj (Nat.not_lt_zero j)⟩
    · refine ⟨k + 1, faultAt_succ.2 hfault, fun j hj e' h => ?_⟩
      cases j with
      | zero => exact hzero e' h
      | succ j => exact hfirst j (Nat.lt_of_succ_lt_succ hj) e' (faultAt_succ.1 h)

/-- Up to the first fault the nesting is nowhere below zero. -/
theorem FirstFault.nonneg (h : FirstFault depth ts k e) (hd : 0 ≤ depth) :
    ∀ j ≤ k, 0 ≤ depth + nesting (ts.take j) := by
  intro j hj
  induction j with
  | zero => simpa [nesting] using hd
  | succ j ih =>
    have ih := ih (by omega)
    cases hget : ts[j]? with
    | none => rwa [List.take_add_one, hget, Option.toList_none, List.append_nil]
    | some t =>
      refine Int.not_lt.1 fun hbelow => ?_
      have hstep : nesting (ts.take (j + 1)) = nesting (ts.take j) + t.kind.nesting := by
        rw [List.take_add_one, hget, Option.toList_some, nesting_append, nesting, nesting, Int.add_zero]
      have hk : t.kind = .rightParen := Kind.eq_rightParen_of_nesting (by omega)
      exact h.2 j (by omega) _ (.unbalanced hget hk hbelow)

end Fault

/-! ## The check -/

section Check

variable {depth : Nat} {t : Token} {ts : List Token} {e : ReadError}

theorem checkTokens_fault (h : FaultAt depth (t :: ts) 0 e) : checkTokens depth (t :: ts) = .error e := by
  rw [checkTokens_cons]
  rcases faultAt_zero.1 h with ⟨hk, hne, rfl⟩ | ⟨hk, hd, rfl⟩
  · simp [hk, hne]
  · obtain rfl : depth = 0 := by omega
    simp [hk]

/-- A token without a fault changes the depth by its nesting. -/
theorem checkTokens_step (h : ∀ e, ¬ FaultAt depth (t :: ts) 0 e) :
    ∃ d : Nat, (d : Int) = depth + t.kind.nesting ∧ checkTokens depth (t :: ts) = checkTokens d ts := by
  have hs : (t.kind == .semicolon && !ts.isEmpty) = false := by
    have hs : t.kind = .semicolon → ts = [] := fun hk =>
      Decidable.byContradiction fun hne => h _ (faultAt_zero.2 (.inl ⟨hk, hne, rfl⟩))
    cases ts <;> simp_all
  rw [checkTokens_cons, if_neg (by simp [hs])]
  by_cases hl : t.kind = .leftParen
  · exact ⟨depth + 1, by rw [hl]; rfl, by simp [hl]⟩
  by_cases hr : t.kind = .rightParen
  · cases depth with
    | zero => exact absurd (faultAt_zero.2 (.inr ⟨hr, Int.le_refl 0, rfl⟩)) (h _)
    | succ depth =>
      refine ⟨depth, ?_, by simp [hr]⟩
      rw [hr, Kind.nesting]
      omega
  · exact ⟨depth, by rw [Kind.nesting_eq_zero hl hr, Int.add_zero], by simp [hl, hr]⟩

end Check

/-- The check gives the fault at the first place. -/
theorem checkTokens_eq_error {depth : Nat} {ts : List Token} {e : ReadError} :
    checkTokens depth ts = .error e ↔ ∃ k, FirstFault depth ts k e := by
  induction ts generalizing depth with
  | nil =>
    have hnil : (∃ k, FirstFault depth [] k e) ↔ 0 < depth ∧ .unclosed = e := by
      constructor
      · rintro ⟨k, hfault, -⟩
        obtain ⟨-, hd, rfl⟩ := faultAt_nil.1 hfault
        exact ⟨by omega, rfl⟩
      · rintro ⟨hd, rfl⟩
        exact ⟨0, faultAt_nil.2 ⟨rfl, by omega, rfl⟩, fun j hj => absurd hj (Nat.not_lt_zero j)⟩
    rw [hnil]
    cases depth with
    | zero => simp [checkTokens]
    | succ depth => simp [checkTokens]
  | cons t ts ih =>
    rw [exists_firstFault_cons]
    by_cases hzero : ∃ e', FaultAt depth (t :: ts) 0 e'
    · obtain ⟨e', hfault⟩ := hzero
      rw [checkTokens_fault hfault]
      constructor
      · rintro ⟨⟩
        exact .inl hfault
      · rintro (hfault' | ⟨hnot, -⟩)
        · rw [← checkTokens_fault hfault, checkTokens_fault hfault']
        · exact absurd hfault (hnot e')
    · have hnot : ∀ e', ¬ FaultAt depth (t :: ts) 0 e' := fun e' h => hzero ⟨e', h⟩
      obtain ⟨d, hd, hstep⟩ := checkTokens_step hnot
      rw [hstep, ih, hd]
      exact ⟨fun h => .inr ⟨hnot, h⟩, fun h => (h.resolve_left (hnot e)).2⟩

theorem eq_take_append_cons {ts : List Token} {k : Nat} {t : Token} (h : ts[k]? = some t) :
    ts = ts.take k ++ t :: ts.drop (k + 1) := by
  obtain ⟨hk, rfl⟩ := List.getElem?_eq_some_iff.1 h
  rw [List.getElem_cons_drop, List.take_append_drop]

/-- One statement: it has a token that is no separator first, a separator at most at its end, and balanced
parentheses. -/
structure IsStatement (tokens : List Token) : Prop where
  nonempty : tokens ≠ []
  first : ∀ t, tokens.head? = some t → t.kind ≠ .semicolon
  separator : SeparatorLast tokens
  balanced : Balanced tokens

/-- There is no token, or a separator before any other. -/
def BeginsEmpty (tokens : List Token) : Prop := ∀ t, tokens.head? = some t → t.kind = .semicolon

theorem beginsEmpty_iff {tokens : List Token} :
    BeginsEmpty tokens ↔ tokens.head?.all (·.kind == .semicolon) = true := by
  cases tokens <;> simp [BeginsEmpty]

theorem isStatement_iff {tokens : List Token} :
    IsStatement tokens ↔ ¬ BeginsEmpty tokens ∧ checkTokens 0 tokens = .ok () := by
  rw [checkTokens_eq_ok, ← balanced_iff]
  constructor
  · intro h
    obtain ⟨t, ts, rfl⟩ := List.exists_cons_of_ne_nil h.nonempty
    exact ⟨fun hempty => h.first t rfl (hempty t rfl), h.balanced, h.separator⟩
  · rintro ⟨hbegins, hbalanced, hseparator⟩
    cases tokens with
    | nil => exact absurd (fun t ht => by cases ht) hbegins
    | cons t ts =>
      refine ⟨by simp, ?_, hseparator, hbalanced⟩
      rintro s ⟨⟩ hk
      refine hbegins ?_
      rintro s ⟨⟩
      exact hk

/-! ## Statements of a text -/

section Tokens

variable {sql : Text} {tokens : List Token} (h : Sql.tokens sql = .ok tokens)

include h

theorem exists_pieces : ∃ pieces, scan sql = .ok pieces ∧ pieces.filter Token.isSignificant = tokens ∧
    readStatement sql = if tokens.head?.all (·.kind == .semicolon) then .error .empty
      else (checkTokens 0 tokens).map fun _ => ⟨tokens, commentAfterEnd pieces⟩ := by
  obtain ⟨pieces, hscan, rfl⟩ := map_eq_ok.1 h
  exact ⟨pieces, hscan, rfl, by rw [readStatement_eq, hscan]⟩

theorem readStatement_isOk : (∃ s, readStatement sql = .ok s) ↔ IsStatement tokens := by
  obtain ⟨pieces, -, -, hread⟩ := exists_pieces h
  rw [isStatement_iff, beginsEmpty_iff, hread]
  split
  · rename_i hempty
    simp [hempty]
  · rename_i hempty
    cases hcheck : checkTokens 0 tokens with
    | error e => simp [Except.map]
    | ok => exact ⟨fun _ => ⟨hempty, rfl⟩, fun _ => ⟨_, rfl⟩⟩

theorem readStatement_tokens {s : Statement} (hs : readStatement sql = .ok s) : s.tokens = tokens := by
  obtain ⟨pieces, hscan, htokens, -⟩ := readStatement_eq_ok hs
  obtain ⟨pieces', hscan', hpieces, -⟩ := exists_pieces h
  cases hscan.symm.trans hscan'
  rw [htokens, hpieces]

theorem readStatement_eq_error {e : ReadError} : readStatement sql = .error e ↔
    BeginsEmpty tokens ∧ e = .empty ∨ ¬ BeginsEmpty tokens ∧ ∃ k, FirstFault 0 tokens k e := by
  obtain ⟨pieces, -, -, hread⟩ := exists_pieces h
  have hcheck : checkTokens 0 tokens = .error e ↔ ∃ k, FirstFault 0 tokens k e := checkTokens_eq_error
  rw [beginsEmpty_iff, hread, ← hcheck]
  split
  · rename_i hempty
    simp [hempty, eq_comm]
  · rename_i hempty
    simp only [hempty, false_and, false_or, Bool.false_eq_true, not_false_eq_true, true_and]
    cases checkTokens 0 tokens <;> simp [Except.map]

/-- The parenthesis of the first fault stands in the text where the fault says. -/
theorem closes_none {k n : Nat} (hfault : FirstFault 0 tokens k (.unbalanced n)) :
    sql[n]? = some ')' ∧ ∃ t, tokens[k]? = some t ∧ t.kind = .rightParen ∧ t.start = n := by
  obtain ⟨pieces, hscan, hpieces, -⟩ := exists_pieces h
  obtain ⟨⟨⟩ | @⟨_, t, ht, hk, -⟩, hfirst⟩ := hfault
  refine ⟨?_, t, ht, hk, rfl⟩
  obtain ⟨P, R, rfl, hP, -⟩ := filter_split (hpieces.trans (eq_take_append_cons ht))
  have hsep : ∀ s ∈ P ++ [t], s.kind ≠ .semicolon := by
    intro s hs hks
    rcases List.mem_append.1 hs with hs | hs
    · -- a separator before the parenthesis would be an earlier fault
      have hmem : s ∈ tokens.take k := by
        rw [← hP]
        exact List.mem_filter.2 ⟨hs, by rw [Token.isSignificant, hks]; rfl⟩
      obtain ⟨j, hj⟩ := List.getElem?_of_mem hmem
      obtain ⟨hjk, hj⟩ : j < k ∧ tokens[j]? = some s := by
        rw [List.getElem?_take] at hj
        split at hj
        · exact ⟨‹_›, hj⟩
        · cases hj
      have hlength : k < tokens.length := (List.getElem?_eq_some_iff.1 ht).1
      exact hfirst j hjk _ (.several hj hks (by omega))
    · rw [List.mem_singleton.1 hs, hk] at hks
      cases hks
  obtain ⟨x, y, q, rfl, -, hstart, hscan', hy⟩ := scan_cut hscan hsep (by rw [hk]; decide)
    (fun he => by rw [he] at hk; cases hk) (fun hk' => by rw [hk] at hk'; cases hk')
  obtain ⟨c, r, rfl, hsign, -⟩ := scan_sign hscan' hy (by rw [hk]; rfl)
  have hc : c = ')' := eq_rightParen (by rw [← hk, hsign])
  rw [hstart, Nat.zero_add, List.getElem?_append_right (Nat.le_refl _), Nat.sub_self, hc]
  rfl

end Tokens

/-! ## Closing parentheses -/

/-- The parenthesis that closes one of a balanced list is found. -/
theorem Balanced.exists_enclosed {A rest : List Token} {opening : Token} (h : Balanced (A ++ opening :: rest))
    (ho : opening.kind = .leftParen) : ∃ inner closing after, rest = inner ++ closing :: after ∧
      enclosed 0 rest = some (inner, closing, after) ∧ closing.kind = .rightParen ∧ Balanced inner := by
  obtain ⟨inner, closing, after, rfl, hcloses⟩ := h.exists_closes ho
  exact ⟨inner, closing, after, rfl, (enclosed_iff_closes ho).2 ⟨rfl, hcloses⟩, (closes_iff ho).1 hcloses⟩

theorem targetAhead?_split {tokens : List Token} {name : NameReading} {overwrite : Bool}
    (h : targetAhead? tokens = some (name, overwrite)) : ∃ A, tokens = A ++ name.rest := by
  obtain ⟨A, H, V, T, b, parts, N, ht⟩ := targetAhead?_eq_some.1 h
  exact ⟨A ++ (H ++ (V ++ (T ++ b :: N))), by rw [ht.split]; simp⟩

/-- The grammar does not ask whether parentheses are closed. -/
theorem classified_ne_unclosed {s : Statement} {e : ReadError} (h : s.classified = .error e) :
    e ≠ .unclosed := by
  rcases s.classified_error h with rfl | ⟨cause, rfl⟩ | rfl | rfl <;> exact ReadError.noConfusion

end Sql

/-- What the check of a statement settles, for the tokens of a text. -/
structure StatementCheck (sql : Text) (tokens : List Token) : Prop where
  accepted : (∃ s, readStatement sql = .ok s) ↔ IsStatement tokens
  tokens_eq : ∀ s, readStatement sql = .ok s → s.tokens = tokens
  rejected : ∀ e, readStatement sql = .error e ↔
    BeginsEmpty tokens ∧ e = .empty ∨ ¬ BeginsEmpty tokens ∧ ∃ k, FirstFault 0 tokens k e
  /-- An offset that is reported is that of a parenthesis, before which no other closes none. -/
  offset : ∀ n, readStatement sql = .error (.unbalanced n) → sql[n]? = some ')' ∧
    ∃ k t, tokens[k]? = some t ∧ t.kind = .rightParen ∧ t.start = n ∧ ∀ j ≤ k, 0 ≤ nesting (tokens.take j)
  /-- The parenthesis that closes another is found from every place. -/
  closed : IsStatement tokens → ∀ k opening, tokens[k]? = some opening → opening.kind = .leftParen →
    ∃ inner closing after, enclosed 0 (tokens.drop (k + 1)) = some (inner, closing, after) ∧
      tokens[k + 1 + inner.length]? = some closing ∧ closing.kind = .rightParen ∧ Balanced inner
  /-- In particular it is found behind the target of an INSERT and the name of a table. -/
  target_closed : IsStatement tokens → ∀ name overwrite opening rest,
    targetAhead? tokens = some (name, overwrite) → name.rest = opening :: rest → opening.kind = .leftParen →
    (enclosed 0 rest).isSome = true
  table_closed : IsStatement tokens → ∀ table opening rest,
    readTableOpening tokens = some (table, opening, rest) → (enclosed 0 rest).isSome = true
  /-- So only the check says that a parenthesis is left open. -/
  insert_unclosed : readInsert sql = .error (.unreadable .unclosed) ↔ readStatement sql = .error .unclosed
  definition_unclosed : readDefinition sql = .error .unclosed ↔ readStatement sql = .error .unclosed

theorem readInsert_unclosed (sql : Text) :
    readInsert sql = .error (.unreadable .unclosed) ↔ readStatement sql = .error .unclosed := by
  unfold readInsert
  cases readStatement sql with
  | error e => simp
  | ok s =>
    dsimp only
    cases readInsertHeader sql s.tokens with
    | some i => simp
    | none =>
      cases hc : s.classified with
      | error e => simp [classified_ne_unclosed hc]
      | ok c => simp

theorem readDefinition_unclosed (sql : Text) :
    readDefinition sql = .error .unclosed ↔ readStatement sql = .error .unclosed := by
  unfold readDefinition
  cases readStatement sql with
  | error e => simp
  | ok s =>
    dsimp only
    cases readTableHeader sql s.tokens with
    | some header => simp
    | none =>
      cases hc : s.classified with
      | error e => simp [classified_ne_unclosed hc]
      | ok c => simp

/-- A text is read as a statement if its tokens are one, and rejected for its first fault if not. All
parentheses of a statement are closed, as the readers of headers expect. -/
theorem readStatement_check {sql : Text} {tokens : List Token} (h : Sql.tokens sql = .ok tokens) :
    StatementCheck sql tokens where
  accepted := readStatement_isOk h
  tokens_eq := fun s hs => readStatement_tokens h hs
  rejected := fun e => readStatement_eq_error h
  offset := by
    intro n hn
    rcases (readStatement_eq_error h).1 hn with ⟨-, hempty⟩ | ⟨-, k, hfault⟩
    · cases hempty
    · obtain ⟨hsign, t, ht, hk, hstart⟩ := closes_none h hfault
      refine ⟨hsign, k, t, ht, hk, hstart, fun j hj => ?_⟩
      have hnonneg := hfault.nonneg (Int.le_refl 0) j hj
      rwa [Int.zero_add] at hnonneg
  closed := by
    intro hs k opening hget ho
    have hbalanced := hs.balanced
    rw [eq_take_append_cons hget] at hbalanced
    obtain ⟨inner, closing, after, hrest, henclosed, hclosing, hinner⟩ := hbalanced.exists_enclosed ho
    refine ⟨inner, closing, after, henclosed, ?_, hclosing, hinner⟩
    rw [← List.getElem?_drop, hrest, List.getElem?_append_right (Nat.le_refl _), Nat.sub_self]
    rfl
  target_closed := by
    intro hs name overwrite opening rest htarget hrest ho
    have hbalanced := hs.balanced
    obtain ⟨A, hA⟩ := targetAhead?_split htarget
    rw [hA, hrest] at hbalanced
    obtain ⟨_, _, _, -, henclosed, -⟩ := hbalanced.exists_enclosed ho
    rw [henclosed]
    rfl
  table_closed := by
    intro hs table opening rest htable
    have hbalanced := hs.balanced
    obtain ⟨A, hA, ho⟩ := readTableOpening_split htable
    rw [hA] at hbalanced
    obtain ⟨_, _, _, -, henclosed, -⟩ := hbalanced.exists_enclosed ho
    rw [henclosed]
    rfl
  insert_unclosed := readInsert_unclosed sql
  definition_unclosed := readDefinition_unclosed sql

/-- A text with a parenthesis that closes none, a separator before its end and a parenthesis left open. -/
def faultyText : Text := "SELECT f(a)) ; ((".toList

theorem readStatement_check_faulty : ∃ tokens, Sql.tokens faultyText = .ok tokens ∧
    StatementCheck faultyText tokens ∧ readStatement faultyText = .error (.unbalanced 11) ∧
    faultyText[11]? = some ')' ∧ ∃ k, FirstFault 0 tokens k (.unbalanced 11) ∧
      FaultAt 0 tokens 6 .several ∧ FaultAt 0 tokens 9 .unclosed := by
  have hread : (Sql.tokens faultyText).toOption.any (fun ts => ts.length = 9 ∧
      (ts[6]?).any (·.kind = .semicolon) ∧ 0 < nesting ts) = true := by decide +kernel
  obtain ⟨ts, hts, hread⟩ := (Option.any_eq_true _ _).1 hread
  obtain ⟨hlength, hsemicolon, hopen⟩ := of_decide_eq_true hread
  obtain ⟨t, ht, hk⟩ := (Option.any_eq_true _ _).1 hsemicolon
  have hcheck := readStatement_check (eq_ok_of_toOption hts)
  have herror : readStatement faultyText = .error (.unbalanced 11) := rfl
  refine ⟨ts, eq_ok_of_toOption hts, hcheck, herror, (hcheck.offset 11 herror).1, ?_⟩
  rcases (hcheck.rejected _).1 herror with ⟨-, hempty⟩ | ⟨-, k, hfault⟩
  · cases hempty
  · refine ⟨k, hfault, .several ht (of_decide_eq_true hk) (by omega), ?_⟩
    rw [← hlength]
    exact .unclosed (by rwa [Int.zero_add])

end DryRun
