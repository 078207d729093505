import DryRun.Proofs.Sql.Phrases

/-!
# A lexeme and its surroundings

What `readLexeme` reads at the head of `x ++ y` depends on `x` alone as long as the lexeme lies within
`x` and `y` does not go on with it (`readLexeme_restrict`, `readLexeme_extend`). The one lexeme that any
continuation lengthens is a line comment at the end of `x`. The module also says what a lexeme looks
like: how long it is, where it ends, and which text a lexeme of each kind holds.
-/

namespace DryRun.Sql

open Text

/-! ## Marked strings -/

/-- The kind and escaping of a string with the given mark and quote. -/
def markedKind? (mark quote : Char) : Option (Kind × Escaping) :=
  if quote != '\x27' && quote != '\x22' then none
  else if mark == 'n' || mark == 'N' then some (.nationalString, .backslash)
  else if mark == 'r' || mark == 'R' then some (.rawString, .none)
  else if (mark == 'x' || mark == 'X') && quote == '\x27' then some (.hexString, .backslash)
  else none

/-- Whether the content of a marked string is one that its kind allows. -/
def Lexeme.isWellMarked (l : Lexeme) : Bool :=
  l.kind != .hexString || l.text.isEmpty || isHexContent l.text

theorem readMarkedString?_cons (mark quote : Char) (body : Text) :
    readMarkedString? (mark :: quote :: body) = (markedKind? mark quote).map fun k =>
      (readMarkedString?.close (readQuoted k.1 k.2 quote 2 body)).bind fun r =>
        if r.1.isWellMarked then .ok r else .error .malformedHex := by
  -- only the content of a hexadecimal string is looked at
  have hfree : ∀ k e, k ≠ .hexString →
      (readMarkedString?.close (readQuoted k e quote 2 body)).bind (fun r =>
        if r.1.isWellMarked then .ok r else .error .malformedHex) =
      readMarkedString?.close (readQuoted k e quote 2 body) := by
    intro k e hk
    unfold readQuoted
    cases quotedBody e quote [] 2 body with
    | none => rfl
    | some r =>
      have : (⟨k, r.1⟩ : Lexeme).isWellMarked = true := by simp [Lexeme.isWellMarked, hk]
      simp [readMarkedString?.close, Except.bind, this]
  simp only [readMarkedString?, markedKind?]
  split
  · rfl
  · split
    · rw [Option.map_some, hfree _ _ (by decide)]
    · split
      · rw [Option.map_some, hfree _ _ (by decide)]
      · split
        · rw [Option.map_some]
          unfold readQuoted
          cases quotedBody .backslash quote [] 2 body with
          | none => rfl
          | some r => rfl
        · rfl

theorem readMarkedString?_eq_ok {mark quote : Char} {body : Text} {l : Lexeme} {n : Nat} :
    readMarkedString? (mark :: quote :: body) = some (.ok (l, n)) ↔
      ∃ e, markedKind? mark quote = some (l.kind, e) ∧
        quotedBody e quote [] 2 body = some (l.text, n) ∧ l.isWellMarked = true := by
  rw [readMarkedString?_cons, Option.map_eq_some_iff]
  constructor
  · rintro ⟨⟨k, e⟩, hk, h⟩
    cases hq : quotedBody e quote [] 2 body with
    | none =>
      simp only [readQuoted, hq] at h
      cases h
    | some r =>
      simp only [readQuoted, hq, Option.map_some, readMarkedString?.close, Except.bind] at h
      split at h
      · rename_i hw
        cases h
        exact ⟨e, hk, hq, hw⟩
      · cases h
  · rintro ⟨e, hk, hq, hw⟩
    refine ⟨_, hk, ?_⟩
    simp [readQuoted, hq, readMarkedString?.close, Except.bind, hw]

theorem markedKind?_quote {mark quote : Char} {r : Kind × Escaping}
    (h : markedKind? mark quote = some r) :
    (quote = '\x27' ∨ quote = '\x22') ∧ r.2 ≠ .doubled ∧
      (r.1 = .nationalString ∨ r.1 = .rawString ∨ r.1 = .hexString) := by
  unfold markedKind? at h
  split at h
  · cases h
  · rename_i hq
    have hq : quote = '\x27' ∨ quote = '\x22' := by
      by_cases h1 : quote = '\x27'
      · exact .inl h1
      · simp only [Bool.and_eq_true, bne_iff_ne, not_and, ne_eq, Decidable.not_not] at hq
        exact .inr (hq h1)
    refine ⟨hq, ?_⟩
    split at h
    · cases h; exact ⟨by decide, .inl rfl⟩
    · split at h
      · cases h; exact ⟨by decide, .inr (.inl rfl)⟩
      · split at h
        · cases h; exact ⟨by decide, .inr (.inr rfl)⟩
        · cases h

section Marked

variable {x y : Text}

/-- Whether a marked string begins here is seen in `x`. -/
theorem readMarkedString?_isSome (hy : ∀ c, y.head? = some c → isInert c = true) (hx : x ≠ []) :
    (readMarkedString? (x ++ y)).isSome = (readMarkedString? x).isSome := by
  match x, hx with
  | [c], _ =>
    cases y with
    | nil => rfl
    | cons d y =>
      change (readMarkedString? (c :: d :: y)).isSome = false
      rw [readMarkedString?_cons, Option.isSome_map]
      cases hk : markedKind? c d with
      | none => rfl
      | some r =>
        have hd := hy d rfl
        rcases (markedKind?_quote hk).1 with rfl | rfl <;> exact absurd hd (by decide)
  | c :: d :: x, _ =>
    rw [List.cons_append, List.cons_append, readMarkedString?_cons, readMarkedString?_cons,
      Option.isSome_map, Option.isSome_map]

theorem readMarkedString?_restrict {l : Lexeme} {n : Nat}
    (h : readMarkedString? (x ++ y) = some (.ok (l, n))) (hn : n ≤ x.length) :
    readMarkedString? x = some (.ok (l, n)) := by
  match x with
  | [] =>
    match y with
    | [] => cases h
    | [c] => cases h
    | c :: d :: y =>
      obtain ⟨e, -, hq, -⟩ := readMarkedString?_eq_ok.1 h
      have := quotedBody_bounds hq
      simp only [List.length_nil] at hn
      omega
  | [c] =>
    match y with
    | [] => cases h
    | d :: y =>
      obtain ⟨e, -, hq, -⟩ := readMarkedString?_eq_ok.1 h
      have := quotedBody_bounds hq
      simp only [List.length_cons, List.length_nil] at hn
      omega
  | c :: d :: x =>
    obtain ⟨e, hk, hq, hw⟩ := readMarkedString?_eq_ok.1 h
    simp only [List.length_cons] at hn
    exact readMarkedString?_eq_ok.2 ⟨e, hk, quotedBody_restrict hq (by omega), hw⟩

theorem readMarkedString?_extend {l : Lexeme} {n : Nat}
    (h : readMarkedString? x = some (.ok (l, n))) :
    readMarkedString? (x ++ y) = some (.ok (l, n)) := by
  match x with
  | [] => cases h
  | [c] => cases h
  | c :: d :: x =>
    obtain ⟨e, hk, hq, hw⟩ := readMarkedString?_eq_ok.1 h
    obtain ⟨hd, he, -⟩ := markedKind?_quote hk
    have hd : d ≠ '\\' := by rcases hd with rfl | rfl <;> decide
    exact readMarkedString?_eq_ok.2 ⟨e, hk, quotedBody_extend hq hd (fun h => absurd h he), hw⟩

end Marked

/-! ## One lexeme in two texts -/

theorem readQuoted_eq_some {k : Kind} {e : Escaping} {q : Char} {m n : Nat} {t : Text} {l : Lexeme} :
    readQuoted k e q m t = some (l, n) ↔ l.kind = k ∧ quotedBody e q [] m t = some (l.text, n) := by
  obtain ⟨k', s⟩ := l
  unfold readQuoted
  cases quotedBody e q [] m t with
  | none => simp
  | some r =>
    obtain ⟨s', n'⟩ := r
    simp only [Option.map_some, Option.some.injEq, Prod.mk.injEq, Lexeme.mk.injEq]
    constructor
    · rintro ⟨⟨rfl, rfl⟩, rfl⟩; exact ⟨rfl, rfl, rfl⟩
    · rintro ⟨rfl, rfl, rfl⟩; exact ⟨⟨rfl, rfl⟩, rfl⟩

/-- What `readLexeme` does with a text that begins with neither a digit nor a quote. -/
def readPlain (p : Option Lexeme) (c : Char) (t : Text) : Except LexError (List Lexeme × Nat) :=
  match (readComment? p (c :: t)).orElse fun _ => readMarkedString? (c :: t) with
  | some (.ok r) => .ok ([r.1], r.2)
  | some (.error e) => .error e
  | none =>
    match readPhrase? (c :: t) with
    | some r => .ok ([r.1], r.2)
    | none =>
      match operators.find? (startsWith (c :: t)) with
      | some o => .ok ([⟨.symbol, o⟩], o.length)
      | none =>
        if breakChars.contains c then .ok ([⟨signKind c, [c]⟩], 1)
        else .ok ([⟨if p.any Lexeme.isSigil then .parameter else .word, wordAhead (c :: t)⟩],
          (wordAhead (c :: t)).length)

/-- The quoted text that opens with `c`, as one lexeme. -/
def readQuotation (c : Char) (t : Text) : Except LexError (List Lexeme × Nat) :=
  if c == '\x60' then
    match readQuoted .quotedName .doubled c 1 t with
    | some r => .ok ([r.1], r.2)
    | none => .error .unclosedName
  else match readQuoted .string .backslash c 1 t with
    | some r => .ok ([r.1], r.2)
    | none => .error .unclosedString

/-- A character that opens a quoted name or a string. -/
def isQuote (c : Char) : Bool := c == '\x60' || c == '\x27' || c == '\x22'

/-- Between back-ticks stands a name with doubled back-ticks, between other quotes a string with escapes. -/
theorem readQuotation_eq_ok {c : Char} {t : Text} {ls : List Lexeme} {n : Nat} :
    readQuotation c t = .ok (ls, n) ↔ ∃ s, ls = [⟨if c = '\x60' then .quotedName else .string, s⟩] ∧
      quotedBody (if c = '\x60' then .doubled else .backslash) c [] 1 t = some (s, n) := by
  unfold readQuotation readQuoted
  by_cases hc : c = '\x60'
  · subst hc
    simp only [beq_self_eq_true, if_true]
    cases quotedBody .doubled '\x60' [] 1 t with
    | none => simp
    | some r =>
      constructor
      · rintro ⟨⟩
        exact ⟨r.1, rfl, rfl⟩
      · rintro ⟨s, rfl, ⟨⟩⟩
        rfl
  · simp only [beq_iff_eq, if_neg hc]
    cases quotedBody .backslash c [] 1 t with
    | none => simp
    | some r =>
      constructor
      · rintro ⟨⟩
        exact ⟨r.1, rfl, rfl⟩
      · rintro ⟨s, rfl, ⟨⟩⟩
        rfl

theorem readLexeme_cons (p : Option Lexeme) (c : Char) (t : Text) :
    readLexeme p (c :: t) =
      if isDigit c then .ok (readNumber (p.any Lexeme.isSigil) (c :: t))
      else if isQuote c then readQuotation c t
      else readPlain p c t := by
  rw [readLexeme]
  split
  · rfl
  · unfold isQuote readQuotation
    cases c == '\x60' with
    | true => rfl
    | false => rfl

/-- Where a comment or a marked string begins, it is read; elsewhere a phrase, an operator, a sign or a
word is. -/
theorem readPlain_eq (p : Option Lexeme) (c : Char) (t : Text) :
    readPlain p c t =
      match readComment? p (c :: t) with
      | some r => r.map fun r => ([r.1], r.2)
      | none =>
        match readMarkedString? (c :: t) with
        | some r => r.map fun r => ([r.1], r.2)
        | none =>
          match readPhrase? (c :: t) with
          | some r => .ok ([r.1], r.2)
          | none =>
            match operators.find? (startsWith (c :: t)) with
            | some o => .ok ([⟨.symbol, o⟩], o.length)
            | none =>
              if breakChars.contains c then .ok ([⟨signKind c, [c]⟩], 1)
              else .ok ([⟨if p.any Lexeme.isSigil then .parameter else .word, wordAhead (c :: t)⟩],
                (wordAhead (c :: t)).length) := by
  unfold readPlain
  cases readComment? p (c :: t) with
  | some r => cases r <;> rfl
  | none =>
    cases readMarkedString? (c :: t) with
    | some r => cases r <;> rfl
    | none => rfl

section Lexeme

variable {p : Option Lexeme} {c : Char} {x y : Text} {ls : List Lexeme} {n : Nat}

/-! ### From a text to its beginning -/

theorem readQuotation_restrict (h : readQuotation c (x ++ y) = .ok (ls, n)) (hn : n ≤ x.length + 1) :
    readQuotation c x = .ok (ls, n) := by
  obtain ⟨s, hls, hbody⟩ := readQuotation_eq_ok.1 h
  exact readQuotation_eq_ok.2 ⟨s, hls, quotedBody_restrict hbody (by omega)⟩

theorem readPlain_restrict (ha : Apart (c :: x) y) (h : readPlain p c (x ++ y) = .ok (ls, n))
    (hn : n ≤ x.length + 1) : readPlain p c x = .ok (ls, n) := by
  rw [readPlain_eq, ← List.cons_append] at h
  rw [readPlain_eq]
  split at h
  · rename_i r hr
    obtain ⟨⟨l, m⟩, rfl, hl⟩ := map_eq_ok.1 h
    cases hl
    rw [readComment?_restrict ha.inert hr hn]
    rfl
  rename_i hr
  have hcomment : readComment? p (c :: x) = none := by
    rw [← Option.not_isSome_iff_eq_none, ← readComment?_isSome ha.inert, hr]
    simp
  rw [hcomment]
  dsimp only
  split at h
  · rename_i r hr
    obtain ⟨⟨l, m⟩, rfl, hl⟩ := map_eq_ok.1 h
    cases hl
    rw [readMarkedString?_restrict hr hn]
    rfl
  rename_i hr
  have hmarked : readMarkedString? (c :: x) = none := by
    rw [← Option.not_isSome_iff_eq_none, ← readMarkedString?_isSome ha.inert (by simp), hr]
    simp
  rw [hmarked]
  dsimp only
  split at h
  · rename_i r hr
    cases h
    rw [readPhrase?_restrict ha hr hn]
  rename_i hr
  rw [readPhrase?_none ha hr]
  rwa [find_operator ha.inert, wordAhead_append ha] at h

/-- A lexeme of `x ++ y` that lies within `x` is the lexeme of `x`. -/
theorem readLexeme_restrict (ha : Apart (c :: x) y) (h : readLexeme p (c :: x ++ y) = .ok (ls, n))
    (hn : n ≤ x.length + 1) : readLexeme p (c :: x) = .ok (ls, n) := by
  rw [List.cons_append, readLexeme_cons] at h
  rw [readLexeme_cons]
  split at h
  · rename_i hd
    rw [if_pos hd]
    rwa [← List.cons_append, readNumber_append hd ha] at h
  rename_i hd
  rw [if_neg hd]
  split at h
  · rename_i hq
    rw [if_pos hq]
    exact readQuotation_restrict h hn
  · rename_i hq
    rw [if_neg hq]
    exact readPlain_restrict ha h hn

/-! ### From a beginning to the text -/

theorem readQuotation_extend (hs : Sealed (c :: x) y) (hq : isQuote c = true)
    (h : readQuotation c x = .ok (ls, n)) : readQuotation c (x ++ y) = .ok (ls, n) := by
  obtain ⟨s, hls, hbody⟩ := readQuotation_eq_ok.1 h
  refine readQuotation_eq_ok.2 ⟨s, hls, quotedBody_extend hbody ?_ fun hdoubled => ?_⟩
  · rintro rfl
    exact absurd hq (by decide)
  · -- only back-ticks are doubled
    by_cases hc : c = '\x60'
    · rw [hc]
      exact hs.not_quote
    · rw [if_neg hc] at hdoubled
      cases hdoubled

theorem readPlain_extend (hs : Sealed (c :: x) y) (h : readPlain p c x = .ok (ls, n))
    (hline : startsWith (c :: x) "--".toList = true → n < x.length + 1) :
    readPlain p c (x ++ y) = .ok (ls, n) := by
  have ha := hs.apart
  rw [readPlain_eq] at h
  rw [readPlain_eq, ← List.cons_append]
  split at h
  · rename_i r hr
    obtain ⟨⟨l, m⟩, rfl, hl⟩ := map_eq_ok.1 h
    cases hl
    rw [readComment?_extend ha.inert hr hline]
    rfl
  rename_i hr
  have hcomment : readComment? p (c :: x ++ y) = none := by
    rw [← Option.not_isSome_iff_eq_none, readComment?_isSome ha.inert, hr]
    simp
  rw [hcomment]
  dsimp only
  split at h
  · rename_i r hr
    obtain ⟨⟨l, m⟩, rfl, hl⟩ := map_eq_ok.1 h
    cases hl
    rw [readMarkedString?_extend hr]
    rfl
  rename_i hr
  have hmarked : readMarkedString? (c :: x ++ y) = none := by
    rw [← Option.not_isSome_iff_eq_none, readMarkedString?_isSome ha.inert (by simp), hr]
    simp
  rw [hmarked]
  dsimp only
  rw [readPhrase?_sealed hs, find_operator ha.inert, wordAhead_append ha]
  exact h

/-- A lexeme of `x` is the lexeme of `x ++ y`, unless it is a line comment that runs to the end. -/
theorem readLexeme_extend (hs : Sealed (c :: x) y) (h : readLexeme p (c :: x) = .ok (ls, n))
    (hline : startsWith (c :: x) "--".toList = true → n < x.length + 1) :
    readLexeme p (c :: x ++ y) = .ok (ls, n) := by
  rw [List.cons_append, readLexeme_cons]
  rw [readLexeme_cons] at h
  split at h
  · rename_i hd
    rw [if_pos hd, ← List.cons_append, readNumber_append hd hs.apart]
    exact h
  rename_i hd
  rw [if_neg hd]
  split at h
  · rename_i hq
    rw [if_pos hq]
    exact readQuotation_extend hs hq h
  · rename_i hq
    rw [if_neg hq]
    exact readPlain_extend hs h hline

end Lexeme

end DryRun.Sql
