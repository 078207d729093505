import DryRun.Proofs.Sql.Locality

/-!
# What a lexeme looks like

The length of a lexeme, the character it ends in and the text it holds. `readLexeme_end` tells the ends
apart by whether a word may follow directly: after a word or a number it may not, after a quote, a
bracket or a comment it may, and a point or a sign is the end of a lexeme that holds its source text.
-/

namespace DryRun.Sql

open Text

/-! ## The last character -/

theorem startsWith_iff {t lead : Text} : startsWith t lead = true ↔ ∃ r, t = lead ++ r := by
  induction lead generalizing t with
  | nil => simp [startsWith, after?]
  | cons c lead ih =>
    cases t with
    | nil => simp [startsWith, after?]
    | cons d t =>
      rw [startsWith, after?]
      split
      · rename_i h
        rw [eq_of_beq h]
        exact ih.trans (by simp)
      · rename_i h
        simp only [beq_iff_eq] at h
        simp [Ne.symm h]

theorem startsWith_extend {t lead : Text} (h : startsWith t lead = true) (r : Text) :
    startsWith (t ++ r) lead = true := by
  obtain ⟨s, rfl⟩ := startsWith_iff.1 h
  exact startsWith_iff.2 ⟨s ++ r, List.append_assoc ..⟩

theorem startsWith_of_head {c : Char} {t m : Text} (h : ∃ e ∈ m.head?, e ≠ c) :
    startsWith (c :: t) m = false := by
  obtain ⟨e, he, hne⟩ := h
  cases m with
  | nil => cases he
  | cons a m =>
    cases he
    have : (e == c) = false := by simpa using hne
    simp [startsWith, after?, this]

/-- A quoted text ends in its quote. -/
theorem quotedBody_last {e : Escaping} {q : Char} {content t r : Text} {used n : Nat}
    (h : quotedBody e q content used t = some (r, n)) : ∃ k, n = used + k + 1 ∧ t[k]? = some q := by
  rw [quotedBody_eq_some] at h
  induction h with
  | control _ _ _ ih | escaped _ _ _ ih | doubled _ _ ih =>
    obtain ⟨k, rfl, hk⟩ := ih
    exact ⟨k + 2, by omega, hk⟩
  | plain _ _ _ ih =>
    obtain ⟨k, rfl, hk⟩ := ih
    exact ⟨k + 1, by omega, hk⟩
  | close => exact ⟨0, rfl, rfl⟩

theorem startsWith_last {t v : Text} {d : Char} (h : startsWith t (v ++ [d]) = true) :
    t[v.length]? = some d := by
  obtain ⟨r, rfl⟩ := startsWith_iff.1 h
  simp

theorem flatComment_last {v t : Text} {d : Char} {used n : Nat}
    (h : flatComment (v ++ [d]) used t = some n) : ∃ k, n = used + k + 1 ∧ t[k]? = some d := by
  induction t generalizing used with
  | nil => cases h
  | cons c t ih =>
    rw [flatComment_cons] at h
    split at h
    · rename_i hs
      cases h
      exact ⟨v.length, by simp [Nat.add_assoc], startsWith_last hs⟩
    · obtain ⟨k, rfl, hk⟩ := ih h
      exact ⟨k + 1, by omega, hk⟩

theorem blockComment_last {opening v t : Text} {d : Char} {depth skip used n : Nat}
    (h : blockComment opening (v ++ [d]) depth skip used t = some n) :
    ∃ k, n = used + k + 1 ∧ t[k]? = some d := by
  induction t generalizing depth skip used with
  | nil => cases skip <;> cases h
  | cons c t ih =>
    cases skip with
    | succ skip =>
      rw [blockComment_skip] at h
      obtain ⟨k, rfl, hk⟩ := ih h
      exact ⟨k + 1, by omega, hk⟩
    | zero =>
      rw [blockComment_cons] at h
      split at h
      · rename_i hs
        cases h
        exact ⟨v.length, by simp [Nat.add_assoc], startsWith_last (Bool.and_eq_true_iff.1 hs).1⟩
      · obtain ⟨k, rfl, hk⟩ := ih h
        exact ⟨k + 1, by omega, hk⟩

/-- A phrase ends in the last character of its spelling, in either case. -/
theorem phraseLength_last {p t : Text} {ab : Bool} {used n : Nat} {d : Char} (hp : p.getLast? = some d)
    (hd : d ≠ ' ') (h : phraseLength p ab used t = some n) :
    ∃ k c, n = used + k + 1 ∧ t[k]? = some c ∧ c.toUpper = d := by
  have hne : p ≠ [] := by rintro rfl; cases hp
  induction t generalizing p ab used with
  | nil => rw [phraseLength_end hne] at h; cases h
  | cons c t ih =>
    rw [phraseLength_cons hne] at h
    obtain ⟨⟨r, b⟩, hr, h⟩ := Option.bind_eq_some_iff.1 h
    by_cases hrn : r = []
    · subst hrn
      rw [phraseLength_nil] at h
      cases h
      refine ⟨0, c, rfl, rfl, ?_⟩
      unfold phraseStep at hr
      split at hr
      · split at hr
        · cases hr; exact absurd rfl hne
        · obtain ⟨r', hr', he⟩ := Option.map_eq_some_iff.1 hr
          cases he
          rw [after?_one hr'] at hp
          exact absurd (by simpa using hp.symm) hd
      · obtain ⟨r', hr', he⟩ := Option.map_eq_some_iff.1 hr
        cases he
        rw [after?_one hr'] at hp
        simpa using hp
    · have hrp : r.getLast? = some d := by
        unfold phraseStep at hr
        split at hr
        · split at hr
          · cases hr; exact hp
          · obtain ⟨r', hr', he⟩ := Option.map_eq_some_iff.1 hr
            cases he
            rwa [after?_one hr', List.getLast?_cons_of_ne_nil hrn] at hp
        · obtain ⟨r', hr', he⟩ := Option.map_eq_some_iff.1 hr
          cases he
          rwa [after?_one hr', List.getLast?_cons_of_ne_nil hrn] at hp
      obtain ⟨k, e, rfl, hk, he⟩ := ih hrp h hrn
      exact ⟨k + 1, e, by omega, hk, he⟩

theorem endsWord_of_toUpper {c d : Char} (hd : isPlainChar d = true) (h : c.toUpper = d) :
    endsWord c = false := by
  have hc : c.toNat < 128 := by
    by_cases hc : c.toNat < 128
    · exact hc
    · rw [toUpper_of_not_ascii hc] at h
      rw [h]
      exact isPlainChar_ascii hd
  refine of_ascii (P := fun c => isPlainChar c.toUpper = true → endsWord c = false) (by decide) hc ?_
  rwa [h]

/-! ## Words and numbers -/

theorem endsWord_of_mem_wordAhead {t : Text} {d : Char} (h : d ∈ wordAhead t) : endsWord d = false := by
  have := List.all_eq_true.1 List.all_takeWhile d h
  simpa using this

theorem wordAhead_ne_nil {c : Char} {t : Text} (h : endsWord c = false) : wordAhead (c :: t) ≠ [] := by
  simp [wordAhead, h]

theorem take_wordAhead (t : Text) : t.take (wordAhead t).length = wordAhead t :=
  (List.prefix_iff_eq_take.1 (List.takeWhile_prefix _)).symm

theorem wordAhead_length_le (t : Text) : (wordAhead t).length ≤ t.length :=
  (List.takeWhile_prefix _).length_le

/-- The characters of a number. -/
def isNumberChar (c : Char) : Bool :=
  isDigit c || c == '.' || c == '+' || c == '-' || c == 'e' || c == 'E'

theorem numberLength_chars {b : Bool} {t : Text} (s : NumberState) (used : Nat) :
    ∃ m, numberLength b s used t = used + m ∧ ∀ c ∈ t.take m, isNumberChar c = true := by
  induction t generalizing s used with
  | nil => exact ⟨0, rfl, by simp⟩
  | cons c t ih =>
    have step : ∀ s, isNumberChar c = true → ∃ m, numberLength b s (used + 1) t = used + m ∧
        ∀ d ∈ (c :: t).take m, isNumberChar d = true := by
      intro s hc
      obtain ⟨m, hm, hall⟩ := ih s (used + 1)
      refine ⟨m + 1, by omega, ?_⟩
      rw [List.take_succ_cons]
      intro d hd
      rcases List.mem_cons.1 hd with rfl | hd
      · exact hc
      · exact hall d hd
    rw [numberLength_cons]
    split
    · rename_i h
      exact step _ (by simp [isNumberChar, h])
    · split
      · rename_i h
        simp only [Bool.and_eq_true] at h
        exact step _ (by simp [isNumberChar, h.1.1])
      · split
        · rename_i h
          simp only [Bool.and_eq_true, Bool.or_eq_true] at h
          exact step _ (by rcases h.1.1.1 with h | h <;> simp [isNumberChar, h])
        · split
          · rename_i h
            simp only [Bool.and_eq_true, Bool.or_eq_true] at h
            exact step _ (by rcases h.1 with h | h <;> simp [isNumberChar, h])
          · exact ⟨0, rfl, by simp⟩

theorem endsWord_of_isNumberChar {c : Char} (h : isNumberChar c = true) :
    endsWord c = false ∨ c = '.' ∨ c = '+' ∨ c = '-' := by
  have hc : c.toNat < 128 := by
    simp only [isNumberChar, isDigit, Bool.or_eq_true, Bool.and_eq_true, decide_eq_true_eq,
      beq_iff_eq] at h
    rcases h with ((((⟨-, h⟩ | rfl) | rfl) | rfl) | rfl) | rfl
    · have h : c.toNat ≤ 57 := h
      omega
    all_goals decide
  exact of_ascii (P := fun c => isNumberChar c = true →
    endsWord c = false ∨ c = '.' ∨ c = '+' ∨ c = '-') (by decide) hc h

theorem endsWord_of_startsName {c : Char} (h : startsName c = true) : endsWord c = false := by
  have key : ∀ c ∈ breakChars, startsName c = false := by decide +kernel
  cases he : endsWord c with
  | false => rfl
  | true =>
    rw [endsWord, Bool.or_eq_true] at he
    rcases he with hb | hb
    · have := endsNumber_of_isCloser (c := c) (by simp [isCloser, hb])
      simp [endsNumber, h] at this
    · rw [key c (List.contains_iff_mem.1 hb)] at h
      cases h

theorem isPlainChar_of_isDigit {c : Char} (h : isDigit c = true) : isPlainChar c = true := by
  have hc : c.toNat < 128 := by
    simp only [isDigit, Bool.and_eq_true, decide_eq_true_eq] at h
    have h : c.toNat ≤ 57 := h.2
    omega
  exact of_ascii (P := fun c => isDigit c = true → isPlainChar c = true) (by decide) hc h

section Number

variable {b : Bool} {c : Char} {t : Text} {ls : List Lexeme} {n : Nat}

/-- The lexemes that a text with a digit in front begins with. -/
theorem readNumber_cases (h : readNumber b (c :: t) = (ls, n)) :
    ((ls = [⟨.quotedName, wordAhead (c :: t)⟩] ∨
        ls = [⟨.hexString, (wordAhead (c :: t)).drop 2⟩] ∧ (wordAhead (c :: t)).drop 2 ≠ []) ∧
      n = (wordAhead (c :: t)).length ∧ c = '0' ∧ (t.head? = some 'x' ∨ t.head? = some 'X')) ∨
    (ls = [⟨.number, (c :: t).take n⟩] ∧ ∃ m ≤ t.length, n = m + 1 ∧
      ∀ d ∈ t.take m, isNumberChar d = true) ∨
    ∃ m ≤ t.length, ∃ d w, wordAhead (t.drop m) = d :: w ∧ n = m + 1 + (d :: w).length ∧
      (∀ e ∈ t.take m, isNumberChar e = true) ∧
      (ls = [⟨.word, (c :: t).take n⟩] ∨
        ls = [⟨.number, (c :: t).take (m + 1)⟩, ⟨.symbol, "::".toList⟩, ⟨.suffix, d :: w⟩]) := by
  rw [readNumber_cons] at h
  split at h
  · rename_i hx
    left
    split at h
    · rename_i hh
      cases h
      refine ⟨.inr ⟨rfl, fun hnil => ?_⟩, rfl, hx⟩
      -- the mark `0x` alone is no number
      have hw : wordAhead (c :: t) = ['0', 'x'] ∨ wordAhead (c :: t) = ['0', 'X'] := by
        obtain ⟨rfl, hx⟩ := hx
        cases t with
        | nil => exact hx.elim (fun e => (nomatch e)) (fun e => (nomatch e))
        | cons d r =>
          rcases hx with hx | hx <;> cases hx
          · exact .inl (congrArg (fun w => '0' :: 'x' :: w) hnil)
          · exact .inr (congrArg (fun w => '0' :: 'X' :: w) hnil)
      rcases hw with hw | hw <;> rw [hw] at hh <;> exact absurd hh (by decide)
    · cases h
      exact ⟨.inl rfl, rfl, hx⟩
  right
  split at h
  · rename_i hx
    obtain ⟨rfl, -⟩ := hx
    cases h
    exact .inl ⟨rfl, 0, Nat.zero_le _, rfl, by simp⟩
  · obtain ⟨m, hm, hall⟩ := numberLength_chars (b := b) (t := t) {} 1
    have hle := (numberLength_le (b := b) (t := t) {} 1).2
    rw [hm] at hle
    simp only [readNumber.decimal, hm, Nat.add_comm 1 m, List.drop_succ_cons] at h
    split at h
    · -- a name follows: a type suffix, or the rest of a word
      rename_i hs
      right
      cases hd : t.drop m with
      | nil => rw [hd] at hs; cases hs
      | cons d r =>
        rw [hd] at hs h
        have hw : wordAhead (d :: r) = d :: wordAhead r := by
          simp [wordAhead, endsWord_of_startsName hs]
        rw [hw] at h
        refine ⟨m, by omega, d, wordAhead r, hd ▸ hw, ?_⟩
        split at h
        · cases h
          exact ⟨rfl, hall, .inr rfl⟩
        · cases h
          exact ⟨rfl, hall, .inl rfl⟩
    · cases h
      exact .inl ⟨rfl, m, by omega, rfl, hall⟩

/-- A number, or what looks like one, is not empty and ends in a character of a word, unless it is one
lexeme of its source text. -/
theorem readNumber_end (hc : isDigit c = true) (h : readNumber b (c :: t) = (ls, n)) :
    (0 < n ∧ n ≤ t.length + 1) ∧ ∃ d, ((c :: t).take n).getLast? = some d ∧
      (endsWord d = false ∨
        (d = '.' ∨ d = '+' ∨ d = '-') ∧ ls = [⟨.number, (c :: t).take n⟩]) := by
  rcases readNumber_cases h with ⟨-, rfl, -⟩ | ⟨hls, m, hm, rfl, hall⟩ | ⟨m, hm, d, w, hw, rfl, -⟩
  · have hne := wordAhead_ne_nil (t := t) (endsWord_of_isPlainChar (isPlainChar_of_isDigit hc))
    rw [take_wordAhead]
    refine ⟨⟨List.length_pos_iff.2 hne, wordAhead_length_le (c :: t)⟩, ?_⟩
    refine ⟨_, List.getLast?_eq_some_getLast hne, .inl ?_⟩
    exact endsWord_of_mem_wordAhead (List.getLast_mem hne)
  · rw [List.take_succ_cons] at hls ⊢
    have hne := List.cons_ne_nil c (t.take m)
    refine ⟨⟨by omega, by omega⟩, _, List.getLast?_eq_some_getLast hne, ?_⟩
    have hnum : isNumberChar ((c :: t.take m).getLast hne) = true := by
      rcases List.mem_cons.1 (List.getLast_mem hne) with he | he
      · rw [he]; simp [isNumberChar, hc]
      · exact hall _ he
    exact (endsWord_of_isNumberChar hnum).imp_right fun hd => ⟨hd, hls⟩
  · have hlen := wordAhead_length_le (t.drop m)
    have htake : (t.drop m).take (d :: w).length = d :: w := by rw [← hw, take_wordAhead]
    rw [List.length_drop, hw] at hlen
    refine ⟨⟨by omega, by omega⟩, ?_⟩
    rw [List.take_add, List.drop_succ_cons, htake, List.getLast?_append,
      List.getLast?_eq_some_getLast (List.cons_ne_nil d w), Option.some_or]
    refine ⟨_, rfl, .inl (endsWord_of_mem_wordAhead (t := t.drop m) ?_)⟩
    rw [hw]
    exact List.getLast_mem _

end Number

/-! ## The end of a lexeme -/

theorem last_take {t : Text} {k : Nat} {d : Char} (h : t[k]? = some d) :
    (t.take (k + 1)).getLast? = some d := by
  simp [List.getLast?_take, h]

theorem length_of_getElem? {t : Text} {k : Nat} {d : Char} (h : t[k]? = some d) : k < t.length :=
  (List.getElem?_eq_some_iff.1 h).1

theorem readPhrase?_cases {t : Text} {l : Lexeme} {n : Nat} (h : readPhrase? t = some (l, n)) :
    ∃ p ∈ allPhrases, phraseLength p false 0 t = some n ∧ l = ⟨.phrase, p⟩ := by
  rw [readPhrase?_eq, Option.or_eq_some_iff] at h
  rcases h with h | ⟨-, h⟩
  · obtain ⟨p, hp, hr⟩ := List.exists_of_findSome?_eq_some h
    obtain ⟨m, hm, -, he⟩ := phraseAt_eq_some.1 hr
    cases he
    exact ⟨p, mem_allPhrases hp, hm, rfl⟩
  · obtain ⟨m, hm, he⟩ := Option.map_eq_some_iff.1 h
    cases he
    exact ⟨_, List.mem_cons_self .., hm, rfl⟩

/-- A block comment ends in a slash or a brace; a line comment is the rest of its line. -/
theorem readComment?_end {p : Option Lexeme} {t : Text} {l : Lexeme} {n : Nat}
    (h : readComment? p t = some (.ok (l, n))) :
    (startsWith t "--".toList = true ∧ l = ⟨.comment, lineAhead t⟩ ∧ n = (lineAhead t).length) ∨
      ((l.kind = .comment ∨ l.kind = .hint) ∧ l.text = t.take n ∧
        ∃ k d, n = k + 1 ∧ t[k]? = some d ∧ (d = '/' ∨ d = '\x7d')) := by
  rw [readComment?_eq] at h
  split at h
  · rename_i hs
    simp only [Option.some.injEq, Except.ok.injEq, Prod.mk.injEq] at h
    exact .inl ⟨hs, h.1.symm, h.2.symm⟩
  right
  split at h
  · simp only [Option.some.injEq, finish_eq_ok] at h
    obtain ⟨hn, rfl⟩ := h
    obtain ⟨k, rfl, hk⟩ := flatComment_last (v := ['*']) (d := '/') hn
    rw [List.getElem?_drop] at hk
    refine ⟨?_, rfl, 3 + k, '/', rfl, hk, .inl rfl⟩
    dsimp only
    split
    · exact .inr rfl
    · exact .inl rfl
  split at h
  · simp only [Option.some.injEq, finish_eq_ok] at h
    obtain ⟨hn, rfl⟩ := h
    obtain ⟨k, rfl, hk⟩ := blockComment_last (v := ['*']) (d := '/') hn
    rw [List.getElem?_drop] at hk
    exact ⟨.inl rfl, rfl, 2 + k, '/', rfl, hk, .inl rfl⟩
  split at h
  · simp only [Option.some.injEq, finish_eq_ok] at h
    obtain ⟨hn, rfl⟩ := h
    obtain ⟨k, rfl, hk⟩ := blockComment_last (v := ['#']) (d := '\x7d') hn
    rw [List.getElem?_drop] at hk
    exact ⟨.inl rfl, rfl, 2 + k, '\x7d', rfl, hk, .inr rfl⟩
  · cases h

theorem take_lineAhead (t : Text) : t.take (lineAhead t).length = lineAhead t :=
  (List.prefix_iff_eq_take.1 (List.takeWhile_prefix _)).symm

theorem lineAhead_length_le (t : Text) : (lineAhead t).length ≤ t.length :=
  (List.takeWhile_prefix _).length_le

/-- How the source text `u` of the lexemes `ls` ends. -/
inductive Ending (u : Text) (ls : List Lexeme) : Prop
  /-- With a character of a word, which a word may not follow. -/
  | word {d : Char} : u.getLast? = some d → endsWord d = false → Ending u ls
  /-- With a character that lets nothing go on. -/
  | edge {d : Char} : u.getLast? = some d → isEdge d = true → isBlank d = false → Ending u ls
  /-- With a point or a sign of a number or an operator, which holds all of the text. -/
  | sign {d : Char} {k : Kind} : u.getLast? = some d → d = '.' ∨ d = '+' ∨ d = '-' →
      k ∈ [.number, .symbol, .dot] → ls = [⟨k, u⟩] → Ending u ls
  /-- As a line comment does. -/
  | line : startsWith u "--".toList = true → ls = [⟨.comment, u⟩] → Ending u ls

section Lexeme

variable {p : Option Lexeme} {c : Char} {t : Text} {ls : List Lexeme} {n : Nat}

theorem isQuote_edge {q : Char} (h : isQuote q = true) : isEdge q = true ∧ isBlank q = false := by
  simp only [isQuote, Bool.or_eq_true, beq_iff_eq] at h
  rcases h with (rfl | rfl) | rfl <;> decide

theorem Ending.of_getElem? {k : Nat} {d : Char} (hk : t[k]? = some d)
    (hd : isEdge d = true ∧ isBlank d = false) :
    (0 < k + 1 ∧ k + 1 ≤ t.length) ∧ Ending (t.take (k + 1)) ls :=
  ⟨⟨by omega, length_of_getElem? hk⟩, .edge (last_take hk) hd.1 hd.2⟩

theorem readQuotation_name (h : readQuotation '\x60' t = .ok (ls, n)) :
    ∃ s, ls = [⟨.quotedName, s⟩] ∧ quotedBody .doubled '\x60' [] 1 t = some (s, n) := by
  obtain ⟨s, hls, hbody⟩ := readQuotation_eq_ok.1 h
  rw [if_pos rfl] at hls hbody
  exact ⟨s, hls, hbody⟩

theorem readQuotation_string (hc : c ≠ '\x60') (h : readQuotation c t = .ok (ls, n)) :
    ∃ s, ls = [⟨.string, s⟩] ∧ quotedBody .backslash c [] 1 t = some (s, n) := by
  obtain ⟨s, hls, hbody⟩ := readQuotation_eq_ok.1 h
  rw [if_neg hc] at hls hbody
  exact ⟨s, hls, hbody⟩

theorem readQuotation_cases (h : readQuotation c t = .ok (ls, n)) :
    ∃ l e, ls = [l] ∧ (c = '\x60' ∧ l.kind = .quotedName ∨ l.kind = .string) ∧
      quotedBody e c [] 1 t = some (l.text, n) := by
  by_cases hc : c = '\x60'
  · subst hc
    obtain ⟨s, rfl, hr⟩ := readQuotation_name h
    exact ⟨_, _, rfl, .inl ⟨rfl, rfl⟩, hr⟩
  · obtain ⟨s, rfl, hr⟩ := readQuotation_string hc h
    exact ⟨_, _, rfl, .inr rfl, hr⟩

theorem readMarkedString?_cases {l : Lexeme} (h : readMarkedString? t = some (.ok (l, n))) :
    (l.kind = .nationalString ∨ l.kind = .rawString ∨ l.kind = .hexString) ∧
      ∃ k q, n = k + 1 ∧ t[k]? = some q ∧ isQuote q = true := by
  match t with
  | [] => cases h
  | [c] => cases h
  | c :: q :: body =>
    obtain ⟨e, hk, hq, -⟩ := readMarkedString?_eq_ok.1 h
    obtain ⟨hd, -, hk⟩ := markedKind?_quote hk
    obtain ⟨k, rfl, hb⟩ := quotedBody_last hq
    refine ⟨hk, k + 2, q, by omega, hb, ?_⟩
    rcases hd with rfl | rfl <;> decide

/-- The ways to read a lexeme that is no number. -/
theorem readPlain_cases (h : readPlain p c t = .ok (ls, n)) :
    (∃ l, ls = [l] ∧ readComment? p (c :: t) = some (.ok (l, n))) ∨
    (∃ l, ls = [l] ∧ readMarkedString? (c :: t) = some (.ok (l, n))) ∨
    (∃ l, ls = [l] ∧ readPhrase? (c :: t) = some (l, n)) ∨
    (∃ o ∈ operators, ls = [⟨.symbol, o⟩] ∧ startsWith (c :: t) o = true ∧ n = o.length) ∨
    (c ∈ breakChars ∧ ls = [⟨signKind c, [c]⟩] ∧ n = 1) ∨
    (c ∉ breakChars ∧ (∃ k, (k = .word ∨ k = .parameter) ∧ ls = [⟨k, wordAhead (c :: t)⟩]) ∧
      n = (wordAhead (c :: t)).length) := by
  rw [readPlain_eq] at h
  split at h
  · rename_i r hr
    obtain ⟨⟨l, m⟩, rfl, hl⟩ := map_eq_ok.1 h
    cases hl
    exact .inl ⟨l, rfl, hr⟩
  right
  split at h
  · rename_i r hr
    obtain ⟨⟨l, m⟩, rfl, hl⟩ := map_eq_ok.1 h
    cases hl
    exact .inl ⟨l, rfl, hr⟩
  right
  split at h
  · rename_i r hr
    cases h
    exact .inl ⟨_, rfl, hr⟩
  right
  split at h
  · rename_i o ho
    cases h
    exact .inl ⟨o, List.mem_of_find?_eq_some ho, rfl, List.find?_some ho, rfl⟩
  right
  split at h
  · rename_i hb
    cases h
    exact .inl ⟨List.contains_iff_mem.1 hb, rfl, rfl⟩
  · rename_i hb
    cases h
    refine .inr ⟨fun hm => hb (List.contains_iff_mem.2 hm), ⟨_, ?_, rfl⟩, rfl⟩
    split
    · exact .inr rfl
    · exact .inl rfl

/-- A lexeme is not empty, lies in the text and ends in one of the ways of `Ending`. -/
theorem readLexeme_end (hb : isBlank c = false) (h : readLexeme p (c :: t) = .ok (ls, n)) :
    (0 < n ∧ n ≤ t.length + 1) ∧ Ending ((c :: t).take n) ls := by
  rw [readLexeme_cons] at h
  split at h
  · rename_i hd
    obtain ⟨hn, d, hl, he⟩ := readNumber_end hd (Except.ok.inj h)
    refine ⟨hn, ?_⟩
    rcases he with he | ⟨hd, hk⟩
    · exact .word hl he
    · exact .sign hl hd (by decide) hk
  split at h
  · rename_i hq
    obtain ⟨l, e, rfl, -, hr⟩ := readQuotation_cases h
    obtain ⟨k, rfl, hk⟩ := quotedBody_last hr
    rw [Nat.add_comm 1 k]
    exact Ending.of_getElem? (t := c :: t) (k := k + 1) hk (isQuote_edge hq)
  have hsign : ∀ d ∈ breakChars, (isEdge d = true ∧ isBlank d = false) ∨ d = '.' ∨ d = '+' ∨ d = '-' := by
    decide +kernel
  rcases readPlain_cases h with ⟨l, rfl, hr⟩ | ⟨l, rfl, hr⟩ | ⟨l, rfl, hr⟩ | ⟨o, ho, rfl, hr, rfl⟩ |
    ⟨hc, rfl, rfl⟩ | ⟨hc, ⟨k, -, rfl⟩, rfl⟩
  · rcases readComment?_end hr with ⟨hs, rfl, rfl⟩ | ⟨-, -, k, d, rfl, hk, hd⟩
    · obtain ⟨r, hr⟩ := startsWith_iff.1 hs
      have hl : lineAhead (c :: t) = "--".toList ++ lineAhead r := by rw [hr]; rfl
      have hlen := lineAhead_length_le (c :: t)
      rw [take_lineAhead]
      refine ⟨⟨by simp [hl], hlen⟩, .line ?_ rfl⟩
      rw [hl]
      exact startsWith_iff.2 ⟨_, rfl⟩
    · exact Ending.of_getElem? hk (by rcases hd with rfl | rfl <;> decide)
  · obtain ⟨-, k, q, rfl, hk, hq⟩ := readMarkedString?_cases hr
    exact Ending.of_getElem? hk (isQuote_edge hq)
  · obtain ⟨q, hq, hn, -⟩ := readPhrase?_cases hr
    have key : ∀ q ∈ allPhrases, ∃ d ∈ q.getLast?, d ≠ ' ' ∧ isPlainChar d = true := by decide +kernel
    obtain ⟨d, hd, hne, hpl⟩ := key q hq
    obtain ⟨k, e, rfl, hk, he⟩ := phraseLength_last hd hne hn
    rw [Nat.zero_add]
    exact ⟨⟨by omega, length_of_getElem? hk⟩, .word (last_take hk) (endsWord_of_toUpper hpl he)⟩
  · have key : ∀ o ∈ operators, 0 < o.length ∧ ∃ d ∈ o.getLast?, d ∈ breakChars := by decide
    obtain ⟨hpos, d, hd, hm⟩ := key o ho
    obtain ⟨r, hr⟩ := startsWith_iff.1 hr
    rw [hr, List.take_left]
    refine ⟨⟨hpos, ?_⟩, ?_⟩
    · rw [← List.length_cons (a := c), hr, List.length_append]
      omega
    · rcases hsign d hm with he | he
      · exact .edge hd he.1 he.2
      · exact .sign hd he (by decide) rfl
  · refine ⟨⟨by omega, by omega⟩, ?_⟩
    rcases hsign c hc with hd | hd
    · exact .edge rfl hd.1 hd.2
    · exact .sign rfl hd (by rcases hd with rfl | rfl | rfl <;> decide) rfl
  · have hcw : endsWord c = false := by simp [endsWord, hb, hc]
    have hne := wordAhead_ne_nil (t := t) hcw
    rw [take_wordAhead]
    refine ⟨⟨List.length_pos_iff.2 hne, wordAhead_length_le (c :: t)⟩, ?_⟩
    exact .word (List.getLast?_eq_some_getLast hne) (endsWord_of_mem_wordAhead (List.getLast_mem hne))

/-! ## The lexemes of one reading -/

/-- The kinds of lexemes that need not hold their source text. -/
def heldKinds : List Kind :=
  [.quotedName, .string, .nationalString, .rawString, .hexString, .phrase]

/-- The kinds of lexemes that hold their source text, signs apart. -/
def verbatimKinds : List Kind := [.number, .word, .parameter, .symbol, .comment, .hint]

/-- What one reading gives: a lexeme that holds its source text or one that need not, a sign, or the
three lexemes of a number with a type suffix. -/
theorem readLexeme_cases (h : readLexeme p (c :: t) = .ok (ls, n)) :
    (∃ k ∈ heldKinds, ∃ s, ls = [⟨k, s⟩]) ∨
    (∃ k ∈ verbatimKinds, ls = [⟨k, (c :: t).take n⟩]) ∨
    (c ∈ breakChars ∧ ls = [⟨signKind c, [c]⟩] ∧ n = 1) ∨
    ∃ a s, ls = [⟨.number, a⟩, ⟨.symbol, "::".toList⟩, ⟨.suffix, s⟩] := by
  rw [readLexeme_cons] at h
  split at h
  · rcases readNumber_cases (Except.ok.inj h) with ⟨rfl | ⟨rfl, -⟩, -⟩ | ⟨rfl, -⟩ |
      ⟨m, -, d, w, -, -, -, rfl | rfl⟩
    · exact .inl ⟨.quotedName, by decide, _, rfl⟩
    · exact .inl ⟨.hexString, by decide, _, rfl⟩
    · exact .inr (.inl ⟨.number, by decide, rfl⟩)
    · exact .inr (.inl ⟨.word, by decide, rfl⟩)
    · exact .inr (.inr (.inr ⟨_, _, rfl⟩))
  split at h
  · obtain ⟨l, -, rfl, hk, -⟩ := readQuotation_cases h
    exact .inl ⟨l.kind, by rcases hk with ⟨-, hk⟩ | hk <;> rw [hk] <;> decide, l.text, rfl⟩
  rcases readPlain_cases h with ⟨l, rfl, hr⟩ | ⟨l, rfl, hr⟩ | ⟨l, rfl, hr⟩ | ⟨o, -, rfl, hr, rfl⟩ |
    ⟨hc, rfl, hn⟩ | ⟨-, ⟨k, hk, rfl⟩, rfl⟩
  · rcases readComment?_end hr with ⟨-, rfl, rfl⟩ | ⟨hk, ht, -⟩
    · exact .inr (.inl ⟨.comment, by decide, by rw [take_lineAhead]⟩)
    · refine .inr (.inl ⟨l.kind, ?_, by rw [← ht]⟩)
      rcases hk with hk | hk <;> rw [hk] <;> decide
  · refine .inl ⟨l.kind, ?_, l.text, rfl⟩
    rcases (readMarkedString?_cases hr).1 with hk | hk | hk <;> rw [hk] <;> decide
  · obtain ⟨q, -, -, rfl⟩ := readPhrase?_cases hr
    exact .inl ⟨.phrase, by decide, q, rfl⟩
  · obtain ⟨r, hr⟩ := startsWith_iff.1 hr
    exact .inr (.inl ⟨.symbol, by decide, by rw [hr, List.take_left]⟩)
  · exact .inr (.inr (.inl ⟨hc, rfl, hn⟩))
  · exact .inr (.inl ⟨k, by rcases hk with rfl | rfl <;> decide, by rw [take_wordAhead]⟩)

/-- A number with a type suffix gives three lexemes, every other text one. -/
theorem readLexeme_group (h : readLexeme p (c :: t) = .ok (ls, n)) :
    (∃ l, ls = [l] ∧ l.kind ≠ .suffix) ∨
      ∃ a s, ls = [⟨.number, a⟩, ⟨.symbol, "::".toList⟩, ⟨.suffix, s⟩] := by
  rcases readLexeme_cases h with ⟨k, hk, s, rfl⟩ | ⟨k, hk, rfl⟩ | ⟨hc, rfl, -⟩ | hls
  · exact .inl ⟨_, rfl, fun e => absurd hk (by rw [show k = .suffix from e]; decide)⟩
  · exact .inl ⟨_, rfl, fun e => absurd hk (by rw [show k = .suffix from e]; decide)⟩
  · have key : ∀ c ∈ breakChars, signKind c ≠ .suffix := by decide
    exact .inl ⟨_, rfl, key c hc⟩
  · exact .inr hls

/-- A parenthesis, a comma, a dot or a separator. -/
def Kind.isSign (k : Kind) : Bool :=
  k == .leftParen || k == .rightParen || k == .comma || k == .dot || k == .semicolon

/-- A sign is one character. -/
theorem readLexeme_sign (h : readLexeme p (c :: t) = .ok (ls, n)) {l : Lexeme} (hl : l ∈ ls)
    (hs : l.kind.isSign = true) : ls = [⟨signKind c, [c]⟩] ∧ n = 1 := by
  rcases readLexeme_cases h with ⟨k, hk, s, rfl⟩ | ⟨k, hk, rfl⟩ | ⟨-, hls, hn⟩ | ⟨a, s, rfl⟩
  · have key : ∀ k ∈ heldKinds, k.isSign = false := by decide
    rw [List.mem_singleton.1 hl, key _ hk] at hs
    cases hs
  · have key : ∀ k ∈ verbatimKinds, k.isSign = false := by decide
    rw [List.mem_singleton.1 hl, key _ hk] at hs
    cases hs
  · exact ⟨hls, hn⟩
  · simp only [List.mem_cons, List.not_mem_nil, or_false] at hl
    rcases hl with rfl | rfl | rfl <;> cases hs

/-- A comment holds its source text. -/
theorem readLexeme_comment (h : readLexeme p (c :: t) = .ok (ls, n)) {l : Lexeme} (hl : l ∈ ls)
    (hk : l.kind = .comment) : ls = [⟨.comment, (c :: t).take n⟩] := by
  rcases readLexeme_cases h with ⟨k, hk', s, rfl⟩ | ⟨k, -, rfl⟩ | ⟨hc, rfl, -⟩ | ⟨a, s, rfl⟩
  · rw [List.mem_singleton.1 hl] at hk
    rw [show k = .comment from hk] at hk'
    exact absurd hk' (by decide)
  · rw [List.mem_singleton.1 hl] at hk
    rw [show k = .comment from hk]
  · rw [List.mem_singleton.1 hl] at hk
    have key : ∀ c ∈ breakChars, signKind c ≠ .comment := by decide +kernel
    exact absurd hk (key c hc)
  · simp only [List.mem_cons, List.not_mem_nil, or_false] at hl
    rcases hl with rfl | rfl | rfl <;> cases hk

/-- A word begins with the first character of its source. -/
theorem readLexeme_word_head (hb : isBlank c = false) (h : readLexeme p (c :: t) = .ok (ls, n))
    {l : Lexeme} (hl : l ∈ ls) (hk : l.kind = .word) : l.text.head? = some c := by
  have hpos := (readLexeme_end hb h).1.1
  rcases readLexeme_cases h with ⟨k, hk', s, rfl⟩ | ⟨k, -, rfl⟩ | ⟨hc, rfl, -⟩ | ⟨a, s, rfl⟩
  · rw [List.mem_singleton.1 hl] at hk
    rw [show k = .word from hk] at hk'
    exact absurd hk' (by decide)
  · rw [List.mem_singleton.1 hl]
    obtain ⟨m, rfl⟩ : ∃ m, n = m + 1 := ⟨n - 1, by omega⟩
    rfl
  · rw [List.mem_singleton.1 hl]
    rfl
  · simp only [List.mem_cons, List.not_mem_nil, or_false] at hl
    rcases hl with rfl | rfl | rfl <;> cases hk

end Lexeme

/-! ## Reading words and signs -/

/-- No phrase begins with these two letters. -/
def noPhrase (c d : Char) : Bool := allPhrases.all fun p => p.take 2 != [c.toUpper, d.toUpper]

theorem phraseLength_two {q t : Text} {c d : Char} (hc : isBlank c = false) (hd : isBlank d = false)
    (hlen : 2 ≤ q.length) (h : q.take 2 ≠ [c.toUpper, d.toUpper]) :
    phraseLength q false 0 (c :: d :: t) = none := by
  match q, hlen with
  | a :: b :: q, _ =>
    rw [phraseLength_cons (by simp)]
    simp only [phraseStep, hc, Bool.false_eq_true, if_false, after?]
    split
    · rename_i ha
      simp only [Option.map_some, Option.bind_some]
      rw [phraseLength_cons (by simp)]
      simp only [phraseStep, hd, Bool.false_eq_true, if_false, after?]
      split
      · rename_i hb
        exact absurd (by rw [eq_of_beq ha, eq_of_beq hb]; rfl) h
      · rfl
    · rfl

theorem readPhrase?_noPhrase {c d : Char} {t : Text} (hc : isBlank c = false) (hd : isBlank d = false)
    (h : noPhrase c d = true) : readPhrase? (c :: d :: t) = none := by
  cases hr : readPhrase? (c :: d :: t) with
  | none => rfl
  | some r =>
    obtain ⟨l, n⟩ := r
    obtain ⟨q, hq, hn, -⟩ := readPhrase?_cases hr
    have key : ∀ q ∈ allPhrases, 2 ≤ q.length := by decide +kernel
    have hne : q.take 2 ≠ [c.toUpper, d.toUpper] := by simpa using List.all_eq_true.1 h q hq
    rw [phraseLength_two hc hd (key q hq) hne] at hn
    cases hn

/-- A text that begins with two characters of a word and with no digit or phrase begins with a word. -/
theorem readLexeme_wordAhead {p : Option Lexeme} {c d : Char} {t : Text} (hc : endsWord c = false)
    (hd : endsWord d = false) (hdigit : isDigit c = false) (hp : readPhrase? (c :: d :: t) = none) :
    readLexeme p (c :: d :: t) =
      .ok ([⟨if p.any Lexeme.isSigil then .parameter else .word, wordAhead (c :: d :: t)⟩],
        (wordAhead (c :: d :: t)).length) := by
  simp only [endsWord, Bool.or_eq_false_iff] at hc hd
  have hnot : ∀ e ∈ breakChars, c ≠ e := by
    rintro e he rfl
    rw [List.contains_iff_mem.2 he] at hc
    exact absurd hc.2 (by simp)
  have hlead : ∀ lead : Text, (∃ e ∈ lead.head?, e ∈ breakChars) →
      startsWith (c :: d :: t) lead = false := by
    rintro lead ⟨e, he, hm⟩
    exact startsWith_of_head ⟨e, he, (hnot e hm).symm⟩
  have hq : isQuote c = false := by
    simp [isQuote, hnot '\x60' (by decide), hnot '\x27' (by decide), hnot '\x22' (by decide)]
  have hcomment : readComment? p (c :: d :: t) = none := by
    rw [readComment?_eq, hlead _ (by decide), hlead _ (by decide), hlead _ (by decide),
      hlead _ (by decide)]
    rfl
  have hmark : readMarkedString? (c :: d :: t) = none := by
    rw [readMarkedString?_cons, Option.map_eq_none_iff]
    cases hk : markedKind? c d with
    | none => rfl
    | some r =>
      rcases (markedKind?_quote hk).1 with rfl | rfl <;> exact absurd hd.2 (by decide)
  have hop : operators.find? (startsWith (c :: d :: t)) = none := by
    have key : ∀ o ∈ operators, ∃ e ∈ o.head?, e ∈ breakChars := by decide +kernel
    rw [List.find?_eq_none]
    intro o ho
    rw [hlead o (key o ho)]
    simp
  rw [readLexeme_cons, hdigit, hq, readPlain_eq, hcomment, hmark, hp, hop, hc.2]
  rfl

theorem readLexeme_of_word {p : Option Lexeme} {c d : Char} {t : Text} (hc : endsWord c = false)
    (hd : endsWord d = false) (hdigit : isDigit c = false) (hp : noPhrase c d = true) :
    readLexeme p (c :: d :: t) =
      .ok ([⟨if p.any Lexeme.isSigil then .parameter else .word, wordAhead (c :: d :: t)⟩],
        (wordAhead (c :: d :: t)).length) := by
  refine readLexeme_wordAhead hc hd hdigit (readPhrase?_noPhrase ?_ ?_ hp)
  · simp only [endsWord, Bool.or_eq_false_iff] at hc
    exact hc.1
  · simp only [endsWord, Bool.or_eq_false_iff] at hd
    exact hd.1

/-- The characters that are signs wherever they stand. -/
def signChars : Text := ['(', ')', ',', '.', ';']

theorem readLexeme_of_sign {p : Option Lexeme} {c : Char} (t : Text) (hc : c ∈ signChars) :
    readLexeme p (c :: t) = .ok ([⟨signKind c, [c]⟩], 1) := by
  have hmark : readMarkedString? (c :: t) = none := by
    have key : ∀ c ∈ signChars, ∀ q, markedKind? c q = none := by
      intro c hc q
      unfold markedKind?
      simp only [signChars, List.mem_cons, List.not_mem_nil, or_false] at hc
      rcases hc with rfl | rfl | rfl | rfl | rfl <;> split <;> rfl
    cases t with
    | nil => rfl
    | cons q t => rw [readMarkedString?_cons, key c hc q]; rfl
  have hlead : ∀ m ∈ commentMarks ++ operators, startsWith (c :: t) m = false := by
    have key : ∀ c ∈ signChars, ∀ m ∈ commentMarks ++ operators, ∃ e ∈ m.head?, e ≠ c := by decide +kernel
    exact fun m hm => startsWith_of_head (key c hc m hm)
  have hop : operators.find? (startsWith (c :: t)) = none := by
    rw [List.find?_eq_none]
    intro o ho
    rw [hlead o (List.mem_append_right _ ho)]
    simp
  have hphrase : readPhrase? (c :: t) = none := by
    simp only [signChars, List.mem_cons, List.not_mem_nil, or_false] at hc
    rcases hc with rfl | rfl | rfl | rfl | rfl <;> rfl
  have hcom : readComment? p (c :: t) = none := by
    rw [readComment?_eq, hlead _ (by decide), hlead _ (by decide), hlead _ (by decide),
      hlead _ (by decide)]
    rfl
  have key : ∀ c ∈ signChars, isDigit c = false ∧ isQuote c = false ∧ breakChars.contains c = true := by
    decide +kernel
  obtain ⟨h1, h2, h3⟩ := key c hc
  rw [readLexeme_cons, h1, h2, readPlain_eq, hcom, hmark, hphrase, hop, h3]
  rfl

/-! ## Reading names in back-ticks -/

/-- A text with each back-tick written twice. -/
def doubled (n : Text) : Text := n.flatMap fun c => if c == '\x60' then [c, c] else [c]

theorem doubled_quote (n : Text) : doubled ('\x60' :: n) = '\x60' :: '\x60' :: doubled n :=
  rfl

theorem doubled_cons {c : Char} (hc : c ≠ '\x60') (n : Text) : doubled (c :: n) = c :: doubled n := by
  simp [doubled, hc]

theorem quotedBody_doubled (n : Text) {y : Text} (hy : y.head? ≠ some '\x60') (content : Text)
    (used : Nat) :
    quotedBody .doubled '\x60' content used (doubled n ++ '\x60' :: y) =
      some (content.reverse ++ n, used + (doubled n).length + 1) := by
  rw [quotedBody_eq_some]
  induction n generalizing content used with
  | nil =>
    rw [List.append_nil]
    exact .close (fun _ => hy) fun h => by cases h
  | cons c n ih =>
    by_cases hc : c = '\x60'
    · subst hc
      have hrest := ih ('\x60' :: content) (used + 2)
      rw [List.reverse_cons, List.append_assoc] at hrest
      rw [doubled_quote, List.length_cons, List.length_cons,
        show used + ((doubled n).length + 1 + 1) + 1 = used + 2 + (doubled n).length + 1 by omega]
      exact .doubled rfl hrest
    · have hrest := ih (c :: content) (used + 1)
      rw [List.reverse_cons, List.append_assoc] at hrest
      rw [doubled_cons hc, List.length_cons,
        show used + ((doubled n).length + 1) + 1 = used + 1 + (doubled n).length + 1 by omega]
      exact .plain (fun h => absurd h hc) (fun h => by cases h) hrest

/-- A name in back-ticks is read back, unless a back-tick follows. -/
theorem readLexeme_quote {p : Option Lexeme} {n y : Text} (hy : y.head? ≠ some '\x60') :
    readLexeme p (TableRef.quote n ++ y) =
      .ok ([⟨.quotedName, n⟩], (TableRef.quote n).length) := by
  have hq : TableRef.quote n = '\x60' :: (doubled n ++ ['\x60']) := rfl
  rw [hq, List.cons_append, List.append_assoc, readLexeme_cons, if_neg (by decide), if_pos (by decide)]
  have hb := quotedBody_doubled n hy [] 1
  have hr := (readQuoted_eq_some (l := ⟨.quotedName, n⟩)).2 ⟨rfl, hb⟩
  simp only [readQuotation, beq_self_eq_true, if_true, List.singleton_append]
  rw [hr]
  simp only [List.length_cons, List.length_append, List.length_nil]
  congr 2
  omega

/-- What is read in back-ticks is written there with each back-tick twice. -/
theorem quotedBody_doubled_source {e : Escaping} {content t r : Text} {used n : Nat} (he : e = .doubled)
    (h : quotedBody e '\x60' content used t = some (r, n)) :
    ∃ w y, r = content.reverse ++ w ∧ t = doubled w ++ '\x60' :: y ∧ n = used + (doubled w).length + 1 := by
  rw [quotedBody_eq_some] at h
  subst he
  induction h with
  | control he | escaped he => cases he
  | doubled _ _ ih =>
    obtain ⟨w, y, rfl, rfl, rfl⟩ := ih
    refine ⟨'\x60' :: w, y, by simp, rfl, ?_⟩
    rw [doubled_quote, List.length_cons, List.length_cons]
    omega
  | @plain content rest r used n c hc _ _ ih =>
    obtain ⟨w, y, rfl, rfl, rfl⟩ := ih
    have hone : doubled (c :: w) = c :: doubled w := doubled_cons (fun h => by cases (hc h).1) w
    refine ⟨c :: w, y, by simp, by rw [hone]; rfl, ?_⟩
    rw [hone, List.length_cons]
    omega
  | @close content rest used => exact ⟨[], rest, by simp, rfl, rfl⟩

/-! ## Reading strings -/

/-- Whether a text stands for itself between quotes `q`: none of them is in it, and each of its
backslashes stands before a character that it does not escape. -/
def isLiteral (q : Char) : Text → Bool
  | [] => true
  | c :: s => c != q && (c != '\\' || s.head?.any fun d => (controlEscape? d).isNone) && isLiteral q s

theorem isLiteral_cons {q c : Char} {s : Text} : isLiteral q (c :: s) = true ↔
    c ≠ q ∧ (c = '\\' → ∃ d, s.head? = some d ∧ controlEscape? d = none) ∧ isLiteral q s = true := by
  rw [isLiteral, Bool.and_eq_true, Bool.and_eq_true, and_assoc]
  refine and_congr bne_iff_ne (and_congr ?_ Iff.rfl)
  by_cases hc : c = '\\'
  · cases s with
    | nil => simp [hc]
    | cons d s => simp [hc]
  · simp [hc]

theorem isLiteral_of_forall {q : Char} {s : Text} (h : ∀ c ∈ s, c ≠ '\\' ∧ c ≠ q) : isLiteral q s = true := by
  induction s with
  | nil => rfl
  | cons c s ih =>
    obtain ⟨hc, hs⟩ := List.forall_mem_cons.1 h
    exact isLiteral_cons.2 ⟨hc.2, fun he => absurd he hc.1, ih hs⟩

section Literal

variable {q : Char} (hq : q ≠ '\\')

include hq in
/-- A text that stands for itself is read up to the quote behind it. -/
theorem quotedBody_literal {s : Text} (hs : isLiteral q s = true) (y content : Text) (used : Nat) :
    quotedBody .backslash q content used (s ++ q :: y) =
      some (content.reverse ++ s, used + s.length + 1) := by
  rw [quotedBody_eq_some]
  induction s generalizing content used with
  | nil =>
    rw [List.append_nil]
    exact .close (fun h => by cases h) fun _ h => absurd h hq
  | cons c s ih =>
    obtain ⟨hcq, hescape, hs⟩ := isLiteral_cons.1 hs
    have hrest := ih hs (c :: content) (used + 1)
    rw [List.reverse_cons, List.append_assoc] at hrest
    rw [List.length_cons, show used + (s.length + 1) + 1 = used + 1 + s.length + 1 by omega]
    refine .plain (fun h => absurd h hcq) (fun _ hc => ?_) hrest
    obtain ⟨d, hd, hnone⟩ := hescape hc
    obtain ⟨s, rfl⟩ := List.head?_eq_some_iff.1 hd
    exact ⟨d, rfl, hnone, (isLiteral_cons.1 hs).1⟩

include hq in
/-- What is read between quotes is no longer than its source, and of the same length only if the source
stands for itself. -/
theorem quotedBody_source {e : Escaping} {content t r : Text} {used n : Nat} (he : e = .backslash)
    (h : quotedBody e q content used t = some (r, n)) :
    ∃ u y w, t = u ++ q :: y ∧ r = content.reverse ++ w ∧ w.length ≤ u.length ∧
      (w.length = u.length → isLiteral q u = true) := by
  rw [quotedBody_eq_some] at h
  subst he
  induction h with
  | @control content rest r used n d x _ _ _ ih =>
    obtain ⟨u, y, w, rfl, rfl, hle, -⟩ := ih
    exact ⟨'\\' :: d :: u, y, x :: w, rfl, by simp, by simp; omega, fun hlen => by simp at hlen; omega⟩
  | escaped _ _ _ ih =>
    obtain ⟨u, y, w, rfl, rfl, hle, -⟩ := ih
    exact ⟨'\\' :: q :: u, y, q :: w, rfl, by simp, by simp; omega, fun hlen => by simp at hlen; omega⟩
  | doubled he => cases he
  | @plain content rest r used n c hc hback _ ih =>
    obtain ⟨u, y, w, rfl, rfl, hle, hlit⟩ := ih
    refine ⟨c :: u, y, c :: w, rfl, by simp, by simpa using hle, fun hlen => ?_⟩
    refine isLiteral_cons.2 ⟨fun h => hq (h ▸ (hc h).2), fun h => ?_, hlit (by simpa using hlen)⟩
    obtain ⟨d, hd, hnone, hne⟩ := hback rfl h
    cases u with
    | nil => exact absurd (Option.some.inj hd).symm hne
    | cons a u => exact ⟨d, hd, hnone⟩
  | @close content rest used => exact ⟨[], rest, [], rfl, by simp, Nat.le_refl _, fun _ => rfl⟩

end Literal

/-- A string that stands for itself is read back. -/
theorem readLexeme_string {p : Option Lexeme} {s : Text} (hs : isLiteral '\x27' s = true) (y : Text) :
    readLexeme p ('\x27' :: (s ++ '\x27' :: y)) = .ok ([⟨.string, s⟩], (s ++ ['\x27']).length + 1) := by
  have hb := quotedBody_literal (by decide) hs y [] 1
  have hr := (readQuoted_eq_some (l := ⟨.string, s⟩)).2 ⟨rfl, hb⟩
  rw [readLexeme_cons, if_neg (by decide), if_pos (by decide), readQuotation, if_neg (by decide), hr]
  simp only [List.length_append, List.length_cons, List.length_nil]
  congr 2
  omega

end DryRun.Sql
