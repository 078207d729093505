import DryRun.Proofs.Sql.Headers

/-!
# What stands before the name of an INSERT

The text before the name is read as headings and comments. `Reads.boundary` says how such a text ends:
at an edge, or in a word. After an edge any other name can follow and all before it is read as it was
(`Reads.exchange`). A word takes in a word that stands directly behind it (`readLexeme_glued`), and what
comes out is no heading.
-/

namespace DryRun.Sql

open Text

/-! ## The last reading -/

/-- A text ends in a blank or in the source of its last reading. -/
theorem Reads.last {y x : Text} {p q : Option Lexeme} {L : List Lexeme} (h : Reads y p x L q) :
    x = [] ∨ (∃ c, x.getLast? = some c ∧ isBlank c = true) ∨
      ∃ (x' : Text) (c : Char) (u : Text) (L' K : List Lexeme) (q' : Option Lexeme),
        x = x' ++ c :: u ∧ L = L' ++ K ∧ isBlank c = false ∧ Reads (c :: (u ++ y)) p x' L' q' ∧
        readLexeme q' (c :: (u ++ y)) = .ok (K, u.length + 1) := by
  induction h with
  | nil => exact .inl rfl
  | @blank p q c x L hc _ ih =>
    right
    rcases ih with rfl | ⟨d, hd, hb⟩ | ⟨x', d, u, L', K, q', rfl, rfl, hd, hx', hr⟩
    · exact .inl ⟨c, rfl, hc⟩
    · have hne : x ≠ [] := by rintro rfl; cases hd
      exact .inl ⟨d, by rwa [List.getLast?_cons_of_ne_nil hne], hb⟩
    · exact .inr ⟨c :: x', d, u, L', K, q', rfl, rfl, hd, .blank hc hx', hr⟩
  | @lexeme p q c u x K L hc hr hcmd hx ih =>
    right
    rcases ih with rfl | ⟨d, hd, hb⟩ | ⟨x', d, v, L', K', q', rfl, rfl, hd, hx', hr'⟩
    · obtain ⟨rfl, -⟩ := hx.eq_nil
      exact .inr ⟨[], c, u, [], K, p, by simp, by simp, hc, .nil, hr⟩
    · exact .inl ⟨d, by rw [← List.cons_append, List.getLast?_append, hd, Option.some_or], hb⟩
    · refine .inr ⟨c :: (u ++ x'), d, v, K ++ L', K', q', by simp, by simp, hd, ?_, hr'⟩
      exact .lexeme hc (by simpa using hr) hcmd hx'

/-- The lexeme that is seen before the rest is the last one that is no comment. -/
theorem Reads.previous {y x : Text} {p q : Option Lexeme} {L : List Lexeme} (h : Reads y p x L q) :
    q = (L.filter (·.kind != .comment)).getLast?.or p := by
  induction h with
  | nil => rfl
  | blank _ _ ih => exact ih
  | @lexeme p q c u x K L _ hr _ _ ih =>
    have hnext : nextPrevious p K = (K.filter (·.kind != .comment)).getLast?.or p := by
      rcases readLexeme_group hr with ⟨l, rfl, -⟩ | ⟨a, s, rfl⟩
      · by_cases hk : l.kind = .comment <;> simp [nextPrevious, hk]
      · rfl
    rw [ih, hnext, List.filter_append, List.getLast?_append, Option.or_assoc]

/-- A line comment ends at the end of its line. -/
theorem readLexeme_line_stop {p : Option Lexeme} {c : Char} {u y : Text} {K : List Lexeme}
    (hs : startsWith (c :: (u ++ y)) "--".toList = true)
    (h : readLexeme p (c :: (u ++ y)) = .ok (K, u.length + 1)) :
    ∀ d, y.head? = some d → isBlank d = true := by
  rw [readLexeme_line hs] at h
  have hlen : (lineAhead (c :: (u ++ y))).length = (c :: u).length := (Prod.mk.inj (Except.ok.inj h)).2
  have hdrop : (c :: (u ++ y)).dropWhile (fun d => d != '\n' && d != '\r') = y := by
    have hall : lineAhead (c :: (u ++ y)) ++ (c :: (u ++ y)).dropWhile (fun d => d != '\n' && d != '\r') =
        (c :: u) ++ y := List.takeWhile_append_dropWhile
    exact (List.append_inj hall hlen).2
  intro d hd
  have hnot := List.head?_dropWhile_not (fun d => d != '\n' && d != '\r') (c :: (u ++ y))
  rw [hdrop, hd] at hnot
  have hd : d = '\n' ∨ d = '\r' := by
    by_cases hn : d = '\n'
    · exact .inl hn
    · right
      simpa [hn] using hnot
  rcases hd with rfl | rfl <;> decide

/-- A lexeme that is read in front of `y` is read in front of `y'`, if neither goes on with it. -/
theorem readLexeme_exchange {p : Option Lexeme} {c : Char} {u x y y' : Text} {K : List Lexeme}
    (h : readLexeme p (c :: (u ++ (x ++ y))) = .ok (K, u.length + 1)) (ha : Apart (c :: (u ++ x)) y)
    (hs : Sealed (c :: (u ++ x)) y') (hy : ∃ d, y.head? = some d ∧ isBlank d = false) :
    readLexeme p (c :: (u ++ (x ++ y'))) = .ok (K, u.length + 1) := by
  have hrest : readLexeme p (c :: (u ++ x)) = .ok (K, u.length + 1) :=
    readLexeme_restrict ha (by simpa using h) (by simp)
  have hread := readLexeme_extend hs hrest fun hline => ?_
  · simpa using hread
  · -- a line comment does not reach up to `y`, which begins on its line
    have hne : x ≠ [] := by
      rintro rfl
      rw [List.append_nil] at hline
      obtain ⟨d, hd, hb⟩ := hy
      rw [readLexeme_line_stop (startsWith_extend hline y) (by simpa using h) d hd] at hb
      cases hb
    have := List.length_pos_iff.2 hne
    rw [List.length_append]
    omega

/-- What is read in front of `y` is read in front of `y'`, if neither goes on with it. -/
theorem Reads.exchange {x y y' : Text} {p q : Option Lexeme} {L : List Lexeme} (h : Reads y p x L q)
    (ha : x ≠ [] → Apart x y) (hs : x ≠ [] → Sealed x y')
    (hy : ∃ d, y.head? = some d ∧ isBlank d = false) : Reads y' p x L q := by
  induction h with
  | nil => exact .nil
  | @blank p q c x L hc _ ih =>
    exact .blank hc (ih (fun hne => (ha (by simp)).tail (w := [c]) hne)
      fun hne => (hs (by simp)).tail (w := [c]) hne)
  | @lexeme p q c u x K L hc hr hcmd _ ih =>
    have ha := ha (by simp)
    have hs := hs (by simp)
    exact .lexeme hc (readLexeme_exchange hr ha hs hy) hcmd
      (ih (fun hne => ha.tail (w := c :: u) hne) fun hne => hs.tail (w := c :: u) hne)

/-! ## Where no phrase goes on -/

/-- No second word of a phrase begins with `c`. -/
theorem phraseStop_cons {c : Char} (hc : isBlank c = false)
    (h : ∀ w ∈ secondWords, w.head? ≠ some c.toUpper) (z : Text) : PhraseStop (c :: z) := by
  intro w hw used
  rw [phraseLength_cons (secondWords_ne_nil w hw), phraseStep, hc, if_neg (by simp)]
  cases hr : after? [c.toUpper] w with
  | none => rfl
  | some r => exact absurd (by rw [after?_one hr]; rfl) (h w hw)

/-- A character whose ASCII upper case is a letter is its own upper case otherwise as well. -/
theorem upperChar_of_toUpper {c a : Char} (ha : a.toNat < 128) (h : c.toUpper = a) :
    upperChar c = [a] := by
  have hc : c.toNat < 128 := by
    by_cases hc : c.toNat < 128
    · exact hc
    · rw [← h, toUpper_of_not_ascii hc] at ha
      exact ha
  rw [upperChar, if_pos hc, h]

theorem phraseStep_letter {w r : Text} {c : Char} {ab b : Bool} (hc : isBlank c = false)
    (h : phraseStep w ab c = some (r, b)) : w = c.toUpper :: r ∧ b = false := by
  rw [phraseStep, hc, if_neg (by simp)] at h
  obtain ⟨r', hr, he⟩ := Option.map_eq_some_iff.1 h
  cases he
  exact ⟨after?_one hr, rfl⟩

theorem endsWord_toUpper {c : Char} (hc : endsWord c = false) : endsWord c.toUpper = false := by
  by_cases h : c.toNat < 128
  · exact of_ascii (P := fun c => endsWord c = false → endsWord c.toUpper = false) (by decide +kernel) h hc
  · rwa [toUpper_of_not_ascii h]

theorem isBlank_of_endsWord {c : Char} (hc : endsWord c = false) : isBlank c = false := by
  simp only [endsWord, Bool.or_eq_false_iff] at hc
  exact hc.1

/-- No second word of a phrase begins with a word of a heading. -/
theorem phraseStop_of_upper {c : Char} {u : Text} (hu : ∀ d ∈ c :: u, isBlank d = false)
    (h : upper (c :: u) ∈ headingWords) (z : Text) : PhraseStop (c :: (u ++ z)) := by
  intro w hw used
  have hascii : ∀ w ∈ secondWords, ∀ a ∈ w, a.toNat < 128 := by decide +kernel
  have hhead : ∀ w ∈ secondWords, ∀ v ∈ headingWords, w.head? = v.head? →
      w = "TO".toList ∧ v = "TABLE".toList := by decide +kernel
  have hc := hu c (List.mem_cons_self ..)
  rw [phraseLength_cons (secondWords_ne_nil w hw)]
  cases hs : phraseStep w true c with
  | none => rfl
  | some r =>
    have hw' := (phraseStep_letter hc hs).1
    have hup : upper (c :: u) = c.toUpper :: upper u := by
      rw [upper_cons, upperChar_of_toUpper (hascii w hw _ (by rw [hw']; simp)) rfl]
      rfl
    obtain ⟨rfl, htable⟩ := hhead w hw _ h (by rw [hw', hup]; rfl)
    -- `TO` and `TABLE` differ in their second letter
    rw [hup] at htable
    have hrest : r.1 = ['O'] := (List.cons.inj hw').2.symm
    have hable : upper u = "ABLE".toList := (List.cons.inj htable).2
    cases u with
    | nil => cases hable
    | cons d u =>
      have hd := hu d (by simp)
      simp only [Option.bind_some, hrest, List.cons_append]
      rw [phraseLength_cons (by simp)]
      cases hs' : phraseStep ['O'] r.2 d with
      | none => rfl
      | some r' =>
        have hO := (List.cons.inj (phraseStep_letter hd hs').1).1
        rw [upper_cons, upperChar_of_toUpper (by decide) hO.symm] at hable
        exact absurd (List.cons.inj hable).1 (by decide)

/-- A word in front of a dot begins with no phrase. -/
theorem phraseLength_dot {w q r : Text} {used : Nat} (hw : ∀ c ∈ w, endsWord c = false)
    (hq : q.any endsWord = true) (hdot : '.' ∉ q) :
    phraseLength q false used (w ++ '.' :: r) = none := by
  have hne : q ≠ [] := by rintro rfl; cases hq
  induction w generalizing q used with
  | nil =>
    rw [List.nil_append, phraseLength_cons hne]
    cases hs : phraseStep q false '.' with
    | none => rfl
    | some r' => exact absurd (by rw [(phraseStep_letter (by decide) hs).1]; simp) hdot
  | cons c w ih =>
    have hc := hw c (List.mem_cons_self ..)
    rw [List.cons_append, phraseLength_cons hne]
    cases hs : phraseStep q false c with
    | none => rfl
    | some r' =>
      obtain ⟨hq', hb⟩ := phraseStep_letter (isBlank_of_endsWord hc) hs
      rw [hq', List.any_cons, endsWord_toUpper hc, Bool.false_or] at hq
      simp only [Option.bind_some, hb]
      refine ih (fun d hd => hw d (List.mem_cons_of_mem _ hd)) hq (fun hm => hdot ?_) ?_
      · rw [hq']
        exact List.mem_cons_of_mem _ hm
      · intro hnil
        rw [hnil] at hq
        cases hq

/-- A word in front of a dot is no phrase. -/
theorem readPhrase?_dot {w r : Text} (hw : ∀ c ∈ w, endsWord c = false) :
    readPhrase? (w ++ '.' :: r) = none := by
  cases hr : readPhrase? (w ++ '.' :: r) with
  | none => rfl
  | some l =>
    have key : ∀ q ∈ allPhrases, q.any endsWord = true ∧ '.' ∉ q := by decide +kernel
    obtain ⟨q, hq, hn, -⟩ := readPhrase?_cases hr
    rw [phraseLength_dot hw (key q hq).1 (key q hq).2] at hn
    cases hn

/-! ## Names and hints -/

section Name

variable {p : Option Lexeme} {c : Char} {t : Text} {ls : List Lexeme} {l : Lexeme} {n : Nat}

theorem markedKind?_mark {mark quote : Char} {r : Kind × Escaping}
    (h : markedKind? mark quote = some r) : mark ∈ "nNrRxX".toList := by
  unfold markedKind? at h
  split at h
  · cases h
  · split at h
    · rename_i hm
      simp only [Bool.or_eq_true, beq_iff_eq] at hm
      rcases hm with rfl | rfl <;> decide
    · split at h
      · rename_i hm
        simp only [Bool.or_eq_true, beq_iff_eq] at hm
        rcases hm with rfl | rfl <;> decide
      · split at h
        · rename_i hm
          simp only [Bool.and_eq_true, Bool.or_eq_true, beq_iff_eq] at hm
          rcases hm.1 with rfl | rfl <;> decide
        · cases h

theorem isPlainName_head {d : Char} {s : Text} (h : Lexeme.isPlainName (d :: s) = true) :
    d ∉ breakChars := by
  simp only [Lexeme.isPlainName, Bool.and_eq_true] at h
  intro hd
  have key : ∀ d ∈ breakChars, (d.isAlpha || d == '_') = false := by decide +kernel
  rw [key d hd] at h
  exact absurd h.1 (by decide)

/-- A name begins with no break character other than a back-tick. -/
theorem isInert_of_isName (hc : isBlank c = false) (h : readLexeme p (c :: t) = .ok (ls, n)) (hl : l ∈ ls)
    (hn : l.isName = true) : isInert c = true := by
  by_cases hb : c ∉ breakChars
  · simp [isInert, hb]
  have hb := Decidable.not_not.1 hb
  have hpos := (readLexeme_end hc h).1.1
  have hplain : l.kind ≠ .quotedName → Lexeme.isPlainName l.text = true := fun hk => by
    simp only [Lexeme.isName, Bool.or_eq_true, beq_iff_eq, Bool.and_eq_true] at hn
    exact (hn.resolve_left hk).2
  -- a lexeme that holds its text begins with the break character
  have hhead : ∀ s, l.kind ≠ .quotedName → l.text = c :: s → isInert c = true := fun s hk hs =>
    absurd hb (isPlainName_head (by rw [← hs]; exact hplain hk))
  have htake : (c :: t).take n = c :: t.take (n - 1) := by
    obtain ⟨m, rfl⟩ : ∃ m, n = m + 1 := ⟨n - 1, by omega⟩
    rfl
  rw [readLexeme_cons] at h
  split at h
  · have key : ∀ c ∈ breakChars, isDigit c = false := by decide
    rename_i hd
    rw [key c hb] at hd
    cases hd
  split at h
  · obtain ⟨l', -, rfl, hk, -⟩ := readQuotation_cases h
    rw [List.mem_singleton.1 hl] at hn
    rcases hk with ⟨rfl, -⟩ | hk
    · decide
    · simp [Lexeme.isName, hk] at hn
  rcases readPlain_cases h with ⟨l', rfl, hr⟩ | ⟨l', rfl, hr⟩ | ⟨l', rfl, hr⟩ | ⟨o, ho, rfl, hr, hlen⟩ |
    ⟨-, rfl, -⟩ | ⟨hnb, -⟩
  · obtain rfl := List.mem_singleton.1 hl
    rcases readComment?_end hr with ⟨-, rfl, rfl⟩ | ⟨hk, htext, -⟩
    · rw [take_lineAhead] at htake
      exact hhead _ (by simp) htake
    · exact hhead _ (by rcases hk with hk | hk <;> rw [hk] <;> decide) (htext.trans htake)
  · match t, hr with
    | [], hr => cases hr
    | q :: body, hr =>
      obtain ⟨e, hk, -⟩ := readMarkedString?_eq_ok.1 hr
      have key : ∀ c ∈ "nNrRxX".toList, c ∉ breakChars := by decide +kernel
      exact absurd hb (key c (markedKind?_mark hk))
  · obtain ⟨q, hq, -, rfl⟩ := readPhrase?_cases hr
    have key : ∀ q ∈ allPhrases, (⟨.phrase, q⟩ : Lexeme).isName = false := by decide +kernel
    rw [List.mem_singleton.1 hl, key q hq] at hn
    cases hn
  · have key : ∀ o ∈ operators, (⟨.symbol, o⟩ : Lexeme).isName = false := by decide +kernel
    rw [List.mem_singleton.1 hl, key o ho] at hn
    cases hn
  · obtain rfl := List.mem_singleton.1 hl
    refine hhead [] ?_ rfl
    have key : ∀ c ∈ breakChars, signKind c ≠ .quotedName := by decide +kernel
    exact key c hb
  · exact absurd hb hnb

/-- A hint is read as a comment. -/
theorem readComment?_of_hint (h : readLexeme p (c :: t) = .ok (ls, n)) (hl : l ∈ ls) (hk : l.kind = .hint) :
    readComment? p (c :: t) = some (.ok (l, n)) := by
  rw [readLexeme_cons] at h
  split at h
  · rcases readNumber_cases (Except.ok.inj h) with ⟨rfl | ⟨rfl, -⟩, -⟩ | ⟨rfl, -⟩ |
      ⟨m, -, d, w, -, -, -, rfl | rfl⟩ <;> simp at hl <;> grind
  split at h
  · obtain ⟨l', -, rfl, hk', -⟩ := readQuotation_cases h
    rw [← List.mem_singleton.1 hl, hk] at hk'
    simp at hk'
  rcases readPlain_cases h with ⟨l', rfl, hr⟩ | ⟨l', rfl, hr⟩ | ⟨l', rfl, hr⟩ | ⟨o, -, rfl, -⟩ |
    ⟨hb, rfl, -⟩ | ⟨-, ⟨k, hk', rfl⟩, -⟩ <;> rw [List.mem_singleton.1 hl] at hk
  · rw [List.mem_singleton.1 hl]
    exact hr
  · rcases (readMarkedString?_cases hr).1 with hk' | hk' | hk' <;> rw [hk] at hk' <;> cases hk'
  · obtain ⟨q, -, -, rfl⟩ := readPhrase?_cases hr
    cases hk
  · cases hk
  · have key : ∀ c ∈ breakChars, signKind c ≠ .hint := by decide
    exact absurd hk (key c hb)
  · rcases hk' with rfl | rfl <;> cases hk

/-- A hint ends in a character that ends a word. -/
theorem readLexeme_hint (h : readLexeme p (c :: t) = .ok (ls, n)) (hl : l ∈ ls) (hk : l.kind = .hint) :
    ∃ d, l.text.getLast? = some d ∧ endsWord d = true := by
  rcases readComment?_end (readComment?_of_hint h hl hk) with ⟨-, rfl, -⟩ | ⟨-, htext, k, d, rfl, hd, hslash⟩
  · cases hk
  · rw [htext]
    exact ⟨d, last_take hd, by rcases hslash with rfl | rfl <;> decide⟩

/-- A hint stands only behind a word that takes one. -/
theorem takesHint_of_hint (h : readLexeme p (c :: t) = .ok (ls, n)) (hl : l ∈ ls) (hk : l.kind = .hint) :
    p.any Lexeme.takesHint = true := by
  have hr := readComment?_of_hint h hl hk
  rw [readComment?_eq] at hr
  cases hp : p.any Lexeme.takesHint with
  | true => rfl
  | false =>
    rw [hp] at hr
    split at hr
    · cases hr
      cases hk
    split at hr
    · obtain ⟨-, rfl⟩ := finish_eq_ok.1 (Option.some.inj hr)
      cases hk
    split at hr
    · obtain ⟨-, rfl⟩ := finish_eq_ok.1 (Option.some.inj hr)
      cases hk
    split at hr
    · obtain ⟨-, rfl⟩ := finish_eq_ok.1 (Option.some.inj hr)
      cases hk
    · cases hr

end Name

/-! ## Lexemes of a heading -/

/-- A lexeme that may stand before the name of an INSERT, comments included. -/
def Lexeme.isLead (l : Lexeme) : Bool := l.kind == .comment || l.isHeading

theorem Lexeme.isHeading_spelled {l : Lexeme} (h : l.isHeading = true) (hk : l.kind ≠ .hint) :
    l.isQuoted = false ∧ (l.spelled = [] ∨ ∃ w ∈ headingWords, l.spelled = [w]) := by
  have hk : (l.kind == .hint) = false := by simpa using hk
  simp only [Lexeme.isHeading, hk, Bool.false_or, Bool.and_eq_true, Bool.not_eq_true', Bool.or_eq_true,
    List.isEmpty_iff, List.any_eq_true, beq_iff_eq] at h
  exact h

/-- A lexeme with an unbroken end that no word of a heading has is no heading. -/
theorem Lexeme.not_isHeading_append {k : Kind} (hk : k ≠ .hint) (a : Text) {b : Text} (hne : b ≠ [])
    (hb : ∀ c ∈ b, isBlank c = false) (hend : ∀ w ∈ headingWords, ∀ v, w ≠ v ++ upper b) :
    (⟨k, a ++ b⟩ : Lexeme).isHeading = false := by
  cases h : (⟨k, a ++ b⟩ : Lexeme).isHeading with
  | false => rfl
  | true =>
    obtain ⟨hu, hub⟩ := isBlank_upper hne hb
    obtain ⟨ws, w, hw⟩ := words_append hu hub (upper a)
    have hspelled : (⟨k, a ++ b⟩ : Lexeme).spelled = ws ++ [w ++ upper b] := by
      rw [Lexeme.spelled, upper_append, hw]
    rcases (Lexeme.isHeading_spelled h hk).2 with hnil | ⟨v, hv, hone⟩
    · simp [hspelled] at hnil
    · rw [hspelled] at hone
      obtain ⟨-, hvw⟩ := List.append_inj' (hone.trans (List.nil_append _).symm) rfl
      exact absurd (List.cons.inj hvw).1.symm (hend v hv w)

/-- A lexeme that begins with a digit is no heading. -/
theorem Lexeme.not_isHeading_digit {k : Kind} (hk : k ≠ .hint) {c : Char} (hc : isDigit c = true)
    (t : Text) : (⟨k, c :: t⟩ : Lexeme).isHeading = false := by
  cases h : (⟨k, c :: t⟩ : Lexeme).isHeading with
  | false => rfl
  | true =>
    have hascii := isPlainChar_ascii (isPlainChar_of_isDigit hc)
    have hup : upperChar c = [c] :=
      upperChar_of_toUpper hascii
        (of_ascii (P := fun c => isDigit c = true → c.toUpper = c) (by decide) hascii hc)
    have hb : isBlank c = false := isBlank_of_isWordChar (isPlainChar_isWordChar (isPlainChar_of_isDigit hc))
    obtain ⟨w, ws, hw⟩ := words_cons hb (upper t)
    have hspelled : (⟨k, c :: t⟩ : Lexeme).spelled = (c :: w) :: ws := by
      rw [Lexeme.spelled, upper_cons, hup, List.singleton_append, hw]
    have key : ∀ v ∈ headingWords, ∀ d ∈ v.head?, isDigit d = false := by decide +kernel
    rcases (Lexeme.isHeading_spelled h hk).2 with hnil | ⟨v, hv, hone⟩
    · simp [hspelled] at hnil
    · rw [hspelled] at hone
      rw [key v hv c (by rw [← (List.cons.inj hone).1]; rfl)] at hc
      cases hc

/-- A word, or a hexadecimal number, that takes in a word directly behind it. -/
structure Gluing (c : Char) (u : Text) : Prop where
  chars : ∀ d ∈ c :: u, endsWord d = false
  start : isDigit c = false ∨ c = '0' ∧ (u.head? = some 'x' ∨ u.head? = some 'X') ∧ u.drop 1 ≠ []
  stop : ∀ z, PhraseStop (c :: (u ++ z))

/-- A word and a word behind it are read as one lexeme. -/
theorem Gluing.read {c : Char} {u b r : Text} (h : Gluing c u) (hne : b ≠ [])
    (hb : ∀ d ∈ b, endsWord d = false) (p : Option Lexeme) :
    ∃ k s n, readLexeme p (c :: (u ++ (b ++ '.' :: r))) = .ok ([⟨k, s ++ b⟩], n) ∧ s ≠ [] ∧
      k ≠ .comment ∧ k ≠ .hint := by
  have hall : ∀ d ∈ c :: (u ++ b), endsWord d = false := fun d hd => by
    rw [← List.cons_append] at hd
    exact (List.mem_append.1 hd).elim (h.chars d) (hb d)
  have hword : wordAhead (c :: (u ++ (b ++ '.' :: r))) = c :: u ++ b := by
    have := wordAhead_of_all (w := c :: (u ++ b)) (y := '.' :: r)
      (List.all_eq_true.2 fun d hd => by simp [hall d hd])
    simpa [takeWhile_closed (y := '.' :: r) fun d hd => by cases hd; decide] using this
  rcases h.start with hdigit | ⟨rfl, hx, hdrop⟩
  · obtain ⟨d, t, hd⟩ : ∃ d t, u ++ b = d :: t := List.exists_cons_of_ne_nil (by simp [hne])
    have htext : c :: (u ++ (b ++ '.' :: r)) = c :: d :: (t ++ '.' :: r) := by
      rw [← List.append_assoc, hd]
      rfl
    have hphrase : readPhrase? (c :: d :: (t ++ '.' :: r)) = none :=
      readPhrase?_dot (w := c :: d :: t) (by rw [← hd]; exact hall)
    have hr := readLexeme_wordAhead (p := p) (hall c (by simp)) (hall d (by rw [hd]; simp)) hdigit hphrase
    rw [← htext, hword] at hr
    refine ⟨_, c :: u, _, hr, by simp, ?_, ?_⟩ <;> split <;> decide
  · obtain ⟨e, v, rfl⟩ : ∃ e v, u = e :: v := List.exists_cons_of_ne_nil (by rintro rfl; simp at hdrop)
    rw [readLexeme_cons, if_pos (by decide), readNumber_cons, if_pos ⟨rfl, hx⟩, hword]
    split
    · exact ⟨.hexString, v, _, rfl, hdrop, by decide, by decide⟩
    · exact ⟨.quotedName, '0' :: e :: v, _, rfl, by simp, by decide, by decide⟩

/-! ## The end of a heading -/

section Lead

variable {p : Option Lexeme} {c : Char} {u y : Text} {K : List Lexeme}

theorem Lexeme.not_isLead {l : Lexeme} (hk : l.kind ≠ .comment) (hh : l.isHeading = false) :
    l.isLead = false := by
  simp [Lexeme.isLead, hk, hh]

/-- A heading that is a word takes in a word behind it. -/
theorem Gluing.of_word {k : Kind} (hk : k = .word ∨ k = .parameter) (hdigit : isDigit c = false)
    (hu : wordAhead (c :: (u ++ y)) = c :: u)
    (hl : (⟨k, c :: u⟩ : Lexeme).isLead = true) : Gluing c u := by
  have hchars : ∀ d ∈ c :: u, endsWord d = false := fun d hd =>
    endsWord_of_mem_wordAhead (by rw [hu]; exact hd)
  have hblank : ∀ d ∈ c :: u, isBlank d = false := fun d hd => isBlank_of_endsWord (hchars d hd)
  have hheading : (⟨k, c :: u⟩ : Lexeme).isHeading = true := by
    rcases hk with rfl | rfl <;> exact hl
  have hspelled : (⟨k, c :: u⟩ : Lexeme).spelled = [upper (c :: u)] := words_upper (by simp) hblank
  refine ⟨hchars, .inl hdigit, phraseStop_of_upper hblank ?_⟩
  have hhint : (⟨k, c :: u⟩ : Lexeme).kind ≠ .hint := by rcases hk with rfl | rfl <;> simp
  rcases (Lexeme.isHeading_spelled hheading hhint).2 with hnil | ⟨w, hw, hone⟩
  · rw [hspelled] at hnil
    cases hnil
  · rw [hspelled] at hone
    rwa [(List.cons.inj hone).1]

/-- A heading that looks like a number takes in a word behind it. -/
theorem Gluing.of_number {b : Bool} (hc : isDigit c = true)
    (h : readNumber b (c :: (u ++ y)) = (K, u.length + 1)) (hK : ∀ l ∈ K, l.isLead = true) :
    wordAhead (c :: (u ++ y)) = c :: u ∧ Gluing c u ∧ ∃ l, K = [l] := by
  have hdigit : ∀ k t, k ≠ .comment → k ≠ .hint → (⟨k, c :: t⟩ : Lexeme) ∉ K := fun k t h₁ h₂ hm => by
    have := hK _ hm
    rw [Lexeme.not_isLead h₁ (Lexeme.not_isHeading_digit h₂ hc t)] at this
    cases this
  rcases readNumber_cases h with ⟨hls, hn, rfl, hx⟩ | ⟨rfl, -⟩ | ⟨m, -, d, w, -, hn, -, hls⟩
  · have hu : wordAhead ('0' :: (u ++ y)) = '0' :: u := by
      rw [← take_wordAhead, ← hn, List.take_succ_cons, List.take_left]
    rw [hu] at hls
    rcases hls with rfl | ⟨rfl, hdrop⟩
    · have := hK _ (List.mem_singleton_self _)
      exact absurd this (by simp [Lexeme.isLead, Lexeme.isHeading, Lexeme.isQuoted])
    · obtain ⟨e, v, rfl⟩ : ∃ e v, u = e :: v :=
        List.exists_cons_of_ne_nil (by rintro rfl; simp at hdrop)
      refine ⟨hu, ⟨fun d hd => endsWord_of_mem_wordAhead (by rw [hu]; exact hd), .inr ⟨rfl, hx, hdrop⟩,
        fun z => phraseStop_cons (by decide) (by decide) _⟩, _, rfl⟩
  · exact absurd (List.mem_singleton_self _) (hdigit .number _ (by decide) (by decide))
  · rcases hls with rfl | rfl
    · rw [List.take_succ_cons] at hdigit
      exact absurd (List.mem_singleton_self _) (hdigit .word _ (by decide) (by decide))
    · exact absurd (List.mem_cons_self ..) (hdigit .number _ (by decide) (by decide))

/-- A heading that begins with no digit and no quote and ends in a character of a word takes in a word
behind it. -/
theorem Gluing.of_plain {d : Char} (h : readPlain p c (u ++ y) = .ok (K, u.length + 1))
    (hline : startsWith (c :: (u ++ y)) "--".toList = true → False) (hdigit : isDigit c = false)
    (hK : ∀ l ∈ K, l.isLead = true) (hl : (c :: u).getLast? = some d) (hd : endsWord d = false) :
    wordAhead (c :: (u ++ y)) = c :: u ∧ Gluing c u ∧ ∃ l, K = [l] := by
  have hlast : ∀ k e, u.length + 1 = k + 1 → (c :: (u ++ y))[k]? = some e → endsWord e = false := by
    intro k e hk he
    have hlast := last_take he
    rw [← hk, List.take_succ_cons, List.take_left, hl] at hlast
    rwa [← Option.some.inj hlast]
  rcases readPlain_cases h with ⟨l, rfl, hr⟩ | ⟨l, rfl, hr⟩ | ⟨l, rfl, hr⟩ | ⟨o, ho, rfl, hr, hn⟩ |
    ⟨hb, rfl, hn⟩ | ⟨-, ⟨k, hk, rfl⟩, hn⟩
  · rcases readComment?_end hr with ⟨hs, -⟩ | ⟨-, -, k, e, hk, he, hslash⟩
    · exact absurd hs hline
    · have := hlast k e hk he
      rcases hslash with rfl | rfl <;> exact absurd this (by decide)
  · obtain ⟨-, k, q, hk, he, hq⟩ := readMarkedString?_cases hr
    have hedge := (isQuote_edge hq).1
    simp [isEdge, hlast k q hk he] at hedge
  · obtain ⟨q, hq, -, rfl⟩ := readPhrase?_cases hr
    have key : ∀ q ∈ allPhrases, (⟨.phrase, q⟩ : Lexeme).isLead = false := by decide +kernel
    have hlead := hK _ (List.mem_singleton_self _)
    rw [key q hq] at hlead
    cases hlead
  · have key : ∀ o ∈ operators, ∃ e ∈ o.getLast?, endsWord e = true := by decide +kernel
    obtain ⟨e, he, hend⟩ := key o ho
    obtain ⟨r, hr⟩ := startsWith_iff.1 hr
    have hou : o = c :: u := by
      have := congrArg (List.take (u.length + 1)) hr
      rw [hn, List.take_left, ← hn, List.take_succ_cons, List.take_left] at this
      exact this.symm
    rw [hou, hl] at he
    rw [← Option.some.inj he, hd] at hend
    cases hend
  · have hu : u = [] := List.eq_nil_of_length_eq_zero (by omega)
    have := hlast 0 c (by rw [hu]; rfl) rfl
    simp [endsWord, hb] at this
  · have hu : wordAhead (c :: (u ++ y)) = c :: u := by
      rw [← take_wordAhead, ← hn, List.take_succ_cons, List.take_left]
    rw [hu] at hK
    exact ⟨hu, .of_word hk hdigit hu (hK _ (List.mem_singleton_self _)), _, rfl⟩

/-- The source of a heading or a comment ends at an edge, or it is a word that takes in a word behind
it. -/
theorem lead_end (hc : isBlank c = false) (h : readLexeme p (c :: (u ++ y)) = .ok (K, u.length + 1))
    (hK : ∀ l ∈ K, l.isLead = true) (hy : ∃ d, y.head? = some d ∧ isBlank d = false) :
    (∃ d, (c :: u).getLast? = some d ∧ isEdge d = true) ∨
      wordAhead (c :: (u ++ y)) = c :: u ∧ Gluing c u ∧ ∃ l, K = [l] := by
  have hline : startsWith (c :: (u ++ y)) "--".toList = true → False := fun hs => by
    obtain ⟨d, hd, hb⟩ := hy
    rw [readLexeme_line_stop hs h d hd] at hb
    cases hb
  have hend := (readLexeme_end hc h).2
  rw [List.take_succ_cons, List.take_left] at hend
  cases hend with
  | edge hl he _ => exact .inl ⟨_, hl, he⟩
  | line hs _ => exact absurd (startsWith_extend hs y) hline
  | @sign d k hl hd hk hls =>
    -- no word of a heading ends in a point or a sign
    obtain ⟨a, ha⟩ := List.getLast?_eq_some_iff.1 hl
    have hlead := hK ⟨k, c :: u⟩ (by rw [hls]; simp)
    have hkinds : ∀ k ∈ [Kind.number, .symbol, .dot], k ≠ .comment ∧ k ≠ .hint := by decide +kernel
    have key : ∀ d ∈ ['.', '+', '-'], isBlank d = false ∧ upper [d] = [d] ∧
        ∀ w ∈ headingWords, w.getLast? ≠ some d := by decide +kernel
    obtain ⟨hb, hup, hw⟩ := key d (by simpa using hd)
    rw [ha, Lexeme.not_isLead (hkinds k hk).1 (Lexeme.not_isHeading_append (hkinds k hk).2 a (by simp)
      (by simpa using hb) fun w hm v hv => hw w hm (by rw [hv, hup]; simp))] at hlead
    cases hlead
  | @word d hl hd =>
    right
    rw [readLexeme_cons] at h
    split at h
    · exact Gluing.of_number ‹_› (Except.ok.inj h) hK
    rename_i hdigit
    split at h
    · obtain ⟨l, -, rfl, hk, -⟩ := readQuotation_cases h
      have hlead := hK l (List.mem_singleton_self l)
      rcases hk with ⟨-, hk⟩ | hk <;> simp [Lexeme.isLead, Lexeme.isHeading, Lexeme.isQuoted, hk] at hlead
    · exact Gluing.of_plain h hline (by simpa using hdigit) hK hl hd

end Lead

/-- A text of headings and comments ends at an edge, or in a word that takes in a word behind it. -/
theorem Reads.boundary {y x : Text} {p q : Option Lexeme} {L : List Lexeme} (h : Reads y p x L q)
    (hL : ∀ l ∈ L, l.isLead = true) (hy : ∃ d, y.head? = some d ∧ isBlank d = false) (hx : x ≠ []) :
    (∃ d, x.getLast? = some d ∧ isEdge d = true) ∨
      ∃ (x' : Text) (c : Char) (u : Text) (L' : List Lexeme) (l : Lexeme) (q' : Option Lexeme),
        x = x' ++ c :: u ∧ L = L' ++ [l] ∧ Reads (c :: (u ++ y)) p x' L' q' ∧ Gluing c u ∧
        wordAhead (c :: (u ++ y)) = c :: u := by
  rcases h.last with rfl | ⟨d, hd, hb⟩ | ⟨x', c, u, L', K, q', rfl, rfl, hc, hx', hr⟩
  · exact absurd rfl hx
  · have key : isEdge d = true := Text.of_blank (P := fun d => isEdge d = true) (by decide) hb
    exact .inl ⟨d, hd, key⟩
  · rcases lead_end hc hr (fun l hl => hL l (List.mem_append_right _ hl)) hy with
      ⟨d, hd, he⟩ | ⟨hw, hglue, l, rfl⟩
    · exact .inl ⟨d, by rw [List.getLast?_append, hd, Option.some_or], he⟩
    · exact .inr ⟨x', c, u, L', l, q', rfl, rfl, hx', hglue, hw⟩

/-- In front of a word, a text of headings and comments ends at an edge. -/
theorem Reads.boundary_word {x t : Text} {c : Char} {p q : Option Lexeme} {L : List Lexeme}
    (h : Reads (c :: t) p x L q) (hL : ∀ l ∈ L, l.isLead = true) (hc : endsWord c = false) (hx : x ≠ []) :
    ∃ d, x.getLast? = some d ∧ isEdge d = true := by
  rcases h.boundary hL ⟨c, rfl, isBlank_of_endsWord hc⟩ hx with hedge | ⟨x', d, u, -, -, -, -, -, -, hglue, hw⟩
  · exact hedge
  · -- the word at the end of `x` would go on with `c`
    have hall : (d :: u).all (!endsWord ·) = true :=
      List.all_eq_true.2 fun e he => by simp [hglue.chars e he]
    rw [← List.cons_append, wordAhead_of_all hall] at hw
    exact absurd (List.append_right_eq_self.1 hw) (wordAhead_ne_nil hc)

end DryRun.Sql
