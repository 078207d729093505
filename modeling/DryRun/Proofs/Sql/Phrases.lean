import DryRun.Proofs.Sql.Lookahead

/-!
# Phrases and what follows them

A phrase such as `GROUP BY` is the one kind of lexeme that looks past blanks, so whether it is read may
depend on text far ahead. `Sealed x y` says that nothing in `y` goes on with a lexeme of `x`, phrases
included: `y` is blank up to its end or a closing parenthesis, or `x` ends in an edge and no second
word of a phrase begins at `y`. Then `readPhrase? (x ++ y)` is `readPhrase? x`.
-/

namespace DryRun.Sql

open Text

/-- The words with which a phrase goes on after its blank. -/
def secondWords : List Text := phrases.map fun p => (p.dropWhile (· != ' ')).drop 1

/-- All phrases. -/
def allPhrases : List Text := "USER-DEFINED".toList :: phrases

/-- No second word of a phrase begins here. -/
def PhraseStop (y : Text) : Prop := ∀ w ∈ secondWords, ∀ used, phraseLength w true used y = none

/-- Nothing but blanks up to the end or to a closing parenthesis. -/
def Closing (y : Text) : Prop :=
  ∃ w r : Text, y = w ++ r ∧ (∀ c ∈ w, isBlank c = true) ∧ ∀ c, r.head? = some c → c = ')'

/-- The continuation `y` goes on with no lexeme of `x`. -/
def Sealed (x y : Text) : Prop :=
  Closing y ∨ ((∃ c, x.getLast? = some c ∧ isEdge c = true) ∧ PhraseStop y ∧
    ∀ c, y.head? = some c → isInert c = true ∧ c ≠ '\x60')

theorem Closing.nil : Closing [] := ⟨[], [], rfl, by simp, by simp⟩

theorem Closing.blanks {w y : Text} (hw : ∀ c ∈ w, isBlank c = true) (hy : Closing y) :
    Closing (w ++ y) := by
  obtain ⟨v, r, rfl, hv, hr⟩ := hy
  refine ⟨w ++ v, r, (List.append_assoc ..).symm, fun c hc => ?_, hr⟩
  exact (List.mem_append.1 hc).elim (hw c) (hv c)

theorem Closing.paren {y : Text} : Closing (')' :: y) :=
  ⟨[], ')' :: y, rfl, by simp, fun c hc => by simpa using hc.symm⟩

theorem Closing.head {y : Text} (h : Closing y) : ∀ c, y.head? = some c → isCloser c = true := by
  obtain ⟨w, r, rfl, hw, hr⟩ := h
  intro c hc
  cases w with
  | nil => rw [hr c hc]; decide
  | cons d w =>
    have hcd : d = c := by simpa using hc
    have := hw d (List.mem_cons_self ..)
    rw [hcd] at this
    simp [isCloser, this]

theorem Sealed.apart {x y : Text} (h : Sealed x y) : Apart x y := by
  rcases h with h | ⟨he, -, hy⟩
  · exact .of_closer h.head
  · exact ⟨fun c hc => (hy c hc).1, .inr he⟩

theorem Sealed.not_quote {x y : Text} (h : Sealed x y) : y.head? ≠ some '\x60' := by
  rcases h with h | ⟨-, -, hy⟩
  · intro hc
    have := h.head _ hc
    exact absurd this (by decide)
  · exact fun hc => (hy _ hc).2 rfl

theorem Sealed.tail {w x y : Text} (h : Sealed (w ++ x) y) (hne : x ≠ []) : Sealed x y := by
  refine h.imp_right ?_
  rintro ⟨⟨c, hc, he⟩, hs, hy⟩
  refine ⟨⟨c, ?_, he⟩, hs, hy⟩
  rw [List.getLast?_append] at hc
  cases hl : x.getLast? with
  | none => exact absurd (List.getLast?_eq_none_iff.1 hl) hne
  | some d =>
    rw [hl] at hc
    exact hc

/-! ## Spelling a phrase -/

/-- What is left of a phrase after one more character, and whether that was a blank. -/
def phraseStep (p : Text) (afterBlank : Bool) (c : Char) : Option (Text × Bool) :=
  if isBlank c then if afterBlank then some (p, true) else (after? [' '] p).map (·, true)
  else (after? [c.toUpper] p).map (·, false)

theorem phraseLength_nil (ab : Bool) (used : Nat) (t : Text) : phraseLength [] ab used t = some used := by
  cases t <;> rfl

theorem phraseLength_end {p : Text} (hp : p ≠ []) (ab : Bool) (used : Nat) :
    phraseLength p ab used [] = none := by
  cases p with
  | nil => exact absurd rfl hp
  | cons => rfl

theorem phraseLength_cons {p : Text} (hp : p ≠ []) (ab : Bool) (used : Nat) (c : Char) (t : Text) :
    phraseLength p ab used (c :: t) =
      (phraseStep p ab c).bind fun r => phraseLength r.1 r.2 (used + 1) t := by
  have he : p.isEmpty = false := by simpa using hp
  rw [phraseLength, he]
  simp only [Bool.false_eq_true, if_false, phraseStep]
  split
  · split
    · rfl
    · cases after? [' '] p <;> rfl
  · cases after? [c.toUpper] p <;> rfl

theorem phraseLength_bounds {p t : Text} {ab : Bool} {used m : Nat}
    (h : phraseLength p ab used t = some m) :
    used ≤ m ∧ m ≤ used + t.length ∧ (p ≠ [] → used < m) := by
  by_cases hp : p = []
  · subst hp
    rw [phraseLength_nil] at h
    cases h
    exact ⟨Nat.le_refl _, Nat.le_add_right .., fun hne => absurd rfl hne⟩
  · suffices used < m ∧ m ≤ used + t.length from ⟨by omega, this.2, fun _ => this.1⟩
    induction t generalizing p ab used with
    | nil => rw [phraseLength_end hp] at h; cases h
    | cons c t ih =>
      rw [phraseLength_cons hp] at h
      obtain ⟨⟨q, b⟩, -, h⟩ := Option.bind_eq_some_iff.1 h
      simp only [List.length_cons]
      by_cases hq : q = []
      · subst hq
        rw [phraseLength_nil] at h
        cases h
        omega
      · have := ih h hq
        omega

/-- A phrase that is spelled in `x` is spelled in `x ++ y`. -/
theorem phraseLength_extend {p x : Text} {ab : Bool} {used m : Nat} (y : Text)
    (h : phraseLength p ab used x = some m) : phraseLength p ab used (x ++ y) = some m := by
  induction x generalizing p ab used with
  | nil =>
    by_cases hp : p = []
    · subst hp; rwa [phraseLength_nil] at h ⊢
    · rw [phraseLength_end hp] at h; cases h
  | cons c x ih =>
    by_cases hp : p = []
    · subst hp; rwa [phraseLength_nil] at h ⊢
    · rw [phraseLength_cons hp] at h
      obtain ⟨r, hr, h⟩ := Option.bind_eq_some_iff.1 h
      rw [List.cons_append, phraseLength_cons hp, hr]
      exact ih h

/-- A phrase that is spelled in the part `x` of `x ++ y` is spelled in `x`. -/
theorem phraseLength_restrict {p x y : Text} {ab : Bool} {used m : Nat}
    (h : phraseLength p ab used (x ++ y) = some m) (hm : m ≤ used + x.length) :
    phraseLength p ab used x = some m := by
  induction x generalizing p ab used with
  | nil =>
    have hb := phraseLength_bounds h
    simp only [List.length_nil] at hm
    have hp : p = [] := Classical.byContradiction fun hne => by have := hb.2.2 hne; omega
    subst hp
    rwa [phraseLength_nil] at h ⊢
  | cons c x ih =>
    by_cases hp : p = []
    · subst hp; rwa [phraseLength_nil] at h ⊢
    · rw [List.cons_append, phraseLength_cons hp] at h
      obtain ⟨r, hr, h⟩ := Option.bind_eq_some_iff.1 h
      rw [phraseLength_cons hp, hr]
      exact ih h (by simp only [List.length_cons] at hm; omega)

/-! ## What is left of a phrase -/

/-- The rest of a phrase: a blank stands before a second word only, and no other character is an edge. -/
def isPhraseRest : Text → Bool
  | [] => true
  | c :: r => (if c == ' ' then secondWords.contains r else !isEdge c) && isPhraseRest r

theorem isPhraseRest_phrase : ∀ p ∈ allPhrases, isPhraseRest p = true ∧ p ≠ [] := by decide +kernel

theorem secondWords_ne_nil : ∀ w ∈ secondWords, w ≠ [] := by decide +kernel

theorem isPhraseRest_tail {c : Char} {r : Text} (h : isPhraseRest (c :: r) = true) :
    isPhraseRest r = true := by
  simp only [isPhraseRest, Bool.and_eq_true] at h
  exact h.2

theorem after?_one {c : Char} {p r : Text} (h : after? [c] p = some r) : p = c :: r := by
  cases p with
  | nil => cases h
  | cons d p =>
    simp only [after?] at h
    split at h
    · rename_i hcd
      cases h
      rw [eq_of_beq hcd]
    · cases h

/-- One more character leaves a rest of the phrase, and after a blank a second word. -/
theorem phraseStep_rest {p r : Text} {ab b : Bool} {c : Char} (h : phraseStep p ab c = some (r, b))
    (hp : isPhraseRest p = true) (hab : ab = true → p ∈ secondWords) :
    isPhraseRest r = true ∧ (b = true → r ∈ secondWords) ∧ b = isBlank c := by
  unfold phraseStep at h
  split at h
  · rename_i hb
    split at h
    · rename_i h1
      cases h
      exact ⟨hp, fun _ => hab h1, hb.symm⟩
    · obtain ⟨r', hr, h⟩ := Option.map_eq_some_iff.1 h
      cases h
      rw [after?_one hr] at hp
      have hw : secondWords.contains r = true := by
        simp only [isPhraseRest, beq_self_eq_true, if_true, Bool.and_eq_true] at hp
        exact hp.1
      exact ⟨isPhraseRest_tail hp, fun _ => List.contains_iff_mem.1 hw, hb.symm⟩
  · rename_i hb
    obtain ⟨r', hr, h⟩ := Option.map_eq_some_iff.1 h
    cases h
    rw [after?_one hr] at hp
    exact ⟨isPhraseRest_tail hp, fun e => by simp at e, by simpa using hb⟩

/-- An edge that is no blank goes on with no phrase. -/
theorem phraseStep_edge {p : Text} {ab : Bool} {c : Char} (hp : isPhraseRest p = true)
    (he : isEdge c = true) (hb : isBlank c = false) : phraseStep p ab c = none := by
  have hc : breakChars.contains c = true := by
    simp only [isEdge, endsWord, hb, Bool.false_or, Bool.and_eq_true] at he
    exact he.1.1.1
  have hu : c.toUpper = c := by
    have key : ∀ c ∈ breakChars, c.toUpper = c := by decide +kernel
    exact key c (List.contains_iff_mem.1 hc)
  rw [phraseStep, hb, if_neg (by simp), Option.map_eq_none_iff, hu]
  cases hr : after? [c] p with
  | none => rfl
  | some r =>
    rw [after?_one hr] at hp
    have hs : (c == ' ') = false := by
      cases h : c == ' ' with
      | false => rfl
      | true => rw [eq_of_beq h] at hb; exact absurd hb (by decide)
    simp [isPhraseRest, hs, he] at hp

theorem phraseLength_closing {p y : Text} {ab : Bool} {used : Nat} (hy : Closing y) (hne : p ≠ [])
    (hp : isPhraseRest p = true) (hab : ab = true → p ∈ secondWords) :
    phraseLength p ab used y = none := by
  obtain ⟨w, r, rfl, hw, hr⟩ := hy
  induction w generalizing p ab used with
  | nil =>
    cases r with
    | nil => exact phraseLength_end hne ..
    | cons c r =>
      have hc := hr c rfl
      subst hc
      rw [List.nil_append, phraseLength_cons hne, phraseStep_edge hp (by decide) (by decide)]
      rfl
  | cons c w ih =>
    rw [List.cons_append, phraseLength_cons hne]
    cases hs : phraseStep p ab c with
    | none => rfl
    | some q =>
      obtain ⟨h1, h2, h3⟩ := phraseStep_rest hs hp hab
      have hb := hw c (List.mem_cons_self ..)
      have hq := h2 (h3.trans hb)
      exact ih (secondWords_ne_nil _ hq) h1 h2 (fun d hd => hw d (List.mem_cons_of_mem _ hd))

/-- Nothing in a sealed continuation goes on with a phrase. -/
theorem phraseLength_sealed {p x y : Text} {ab : Bool} {used : Nat}
    (h : Sealed x y) (hp : isPhraseRest p = true) (hab : ab = true → p ∈ secondWords) :
    phraseLength p ab used (x ++ y) = phraseLength p ab used x := by
  by_cases hne : p = []
  · subst hne; rw [phraseLength_nil, phraseLength_nil]
  rcases h with hy | ⟨⟨e, hl, he⟩, hstop, hin⟩
  · induction x generalizing p ab used with
    | nil => rw [List.nil_append, phraseLength_closing hy hne hp hab, phraseLength_end hne]
    | cons c x ih =>
      rw [List.cons_append, phraseLength_cons hne, phraseLength_cons hne]
      cases hs : phraseStep p ab c with
      | none => rfl
      | some q =>
        obtain ⟨h1, h2, -⟩ := phraseStep_rest hs hp hab
        by_cases hq : q.1 = []
        · simp only [Option.bind_some, hq, phraseLength_nil]
        · exact ih h1 h2 hq
  · induction x generalizing p ab used with
    | nil => cases hl
    | cons c x ih =>
      rw [List.cons_append, phraseLength_cons hne, phraseLength_cons hne]
      cases hs : phraseStep p ab c with
      | none => rfl
      | some q =>
        obtain ⟨h1, h2, h3⟩ := phraseStep_rest hs hp hab
        by_cases hq : q.1 = []
        · simp only [Option.bind_some, hq, phraseLength_nil]
        by_cases hx : x = []
        · -- the edge itself was taken, so it is a blank and a second word is due
          subst hx
          have hce : c = e := by simpa using hl
          subst hce
          cases hb : isBlank c with
          | false =>
            rw [phraseStep_edge hp he hb] at hs
            cases hs
          | true =>
            have hw := h2 (h3.trans hb)
            simp only [Option.bind_some, List.nil_append]
            rw [phraseLength_end hq]
            have := hstop _ hw (used + 1)
            rwa [h3, hb]
        · exact ih h1 h2 hq (by rwa [List.getLast?_cons_of_ne_nil hx] at hl)

/-- A phrase does not end in an edge. -/
theorem phraseLength_lt {p x : Text} {ab : Bool} {used m : Nat} {c : Char}
    (hl : x.getLast? = some c) (he : isEdge c = true) (hne : p ≠ []) (hp : isPhraseRest p = true)
    (hab : ab = true → p ∈ secondWords) (h : phraseLength p ab used x = some m) :
    m < used + x.length := by
  induction x generalizing p ab used with
  | nil => cases hl
  | cons d x ih =>
    rw [phraseLength_cons hne] at h
    obtain ⟨⟨r, b⟩, hr, h⟩ := Option.bind_eq_some_iff.1 h
    obtain ⟨h1, h2, h3⟩ := phraseStep_rest hr hp hab
    simp only [List.length_cons]
    by_cases hx : x = []
    · subst hx
      have hcd : d = c := by simpa using hl
      subst hcd
      cases hb : isBlank d with
      | false => rw [phraseStep_edge hp he hb] at hr; cases hr
      | true =>
        rw [phraseLength_end (secondWords_ne_nil _ (h2 (h3.trans hb)))] at h
        cases h
    · have hl' : x.getLast? = some c := by rwa [List.getLast?_cons_of_ne_nil hx] at hl
      by_cases hrn : r = []
      · subst hrn
        rw [phraseLength_nil] at h
        cases h
        have : 0 < x.length := List.length_pos_iff.2 hx
        omega
      · have := ih hl' hrn h1 h2 h
        omega

/-! ## Reading a phrase -/

/-- The phrase `p`, if it is spelled here and a word ends after it. -/
def phraseAt (p t : Text) : Option (Lexeme × Nat) :=
  (phraseLength p false 0 t).bind fun n =>
    if (t.drop n).head?.all endsWord then some (⟨.phrase, p⟩, n) else none

theorem phraseAt_eq_some {p t : Text} {r : Lexeme × Nat} :
    phraseAt p t = some r ↔ ∃ n, phraseLength p false 0 t = some n ∧
      (t.drop n).head?.all endsWord = true ∧ r = (⟨.phrase, p⟩, n) := by
  rw [phraseAt, Option.bind_eq_some_iff]
  refine exists_congr fun n => and_congr_right fun _ => ?_
  split
  · rename_i h
    rw [Option.some.injEq]
    exact ⟨fun hr => ⟨h, hr.symm⟩, fun hr => hr.2.symm⟩
  · rename_i h
    exact ⟨fun hr => (nomatch hr), fun hr => absurd hr.1 h⟩

theorem readPhrase?_eq (t : Text) :
    readPhrase? t = (phrases.findSome? (phraseAt · t)).or
      ((phraseLength "USER-DEFINED".toList false 0 t).map
        fun n => (⟨.phrase, "USER-DEFINED".toList⟩, n)) := by
  unfold readPhrase?
  split
  · rename_i r hr
    have hr : phrases.findSome? (phraseAt · t) = some r := hr
    rw [hr]
    rfl
  · rename_i hr
    have hr : phrases.findSome? (phraseAt · t) = none := hr
    rw [hr]
    rfl

theorem drop_head_append {x y : Text} {n : Nat} (h : n < x.length) :
    ((x ++ y).drop n).head? = (x.drop n).head? := by
  rw [List.drop_append_of_le_length (Nat.le_of_lt h)]
  cases hd : x.drop n with
  | nil => rw [List.drop_eq_nil_iff] at hd; omega
  | cons c t => rfl

theorem drop_head_length {x y : Text} : ((x ++ y).drop x.length).head? = y.head? := by
  rw [List.drop_left]

theorem mem_allPhrases {p : Text} (h : p ∈ phrases) : p ∈ allPhrases := List.mem_cons_of_mem _ h

/-- A phrase of `x` is a phrase of `x ++ y`. -/
theorem phraseAt_extend {p x y : Text} (hp : p ∈ phrases) (h : Apart x y) {r : Lexeme × Nat}
    (hr : phraseAt p x = some r) : phraseAt p (x ++ y) = some r := by
  obtain ⟨n, hn, ha, rfl⟩ := phraseAt_eq_some.1 hr
  refine phraseAt_eq_some.2 ⟨n, phraseLength_extend y hn, ?_, rfl⟩
  obtain ⟨hrest, hne⟩ := isPhraseRest_phrase p (mem_allPhrases hp)
  have hle := (phraseLength_bounds hn).2.1
  rw [Nat.zero_add] at hle
  rcases Nat.lt_or_eq_of_le hle with hlt | rfl
  · rwa [drop_head_append hlt]
  · rw [drop_head_length]
    rcases h.words with hc | ⟨c, hl, he⟩
    · cases hy : y.head? with
      | none => rfl
      | some c => exact endsWord_of_isCloser (hc c hy)
    · have := phraseLength_lt hl he hne hrest (by simp) hn
      omega

/-- A phrase that ends within `x` is a phrase of `x`. -/
theorem phraseAt_restrict {p x y : Text} {r : Lexeme × Nat} (hr : phraseAt p (x ++ y) = some r)
    (hn : r.2 ≤ x.length) : phraseAt p x = some r := by
  obtain ⟨n, h, ha, rfl⟩ := phraseAt_eq_some.1 hr
  refine phraseAt_eq_some.2 ⟨n, phraseLength_restrict h (by omega), ?_, rfl⟩
  rcases Nat.lt_or_eq_of_le hn with hlt | heq
  · rwa [drop_head_append hlt] at ha
  · change n = x.length at heq
    rw [heq, List.drop_length]
    rfl

theorem phraseAt_sealed {p x y : Text} (hp : p ∈ phrases) (h : Sealed x y) :
    phraseAt p (x ++ y) = phraseAt p x := by
  cases hr : phraseAt p x with
  | some r => exact phraseAt_extend hp h.apart hr
  | none =>
    cases hr' : phraseAt p (x ++ y) with
    | none => rfl
    | some r =>
      obtain ⟨n, hn, -, rfl⟩ := phraseAt_eq_some.1 hr'
      rw [phraseLength_sealed h (isPhraseRest_phrase p (mem_allPhrases hp)).1 (by simp)] at hn
      have hle := (phraseLength_bounds hn).2.1
      rw [phraseAt_restrict hr' (by simpa using hle)] at hr
      cases hr

/-- In front of a sealed continuation the same phrase is read as at the end of the text. -/
theorem readPhrase?_sealed {x y : Text} (h : Sealed x y) : readPhrase? (x ++ y) = readPhrase? x := by
  have key : ∀ l : List Text, (∀ p ∈ l, p ∈ phrases) →
      l.findSome? (phraseAt · (x ++ y)) = l.findSome? (phraseAt · x) := by
    intro l
    induction l with
    | nil => intro _; rfl
    | cons p l ih =>
      intro hl
      rw [List.findSome?_cons, List.findSome?_cons, phraseAt_sealed (hl p (List.mem_cons_self ..)) h,
        ih (fun p hp => hl p (List.mem_cons_of_mem _ hp))]
  rw [readPhrase?_eq, readPhrase?_eq, key phrases (fun _ hp => hp),
    phraseLength_sealed h (by decide) (by simp)]

/-- A phrase that ends within `x` is read from `x` alone. -/
theorem readPhrase?_restrict {x y : Text} {r : Lexeme × Nat} (h : Apart x y)
    (hr : readPhrase? (x ++ y) = some r) (hn : r.2 ≤ x.length) : readPhrase? x = some r := by
  have hnone : ∀ l : List Text, (∀ p ∈ l, p ∈ phrases) →
      l.findSome? (phraseAt · (x ++ y)) = none → l.findSome? (phraseAt · x) = none := by
    intro l hl hnone
    rw [List.findSome?_eq_none_iff] at hnone ⊢
    intro p hp
    cases hx : phraseAt p x with
    | none => rfl
    | some r =>
      have := hnone p hp
      rw [phraseAt_extend (hl p hp) h hx] at this
      cases this
  have hsome : ∀ l : List Text, (∀ p ∈ l, p ∈ phrases) →
      l.findSome? (phraseAt · (x ++ y)) = some r → l.findSome? (phraseAt · x) = some r := by
    intro l
    induction l with
    | nil => intro _ hs; cases hs
    | cons p l ih =>
      intro hl hs
      rw [List.findSome?_cons] at hs ⊢
      cases hp : phraseAt p (x ++ y) with
      | some r' =>
        rw [hp] at hs
        cases hs
        rw [phraseAt_restrict hp hn]
      | none =>
        rw [hp] at hs
        cases hx : phraseAt p x with
        | some r' =>
          rw [phraseAt_extend (hl p (List.mem_cons_self ..)) h hx] at hp
          cases hp
        | none => exact ih (fun p hp => hl p (List.mem_cons_of_mem _ hp)) hs
  rw [readPhrase?_eq] at hr ⊢
  cases hf : phrases.findSome? (phraseAt · (x ++ y)) with
  | some r' =>
    rw [hf] at hr
    cases hr
    rw [hsome phrases (fun _ hp => hp) hf]
    rfl
  | none =>
    rw [hf] at hr
    rw [hnone phrases (fun _ hp => hp) hf]
    obtain ⟨n, h1, rfl⟩ := Option.map_eq_some_iff.1 hr
    rw [Option.none_or, phraseLength_restrict h1 (by simpa using hn)]
    rfl

/-- If no phrase is read from `x ++ y`, none is read from `x`. -/
theorem readPhrase?_none {x y : Text} (h : Apart x y) (hr : readPhrase? (x ++ y) = none) :
    readPhrase? x = none := by
  rw [readPhrase?_eq, Option.or_eq_none_iff] at hr ⊢
  obtain ⟨h1, h2⟩ := hr
  refine ⟨?_, ?_⟩
  · rw [List.findSome?_eq_none_iff] at h1 ⊢
    intro p hp
    cases hx : phraseAt p x with
    | none => rfl
    | some r =>
      have := h1 p hp
      rw [phraseAt_extend hp h hx] at this
      cases this
  · rw [Option.map_eq_none_iff] at h2 ⊢
    cases hx : phraseLength "USER-DEFINED".toList false 0 x with
    | none => rfl
    | some n => rw [phraseLength_extend y hx] at h2; cases h2

end DryRun.Sql
