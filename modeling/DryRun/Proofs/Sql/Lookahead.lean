import DryRun.Proofs.Text.Classes

/-!
# How far the readers look ahead

Each reader of a lexeme is compared on a text `x` and on the same text with a continuation `y`. A
reader of `x ++ y` that stops within `x` gives what it gives on `x` alone (the `_restrict` lemmas), and
a reader that stops within `x` is not misled by what follows (the `_extend` lemmas), as long as the
continuation does not go on with what `x` ends with. That is what `Apart` says: `y` begins with no
character of an operator or comment mark, and either with one that closes a word or after a character
of `x` that does.
-/

namespace DryRun.Sql

open Text

/-- A character that no operator and no comment mark holds. -/
def isInert (c : Char) : Bool := !breakChars.contains c || c == ')' || c == '\x60'

/-- A blank or a closing parenthesis. -/
def isCloser (c : Char) : Bool := isBlank c || c == ')'

/-- A character that ends a word and goes on with no number and no phrase. -/
def isEdge (c : Char) : Bool := endsWord c && c != '.' && c != '+' && c != '-'

/-- The continuation `y` does not go on with the last lexeme of `x`. -/
structure Apart (x y : Text) : Prop where
  inert : ∀ c, y.head? = some c → isInert c = true
  words : (∀ c, y.head? = some c → isCloser c = true) ∨ ∃ c, x.getLast? = some c ∧ isEdge c = true

theorem isInert_of_isCloser {c : Char} (h : isCloser c = true) : isInert c = true := by
  simp only [isCloser, Bool.or_eq_true, beq_iff_eq] at h
  rcases h with h | rfl
  · exact of_blank (P := fun c => isInert c = true) (by decide) h
  · decide

theorem endsWord_of_isCloser {c : Char} (h : isCloser c = true) : endsWord c = true := by
  simp only [isCloser, Bool.or_eq_true, beq_iff_eq] at h
  rcases h with h | rfl
  · exact endsWord_of_isBlank h
  · decide

/-- A closing continuation is apart from every text. -/
theorem Apart.of_closer {x y : Text} (h : ∀ c, y.head? = some c → isCloser c = true) : Apart x y :=
  ⟨fun c hc => isInert_of_isCloser (h c hc), .inl h⟩

theorem Apart.nil {x : Text} : Apart x [] := .of_closer (by simp)

/-- Being apart is a matter of the last character. -/
theorem Apart.tail {w x y : Text} (h : Apart (w ++ x) y) (hne : x ≠ []) : Apart x y := by
  refine ⟨h.inert, h.words.imp_right ?_⟩
  rintro ⟨c, hc, he⟩
  refine ⟨c, ?_, he⟩
  rw [List.getLast?_append] at hc
  cases hl : x.getLast? with
  | none => exact absurd (List.getLast?_eq_none_iff.1 hl) hne
  | some d =>
    rw [hl] at hc
    exact hc

/-! ## Marks and operators -/

theorem after?_append {lead y : Text} (h : ∀ c, y.head? = some c → c ∉ lead) (x : Text) :
    (after? lead (x ++ y)).isSome = (after? lead x).isSome := by
  induction lead generalizing x with
  | nil => cases x <;> cases y <;> rfl
  | cons c lead ih =>
    cases x with
    | nil =>
      cases y with
      | nil => rfl
      | cons d y =>
        have hd : c ≠ d := fun e => h d rfl (by simp [e])
        simp [after?, hd]
    | cons d x =>
      simp only [List.cons_append, after?]
      split
      · exact ih (fun e he hm => h e he (List.mem_cons_of_mem _ hm)) x
      · rfl

theorem startsWith_append {lead y : Text} (h : ∀ c, y.head? = some c → c ∉ lead) (x : Text) :
    startsWith (x ++ y) lead = startsWith x lead :=
  after?_append h x

/-- The marks that open or close comments. -/
def commentMarks : List Text :=
  ["--".toList, "/*+".toList, "/*".toList, "*/".toList, "\x7b#".toList, "#\x7d".toList]

theorem not_mem_mark {y lead : Text} (hy : ∀ c, y.head? = some c → isInert c = true)
    (hl : lead ∈ commentMarks ++ operators) : ∀ c, y.head? = some c → c ∉ lead := by
  have key : ∀ lead ∈ commentMarks ++ operators, ∀ c ∈ lead, isInert c = false := by decide +kernel
  intro c hc hm
  have := key lead hl c hm
  rw [hy c hc] at this
  cases this

/-- A mark or an operator at the head of `x ++ y` lies in `x`. -/
theorem startsWith_mark {x y m : Text} (hy : ∀ c, y.head? = some c → isInert c = true)
    (hm : m ∈ commentMarks ++ operators) : startsWith (x ++ y) m = startsWith x m :=
  startsWith_append (not_mem_mark hy hm) x

theorem find_operator {x y : Text} (hy : ∀ c, y.head? = some c → isInert c = true) :
    operators.find? (startsWith (x ++ y)) = operators.find? (startsWith x) := by
  have key : ∀ l : List Text, (∀ o ∈ l, o ∈ operators) →
      l.find? (startsWith (x ++ y)) = l.find? (startsWith x) := by
    intro l
    induction l with
    | nil => intro _; rfl
    | cons o l ih =>
      intro hl
      have ho : startsWith (x ++ y) o = startsWith x o :=
        startsWith_mark hy (List.mem_append_right _ (hl o (List.mem_cons_self ..)))
      rw [List.find?_cons, List.find?_cons, ho, ih (fun o ho => hl o (List.mem_cons_of_mem _ ho))]
  exact key operators (fun _ h => h)

theorem startsWith_length {t lead : Text} (h : startsWith t lead = true) : lead.length ≤ t.length := by
  induction lead generalizing t with
  | nil => exact Nat.zero_le _
  | cons c lead ih =>
    cases t with
    | nil => cases h
    | cons d t =>
      simp only [startsWith, after?] at h
      split at h
      · exact Nat.succ_le_succ (ih h)
      · cases h

/-! ## Words -/

theorem takeWhile_closed {y : Text} (h : ∀ c, y.head? = some c → endsWord c = true) :
    wordAhead y = [] := by
  cases y with
  | nil => rfl
  | cons c y => simp [wordAhead, h c rfl]

theorem wordAhead_append {x y : Text} (h : Apart x y) : wordAhead (x ++ y) = wordAhead x := by
  unfold wordAhead
  rw [List.takeWhile_append]
  split
  · rename_i hlen
    rcases h.words with hc | ⟨c, hc, he⟩
    · have := takeWhile_closed (fun c hy => endsWord_of_isCloser (hc c hy))
      rw [wordAhead] at this
      rw [this, List.append_nil]
      have hpre : x.takeWhile (fun c => !endsWord c) <+: x := List.takeWhile_prefix _
      exact (hpre.eq_of_length hlen).symm
    · -- all of `x` would be one word, but its last character ends words
      have hpre : x.takeWhile (fun c => !endsWord c) <+: x := List.takeWhile_prefix _
      have hx := hpre.eq_of_length hlen
      have hm : c ∈ x.takeWhile (fun c => !endsWord c) := by
        rw [hx]; exact List.mem_of_getLast? hc
      have := List.all_eq_true.1 List.all_takeWhile c hm
      simp only [isEdge, Bool.and_eq_true] at he
      rw [he.1.1.1] at this
      cases this
  · rfl

/-! ## Numbers -/

/-- A character with which no number goes on. -/
def endsNumber (c : Char) : Bool :=
  !(isDigit c || startsName c || c == '.' || c == '+' || c == '-')

theorem endsNumber_of_isCloser {c : Char} (h : isCloser c = true) : endsNumber c = true := by
  simp only [isCloser, Bool.or_eq_true, beq_iff_eq] at h
  rcases h with h | rfl
  · exact of_blank (P := fun c => endsNumber c = true) (by decide +kernel) h
  · decide

theorem endsNumber_of_isEdge {c : Char} (h : isEdge c = true) : endsNumber c = true := by
  have key : ∀ c ∈ breakChars, isEdge c = true → endsNumber c = true := by decide +kernel
  cases hb : isBlank c with
  | true => exact endsNumber_of_isCloser (by simp [isCloser, hb])
  | false =>
    have hm : breakChars.contains c = true := by
      simp only [isEdge, endsWord, hb, Bool.false_or, Bool.and_eq_true] at h
      exact h.1.1.1
    exact key c (List.contains_iff_mem.1 hm) h

theorem numberLength_cons (b : Bool) (s : NumberState) (used : Nat) (c : Char) (t : Text) :
    numberLength b s used (c :: t) =
      if isDigit c then numberLength b s (used + 1) t
      else if c == '.' && !s.point && !b then numberLength b { s with point := true } (used + 1) t
      else if (c == '+' || c == '-') && s.exponent && !s.sign && t.head?.any isDigit then
        numberLength b { s with sign := true } (used + 1) t
      else if (c == 'e' || c == 'E') && !s.exponent then
        numberLength b { s with exponent := true } (used + 1) t
      else used :=
  rfl

theorem numberLength_stop {b : Bool} {s : NumberState} {used : Nat} {c : Char} {t : Text}
    (h : endsNumber c = true) : numberLength b s used (c :: t) = used := by
  simp only [endsNumber, Bool.not_eq_true', Bool.or_eq_false_iff] at h
  obtain ⟨⟨⟨⟨h1, hn⟩, h2⟩, h3⟩, h4⟩ := h
  have h5 : (c == 'e') = false := by
    cases he : c == 'e' with
    | false => rfl
    | true => rw [eq_of_beq he] at hn; exact absurd hn (by decide)
  have h6 : (c == 'E') = false := by
    cases he : c == 'E' with
    | false => rfl
    | true => rw [eq_of_beq he] at hn; exact absurd hn (by decide)
  simp only [numberLength_cons, h1, h2, h3, h4, h5, h6, Bool.false_eq_true, if_false, Bool.false_and,
    Bool.or_self]

theorem numberLength_append {b : Bool} {x y : Text} (h : Apart x y) (s : NumberState) (used : Nat) :
    numberLength b s used (x ++ y) = numberLength b s used x := by
  induction x generalizing s used with
  | nil =>
    rcases h.words with hc | ⟨c, hc, -⟩
    · cases y with
      | nil => rfl
      | cons c y => exact numberLength_stop (endsNumber_of_isCloser (hc c rfl))
    · cases hc
  | cons c x ih =>
    by_cases hx : x = []
    · subst hx
      rcases h.words with hc | ⟨d, hd, he⟩
      · have hy : ∀ s used, numberLength b s used y = used := by
          intro s used
          cases y with
          | nil => rfl
          | cons c y => exact numberLength_stop (endsNumber_of_isCloser (hc c rfl))
        have hh : y.head?.any isDigit = false := by
          cases y with
          | nil => rfl
          | cons c y =>
            have := endsNumber_of_isCloser (hc c rfl)
            simp only [endsNumber, Bool.not_eq_true', Bool.or_eq_false_iff] at this
            exact this.1.1.1.1
        simp only [List.cons_append, List.nil_append, numberLength_cons, hy, hh, List.head?_nil,
          Option.any_none]
        rfl
      · have hcd : c = d := by simpa using hd
        subst hcd
        rw [List.cons_append, numberLength_stop (endsNumber_of_isEdge he),
          numberLength_stop (endsNumber_of_isEdge he)]
    · have ih := ih (h.tail (w := [c]) hx)
      have hh : (x ++ y).head? = x.head? := by
        cases x with
        | nil => exact absurd rfl hx
        | cons d x => rfl
      simp only [List.cons_append, numberLength_cons, ih, hh]

/-- A number takes at least one and at most all of the code points. -/
theorem numberLength_le {b : Bool} {t : Text} (s : NumberState) (used : Nat) :
    used ≤ numberLength b s used t ∧ numberLength b s used t ≤ used + t.length := by
  induction t generalizing s used with
  | nil => exact ⟨Nat.le_refl _, Nat.le_refl _⟩
  | cons c t ih =>
    simp only [numberLength_cons, List.length_cons]
    split
    · have := ih s (used + 1); omega
    · split
      · have := ih { s with point := true } (used + 1); omega
      · split
        · have := ih { s with sign := true } (used + 1); omega
        · split
          · have := ih { s with exponent := true } (used + 1); omega
          · omega

theorem numberLength_lt {b : Bool} {x : Text} {c : Char} (hc : x.getLast? = some c)
    (he : isEdge c = true) (s : NumberState) (used : Nat) :
    numberLength b s used x < used + x.length := by
  induction x generalizing s used with
  | nil => cases hc
  | cons d x ih =>
    by_cases hx : x = []
    · subst hx
      have hcd : d = c := by simpa using hc
      subst hcd
      rw [numberLength_stop (endsNumber_of_isEdge he)]
      simp
    · have ih := ih (by rwa [List.getLast?_cons_of_ne_nil hx] at hc)
      simp only [numberLength_cons, List.length_cons]
      split
      · have := ih s (used + 1); omega
      · split
        · have := ih { s with point := true } (used + 1); omega
        · split
          · have := ih { s with sign := true } (used + 1); omega
          · split
            · have := ih { s with exponent := true } (used + 1); omega
            · omega

/-- The three ways to read a number, by its first two characters. -/
theorem readNumber_cons (b : Bool) (c : Char) (t : Text) :
    readNumber b (c :: t) =
      if c = '0' ∧ (t.head? = some 'x' ∨ t.head? = some 'X') then
        if isHexNumber (plainDigits (wordAhead (c :: t))) then
          ([⟨.hexString, (wordAhead (c :: t)).drop 2⟩], (wordAhead (c :: t)).length)
        else ([⟨.quotedName, wordAhead (c :: t)⟩], (wordAhead (c :: t)).length)
      else if c = '0' ∧ (t.head? = some 'b' ∨ t.head? = some 'B') then ([⟨.number, ['0']⟩], 1)
      else readNumber.decimal b (c :: t) t := by
  unfold readNumber
  split
  · rename_i x rest heq
    obtain ⟨rfl, rfl⟩ := List.cons.inj heq
    simp only [List.head?_cons, Option.some.injEq, true_and, Bool.or_eq_true, beq_iff_eq]
  · rename_i hne
    have hc : ∀ d, t.head? = some d → c ≠ '0' := by
      rintro d hd rfl
      cases t with
      | nil => cases hd
      | cons e t => exact hne e t rfl
    rw [if_neg (fun h => h.2.elim (fun e => hc _ e h.1) (fun e => hc _ e h.1)),
      if_neg (fun h => h.2.elim (fun e => hc _ e h.1) (fun e => hc _ e h.1))]
    rfl

theorem decimal_append {b : Bool} {c : Char} {x y : Text} (hd : isDigit c = true)
    (h : Apart (c :: x) y) :
    readNumber.decimal b (c :: x ++ y) (x ++ y) = readNumber.decimal b (c :: x) x := by
  have hx : Apart x y := by
    refine ⟨h.inert, ?_⟩
    rcases h.words with hc | ⟨d, hl, he⟩
    · exact .inl hc
    · by_cases hx : x = []
      · subst hx
        have hcd : c = d := by simpa using hl
        have := endsNumber_of_isEdge he
        rw [← hcd] at this
        simp [endsNumber, hd] at this
      · exact (h.tail (w := [c]) hx).words
  have hle := (numberLength_le (b := b) (t := x) {} 1).2
  have hn := numberLength_append (b := b) hx {} 1
  have hlen : numberLength b {} 1 x ≤ (c :: x).length := by simp only [List.length_cons]; omega
  have hdrop : (c :: x ++ y).drop (numberLength b {} 1 x) =
      (c :: x).drop (numberLength b {} 1 x) ++ y := List.drop_append_of_le_length hlen
  have htake : ∀ m, m ≤ (c :: x).length → (c :: x ++ y).take m = (c :: x).take m :=
    fun m hm => List.take_append_of_le_length hm
  -- what follows the digits begins with a name in both texts or in neither, and then with the same
  have hahead : Apart ((c :: x).drop (numberLength b {} 1 x)) y ∧
      ((c :: x).drop (numberLength b {} 1 x) ++ y).head?.any startsName =
        ((c :: x).drop (numberLength b {} 1 x)).head?.any startsName := by
    by_cases he : (c :: x).drop (numberLength b {} 1 x) = []
    · rw [he]
      rcases hx.words with hc | ⟨d, hl, hed⟩
      · refine ⟨.of_closer hc, ?_⟩
        cases y with
        | nil => rfl
        | cons d y =>
          have := endsNumber_of_isCloser (hc d rfl)
          simp only [endsNumber, Bool.not_eq_true', Bool.or_eq_false_iff] at this
          exact this.1.1.1.2
      · have hlt := numberLength_lt (b := b) hl hed {} 1
        have := List.drop_eq_nil_iff.1 he
        simp only [List.length_cons] at this
        omega
    · refine ⟨?_, ?_⟩
      · have : (c :: x) = (c :: x).take (numberLength b {} 1 x) ++
            (c :: x).drop (numberLength b {} 1 x) := (List.take_append_drop _ _).symm
        rw [this] at h
        exact h.tail he
      · cases hk : (c :: x).drop (numberLength b {} 1 x) with
        | nil => exact absurd hk he
        | cons d t => rfl
  simp only [readNumber.decimal, hn, hdrop, hahead.2, wordAhead_append hahead.1, htake _ hlen]
  have hw : numberLength b {} 1 x + (wordAhead ((c :: x).drop (numberLength b {} 1 x))).length ≤
      (c :: x).length := by
    have : (wordAhead ((c :: x).drop (numberLength b {} 1 x))).length ≤
        ((c :: x).drop (numberLength b {} 1 x)).length := (List.takeWhile_prefix _).length_le
    rw [List.length_drop] at this
    omega
  rw [htake _ hw]

/-- A number is read from `x` alone. -/
theorem readNumber_append {b : Bool} {c : Char} {x y : Text} (hd : isDigit c = true)
    (h : Apart (c :: x) y) : readNumber b (c :: x ++ y) = readNumber b (c :: x) := by
  have hhead : ∀ d, startsName d = true → ((x ++ y).head? = some d ↔ x.head? = some d) := by
    intro d hs
    cases x with
    | cons e x => exact Iff.rfl
    | nil =>
      rcases h.words with hc | ⟨e, hl, he⟩
      · refine ⟨fun hy => ?_, fun hx => by cases hx⟩
        have := endsNumber_of_isCloser (hc d hy)
        simp [endsNumber, hs] at this
      · have hce : c = e := by simpa using hl
        have := endsNumber_of_isEdge he
        rw [← hce] at this
        simp [endsNumber, hd] at this
  rw [List.cons_append, readNumber_cons, readNumber_cons, ← List.cons_append, wordAhead_append h,
    decimal_append hd h]
  simp only [hhead 'x' (by decide), hhead 'X' (by decide), hhead 'b' (by decide),
    hhead 'B' (by decide)]

/-! ## Quoted texts -/

/-- A quoted text after its opening quote: what is read of it behind `content` and the code points taken
behind `used`. -/
inductive Quotes (e : Escaping) (q : Char) : Text → Nat → Text → Text → Nat → Prop
  /-- A backslash writes a control character. -/
  | control {content rest r : Text} {used n : Nat} {d x : Char} (he : e = .backslash)
      (hx : controlEscape? d = some x) (h : Quotes e q (x :: content) (used + 2) rest r n) :
      Quotes e q content used ('\\' :: d :: rest) r n
  /-- A backslash writes the quote. -/
  | escaped {content rest r : Text} {used n : Nat} (he : e = .backslash) (hq : controlEscape? q = none)
      (h : Quotes e q (q :: content) (used + 2) rest r n) : Quotes e q content used ('\\' :: q :: rest) r n
  /-- Two quotes write one. -/
  | doubled {content rest r : Text} {used n : Nat} (he : e = .doubled)
      (h : Quotes e q (q :: content) (used + 2) rest r n) : Quotes e q content used (q :: q :: rest) r n
  /-- A character stands for itself. -/
  | plain {content rest r : Text} {used n : Nat} {c : Char} (hc : c = q → e = .backslash ∧ c = '\\')
      (hback : e = .backslash → c = '\\' → ∃ d, rest.head? = some d ∧ controlEscape? d = none ∧ d ≠ q)
      (h : Quotes e q (c :: content) (used + 1) rest r n) : Quotes e q content used (c :: rest) r n
  /-- A quote closes the text. -/
  | close {content rest : Text} {used : Nat} (hd : e = .doubled → rest.head? ≠ some q)
      (hback : e = .backslash → q = '\\' → rest = []) :
      Quotes e q content used (q :: rest) content.reverse (used + 1)

section Quotes

variable {e : Escaping} {q : Char} {content t x y r : Text} {used n : Nat}

theorem quotes_of_quotedBody (h : quotedBody e q content used t = some (r, n)) : Quotes e q content used t r n := by
  fun_induction quotedBody e q content used t with
  | case1 => cases h
  | case2 content used c d rest hb x hx ih =>
    simp only [Bool.and_eq_true, beq_iff_eq] at hb
    obtain ⟨he, rfl⟩ := hb
    exact .control he hx (ih h)
  | case3 content used c d rest hb hx hd ih =>
    simp only [Bool.and_eq_true, beq_iff_eq] at hb
    obtain ⟨he, rfl⟩ := hb
    obtain rfl := eq_of_beq hd
    exact .escaped he hx (ih h)
  | case4 content used c d rest hb hx hd ih =>
    simp only [Bool.and_eq_true, beq_iff_eq] at hb
    exact .plain (fun _ => hb) (fun _ _ => ⟨d, rfl, hx, by simpa using hd⟩) (ih h)
  | case5 content used c d rest hb hd ih =>
    simp only [Bool.and_eq_true, beq_iff_eq] at hd
    obtain ⟨⟨he, rfl⟩, rfl⟩ := hd
    exact .doubled he (ih h)
  | case6 content used c d rest hb hd hc =>
    cases h
    obtain rfl := eq_of_beq hc
    refine .close (fun he hhead => hd ?_) fun he hq => absurd ?_ hb
    · cases hhead
      simp [he]
    · simp [he, hq]
  | case7 content used c d rest hb hd hc ih =>
    exact .plain (fun heq => absurd heq (by simpa using hc)) (fun he hback => absurd (by simp [he, hback]) hb) (ih h)
  | case8 content used c hc =>
    cases h
    obtain rfl := eq_of_beq hc
    exact .close (fun _ => by simp) fun _ _ => rfl
  | case9 => cases h

theorem Quotes.ne_nil (h : Quotes e q content used t r n) : t ≠ [] := by
  cases h <;> simp

theorem Quotes.quotedBody_eq (h : Quotes e q content used t r n) : quotedBody e q content used t = some (r, n) := by
  induction h with
  | control he hx _ ih =>
    rw [quotedBody, if_pos (by simp [he]), hx]
    exact ih
  | escaped he hq _ ih =>
    rw [quotedBody, if_pos (by simp [he]), hq]
    simpa using ih
  | doubled he _ ih =>
    rw [quotedBody, if_neg (by simp [he]), if_pos (by simp [he])]
    exact ih
  | @plain content rest r used n c hc hback h ih =>
    obtain ⟨d, rest, rfl⟩ := List.exists_cons_of_ne_nil h.ne_nil
    rw [quotedBody]
    by_cases hb : e = .backslash ∧ c = '\\'
    · obtain ⟨d', hd, hx, hne⟩ := hback hb.1 hb.2
      cases hd
      rw [if_pos (by simp [hb]), hx]
      simpa [hne] using ih
    · have hcq : c ≠ q := fun heq => hb (hc heq)
      rw [if_neg (by simpa using hb), if_neg (by simp [hcq]), if_neg (by simpa using hcq)]
      exact ih
  | @close content rest used hd hback =>
    cases rest with
    | nil => simp [quotedBody]
    | cons d rest =>
      have hq : ¬ (e = .backslash ∧ q = '\\') := fun h => by cases hback h.1 h.2
      have hdq : ¬ (e = .doubled ∧ d = q) := fun h => hd h.1 (congrArg some h.2)
      rw [quotedBody, if_neg (by simpa using hq), if_neg (by simpa using hdq), if_pos (beq_self_eq_true q)]

theorem quotedBody_eq_some : quotedBody e q content used t = some (r, n) ↔ Quotes e q content used t r n :=
  ⟨quotes_of_quotedBody, Quotes.quotedBody_eq⟩

theorem Quotes.bounds (h : Quotes e q content used t r n) : used < n ∧ n ≤ used + t.length := by
  induction h with
  | control _ _ _ ih | escaped _ _ _ ih | doubled _ _ ih | plain _ _ _ ih =>
    simp only [List.length_cons]
    omega
  | close =>
    simp only [List.length_cons]
    omega

/-- A quoted text takes at least its closing quote and at most all of the text. -/
theorem quotedBody_bounds (h : quotedBody e q content used t = some (r, n)) :
    used < n ∧ n ≤ used + t.length :=
  (quotedBody_eq_some.1 h).bounds

/-- A quoted text that is closed within `x` is read from `x` alone. -/
theorem quotedBody_restrict (h : quotedBody e q content used (x ++ y) = some (r, n))
    (hn : n ≤ used + x.length) : quotedBody e q content used x = some (r, n) := by
  rw [quotedBody_eq_some] at h ⊢
  generalize ht : x ++ y = t at h
  -- each character that is taken before the quote is one of `x`, since the quote is
  induction h generalizing x with
  | control he hx h ih =>
    have := h.bounds
    match x, ht with
    | [], _ | [_], _ => simp only [List.length_cons, List.length_nil] at hn; omega
    | _ :: _ :: x, ht =>
      obtain ⟨rfl, rfl, rfl⟩ : _ ∧ _ ∧ _ := by simpa using ht
      exact .control he hx (ih (by simp only [List.length_cons] at hn; omega) rfl)
  | escaped he hq h ih =>
    have := h.bounds
    match x, ht with
    | [], _ | [_], _ => simp only [List.length_cons, List.length_nil] at hn; omega
    | _ :: _ :: x, ht =>
      obtain ⟨rfl, rfl, rfl⟩ : _ ∧ _ ∧ _ := by simpa using ht
      exact .escaped he hq (ih (by simp only [List.length_cons] at hn; omega) rfl)
  | doubled he h ih =>
    have := h.bounds
    match x, ht with
    | [], _ | [_], _ => simp only [List.length_cons, List.length_nil] at hn; omega
    | _ :: _ :: x, ht =>
      obtain ⟨rfl, rfl, rfl⟩ : _ ∧ _ ∧ _ := by simpa using ht
      exact .doubled he (ih (by simp only [List.length_cons] at hn; omega) rfl)
  | plain hc hback h ih =>
    have := h.bounds
    match x, ht with
    | [], _ | [_], _ => simp only [List.length_cons, List.length_nil] at hn; omega
    | _ :: d :: x, ht =>
      obtain ⟨rfl, rfl⟩ := List.cons.inj ht
      exact .plain hc hback (ih (by simp only [List.length_cons] at hn ⊢; omega) rfl)
  | close hd hback =>
    match x, ht with
    | [], _ => simp only [List.length_nil] at hn; omega
    | _ :: x, ht =>
      rw [List.cons_append, List.cons.injEq] at ht
      obtain ⟨rfl, rfl⟩ := ht
      refine .close (fun he hhead => hd he ?_) fun he hq => (List.append_eq_nil_iff.1 (hback he hq)).1
      rw [List.head?_append, hhead]
      rfl

/-- A quoted text that is closed in `x` stays closed there, if its quote does not follow. -/
theorem quotedBody_extend (h : quotedBody e q content used x = some (r, n)) (hq : q ≠ '\\')
    (hy : e = .doubled → y.head? ≠ some q) : quotedBody e q content used (x ++ y) = some (r, n) := by
  rw [quotedBody_eq_some] at h ⊢
  induction h with
  | control he hx _ ih => exact .control he hx ih
  | escaped he hnone _ ih => exact .escaped he hnone ih
  | doubled he _ ih => exact .doubled he ih
  | plain hc hback _ ih =>
    rw [List.cons_append]
    refine .plain hc (fun he hb => ?_) ih
    obtain ⟨d, hd, hfacts⟩ := hback he hb
    exact ⟨d, by rw [List.head?_append, hd]; rfl, hfacts⟩
  | @close content rest used hd _ =>
    rw [List.cons_append]
    refine .close (fun he hhead => ?_) fun _ hback => absurd hback hq
    rw [List.head?_append] at hhead
    cases hrest : rest.head? with
    | none => exact hy he (by rwa [hrest, Option.none_or] at hhead)
    | some d => exact hd he (by rwa [hrest, Option.some_or, ← hrest] at hhead)

end Quotes

/-! ## Comments -/

theorem commentMarks_pos : ∀ mark ∈ commentMarks, 0 < mark.length := by decide +kernel

section Comments

variable {x y : Text} (hy : ∀ c, y.head? = some c → isInert c = true)

theorem flatComment_cons (close : Text) (used : Nat) (c : Char) (t : Text) :
    flatComment close used (c :: t) =
      if startsWith (c :: t) close then some (used + close.length) else flatComment close (used + 1) t :=
  rfl

theorem flatComment_bounds {close t : Text} {used n : Nat} (h : flatComment close used t = some n) :
    used + close.length ≤ n ∧ n ≤ used + t.length := by
  induction t generalizing used with
  | nil => cases h
  | cons c t ih =>
    rw [flatComment_cons] at h
    split at h
    · rename_i hs
      have := startsWith_length hs
      simp only [Option.some.injEq] at h
      omega
    · have := ih h
      simp only [List.length_cons]
      omega

include hy in
theorem flatComment_restrict {close : Text} {used n : Nat} (hc : close ∈ commentMarks)
    (h : flatComment close used (x ++ y) = some n) (hn : n ≤ used + x.length) :
    flatComment close used x = some n := by
  have hpos := commentMarks_pos close hc
  induction x generalizing used with
  | nil =>
    have := flatComment_bounds h
    simp only [List.length_nil] at hn
    omega
  | cons c x ih =>
    have hs : startsWith (c :: x ++ y) close = startsWith (c :: x) close :=
      startsWith_mark hy (List.mem_append_left _ hc)
    rw [List.cons_append, flatComment_cons, ← List.cons_append, hs] at h
    rw [flatComment_cons]
    split at h
    · rename_i hs; rw [if_pos hs]; exact h
    · rename_i hs
      rw [if_neg hs]
      exact ih h (by simp only [List.length_cons] at hn; omega)

include hy in
theorem flatComment_extend {close : Text} {used n : Nat} (hc : close ∈ commentMarks)
    (h : flatComment close used x = some n) : flatComment close used (x ++ y) = some n := by
  induction x generalizing used with
  | nil => cases h
  | cons c x ih =>
    have hs : startsWith (c :: x ++ y) close = startsWith (c :: x) close :=
      startsWith_mark hy (List.mem_append_left _ hc)
    rw [List.cons_append, flatComment_cons, ← List.cons_append, hs]
    rw [flatComment_cons] at h
    split at h
    · rename_i hs; rw [if_pos hs]; exact h
    · rename_i hs; rw [if_neg hs]; exact ih h

theorem blockComment_skip (opening close : Text) (depth skip used : Nat) (c : Char) (t : Text) :
    blockComment opening close depth (skip + 1) used (c :: t) =
      blockComment opening close depth skip (used + 1) t :=
  rfl

/-- Between marks, a comment ends or goes on one code point further, in the same comment, the one around it
or an inner one. -/
theorem blockComment_cons (opening close : Text) (depth used : Nat) (c : Char) (t : Text) :
    blockComment opening close depth 0 used (c :: t) =
      if startsWith (c :: t) close && depth ≤ 1 then some (used + close.length)
      else blockComment opening close
        ((if startsWith (c :: t) close then depth - 1 else depth) + if startsWith t opening then 1 else 0)
        (if startsWith t opening then opening.length else 0) (used + 1) t := by
  cases ho : startsWith t opening <;> simp [blockComment, ho]

theorem blockComment_bounds {opening close t : Text} {depth skip used n : Nat}
    (hpos : 0 < close.length)
    (h : blockComment opening close depth skip used t = some n) :
    used < n ∧ n ≤ used + t.length := by
  induction t generalizing depth skip used with
  | nil => cases skip <;> cases h
  | cons c t ih =>
    simp only [List.length_cons]
    cases skip with
    | succ skip =>
      rw [blockComment_skip] at h
      have := ih h
      omega
    | zero =>
      rw [blockComment_cons] at h
      split at h
      · rename_i hs
        simp only [Bool.and_eq_true, decide_eq_true_eq] at hs
        have := startsWith_length hs.1
        simp only [Option.some.injEq, List.length_cons] at h this
        omega
      · have := ih h
        omega

include hy in
theorem blockComment_restrict {opening close : Text} {depth skip used n : Nat}
    (ho : opening ∈ commentMarks) (hc : close ∈ commentMarks)
    (h : blockComment opening close depth skip used (x ++ y) = some n) (hn : n ≤ used + x.length) :
    blockComment opening close depth skip used x = some n := by
  have hpos := commentMarks_pos close hc
  induction x generalizing depth skip used with
  | nil =>
    have := blockComment_bounds hpos h
    simp only [List.length_nil] at hn
    omega
  | cons c x ih =>
    have hs : startsWith (c :: x ++ y) close = startsWith (c :: x) close :=
      startsWith_mark hy (List.mem_append_left _ hc)
    have ht : startsWith (x ++ y) opening = startsWith x opening :=
      startsWith_mark hy (List.mem_append_left _ ho)
    have hn' : n ≤ used + 1 + x.length := by simp only [List.length_cons] at hn; omega
    cases skip with
    | succ skip =>
      rw [List.cons_append, blockComment_skip] at h
      rw [blockComment_skip]
      exact ih h hn'
    | zero =>
      rw [List.cons_append, blockComment_cons, ← List.cons_append, hs, ht] at h
      rw [blockComment_cons]
      split at h
      · rename_i hs; rw [if_pos hs]; exact h
      · rename_i hs; rw [if_neg hs]; exact ih h hn'

include hy in
theorem blockComment_extend {opening close : Text} {depth skip used n : Nat}
    (ho : opening ∈ commentMarks) (hc : close ∈ commentMarks)
    (h : blockComment opening close depth skip used x = some n) :
    blockComment opening close depth skip used (x ++ y) = some n := by
  induction x generalizing depth skip used with
  | nil => cases skip <;> cases h
  | cons c x ih =>
    have hs : startsWith (c :: x ++ y) close = startsWith (c :: x) close :=
      startsWith_mark hy (List.mem_append_left _ hc)
    have ht : startsWith (x ++ y) opening = startsWith x opening :=
      startsWith_mark hy (List.mem_append_left _ ho)
    cases skip with
    | succ skip =>
      rw [blockComment_skip] at h
      rw [List.cons_append, blockComment_skip]
      exact ih h
    | zero =>
      rw [blockComment_cons] at h
      rw [List.cons_append, blockComment_cons, ← List.cons_append, hs, ht]
      split at h
      · rename_i hs; rw [if_pos hs]; exact h
      · rename_i hs; rw [if_neg hs]; exact ih h

theorem lineAhead_restrict (h : (lineAhead (x ++ y)).length ≤ x.length) :
    lineAhead (x ++ y) = lineAhead x := by
  unfold lineAhead at h ⊢
  rw [List.takeWhile_append] at h ⊢
  split at h
  · rename_i hlen
    rw [if_pos hlen]
    rw [List.length_append] at h
    have hy : y.takeWhile (fun c => c != '\n' && c != '\r') = [] :=
      List.eq_nil_of_length_eq_zero (by omega)
    rw [hy, List.append_nil]
    exact ((List.takeWhile_prefix _).eq_of_length hlen).symm
  · rename_i hlen
    rw [if_neg hlen]

theorem lineAhead_extend (h : (lineAhead x).length < x.length) : lineAhead (x ++ y) = lineAhead x := by
  unfold lineAhead at h ⊢
  rw [List.takeWhile_append, if_neg (by omega)]

/-- The four ways in which a comment begins. -/
theorem readComment?_eq (p : Option Lexeme) (t : Text) :
    readComment? p t =
      if startsWith t "--".toList then some (.ok (⟨.comment, lineAhead t⟩, (lineAhead t).length))
      else if startsWith t "/*+".toList then
        some (readComment?.finish t (if p.any Lexeme.takesHint then .hint else .comment)
          (flatComment "*/".toList 3 (t.drop 3)))
      else if startsWith t "/*".toList then
        some (readComment?.finish t .comment
          (blockComment "/*".toList "*/".toList 1 0 2 (t.drop 2)))
      else if startsWith t "\x7b#".toList then
        some (readComment?.finish t .comment
          (blockComment "\x7b#".toList "#\x7d".toList 1 0 2 (t.drop 2)))
      else none := rfl

theorem finish_eq_ok {t : Text} {k : Kind} {o : Option Nat} {l : Lexeme} {n : Nat} :
    readComment?.finish t k o = .ok (l, n) ↔ o = some n ∧ l = ⟨k, t.take n⟩ := by
  cases o with
  | none => simp [readComment?.finish]
  | some m =>
    simp only [readComment?.finish, Except.ok.injEq, Prod.mk.injEq, Option.some.injEq]
    constructor
    · rintro ⟨rfl, rfl⟩; exact ⟨rfl, rfl⟩
    · rintro ⟨rfl, rfl⟩; exact ⟨rfl, rfl⟩

include hy in
/-- Whether a comment begins here is seen in `x`. -/
theorem readComment?_isSome (p : Option Lexeme) :
    (readComment? p (x ++ y)).isSome = (readComment? p x).isSome := by
  have h := fun m hm => startsWith_mark (x := x) (m := m) hy (List.mem_append_left operators hm)
  rw [readComment?_eq, readComment?_eq, h _ (by decide), h _ (by decide), h _ (by decide),
    h _ (by decide)]
  simp only [apply_ite Option.isSome, Option.isSome_some]

include hy in
/-- A comment that ends within `x` is read from `x` alone. -/
theorem readComment?_restrict {p : Option Lexeme} {l : Lexeme} {n : Nat}
    (h : readComment? p (x ++ y) = some (.ok (l, n))) (hn : n ≤ x.length) :
    readComment? p x = some (.ok (l, n)) := by
  have hm := fun m hm => startsWith_mark (x := x) (m := m) hy (List.mem_append_left operators hm)
  have htake : (x ++ y).take n = x.take n := List.take_append_of_le_length hn
  rw [readComment?_eq, hm _ (by decide), hm _ (by decide), hm _ (by decide), hm _ (by decide)] at h
  rw [readComment?_eq]
  split at h
  · rename_i hs
    rw [if_pos hs]
    simp only [Option.some.injEq, Except.ok.injEq, Prod.mk.injEq] at h
    obtain ⟨rfl, rfl⟩ := h
    rw [lineAhead_restrict hn]
  · rename_i hs
    rw [if_neg hs]
    split at h
    · rename_i hs
      rw [if_pos hs]
      have hlen : 3 ≤ x.length := startsWith_length hs
      simp only [Option.some.injEq, finish_eq_ok, htake] at h ⊢
      rw [List.drop_append_of_le_length hlen] at h
      refine ⟨flatComment_restrict hy (by decide) h.1 ?_, h.2⟩
      rw [List.length_drop]
      omega
    · rename_i hs
      rw [if_neg hs]
      split at h
      · rename_i hs
        rw [if_pos hs]
        have hlen : 2 ≤ x.length := startsWith_length hs
        simp only [Option.some.injEq, finish_eq_ok, htake] at h ⊢
        rw [List.drop_append_of_le_length hlen] at h
        refine ⟨blockComment_restrict hy (by decide) (by decide) h.1 ?_, h.2⟩
        rw [List.length_drop]
        omega
      · rename_i hs
        rw [if_neg hs]
        split at h
        · rename_i hs
          rw [if_pos hs]
          have hlen : 2 ≤ x.length := startsWith_length hs
          simp only [Option.some.injEq, finish_eq_ok, htake] at h ⊢
          rw [List.drop_append_of_le_length hlen] at h
          refine ⟨blockComment_restrict hy (by decide) (by decide) h.1 ?_, h.2⟩
          rw [List.length_drop]
          omega
        · cases h

include hy in
/-- A comment of `x` is read from `x ++ y` too, unless it is a line comment that runs to the end. -/
theorem readComment?_extend {p : Option Lexeme} {l : Lexeme} {n : Nat}
    (h : readComment? p x = some (.ok (l, n)))
    (hline : startsWith x "--".toList = true → n < x.length) :
    readComment? p (x ++ y) = some (.ok (l, n)) := by
  have hm := fun m hm => startsWith_mark (x := x) (m := m) hy (List.mem_append_left operators hm)
  rw [readComment?_eq, hm _ (by decide), hm _ (by decide), hm _ (by decide), hm _ (by decide)]
  rw [readComment?_eq] at h
  split at h
  · rename_i hs
    rw [if_pos hs]
    simp only [Option.some.injEq, Except.ok.injEq, Prod.mk.injEq] at h
    obtain ⟨rfl, rfl⟩ := h
    rw [lineAhead_extend (hline hs)]
  · rename_i hs
    rw [if_neg hs]
    split at h
    · rename_i hs
      rw [if_pos hs]
      have hlen : 3 ≤ x.length := startsWith_length hs
      simp only [Option.some.injEq, finish_eq_ok] at h ⊢
      have hn := (flatComment_bounds h.1).2
      rw [List.length_drop] at hn
      rw [List.drop_append_of_le_length hlen, List.take_append_of_le_length (by omega)]
      exact ⟨flatComment_extend hy (by decide) h.1, h.2⟩
    · rename_i hs
      rw [if_neg hs]
      split at h
      · rename_i hs
        rw [if_pos hs]
        have hlen : 2 ≤ x.length := startsWith_length hs
        simp only [Option.some.injEq, finish_eq_ok] at h ⊢
        have hn := (blockComment_bounds (by decide) h.1).2
        rw [List.length_drop] at hn
        rw [List.drop_append_of_le_length hlen, List.take_append_of_le_length (by omega)]
        exact ⟨blockComment_extend hy (by decide) (by decide) h.1, h.2⟩
      · rename_i hs
        rw [if_neg hs]
        split at h
        · rename_i hs
          rw [if_pos hs]
          have hlen : 2 ≤ x.length := startsWith_length hs
          simp only [Option.some.injEq, finish_eq_ok] at h ⊢
          have hn := (blockComment_bounds (by decide) h.1).2
          rw [List.length_drop] at hn
          rw [List.drop_append_of_le_length hlen, List.take_append_of_le_length (by omega)]
          exact ⟨blockComment_extend hy (by decide) (by decide) h.1, h.2⟩
        · cases h

end Comments

end DryRun.Sql
