import DryRun.Proofs.Sql.Shape

/-!
# Reading a part of a text

`Reads y p x L q` says that in front of `y` and after the lexeme `p` the text `x` is read as the lexemes
`L`, and that `q` is then the lexeme before. It is how the scan of a text is taken apart and put
together: `Reads.scan` makes a judgement a part of a scan, `scan_cut` finds one in a scan, and
`Reads.restrict` and `Reads.extend` exchange what follows.
-/

namespace DryRun.Sql

open Text

/-- In front of `y`, the text `x` is read as `L`, comments included and without a command; `p` is the
lexeme before it and `q` the lexeme that later ones see before them. -/
inductive Reads (y : Text) : Option Lexeme → Text → List Lexeme → Option Lexeme → Prop
  | nil {p : Option Lexeme} : Reads y p [] [] p
  | blank {p q : Option Lexeme} {c : Char} {x : Text} {L : List Lexeme} :
      isBlank c = true → Reads y p x L q → Reads y p (c :: x) L q
  | lexeme {p q : Option Lexeme} {c : Char} {u x : Text} {K L : List Lexeme} :
      isBlank c = false → readLexeme p (c :: (u ++ (x ++ y))) = .ok (K, u.length + 1) →
      (startsStatement p && K.any Lexeme.opensCommand) = false →
      Reads y (nextPrevious p K) x L q → Reads y p (c :: (u ++ x)) (K ++ L) q

/-! ## Steps of a scan -/

theorem scanFrom_skip (skip offset : Nat) (p : Option Lexeme) (t : Text) :
    scanFrom skip offset p t = scanFrom 0 (offset + skip) p (t.drop skip) := by
  induction t generalizing skip offset with
  | nil => rw [List.drop_nil]; rfl
  | cons c t ih =>
    cases skip with
    | zero => rfl
    | succ skip =>
      rw [scanFrom, ih, List.drop_succ_cons, Nat.add_right_comm, Nat.add_assoc]

theorem scanFrom_blank {offset : Nat} {p : Option Lexeme} {c : Char} {t : Text}
    (hc : isBlank c = true) : scanFrom 0 offset p (c :: t) = scanFrom 0 (offset + 1) p t := by
  rw [scanFrom, hc]
  rfl

/-- The tokens of the lexemes that stand at `[start, stop)`. -/
def placed (start stop : Nat) (ls : List Lexeme) : List Token := ls.map fun l => ⟨l, start, stop⟩

theorem placed_toLexeme (start stop : Nat) (ls : List Lexeme) :
    (placed start stop ls).map Token.toLexeme = ls := by
  simp [placed, Function.comp_def]

theorem scanFrom_lexeme (o : Nat) {p : Option Lexeme} {c : Char} {u r : Text}
    {ls : List Lexeme} (hc : isBlank c = false)
    (h : readLexeme p (c :: (u ++ r)) = .ok (ls, u.length + 1))
    (hcmd : (startsStatement p && ls.any Lexeme.opensCommand) = false) :
    scanFrom 0 o p (c :: (u ++ r)) =
      (scanFrom 0 (o + (u.length + 1)) (nextPrevious p ls) r).map
        (placed o (o + (u.length + 1)) ls ++ ·) := by
  rw [scanFrom, hc, h]
  simp only [Bool.false_eq_true, if_false, hcmd]
  rw [scanFrom_skip, Nat.add_sub_cancel, List.drop_left, Nat.add_right_comm, Nat.add_assoc]
  cases scanFrom 0 (o + (u.length + 1)) (nextPrevious p ls) r <;> rfl

/-- What is read in front of `y` is the beginning of the scan, and its tokens lie within the text. -/
theorem Reads.scan_within {y x : Text} {p q : Option Lexeme} {L : List Lexeme} (h : Reads y p x L q)
    (offset : Nat) :
    ∃ M, M.map Token.toLexeme = L ∧
      (∀ t ∈ M, offset ≤ t.start ∧ t.start < t.stop ∧ t.stop ≤ offset + x.length) ∧
      scanFrom 0 offset p (x ++ y) = (scanFrom 0 (offset + x.length) q y).map (M ++ ·) := by
  induction h generalizing offset with
  | nil =>
    refine ⟨[], rfl, by simp, ?_⟩
    simp only [List.nil_append, List.length_nil, Nat.add_zero]
    cases scanFrom 0 offset _ y <;> rfl
  | @blank p q c x L hc _ ih =>
    obtain ⟨M, hM, hplace, hs⟩ := ih (offset + 1)
    have hlen : offset + 1 + x.length = offset + (c :: x).length := by rw [List.length_cons]; omega
    rw [hlen] at hplace hs
    refine ⟨M, hM, fun t ht => ?_, by rw [List.cons_append, scanFrom_blank hc, hs]⟩
    have := hplace t ht
    omega
  | @lexeme p q c u x ls L hc hr hcmd _ ih =>
    obtain ⟨M, hM, hplace, hs⟩ := ih (offset + (u.length + 1))
    have hlen : offset + (u.length + 1) + x.length = offset + (c :: (u ++ x)).length := by
      rw [List.length_cons, List.length_append]; omega
    rw [hlen] at hplace hs
    refine ⟨placed offset (offset + (u.length + 1)) ls ++ M, ?_, fun t ht => ?_, ?_⟩
    · rw [List.map_append, placed_toLexeme, hM]
    · rcases List.mem_append.1 ht with ht | ht
      · obtain ⟨l, -, rfl⟩ := List.mem_map.1 ht
        dsimp only
        omega
      · have := hplace t ht
        omega
    · rw [List.cons_append, List.append_assoc, scanFrom_lexeme _ hc hr hcmd, hs]
      cases scanFrom 0 (offset + (c :: (u ++ x)).length) q y with
      | error e => rfl
      | ok R => simp [Except.map]

theorem Reads.scan {y x : Text} {p q : Option Lexeme} {L : List Lexeme} (h : Reads y p x L q)
    (offset : Nat) :
    ∃ M, M.map Token.toLexeme = L ∧
      scanFrom 0 offset p (x ++ y) = (scanFrom 0 (offset + x.length) q y).map (M ++ ·) := by
  obtain ⟨M, hM, -, hs⟩ := h.scan_within offset
  exact ⟨M, hM, hs⟩

/-- The tokens that a scan gives for what is read lie within the text. -/
theorem Reads.places {y x : Text} {p q : Option Lexeme} {P R : List Token} {offset : Nat}
    (h : Reads y p x (P.map Token.toLexeme) q) (hs : scanFrom 0 offset p (x ++ y) = .ok (P ++ R)) :
    ∀ t ∈ P, offset ≤ t.start ∧ t.start < t.stop ∧ t.stop ≤ offset + x.length := by
  obtain ⟨M, hM, hplace, hscan⟩ := h.scan_within offset
  rw [hscan] at hs
  obtain ⟨R', -, hR⟩ := map_eq_ok.1 hs
  have hMP : M = P := (List.append_inj hR (by simpa using congrArg List.length hM)).1
  rwa [← hMP]

theorem Reads.append {x₁ x₂ y : Text} {p q r : Option Lexeme} {L₁ L₂ : List Lexeme}
    (h₁ : Reads (x₂ ++ y) p x₁ L₁ q) (h₂ : Reads y q x₂ L₂ r) :
    Reads y p (x₁ ++ x₂) (L₁ ++ L₂) r := by
  induction h₁ with
  | nil => exact h₂
  | blank hc _ ih => exact .blank hc (ih h₂)
  | lexeme hc hr hcmd _ ih =>
    rw [List.cons_append, List.append_assoc, List.append_assoc]
    exact .lexeme hc (by rwa [List.append_assoc]) hcmd (ih h₂)

theorem Reads.eq_nil {y : Text} {p q : Option Lexeme} {L : List Lexeme} (h : Reads y p [] L q) :
    L = [] ∧ q = p := by
  cases h
  exact ⟨rfl, rfl⟩

/-- A word that no phrase or number begins with and that opens no command. -/
def isPlainWord : Text → Bool
  | c :: d :: u => (c :: d :: u).all (!endsWord ·) && !isDigit c && noPhrase c d &&
      !(⟨.word, c :: d :: u⟩ : Lexeme).opensCommand
  | _ => false

theorem wordAhead_of_all {w y : Text} (hw : w.all (!endsWord ·) = true) :
    wordAhead (w ++ y) = w ++ wordAhead y :=
  List.takeWhile_append_of_pos (List.all_eq_true.1 hw)

/-- A plain word is read up to its end. -/
theorem readLexeme_plainWord {w z : Text} {p : Option Lexeme} (hw : isPlainWord w = true)
    (hp : p.any Lexeme.isSigil = false) (hz : z.head?.all endsWord = true) :
    ∃ c u, w = c :: u ∧ isBlank c = false ∧ (⟨.word, w⟩ : Lexeme).opensCommand = false ∧
      readLexeme p (c :: (u ++ z)) = .ok ([⟨.word, w⟩], u.length + 1) := by
  match w, hw with
  | c :: d :: u, hw =>
    simp only [isPlainWord, Bool.and_eq_true, Bool.not_eq_true'] at hw
    obtain ⟨⟨⟨hall, hdigit⟩, hphrase⟩, hcmd⟩ := hw
    have hall' := List.all_eq_true.1 hall
    have hc : endsWord c = false := by simpa using hall' c (by simp)
    have hd : endsWord d = false := by simpa using hall' d (by simp)
    have hend : wordAhead z = [] := by
      refine takeWhile_closed fun e he => ?_
      rw [he] at hz
      exact hz
    have hr := readLexeme_of_word (p := p) (t := u ++ z) hc hd hdigit hphrase
    have hwa : wordAhead (c :: d :: (u ++ z)) = c :: d :: u := by
      have := wordAhead_of_all (y := z) hall
      rwa [hend, List.append_nil] at this
    rw [hwa, hp] at hr
    simp only [endsWord, Bool.or_eq_false_iff] at hc
    exact ⟨c, d :: u, rfl, hc.1, hcmd, hr⟩

theorem Reads.word {y w x : Text} {p q : Option Lexeme} {L : List Lexeme} (hw : isPlainWord w = true)
    (hp : p.any Lexeme.isSigil = false) (hx : (x ++ y).head?.all endsWord = true)
    (h : Reads y (some ⟨.word, w⟩) x L q) : Reads y p (w ++ x) (⟨.word, w⟩ :: L) q := by
  obtain ⟨c, u, rfl, hc, hcmd, hr⟩ := readLexeme_plainWord hw hp hx
  exact .lexeme (K := [⟨.word, c :: u⟩]) hc hr (by simp [hcmd]) h

theorem scanFrom_word {w z : Text} {p : Option Lexeme} (hw : isPlainWord w = true)
    (hp : p.any Lexeme.isSigil = false) (hz : z.head?.all endsWord = true) (o : Nat) :
    scanFrom 0 o p (w ++ z) = (scanFrom 0 (o + w.length) (some ⟨.word, w⟩) z).map
      (⟨⟨.word, w⟩, o, o + w.length⟩ :: ·) := by
  obtain ⟨c, u, rfl, hc, hcmd, hr⟩ := readLexeme_plainWord hw hp hz
  exact scanFrom_lexeme o hc hr (by simp [hcmd])

/-- A sign is read alone, is no comment and opens no command. -/
theorem sign_facts : ∀ c ∈ signChars, isBlank c = false ∧
    (⟨signKind c, [c]⟩ : Lexeme).opensCommand = false ∧ (signKind c == .comment) = false := by decide +kernel

theorem Reads.sign {y x : Text} {c : Char} {p q : Option Lexeme} {L : List Lexeme} (hc : c ∈ signChars)
    (h : Reads y (some ⟨signKind c, [c]⟩) x L q) : Reads y p (c :: x) (⟨signKind c, [c]⟩ :: L) q := by
  obtain ⟨h1, h2, h3⟩ := sign_facts c hc
  refine .lexeme (u := []) (K := [⟨signKind c, [c]⟩]) h1 (readLexeme_of_sign _ hc) (by simp [h2]) ?_
  simpa [nextPrevious, h3] using h

theorem scanFrom_sign {c : Char} (hc : c ∈ signChars) (o : Nat) (p : Option Lexeme) (z : Text) :
    scanFrom 0 o p (c :: z) = (scanFrom 0 (o + 1) (some ⟨signKind c, [c]⟩) z).map
      (⟨⟨signKind c, [c]⟩, o, o + 1⟩ :: ·) := by
  obtain ⟨h1, h2, h3⟩ := sign_facts c hc
  have hs := scanFrom_lexeme o (p := p) (u := []) (r := z) h1 (readLexeme_of_sign _ hc) (by simp [h2])
  simpa [nextPrevious, h3, placed] using hs

theorem Reads.quote {y x n : Text} {p q : Option Lexeme} {L : List Lexeme}
    (hx : (x ++ y).head? ≠ some '\x60') (h : Reads y (some ⟨.quotedName, n⟩) x L q) :
    Reads y p (TableRef.quote n ++ x) (⟨.quotedName, n⟩ :: L) q := by
  have hr := readLexeme_quote (p := p) (n := n) hx
  have hq : TableRef.quote n = '\x60' :: (doubled n ++ ['\x60']) := rfl
  rw [hq, List.cons_append, List.length_cons] at hr
  exact .lexeme (by decide) hr (by simp [Lexeme.opensCommand]) h

/-- The scan of a text that is read to its end. -/
theorem scan_of_reads {t : Text} {p q : Option Lexeme} {L : List Lexeme} (h : Reads [] p t L q)
    (o : Nat) : ∃ M : List Token, M.map Token.toLexeme = L ∧ scanFrom 0 o p t = .ok M := by
  obtain ⟨M, hM, hs⟩ := h.scan o
  rw [List.append_nil] at hs
  exact ⟨M, hM, by rw [hs]; simp [scanFrom, Except.map]⟩

/-- The scan of a text with a name in back-ticks. -/
theorem scan_quote {x n z : Text} {q₁ q₃ : Option Lexeme} {L₁ L₃ : List Lexeme}
    (h₁ : Reads (TableRef.quote n ++ z) none x L₁ q₁) (hz : z.head? ≠ some '\x60')
    (h₃ : Reads [] (some ⟨.quotedName, n⟩) z L₃ q₃) :
    ∃ M₁ M₃ : List Token, M₁.map Token.toLexeme = L₁ ∧ M₃.map Token.toLexeme = L₃ ∧
      Sql.scan (x ++ (TableRef.quote n ++ z)) =
        .ok (M₁ ++ ⟨⟨.quotedName, n⟩, x.length, x.length + (TableRef.quote n).length⟩ :: M₃) := by
  have hq : TableRef.quote n = '\x60' :: (doubled n ++ ['\x60']) := rfl
  have hr := readLexeme_quote (p := q₁) (n := n) hz
  rw [hq, List.length_cons, List.cons_append] at hr
  obtain ⟨M₁, hM₁, hs₁⟩ := h₁.scan 0
  obtain ⟨M₃, hM₃, hs₃⟩ := scan_of_reads h₃ (x.length + (TableRef.quote n).length)
  have hname := scanFrom_lexeme x.length (by decide) hr (by simp [Lexeme.opensCommand])
  refine ⟨M₁, M₃, hM₁, hM₃, ?_⟩
  rw [hq, List.length_cons] at hs₃
  rw [Sql.scan, hs₁, Nat.zero_add, hq, List.cons_append, hname]
  change Except.map _ (Except.map _ (scanFrom 0 _ (some ⟨.quotedName, n⟩) z)) = _
  rw [hs₃]
  rfl

/-- The scan of a text with one pair of parentheses that are read as such. -/
theorem scan_parens {x y z : Text} {q₁ q₂ q₃ : Option Lexeme} {L₁ L₂ L₃ : List Lexeme}
    (h₁ : Reads ('(' :: (y ++ ')' :: z)) none x L₁ q₁)
    (h₂ : Reads (')' :: z) (some ⟨.leftParen, ['(']⟩) y L₂ q₂)
    (h₃ : Reads [] (some ⟨.rightParen, [')']⟩) z L₃ q₃) :
    ∃ M₁ M₂ M₃ : List Token, M₁.map Token.toLexeme = L₁ ∧ M₂.map Token.toLexeme = L₂ ∧
      M₃.map Token.toLexeme = L₃ ∧
      Sql.scan (x ++ '(' :: (y ++ ')' :: z)) =
        .ok (M₁ ++ ⟨⟨.leftParen, ['(']⟩, x.length, x.length + 1⟩ ::
          (M₂ ++ ⟨⟨.rightParen, [')']⟩, x.length + 1 + y.length, x.length + 1 + y.length + 1⟩ :: M₃)) := by
  obtain ⟨M₁, hM₁, hs₁⟩ := h₁.scan 0
  obtain ⟨M₂, hM₂, hs₂⟩ := h₂.scan (x.length + 1)
  obtain ⟨M₃, hM₃, hs₃⟩ := scan_of_reads h₃ (x.length + 1 + y.length + 1)
  have hopen := scanFrom_sign (c := '(') (by decide) x.length q₁ (y ++ ')' :: z)
  have hclose := scanFrom_sign (c := ')') (by decide) (x.length + 1 + y.length) q₂ z
  refine ⟨M₁, M₂, M₃, hM₁, hM₂, hM₃, ?_⟩
  rw [Nat.zero_add] at hs₁
  rw [Sql.scan, hs₁, hopen]
  change Except.map _ (Except.map _ (scanFrom 0 (x.length + 1) (some ⟨.leftParen, ['(']⟩) (y ++ ')' :: z))) = _
  rw [hs₂, hclose]
  change Except.map _ (Except.map _ (Except.map _ (Except.map _
    (scanFrom 0 (x.length + 1 + y.length + 1) (some ⟨.rightParen, [')']⟩) z)))) = _
  rw [hs₃]
  simp [Except.map, signKind]

/-! ## Exchanging what follows -/

/-- A line comment. -/
def Lexeme.isLineComment (l : Lexeme) : Bool := l.kind == .comment && startsWith l.text "--".toList

theorem readLexeme_line {p : Option Lexeme} {t : Text} (h : startsWith t "--".toList = true) :
    readLexeme p t = .ok ([⟨.comment, lineAhead t⟩], (lineAhead t).length) := by
  obtain ⟨r, rfl⟩ := startsWith_iff.1 h
  change readLexeme p ('-' :: ('-' :: r)) = _
  rw [readLexeme_cons, if_neg (by decide), if_neg (by decide), readPlain_eq, readComment?_eq]
  rfl

theorem isLineComment_lineAhead {t : Text} (h : startsWith t "--".toList = true) :
    (⟨.comment, lineAhead t⟩ : Lexeme).isLineComment = true := by
  obtain ⟨r, rfl⟩ := startsWith_iff.1 h
  rfl

/-- What is read within `x` in front of `z ++ y` is read in front of `z`. -/
theorem Reads.restrict {x y z : Text} {p q : Option Lexeme} {L : List Lexeme}
    (h : Reads (z ++ y) p x L q) (ha : x ++ z ≠ [] → Apart (x ++ z) y) : Reads z p x L q := by
  induction h with
  | nil => exact .nil
  | @blank p q c x L hc _ ih =>
    exact .blank hc (ih fun hne => (ha (by simp)).tail (w := [c]) hne)
  | @lexeme p q c u x ls L hc hr hcmd _ ih =>
    have ha := ha (by simp)
    rw [List.cons_append, List.append_assoc] at ha
    refine .lexeme hc (readLexeme_restrict ha ?_ ?_) hcmd
      (ih fun hne => ha.tail (w := c :: u) hne)
    · rwa [List.cons_append, List.append_assoc, List.append_assoc]
    · rw [List.length_append]
      omega

/-- What is read in front of `z` is read in front of `z ++ y`, unless it ends in a line comment that
goes on there. -/
theorem Reads.extend {x y z : Text} {p q : Option Lexeme} {L : List Lexeme}
    (h : Reads z p x L q) (hs : x ++ z ≠ [] → Sealed (x ++ z) y)
    (hline : z = [] → L.getLast?.any Lexeme.isLineComment = false) : Reads (z ++ y) p x L q := by
  induction h with
  | nil => exact .nil
  | @blank p q c x L hc _ ih =>
    exact .blank hc (ih (fun hne => (hs (by simp)).tail (w := [c]) hne) hline)
  | @lexeme p q c u x ls L hc hr hcmd hx ih =>
    have hs := hs (by simp)
    rw [List.cons_append, List.append_assoc] at hs
    have hlast : z = [] → L.getLast?.any Lexeme.isLineComment = false := by
      intro hz
      have := hline hz
      rw [List.getLast?_append] at this
      cases hl : L.getLast? with
      | none => rfl
      | some l => rwa [hl, Option.some_or] at this
    refine .lexeme hc ?_ hcmd (ih (fun hne => hs.tail (w := c :: u) hne) hlast)
    have hr' := readLexeme_extend hs hr ?_
    · rwa [List.cons_append, List.append_assoc, List.append_assoc] at hr'
    · intro hd
      rw [List.length_append]
      have hne : x ++ z ≠ [] := by
        intro hnil
        obtain ⟨rfl, rfl⟩ := List.append_eq_nil_iff.1 hnil
        rw [readLexeme_line hd] at hr
        obtain ⟨rfl, -⟩ := Prod.mk.inj (Except.ok.inj hr)
        have := hline rfl
        rw [hx.eq_nil.1, List.append_nil, List.getLast?_singleton, Option.any_some,
          isLineComment_lineAhead hd] at this
        cases this
      have := List.length_pos_iff.2 hne
      omega

/-! ## Taking a scan apart -/

/-- A command's text ends at the end or before a separator. -/
theorem commandLength_stop {skip used m : Nat} {p : Option Lexeme} {t : Text}
    (h : commandLength skip p used t = .ok m) :
    ∃ k, m = used + k ∧ ∀ c, (t.drop k).head? = some c → c = ';' := by
  induction t generalizing skip used p with
  | nil =>
    cases h
    exact ⟨0, rfl, by simp⟩
  | cons c t ih =>
    have step : ∀ {skip p}, commandLength skip p (used + 1) t = .ok m →
        ∃ k, m = used + k ∧ ∀ d, ((c :: t).drop k).head? = some d → d = ';' := by
      intro skip p h
      obtain ⟨k, rfl, hk⟩ := ih h
      exact ⟨k + 1, by omega, hk⟩
    cases skip with
    | succ skip => exact step h
    | zero =>
      rw [commandLength] at h
      split at h
      · rename_i hc
        cases h
        exact ⟨0, rfl, fun d hd => by rw [← eq_of_beq hc]; simpa using hd.symm⟩
      · split at h
        · exact step h
        · split at h
          · cases h
          · exact step h

theorem mem_commandText {t : Text} {start : Nat} {s : Token} (h : s ∈ commandText t start) :
    s.kind = .string := by
  unfold commandText at h
  dsimp only at h
  split at h
  · cases h
  · rw [List.mem_singleton.1 h]

/-- The scan of a text that begins with a separator begins with one. -/
theorem scanFrom_semicolon {offset : Nat} {p : Option Lexeme} {t : Text} {R : List Token}
    (ht : ∀ c, t.head? = some c → c = ';') (h : scanFrom 0 offset p t = .ok R) :
    ∀ s, R.head? = some s → s.toLexeme = ⟨.semicolon, [';']⟩ := by
  cases t with
  | nil => cases h; simp
  | cons c t =>
    have hc := ht c rfl
    subst hc
    rw [scanFrom_sign (by decide)] at h
    obtain ⟨R', -, rfl⟩ := map_eq_ok.1 h
    rintro s hs
    cases hs
    rfl

/-- The ways in which a scan goes on: at the end, past a blank, past the lexemes of one reading, or past
a command up to its end or a separator. -/
theorem scanFrom_cases {offset : Nat} {p : Option Lexeme} {t : Text} {R : List Token}
    (h : scanFrom 0 offset p t = .ok R) :
    (t = [] ∧ R = []) ∨
    (∃ c r, t = c :: r ∧ isBlank c = true ∧ scanFrom 0 (offset + 1) p r = .ok R) ∨
    ∃ c u r ls R', t = c :: (u ++ r) ∧ isBlank c = false ∧
      readLexeme p (c :: (u ++ r)) = .ok (ls, u.length + 1) ∧
      R = placed offset (offset + (u.length + 1)) ls ++ R' ∧
      ((startsStatement p && ls.any Lexeme.opensCommand) = false ∧
        scanFrom 0 (offset + (u.length + 1)) (nextPrevious p ls) r = .ok R' ∨
      ls.any Lexeme.opensCommand = true ∧
        ∃ S R'' offset' q r', R' = S ++ R'' ∧ (∀ s ∈ S, s.kind = .string) ∧
        (∀ s, R''.head? = some s → s.toLexeme = ⟨.semicolon, [';']⟩) ∧ r'.length ≤ r.length ∧
        scanFrom 0 offset' q r' = .ok R'') := by
  cases t with
  | nil => cases h; exact .inl ⟨rfl, rfl⟩
  | cons c t =>
    right
    cases hb : isBlank c with
    | true =>
      rw [scanFrom_blank hb] at h
      exact .inl ⟨c, t, rfl, hb, h⟩
    | false =>
      right
      cases hr : readLexeme p (c :: t) with
      | error e =>
        rw [scanFrom, hb, hr] at h
        cases h
      | ok r =>
        obtain ⟨ls, n⟩ := r
        obtain ⟨⟨hpos, hle⟩, -⟩ := readLexeme_end hb hr
        obtain ⟨m, rfl⟩ : ∃ m, n = m + 1 := ⟨n - 1, by omega⟩
        have hlen : (t.take m).length = m := List.length_take_of_le (by omega)
        refine ⟨c, t.take m, t.drop m, ls, ?_⟩
        rw [hlen, List.take_append_drop]
        cases hcmd : startsStatement p && ls.any Lexeme.opensCommand with
        | false =>
          have hr' : readLexeme p (c :: (t.take m ++ t.drop m)) = .ok (ls, (t.take m).length + 1) := by
            rwa [List.take_append_drop, hlen]
          have hs := scanFrom_lexeme offset hb hr' hcmd
          rw [List.take_append_drop, hlen] at hs
          rw [hs] at h
          obtain ⟨R', hR, rfl⟩ := map_eq_ok.1 h
          exact ⟨R', rfl, hb, hr, rfl, .inl ⟨rfl, hR⟩⟩
        | true =>
          rw [scanFrom, hb, hr] at h
          simp only [Bool.false_eq_true, if_false, hcmd, if_true, List.drop_succ_cons] at h
          split at h
          · cases h
          · rename_i k hk
            obtain ⟨k', rfl, hk'⟩ := commandLength_stop hk
            split at h
            · cases h
            · rename_i R'' hR
              cases h
              rw [scanFrom_skip] at hR
              have hdrop : t.drop (m + 1 + (0 + k') - 1) = (t.drop m).drop k' := by
                rw [List.drop_drop]
                congr 1
                omega
              rw [hdrop] at hR
              refine ⟨_, rfl, hb, hr, by rw [List.append_assoc]; rfl,
                .inr ⟨(Bool.and_eq_true_iff.1 hcmd).2, _, R'', _, _, _, rfl, fun s hs => mem_commandText hs,
                  scanFrom_semicolon hk' hR, ?_, hR⟩⟩
              rw [List.length_drop]
              omega

/-- A lexeme that does not begin its reading is `::` or the type suffix after it. -/
theorem group_first {p : Option Lexeme} {c : Char} {t : Text} {A B : List Lexeme} {l : Lexeme}
    {n : Nat} (h : readLexeme p (c :: t) = .ok (A ++ l :: B, n)) (hA : A ≠ []) :
    l = ⟨.symbol, "::".toList⟩ ∨ l.kind = .suffix ∧ A.getLast? = some ⟨.symbol, "::".toList⟩ := by
  rcases readLexeme_group h with ⟨l', hls, -⟩ | ⟨a, s, hls⟩
  · cases A with
    | nil => exact absurd rfl hA
    | cons a A => simp at hls
  · match A, hA with
    | [a], _ => simp at hls; exact .inl hls.2.1
    | [a, b], _ => simp at hls; exact .inr ⟨by rw [hls.2.2.1], by simp [hls.2.1]⟩
    | a :: b :: c :: A, _ => simp at hls

theorem placed_split {start stop : Nat} {ls : List Lexeme} {A B : List Token} {b : Token}
    (h : placed start stop ls = A ++ b :: B) :
    b.start = start ∧ ls = A.map Token.toLexeme ++ b.toLexeme :: B.map Token.toLexeme := by
  have hls := congrArg (List.map Token.toLexeme) h
  rw [placed_toLexeme, List.map_append, List.map_cons] at hls
  refine ⟨?_, hls⟩
  have hb : b ∈ placed start stop ls := by rw [h]; simp
  obtain ⟨l, -, rfl⟩ := List.mem_map.1 hb
  rfl

/-- A token of a list of two parts lies in the first, or the first part stands before it. -/
theorem append_eq_append_cons {α : Type} {P R A B : List α} {b : α} (h : P ++ R = A ++ b :: B) :
    (∃ C, P = A ++ b :: C ∧ B = C ++ R) ∨ ∃ C, A = P ++ C ∧ R = C ++ b :: B := by
  rcases List.append_eq_append_iff.1 h with ⟨C, rfl, rfl⟩ | ⟨C, rfl, hb⟩
  · exact .inr ⟨C, rfl, rfl⟩
  · cases C with
    | nil => exact .inr ⟨[], by simp, by simpa using hb.symm⟩
    | cons c C =>
      obtain ⟨rfl, rfl⟩ := List.cons.inj hb
      exact .inl ⟨C, rfl, rfl⟩

/-- A token that begins a reading and is no separator, in front of which no separator stands, cuts the
text: what is before it is read without a command. -/
theorem scan_cut {offset : Nat} {p : Option Lexeme} {t : Text} {M B : List Token} {b : Token}
    (h : scanFrom 0 offset p t = .ok (M ++ b :: B)) (hsep : ∀ s ∈ M ++ [b], s.kind ≠ .semicolon)
    (hstring : b.kind ≠ .string) (hcast : b.toLexeme ≠ ⟨.symbol, "::".toList⟩)
    (hsuffix : b.kind = .suffix → (M.map Token.toLexeme).getLast? ≠ some ⟨.symbol, "::".toList⟩) :
    ∃ x y q, t = x ++ y ∧ Reads y p x (M.map Token.toLexeme) q ∧ b.start = offset + x.length ∧
      scanFrom 0 b.start q y = .ok (b :: B) ∧ ∀ c, y.head? = some c → isBlank c = false := by
  induction hn : t.length using Nat.strongRecOn generalizing offset p t M with
  | _ n ih =>
    subst hn
    rcases scanFrom_cases h with ⟨-, hnil⟩ | ⟨c, r, rfl, hb, hs⟩ | ⟨c, u, r, ls, R', rfl, hb, hr, hR, hrest⟩
    · simp at hnil
    · obtain ⟨x, y, q, rfl, hx, hst, hsc, hy⟩ := ih r.length (by simp) hs hsep hsuffix rfl
      refine ⟨c :: x, y, q, rfl, .blank hb hx, ?_, hsc, hy⟩
      rw [hst, List.length_cons]
      omega
    · rcases append_eq_append_cons hR.symm with ⟨C, hP, rfl⟩ | ⟨C, rfl, rfl⟩
      · -- the token is among the lexemes of this reading, so it is the first of them
        obtain ⟨hst, hls⟩ := placed_split hP
        by_cases hM : M = []
        · subst hM
          refine ⟨[], c :: (u ++ r), p, rfl, .nil, hst, ?_, ?_⟩
          · rw [hst]; exact h
          · intro d hd; cases hd; exact hb
        · rw [hls] at hr
          rcases group_first hr (by simpa using hM) with hk | ⟨hk, hl⟩
          · exact absurd hk hcast
          · exact absurd hl (hsuffix hk)
      · rcases hrest with ⟨hcmd, hs⟩ | ⟨-, S, R'', offset', q, r', hS, hstr, hsemi, -, -⟩
        · have hlast : b.kind = .suffix →
              (C.map Token.toLexeme).getLast? ≠ some ⟨.symbol, "::".toList⟩ := by
            intro hk hl
            refine hsuffix hk ?_
            rw [List.map_append, List.getLast?_append, hl, Option.some_or]
          obtain ⟨x, y, q, rfl, hx, hst, hsc, hy⟩ := ih r.length
            (by rw [List.length_cons, List.length_append]; omega) hs
            (fun s hm => hsep s (by rw [List.append_assoc]; exact List.mem_append_right _ hm)) hlast rfl
          refine ⟨c :: (u ++ x), y, q, by simp, ?_, ?_, hsc, hy⟩
          · rw [List.map_append, placed_toLexeme]
            exact .lexeme hb hr hcmd hx
          · rw [hst, List.length_cons, List.length_append]
            omega
        · -- a command runs to the end or to a separator
          exfalso
          rcases append_eq_append_cons hS.symm with ⟨D, hD, -⟩ | ⟨D, rfl, rfl⟩
          · exact hstring (hstr b (by rw [hD]; simp))
          · cases D with
            | nil => exact hsep b (by simp) (by rw [hsemi b rfl])
            | cons d D => exact hsep d (by simp) (by rw [hsemi d rfl])

/-- The lexeme at the head of a text is the first token of its scan. -/
theorem scan_head {o n : Nat} {p : Option Lexeme} {c : Char} {t : Text} {l : Lexeme} {R : List Token}
    (h : scanFrom 0 o p (c :: t) = .ok R) (hc : isBlank c = false)
    (hr : readLexeme p (c :: t) = .ok ([l], n)) : ∃ s R', R = s :: R' ∧ s.toLexeme = l := by
  rcases scanFrom_cases h with ⟨hnil, -⟩ | ⟨d, r, ht, hd, -⟩ | ⟨d, u, r, ls, R', ht, -, hr', hR, -⟩
  · cases hnil
  · rw [← (List.cons.inj ht).1, hc] at hd
    cases hd
  · rw [← ht, hr] at hr'
    obtain ⟨rfl, -⟩ := Prod.mk.inj (Except.ok.inj hr')
    exact ⟨_, _, hR, rfl⟩

/-- A sign at the head of a scan is the first character of the text. -/
theorem scan_sign {o : Nat} {q : Option Lexeme} {y : Text} {b : Token} {B : List Token}
    (h : scanFrom 0 o q y = .ok (b :: B)) (hy : ∀ c, y.head? = some c → isBlank c = false)
    (hb : b.kind.isSign = true) :
    ∃ c r, y = c :: r ∧ b = ⟨⟨signKind c, [c]⟩, o, o + 1⟩ ∧
      scanFrom 0 (o + 1) (some ⟨signKind c, [c]⟩) r = .ok B := by
  rcases scanFrom_cases h with ⟨-, hnil⟩ | ⟨c, r, rfl, hc, -⟩ | ⟨c, u, r, ls, R', rfl, -, hr, hR, hrest⟩
  · cases hnil
  · rw [hy c rfl] at hc
    cases hc
  · have hls : ls ≠ [] := by
      rcases readLexeme_group hr with ⟨l, rfl, -⟩ | ⟨a, s, rfl⟩ <;> simp
    obtain ⟨l, ls, rfl⟩ := List.exists_cons_of_ne_nil hls
    obtain ⟨rfl, rfl⟩ := List.cons.inj hR
    obtain ⟨hls, hn⟩ := readLexeme_sign hr (List.mem_cons_self ..) hb
    obtain ⟨rfl, rfl⟩ := List.cons.inj hls
    have hu : u = [] := List.eq_nil_of_length_eq_zero (by omega)
    subst hu
    refine ⟨c, r, rfl, rfl, ?_⟩
    have hk : ∀ k : Kind, k.isSign = true → (k == .comment) = false ∧ (k == .word) = false ∧
        (k == .phrase) = false := by
      intro k; cases k <;> decide
    obtain ⟨h1, h2, h3⟩ := hk _ hb
    rcases hrest with ⟨-, hs⟩ | ⟨hcmd, -⟩
    · simpa [nextPrevious, h1, placed] using hs
    · simp [Lexeme.opensCommand, h2, h3] at hcmd

theorem Reads.of_blank {y w : Text} {p q : Option Lexeme} {L : List Lexeme} (h : Reads y p w L q)
    (hw : ∀ c ∈ w, isBlank c = true) : L = [] ∧ q = p := by
  induction h with
  | nil => exact ⟨rfl, rfl⟩
  | blank _ _ ih => exact ih fun c hc => hw c (List.mem_cons_of_mem _ hc)
  | lexeme hc =>
    rw [hw _ (List.mem_cons_self ..)] at hc
    cases hc

/-- The kind of a parenthesis says which one it is. -/
theorem eq_leftParen {c : Char} (h : signKind c = .leftParen) : c = '(' := by
  unfold signKind at h
  split at h
  · rename_i hc; exact eq_of_beq hc
  · repeat' split at h
    all_goals cases h

theorem eq_rightParen {c : Char} (h : signKind c = .rightParen) : c = ')' := by
  unfold signKind at h
  split at h
  · cases h
  · split at h
    · rename_i hc; exact eq_of_beq hc
    · repeat' split at h
      all_goals cases h

/-- What holds of every lexeme read and of strings holds of all tokens of a scan. -/
theorem scan_forall {P : Lexeme → Prop}
    (hread : ∀ {p c t ls n}, isBlank c = false → readLexeme p (c :: t) = .ok (ls, n) → ∀ l ∈ ls, P l)
    (hstring : ∀ l, l.kind = .string → P l) {o : Nat} {p : Option Lexeme} {t : Text}
    {R : List Token} (h : scanFrom 0 o p t = .ok R) : ∀ s ∈ R, P s.toLexeme := by
  have hplaced : ∀ {p c t ls n i j}, isBlank c = false → readLexeme p (c :: t) = .ok (ls, n) →
      ∀ s ∈ placed i j ls, P s.toLexeme := by
    intro p c t ls n i j hb hr s hs
    obtain ⟨l, hl, rfl⟩ := List.mem_map.1 hs
    exact hread hb hr l hl
  induction hn : t.length using Nat.strongRecOn generalizing o p t R with
  | _ n ih =>
    subst hn
    rcases scanFrom_cases h with ⟨-, rfl⟩ | ⟨c, r, rfl, -, hs⟩ | ⟨c, u, r, ls, R', rfl, hb, hr, rfl, hrest⟩
    · simp
    · exact ih r.length (by simp) hs rfl
    · intro s hs
      rcases List.mem_append.1 hs with hs | hs
      · exact hplaced hb hr s hs
      · rcases hrest with ⟨-, hR⟩ | ⟨-, S, R'', o', q, r', rfl, hstr, -, hlen, hR⟩
        · exact ih r.length (by rw [List.length_cons, List.length_append]; omega) hR rfl s hs
        · rcases List.mem_append.1 hs with hs | hs
          · exact hstring _ (hstr s hs)
          · exact ih r'.length (by simp; omega) hR rfl s hs

theorem mem_signChars {c : Char} (h : (signKind c).isSign = true) : c ∈ signChars := by
  unfold signKind at h
  repeat' split at h
  all_goals simp_all [signChars, Kind.isSign]

/-- A sign among the tokens of a scan is one character. -/
theorem scan_isSign {o : Nat} {p : Option Lexeme} {t : Text} {R : List Token}
    (h : scanFrom 0 o p t = .ok R) :
    ∀ s ∈ R, s.kind.isSign = true → ∃ c ∈ signChars, s.toLexeme = ⟨signKind c, [c]⟩ := by
  refine scan_forall (P := fun l => l.kind.isSign = true → ∃ c ∈ signChars, l = ⟨signKind c, [c]⟩)
    (fun _ hr l hl hs => ?_) (fun l hl hs => by rw [hl] at hs; cases hs) h
  have hls := (readLexeme_sign hr hl hs).1
  rw [hls] at hl
  obtain rfl := List.mem_singleton.1 hl
  exact ⟨_, mem_signChars hs, rfl⟩

theorem scan_dot {o : Nat} {p : Option Lexeme} {t : Text} {R : List Token} (h : scanFrom 0 o p t = .ok R) :
    ∀ s ∈ R, s.kind = .dot → s.toLexeme = ⟨.dot, ['.']⟩ := by
  intro s hs hk
  have key : ∀ c ∈ signChars, signKind c = .dot → (⟨signKind c, [c]⟩ : Lexeme) = ⟨.dot, ['.']⟩ := by
    decide
  obtain ⟨c, hc, hl⟩ := scan_isSign h s hs (by rw [hk]; rfl)
  rw [hl] at hk ⊢
  exact key c hc hk

/-! ## Blanks at the ends -/

theorem Reads.drop_blanks {w x y : Text} {p q : Option Lexeme} {L : List Lexeme}
    (hw : ∀ c ∈ w, isBlank c = true) (h : Reads y p (w ++ x) L q) : Reads y p x L q := by
  induction w with
  | nil => exact h
  | cons c w ih =>
    refine ih (fun d hd => hw d (List.mem_cons_of_mem _ hd)) ?_
    have hc := hw c (List.mem_cons_self ..)
    generalize ht : c :: w ++ x = t at h
    cases h with
    | nil => cases ht
    | blank _ h =>
      cases ht
      exact h
    | lexeme hb =>
      rw [← (List.cons.inj ht).1, hc] at hb
      cases hb

/-- A lexeme that ends in a blank is a line comment. -/
theorem readLexeme_blank_end {p : Option Lexeme} {c d : Char} {u r : Text} {ls : List Lexeme}
    (hc : isBlank c = false) (h : readLexeme p (c :: (u ++ r)) = .ok (ls, u.length + 1))
    (hd : (c :: u).getLast? = some d) (hb : isBlank d = true) :
    startsWith (c :: u) "--".toList = true ∧ ls = [⟨.comment, c :: u⟩] := by
  have hend := (readLexeme_end hc h).2
  rw [List.take_succ_cons, List.take_left] at hend
  cases hend with
  | word hl he =>
    rw [hd] at hl
    cases hl
    rw [endsWord_of_isBlank hb] at he
    cases he
  | edge hl _ he =>
    rw [hd] at hl
    cases hl
    rw [hb] at he
    cases he
  | sign hl he _ _ =>
    rw [hd] at hl
    cases hl
    rcases he with rfl | rfl | rfl <;> exact absurd hb (by decide)
  | line hs hls => exact ⟨hs, hls⟩

/-- A line comment stays one without the blanks at its end. -/
theorem readLexeme_line_trim {p : Option Lexeme} {v a r : Text} {n : Nat}
    (hline : startsWith (v ++ a) "--".toList = true)
    (h : readLexeme p (v ++ a ++ r) = .ok ([⟨.comment, v ++ a⟩], n))
    (ha : ∀ c, a.head? = some c → isBlank c = true) :
    readLexeme p v = .ok ([⟨.comment, v⟩], v.length) := by
  have hv : startsWith v "--".toList = true := by
    rw [← startsWith_append (y := a) (fun c hc hm => ?_), hline]
    have hb := ha c hc
    have key : ∀ c ∈ "--".toList, isBlank c = false := by decide +kernel
    rw [key c hm] at hb
    cases hb
  have hva : lineAhead (v ++ a ++ r) = v ++ a := by
    obtain ⟨s, hs⟩ := startsWith_iff.1 hline
    rw [readLexeme_line (startsWith_iff.2 ⟨s ++ r, by rw [hs, List.append_assoc]⟩)] at h
    have hls := (Prod.mk.inj (Except.ok.inj h)).1
    simpa using hls
  have hall : lineAhead v = v := by
    have hp : ∀ c ∈ v, (c != '\n' && c != '\r') = true := by
      intro c hc
      have hm : c ∈ lineAhead (v ++ a ++ r) := by rw [hva]; exact List.mem_append_left _ hc
      have := List.all_eq_true.1 List.all_takeWhile c hm
      exact this
    have hv : lineAhead (v ++ []) = v ++ lineAhead [] := List.takeWhile_append_of_pos hp
    simpa [lineAhead] using hv
  rw [readLexeme_line hv, hall]

/-- A text is read without the blanks at its end as with them, but that a line comment loses them. -/
theorem Reads.trim {x w : Text} {p q : Option Lexeme} {L : List Lexeme} (h : Reads [] p (x ++ w) L q)
    (hx : ∀ c, x.getLast? = some c → isBlank c = false) (hw : ∀ c ∈ w, isBlank c = true) :
    ∃ L', Reads [] p x L' q ∧ L'.filter (·.kind != .comment) = L.filter (·.kind != .comment) := by
  generalize ht : x ++ w = t at h
  induction h generalizing x with
  | nil =>
    obtain ⟨rfl, -⟩ := List.append_eq_nil_iff.1 ht
    exact ⟨[], .nil, rfl⟩
  | @blank p q c t L hc hrest ih =>
    cases x with
    | nil =>
      obtain ⟨rfl, rfl⟩ := hrest.of_blank fun d hd => hw d (by
        rw [show w = c :: t from ht]; exact List.mem_cons_of_mem _ hd)
      exact ⟨[], .nil, rfl⟩
    | cons d x =>
      obtain ⟨rfl, ht'⟩ := List.cons.inj ht
      have hne : x ≠ [] := by
        rintro rfl
        rw [hx d rfl] at hc
        cases hc
      obtain ⟨L', hL, hf⟩ := ih (fun e he => hx e (by rwa [List.getLast?_cons_of_ne_nil hne])) ht'
      exact ⟨L', .blank hc hL, hf⟩
  | @lexeme p q c u t ls L hc hr hcmd hrest ih =>
    cases x with
    | nil =>
      rw [hw c (by rw [show w = c :: (u ++ t) from ht]; simp)] at hc
      cases hc
    | cons d x =>
      obtain ⟨rfl, ht'⟩ := List.cons.inj ht
      rw [List.append_nil] at hr
      have hcases : (∃ a, a ≠ [] ∧ u = x ++ a ∧ w = a ++ t) ∨ ∃ a, x = u ++ a ∧ t = a ++ w := by
        rcases List.append_eq_append_iff.1 ht' with ⟨a, hu, hwt⟩ | h
        · by_cases ha : a = []
          · subst ha
            exact .inr ⟨[], by simpa using hu.symm, by simpa using hwt.symm⟩
          · exact .inl ⟨a, ha, hu, hwt⟩
        · exact .inr h
      rcases hcases with ⟨a, ha, rfl, rfl⟩ | ⟨a, rfl, rfl⟩
      · -- the lexeme goes on into the blanks, so it is a line comment
        obtain ⟨e, he⟩ : ∃ e, a.getLast? = some e := ⟨_, List.getLast?_eq_some_getLast ha⟩
        have hlast : (d :: (x ++ a)).getLast? = some e := by
          rw [← List.cons_append, List.getLast?_append, he, Option.some_or]
        have hblank : ∀ e ∈ a, isBlank e = true := fun e he => hw e (List.mem_append_left _ he)
        obtain ⟨hline, rfl⟩ := readLexeme_blank_end hc hr hlast (hblank e (List.mem_of_getLast? he))
        obtain ⟨rfl, rfl⟩ := hrest.of_blank fun e he => hw e (List.mem_append_right _ he)
        have hr' := readLexeme_line_trim (v := d :: x) (a := a) (r := t) hline (by simpa using hr)
          fun e he => hblank e (List.mem_of_head? he)
        have hL : Reads [] q (d :: (x ++ [])) ([⟨.comment, d :: x⟩] ++ []) q :=
          .lexeme hc (by simpa using hr') (by simp [Lexeme.opensCommand]) .nil
        rw [List.append_nil] at hL
        exact ⟨_, hL, rfl⟩
      · have hap : Apart (d :: (u ++ a)) w :=
          .of_closer fun e he => by simp [isCloser, hw e (List.mem_of_head? he)]
        have hr' := readLexeme_restrict hap (by simpa using hr) (by simp)
        have ha : ∀ e, a.getLast? = some e → isBlank e = false := fun e he =>
          hx e (by rw [← List.cons_append, List.getLast?_append, he, Option.some_or])
        obtain ⟨L', hL, hf⟩ := ih ha rfl
        refine ⟨ls ++ L', .lexeme hc (by simpa using hr') hcmd hL, ?_⟩
        rw [List.filter_append, List.filter_append, hf]

/-! ## Line comments at the end -/

/-- A text without lexemes is blank. -/
theorem Reads.blank_of_nil {y x : Text} {p q : Option Lexeme} (h : Reads y p x [] q) :
    ∀ c ∈ x, isBlank c = true := by
  generalize hL : ([] : List Lexeme) = L at h
  induction h with
  | nil => simp
  | blank hc _ ih =>
    intro d hd
    rcases List.mem_cons.1 hd with rfl | hd
    · exact hc
    · exact ih hL d hd
  | lexeme _ hr =>
    rcases readLexeme_group hr with ⟨l, rfl, -⟩ | ⟨a, s, rfl⟩ <;> simp at hL

/-- A line comment takes in what follows it on the line. -/
theorem readLexeme_line_append {p : Option Lexeme} {c : Char} {u y : Text} {l : Lexeme}
    (h : readLexeme p (c :: u) = .ok ([l], u.length + 1)) (hl : l.isLineComment = true)
    (hy : ∀ d ∈ y, (d != '\n' && d != '\r') = true) :
    readLexeme p (c :: (u ++ y)) = .ok ([⟨.comment, c :: (u ++ y)⟩], (u ++ y).length + 1) := by
  simp only [Lexeme.isLineComment, Bool.and_eq_true, beq_iff_eq] at hl
  have htext := readLexeme_comment h (List.mem_singleton_self l) hl.1
  have hlt : l.text = c :: u := by
    rw [(List.cons.inj htext).1]
    exact List.take_length (l := c :: u)
  have hline : startsWith (c :: u) "--".toList = true := by rw [← hlt]; exact hl.2
  have hu : lineAhead (c :: u) = c :: u := by
    rw [readLexeme_line hline] at h
    have hl' := (List.cons.inj (Prod.mk.inj (Except.ok.inj h)).1).1
    rw [← hl'] at hlt
    exact hlt
  have hall : lineAhead (c :: u ++ y) = c :: u ++ lineAhead y := by
    refine List.takeWhile_append_of_pos fun d hd => ?_
    rw [← hu] at hd
    have := List.all_eq_true.1 List.all_takeWhile d hd
    exact this
  have hy' : lineAhead (y ++ []) = y ++ lineAhead [] := List.takeWhile_append_of_pos hy
  rw [List.append_nil, show lineAhead [] = [] from rfl, List.append_nil] at hy'
  obtain ⟨r, hr⟩ := startsWith_iff.1 hline
  rw [hy', List.cons_append] at hall
  rw [readLexeme_line (startsWith_iff.2 ⟨r ++ y, by rw [← List.append_assoc, ← hr]; rfl⟩), hall]
  rfl

/-- A text that ends in a line comment takes in what follows it on the line. -/
theorem Reads.openLine {x y : Text} {p q : Option Lexeme} {L : List Lexeme} (h : Reads [] p x L q)
    (hx : ∀ c, x.getLast? = some c → isBlank c = false)
    (hL : L.getLast?.any Lexeme.isLineComment = true) (hy : Closing y)
    (hnl : ∀ d ∈ y, (d != '\n' && d != '\r') = true) :
    ∃ L', Reads [] p (x ++ y) L' q ∧
      L'.filter (·.kind != .comment) = L.filter (·.kind != .comment) := by
  induction h with
  | nil => cases hL
  | @blank p q c x L hc hrest ih =>
    have hne : x ≠ [] := by
      rintro rfl
      rw [hx c rfl] at hc
      cases hc
    obtain ⟨L', h', hf⟩ := ih (fun e he => hx e (by rwa [List.getLast?_cons_of_ne_nil hne])) hL
    exact ⟨L', .blank hc h', hf⟩
  | @lexeme p q c u x ls L hc hr hcmd hrest ih =>
    rw [List.append_nil] at hr
    by_cases hnil : L = []
    · -- the comment is the last lexeme
      subst hnil
      have hx0 : x = [] := by
        cases hl : x.getLast? with
        | none => exact List.getLast?_eq_none_iff.1 hl
        | some e =>
          have h1 := hrest.blank_of_nil e (List.mem_of_getLast? hl)
          rw [hx e (by rw [← List.cons_append, List.getLast?_append, hl, Option.some_or])] at h1
          cases h1
      subst hx0
      obtain ⟨-, rfl⟩ := hrest.eq_nil
      rw [List.append_nil] at hL hr
      obtain ⟨l, rfl⟩ : ∃ l, ls = [l] := by
        rcases readLexeme_group hr with ⟨l, rfl, -⟩ | ⟨a, s, rfl⟩
        · exact ⟨l, rfl⟩
        · cases hL
      have hl : l.isLineComment = true := hL
      have hk : l.kind = .comment := by
        simp only [Lexeme.isLineComment, Bool.and_eq_true, beq_iff_eq] at hl
        exact hl.1
      have hr' := readLexeme_line_append hr hl hnl
      have hp : nextPrevious p [l] = p := by simp [nextPrevious, hk]
      have h' : Reads [] p (c :: (u ++ y ++ [])) ([⟨.comment, c :: (u ++ y)⟩] ++ []) p :=
        .lexeme hc (by simpa using hr') (by simp [Lexeme.opensCommand]) .nil
      rw [hp]
      refine ⟨_, by simpa using h', ?_⟩
      simp [hk]
    · have hne : x ≠ [] := by
        rintro rfl
        exact hnil hrest.eq_nil.1
      have hlast : L.getLast?.any Lexeme.isLineComment = true := by
        rw [List.getLast?_append, List.getLast?_eq_some_getLast hnil, Option.some_or] at hL
        rwa [List.getLast?_eq_some_getLast hnil]
      obtain ⟨L', h', hf⟩ := ih (fun e he => hx e (by
        rw [← List.cons_append, List.getLast?_append, he, Option.some_or])) hlast
      have hr' := readLexeme_extend (y := y) (.inl hy) hr fun _ => by
        have := List.length_pos_iff.2 hne
        rw [List.length_append]
        omega
      refine ⟨ls ++ L', ?_, by rw [List.filter_append, List.filter_append, hf]⟩
      rw [List.cons_append, List.append_assoc]
      exact .lexeme hc (by simpa using hr') hcmd h'

end DryRun.Sql
