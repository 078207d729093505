import DryRun.Proofs.Sql.Splice

/-!
# Tokens and their places

Tokens carry the place they were read at, and what reads tokens does not look at it. A text that stands
`k` code points further on gives the same tokens, moved by `k` (`scanFrom_shift`). Which lexeme stands
before a text matters for its first token only (`scanFrom_previous`), and what stands behind it for none
of its tokens, not even for their places (`Reads.exchange_scan`).
-/

namespace DryRun.Sql

open Text

/-! ## The same text further on -/

/-- The token `k` code points further on. -/
def Token.shift (k : Nat) (t : Token) : Token := ⟨t.toLexeme, t.start + k, t.stop + k⟩

@[simp] theorem Token.shift_toLexeme (k : Nat) (t : Token) : (t.shift k).toLexeme = t.toLexeme := rfl

theorem commandText_shift (k : Nat) (t : Text) (start : Nat) :
    commandText t (start + k) = (commandText t start).map (Token.shift k) := by
  unfold commandText
  dsimp only
  split
  · rfl
  · rw [List.map_singleton, Token.shift, Nat.add_right_comm]

theorem placed_shift (k start n : Nat) (ls : List Lexeme) :
    placed (start + k) (start + k + n) ls = (placed start (start + n) ls).map (Token.shift k) := by
  rw [placed, placed, List.map_map, Nat.add_right_comm]
  rfl

theorem scanFrom_shift (k skip offset : Nat) (p : Option Lexeme) (t : Text) :
    scanFrom skip (offset + k) p t = (scanFrom skip offset p t).map (List.map (Token.shift k)) := by
  induction t generalizing skip offset p with
  | nil => rfl
  | cons c t ih =>
    have step (skip : Nat) (p : Option Lexeme) : scanFrom skip (offset + k + 1) p t =
        (scanFrom skip (offset + 1) p t).map (List.map (Token.shift k)) := by
      rw [Nat.add_right_comm, ih]
    cases skip with
    | succ skip => exact step skip p
    | zero =>
      rw [scanFrom, scanFrom]
      split
      · exact step 0 p
      cases readLexeme p (c :: t) with
      | error e => rfl
      | ok r =>
        obtain ⟨ls, n⟩ := r
        have hhere := placed_shift k offset n ls
        dsimp only [placed] at hhere ⊢
        split
        · -- a command: its text is one token further on as well
          cases commandLength 0 ls.getLast? 0 (List.drop n (c :: t)) with
          | error e => rfl
          | ok m =>
            dsimp only
            generalize (List.takeWhile isBlank (List.drop n (c :: t))).length = blanks
            have hplace : offset + k + n + blanks = offset + n + blanks + k := by omega
            have hlast :
                (commandText (List.take m (List.drop n (c :: t))) (offset + k + n + blanks)).getLast?.map
                  Token.toLexeme =
                (commandText (List.take m (List.drop n (c :: t))) (offset + n + blanks)).getLast?.map
                  Token.toLexeme := by
              rw [hplace, commandText_shift, List.getLast?_map, Option.map_map]
              rfl
            rw [hlast, step, hhere, hplace, commandText_shift k]
            cases scanFrom (n + m - 1) (offset + 1) _ t with
            | error e => rfl
            | ok R => simp [Except.map]
        · rw [step, hhere]
          cases scanFrom (n - 1) (offset + 1) (nextPrevious p ls) t with
          | error e => rfl
          | ok R => simp [Except.map]

/-- A scan at one place gives the scan at every other. -/
theorem scanFrom_moved {o : Nat} {p : Option Lexeme} {t : Text} {R : List Token}
    (h : scanFrom 0 o p t = .ok R) :
    ∃ base : List Token, R = base.map (Token.shift o) ∧
      ∀ k, scanFrom 0 k p t = .ok (base.map (Token.shift k)) := by
  have hshift (k : Nat) := scanFrom_shift k 0 0 p t
  simp only [Nat.zero_add] at hshift
  rw [hshift] at h
  obtain ⟨base, hbase, rfl⟩ := map_eq_ok.1 h
  exact ⟨base, rfl, fun k => by rw [hshift, hbase]; rfl⟩

/-- No token of a scan begins before its text. -/
theorem scanFrom_start {o : Nat} {p : Option Lexeme} {t : Text} {R : List Token}
    (h : scanFrom 0 o p t = .ok R) : ∀ s ∈ R, o ≤ s.start := by
  obtain ⟨base, rfl, -⟩ := scanFrom_moved h
  intro s hs
  obtain ⟨b, -, rfl⟩ := List.mem_map.1 hs
  exact Nat.le_add_left ..

/-! ## What the readers make of tokens further on -/

theorem filter_shift (k : Nat) (ts : List Token) :
    (ts.map (Token.shift k)).filter Token.isSignificant =
      (ts.filter Token.isSignificant).map (Token.shift k) := by
  rw [List.filter_map]
  rfl

theorem matchWords_shift (k : Nat) (ws : List Text) (ts : List Token) :
    matchWords ws (ts.map (Token.shift k)) = (matchWords ws ts).map (List.map (Token.shift k)) := by
  induction ts generalizing ws with
  | nil => cases ws <;> rfl
  | cons t ts ih =>
    cases ws with
    | nil => rfl
    | cons w ws =>
      rw [List.map_cons, matchWords, matchWords, Token.shift_toLexeme]
      split
      · rfl
      · cases t.spelled.isPrefixOf? (w :: ws) with
        | none => rfl
        | some pending => exact ih pending

theorem opensBody_shift (k : Nat) (ts : List Token) : opensBody (ts.map (Token.shift k)) = opensBody ts := by
  have hbegins : ∀ w, beginsWith w (ts.map (Token.shift k)) = beginsWith w ts := fun w => by
    rw [beginsWith, matchWords_shift, Option.isSome_map, beginsWith]
  cases ts with
  | nil => rfl
  | cons t ts =>
    simp only [List.map_cons] at hbegins
    simp only [List.map_cons, opensBody, hbegins, Token.shift_toLexeme]

theorem enclosed_shift (k depth : Nat) (ts : List Token) :
    enclosed depth (ts.map (Token.shift k)) = (enclosed depth ts).map fun r =>
      (r.1.map (Token.shift k), r.2.1.shift k, r.2.2.map (Token.shift k)) := by
  induction ts generalizing depth with
  | nil => rfl
  | cons t ts ih =>
    rw [List.map_cons, enclosed_cons, enclosed_cons, Token.shift_toLexeme]
    split
    · rw [ih, Option.map_map, Option.map_map]
      rfl
    · split
      · cases depth with
        | zero => rfl
        | succ depth =>
          simp only [ih, Option.map_map]
          rfl
      · rw [ih, Option.map_map, Option.map_map]
        rfl

theorem columnNames?_shift (k : Nat) (ts : List Token) :
    columnNames? (ts.map (Token.shift k)) = columnNames? ts := by
  have hcol : ∀ t : Token, columnNames?.isColumn (t.shift k) = columnNames?.isColumn t := fun _ => rfl
  fun_induction columnNames? ts with
  | case1 => rfl
  | case2 n hn => simp [columnNames?, hcol, hn]
  | case3 n hn => simp [columnNames?, hcol, hn]
  | case4 n s rest hn hrest => simp_all [columnNames?]
  | case5 n s rest hn hrest ih => simp_all [columnNames?]
  | case6 n s rest hn => simp_all [columnNames?]

theorem columnsAhead_shift (k : Nat) (ts : List Token) :
    columnsAhead (ts.map (Token.shift k)) = columnsAhead ts := by
  rw [columnsAhead, columnsAhead, ← List.map_drop, enclosed_shift]
  cases enclosed 0 (ts.drop 1) with
  | none => rfl
  | some r => exact congrArg (·.getD []) (columnNames?_shift k r.1)

theorem bodyColumns_shift (k : Nat) (ts : List Token) :
    bodyColumns (ts.map (Token.shift k)) = bodyColumns ts := by
  rw [bodyColumns, bodyColumns, columnsAhead_shift, List.head?_map, Option.any_map]
  rfl

theorem skipWords_shift (k : Nat) (ws : List Text) (ts : List Token) :
    skipWords ws (ts.map (Token.shift k)) = (skipWords ws ts).map (Token.shift k) := by
  rw [skipWords, skipWords, matchWords_shift, Option.getD_map]

theorem dottedParts_shift (k : Nat) (ts : List Token) :
    dottedParts (ts.map (Token.shift k)) =
      ((dottedParts ts).1.map (Token.shift k), (dottedParts ts).2.map (Token.shift k)) := by
  fun_induction dottedParts ts with
  | case1 d n rest hc parts rest' hp ih =>
    rw [hp] at ih
    simp [dottedParts, hc, ih]
  | case2 d n rest hc => simp [dottedParts, hc]
  | case3 ts hts =>
    rcases ts with _ | ⟨t, _ | ⟨n, r⟩⟩
    · rfl
    · rfl
    · exact absurd rfl (hts t n r)

/-- The name `k` code points further on. -/
def NameReading.shift (k : Nat) (name : NameReading) : NameReading :=
  ⟨name.ref, name.start + k, name.stop + k, name.rest.map (Token.shift k)⟩

theorem readTableName_shift (k : Nat) (ts : List Token) :
    readTableName (ts.map (Token.shift k)) = (readTableName ts).map (NameReading.shift k) := by
  cases ts with
  | nil => rfl
  | cons t ts =>
    have hlast : ∀ parts : List Token, (((t.shift k) :: parts.map (Token.shift k)).getLast?.getD (t.shift k)).stop =
        ((t :: parts).getLast?.getD t).stop + k := by
      intro parts
      rw [← List.map_cons, List.getLast?_map, List.getLast?_cons]
      rfl
    have htexts : ∀ parts : List Token, ((t.shift k) :: parts.map (Token.shift k)).map (·.text) =
        (t :: parts).map (·.text) := by
      intro parts
      rw [← List.map_cons, List.map_map]
      rfl
    rw [List.map_cons, readTableName, readTableName, Token.shift_toLexeme, dottedParts_shift]
    split
    · simp only [htexts, hlast, Option.map_map]
      rfl
    · rfl

/-! ## Faults -/

/-- The fault of a text `k` code points further on. -/
def ReadError.shift (k : Nat) : ReadError → ReadError
  | .unbalanced offset => .unbalanced (offset + k)
  | e => e

section MapError

variable {ε ε' α : Type} {f : ε → ε'}

theorem mapError_ok (a : α) : (Except.ok a : Except ε α).mapError f = .ok a := rfl

theorem mapError_error (e : ε) : (Except.error e : Except ε α).mapError f = .error (f e) := rfl

theorem mapError_eq_ok {r : Except ε α} {a : α} : r.mapError f = .ok a ↔ r = .ok a := by
  cases r <;> simp [mapError_ok, mapError_error]

end MapError

theorem checkTokens_shift (k depth : Nat) (ts : List Token) :
    checkTokens depth (ts.map (Token.shift k)) = (checkTokens depth ts).mapError (ReadError.shift k) := by
  induction ts generalizing depth with
  | nil =>
    rw [List.map_nil, checkTokens]
    split <;> rfl
  | cons t ts ih =>
    rw [List.map_cons, checkTokens_cons, checkTokens_cons, Token.shift_toLexeme, List.isEmpty_map]
    split
    · rfl
    split
    · exact ih _
    split
    · cases depth with
      | zero => rfl
      | succ depth => exact ih depth
    · exact ih _

/-! ## Another lexeme before -/

theorem readComment?_previous {p p' : Option Lexeme} {t : Text} (hp : p'.any Lexeme.takesHint = false)
    (h : ∀ l n, readComment? p t = some (.ok (l, n)) → l.kind ≠ .hint) :
    readComment? p' t = readComment? p t := by
  rw [readComment?_eq, readComment?_eq, hp]
  split
  · rfl
  rename_i hline
  split
  · rename_i hflat
    rw [readComment?_eq, if_neg hline, if_pos hflat] at h
    cases hp : p.any Lexeme.takesHint with
    | false => rfl
    | true =>
      cases hc : flatComment "*/".toList 3 (t.drop 3) with
      | none => rfl
      | some n => exact absurd rfl (h ⟨.hint, t.take n⟩ n (by rw [hp, hc]; rfl))
  · rfl

/-- A lexeme that is no hint is read after `p'` as after `p`. -/
theorem readLexeme_previous {p p' : Option Lexeme} {c : Char} {t : Text} {ls : List Lexeme} {n : Nat}
    (hsigil : p'.any Lexeme.isSigil = p.any Lexeme.isSigil) (hp : p'.any Lexeme.takesHint = false)
    (h : readLexeme p (c :: t) = .ok (ls, n)) (hls : ∀ l ∈ ls, l.kind ≠ .hint) :
    readLexeme p' (c :: t) = .ok (ls, n) := by
  rw [readLexeme_cons] at h ⊢
  rw [hsigil]
  split at h
  · rename_i hdigit
    rwa [if_pos hdigit]
  rename_i hdigit
  rw [if_neg hdigit]
  split at h
  · rename_i hquote
    rwa [if_pos hquote]
  rename_i hquote
  rw [if_neg hquote]
  rw [readPlain_eq] at h ⊢
  rw [hsigil, readComment?_previous hp]
  · exact h
  · intro l m hl
    rw [hl] at h
    cases h
    exact hls l (List.mem_singleton_self l)

/-- A scan does not depend on the lexeme before its text, if neither is a sigil and the first token is no
hint and opens no command. -/
theorem scanFrom_previous {o : Nat} {p p' : Option Lexeme} {t : Text} {R : List Token}
    (h : scanFrom 0 o p t = .ok R) (hsigil : p'.any Lexeme.isSigil = p.any Lexeme.isSigil)
    (hp : p'.any Lexeme.takesHint = false) (hp' : startsStatement p' = false)
    (hR : ∀ s, R.find? Token.isSignificant = some s → s.kind ≠ .hint ∧ s.opensCommand = false) :
    scanFrom 0 o p' t = .ok R := by
  induction hn : t.length using Nat.strongRecOn generalizing o t R with
  | _ n ih =>
    subst hn
    rcases scanFrom_cases h with ⟨rfl, rfl⟩ | ⟨c, r, rfl, hc, hs⟩ | ⟨c, u, r, ls, R', rfl, hc, hr, rfl, hrest⟩
    · rfl
    · rw [scanFrom_blank hc]
      exact ih r.length (by simp) hs hR rfl
    · have hfirst : ∀ l ∈ ls, l.kind ≠ .hint ∧ l.opensCommand = false := by
        rcases readLexeme_group hr with ⟨l, rfl, -⟩ | ⟨a, s, rfl⟩
        · intro l' hl
          rw [List.mem_singleton.1 hl]
          by_cases hk : l.kind = .comment
          · simp [Lexeme.opensCommand, hk]
          · refine hR ⟨l, o, o + (u.length + 1)⟩ (List.find?_cons_of_pos ?_)
            simpa [Token.isSignificant] using hk
        · simp [Lexeme.opensCommand]
      have hcmd : ls.any Lexeme.opensCommand = false :=
        List.any_eq_false.2 fun l hl => by simp [(hfirst l hl).2]
      rcases hrest with ⟨-, hs⟩ | ⟨hopen, -⟩
      · have hr' := readLexeme_previous hsigil hp hr fun l hl => (hfirst l hl).1
        rw [scanFrom_lexeme o hc hr' (by rw [hp', Bool.false_and])]
        suffices hs' : scanFrom 0 (o + (u.length + 1)) (nextPrevious p' ls) r = .ok R' by
          rw [hs']
          rfl
        rcases readLexeme_group hr with ⟨l, rfl, -⟩ | ⟨a, s, rfl⟩
        · by_cases hk : l.kind = .comment
          · -- the comment is passed over, and the lexeme before is still the same
            have hnext : ∀ p : Option Lexeme, nextPrevious p [l] = p := fun p => by simp [nextPrevious, hk]
            rw [hnext] at hs ⊢
            refine ih r.length (by rw [List.length_cons, List.length_append]; omega) hs
              (fun s hs => hR s ?_) rfl
            rw [placed, List.map_singleton, List.singleton_append, List.find?_cons_of_neg]
            · exact hs
            · simp [Token.isSignificant, hk]
          · have hnext : ∀ p : Option Lexeme, nextPrevious p [l] = some l := fun p => by simp [nextPrevious, hk]
            rwa [hnext] at hs ⊢
        · exact hs
      · rw [hcmd] at hopen
        cases hopen

/-- Behind a lexeme that takes no hint, the first token is no hint. -/
theorem scan_not_hint {o : Nat} {p : Option Lexeme} {t : Text} {R : List Token} {s : Token}
    (h : scanFrom 0 o p t = .ok R) (hp : p.any Lexeme.takesHint = false)
    (hs : R.find? Token.isSignificant = some s) : s.kind ≠ .hint := by
  induction hn : t.length using Nat.strongRecOn generalizing o t R with
  | _ n ih =>
    subst hn
    rcases scanFrom_cases h with ⟨rfl, rfl⟩ | ⟨c, r, rfl, hc, hscan⟩ |
      ⟨c, u, r, ls, R', rfl, hc, hr, rfl, hrest⟩
    · cases hs
    · exact ih r.length (by simp) hscan hs rfl
    · have hhint : ∀ l ∈ ls, l.kind ≠ .hint := by
        intro l hl hk
        rw [takesHint_of_hint hr hl hk] at hp
        cases hp
      rcases readLexeme_group hr with ⟨l, rfl, -⟩ | ⟨a, b, rfl⟩
      · by_cases hk : l.kind = .comment
        · -- the comment is passed over, and the lexeme before is still the same
          have hskip : ¬ Token.isSignificant ⟨l, o, o + (u.length + 1)⟩ := by simp [Token.isSignificant, hk]
          rw [placed, List.map_singleton, List.singleton_append, List.find?_cons_of_neg hskip] at hs
          rcases hrest with ⟨-, hscan⟩ | ⟨hopen, -⟩
          · rw [nextPrevious, List.getLast?_singleton] at hscan
            simp only [hk, beq_self_eq_true, if_true] at hscan
            exact ih r.length (by rw [List.length_cons, List.length_append]; omega) hscan hs rfl
          · simp [Lexeme.opensCommand, hk] at hopen
        · rw [placed, List.map_singleton, List.singleton_append, List.find?_cons_of_pos
            (by simpa [Token.isSignificant] using hk)] at hs
          cases hs
          exact hhint l (List.mem_singleton_self l)
      · rw [placed, List.map_cons, List.cons_append, List.find?_cons_of_pos rfl] at hs
        cases hs
        exact hhint _ (List.mem_cons_self ..)

/-! ## Another text behind -/

/-- What is read in front of `y` gives the same tokens in front of `y'`, if neither goes on with it. -/
theorem Reads.exchange_scan {x y y' : Text} {p q : Option Lexeme} {L : List Lexeme} (h : Reads y p x L q)
    (ha : x ≠ [] → Apart x y) (hs : x ≠ [] → Sealed x y')
    (hy : ∃ d, y.head? = some d ∧ isBlank d = false) (offset : Nat) :
    ∃ M, scanFrom 0 offset p (x ++ y) = (scanFrom 0 (offset + x.length) q y).map (M ++ ·) ∧
      scanFrom 0 offset p (x ++ y') = (scanFrom 0 (offset + x.length) q y').map (M ++ ·) := by
  induction h generalizing offset with
  | nil =>
    refine ⟨[], ?_⟩
    simp only [List.nil_append, List.length_nil, Nat.add_zero]
    constructor
    · cases scanFrom 0 offset _ y <;> rfl
    · cases scanFrom 0 offset _ y' <;> rfl
  | @blank p q c x L hc _ ih =>
    obtain ⟨M, hM⟩ := ih (fun hne => (ha (by simp)).tail (w := [c]) hne)
      (fun hne => (hs (by simp)).tail (w := [c]) hne) (offset + 1)
    rw [show offset + 1 + x.length = offset + (c :: x).length by rw [List.length_cons]; omega] at hM
    refine ⟨M, ?_⟩
    simp only [List.cons_append, scanFrom_blank hc]
    exact hM
  | @lexeme p q c u x K L hc hr hcmd _ ih =>
    have ha := ha (by simp)
    have hs := hs (by simp)
    obtain ⟨M, hM, hM'⟩ := ih (fun hne => ha.tail (w := c :: u) hne)
      (fun hne => hs.tail (w := c :: u) hne) (offset + (u.length + 1))
    have hlen : offset + (u.length + 1) + x.length = offset + (c :: (u ++ x)).length := by
      rw [List.length_cons, List.length_append]; omega
    rw [hlen] at hM hM'
    refine ⟨placed offset (offset + (u.length + 1)) K ++ M, ?_, ?_⟩
    · rw [List.cons_append, List.append_assoc, scanFrom_lexeme _ hc hr hcmd, hM]
      cases scanFrom 0 _ q y with
      | error e => rfl
      | ok R => simp [Except.map]
    · rw [List.cons_append, List.append_assoc,
        scanFrom_lexeme _ hc (readLexeme_exchange hr ha hs hy) hcmd, hM']
      cases scanFrom 0 _ q y' with
      | error e => rfl
      | ok R => simp [Except.map]

end DryRun.Sql
