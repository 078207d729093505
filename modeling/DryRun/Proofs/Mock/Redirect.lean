import DryRun.Proofs.Mock.Target

/-!
# Reading a redirected INSERT again

Where the name of the sink is plain and stands between blanks, the redirected statement is read as the same
INSERT into the mock (`readInsert_mockInsert`). What stands before the name is read as before, the name of
the mock is read as five tokens (`Mock.scan_name`), and what stands behind it is read as it was after the
name of the sink (`InsertTokens.scan_behind`), at another place.
-/

namespace DryRun

open Text Sql

/-! ## Names and headings among tokens -/

/-- Names and headings are no signs. -/
theorem scan_flat {o : Nat} {p : Option Lexeme} {t : Text} {R : List Token}
    (h : scanFrom 0 o p t = .ok R) {s : Token} (hs : s ∈ R) (hk : s.isName = true ∨ s.isHeading = true) :
    s.kind.isSign = false := by
  cases hsign : s.kind.isSign with
  | false => rfl
  | true =>
    obtain ⟨c, hc, hl⟩ := scan_isSign h s hs hsign
    have key : ∀ c ∈ signChars, (⟨signKind c, [c]⟩ : Lexeme).isName = false ∧
        (⟨signKind c, [c]⟩ : Lexeme).isHeading = false := by decide +kernel
    rw [hl, (key c hc).1, (key c hc).2] at hk
    simp at hk

theorem Sql.Kind.flat {k : Kind} (h : k.isSign = false ∨ k = .dot) :
    k ≠ .semicolon ∧ k ≠ .leftParen ∧ k ≠ .rightParen := by
  rcases h with h | rfl
  · cases k <;> simp_all [Kind.isSign]
  · decide

/-- A name is no sigil. -/
theorem Sql.Lexeme.isSigil_of_isName {l : Lexeme} (h : l.isName = true) : l.isSigil = false := by
  cases hs : l.isSigil with
  | false => rfl
  | true =>
    have key : ∀ s ∈ [['@'], ['$']], (⟨.symbol, s⟩ : Lexeme).isName = false := by decide +kernel
    simp only [Lexeme.isSigil, Bool.and_eq_true, Bool.or_eq_true, beq_iff_eq] at hs
    have hl : l = ⟨.symbol, l.text⟩ := by rw [← hs.1]
    rw [hl, key l.text (by simpa using hs.2)] at h
    cases h

/-- No body begins with a command. -/
theorem not_opensCommand_of_opensBody {t : Token} {ts : List Token} (h : opensBody (t :: ts) = true)
    (hk : t.kind ≠ .hint) : t.opensCommand = false := by
  cases hc : t.opensCommand with
  | false => rfl
  | true =>
    -- a command spells a word that is none of those before a body
    have key : ∀ w ∈ Lexeme.commandWords ++ Lexeme.commandPhrases, words w ≠ [] ∧
        ∀ v ∈ bodyWords, words w ≠ [v] := by decide +kernel
    have hupper : ∀ w ∈ Lexeme.commandPhrases, upper w = w := by decide +kernel
    have hspelled : t.isQuoted = false ∧ t.kind ≠ .leftParen ∧
        ∃ w ∈ Lexeme.commandWords ++ Lexeme.commandPhrases, t.spelled = words w := by
      simp only [Lexeme.opensCommand, Bool.or_eq_true, Bool.and_eq_true, beq_iff_eq,
        List.contains_iff_mem] at hc
      rcases hc with ⟨hk, hw⟩ | ⟨hk, hw⟩
      · exact ⟨by simp [Lexeme.isQuoted, hk], by simp [hk], _, List.mem_append_left _ hw, rfl⟩
      · refine ⟨by simp [Lexeme.isQuoted, hk], by simp [hk], _, List.mem_append_right _ hw, ?_⟩
        rw [Lexeme.spelled, hupper _ hw]
    obtain ⟨hq, hparen, w, hw, hs⟩ := hspelled
    obtain ⟨hne, hnot⟩ := key w hw
    rw [opensBody_cons (by rwa [hs]), hq, hs] at h
    simp only [Bool.or_eq_true, beq_iff_eq, hparen, hk, or_self, false_or, Bool.not_false, Bool.true_and,
      List.any_eq_true] at h
    obtain ⟨v, hv, he⟩ := h
    exact absurd he (hnot v hv)

/-- No body begins with a dot. -/
theorem not_dot_of_opensBody {o : Nat} {p : Option Lexeme} {y : Text} {R ts : List Token} {t : Token}
    (h : scanFrom 0 o p y = .ok R) (ht : t ∈ R) (hbody : opensBody (t :: ts) = true) : t.kind ≠ .dot := by
  intro hk
  rw [opensBody_bodyless (by rw [scan_dot h t ht hk]; decide)] at hbody
  cases hbody

/-! ## The name of a mock -/

namespace Mock

/-- The tokens of the name of a mock that stands at `o`. -/
def nameTokens (n : Text) (o : Nat) : List Token :=
  [⟨⟨.word, catalog⟩, o, o + 15⟩, ⟨⟨.dot, ['.']⟩, o + 15, o + 16⟩, ⟨⟨.word, schema⟩, o + 16, o + 32⟩,
   ⟨⟨.dot, ['.']⟩, o + 32, o + 33⟩, ⟨⟨.word, mark ++ n⟩, o + 33, o + (name n).length⟩]

theorem scan_name {n z : Text} {p : Option Lexeme} (hn : n.all isPlainChar = true)
    (hp : p.any Lexeme.isSigil = false) (hz : z.head?.all endsWord = true) (o : Nat) :
    scanFrom 0 o p (name n ++ z) =
      (scanFrom 0 (o + (name n).length) (some ⟨.word, mark ++ n⟩) z).map (nameTokens n o ++ ·) := by
  have hlen : o + (name n).length = o + 33 + (mark ++ n).length := by
    rw [name_eq, List.length_append, ← Nat.add_assoc]
    rfl
  have hname : name n ++ z = catalog ++ '.' :: (schema ++ '.' :: (mark ++ n ++ z)) := by
    have hplace : place = catalog ++ '.' :: (schema ++ ['.']) := by decide
    rw [name_eq, hplace]
    simp only [List.append_assoc, List.cons_append, List.nil_append]
  have hcatalog (t : Text) : scanFrom 0 o p (catalog ++ '.' :: t) =
      (scanFrom 0 (o + 15) (some ⟨.word, catalog⟩) ('.' :: t)).map
        (⟨⟨.word, catalog⟩, o, o + 15⟩ :: ·) := scanFrom_word (by decide) hp rfl o
  have hschema (t : Text) : scanFrom 0 (o + 16) (some ⟨.dot, ['.']⟩) (schema ++ '.' :: t) =
      (scanFrom 0 (o + 32) (some ⟨.word, schema⟩) ('.' :: t)).map
        (⟨⟨.word, schema⟩, o + 16, o + 32⟩ :: ·) := scanFrom_word (by decide) rfl rfl (o + 16)
  have hdot (o : Nat) (p : Option Lexeme) (t : Text) : scanFrom 0 o p ('.' :: t) =
      (scanFrom 0 (o + 1) (some ⟨.dot, ['.']⟩) t).map (⟨⟨.dot, ['.']⟩, o, o + 1⟩ :: ·) :=
    scanFrom_sign (by decide) o p t
  have hmark := scanFrom_word (p := some ⟨.dot, ['.']⟩) (isPlainWord_mark hn) rfl hz (o + 33)
  rw [hname, hcatalog, hdot, hschema, hdot, hmark, ← hlen]
  cases scanFrom 0 (o + (name n).length) (some ⟨.word, mark ++ n⟩) z <;> rfl

/-- In front of a body, the tokens of the name of a mock are read as that name. -/
theorem readTableName_nameTokens {n : Text} (hn : n.all isPlainChar = true) (o : Nat) {rest : List Token}
    (hrest : ∀ t, rest.head? = some t → t.kind ≠ .dot) :
    readTableName (nameTokens n o ++ rest) = some ⟨ref n, o, o + (name n).length, rest⟩ :=
  Place.readTableName ⟨rfl, rfl, rfl, rfl⟩ (isName_mark hn) hrest

theorem readInsertHeader_nameTokens {overwrite : Bool} {M : List Token} (h : Heading overwrite M)
    (sql n : Text) (o : Nat) (rest : List Token) :
    readInsertHeader sql (M ++ (nameTokens n o ++ rest)) =
      readInto sql overwrite (nameTokens n o ++ rest) := by
  have hfirst : isFirstName ⟨⟨.word, catalog⟩, o, o + 15⟩ = true := by
    simp only [isFirstName]
    decide
  exact h.read sql hfirst _

/-- The last part of the name of a mock is no keyword. -/
theorem upper_mark_ne {n w : Text} (hw : w.head? ≠ some 'M') : upper (mark ++ n) ≠ w := by
  rintro rfl
  rw [upper_mark] at hw
  exact hw rfl

theorem takesHint_mark (n : Text) : (⟨.word, mark ++ n⟩ : Lexeme).takesHint = false := by
  have h : ∀ w ∈ ["SELECT".toList, "INSERT".toList, "UPDATE".toList, "DELETE".toList],
      upper (mark ++ n) ≠ w := fun w hw => upper_mark_ne (by revert w; decide)
  simp only [Lexeme.takesHint, beq_self_eq_true, Bool.true_and, List.contains_eq_mem, decide_eq_false_iff_not]
  exact fun hm => h _ hm rfl

theorem startsStatement_mark (n : Text) : startsStatement (some ⟨.word, mark ++ n⟩) = false := by
  have h : (upper (mark ++ n) == "BEGIN".toList) = false := by simpa using upper_mark_ne (by decide)
  rw [startsStatement, Lexeme.isKeyword, h]
  rfl

end Mock

/-! ## The redirected statement -/

namespace InsertTokens

variable {i : Insert} {pieces M N : List Token} {e : Token} {rest : List Token}
  (h : InsertTokens i pieces M N e rest)

include h

/-- The heading and the name have no parentheses. -/
theorem check_rest : checkTokens 0 rest = .ok () := by
  have hsplit : M ++ (N ++ e :: rest) = (M ++ (N ++ [e])) ++ rest := by simp
  have hflat : ∀ t ∈ M ++ (N ++ [e]), t.kind ≠ .semicolon ∧ t.kind ≠ .leftParen ∧ t.kind ≠ .rightParen := by
    intro t ht
    have hmem : t ∈ pieces := (List.mem_filter.1 (by
      rw [h.tokens, hsplit]; exact List.mem_append_left _ ht : t ∈ pieces.filter Token.isSignificant)).1
    rcases List.mem_append.1 ht with ht | ht
    · exact Kind.flat (.inl (scan_flat h.scan hmem (.inr (h.heading.isHeading t ht))))
    rcases List.mem_append.1 ht with ht | ht
    · rcases h.names t ht with hn | hd
      · exact Kind.flat (.inl (scan_flat h.scan hmem (.inl hn)))
      · exact Kind.flat (.inr hd)
    · rw [List.mem_singleton.1 ht] at hmem ⊢
      exact Kind.flat (.inl (scan_flat h.scan hmem (.inl h.last)))
  have hcheck := h.check
  rwa [hsplit, checkTokens_flat hflat] at hcheck

/-- What stands behind the name is read after the name of a mock as after the name of the sink, at any
place. -/
theorem scan_behind (hnext : i.next?.any (·.kind == .hint) = false) (n : Text) (o : Nat) :
    ∃ R : List Token,
      scanFrom 0 o (some ⟨.word, Mock.mark ++ n⟩) (i.sql.drop i.stop) = .ok R ∧
      opensBody (R.filter Token.isSignificant) = true ∧
      bodyColumns (R.filter Token.isSignificant) = i.columns ∧
      checkTokens 0 (R.filter Token.isSignificant) = .ok () := by
  obtain ⟨-, R, -, -, hR, -, hs⟩ := h.behind
  have hsigil : (some (⟨.word, Mock.mark ++ n⟩ : Lexeme)).any Lexeme.isSigil =
      (some e.toLexeme).any Lexeme.isSigil := by
    rw [Option.any_some, Option.any_some, Lexeme.isSigil_of_isName h.last]
    rfl
  have hhint : (some (⟨.word, Mock.mark ++ n⟩ : Lexeme)).any Lexeme.takesHint = false := by
    rw [Option.any_some, Mock.takesHint_mark]
  have hs := scanFrom_previous hs hsigil hhint (Mock.startsStatement_mark n) fun s hsig => by
    rw [← List.head?_filter, hR] at hsig
    have hk : s.kind ≠ .hint := by
      rw [h.next?_eq, hsig] at hnext
      simpa using hnext
    obtain ⟨ts, hts⟩ := List.head?_eq_some_iff.1 hsig
    have hbody := h.body
    rw [hts] at hbody
    exact ⟨hk, not_opensCommand_of_opensBody hbody hk⟩
  obtain ⟨base, rfl, hbase⟩ := scanFrom_moved hs
  have hbody := h.body
  have hcolumns := h.columns
  have hcheck := h.check_rest
  rw [← hR, filter_shift] at hbody hcolumns hcheck
  refine ⟨_, hbase o, ?_, ?_, ?_⟩
  · rwa [filter_shift, opensBody_shift, ← opensBody_shift i.stop]
  · rw [filter_shift, hcolumns, bodyColumns_shift, bodyColumns_shift]
  · rw [checkTokens_shift, mapError_eq_ok] at hcheck
    rwa [filter_shift, checkTokens_shift, mapError_eq_ok]

end InsertTokens

/-- The INSERT into the mock of its table, as the redirected statement holds it. -/
def Sql.Insert.redirected (i : Insert) : Insert where
  target := Mock.ref i.target.name
  sql := (mockInsert i).value
  start := i.start
  stop := i.start + (Mock.name i.target.name).length
  columns := i.columns
  overwrite := i.overwrite

/-- The name of an INSERT is plain and stands between blanks, or before a parenthesis, and no hint follows
it. -/
structure Sql.Insert.Separate (i : Insert) : Prop where
  plain : i.target.name.all isPlainChar = true
  before : (i.sql.take i.start).getLast?.any isBlank = true
  after : (i.sql.drop i.stop).head?.any (fun c => isBlank c || c == '(') = true
  next : i.next?.any (·.kind == .hint) = false

section Separate

variable {sql : Text} {i : Insert}

theorem mockInsert_of_isPlain (hn : i.target.name.all isPlainChar = true) :
    (mockInsert i).value = i.sql.take i.start ++ (Mock.name i.target.name ++ i.sql.drop i.stop) := by
  have hrender : (mockInsert i).value =
      i.sql.take i.start ++ (Mock.ref i.target.name).render ++ i.sql.drop i.stop := rfl
  rw [hrender, Mock.render_of_isPlain hn, List.append_assoc]

/-- The tokens of a redirected statement are a heading, the name of the mock and the body. -/
theorem scan_mockInsert {pieces M N rest : List Token} {e : Token}
    (h : InsertTokens i pieces M N e rest) (hs : i.Separate) :
    ∃ M' R : List Token, Heading i.overwrite (M'.filter Token.isSignificant) ∧
      opensBody (R.filter Token.isSignificant) = true ∧
      bodyColumns (R.filter Token.isSignificant) = i.columns ∧
      checkTokens 0 (R.filter Token.isSignificant) = .ok () ∧
      scan (mockInsert i).value = .ok (M' ++ (Mock.nameTokens i.target.name i.start ++ R)) := by
  obtain ⟨P, q, parts⟩ := h.parts
  obtain ⟨-, -, -, hlen, -⟩ := h.before
  have hedge : ∃ d, (i.sql.take i.start).getLast? = some d ∧ isEdge d = true := by
    obtain ⟨d, hd, hb⟩ := (Option.any_eq_true _ _).1 hs.before
    exact ⟨d, hd, Text.of_blank (P := fun d => isEdge d = true) (by decide) hb⟩
  have hclosed : (i.sql.drop i.stop).head?.all endsWord = true := by
    obtain ⟨c, hc, hb⟩ := (Option.any_eq_true _ _).1 hs.after
    rw [hc, Option.all_some]
    simp only [Bool.or_eq_true, beq_iff_eq] at hb
    rcases hb with hb | rfl
    · simp [endsWord, hb]
    · decide
  obtain ⟨M', hM', hscan⟩ := (parts.exchange hedge
    (Mock.mark ++ i.target.name ++ i.sql.drop i.stop)).scan 0
  obtain ⟨R, hR, hbody⟩ := h.scan_behind hs.next i.target.name
    (i.start + (Mock.name i.target.name).length)
  refine ⟨M', R, ?_, hbody.1, hbody.2.1, hbody.2.2, ?_⟩
  · refine parts.heading.congr ?_
    rw [map_filter_significant, map_filter_significant, hM']
  · have hname : Mock.place ++ (Mock.mark ++ i.target.name ++ i.sql.drop i.stop) =
        Mock.name i.target.name ++ i.sql.drop i.stop := by
      rw [Mock.name_eq, List.append_assoc, List.append_assoc, List.append_assoc]
    rw [hname, Nat.zero_add, ← hlen, Mock.scan_name hs.plain parts.not_isSigil hclosed, hR] at hscan
    rw [mockInsert_of_isPlain hs.plain, scan, hscan]
    rfl

/-- A separate name of a sink is replaced by that of its mock, and all else is read as it was. -/
theorem readInsert_mockInsert (hi : readInsert sql = .ok i) (hs : i.Separate) :
    readInsert (mockInsert i).value = .ok i.redirected := by
  obtain ⟨-, pieces, M, N, e, rest, h⟩ := insertTokens_of_read hi
  obtain ⟨M', R, hheading, hbody, hcolumns, hcheck, hscan⟩ := scan_mockInsert h hs
  have hfilter : (M' ++ (Mock.nameTokens i.target.name i.start ++ R)).filter Token.isSignificant =
      M'.filter Token.isSignificant ++
        (Mock.nameTokens i.target.name i.start ++ R.filter Token.isSignificant) := by
    rw [List.filter_append, List.filter_append]
    rfl
  have hdot : ∀ t, (R.filter Token.isSignificant).head? = some t → t.kind ≠ .dot := fun t ht => by
    obtain ⟨ts, hts⟩ := List.head?_eq_some_iff.1 ht
    rw [hts] at hbody
    have htR : t ∈ R := (List.mem_filter.1 (List.mem_of_head? ht)).1
    exact not_dot_of_opensBody hscan (by simp [htR]) hbody
  have hflat : ∀ t ∈ M'.filter Token.isSignificant, t.kind ≠ .semicolon ∧ t.kind ≠ .leftParen ∧
      t.kind ≠ .rightParen := fun t ht =>
    Kind.flat (.inl (scan_flat hscan (List.mem_append_left _ (List.mem_filter.1 ht).1)
      (.inr (hheading.isHeading t ht))))
  have hheader : readInsertHeader (mockInsert i).value (M'.filter Token.isSignificant ++
      (Mock.nameTokens i.target.name i.start ++ R.filter Token.isSignificant)) = some i.redirected := by
    have hread := readInto_of_name (mockInsert i).value i.overwrite
      (Mock.readTableName_nameTokens hs.plain i.start hdot) hbody
    rw [hcolumns] at hread
    exact (Mock.readInsertHeader_nameTokens hheading ..).trans hread
  have hhead : ((M' ++ (Mock.nameTokens i.target.name i.start ++ R)).filter
      Token.isSignificant).head?.any (·.kind != .semicolon) = true := by
    obtain ⟨t, ts, hts⟩ := List.exists_cons_of_ne_nil hheading.ne_nil
    rw [hfilter, hts]
    simpa using (hflat t (by rw [hts]; exact List.mem_cons_self ..)).1
  have hstatement : checkTokens 0 (M'.filter Token.isSignificant ++
      (Mock.nameTokens i.target.name i.start ++ R.filter Token.isSignificant)) = .ok () := by
    rw [checkTokens_flat hflat]
    exact hcheck
  rw [readInsert, readStatement_of_scan hscan hhead, hfilter, hstatement]
  simp only [Except.map, hheader]

end Separate

/-- If the name of a sink is plain, stands behind a blank and before a blank or a parenthesis, and is not
followed by a hint, then the redirected statement is read as the same INSERT into the mock: only the target
and where its name ends are others. -/
theorem mockInsert_reads_back {sql : Text} {i : Insert} (hi : readInsert sql = .ok i)
    (hplain : i.target.name.all isPlainChar = true)
    (hbefore : (sql.take i.start).getLast?.any isBlank = true)
    (hafter : (sql.drop i.stop).head?.any (fun c => isBlank c || c == '(') = true)
    (hnext : i.next?.any (·.kind == .hint) = false) :
    ∃ j, readInsert (i.retarget (Mock.ref i.target.name)).render = .ok j ∧
      j.target = Mock.ref i.target.name ∧ j.columns = i.columns ∧ j.overwrite = i.overwrite ∧
      j.start = i.start ∧ j.stop = i.start + (Mock.name i.target.name).length := by
  obtain ⟨hsql, -⟩ := insertTokens_of_read hi
  rw [← hsql] at hbefore hafter
  exact ⟨i.redirected, readInsert_mockInsert hi ⟨hplain, hbefore, hafter, hnext⟩, rfl, rfl, rfl, rfl, rfl⟩

/-- An INSERT with comments and phrases, whose name is in three parts and directly before its columns. -/
def commentedOverwrite : Text :=
  "insert /*+ h */ -- all\n overwrite table\tcat.\x60d b\x60 .ORDERS(id, \x60n\x60) select 1 group by 2".toList

/-- Comments, a hint before the name and a column list are kept. -/
theorem mockInsert_reads_back_commented : ∃ i j, readInsert commentedOverwrite = .ok i ∧
    i.target.name.all isPlainChar = true ∧
    (commentedOverwrite.take i.start).getLast?.any isBlank = true ∧
    (commentedOverwrite.drop i.stop).head?.any (fun c => isBlank c || c == '(') = true ∧
    i.next?.any (·.kind == .hint) = false ∧
    readInsert (i.retarget (Mock.ref i.target.name)).render = .ok j ∧
    j.target = Mock.ref "ORDERS".toList ∧ j.columns = ["id".toList, "n".toList] ∧ j.overwrite = true ∧
    j.start = 40 ∧ j.stop = 40 + (Mock.name "ORDERS".toList).length := by
  have hread : readInsert commentedOverwrite = .ok ⟨⟨some "cat".toList, some "d b".toList, "ORDERS".toList⟩,
      commentedOverwrite, 40, 57, ["id".toList, "n".toList], true⟩ := rfl
  obtain ⟨j, hj⟩ := mockInsert_reads_back hread (by decide) (by decide) (by decide) (by decide)
  exact ⟨_, j, hread, by decide, by decide, by decide, by decide, hj⟩

end DryRun
