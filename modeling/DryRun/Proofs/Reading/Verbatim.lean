import DryRun.Proofs.Reading.Insert

/-!
# Names as they are written

The parts of a table name are the texts of tokens. A token that can be a name holds its source text, or
stands in back-ticks, which are undone; only strings with a mark and numbers marked `0x` give a text that is
written otherwise (`readLexeme_name`). Both readers of headers take such a literal for a name if its content looks like
one, and every other part of a name is as it is written (`names_verbatim`).
-/

namespace DryRun

open Text Sql

namespace Sql

/-! ## The source of a name -/

/-- Whether the lexeme is a string with a mark or a number marked `0x`. -/
def Lexeme.isMarked (l : Lexeme) : Bool :=
  l.kind == .nationalString || l.kind == .rawString || l.kind == .hexString

/-- A source text shows a name in back-ticks, with each back-tick in it doubled, or as it is. -/
def Shows (source name : Text) : Prop := source = TableRef.quote name ∨ source = name

/-- A longer text shows a name only in back-ticks. -/
theorem not_shows {source name : Text} (hhead : source.head? ≠ some '\x60')
    (hlength : name.length < source.length) : ¬Shows source name := by
  rintro (rfl | rfl)
  · exact hhead rfl
  · exact Nat.lt_irrefl _ hlength

/-- Quotes are read besides the content. -/
theorem quotedBody_length {e : Escaping} {q : Char} {content t r : Text} {used n : Nat}
    (h : quotedBody e q content used t = some (r, n)) : r.length + used < n + content.length := by
  rw [quotedBody_eq_some] at h
  induction h with
  | control _ _ _ ih | escaped _ _ _ ih | doubled _ _ ih | plain _ _ _ ih =>
    simp only [List.length_cons] at ih
    omega
  | close =>
    rw [List.length_reverse]
    omega

section Name

variable {p : Option Lexeme} {c : Char} {t : Text} {l : Lexeme} {ls : List Lexeme} {n : Nat}

theorem not_isPlainName_of_isDigit (hc : isDigit c = true) (s : Text) :
    Lexeme.isPlainName (c :: s) = false := by
  have key : (c.isAlpha || c == '_') = false :=
    of_ascii (P := fun c => isDigit c = true → (c.isAlpha || c == '_') = false) (by decide)
      (isPlainChar_ascii (isPlainChar_of_isDigit hc)) hc
  rw [Lexeme.isPlainName, key, Bool.false_and]

theorem readMarkedString?_length (h : readMarkedString? (c :: t) = some (.ok (l, n))) :
    l.isMarked = true ∧ c ≠ '\x60' ∧ l.text.length < n := by
  match t, h with
  | [], h => cases h
  | q :: body, h =>
    obtain ⟨e, hk, hq, -⟩ := readMarkedString?_eq_ok.1 h
    have hlength := quotedBody_length hq
    refine ⟨?_, ?_, by simp only [List.length_nil] at hlength; omega⟩
    · rcases (markedKind?_quote hk).2.2 with hk | hk | hk <;> simp only at hk <;>
        rw [Lexeme.isMarked, hk] <;> rfl
    · rintro rfl
      exact absurd (markedKind?_mark hk) (by decide)

/-- A name at the head of a reading is shown by its source text, or it is the content of a marked literal, which
is longer. -/
theorem readLexeme_name (h : readLexeme p (c :: t) = .ok (l :: ls, n)) (hl : l.isName = true) :
    Shows ((c :: t).take n) l.text ∧ l.isMarked = false ∨
      l.isMarked = true ∧ c ≠ '\x60' ∧ l.text.length < n := by
  rw [readLexeme_cons] at h
  split at h
  · rename_i hdigit
    rcases readNumber_cases (Except.ok.inj h) with ⟨hls | ⟨hls, hne⟩, rfl, rfl, -⟩ | ⟨hls, -⟩ |
      ⟨m, -, d, w, -, -, -, hls | hls⟩ <;> obtain ⟨rfl, rfl⟩ := List.cons.inj hls
    · exact .inl ⟨.inr (take_wordAhead _), rfl⟩
    · refine .inr ⟨rfl, by decide, ?_⟩
      have := List.length_pos_iff.2 hne
      rw [List.length_drop] at this ⊢
      omega
    · exact .inl ⟨.inr rfl, rfl⟩
    · exact .inl ⟨.inr rfl, rfl⟩
    · -- the number before a suffix is no name
      rw [Lexeme.isName, List.take_succ_cons, not_isPlainName_of_isDigit hdigit] at hl
      cases hl
  split at h
  · by_cases hq : c = '\x60'
    · subst hq
      obtain ⟨s, hls, hr⟩ := readQuotation_name h
      obtain ⟨rfl, rfl⟩ := List.cons.inj hls
      obtain ⟨w, y, hw, rfl, rfl⟩ := quotedBody_doubled_source rfl hr
      refine .inl ⟨.inl ?_, rfl⟩
      have hquote : TableRef.quote s = '\x60' :: (doubled w ++ ['\x60']) := by rw [hw]; rfl
      have hn : 1 + (doubled w).length + 1 = (doubled w ++ ['\x60']).length + 1 := by
        rw [List.length_append, List.length_singleton, Nat.add_comm 1]
      rw [hquote, hn, List.take_succ_cons, List.append_cons (doubled w) _ y, List.take_left]
    · obtain ⟨s, hls, -⟩ := readQuotation_string hq h
      obtain ⟨rfl, rfl⟩ := List.cons.inj hls
      simp [Lexeme.isName] at hl
  rcases readPlain_cases h with ⟨l', hls, hr⟩ | ⟨l', hls, hr⟩ | ⟨l', hls, hr⟩ | ⟨o, -, hls, hr, rfl⟩ |
    ⟨hb, hls, rfl⟩ | ⟨-, ⟨k, hk, hls⟩, rfl⟩ <;> obtain ⟨rfl, rfl⟩ := List.cons.inj hls
  · rcases readComment?_end hr with ⟨-, rfl, rfl⟩ | ⟨hk, ht, -⟩
    · exact .inl ⟨.inr (take_lineAhead _), rfl⟩
    · exact .inl ⟨.inr ht.symm, by rcases hk with hk | hk <;> rw [Lexeme.isMarked, hk] <;> rfl⟩
  · exact .inr (readMarkedString?_length hr)
  · obtain ⟨q, hq, -, rfl⟩ := readPhrase?_cases hr
    have key : ∀ q ∈ allPhrases, (⟨.phrase, q⟩ : Lexeme).isName = false := by decide +kernel
    rw [key q hq] at hl
    cases hl
  · obtain ⟨r, hr⟩ := startsWith_iff.1 hr
    exact .inl ⟨.inr (by rw [hr, List.take_left]), rfl⟩
  · have key : ∀ c ∈ breakChars, (⟨signKind c, [c]⟩ : Lexeme).isMarked = false := by decide +kernel
    exact .inl ⟨.inr rfl, key c hb⟩
  · exact .inl ⟨.inr (take_wordAhead _), by rcases hk with rfl | rfl <;> rfl⟩

end Name

/-! ## The tokens of a name -/

/-- Whether a token's source text shows the text it holds. -/
def Token.IsVerbatim (sql : Text) (t : Token) : Prop := Shows (slice sql t.start t.stop) t.text

instance (sql : Text) (t : Token) : Decidable (t.IsVerbatim sql) :=
  inferInstanceAs (Decidable (_ ∨ _))

/-- A name token that is no suffix of a number is verbatim, unless it is a marked literal. -/
theorem isVerbatim_iff {sql : Text} {s : Statement} (hs : readStatement sql = .ok s) {A B : List Token}
    {t : Token} (ht : s.tokens = A ++ t :: B) (hB : B ≠ []) (hname : t.isName = true)
    (hA : ∀ a, A.getLast? = some a → a.toLexeme ≠ ⟨.symbol, "::".toList⟩) :
    t.IsVerbatim sql ↔ t.isMarked = false := by
  obtain ⟨pieces, hscan, htokens, hcheck⟩ := readStatement_eq_ok hs
  rw [htokens] at ht hcheck
  obtain ⟨P, R, x, y, q, -, -, -, rfl, -, hstart, hfrom, hy⟩ := scan_cut_name hscan ht hcheck hB hname hA
  obtain ⟨c, u, r, ls, R', rfl, -, hread, -, hstop, -⟩ := scan_first hfrom hy
  have hslice : slice (x ++ c :: (u ++ r)) t.start t.stop = (c :: (u ++ r)).take (u.length + 1) := by
    rw [slice, hstop, hstart, List.drop_left, Nat.add_sub_cancel_left]
  rw [Token.IsVerbatim, hslice]
  rcases readLexeme_name hread hname with ⟨hshows, hkind⟩ | ⟨hkind, hhead, hlength⟩
  · exact ⟨fun _ => hkind, fun _ => hshows⟩
  · rw [hkind]
    exact iff_of_false (not_shows (by simpa using hhead) (by simpa using hlength)) (by decide)

/-- No part of a name is the suffix of a number if the first is none: the others stand after dots. -/
theorem Dotted.isVerbatim_iff {sql : Text} {s : Statement} (hs : readStatement sql = .ok s)
    {M N parts rest : List Token} (h : Dotted parts N) (htokens : s.tokens = M ++ (N ++ rest))
    (hrest : rest ≠ []) (hM : ∀ a, M.getLast? = some a → a.toLexeme ≠ ⟨.symbol, "::".toList⟩) :
    ∀ t ∈ parts, t.IsVerbatim sql ↔ t.isMarked = false := by
  induction h generalizing M with
  | one ht =>
    intro t hmem
    cases List.mem_singleton.1 hmem
    exact Sql.isVerbatim_iff hs htokens hrest ht hM
  | @cons first d parts N ht hd h ih =>
    intro t hmem
    rcases List.mem_cons.1 hmem with rfl | hmem
    · exact Sql.isVerbatim_iff hs htokens (by simp) ht hM
    · refine ih (M := M ++ [first, d]) (by rw [htokens]; simp) (fun a ha he => ?_) t hmem
      have ha : d = a := by simpa using ha
      rw [ha, he] at hd
      cases hd

theorem Worded.not_cast {M : List Token} (h : Worded createWords M) :
    ∀ a, M.getLast? = some a → a.toLexeme ≠ ⟨.symbol, "::".toList⟩ := by
  intro a ha he
  have hw := h a (List.mem_of_getLast? ha) "::".toList (by rw [he]; decide +kernel)
  exact absurd hw (by decide)

/-! ## The names of headers -/

/-- The parts of a name are the texts of tokens that stand after `M`, with dots between them. -/
def ReadFrom (tokens M : List Token) (ref : TableRef) (parts : List Token) : Prop :=
  ∃ N rest, tokens = M ++ (N ++ rest) ∧ Dotted parts N ∧ parts.map (·.text) = ref.given

theorem readFrom_of_readTableName {sql : Text} {s : Statement} (hs : readStatement sql = .ok s)
    {M r : List Token} {name : NameReading} (htokens : s.tokens = M ++ r)
    (hname : readTableName r = some name) (hrest : name.rest ≠ [])
    (hM : ∀ a, M.getLast? = some a → a.toLexeme ≠ ⟨.symbol, "::".toList⟩) :
    ∃ parts, ReadFrom s.tokens M name.ref parts ∧ ∀ t ∈ parts, t.IsVerbatim sql ↔ t.isMarked = false := by
  obtain ⟨b, parts, N, hN, rfl, -, -, htexts, -⟩ := readTableName_dotted hname
  exact ⟨b :: parts, ⟨N, name.rest, htokens, hN, htexts⟩, hN.isVerbatim_iff hs htokens hrest hM⟩

end Sql

/-- The parts of a name in the header of an INSERT or of a CREATE TABLE are as they are written, in
back-ticks or bare, except just for those read from marked literals. -/
theorem names_verbatim (sql : Text) :
    (∀ i, readInsert sql = .ok i → ∃ s M parts, readStatement sql = .ok s ∧ Heading i.overwrite M ∧
      ReadFrom s.tokens M i.target parts ∧ ∀ t ∈ parts, t.IsVerbatim sql ↔ t.isMarked = false) ∧
    ∀ s header, readStatement sql = .ok s → readTableHeader sql s.tokens = some header →
      ∃ M parts, Worded createWords M ∧ ReadFrom s.tokens M header.table parts ∧
        ∀ t ∈ parts, t.IsVerbatim sql ↔ t.isMarked = false := by
  constructor
  · intro i hi
    obtain ⟨s, hs, hheader⟩ := readInsert_eq_ok hi
    obtain ⟨M, r, htokens, hheading, hinto⟩ := heading_of_read hheader
    obtain ⟨name, hname, hbody, htarget, -⟩ := readInto_eq_some hinto
    have hrest : name.rest ≠ [] := by
      intro hnil
      rw [hnil] at hbody
      cases hbody
    obtain ⟨parts, hparts, hverbatim⟩ := readFrom_of_readTableName hs htokens hname hrest hheading.not_cast
    exact ⟨s, M, parts, hs, hheading, by rwa [htarget], hverbatim⟩
  · intro s header hs hheader
    obtain ⟨opening, rest, inner, closing, after, hopening, -⟩ := readTableHeader_eq_some hheader
    obtain ⟨M, r, name, htokens, hM, hname, htable, hrest, -⟩ := readTableOpening_worded hopening
    obtain ⟨parts, hparts, hverbatim⟩ :=
      readFrom_of_readTableName hs htokens hname (by rw [hrest]; simp) hM.not_cast
    exact ⟨M, parts, hM, by rwa [← htable], hverbatim⟩

/-- An INSERT into a name with a back-tick in it. -/
def tickedInsert : Text := "INSERT INTO `a``b`.t SELECT 1".toList

theorem names_verbatim_quoted : ∃ (i : Insert) (parts : List Token), readInsert tickedInsert = .ok i ∧
    i.target = ⟨none, some "a`b".toList, "t".toList⟩ ∧ parts.map (·.text) = ["a`b".toList, "t".toList] ∧
      ∀ t ∈ parts, t.IsVerbatim tickedInsert := by
  have hread : readInsert tickedInsert =
      .ok ⟨⟨none, some "a`b".toList, "t".toList⟩, tickedInsert, 12, 20, [], false⟩ :=
    eq_ok_of_toOption (by decide +kernel)
  obtain ⟨s, M, parts, hs, -, ⟨N, rest, htokens, hN, htexts⟩, hverbatim⟩ :=
    (names_verbatim tickedInsert).1 _ hread
  have hunmarked : (readStatement tickedInsert).toOption.all (·.tokens.all (!·.isMarked)) = true := by
    decide +kernel
  rw [hs] at hunmarked
  refine ⟨_, parts, hread, rfl, htexts, fun t ht => (hverbatim t ht).2 ?_⟩
  have hmem : t ∈ s.tokens := by
    rw [htokens]
    exact List.mem_append_right _ (List.mem_append_left _ (hN.subset ht))
  simpa using List.all_eq_true.1 hunmarked t hmem

/-- An INSERT into a string with a mark. -/
def markedInsert : Text := "INSERT INTO x'ab' SELECT 1".toList

/-- A definition under a number with a mark. -/
def markedTable : Text := "CREATE TABLE 0xab (id INT)".toList

/-- Marked literals are taken for names by their content. -/
theorem names_marked :
    (∃ i, readInsert markedInsert = .ok i ∧ i.target = ⟨none, none, "ab".toList⟩ ∧
      slice markedInsert i.start i.stop = "x'ab'".toList) ∧
    ∃ s header, readStatement markedTable = .ok s ∧ readTableHeader markedTable s.tokens = some header ∧
      header.table = ⟨none, none, "ab".toList⟩ ∧
      ∃ t ∈ s.tokens, t.text = "ab".toList ∧ slice markedTable t.start t.stop = "0xab".toList := by
  constructor
  · exact ⟨⟨⟨none, none, "ab".toList⟩, markedInsert, 12, 17, [], false⟩,
      eq_ok_of_toOption (by decide +kernel), rfl, by decide⟩
  · have hread : (readStatement markedTable).toOption.any (fun s =>
        readTableHeader markedTable s.tokens = some ⟨⟨none, none, "ab".toList⟩, "id INT".toList⟩ ∧
        ∃ t ∈ s.tokens, t.text = "ab".toList ∧
          slice markedTable t.start t.stop = "0xab".toList) = true := by decide +kernel
    obtain ⟨s, hs, hread⟩ := (Option.any_eq_true _ _).1 hread
    obtain ⟨hheader, htoken⟩ := of_decide_eq_true hread
    exact ⟨s, _, eq_ok_of_toOption hs, hheader, rfl, htoken⟩

end DryRun
