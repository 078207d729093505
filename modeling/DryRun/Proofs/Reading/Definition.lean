import DryRun.Proofs.Sql.Headers
import DryRun.Reading.Definition

/-!
# Reading a definition from its parts

`readDefinition_of_parens` reads a CREATE TABLE that is put together from a header, columns in
parentheses and what follows them. `columns_of_readDefinition` goes the other way: the columns of every
definition are a text that can be put between parentheses again.
-/

namespace DryRun

open Text Sql

/-! ## Tokens without comments -/

theorem filter_significant {M : List Token} {L : List Lexeme} (h : M.map Token.toLexeme = L)
    (hL : L.all (·.kind != .comment) = true) : M.filter Token.isSignificant = M := by
  rw [List.filter_eq_self]
  intro t ht
  exact List.all_eq_true.1 hL t.toLexeme (by rw [← h]; exact List.mem_map_of_mem ht)

theorem map_filter_significant (M : List Token) :
    (M.filter Token.isSignificant).map Token.toLexeme =
      (M.map Token.toLexeme).filter (·.kind != .comment) := by
  rw [List.filter_map]
  rfl

/-- Lexemes with balanced parentheses, without comments and separators. -/
def isQuiet (L : List Lexeme) : Bool :=
  L.all (fun l => l.kind != .comment && l.kind != .semicolon) && level 0 (L.map (·.kind)) == some 0

section Quiet

variable {M : List Token} {L : List Lexeme} (hM : M.map Token.toLexeme = L) (hL : isQuiet L = true)

theorem isQuiet_eq_true {L : List Lexeme} (h : isQuiet L = true) :
    L.all (·.kind != .comment) = true ∧ L.all (·.kind != .semicolon) = true ∧
      level 0 (L.map (·.kind)) = some 0 := by
  simp only [isQuiet, Bool.and_eq_true, List.all_eq_true, beq_iff_eq] at h
  exact ⟨List.all_eq_true.2 fun l hl => (h.1 l hl).1, List.all_eq_true.2 fun l hl => (h.1 l hl).2, h.2⟩

theorem isQuiet_append {L₁ L₂ : List Lexeme} (h₁ : isQuiet L₁ = true) (h₂ : isQuiet L₂ = true) :
    isQuiet (L₁ ++ L₂) = true := by
  simp only [isQuiet, Bool.and_eq_true, List.all_append, List.map_append, beq_iff_eq] at h₁ h₂ ⊢
  exact ⟨⟨h₁.1, h₂.1⟩, by rw [level_append h₁.2, h₂.2]⟩

include hM hL

theorem filter_quiet : M.filter Token.isSignificant = M :=
  filter_significant hM (isQuiet_eq_true hL).1

theorem checkTokens_quiet (k : Nat) (rest : List Token) :
    checkTokens k (M ++ rest) = checkTokens k rest :=
  checkTokens_lexemes (d := 0) (e := 0) hM (isQuiet_eq_true hL).2.2 (isQuiet_eq_true hL).2.1 k rest

theorem head_quiet (hne : L ≠ []) (rest : List Token) :
    (M ++ rest).head?.any (·.kind != .semicolon) = true := by
  cases M with
  | nil => exact absurd hM.symm hne
  | cons t M =>
    have := List.all_eq_true.1 (isQuiet_eq_true hL).2.1 t.toLexeme (by rw [← hM]; simp)
    simpa using this

/-- A text that is read as quiet lexemes is one statement. -/
theorem readStatement_quiet {sql : Text} (hs : scan sql = .ok M) (hne : L ≠ []) :
    ∃ c, readStatement sql = .ok ⟨M, c⟩ := by
  have hf := filter_quiet hM hL
  have hcheck := checkTokens_quiet hM hL 0 []
  have hhead := head_quiet hM hL hne []
  rw [List.append_nil] at hcheck hhead
  refine ⟨commentAfterEnd M, ?_⟩
  rw [readStatement_of_scan hs (by rwa [hf]), hf, hcheck]
  rfl

end Quiet

/-! ## Putting a definition together -/

/-- Texts that can stand between the parentheses of a table: read as `L` after the opening one, with
balanced parentheses, no separator and no blanks at either end. -/
structure Columns (columns : Text) (L : List Lexeme) : Prop where
  reads : ∃ q, Reads [] (some ⟨.leftParen, ['(']⟩) columns L q
  balanced : level 0 ((L.filter (·.kind != .comment)).map (·.kind)) = some 0
  separators : ∀ l ∈ L, l.kind ≠ .semicolon
  strip : Text.strip columns = columns

section Parens

variable {x z columns : Text} {q₁ q₃ : Option Lexeme} {L₁ L L₃ : List Lexeme} {table : TableRef}

theorem Columns.inner {M : List Token} (h : Columns columns L)
    (hM : M.map Token.toLexeme = L.filter (·.kind != .comment)) (k : Nat) (rest : List Token) :
    level 0 (M.map (·.kind)) = some 0 ∧ checkTokens k (M ++ rest) = checkTokens k rest := by
  refine ⟨?_, checkTokens_lexemes (d := 0) (e := 0) hM h.balanced ?_ k rest⟩
  · rw [← h.balanced, ← hM, List.map_map]
    rfl
  · exact List.all_eq_true.2 fun l hl => by simpa using h.separators l (List.mem_filter.1 hl).1

/-- The lexemes `L` open the definition of `table` up to its parenthesis. -/
def OpensTable (L : List Lexeme) (table : TableRef) : Prop :=
  ∀ (M : List Token) (o : Token) (rest : List Token), M.map Token.toLexeme = L → o.kind = .leftParen →
    readTableOpening (M ++ o :: rest) = some (table, o, rest)

/-- A definition is read from its header, its columns and what follows them, if the columns do not end
in a line comment. -/
theorem readDefinition_of_parens (h₁ : Reads ('(' :: (columns ++ ')' :: z)) none x L₁ q₁)
    (hq₁ : isQuiet L₁ = true) (hne : L₁ ≠ []) (hopen : OpensTable L₁ table) (h : Columns columns L)
    (hline : L.getLast?.any Lexeme.isLineComment = false)
    (h₃ : Reads [] (some ⟨.rightParen, [')']⟩) z L₃ q₃) (hq₃ : isQuiet L₃ = true) :
    readDefinition (x ++ '(' :: (columns ++ ')' :: z)) =
      .ok ⟨.create, "TABLE".toList, some table, columns⟩ := by
  obtain ⟨q, hr⟩ := h.reads
  have hcols := hr.extend (y := ')' :: z) (fun _ => .inl .paren) fun _ => hline
  obtain ⟨M₁, M₂, M₃, hM₁, hM₂, hM₃, hscan⟩ := scan_parens h₁ hcols h₃
  have hin := h.inner (M := M₂.filter Token.isSignificant) (by rw [map_filter_significant, hM₂])
  generalize hlp : (⟨⟨.leftParen, ['(']⟩, x.length, x.length + 1⟩ : Token) = lp at hscan
  generalize hrp : (⟨⟨.rightParen, [')']⟩, x.length + 1 + columns.length,
    x.length + 1 + columns.length + 1⟩ : Token) = rp at hscan
  have hlk : lp.kind = .leftParen ∧ lp.stop = x.length + 1 := by rw [← hlp]; exact ⟨rfl, rfl⟩
  have hrk : rp.kind = .rightParen ∧ rp.start = x.length + 1 + columns.length := by
    rw [← hrp]; exact ⟨rfl, rfl⟩
  have hfilter : (M₁ ++ lp :: (M₂ ++ rp :: M₃)).filter Token.isSignificant =
      M₁ ++ lp :: (M₂.filter Token.isSignificant ++ rp :: M₃) := by
    have hls : lp.isSignificant = true := by rw [← hlp]; rfl
    have hrs : rp.isSignificant = true := by rw [← hrp]; rfl
    rw [List.filter_append, List.filter_cons_of_pos hls, List.filter_append, List.filter_cons_of_pos hrs,
      filter_quiet hM₁ hq₁, filter_quiet hM₃ hq₃]
  have hcheck : checkTokens 0 (M₁ ++ lp :: (M₂.filter Token.isSignificant ++ rp :: M₃)) = .ok () := by
    have hend := checkTokens_quiet hM₃ hq₃ 0 []
    rw [List.append_nil] at hend
    rw [checkTokens_quiet hM₁ hq₁, checkTokens_leftParen hlk.1, (hin _ _).2,
      checkTokens_rightParen hrk.1, hend]
    rfl
  have hheader : readTableHeader (x ++ '(' :: (columns ++ ')' :: z))
      (M₁ ++ lp :: (M₂.filter Token.isSignificant ++ rp :: M₃)) = some ⟨table, columns⟩ := by
    have henc : enclosed 0 (M₂.filter Token.isSignificant ++ rp :: M₃) =
        some (M₂.filter Token.isSignificant, rp, M₃) :=
      enclosed_eq_some.2 ⟨rfl, hrk.1, (hin 0 []).1⟩
    rw [readTableHeader, hopen M₁ lp _ hM₁ hlk.1]
    simp only [Option.bind_eq_bind, Option.bind_some, henc, hlk.2, hrk.2]
    rw [slice_between, h.strip]
  rw [readDefinition, readStatement_of_scan hscan (by rw [hfilter]; exact head_quiet hM₁ hq₁ hne _),
    hfilter, hcheck]
  simp only [Except.map, hheader]

end Parens

/-! ## Taking a definition apart -/

/-- A text that is read as balanced tokens can stand between parentheses without the blanks around it. -/
theorem columns_of_reads {t : Text} {P : List Token} {q : Option Lexeme}
    (h : Reads [] (some ⟨.leftParen, ['(']⟩) t (P.map Token.toLexeme) q)
    (hlevel : level 0 ((P.filter Token.isSignificant).map (·.kind)) = some 0)
    (hsep : ∀ s ∈ P, s.kind ≠ .semicolon) : ∃ L, Columns (Text.strip t) L := by
  obtain ⟨a, b, ht, ha, hb⟩ := exists_strip t
  rw [ht] at h
  obtain ⟨L, hL, hf⟩ := (h.drop_blanks ha).trim (fun c => strip_last) hb
  rw [← map_filter_significant] at hf
  refine ⟨L, ⟨q, hL⟩, ?_, fun l hl hk => ?_, strip_strip t⟩
  · rw [hf, List.map_map]
    exact hlevel
  · have hm : l ∈ L.filter (·.kind != .comment) := List.mem_filter.2 ⟨hl, by rw [hk]; rfl⟩
    rw [hf] at hm
    obtain ⟨s, hs, rfl⟩ := List.mem_map.1 hm
    exact hsep s (List.mem_filter.1 hs).1 hk

theorem readDefinition_of_header {sql : Text} {s : Statement} {header : TableHeader}
    (hs : readStatement sql = .ok s) (hh : readTableHeader sql s.tokens = some header) :
    readDefinition sql = .ok ⟨.create, "TABLE".toList, some header.table, header.columns⟩ := by
  rw [readDefinition, hs]
  simp only [hh]

/-- A CREATE TABLE with columns is known by its header: the grammar keeps no columns. -/
theorem readDefinition_header {sql : Text} {d : Definition} (h : readDefinition sql = .ok d)
    (hd : d.isCreateTable = true) :
    ∃ s header, readStatement sql = .ok s ∧ readTableHeader sql s.tokens = some header ∧
      d.table = some header.table ∧ d.columns = header.columns := by
  unfold readDefinition at h
  split at h
  · cases h
  · rename_i s hs
    split at h
    · rename_i header hh
      cases h
      exact ⟨s, header, hs, hh, rfl, rfl⟩
    · split at h
      · cases h
      · cases h
        simp [Definition.isCreateTable, isBlankText] at hd

/-- The text of the columns of a definition can stand between parentheses. -/
theorem columns_of_readDefinition {sql : Text} {d : Definition} (h : readDefinition sql = .ok d)
    (hd : d.isCreateTable = true) : ∃ L, Columns d.columns L := by
  obtain ⟨s, header, hs, hh, -, hcols⟩ := readDefinition_header h hd
  obtain ⟨opening, rest, inner, closing, after, ho, he, hslice⟩ := readTableHeader_eq_some hh
  obtain ⟨pieces, hscan, htokens, hcheck⟩ := readStatement_eq_ok hs
  obtain ⟨A, hA, hok⟩ := readTableOpening_split ho
  obtain ⟨rfl, hck, hlevel⟩ := enclosed_eq_some.1 he
  rw [hA] at htokens
  obtain ⟨P, q, hin, hsep, hreads⟩ :=
    reads_between hscan htokens.symm (by rwa [← htokens, ← hA]) hok hck
  rw [hcols, hslice]
  exact columns_of_reads hreads (by rwa [hin]) hsep

end DryRun
