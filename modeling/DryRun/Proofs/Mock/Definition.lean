import DryRun.Proofs.Mock.Name
import DryRun.Proofs.Reading.Definition

/-!
# The definition of a mock

The definition of a mock is a template into which the columns of the table are pasted as they were
written. `readDefinition_createTable` reads it back for columns that can stand between parentheses, as
those of every definition can, so that the template keeps them unless they end in a line comment.
-/

namespace DryRun

open Text Sql

/-- The lexemes of one column. -/
def idLexemes : List Lexeme := [⟨.word, "id".toList⟩, ⟨.word, "INT".toList⟩]

theorem columns_id : Columns "id INT".toList idLexemes where
  reads := by
    refine ⟨some ⟨.word, "INT".toList⟩, .word (w := "id".toList) (x := " INT".toList) (by decide) rfl rfl
      (.blank (by decide) ?_)⟩
    exact .word (w := "INT".toList) (x := []) (by decide) rfl rfl .nil
  balanced := rfl
  separators := by decide
  strip := by decide

namespace Mock

/-! ## The template -/

/-- What stands before the columns in the definition of a mock. -/
def templateHead (n : Text) : Text := "CREATE TABLE ".toList ++ (name n ++ " ".toList)

/-- What stands after the columns. -/
def templateTail (connector : Text) : Text :=
  " WITH (\x27connector\x27=\x27".toList ++ (connector ++ "\x27)".toList)

theorem createTable_eq (n columns connector : Text) :
    createTable n columns connector =
      templateHead n ++ '(' :: (columns ++ ')' :: templateTail connector) := by
  have paste : ∀ a b c d e f g : Text, a ++ b ++ (c ++ ['(']) ++ d ++ (')' :: e) ++ f ++ g =
      a ++ (b ++ c) ++ '(' :: (d ++ ')' :: (e ++ (f ++ g))) := by
    intros
    simp only [List.append_assoc, List.cons_append, List.nil_append]
  exact paste "CREATE TABLE ".toList (name n) " ".toList columns
    " WITH (\x27connector\x27=\x27".toList connector "\x27)".toList

/-- The lexemes before the columns. -/
def headLexemes (n : Text) : List Lexeme :=
  ⟨.word, "CREATE".toList⟩ :: ⟨.word, "TABLE".toList⟩ :: (placeLexemes ++ [⟨.word, mark ++ n⟩])

/-- The lexemes after the columns. -/
def tailLexemes (connector : Text) : List Lexeme :=
  [⟨.word, "WITH".toList⟩, ⟨.leftParen, ['(']⟩, ⟨.string, "connector".toList⟩, ⟨.symbol, ['=']⟩,
   ⟨.string, connector⟩, ⟨.rightParen, [')']⟩]

/-- The text and the lexemes of a definition before the last part of the name. -/
theorem reads_createPlace (y : Text) : Reads y none ("CREATE TABLE ".toList ++ place)
    (⟨.word, "CREATE".toList⟩ :: ⟨.word, "TABLE".toList⟩ :: placeLexemes) (some ⟨.dot, ['.']⟩) := by
  refine .word (w := "CREATE".toList) (x := " TABLE ".toList ++ place) (by decide) rfl rfl
    (.blank (by decide) ?_)
  exact .word (w := "TABLE".toList) (x := " ".toList ++ place) (by decide) rfl rfl
    (.blank (by decide) (reads_place rfl y))

theorem templateHead_eq (n y : Text) :
    templateHead n ++ y = ("CREATE TABLE ".toList ++ place) ++ (mark ++ (n ++ ' ' :: y)) := by
  have assoc : ∀ a b c d e : Text,
      a ++ ((b ++ (c ++ d)) ++ [' ']) ++ e = (a ++ b) ++ (c ++ (d ++ ' ' :: e)) := by
    intros
    simp only [List.append_assoc, List.singleton_append]
  exact assoc "CREATE TABLE ".toList place mark n y

theorem reads_templateHead {n : Text} (hn : n.all isPlainChar = true) (y : Text) :
    Reads y none (templateHead n) (headLexemes n) (some ⟨.word, mark ++ n⟩) := by
  have hname : Reads y (some ⟨.dot, ['.']⟩) ((mark ++ n) ++ [' ']) [⟨.word, mark ++ n⟩]
      (some ⟨.word, mark ++ n⟩) :=
    .word (isPlainWord_mark hn) rfl rfl (.blank (by decide) .nil)
  have h := (reads_createPlace _).append hname
  rw [List.append_assoc mark, ← templateHead_eq n [], List.append_nil] at h
  exact h

/-- The lexemes between the columns and the connector. -/
def optionLexemes : List Lexeme :=
  [⟨.word, "WITH".toList⟩, ⟨.leftParen, ['(']⟩, ⟨.string, "connector".toList⟩, ⟨.symbol, ['=']⟩]

/-- The text between the columns and the connector is read up to the quote before the connector. -/
theorem reads_optionHead {p : Option Lexeme} (hp : p.any Lexeme.isSigil = false) (y : Text) :
    Reads ('\x27' :: y) p " WITH (\x27connector\x27=".toList optionLexemes (some ⟨.symbol, ['=']⟩) := by
  refine .blank (by decide) ?_
  refine .word (w := "WITH".toList) (x := " (\x27connector\x27=".toList) (by decide) hp rfl ?_
  refine .blank (by decide) (.sign (by decide) ?_)
  refine .lexeme (c := '\x27') (u := "connector\x27".toList) (K := [⟨.string, "connector".toList⟩])
    (x := "=".toList) (by decide) (readLexeme_string (s := "connector".toList) (by decide) _) rfl ?_
  exact .lexeme (c := '=') (u := []) (x := []) (K := [⟨.symbol, ['=']⟩]) (by decide) rfl rfl .nil

/-- A connector that stands for itself is read back. -/
theorem reads_connector {connector : Text} (hc : isLiteral '\x27' connector = true) (p : Option Lexeme) :
    Reads [] p ('\x27' :: (connector ++ ['\x27', ')'])) [⟨.string, connector⟩, ⟨.rightParen, [')']⟩]
      (some ⟨.rightParen, [')']⟩) := by
  have hs := readLexeme_string (p := p) hc [')']
  have hlast : Reads [] p ('\x27' :: ((connector ++ ['\x27']) ++ [')']))
      ([⟨.string, connector⟩] ++ [⟨.rightParen, [')']⟩]) (some ⟨.rightParen, [')']⟩) :=
    .lexeme (by decide) (by rwa [List.append_nil, List.append_assoc]) (by simp [Lexeme.opensCommand])
      (.sign (by decide) .nil)
  rwa [List.append_assoc] at hlast

theorem reads_templateTail {connector : Text} (hc : isLiteral '\x27' connector = true) (p : Option Lexeme)
    (hp : p.any Lexeme.isSigil = false) :
    Reads [] p (templateTail connector) (tailLexemes connector) (some ⟨.rightParen, [')']⟩) := by
  have hoption := reads_optionHead hp (connector ++ ['\x27', ')'])
  rw [← List.append_nil (connector ++ ['\x27', ')'])] at hoption
  exact hoption.append (reads_connector hc _)

/-- A letter, a digit or a hyphen of ASCII. -/
def isConnectorChar (c : Char) : Bool := c.isAlphanum || c == '-'

theorem isLiteral_connector {connector : Text} (h : connector.all isConnectorChar = true) :
    isLiteral '\x27' connector = true := by
  refine isLiteral_of_forall fun c hc => ?_
  have hchar := List.all_eq_true.1 h c hc
  constructor <;> rintro rfl <;> exact absurd hchar (by decide)

/-- The tokens before the columns are read as the header of the mock. -/
theorem opensTable_head {n : Text} (hn : n.all isPlainChar = true) :
    OpensTable (headLexemes n) (ref n) := by
  intro M o rest hM ho
  obtain ⟨c, M, rfl, hc, hM⟩ := List.map_eq_cons_iff.1 hM
  obtain ⟨t, M, rfl, ht, hM⟩ := List.map_eq_cons_iff.1 hM
  obtain ⟨P, X, rfl, hP, hX⟩ := List.map_eq_append_iff.1 hM
  obtain ⟨w₁, d₁, w₂, d₂, rfl, place⟩ := exists_place hP
  obtain ⟨x, N, rfl, hx, hN⟩ := List.map_eq_cons_iff.1 hX
  obtain rfl := List.map_eq_nil_iff.1 hN
  have hrest : ∀ s, (o :: rest).head? = some s → s.kind ≠ .dot := fun s hs => by
    cases hs
    rw [ho]
    decide
  have hname := place.readTableName (x := x) (by rw [hx]; exact isName_mark hn) hrest
  rw [hx] at hname
  exact (readTableOpening_name hc ht (.inr ⟨_, place.spelled, by decide⟩) _).trans
    (readOpening_eq_some.2 ⟨_, hname, rfl, rfl, ho⟩)

/-! ## Reading the definition back -/

section Template

variable {n columns connector : Text} {L : List Lexeme} (hn : n.all isPlainChar = true)
  (h : Columns columns L)

include hn h in
/-- The definition of a mock is read back, if its columns do not end in a line comment. -/
theorem readDefinition_createTable (hc : connector.all isConnectorChar = true)
    (hline : L.getLast?.any Lexeme.isLineComment = false) :
    readDefinition (createTable n columns connector) =
      .ok ⟨.create, "TABLE".toList, some (ref n), columns⟩ := by
  rw [createTable_eq]
  exact readDefinition_of_parens (reads_templateHead hn _) rfl (by simp [headLexemes])
    (opensTable_head hn) h hline (reads_templateTail (isLiteral_connector hc) _ rfl) rfl

theorem not_newline_templateTail (hc : connector.all isConnectorChar = true) :
    ∀ d ∈ ')' :: templateTail connector, (d != '\n' && d != '\r') = true := by
  have hlead : ∀ d ∈ ") WITH (\x27connector\x27=\x27".toList, (d != '\n' && d != '\r') = true := by decide
  have htail : ∀ d ∈ "\x27)".toList, (d != '\n' && d != '\r') = true := by decide
  intro d hd
  rcases List.mem_append.1 (show d ∈ ") WITH (\x27connector\x27=\x27".toList ++ (connector ++ "\x27)".toList)
    from hd) with hd | hd
  · exact hlead d hd
  rcases List.mem_append.1 hd with hd | hd
  · have hconn := List.all_eq_true.1 hc d hd
    by_cases h1 : d = '\n'
    · subst h1; exact absurd hconn (by decide)
    · by_cases h2 : d = '\r'
      · subst h2; exact absurd hconn (by decide)
      · simp [h1, h2]
  · exact htail d hd

include hn h in
/-- If the columns end in a line comment, the parenthesis after them is lost. -/
theorem readDefinition_createTable_open (hc : connector.all isConnectorChar = true)
    (hopen : L.getLast?.any Lexeme.isLineComment = true) :
    readDefinition (createTable n columns connector) = .error .unclosed := by
  obtain ⟨q, hr⟩ := h.reads
  have hlast : ∀ c, columns.getLast? = some c → isBlank c = false := by
    rw [← h.strip]
    exact fun c => strip_last
  obtain ⟨L', hL', hf⟩ := hr.openLine hlast hopen .paren (not_newline_templateTail hc)
  have hall : Reads [] none (createTable n columns connector)
      (headLexemes n ++ ⟨.leftParen, ['(']⟩ :: L') q := by
    rw [createTable_eq]
    exact .append (by rw [List.append_nil]; exact reads_templateHead hn _) (.sign (by decide) hL')
  obtain ⟨M, hM, hscan⟩ := scan_of_reads hall 0
  obtain ⟨M₁, M', rfl, h₁, hM'⟩ := List.map_eq_append_iff.1 hM
  obtain ⟨lp, M₂, rfl, hlp, h₂⟩ := List.map_eq_cons_iff.1 hM'
  have hlk : lp.kind = .leftParen := by rw [hlp]
  have hfilter : (M₁ ++ lp :: M₂).filter Token.isSignificant =
      M₁ ++ lp :: M₂.filter Token.isSignificant := by
    have hls : lp.isSignificant = true := by rw [Token.isSignificant, hlk]; rfl
    rw [List.filter_append, List.filter_cons_of_pos hls, filter_quiet h₁ rfl]
  have hcheck : checkTokens 0 (M₁ ++ lp :: M₂.filter Token.isSignificant) = .error .unclosed := by
    have hend := (h.inner (M := M₂.filter Token.isSignificant)
      (by rw [map_filter_significant, h₂, hf]) 1 []).2
    rw [List.append_nil] at hend
    rw [checkTokens_quiet h₁ rfl, checkTokens_leftParen hlk]
    exact hend
  have hhead := head_quiet h₁ rfl (by simp [headLexemes]) (lp :: M₂.filter Token.isSignificant)
  rw [readDefinition, readStatement_of_scan hscan (by rwa [hfilter]), hfilter, hcheck]
  rfl

end Template

/-- A definition that is read as that of the mock of `n` writes a plain name. -/
theorem isPlain_of_readDefinition {n columns connector : Text} {d : Definition}
    (h : readDefinition (createTable n columns connector) = .ok d) (hd : d.isCreateTable = true)
    (ht : d.table = some (ref n)) : n.all isPlainChar = true := by
  obtain ⟨s, header, hs, hh, htable, -⟩ := readDefinition_header h hd
  obtain ⟨opening, rest, -, -, -, ho, -⟩ := readTableHeader_eq_some hh
  have htable : header.table = ref n := Option.some.inj (htable.symm.trans ht)
  obtain ⟨pieces, hscan, htokens, -⟩ := readStatement_eq_ok hs
  -- the last part of the name is a word of the text
  rw [createTable_eq, templateHead_eq] at hscan
  generalize ' ' :: '(' :: (columns ++ ')' :: templateTail connector) = y at hscan
  obtain ⟨M, hM, hM'⟩ := (reads_createPlace (mark ++ (n ++ y))).scan 0
  rw [Sql.scan, hM'] at hscan
  obtain ⟨R, hR, rfl⟩ := map_eq_ok.1 hscan
  obtain ⟨x, R', rfl, hx⟩ := scan_head hR (by decide) (readLexeme_mark rfl (n ++ y))
  have hsig : x.isSignificant = true := by rw [Token.isSignificant, hx]; rfl
  rw [List.filter_append, filter_quiet hM rfl, List.filter_cons_of_pos hsig] at htokens
  obtain ⟨c, M, rfl, hc, hM⟩ := List.map_eq_cons_iff.1 hM
  obtain ⟨t, M, rfl, ht, hM⟩ := List.map_eq_cons_iff.1 hM
  obtain ⟨w₁, d₁, w₂, d₂, rfl, place⟩ := exists_place hM
  have hopening := readTableOpening_name hc ht (.inr ⟨_, place.spelled, by decide⟩)
    (d₁ :: w₂ :: d₂ :: x :: R'.filter Token.isSignificant)
  obtain ⟨name, hname, href, hrest, hk⟩ :=
    readOpening_eq_some.1 (hopening.symm.trans (by rw [← ho, htokens]; rfl))
  rcases place.third hname with ⟨hxn, hthird⟩ | hdot
  · have hname : wordAhead (mark ++ (n ++ y)) = mark ++ n := by
      have hparts := hthird.symm.trans (href.trans htable)
      rw [hx] at hparts
      exact congrArg TableRef.name hparts
    rw [hx, hname] at hxn
    exact isPlain_of_isName hxn fun c hc =>
      endsWord_of_mem_wordAhead (t := mark ++ (n ++ y)) (by rw [hname]; exact List.mem_append_right _ hc)
  · rw [hrest] at hdot
    rw [(List.cons.inj hdot).1, place.dot₂] at hk
    cases hk

/-- Whether a text, read after an opening parenthesis, ends in a line comment. -/
def endsInLineComment (columns : Text) : Bool :=
  match scanFrom 0 0 (some ⟨.leftParen, ['(']⟩) columns with
  | .ok pieces => pieces.getLast?.any (·.isLineComment)
  | .error _ => false

theorem endsInLineComment_eq {columns : Text} {L : List Lexeme} (h : Columns columns L) :
    endsInLineComment columns = L.getLast?.any Lexeme.isLineComment := by
  obtain ⟨q, hr⟩ := h.reads
  obtain ⟨M, rfl, hs⟩ := scan_of_reads hr 0
  rw [endsInLineComment, hs, List.getLast?_map]
  dsimp only
  cases M.getLast? <;> rfl

/-- The definition of a mock keeps the columns of the table's own definition, unless they end in a line
comment: that takes in the parenthesis after them. -/
theorem createTable_keeps_columns {sql : Text} {d : Definition} {n connector : Text}
    (h : readDefinition sql = .ok d) (hd : d.isCreateTable = true) (hn : n.all isPlainChar = true)
    (hc : connector.all isConnectorChar = true) :
    (∃ d', readDefinition (createTable n d.columns connector) = .ok d' ∧ d'.isCreateTable = true ∧
      d'.table = some (ref n) ∧ d'.columns = d.columns) ↔ endsInLineComment d.columns = false := by
  obtain ⟨L, hL⟩ := columns_of_readDefinition h hd
  rw [endsInLineComment_eq hL]
  cases hopen : L.getLast?.any Lexeme.isLineComment with
  | false =>
    refine ⟨fun _ => rfl, fun _ => ⟨_, readDefinition_createTable hn hL hc hopen, ?_, rfl, rfl⟩⟩
    simp only [Definition.isCreateTable, Bool.and_eq_true] at hd ⊢
    exact ⟨⟨⟨rfl, rfl⟩, rfl⟩, hd.2⟩
  | true =>
    rw [readDefinition_createTable_open hn hL hc hopen]
    simp

/-- A comment between two columns and nested parentheses are kept. -/
theorem createTable_keeps_columns_nested :
    let d : Definition := ⟨.create, "TABLE".toList, some ⟨none, none, "t".toList⟩,
      "a DECIMAL(4, 2), -- key\n b INT".toList⟩
    readDefinition "CREATE TABLE t (a DECIMAL(4, 2), -- key\n b INT )".toList = .ok d ∧
      ∃ d', readDefinition (createTable "t".toList d.columns defaultConnector) = .ok d' ∧
        d'.isCreateTable = true ∧ d'.table = some (ref "t".toList) ∧ d'.columns = d.columns := by
  have h : readDefinition "CREATE TABLE t (a DECIMAL(4, 2), -- key\n b INT )".toList =
      .ok ⟨.create, "TABLE".toList, some ⟨none, none, "t".toList⟩,
        "a DECIMAL(4, 2), -- key\n b INT".toList⟩ := rfl
  exact ⟨h, (createTable_keeps_columns h (by decide) (by decide) (by decide)).2 (by decide +kernel)⟩

/-- A line comment behind the last column makes the definition of the mock unreadable. -/
theorem createTable_loses_parenthesis :
    readDefinition "CREATE TABLE t (a INT -- c\n)".toList =
        .ok ⟨.create, "TABLE".toList, some ⟨none, none, "t".toList⟩, "a INT -- c".toList⟩ ∧
      readDefinition (createTable "t".toList "a INT -- c".toList defaultConnector) =
        .error .unclosed := by
  exact ⟨rfl, rfl⟩

end Mock

end DryRun
