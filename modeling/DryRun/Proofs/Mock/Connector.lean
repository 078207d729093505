import DryRun.Proofs.Mock.Definition
import DryRun.Settings.Basic

/-!
# The connector in the definition of a mock

The connector is pasted between single quotes as it is given, and settings ask of it only that it is not blank.
`createTable_connector` says which connectors are read back from the definition: those that stand for
themselves between quotes. Any other ends its string early, escapes a character or leaves the string open.
-/

namespace DryRun

open Text Sql

/-- The tokens after the columns of a CREATE TABLE. -/
def Sql.afterColumns? (tokens : List Token) : Option (List Token) :=
  (readTableOpening tokens).bind fun opening => (enclosed 0 opening.2.2).map fun columns => columns.2.2

namespace Mock

/-! ## Up to the connector -/

/-- What stands before the connector and its quotes. -/
def beforeConnector (n columns : Text) : Text :=
  templateHead n ++ '(' :: (columns ++ ')' :: " WITH (\x27connector\x27=".toList)

theorem createTable_eq_before (n columns connector : Text) :
    createTable n columns connector =
      beforeConnector n columns ++ '\x27' :: (connector ++ ['\x27', ')']) := by
  rw [createTable_eq, beforeConnector, List.append_assoc, List.cons_append, List.append_assoc]
  rfl

/-- The lexemes before the connector. -/
def beforeLexemes (n : Text) : List Lexeme :=
  headLexemes n ++ ⟨.leftParen, ['(']⟩ :: (idLexemes ++ ⟨.rightParen, [')']⟩ :: optionLexemes)

section Template

variable {n : Text} (hn : n.all isPlainChar = true)

include hn

theorem reads_beforeConnector (y : Text) :
    Reads ('\x27' :: y) none (beforeConnector n "id INT".toList) (beforeLexemes n) (some ⟨.symbol, ['=']⟩) := by
  obtain ⟨q, hid⟩ := columns_id.reads
  have hclosed : Reads ('\x27' :: y) q (')' :: " WITH (\x27connector\x27=".toList)
      (⟨.rightParen, [')']⟩ :: optionLexemes) (some ⟨.symbol, ['=']⟩) :=
    .sign (by decide) (reads_optionHead rfl y)
  have hcolumns : Reads (')' :: " WITH (\x27connector\x27=".toList ++ '\x27' :: y)
      (some ⟨.leftParen, ['(']⟩) "id INT".toList idLexemes q :=
    hid.extend (fun _ => .inl .paren) fun _ => rfl
  exact (reads_templateHead hn _).append (.sign (by decide) (hcolumns.append hclosed))

/-- What follows the columns is found behind them. -/
theorem afterColumns?_before {M R : List Token} (hM : M.map Token.toLexeme = beforeLexemes n) :
    ∃ O : List Token, O.map Token.toLexeme = optionLexemes ∧ afterColumns? (M ++ R) = some (O ++ R) := by
  obtain ⟨H, M', rfl, hH, hM'⟩ := List.map_eq_append_iff.1 hM
  obtain ⟨lp, M', rfl, hlp, hM'⟩ := List.map_eq_cons_iff.1 hM'
  obtain ⟨C, M', rfl, hC, hM'⟩ := List.map_eq_append_iff.1 hM'
  obtain ⟨rp, O, rfl, hrp, hO⟩ := List.map_eq_cons_iff.1 hM'
  have hlk : lp.kind = .leftParen := by rw [hlp]
  have hrk : rp.kind = .rightParen := by rw [hrp]
  have hbalanced : level 0 (C.map (·.kind)) = some 0 := (columns_id.inner hC 0 []).1
  have hopening := opensTable_head hn H lp (C ++ rp :: (O ++ R)) hH hlk
  have henclosed : enclosed 0 (C ++ rp :: (O ++ R)) = some (C, rp, O ++ R) :=
    enclosed_eq_some.2 ⟨rfl, hrk, hbalanced⟩
  refine ⟨O, hO, ?_⟩
  rw [afterColumns?]
  simp only [List.append_assoc, List.cons_append]
  rw [hopening, Option.bind_some, henclosed]
  rfl

end Template

/-! ## The connector -/

/-- What is read as the connector up to its last quote was written so. -/
theorem isLiteral_of_quotedBody {connector : Text} {used k : Nat}
    (h : quotedBody .backslash '\x27' [] used (connector ++ ['\x27', ')']) = some (connector, k)) :
    isLiteral '\x27' connector = true := by
  obtain ⟨u, y, w, ht, hw, hle, hliteral⟩ := quotedBody_source (by decide) rfl h
  obtain rfl : connector = w := hw
  -- the closing quote stands at the last place that it can, since what it closes is no longer
  have hlen : connector.length + 2 = u.length + (y.length + 1) := by
    simpa using congrArg List.length ht
  have hy : y ≠ [] := by
    rintro rfl
    have hlast := congrArg List.getLast? ht
    simp at hlast
  have hpos := List.length_pos_iff.2 hy
  have hu : u = connector := (List.append_inj ht (by omega)).1.symm
  rw [← hu]
  exact hliteral (by omega)

/-- The first lexeme of a string in quotes, wherever it closes. -/
theorem scanFrom_string {o : Nat} {p : Option Lexeme} {t : Text} {R : List Token}
    (h : scanFrom 0 o p ('\x27' :: t) = .ok R) :
    ∃ b R' s k, R = b :: R' ∧ b.toLexeme = ⟨.string, s⟩ ∧
      quotedBody .backslash '\x27' [] 1 t = some (s, k) := by
  cases hread : readLexeme p ('\x27' :: t) with
  | error e =>
    rw [scanFrom, hread] at h
    cases h
  | ok r =>
    obtain ⟨ls, k⟩ := r
    have hquotation := hread
    rw [readLexeme_cons, if_neg (by decide), if_pos (by decide)] at hquotation
    obtain ⟨s, rfl, hbody⟩ := readQuotation_string (by decide) hquotation
    obtain ⟨b, R', rfl, hb⟩ := scan_head h (by decide) hread
    exact ⟨b, R', s, k, rfl, hb, hbody⟩

/-- In the definition of a mock the tokens after the columns are those of the option with its connector,
exactly if the connector stands for itself between quotes. -/
theorem createTable_connector {n : Text} (hn : n.all isPlainChar = true) (connector : Text) :
    (∃ s after, readStatement (createTable n "id INT".toList connector) = .ok s ∧
      afterColumns? s.tokens = some after ∧ after.map Token.toLexeme = tailLexemes connector) ↔
    isLiteral '\x27' connector = true := by
  have hbefore := reads_beforeConnector hn (connector ++ ['\x27', ')'])
  rw [createTable_eq_before]
  constructor
  · rintro ⟨s, after, hs, hafter, htail⟩
    obtain ⟨pieces, hscan, htokens, -⟩ := readStatement_eq_ok hs
    obtain ⟨M, hM, hpieces⟩ := hbefore.scan 0
    rw [Sql.scan, hpieces] at hscan
    obtain ⟨R, hR, rfl⟩ := map_eq_ok.1 hscan
    obtain ⟨b, R', content, k, rfl, hb, hbody⟩ := scanFrom_string hR
    have hsig : b.isSignificant = true := by rw [Token.isSignificant, hb]; rfl
    rw [List.filter_append, filter_significant hM rfl, List.filter_cons_of_pos hsig] at htokens
    obtain ⟨O, hO, hcolumns⟩ := afterColumns?_before hn hM
    rw [htokens, hcolumns] at hafter
    cases hafter
    -- the first token behind the option is the string that was read
    rw [List.map_append, hO] at htail
    have hcontent := (List.cons.inj ((List.append_right_inj optionLexemes).1 htail)).1
    rw [hb] at hcontent
    cases hcontent
    exact isLiteral_of_quotedBody hbody
  · intro hliteral
    rw [← List.append_nil (connector ++ ['\x27', ')'])] at hbefore
    obtain ⟨M, hM, hscan⟩ := scan_of_reads (hbefore.append (reads_connector hliteral _)) 0
    obtain ⟨c, hs⟩ := readStatement_quiet hM rfl hscan (by simp [beforeLexemes, headLexemes])
    obtain ⟨M, R, rfl, hM, hR⟩ := List.map_eq_append_iff.1 hM
    obtain ⟨O, hO, hcolumns⟩ := afterColumns?_before hn hM
    exact ⟨_, O ++ R, hs, hcolumns, by rw [List.map_append, hO, hR]; rfl⟩

/-- A backslash before a character that it does not escape is kept. -/
theorem createTable_connector_path :
    ∃ s after, readStatement (createTable "t".toList "id INT".toList "C:\\data".toList) = .ok s ∧
      afterColumns? s.tokens = some after ∧ after.map Token.toLexeme = tailLexemes "C:\\data".toList :=
  (createTable_connector (by decide) _).2 (by decide)

/-- Settings accept a connector with a quote in it, which leaves a string open in the definition. -/
theorem createTable_connector_quote :
    Settings.connector (.string " it\x27s ".toList) = .ok "it\x27s".toList ∧
      readStatement (createTable "t".toList "id INT".toList "it\x27s".toList) =
        .error (.lexical .unclosedString) := by
  exact ⟨rfl, rfl⟩

end Mock

end DryRun
