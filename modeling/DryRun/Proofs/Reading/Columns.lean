import DryRun.Proofs.Reading.Insert
import DryRun.Proofs.Sql.Nesting

/-!
# The columns of a CREATE TABLE

The text of the columns is what stands between the parenthesis after the name of the table and the one that
closes it, without the blanks at its ends. Which one that is depends on the parentheses that are tokens, and
these are the ones of the text that stand in no string, comment or quoted name (`readDefinition_columns`).
-/

namespace DryRun

open Text Sql

namespace Sql

/-- A string, a comment or a quoted name of the text lies over an offset. -/
def Quoted (sql : Text) (k : Nat) : Prop := ∃ pieces, scan sql = .ok pieces ∧ QuotedBy pieces k

/-- The columns of a table cut out of the text of its definition. -/
structure ColumnsCut (sql : Text) (tokens : List Token) (table : TableRef) (columns : Text) where
  before : List Token
  name : List Token
  /-- The tokens of the name that hold its parts. -/
  parts : List Token
  opening : Token
  inner : List Token
  closing : Token
  after : List Token
  /-- The text before the parenthesis that opens the columns. -/
  front : Text
  /-- The blanks before and behind the columns. -/
  lead : Text
  trail : Text
  /-- The text behind the parenthesis that closes the columns. -/
  back : Text
  split : tokens = before ++ (name ++ opening :: (inner ++ closing :: after))
  dotted : Dotted parts name
  texts : parts.map (·.text) = table.given
  text : sql = front ++ '(' :: (lead ++ (columns ++ (trail ++ ')' :: back)))
  opening_eq : opening = ⟨⟨.leftParen, ['(']⟩, front.length, front.length + 1⟩
  closing_lexeme : closing.toLexeme = ⟨.rightParen, [')']⟩
  closing_start : closing.start = front.length + 1 + (lead ++ (columns ++ trail)).length
  lead_blank : ∀ c ∈ lead, isBlank c = true
  trail_blank : ∀ c ∈ trail, isBlank c = true
  columns_head : ∀ c, columns.head? = some c → isBlank c = false
  columns_last : ∀ c, columns.getLast? = some c → isBlank c = false
  closes : Closes opening inner closing
  balanced : Balanced inner
  /-- A parenthesis counts just if it is not quoted. -/
  counted : ∀ d ∈ parenChars, ∀ k, opening.start < k → k < closing.start →
    (SignAt inner d k ↔ sql[k]? = some d ∧ ¬ Quoted sql k)

/-- Comments are no parentheses. -/
theorem signAt_filter {P : List Token} {d : Char} (hd : d ∈ parenChars) {k : Nat} :
    SignAt (P.filter Token.isSignificant) d k ↔ SignAt P d k := by
  have key : ∀ d ∈ parenChars, signKind d ≠ .comment := by decide
  constructor
  · rintro ⟨t, ht, h⟩
    exact ⟨t, (List.mem_filter.1 ht).1, h⟩
  · rintro ⟨t, ht, hk, hstart⟩
    have hsig : t.isSignificant = true := by simpa [Token.isSignificant, hk] using key d hd
    exact ⟨t, List.mem_filter.2 ⟨ht, hsig⟩, hk, hstart⟩

section Between

variable {sql : Text} {pieces P₁ P P₃ : List Token} {opening closing : Token} {x region z : Text}
  {q₁ q : Option Lexeme} (h : Between sql pieces P₁ opening P closing P₃ x region z q₁ q)
  (hscan : scan sql = .ok pieces)

include h hscan

/-- What lies over an offset between the parentheses stands between them. -/
theorem Between.quoted_iff {k : Nat} (hopening : x.length < k) (hclosing : k < closing.start) :
    Quoted sql k ↔ QuotedBy P k := by
  have hbefore : ¬ QuotedBy (P₁ ++ [opening]) k := not_quotedBy fun t ht => by
    rcases List.mem_append.1 ht with ht | ht
    · have hs := hscan
      rw [scan, h.text, h.pieces_eq] at hs
      have hplace := h.before.places hs t ht
      omega
    · rw [List.mem_singleton.1 ht, h.opening_eq]
      exact .inl hopening
  have hbehind : ¬ QuotedBy (closing :: P₃) k := not_quotedBy fun t ht => by
    rcases List.mem_cons.1 ht with rfl | ht
    · exact .inr hclosing
    · have hplace := scanFrom_start h.behind t ht
      have hstop : closing.stop = closing.start + 1 := by rw [h.closing_eq]
      omega
  have hall : QuotedBy pieces k ↔ QuotedBy P k := by
    rw [h.pieces_eq, ← List.singleton_append, ← List.append_assoc, quotedBy_append, or_iff_right hbefore,
      quotedBy_append, or_iff_left hbehind]
  constructor
  · rintro ⟨pieces', hscan', hquoted⟩
    cases hscan.symm.trans hscan'
    exact hall.1 hquoted
  · exact fun hquoted => ⟨pieces, hscan, hall.2 hquoted⟩

theorem Between.signAt_iff {d : Char} (hd : d ∈ parenChars) {k : Nat} (hopening : x.length < k)
    (hclosing : k < closing.start) :
    SignAt (P.filter Token.isSignificant) d k ↔ sql[k]? = some d ∧ ¬ Quoted sql k := by
  obtain ⟨m, rfl⟩ : ∃ m, k = x.length + 1 + m := ⟨k - (x.length + 1), by omega⟩
  have hm : m < region.length := by
    rw [h.closing_eq] at hclosing
    dsimp only at hclosing
    omega
  have hget : sql[x.length + 1 + m]? = region[m]? := by
    rw [h.text, Nat.add_assoc, List.getElem?_append_right (Nat.le_add_right ..), Nat.add_sub_cancel_left,
      Nat.add_comm 1 m, List.getElem?_cons_succ, List.getElem?_append_left hm]
  rw [signAt_filter hd, h.quoted_iff hscan hopening hclosing, hget]
  exact h.inside.parens h.scanned hd m

end Between

end Sql

/-- What a CREATE TABLE whose header is read defines are the columns cut out of its text. -/
theorem readDefinition_columns {sql : Text} {s : Statement} {table : TableRef} {opening : Token}
    {rest : List Token} (hs : readStatement sql = .ok s)
    (h : readTableOpening s.tokens = some (table, opening, rest)) :
    ∃ (columns : Text) (x : ColumnsCut sql s.tokens table columns), x.opening = opening ∧
      rest = x.inner ++ x.closing :: x.after ∧
      readDefinition sql = .ok ⟨.create, "TABLE".toList, some table, columns⟩ := by
  obtain ⟨pieces, hscan, htokens, hcheck⟩ := readStatement_eq_ok hs
  obtain ⟨before, r, name, hsplit, -, hname, href, hrest, hopening⟩ := readTableOpening_worded h
  obtain ⟨b, parts, N, hN, rfl, -, -, htexts, -⟩ := readTableName_dotted hname
  rw [hrest] at hsplit
  -- the check says that the columns are closed
  obtain ⟨inner, closing, after, rfl, hcloses⟩ : ∃ inner closing after,
      rest = inner ++ closing :: after ∧ Closes opening inner closing := by
    rw [hsplit, ← List.append_assoc] at hcheck
    exact exists_closes hopening hcheck
  have henclosed : enclosed 0 (inner ++ closing :: after) = some (inner, closing, after) :=
    (enclosed_iff_closes hopening).2 ⟨rfl, hcloses⟩
  obtain ⟨hclosing, hbalanced⟩ := (closes_iff hopening).1 hcloses
  have hp : pieces.filter Token.isSignificant = (before ++ N) ++ opening :: (inner ++ closing :: after) := by
    rw [← htokens, hsplit, List.append_assoc]
  obtain ⟨P₁, P, P₃, x, region, z, q₁, q, hbetween, -, rfl, -⟩ :=
    exists_between hscan hp (by rwa [← htokens]) hopening hclosing
  obtain ⟨lead, trail, hregion, hlead, htrail⟩ := exists_strip region
  have hstart : opening.start = x.length := by rw [hbetween.opening_eq]
  refine ⟨strip region, ⟨before, N, b :: parts, opening, _, closing, after, x, lead, trail, z, hsplit, hN,
    by rw [htexts, href], ?_, hbetween.opening_eq, by rw [hbetween.closing_eq], ?_, hlead, htrail,
    fun c => strip_head, fun c => strip_last, hcloses, hbalanced,
    fun d hd k hk => hbetween.signAt_iff hscan hd (by rwa [← hstart])⟩, rfl, rfl, ?_⟩
  · have hjoin : region ++ ')' :: z = lead ++ (strip region ++ (trail ++ ')' :: z)) := by
      calc region ++ ')' :: z = (lead ++ (strip region ++ trail)) ++ ')' :: z := by rw [← hregion]
        _ = _ := by simp
    rw [hbetween.text, hjoin]
  · rw [hbetween.closing_eq, ← hregion]
  · have hheader : readTableHeader sql s.tokens = some ⟨table, strip region⟩ := by
      simp only [readTableHeader, h, henclosed, hbetween.slice_eq, Option.bind_eq_bind, Option.bind_some]
    exact readDefinition_of_header hs hheader

/-- A definition with parentheses in a type, a string, a quoted name and a comment. -/
def nestedTable : Text :=
  "CREATE TABLE s.t ( a DECIMAL(10, 2) COMMENT ')', `b)` INT /* ( */ ) WITH ('x' = '(')".toList

theorem readDefinition_columns_nested : ∃ s opening rest, readStatement nestedTable = .ok s ∧
    readTableOpening s.tokens = some (⟨none, some "s".toList, "t".toList⟩, opening, rest) ∧
    ∃ x : ColumnsCut nestedTable s.tokens ⟨none, some "s".toList, "t".toList⟩
      "a DECIMAL(10, 2) COMMENT ')', `b)` INT /* ( */".toList, x.opening = opening := by
  have hread : (readStatement nestedTable).toOption.any (fun s =>
      (readTableOpening s.tokens).any (·.1 = ⟨none, some "s".toList, "t".toList⟩) ∧
      readTableHeader nestedTable s.tokens = some ⟨⟨none, some "s".toList, "t".toList⟩,
        "a DECIMAL(10, 2) COMMENT ')', `b)` INT /* ( */".toList⟩) = true := by decide +kernel
  obtain ⟨s, hs, hread⟩ := (Option.any_eq_true _ _).1 hread
  obtain ⟨hopening, hheader⟩ := of_decide_eq_true hread
  obtain ⟨⟨table, opening, rest⟩, hopening, htable⟩ := (Option.any_eq_true _ _).1 hopening
  obtain rfl := of_decide_eq_true htable
  have hs := eq_ok_of_toOption hs
  obtain ⟨columns, x, hx, -, hdefinition⟩ := readDefinition_columns hs hopening
  cases hdefinition.symm.trans (readDefinition_of_header hs hheader)
  exact ⟨s, opening, rest, hs, hopening, x, hx⟩

end DryRun
