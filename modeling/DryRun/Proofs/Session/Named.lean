import DryRun.Proofs.Session.Prepare
import DryRun.Proofs.Sql.Headers

/-!
# INSERTs into a dotted name

A transform `INSERT INTO name SELECT …` is redirected if the header can be read, and else it is left to the
grammar, which only says what it is. The header takes names of up to three parts, each in back-ticks or a
plain ASCII word (`readInto_dotted`); so an INSERT into any other name is kept as it is where the grammar
accepts it (`redirectTransform_named`).
-/

namespace DryRun

open Text Sql

namespace Sql

/-! ## Dotted names -/

/-- Whether the lexeme is a name in back-ticks or a bare word. -/
def Lexeme.isPart (l : Lexeme) : Bool := l.kind == .quotedName || l.kind == .word

/-- The parts of a dotted name after the first, and the tokens that hold them. -/
inductive DottedTail : List Token → List Token → Prop where
  | nil : DottedTail [] []
  | cons {d n : Token} {parts ts : List Token} (hd : d.kind = .dot) (hn : n.isPart = true)
      (h : DottedTail parts ts) : DottedTail (n :: parts) (d :: n :: ts)

/-- Parts are read up to the end of the name, or up to the dot before the first that is no name. -/
theorem DottedTail.dottedParts_append {parts ts z : List Token} (h : DottedTail parts ts)
    (hz : ∀ t, z.head? = some t → t.kind ≠ .dot) :
    (∀ t ∈ parts, t.isName = true) ∧ dottedParts (ts ++ z) = (parts, z) ∨
    (∃ t ∈ parts, t.isName = false) ∧
      ∃ read d r, dottedParts (ts ++ z) = (read, d :: r) ∧ d ∈ ts ∧ d.kind = .dot := by
  induction h with
  | nil => exact .inl ⟨by simp, dottedParts_of_head hz⟩
  | @cons d n parts ts hd _ _ ih =>
    cases hn : n.isName with
    | false =>
      refine .inr ⟨⟨n, List.mem_cons_self, hn⟩, [], d, n :: (ts ++ z), ?_, List.mem_cons_self, hd⟩
      simp [dottedParts, hn]
    | true =>
      have hstep : dottedParts (d :: n :: ts ++ z) =
          (n :: (dottedParts (ts ++ z)).1, (dottedParts (ts ++ z)).2) := by
        simp [dottedParts, hd, hn]
      rw [hstep]
      rcases ih with ⟨hall, hread⟩ | ⟨⟨t, ht, hname⟩, read, d', r, hread, hmem, hdot⟩
      · rw [hread]
        refine .inl ⟨fun t ht => ?_, rfl⟩
        rcases List.mem_cons.1 ht with rfl | ht
        · exact hn
        · exact hall t ht
      · rw [hread]
        exact .inr ⟨⟨t, List.mem_cons_of_mem _ ht, hname⟩, n :: read, d', r, rfl,
          List.mem_cons_of_mem _ (List.mem_cons_of_mem _ hmem), hdot⟩

/-- A name that the header of an INSERT takes. -/
def IsTarget (parts : List Token) : Prop := parts.length ≤ 3 ∧ ∀ t ∈ parts, t.isName = true

/-- In front of a query, just the targets are read, under their last part. -/
theorem readInto_dotted {first select : Token} {parts tail : List Token} (h : DottedTail parts tail)
    (hdots : ∀ d ∈ tail, d.kind = .dot → d.toLexeme = ⟨.dot, ['.']⟩)
    (hselect : select.isKeyword "SELECT".toList = true) (sql : Text) (overwrite : Bool) (rest : List Token) :
    (IsTarget (first :: parts) ∧ ∃ i, readInto sql overwrite (first :: (tail ++ select :: rest)) = some i ∧
      (first :: parts).getLast?.map (·.text) = some i.target.name) ∨
    (¬IsTarget (first :: parts) ∧ readInto sql overwrite (first :: (tail ++ select :: rest)) = none) := by
  have hbody := (opensBody_select hselect rest).1
  have hz : ∀ t, (select :: rest).head? = some t → t.kind ≠ .dot := by
    rintro t ⟨⟩ hk
    simp [Lexeme.isKeyword, hk] at hselect
  cases hfirst : first.isName with
  | false =>
    refine .inr ⟨fun ht => ?_, by simp [readInto, readTableName, hfirst]⟩
    rw [ht.2 first List.mem_cons_self] at hfirst
    cases hfirst
  | true =>
    rcases h.dottedParts_append hz with ⟨hall, hread⟩ | ⟨⟨t, ht, hname⟩, read, d, r, hread, hd, hdot⟩
    · have hnames : ∀ t ∈ first :: parts, t.isName = true := List.forall_mem_cons.2 ⟨hfirst, hall⟩
      have hlength : (TableRef.ofParts? ((first :: parts).map (·.text))).isSome = true ↔
          (first :: parts).length ≤ 3 := by
        rw [ofParts?_isSome (by simp), List.length_map]
      simp only [readInto, readTableName, hfirst, hread, if_true]
      cases hparts : TableRef.ofParts? ((first :: parts).map (·.text)) with
      | some ref =>
        rw [hparts] at hlength
        refine .inl ⟨⟨hlength.1 rfl, hnames⟩, _, if_pos hbody, ?_⟩
        rw [← List.getLast?_map, ofParts?_name hparts]
      | none =>
        rw [hparts] at hlength
        exact .inr ⟨fun htarget => absurd (hlength.2 htarget.1) (by simp), rfl⟩
    · refine .inr ⟨fun htarget => ?_, ?_⟩
      · rw [htarget.2 t (List.mem_cons_of_mem _ ht)] at hname
        cases hname
      · have hstop : opensBody (d :: r) = false :=
          opensBody_bodyless (by rw [hdots d hd hdot]; decide) r
        simp only [readInto, readTableName, hfirst, hread, if_true]
        cases TableRef.ofParts? ((first :: read).map (·.text)) <;> simp [hstop]

/-! ## The word before a name -/

/-- Whether a name is the bare word `TABLE` in front of another name, which is then read in its place. -/
def isTableWord (parts : List Token) (next : Token) : Bool :=
  match parts with
  | [t] => !t.isQuoted && t.spelled == ["TABLE".toList] && next.isName
  | _ => false

theorem skipTable_dotted {first select : Token} {parts tail : List Token} (h : DottedTail parts tail)
    (hfirst : first.isQuoted = true ∨ first.spelled ≠ [])
    (hdots : ∀ d ∈ tail, d.kind = .dot → d.toLexeme = ⟨.dot, ['.']⟩) (rest : List Token) :
    skipTable (first :: (tail ++ select :: rest)) =
      if isTableWord (first :: parts) select then select :: rest else first :: (tail ++ select :: rest) := by
  rw [skipTable, matchWords_cons]
  cases hq : first.isQuoted with
  | true => cases parts <;> simp [isTableWord, hq]
  | false =>
    have hne : first.spelled ≠ [] := hfirst.resolve_left (by simp [hq])
    rw [if_neg (by simp), if_neg hne]
    by_cases hw : first.spelled = ["TABLE".toList]
    · rw [if_pos hw]
      cases h with
      | nil => simp [isTableWord, hq, hw]
      | @cons d n parts ts hd hn h =>
        -- a dot is no name, so that the word stays a part
        have hdot : d.isName = false := by
          rw [hdots d List.mem_cons_self hd]
          decide
        simp [isTableWord, hdot]
    · have hnot : isTableWord (first :: parts) select = false := by
        cases parts with
        | nil => rw [isTableWord, beq_false_of_ne hw, Bool.and_false, Bool.false_and]
        | cons n parts => rfl
      rw [if_neg hw, hnot]
      rfl

end Sql

/-! ## Transforms -/

/-- The tokens of `INSERT INTO name SELECT …`, with the parts of the name. -/
inductive NamedInsert : List Token → List Token → Token → List Token → Prop where
  | mk {insert into first select : Token} {parts tail rest : List Token}
      (insert_keyword : insert.isKeyword "INSERT".toList = true)
      (into_keyword : into.isKeyword "INTO".toList = true) (first_part : first.isPart = true)
      (dotted : DottedTail parts tail) (select_keyword : select.isKeyword "SELECT".toList = true) :
      NamedInsert (insert :: into :: first :: (tail ++ select :: rest)) (first :: parts) select rest

/-- A word among the tokens of a scan spells something. -/
theorem scan_word {o : Nat} {p : Option Lexeme} {t : Text} {R : List Token}
    (h : scanFrom 0 o p t = .ok R) : ∀ s ∈ R, s.kind = .word → s.spelled ≠ [] := by
  refine scan_forall (P := fun l => l.kind = .word → l.spelled ≠ []) (fun hb hr l hl hk => ?_)
    (fun l hl hk => by rw [hl] at hk; cases hk) h
  obtain ⟨r, hr⟩ := List.head?_eq_some_iff.1 (readLexeme_word_head hb hr hl hk)
  rw [Lexeme.spelled, hr]
  exact words_upper_ne_nil hb r

/-- What the header of an INSERT into a dotted name is read from. -/
theorem readInsertHeader_named {sql : Text} {s : Statement} {parts rest : List Token} {select : Token}
    (hs : readStatement sql = .ok s) (h : NamedInsert s.tokens parts select rest) :
    (isTableWord parts select = true ∧
      readInsertHeader sql s.tokens = readInto sql false (select :: rest)) ∨
    (isTableWord parts select = false ∧
      ((IsTarget parts ∧ ∃ i, readInsertHeader sql s.tokens = some i ∧
          parts.getLast?.map (·.text) = some i.target.name) ∨
        (¬IsTarget parts ∧ readInsertHeader sql s.tokens = none))) := by
  obtain ⟨pieces, hscan, htokens, -⟩ := readStatement_eq_ok hs
  have hmem : ∀ t ∈ s.tokens, t ∈ pieces := fun t ht => by
    rw [htokens] at ht
    exact (List.mem_filter.1 ht).1
  generalize s.tokens = ts at h hmem
  cases h with
  | @mk insert into first select parts tail rest hinsert hinto hfirst hdotted hselect =>
    have hdots : ∀ d ∈ tail, d.kind = .dot → d.toLexeme = ⟨.dot, ['.']⟩ := fun d hd hk =>
      scan_dot hscan d (hmem d (by simp [hd])) hk
    have hspelled : first.isQuoted = true ∨ first.spelled ≠ [] := by
      simp only [Lexeme.isPart, Bool.or_eq_true, beq_iff_eq] at hfirst
      rcases hfirst with hk | hk
      · exact .inl (by simp [Lexeme.isQuoted, hk])
      · exact .inr (scan_word hscan first (hmem first (by simp)) hk)
    obtain ⟨hiq, his⟩ := Lexeme.spelled_of_isKeyword hinsert (by decide)
    obtain ⟨hoq, hos⟩ := Lexeme.spelled_of_isKeyword hinto (by decide)
    have hhint : ∀ t, [into].head? = some t → t.kind ≠ .hint := by
      rintro t ⟨⟩ hk
      simp [Lexeme.isKeyword, hk] at hinto
    have hnone : ∀ t ∈ ([] : List Token), t.kind = .hint := by simp
    have hverb : Spells (verbWord false) [into] := .word hoq hos
    have hheader : readInsertHeader sql (insert :: into :: first :: (tail ++ select :: rest)) =
        readInto sql false (skipTable (first :: (tail ++ select :: rest))) :=
      readInsertHeader_verb (.word hiq his) hnone hverb hhint sql _
    rw [hheader, skipTable_dotted hdotted hspelled hdots rest]
    cases hword : isTableWord (first :: parts) select with
    | true => exact .inl ⟨rfl, rfl⟩
    | false => exact .inr ⟨rfl, readInto_dotted hdotted hdots hselect sql false rest⟩

/-- What becomes of an INSERT is settled by its header, and without one by the grammar. -/
theorem outcome_redirectTransform {st : JobStatement} {s : Statement} (ht : st.type = .insert)
    (hs : readStatement st.value = .ok s) :
    (redirectTransform st).1.outcome =
      match readInsertHeader st.value s.tokens with
      | some i => .redirected (mockInsert i) i.target.name
      | none =>
        match s.classified with
        | .ok _ => .kept
        | .error cause => .dropped cause := by
  rw [redirectTransform, ht, if_neg (by decide), readInsert, hs]
  dsimp only
  cases readInsertHeader st.value s.tokens with
  | some i => rfl
  | none => cases s.classified <;> rfl

/-- An INSERT into a dotted name is kept just if the header does not take the name and the grammar accepts the
statement. A name that the header takes is redirected, under its last part. Before another name, the bare
word `TABLE` is no name, and what follows it decides. -/
theorem redirectTransform_named {st : JobStatement} {s : Statement} {parts rest : List Token} {select : Token}
    (ht : st.type = .insert) (hs : readStatement st.value = .ok s)
    (hn : NamedInsert s.tokens parts select rest) :
    ((redirectTransform st).1.outcome = .kept ↔
      (∃ c, s.classified = .ok c) ∧
        if isTableWord parts select then readInto st.value false (select :: rest) = none
        else ¬IsTarget parts) ∧
    (isTableWord parts select = false → IsTarget parts →
      ∃ i, (redirectTransform st).1.outcome = .redirected (mockInsert i) i.target.name ∧
        parts.getLast?.map (·.text) = some i.target.name) := by
  have hkept : (redirectTransform st).1.outcome = .kept ↔
      (∃ c, s.classified = .ok c) ∧ readInsertHeader st.value s.tokens = none := by
    rw [outcome_redirectTransform ht hs]
    cases readInsertHeader st.value s.tokens with
    | some i => simp
    | none => cases s.classified <;> simp
  rw [hkept]
  rcases readInsertHeader_named hs hn with
    ⟨hword, hread⟩ | ⟨hword, ⟨htarget, i, hread, hname⟩ | ⟨htarget, hread⟩⟩
  · rw [hread, hword]
    exact ⟨by simp, fun h => (by cases h)⟩
  · rw [hread, hword]
    refine ⟨by simp [htarget], fun _ _ => ⟨i, ?_, hname⟩⟩
    rw [outcome_redirectTransform ht hs, hread]
  · rw [hread, hword]
    exact ⟨by simp [htarget], fun _ h => absurd h htarget⟩

def quotedPartInsert : JobStatement := ⟨"INSERT INTO TABLE.`größe` SELECT".toList, .insert⟩

/-- A quoted part is taken as it is, and `TABLE` before a dot is a part like others. -/
theorem redirectTransform_named_quoted : ∃ s parts select rest,
    readStatement quotedPartInsert.value = .ok s ∧ NamedInsert s.tokens parts select rest ∧
    isTableWord parts select = false ∧ IsTarget parts ∧
    ∃ i, (redirectTransform quotedPartInsert).1.outcome = .redirected (mockInsert i) "größe".toList := by
  obtain ⟨s, parts, select, rest, hs, hn, hword, htarget, hlast⟩ : ∃ s parts select rest,
      readStatement quotedPartInsert.value = .ok s ∧ NamedInsert s.tokens parts select rest ∧
      isTableWord parts select = false ∧ IsTarget parts ∧
      parts.getLast?.map (·.text) = some "größe".toList :=
    ⟨_, _, _, _, rfl, .mk (by decide) (by decide) (by decide) (.cons (by decide) (by decide) .nil)
      (by decide), by decide, ⟨by decide, by decide⟩, rfl⟩
  have ht : quotedPartInsert.type = .insert := rfl
  obtain ⟨i, hi, hname⟩ := (redirectTransform_named ht hs hn).2 hword htarget
  rw [← Option.some.inj (hlast.symm.trans hname)] at hi
  exact ⟨s, parts, select, rest, hs, hn, hword, htarget, i, hi⟩

/-- A bare word that is not ASCII is a name for the grammar only, so the statement still writes to its
table. -/
theorem redirectTransform_keeps_named : ∃ s parts select rest,
    readStatement "INSERT INTO größe SELECT 1".toList = .ok s ∧ NamedInsert s.tokens parts select rest ∧
    (redirectTransform ⟨"INSERT INTO größe SELECT 1".toList, .insert⟩).1.outcome = .kept :=
  ⟨_, _, _, _, rfl, .mk (by decide) (by decide) (by decide) .nil (by decide), by decide +kernel⟩

end DryRun
