import DryRun.Proofs.Reading.Insert
import DryRun.Proofs.Sql.Nesting

/-!
# The syntax of an INSERT

`InsertSyntax tokens` is a way to read a list of tokens as the header of an INSERT and what follows it. The
reader of headers accepts just the lists that can be read so, and then takes the target from the parts of the
name (`readInsertHeader_syntax`). It looks at nothing behind the token after the name, or behind the column
list if that token opens one, so that the query has no say in what is read
(`readInsertHeader_ignores_query`).
-/

namespace DryRun

open Text Sql

namespace Sql

/-! ## Names among tokens -/

/-- Whether a name before these tokens is complete: they do not go on with a dot and a name. -/
def EndsName (rest : List Token) : Prop :=
  ∀ d n r, rest = d :: n :: r → d.kind = .dot → n.isName = false

theorem EndsName.of_head {t : Token} (ht : t.kind ≠ .dot) (ts : List Token) : EndsName (t :: ts) := by
  rintro d n r h hd
  rw [(List.cons.inj h).1] at ht
  exact absurd hd ht

theorem endsName_dottedParts (ts : List Token) : EndsName (dottedParts ts).2 := by
  fun_induction dottedParts ts with
  | case1 d n rest hc parts rest' hp ih =>
    rw [hp] at ih
    exact ih
  | case2 d n rest hc =>
    rintro d' n' r h hd
    simp only [List.cons.injEq] at h
    obtain ⟨rfl, rfl, rfl⟩ := h
    simpa [hd] using hc
  | case3 ts hts =>
    intro d n r h
    exact absurd h (hts d n r)

theorem EndsName.dottedParts_eq {rest : List Token} (h : EndsName rest) : dottedParts rest = ([], rest) := by
  fun_cases dottedParts rest with
  | case1 d n rest hc =>
    simp only [Bool.and_eq_true, beq_iff_eq] at hc
    rw [h d n rest rfl hc.1] at hc
    exact absurd hc.2 (by decide)
  | case2 | case3 => rfl

/-- A dotted name is read part by part, up to its end. -/
theorem Dotted.dottedParts_append {parts N rest : List Token} (h : Dotted parts N) (hrest : EndsName rest) :
    ∃ b ps N', parts = b :: ps ∧ N = b :: N' ∧ b.isName = true ∧ dottedParts (N' ++ rest) = (ps, rest) := by
  induction h with
  | @one t ht => exact ⟨t, [], [], rfl, rfl, ht, hrest.dottedParts_eq⟩
  | @cons t d parts N ht hd _ ih =>
    obtain ⟨b, ps, N', rfl, rfl, hb, hread⟩ := ih
    refine ⟨t, b :: ps, d :: b :: N', rfl, rfl, ht, ?_⟩
    simp [dottedParts, hd, hb, hread]

theorem readTableName_eq_some {ts : List Token} {name : NameReading} :
    readTableName ts = some name ↔ ∃ b parts N, Dotted (b :: parts) N ∧ ts = N ++ name.rest ∧
      EndsName name.rest ∧ TableRef.ofParts? ((b :: parts).map (·.text)) = some name.ref ∧
      name.start = b.start ∧ name.stop = ((b :: parts).getLast?.getD b).stop := by
  constructor
  · intro h
    cases ts with
    | nil => cases h
    | cons b ts =>
      rw [readTableName] at h
      split at h
      · rename_i hb
        obtain ⟨ref, href, rfl⟩ := Option.map_eq_some_iff.1 h
        obtain ⟨N, hN, heq⟩ := dotted_dottedParts hb
        exact ⟨b, _, N, hN, heq, endsName_dottedParts ts, href, rfl, rfl⟩
      · cases h
  · rintro ⟨b, parts, N, hN, rfl, hends, href, hstart, hstop⟩
    obtain ⟨b', ps, N', hparts, rfl, hb, hread⟩ := hN.dottedParts_append hends
    obtain ⟨rfl, rfl⟩ := List.cons.inj hparts
    rw [List.cons_append, readTableName, if_pos hb, hread]
    simp only [href, Option.map_some, ← hstart, ← hstop]

/-! ## Words among tokens -/

/-- Whether the lexeme is no quoted name or string and its text is the one word `w` in some case. -/
def Lexeme.spells (l : Lexeme) (w : Text) : Bool := !l.isQuoted && l.spelled == [w]

theorem Lexeme.spells_iff {l : Lexeme} {w : Text} :
    l.spells w = true ↔ l.isQuoted = false ∧ l.spelled = [w] := by
  simp [Lexeme.spells]

/-- Where each token that is not quoted spells something, a word is spelled by one token. -/
theorem Spells.single {w : Text} {A : List Token} (h : Spells w A)
    (hA : ∀ t ∈ A, t.isQuoted = false → t.spelled ≠ []) : ∃ t, A = [t] ∧ t.spells w = true := by
  cases h with
  | @word t hq hw => exact ⟨t, rfl, Lexeme.spells_iff.2 ⟨hq, hw⟩⟩
  | skip hq hw _ => exact absurd hw (hA _ List.mem_cons_self hq)

theorem Spells.of_spells {w : Text} {t : Token} (h : t.spells w = true) : Spells w [t] :=
  .word (Lexeme.spells_iff.1 h).1 (Lexeme.spells_iff.1 h).2

theorem spelled_of_isName {t : Token} (h : t.isName = true) (hq : t.isQuoted = false) : t.spelled ≠ [] := by
  have hplain : Lexeme.isPlainName t.text = true := by
    simp only [Lexeme.isQuoted, Bool.or_eq_false_iff] at hq
    simp only [Lexeme.isName, hq.1, Bool.false_or, Bool.and_eq_true] at h
    exact h.2
  cases htext : t.text with
  | nil =>
    rw [htext] at hplain
    cases hplain
  | cons c s =>
    have hc : isPlainChar c = true := by
      rw [htext, Lexeme.isPlainName, Bool.and_eq_true] at hplain
      have hc := hplain.1
      rw [Bool.or_eq_true] at hc
      rw [isPlainChar, Bool.or_eq_true, Char.isAlphanum, Bool.or_eq_true]
      exact hc.imp_left .inl
    rw [Lexeme.spelled, htext]
    exact words_upper_ne_nil (isBlank_of_isWordChar (isPlainChar_isWordChar hc)) s

/-- The word `TABLE` is passed over just in front of a name; in front of anything else it is the name. -/
theorem skipTable_eq_cons {r r' : List Token} {b : Token} (hb : b.isName = true) :
    skipTable r = b :: r' ↔ ∃ T, r = T ++ b :: r' ∧ (T = [] ∨ Spells "TABLE".toList T) ∧
      (T = [] → b.spells "TABLE".toList = true → ∀ n, r'.head? = some n → n.isName = false) := by
  constructor
  · intro h
    unfold skipTable at h
    split at h
    · rename_i n rest hm
      obtain ⟨T, hT, rfl⟩ := spells_of_matchWords hm
      split at h
      · obtain ⟨rfl, rfl⟩ := List.cons.inj h
        exact ⟨T, rfl, .inr hT, fun hnil => absurd hnil hT.ne_nil⟩
      · rename_i hn
        refine ⟨[], h, .inl rfl, fun _ hw m hm' => ?_⟩
        -- the word is the first token, and what follows it is no name
        rw [h, show b :: r' = [b] ++ r' from rfl, (Spells.of_spells hw).matched] at hm
        rw [Option.some.inj hm] at hm'
        cases hm'
        simpa using hn
    · rename_i hm
      refine ⟨[], h, .inl rfl, fun _ hw n hn => ?_⟩
      obtain ⟨r'', rfl⟩ := List.head?_eq_some_iff.1 hn
      rw [h, show b :: n :: r'' = [b] ++ n :: r'' from rfl, (Spells.of_spells hw).matched] at hm
      exact absurd rfl (hm n r'')
  · rintro ⟨T, rfl, hT, hfirst⟩
    unfold skipTable
    rcases hT with rfl | hT
    · rw [List.nil_append, matchWords_cons]
      cases hq : b.isQuoted with
      | true => rfl
      | false =>
        rw [if_neg (by simp), if_neg (spelled_of_isName hb hq)]
        by_cases hw : b.spelled = ["TABLE".toList]
        · rw [if_pos hw]
          cases r' with
          | nil => rfl
          | cons n r' =>
            have hn := hfirst rfl (Lexeme.spells_iff.2 ⟨hq, hw⟩) n rfl
            simp only [hn, Bool.false_eq_true, if_false]
        · rw [if_neg hw]
    · rw [hT.matched]
      simp only [hb, if_true]

/-! ## The target among tokens -/

/-- The name in the header of an INSERT, and whether rows are overwritten. -/
def targetAhead? (tokens : List Token) : Option (NameReading × Bool) :=
  (matchWords ["INSERT".toList] tokens).bind fun r =>
    (readVerb (r.dropWhile (·.kind == .hint))).bind fun v =>
      (readTableName (skipTable v.1)).map fun name => (name, v.2)

/-- An INSERT is read if a body follows the target. -/
theorem readInsertHeader_target (sql : Text) (ts : List Token) :
    readInsertHeader sql ts = (targetAhead? ts).bind fun t =>
      if opensBody t.1.rest then
        some ⟨t.1.ref, sql, t.1.start, t.1.stop, bodyColumns t.1.rest, t.2⟩
      else none := by
  rw [readInsertHeader_eq, targetAhead?]
  cases matchWords ["INSERT".toList] ts with
  | none => rfl
  | some r =>
    simp only [Option.bind_some]
    cases readVerb (r.dropWhile (·.kind == .hint)) with
    | none => rfl
    | some v =>
      simp only [Option.bind_some, readInto]
      cases readTableName (skipTable v.1) <;> rfl

/-- The tokens of a target: the words and hints before it, of which `V` says how rows are inserted and `T`
is the word `TABLE` if it is there, and the name, which begins with `b`. -/
structure TargetTokens (tokens : List Token) (name : NameReading) (overwrite : Bool) (A H V T : List Token)
    (b : Token) (parts N : List Token) : Prop where
  split : tokens = A ++ (H ++ (V ++ (T ++ b :: (N ++ name.rest))))
  insert : Spells "INSERT".toList A
  hints : ∀ t ∈ H, t.kind = .hint
  verb : Spells (verbWord overwrite) V
  verb_head : ∀ t, V.head? = some t → t.kind ≠ .hint
  table : T = [] ∨ Spells "TABLE".toList T
  table_first : T = [] → b.spells "TABLE".toList = true →
    ∀ n, (N ++ name.rest).head? = some n → n.isName = false
  dotted : Dotted (b :: parts) (b :: N)
  maximal : EndsName name.rest
  ref : TableRef.ofParts? ((b :: parts).map (·.text)) = some name.ref
  start : name.start = b.start
  stop : name.stop = ((b :: parts).getLast?.getD b).stop

theorem targetAhead?_eq_some {tokens : List Token} {name : NameReading} {overwrite : Bool} :
    targetAhead? tokens = some (name, overwrite) ↔
      ∃ A H V T b parts N, TargetTokens tokens name overwrite A H V T b parts N := by
  constructor
  · intro h
    obtain ⟨r₁, h₁, h⟩ := Option.bind_eq_some_iff.1 h
    obtain ⟨⟨r₂, ow⟩, h₂, h⟩ := Option.bind_eq_some_iff.1 h
    obtain ⟨name', hname, he⟩ := Option.map_eq_some_iff.1 h
    obtain ⟨rfl, rfl⟩ := Prod.mk.inj he
    obtain ⟨A, H, V, rfl, hA, hH, hV, hhead⟩ := exists_verb h₁ h₂
    obtain ⟨b, parts, N, hN, hr, hends, href, hstart, hstop⟩ := readTableName_eq_some.1 hname
    obtain ⟨b', parts', N, hparts, rfl, hb, -⟩ := hN.dottedParts_append hends
    obtain ⟨rfl, rfl⟩ := List.cons.inj hparts
    rw [List.cons_append] at hr
    obtain ⟨T, rfl, hT, hfirst⟩ := (skipTable_eq_cons hb).1 hr
    exact ⟨A, H, V, T, b, parts, N, rfl, hA, hH, hV, hhead, hT, hfirst, hN, hends, href, hstart, hstop⟩
  · rintro ⟨A, H, V, T, b, parts, N, h⟩
    obtain ⟨b', parts', N', hparts, -, hb, -⟩ := h.dotted.dottedParts_append h.maximal
    obtain ⟨rfl, rfl⟩ := List.cons.inj hparts
    have hskip : skipTable (T ++ b :: (N ++ name.rest)) = b :: (N ++ name.rest) :=
      (skipTable_eq_cons hb).2 ⟨T, rfl, h.table, h.table_first⟩
    have hname : readTableName (b :: (N ++ name.rest)) = some name :=
      readTableName_eq_some.2 ⟨b, parts, b :: N, h.dotted, rfl, h.maximal, h.ref, h.start, h.stop⟩
    rw [targetAhead?, h.split, h.insert.matched, Option.bind_some,
      dropWhile_hint h.hints h.verb.ne_nil h.verb_head, readVerb_spells h.verb, Option.bind_some, hskip, hname]
    rfl

/-! ## The syntax -/

/-- Tokens read as the header of an INSERT and what follows it. -/
structure InsertSyntax (tokens : List Token) where
  insert : Token
  hints : List Token
  verb : Token
  table : Option Token
  /-- The tokens of the target name, dots included. -/
  name : List Token
  /-- The tokens of the name that hold its parts. -/
  parts : List Token
  follower : Token
  rest : List Token
  split : tokens = insert :: (hints ++ verb :: (table.toList ++ (name ++ follower :: rest)))
  insert_spells : insert.spells "INSERT".toList = true
  hints_kind : ∀ t ∈ hints, t.kind = .hint
  verb_spells : verb.spells "INTO".toList = true ∨ verb.spells "OVERWRITE".toList = true
  table_spells : ∀ t ∈ table, t.spells "TABLE".toList = true
  /-- The word `TABLE` is a name only if no name follows it. -/
  table_first : table = none → ∀ t n r, name ++ follower :: rest = t :: n :: r →
    t.spells "TABLE".toList = true → n.isName = false
  dotted : Dotted parts name
  parts_length : parts.length ≤ 3
  maximal : EndsName (follower :: rest)
  follows : follower.kind = .leftParen ∨ follower.kind = .hint ∨
    ∃ w ∈ ["SELECT".toList, "WITH".toList, "VALUES".toList, "PARTITION".toList, "TABLE".toList],
      follower.spells w = true

end Sql

/-- The parts of a name at their places: the catalog, the schema and the name itself. -/
def TableRef.slots (ref : TableRef) : List (Option Text) := [ref.catalog, ref.schema, some ref.name]

namespace Sql

/-- The parts of a name fill its places from the right. -/
theorem slots_of_ofParts? {parts : List Text} {ref : TableRef} (h : TableRef.ofParts? parts = some ref) :
    ref.slots = List.replicate (3 - parts.length) none ++ parts.map some := by
  unfold TableRef.ofParts? at h
  split at h <;> cases h <;> rfl

theorem opensBody_of_follows {t : Token} (ts : List Token)
    (h : t.kind = .leftParen ∨ t.kind = .hint ∨ ∃ w ∈ bodyWords, t.spells w = true) :
    opensBody (t :: ts) = true := by
  rcases h with h | h | ⟨w, hw, h⟩
  · simp [opensBody, h]
  · simp [opensBody, h]
  · obtain ⟨hq, hs⟩ := Lexeme.spells_iff.1 h
    have hany : bodyWords.any (t.spelled == [·]) = true := List.any_eq_true.2 ⟨w, hw, by simp [hs]⟩
    rw [opensBody_cons (by rw [hs]; simp), hq, hany]
    simp

theorem follows_of_opensBody {t : Token} {ts : List Token} (ht : t.isQuoted = false → t.spelled ≠ [])
    (h : opensBody (t :: ts) = true) :
    t.kind = .leftParen ∨ t.kind = .hint ∨ ∃ w ∈ bodyWords, t.spells w = true := by
  cases hq : t.isQuoted with
  | true =>
    rw [opensBody_quoted hq] at h
    cases h
  | false =>
    rw [opensBody_cons (ht hq), hq] at h
    simp only [Bool.or_eq_true, beq_iff_eq, Bool.not_false, Bool.true_and, List.any_eq_true] at h
    rcases h with (h | h) | ⟨w, hw, h⟩
    · exact .inl h
    · exact .inr (.inl h)
    · exact .inr (.inr ⟨w, hw, Lexeme.spells_iff.2 ⟨hq, h⟩⟩)

/-- What is read from tokens that have the syntax of an INSERT. -/
theorem InsertSyntax.read {tokens : List Token} (x : InsertSyntax tokens) (hverb : x.verb.kind ≠ .hint)
    (sql : Text) : ∃ i, readInsertHeader sql tokens = some i ∧
      x.verb.spells (verbWord i.overwrite) = true ∧
      TableRef.ofParts? (x.parts.map (·.text)) = some i.target := by
  obtain ⟨overwrite, hspells⟩ : ∃ overwrite, x.verb.spells (verbWord overwrite) = true := by
    rcases x.verb_spells with h | h
    · exact ⟨false, h⟩
    · exact ⟨true, h⟩
  obtain ⟨b, ps, N, hparts, hname, hb, -⟩ := x.dotted.dottedParts_append x.maximal
  have hlength : (x.parts.map (·.text)).length ≤ 3 := by
    rw [List.length_map]
    exact x.parts_length
  obtain ⟨ref, href⟩ := Option.isSome_iff_exists.1 ((ofParts?_isSome (by rw [hparts]; simp)).2 hlength)
  have hsplit : tokens = [x.insert] ++ (x.hints ++ ([x.verb] ++
      (x.table.toList ++ b :: (N ++ x.follower :: x.rest)))) := by
    rw [← List.cons_append, ← hname]
    exact x.split
  have htarget : targetAhead? tokens =
      some (⟨ref, b.start, ((b :: ps).getLast?.getD b).stop, x.follower :: x.rest⟩, overwrite) := by
    refine targetAhead?_eq_some.2 ⟨[x.insert], x.hints, [x.verb], x.table.toList, b, ps, N, hsplit,
      Spells.of_spells x.insert_spells, x.hints_kind, Spells.of_spells hspells, ?_, ?_, ?_,
      by rw [← hparts, ← hname]; exact x.dotted, x.maximal, hparts ▸ href, rfl, rfl⟩
    · rintro t ⟨⟩
      exact hverb
    · cases htable : x.table with
      | none => exact .inl rfl
      | some t => exact .inr (Spells.of_spells (x.table_spells t (by rw [htable]; rfl)))
    · intro hnil hw n hn
      obtain ⟨r, hr⟩ := List.head?_eq_some_iff.1 hn
      refine x.table_first (Option.toList_eq_nil_iff.1 hnil) b n r ?_ hw
      rw [hname, List.cons_append]
      exact congrArg (b :: ·) hr
  rw [readInsertHeader_target, htarget, Option.bind_some, if_pos (opensBody_of_follows x.rest x.follows)]
  exact ⟨_, rfl, hspells, href⟩

/-- Tokens from which an INSERT is read have its syntax, if none that is not quoted is blank. -/
theorem exists_insertSyntax {sql : Text} {tokens : List Token} {i : Insert}
    (hspelled : ∀ t ∈ tokens, t.isQuoted = false → t.spelled ≠ [])
    (h : readInsertHeader sql tokens = some i) : ∃ x : InsertSyntax tokens, x.verb.kind ≠ .hint := by
  rw [readInsertHeader_target] at h
  obtain ⟨⟨name, overwrite⟩, htarget, h⟩ := Option.bind_eq_some_iff.1 h
  split at h
  · rename_i hbody
    obtain ⟨A, H, V, T, b, ps, N, rfl, hA, hH, hV, hhead, hT, hfirst, hN, hends, href, -⟩ :=
      targetAhead?_eq_some.1 htarget
    obtain ⟨follower, rest, hrest⟩ : ∃ t ts, name.rest = t :: ts := by
      cases hrest : name.rest with
      | nil => rw [hrest] at hbody; cases hbody
      | cons t ts => exact ⟨t, ts, rfl⟩
    simp only [hrest] at hspelled hbody hends hfirst
    obtain ⟨insert, rfl, hinsert⟩ := hA.single fun t ht => hspelled t (by simp [ht])
    obtain ⟨verb, rfl, hverb⟩ := hV.single fun t ht => hspelled t (by simp [ht])
    obtain ⟨table, rfl, htable⟩ : ∃ table : Option Token, T = table.toList ∧
        ∀ t ∈ table, t.spells "TABLE".toList = true := by
      rcases hT with rfl | hT
      · exact ⟨none, rfl, by simp⟩
      · obtain ⟨t, rfl, ht⟩ := hT.single fun t ht => hspelled t (by simp [ht])
        exact ⟨some t, rfl, by simpa using ht⟩
    have hlength : (b :: ps).length ≤ 3 := by
      have hsome := (ofParts?_isSome (by simp)).1 (Option.isSome_of_eq_some href)
      rwa [List.length_map] at hsome
    refine ⟨⟨insert, H, verb, table, b :: N, b :: ps, follower, rest, by simp [hrest], hinsert, hH, ?_, htable,
      ?_, hN, hlength, hends,
      follows_of_opensBody (hspelled follower (by simp)) hbody⟩, hhead verb rfl⟩
    · cases overwrite with
      | false => exact .inl hverb
      | true => exact .inr hverb
    · rintro rfl t n r htn hw
      rw [List.cons_append, List.cons.injEq] at htn
      obtain ⟨rfl, htn⟩ := htn
      exact hfirst rfl hw n (by rw [htn]; rfl)
  · cases h

/-- A hint begins with a slash. -/
theorem readLexeme_hint_head {p : Option Lexeme} {c : Char} {t : Text} {ls : List Lexeme} {l : Lexeme} {n : Nat}
    (h : readLexeme p (c :: t) = .ok (ls, n)) (hl : l ∈ ls) (hk : l.kind = .hint) :
    l.text.head? = some '/' := by
  have hr := readComment?_of_hint h hl hk
  rw [readComment?_eq] at hr
  split at hr
  · cases hr
    cases hk
  split at hr
  · rename_i hstarts
    obtain ⟨hn, rfl⟩ := finish_eq_ok.1 (Option.some.inj hr)
    obtain ⟨r, hct⟩ := startsWith_iff.1 hstarts
    have hpos := (flatComment_bounds hn).1
    obtain ⟨m, rfl⟩ : ∃ m, n = m + 1 := ⟨n - 1, by omega⟩
    rw [(List.cons.inj hct).1]
    rfl
  split at hr
  · obtain ⟨-, rfl⟩ := finish_eq_ok.1 (Option.some.inj hr)
    cases hk
  split at hr
  · obtain ⟨-, rfl⟩ := finish_eq_ok.1 (Option.some.inj hr)
    cases hk
  · cases hr

/-- No hint among the tokens of a text spells a word of the header. -/
theorem not_hint_of_spells {sql : Text} {s : Statement} (hs : readStatement sql = .ok s) {t : Token}
    (ht : t ∈ s.tokens) {w : Text} (hw : t.spells w = true) (hslash : w.head? ≠ some '/') : t.kind ≠ .hint := by
  obtain ⟨pieces, hscan, htokens, -⟩ := readStatement_eq_ok hs
  have hpiece : t ∈ pieces := by
    rw [htokens] at ht
    exact (List.mem_filter.1 ht).1
  have hhead := scan_forall (P := fun l => l.kind = .hint → l.text.head? = some '/')
    (fun _ hr l hl hk => readLexeme_hint_head hr hl hk) (fun l hl hk => by rw [hl] at hk; cases hk)
    hscan t hpiece
  intro hk
  obtain ⟨r, hr⟩ := List.head?_eq_some_iff.1 (hhead hk)
  have hupper : upper ('/' :: r) = '/' :: upper r := rfl
  obtain ⟨v, vs, hv⟩ := words_cons (c := '/') (by decide) (upper r)
  have hspelled := (Lexeme.spells_iff.1 hw).2
  rw [Lexeme.spelled, hr, hupper, hv] at hspelled
  rw [← (List.cons.inj hspelled).1] at hslash
  exact hslash rfl

/-- A verb says that rows are overwritten if it is the word for it. -/
theorem overwrite_iff_spells {t : Token} {overwrite : Bool} (h : t.spells (verbWord overwrite) = true) :
    overwrite = true ↔ t.spells "OVERWRITE".toList = true := by
  cases overwrite with
  | true => exact ⟨fun _ => h, fun _ => rfl⟩
  | false =>
    refine ⟨fun h => (by cases h), fun h' => ?_⟩
    have hinto := (Lexeme.spells_iff.1 h).2
    rw [(Lexeme.spells_iff.1 h').2] at hinto
    exact absurd hinto (by decide)

end Sql

/-- An INSERT is read from tokens just if they have its syntax, where the hints are those up to the first
token that is none; of the tokens of a text, the verb is never a hint. The parts of the name fill the places
of the target from the right, and the verb says whether rows are overwritten. -/
theorem readInsertHeader_syntax (sql : Text) {tokens : List Token}
    (hblank : ∀ t ∈ tokens, t.isQuoted = false → isBlankText t.text = false) :
    ((readInsertHeader sql tokens).isSome = true ↔ ∃ x : InsertSyntax tokens, x.verb.kind ≠ .hint) ∧
    (∀ i, readInsertHeader sql tokens = some i → ∀ x : InsertSyntax tokens, x.verb.kind ≠ .hint →
      i.target.slots = List.replicate (3 - x.parts.length) none ++ x.parts.map (some ·.text) ∧
      (i.overwrite = true ↔ x.verb.spells "OVERWRITE".toList = true)) ∧
    ∀ s, readStatement sql = .ok s → s.tokens = tokens → ∀ x : InsertSyntax tokens, x.verb.kind ≠ .hint := by
  have hspelled : ∀ t ∈ tokens, t.isQuoted = false → t.spelled ≠ [] := fun t ht hq =>
    words_upper_of_not_blank (hblank t ht hq)
  refine ⟨⟨fun h => ?_, ?_⟩, fun i hi x hverb => ?_, ?_⟩
  · obtain ⟨i, hi⟩ := Option.isSome_iff_exists.1 h
    exact exists_insertSyntax hspelled hi
  · rintro ⟨x, hverb⟩
    obtain ⟨i, hi, -⟩ := x.read hverb sql
    rw [hi]
    rfl
  · obtain ⟨i', hi', hspells, hparts⟩ := x.read hverb sql
    cases hi.symm.trans hi'
    refine ⟨?_, overwrite_iff_spells hspells⟩
    have hslots := slots_of_ofParts? hparts
    rwa [List.length_map, List.map_map] at hslots
  · rintro s hs rfl x
    have hmem : x.verb ∈ s.tokens := (congrArg (x.verb ∈ ·) x.split).mpr (by simp)
    rcases x.verb_spells with hw | hw
    · exact not_hint_of_spells hs hmem hw (by decide)
    · exact not_hint_of_spells hs hmem hw (by decide)

/-- An INSERT with a hint, the word `TABLE` and a quoted part in its name. -/
def hintedInsert : Text := "INSERT /*+ h */ OVERWRITE TABLE a.`b c`.t (x) SELECT 1".toList

theorem readInsertHeader_syntax_hinted : ∃ s i, readStatement hintedInsert = .ok s ∧
    (∀ t ∈ s.tokens, t.isQuoted = false → isBlankText t.text = false) ∧
    readInsertHeader hintedInsert s.tokens = some i ∧ ∃ x : InsertSyntax s.tokens,
      [some "a".toList, some "b c".toList, some "t".toList] =
        List.replicate (3 - x.parts.length) none ++ x.parts.map (some ·.text) ∧
      x.verb.spells "OVERWRITE".toList = true := by
  have hread : (readStatement hintedInsert).toOption.any (fun s =>
      (∀ t ∈ s.tokens, t.isQuoted = false → isBlankText t.text = false) ∧
      readInsertHeader hintedInsert s.tokens = some ⟨⟨some "a".toList, some "b c".toList, "t".toList⟩,
        hintedInsert, 32, 41, ["x".toList], true⟩) = true := by decide +kernel
  obtain ⟨s, hs, hread⟩ := (Option.any_eq_true _ _).1 hread
  obtain ⟨hblank, hheader⟩ := of_decide_eq_true hread
  obtain ⟨hiff, htarget, -⟩ := readInsertHeader_syntax hintedInsert hblank
  obtain ⟨x, hverb⟩ := hiff.1 (by rw [hheader]; rfl)
  obtain ⟨hslots, hoverwrite⟩ := htarget _ hheader x hverb
  exact ⟨s, _, eq_ok_of_toOption hs, hblank, hheader, x, hslots, hoverwrite.1 rfl⟩

/-! ## The query -/

namespace Sql

/-- Two lists of tokens that are the same up to the token after the target of the first, and if that token
opens a column list up to the end of the list. -/
structure SharesHeader (tokens tokens' head : List Token) (follower : Token) (rest rest' : List Token) :
    Prop where
  target : ∃ name overwrite, targetAhead? tokens = some (name, overwrite) ∧ name.rest = follower :: rest
  first : tokens = head ++ follower :: rest
  second : tokens' = head ++ follower :: rest'
  text : isBlankText follower.text = false
  columns : follower.kind = .leftParen → ∃ inner closing after after', rest = inner ++ closing :: after ∧
    rest' = inner ++ closing :: after' ∧ Closes follower inner closing

variable {tokens tokens' head : List Token} {follower : Token} {rest rest' : List Token}

/-- Whether a body begins is seen in its first token. -/
theorem SharesHeader.opensBody_eq (h : SharesHeader tokens tokens' head follower rest rest') :
    opensBody (follower :: rest') = opensBody (follower :: rest) := by
  have hspelled : follower.spelled ≠ [] := words_upper_of_not_blank h.text
  rw [opensBody_cons hspelled, opensBody_cons hspelled]

theorem SharesHeader.bodyColumns_eq (h : SharesHeader tokens tokens' head follower rest rest') :
    bodyColumns (follower :: rest') = bodyColumns (follower :: rest) := by
  unfold bodyColumns
  by_cases hk : follower.kind = .leftParen
  · obtain ⟨inner, closing, after, after', rfl, rfl, hcloses⟩ := h.columns hk
    have henclosed : ∀ ts, enclosed 0 (inner ++ closing :: ts) = some (inner, closing, ts) := fun ts =>
      (enclosed_iff_closes hk).2 ⟨rfl, hcloses⟩
    simp only [List.head?_cons, columnsAhead, List.drop_succ_cons, List.drop_zero, henclosed]
  · simp [hk]

/-- The target is found without a look behind the token after it, if that token does not go on with the
name. -/
theorem SharesHeader.targetAhead?_eq (h : SharesHeader tokens tokens' head follower rest rest')
    (hdot : follower.kind ≠ .dot) {name : NameReading} {overwrite : Bool}
    (htarget : targetAhead? tokens = some (name, overwrite)) (hrest : name.rest = follower :: rest) :
    targetAhead? tokens' = some ({ name with rest := follower :: rest' }, overwrite) := by
  obtain ⟨A, H, V, T, b, parts, N, ht⟩ := targetAhead?_eq_some.1 htarget
  have hhead : head = A ++ (H ++ (V ++ (T ++ b :: N))) := by
    have heq := h.first.symm.trans ht.split
    rw [hrest] at heq
    simp only [← List.append_assoc, ← List.cons_append] at heq
    simpa using List.append_cancel_right heq
  refine targetAhead?_eq_some.2 ⟨A, H, V, T, b, parts, N, ?_, ht.insert, ht.hints, ht.verb, ht.verb_head,
    ht.table, fun hnil hw n hn => ht.table_first hnil hw n ?_, ht.dotted, EndsName.of_head hdot rest', ht.ref,
    ht.start, ht.stop⟩
  · rw [h.second, hhead]
    simp
  · rw [← hn, hrest, List.head?_append, List.head?_append]
    rfl

theorem SharesHeader.readInsertHeader_eq (h : SharesHeader tokens tokens' head follower rest rest')
    (hdot : follower.kind = .dot → follower.text = ['.']) {sql : Text} {i : Insert}
    (hi : readInsertHeader sql tokens = some i) (sql' : Text) :
    readInsertHeader sql' tokens' = some { i with sql := sql' } := by
  obtain ⟨name, overwrite, htarget, hrest⟩ := h.target
  rw [readInsertHeader_target, htarget, Option.bind_some, hrest] at hi
  split at hi
  · rename_i hbody
    -- a dot begins no body
    have hk : follower.kind ≠ .dot := by
      intro hk
      have hl : follower.toLexeme = ⟨.dot, ['.']⟩ := by
        rw [← hk, ← hdot hk]
      rw [opensBody_bodyless (by rw [hl]; decide)] at hbody
      cases hbody
    cases hi
    rw [readInsertHeader_target, h.targetAhead?_eq hk htarget hrest, Option.bind_some,
      if_pos (by rw [h.opensBody_eq]; exact hbody), h.bodyColumns_eq]
  · cases hi

end Sql

/-- What is read of an INSERT is settled by the tokens up to the one after the target, or up to the end of
the column list. A dot as the token after the target has to be written as one, which it is among the tokens of
a text. -/
theorem readInsertHeader_ignores_query {tokens tokens' head : List Token} {follower : Token}
    {rest rest' : List Token} (h : SharesHeader tokens tokens' head follower rest rest') :
    (∀ sql sql' i, (follower.kind = .dot → follower.text = ['.']) → readInsertHeader sql tokens = some i →
      readInsertHeader sql' tokens' = some { i with sql := sql' }) ∧
    ∀ sql sql' s s' i, readStatement sql = .ok s → readStatement sql' = .ok s' → s.tokens = tokens →
      s'.tokens = tokens' → readInsert sql = .ok i → readInsert sql' = .ok { i with sql := sql' } := by
  refine ⟨fun sql sql' i hdot hi => h.readInsertHeader_eq hdot hi sql', ?_⟩
  rintro sql sql' s s' i hs hs' rfl rfl hi
  obtain ⟨s₀, hs₀, hheader⟩ := readInsert_eq_ok hi
  cases hs.symm.trans hs₀
  obtain ⟨pieces, hscan, htokens, -⟩ := readStatement_eq_ok hs
  have hmem : follower ∈ pieces := by
    have : follower ∈ s.tokens := by
      rw [h.first]
      simp
    rw [htokens] at this
    exact (List.mem_filter.1 this).1
  refine readInsert_of_header hs' (h.readInsertHeader_eq (fun hk => ?_) hheader sql')
  rw [scan_dot hscan follower hmem hk]

/-- An INSERT with a column list. -/
def listedInsert : Text := "INSERT INTO s.t (a, `b)`) SELECT f(1)".toList

/-- The same INSERT from another source. -/
def listedValues : Text := "INSERT INTO s.t (a, `b)`) VALUES (')', 2)".toList

theorem readInsertHeader_ignores_query_columns : ∃ s s' head follower rest rest',
    readStatement listedInsert = .ok s ∧ readStatement listedValues = .ok s' ∧
    SharesHeader s.tokens s'.tokens head follower rest rest' ∧ rest ≠ rest' ∧
    readInsert listedValues = .ok ⟨⟨none, some "s".toList, "t".toList⟩, listedValues, 12, 15,
      ["a".toList, "b)".toList], false⟩ := by
  have hread : (readStatement listedInsert).toOption.any (fun s =>
      (readStatement listedValues).toOption.any fun s' =>
        (targetAhead? s.tokens).any (·.1.rest = ⟨⟨.leftParen, ['(']⟩, 16, 17⟩ :: s.tokens.drop 6) ∧
        s.tokens = s.tokens.take 5 ++ ⟨⟨.leftParen, ['(']⟩, 16, 17⟩ :: s.tokens.drop 6 ∧
        s'.tokens = s.tokens.take 5 ++ ⟨⟨.leftParen, ['(']⟩, 16, 17⟩ :: s'.tokens.drop 6 ∧
        enclosed 0 (s.tokens.drop 6) =
          some ((s.tokens.drop 6).take 3, ⟨⟨.rightParen, [')']⟩, 24, 25⟩, s.tokens.drop 10) ∧
        enclosed 0 (s'.tokens.drop 6) =
          some ((s.tokens.drop 6).take 3, ⟨⟨.rightParen, [')']⟩, 24, 25⟩, s'.tokens.drop 10) ∧
        s.tokens.drop 6 ≠ s'.tokens.drop 6 ∧
        readInsertHeader listedInsert s.tokens = some ⟨⟨none, some "s".toList, "t".toList⟩, listedInsert, 12, 15,
          ["a".toList, "b)".toList], false⟩) = true := by decide +kernel
  obtain ⟨s, hs, hread⟩ := (Option.any_eq_true _ _).1 hread
  obtain ⟨s', hs', hread⟩ := (Option.any_eq_true _ _).1 hread
  obtain ⟨htarget, hfirst, hsecond, hcolumns, hcolumns', hne, hheader⟩ := of_decide_eq_true hread
  obtain ⟨⟨name, overwrite⟩, htarget, hrest⟩ := (Option.any_eq_true _ _).1 htarget
  have hopening : (⟨⟨.leftParen, ['(']⟩, 16, 17⟩ : Token).kind = .leftParen := rfl
  obtain ⟨heq, hcloses⟩ := (enclosed_iff_closes hopening).1 hcolumns
  obtain ⟨heq', -⟩ := (enclosed_iff_closes hopening).1 hcolumns'
  have hshares : SharesHeader s.tokens s'.tokens (s.tokens.take 5) ⟨⟨.leftParen, ['(']⟩, 16, 17⟩
      (s.tokens.drop 6) (s'.tokens.drop 6) :=
    ⟨⟨name, overwrite, htarget, of_decide_eq_true hrest⟩, hfirst, hsecond, by decide,
      fun _ => ⟨_, _, _, _, heq, heq', hcloses⟩⟩
  exact ⟨s, s', _, _, _, _, eq_ok_of_toOption hs, eq_ok_of_toOption hs', hshares, hne,
    (readInsertHeader_ignores_query hshares).2 _ _ s s' _ (eq_ok_of_toOption hs) (eq_ok_of_toOption hs')
      rfl rfl (readInsert_of_header (eq_ok_of_toOption hs) hheader)⟩

end DryRun
