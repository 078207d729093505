import DryRun.Proofs.Sql.Reads
import DryRun.Proofs.Text.Words
import DryRun.Sql.Insert
import DryRun.Sql.TableHeader

/-!
# Headers among tokens

What the readers of headers do with a list of tokens. `Spells w A` describes the tokens that
`matchWords [w]` takes, and `Heading` those before the name of an INSERT, which lead to any other name as
well (`heading_of_read`, `Heading.read`). `level` counts parentheses, so that both the search for a
closing parenthesis and the check of a statement can be read off it.
-/

namespace DryRun

open Text

namespace Sql

/-! ## Matching one word -/

/-- Tokens that spell `w`: the last of them does, and those before it spell nothing. -/
inductive Spells (w : Text) : List Token → Prop
  | word {t : Token} : t.isQuoted = false → t.spelled = [w] → Spells w [t]
  | skip {t : Token} {A : List Token} : t.isQuoted = false → t.spelled = [] → Spells w A →
      Spells w (t :: A)

theorem isPrefixOf?_cons (v w : Text) (vs ws : List Text) :
    (v :: vs).isPrefixOf? (w :: ws) = if v == w then vs.isPrefixOf? ws else none := rfl

theorem matchWords_cons (w : Text) (t : Token) (ts : List Token) :
    matchWords [w] (t :: ts) =
      if t.isQuoted then none
      else if t.spelled = [] then matchWords [w] ts
      else if t.spelled = [w] then some ts
      else none := by
  rw [matchWords]
  split
  · rfl
  · match t.spelled with
    | [] => rfl
    | [v] =>
      rw [isPrefixOf?_cons]
      by_cases hv : v = w
      · subst hv
        rw [if_pos (beq_self_eq_true v), if_neg (by simp), if_pos rfl]
        change matchWords [] ts = some ts
        rw [matchWords]
      · simp [hv]
    | v :: v' :: vs =>
      rw [isPrefixOf?_cons]
      by_cases hv : v = w
      · rw [if_pos (by simpa using hv), if_neg (by simp), if_neg (by simp)]
        rfl
      · simp [hv]

theorem Spells.matched {w : Text} {A : List Token} (h : Spells w A) (r : List Token) :
    matchWords [w] (A ++ r) = some r := by
  induction h with
  | word hq hw =>
    rw [List.cons_append, matchWords_cons, hq, hw]
    simp
  | skip hq hw _ ih =>
    rw [List.cons_append, matchWords_cons, hq, hw]
    simpa using ih

theorem Spells.unmatched {w v : Text} {A : List Token} (h : Spells w A) (hv : v ≠ w)
    (r : List Token) : matchWords [v] (A ++ r) = none := by
  induction h with
  | word hq hw =>
    rw [List.cons_append, matchWords_cons, hq, hw]
    simp [hv.symm]
  | skip hq hw _ ih =>
    rw [List.cons_append, matchWords_cons, hq, hw]
    simpa using ih

theorem spells_of_matchWords {w : Text} {ts r : List Token} (h : matchWords [w] ts = some r) :
    ∃ A, Spells w A ∧ ts = A ++ r := by
  induction ts with
  | nil => cases h
  | cons t ts ih =>
    rw [matchWords_cons] at h
    split at h
    · cases h
    · rename_i hq
      have hq : t.isQuoted = false := by simpa using hq
      split at h
      · rename_i hw
        obtain ⟨A, hA, rfl⟩ := ih h
        exact ⟨t :: A, .skip hq hw hA, rfl⟩
      · split at h
        · rename_i hw
          cases h
          exact ⟨[t], .word hq hw, rfl⟩
        · cases h

/-- The words that may stand before the name in the header of an INSERT. -/
def headingWords : List Text := ["INSERT".toList, "INTO".toList, "OVERWRITE".toList, "TABLE".toList]

/-- A lexeme that may stand before the name in the header of an INSERT. -/
def Lexeme.isHeading (l : Lexeme) : Bool :=
  l.kind == .hint || (!l.isQuoted && (l.spelled.isEmpty || headingWords.any (l.spelled == [·])))

theorem Spells.heading {w : Text} {A : List Token} (h : Spells w A) (hw : w ∈ headingWords) :
    ∀ t ∈ A, t.isHeading = true := by
  induction h with
  | word hq ht =>
    intro t hm
    have hany : headingWords.any ([w] == [·]) = true := List.any_eq_true.2 ⟨w, hw, by simp⟩
    rw [List.mem_singleton.1 hm, Lexeme.isHeading, hq, ht, hany]
    simp
  | skip hq ht _ ih =>
    intro t hm
    rcases List.mem_cons.1 hm with rfl | hm
    · simp [Lexeme.isHeading, hq, ht]
    · exact ih t hm

/-- Only the lexemes of the tokens matter. -/
theorem Spells.congr {w : Text} {A B : List Token} (h : Spells w A)
    (hAB : B.map Token.toLexeme = A.map Token.toLexeme) : Spells w B := by
  induction h generalizing B with
  | word hq ht =>
    obtain ⟨t, B, rfl, hl, hB⟩ := List.map_eq_cons_iff.1 hAB
    obtain rfl := List.map_eq_nil_iff.1 hB
    exact .word (by rwa [hl]) (by rwa [hl])
  | skip hq ht _ ih =>
    obtain ⟨t, B, rfl, hl, hB⟩ := List.map_eq_cons_iff.1 hAB
    exact .skip (by rwa [hl]) (by rwa [hl]) (ih hB)

theorem Spells.getLast {w : Text} {A : List Token} (h : Spells w A) :
    ∃ t, A.getLast? = some t ∧ t.isQuoted = false ∧ t.spelled = [w] := by
  induction h with
  | word hq ht => exact ⟨_, rfl, hq, ht⟩
  | @skip t A hq ht hA ih =>
    obtain ⟨t', hl, h⟩ := ih
    have hne : A ≠ [] := by rintro rfl; cases hl
    exact ⟨t', by rw [List.getLast?_cons_of_ne_nil hne]; exact hl, h⟩

/-! ## The header of an INSERT -/

/-- The column list at the head of what follows the name of an INSERT. -/
def bodyColumns (rest : List Token) : List Text :=
  if rest.head?.any (·.kind == .leftParen) then columnsAhead rest else []

/-- The header of an INSERT from the name on. -/
def readInto (sql : Text) (overwrite : Bool) (tokens : List Token) : Option Insert := do
  let name ← readTableName tokens
  if opensBody name.rest then
    some ⟨name.ref, sql, name.start, name.stop, bodyColumns name.rest, overwrite⟩
  else none

theorem readInsertHeader_eq (sql : Text) (ts : List Token) :
    readInsertHeader sql ts = (matchWords ["INSERT".toList] ts).bind fun r =>
      (readVerb (r.dropWhile (·.kind == .hint))).bind fun v => readInto sql v.2 (skipTable v.1) :=
  rfl

/-- The word that says how rows are inserted. -/
def verbWord (overwrite : Bool) : Text := if overwrite then "OVERWRITE".toList else "INTO".toList

/-- The tokens before the name of an INSERT: `INSERT`, hints, `INTO` or `OVERWRITE`, and perhaps
`TABLE`. -/
inductive Heading (overwrite : Bool) : List Token → Prop
  | mk {A H V T : List Token} : Spells "INSERT".toList A → (∀ t ∈ H, t.kind = .hint) →
      Spells (verbWord overwrite) V → (∀ t, V.head? = some t → t.kind ≠ .hint) →
      T = [] ∨ Spells "TABLE".toList T → Heading overwrite (A ++ (H ++ (V ++ T)))

/-- A token that cannot be mistaken for `TABLE` or passed over. -/
def isFirstName (t : Token) : Bool :=
  t.isName && (t.isQuoted || (!t.spelled.isEmpty && t.spelled != ["TABLE".toList]))

theorem readVerb_spells {V r : List Token} {overwrite : Bool} (h : Spells (verbWord overwrite) V) :
    readVerb (V ++ r) = some (r, overwrite) := by
  unfold readVerb
  cases overwrite with
  | false =>
    have h : Spells "INTO".toList V := h
    rw [h.matched]
  | true =>
    have h : Spells "OVERWRITE".toList V := h
    rw [h.unmatched (by decide), h.matched]
    rfl

theorem spells_of_readVerb {ts r : List Token} {overwrite : Bool}
    (h : readVerb ts = some (r, overwrite)) : ∃ V, Spells (verbWord overwrite) V ∧ ts = V ++ r := by
  unfold readVerb at h
  split at h
  · rename_i hr
    cases h
    exact spells_of_matchWords hr
  · obtain ⟨r', hr, he⟩ := Option.map_eq_some_iff.1 h
    cases he
    exact spells_of_matchWords hr

theorem dropWhile_hint {H V r : List Token} (hH : ∀ t ∈ H, t.kind = .hint) (hne : V ≠ [])
    (hV : ∀ t, V.head? = some t → t.kind ≠ .hint) :
    (H ++ (V ++ r)).dropWhile (·.kind == .hint) = V ++ r := by
  rw [List.dropWhile_append_of_pos fun t ht => by simp [hH t ht]]
  cases V with
  | nil => exact absurd rfl hne
  | cons t V => rw [List.cons_append, List.dropWhile_cons_of_neg (by simpa using hV t rfl)]

theorem Spells.ne_nil {w : Text} {A : List Token} (h : Spells w A) : A ≠ [] := by
  cases h <;> simp

/-- After `INSERT INTO` or `INSERT OVERWRITE` the rest of the header follows, perhaps behind `TABLE`. -/
theorem readInsertHeader_verb {overwrite : Bool} {A H V : List Token} (hA : Spells "INSERT".toList A)
    (hH : ∀ t ∈ H, t.kind = .hint) (hV : Spells (verbWord overwrite) V)
    (hhead : ∀ t, V.head? = some t → t.kind ≠ .hint) (sql : Text) (r : List Token) :
    readInsertHeader sql (A ++ (H ++ (V ++ r))) = readInto sql overwrite (skipTable r) := by
  rw [readInsertHeader_eq, hA.matched, Option.bind_some, dropWhile_hint hH hV.ne_nil hhead,
    readVerb_spells hV, Option.bind_some]

/-- After the tokens of a heading, a name is read as the target. -/
theorem Heading.read {overwrite : Bool} {M : List Token} (h : Heading overwrite M) (sql : Text)
    {b : Token} (hb : isFirstName b = true) (rest : List Token) :
    readInsertHeader sql (M ++ b :: rest) = readInto sql overwrite (b :: rest) := by
  obtain @⟨A, H, V, T, hA, hH, hV, hhead, hT⟩ := h
  simp only [isFirstName, Bool.and_eq_true, Bool.or_eq_true, Bool.not_eq_true', bne_iff_ne] at hb
  have hskip : skipTable (T ++ b :: rest) = b :: rest := by
    unfold skipTable
    rcases hT with rfl | hT
    · have : matchWords ["TABLE".toList] (b :: rest) = none := by
        rw [matchWords_cons]
        rcases hb.2 with hq | ⟨hne, ht⟩
        · rw [if_pos hq]
        · have hne : b.spelled ≠ [] := by simpa using hne
          rw [if_neg hne, if_neg ht]
          split <;> rfl
      rw [List.nil_append, this]
    · rw [hT.matched]
      simp only [hb.1, if_true]
  rw [List.append_assoc, List.append_assoc, List.append_assoc, readInsertHeader_verb hA hH hV hhead, hskip]

theorem readInto_eq_some {sql : Text} {overwrite : Bool} {ts : List Token} {i : Insert}
    (h : readInto sql overwrite ts = some i) :
    ∃ name, readTableName ts = some name ∧ opensBody name.rest = true ∧ i.target = name.ref ∧
      i.sql = sql ∧ i.start = name.start ∧ i.stop = name.stop ∧ i.overwrite = overwrite ∧
      i.columns = bodyColumns name.rest := by
  obtain ⟨name, hn, h⟩ := Option.bind_eq_some_iff.1 h
  refine ⟨name, hn, ?_⟩
  split at h
  · rename_i ho
    cases h
    exact ⟨ho, rfl, rfl, rfl, rfl, rfl, rfl⟩
  · cases h

theorem readInto_of_name (sql : Text) (overwrite : Bool) {ts : List Token} {name : NameReading}
    (h : readTableName ts = some name) (hbody : opensBody name.rest = true) :
    readInto sql overwrite ts =
      some ⟨name.ref, sql, name.start, name.stop, bodyColumns name.rest, overwrite⟩ := by
  simp [readInto, h, hbody]

theorem skipTable_split (ts : List Token) :
    ∃ T, ts = T ++ skipTable ts ∧ (T = [] ∨ Spells "TABLE".toList T) := by
  unfold skipTable
  split
  · rename_i n rest hm
    split
    · obtain ⟨T, hT, rfl⟩ := spells_of_matchWords hm
      exact ⟨T, rfl, .inr hT⟩
    · exact ⟨[], rfl, .inl rfl⟩
  · exact ⟨[], rfl, .inl rfl⟩

/-- What stands before the rest of a header: `INSERT`, all hints behind it, and `INTO` or `OVERWRITE`. -/
theorem exists_verb {ts r₁ r₂ : List Token} {overwrite : Bool}
    (h₁ : matchWords ["INSERT".toList] ts = some r₁)
    (h₂ : readVerb (r₁.dropWhile (·.kind == .hint)) = some (r₂, overwrite)) :
    ∃ A H V, ts = A ++ (H ++ (V ++ r₂)) ∧ Spells "INSERT".toList A ∧ (∀ t ∈ H, t.kind = .hint) ∧
      Spells (verbWord overwrite) V ∧ ∀ t, V.head? = some t → t.kind ≠ .hint := by
  obtain ⟨A, hA, rfl⟩ := spells_of_matchWords h₁
  obtain ⟨V, hV, hr⟩ := spells_of_readVerb h₂
  refine ⟨A, r₁.takeWhile (·.kind == .hint), V, ?_, hA, fun t ht => ?_, hV, fun t ht => ?_⟩
  · rw [← hr, List.takeWhile_append_dropWhile]
  · have := List.all_eq_true.1 List.all_takeWhile t ht
    simpa using this
  · have := List.head?_dropWhile_not (fun t : Token => t.kind == .hint) r₁
    rw [hr, List.head?_append, ht, Option.some_or] at this
    simpa using this

/-- The header of an INSERT is a heading and what follows it. -/
theorem heading_of_read {sql : Text} {ts : List Token} {i : Insert}
    (h : readInsertHeader sql ts = some i) :
    ∃ M r, ts = M ++ r ∧ Heading i.overwrite M ∧ readInto sql i.overwrite r = some i := by
  rw [readInsertHeader_eq] at h
  obtain ⟨r₁, h₁, hrest⟩ := Option.bind_eq_some_iff.1 h
  obtain ⟨⟨r₂, overwrite⟩, h₂, h₃⟩ := Option.bind_eq_some_iff.1 hrest
  obtain ⟨A, H, V, rfl, hA, hH, hV, hhead⟩ := exists_verb h₁ h₂
  obtain ⟨T, hT, hTs⟩ := skipTable_split r₂
  have how : i.overwrite = overwrite := by
    obtain ⟨name, -, -, -, -, -, -, how, -⟩ := readInto_eq_some h₃
    exact how
  refine ⟨A ++ (H ++ (V ++ T)), skipTable r₂, ?_, ?_, ?_⟩
  · simp only [List.append_assoc, ← hT]
  · rw [how]
    exact .mk hA hH hV hhead hTs
  · rw [how]
    exact h₃

theorem Heading.isHeading {overwrite : Bool} {M : List Token} (h : Heading overwrite M) :
    ∀ t ∈ M, t.isHeading = true := by
  obtain @⟨A, H, V, T, hA, hH, hV, -, hT⟩ := h
  intro t ht
  simp only [List.mem_append] at ht
  rcases ht with ht | ht | ht | ht
  · exact hA.heading (by decide) t ht
  · simp [Lexeme.isHeading, hH t ht]
  · exact hV.heading (by cases overwrite <;> decide) t ht
  · rcases hT with rfl | hT
    · cases ht
    · exact hT.heading (by decide) t ht

theorem Heading.congr {overwrite : Bool} {M N : List Token} (h : Heading overwrite M)
    (hMN : N.map Token.toLexeme = M.map Token.toLexeme) : Heading overwrite N := by
  obtain @⟨A, H, V, T, hA, hH, hV, hhead, hT⟩ := h
  simp only [List.map_append] at hMN
  obtain ⟨A', N, rfl, hA', hMN⟩ := List.map_eq_append_iff.1 hMN
  obtain ⟨H', N, rfl, hH', hMN⟩ := List.map_eq_append_iff.1 hMN
  obtain ⟨V', T', rfl, hV', hT'⟩ := List.map_eq_append_iff.1 hMN
  refine .mk (hA.congr hA') (fun t ht => ?_) (hV.congr hV') (fun t ht => ?_) ?_
  · have hm : t.toLexeme ∈ H.map Token.toLexeme := by rw [← hH']; exact List.mem_map_of_mem ht
    obtain ⟨s, hs, he⟩ := List.mem_map.1 hm
    rw [← he]
    exact hH s hs
  · have hm : (V.map Token.toLexeme).head? = some t.toLexeme := by rw [← hV', List.head?_map, ht]; rfl
    rw [List.head?_map] at hm
    obtain ⟨s, hs, he⟩ := Option.map_eq_some_iff.1 hm
    rw [← he]
    exact hhead s hs
  · rcases hT with rfl | hT
    · exact .inl (List.map_eq_nil_iff.1 hT')
    · exact .inr (hT.congr hT')

/-- A heading ends in one of its words. -/
theorem Heading.getLast {overwrite : Bool} {M : List Token} (h : Heading overwrite M) :
    ∃ t w, M.getLast? = some t ∧ t.isQuoted = false ∧ t.spelled = [w] ∧
      w ∈ ["INTO".toList, "OVERWRITE".toList, "TABLE".toList] := by
  obtain @⟨A, H, V, T, -, -, hV, -, hT⟩ := h
  rcases hT with rfl | hT
  · obtain ⟨t, hl, hq, hw⟩ := hV.getLast
    refine ⟨t, _, ?_, hq, hw, by cases overwrite <;> decide⟩
    simp [List.getLast?_append, hl]
  · obtain ⟨t, hl, hq, hw⟩ := hT.getLast
    refine ⟨t, _, ?_, hq, hw, by decide⟩
    simp [List.getLast?_append, hl]

theorem Heading.ne_nil {overwrite : Bool} {M : List Token} (h : Heading overwrite M) : M ≠ [] := by
  rintro rfl
  obtain ⟨t, w, ht, -⟩ := h.getLast
  cases ht

theorem Heading.not_cast {overwrite : Bool} {M : List Token} (h : Heading overwrite M) :
    ∀ a, M.getLast? = some a → a.toLexeme ≠ ⟨.symbol, "::".toList⟩ := by
  obtain ⟨t, w, ht, -, hw, hm⟩ := h.getLast
  intro a ha he
  rw [ht] at ha
  cases ha
  have key : ∀ w ∈ ["INTO".toList, "OVERWRITE".toList, "TABLE".toList],
      (⟨.symbol, "::".toList⟩ : Lexeme).spelled ≠ [w] := by decide +kernel
  rw [he] at hw
  exact key w hm hw

/-! ## Table names -/

/-- The tokens of a name and those that hold its parts: a dot stands between each two. -/
inductive Dotted : List Token → List Token → Prop where
  | one {t : Token} (ht : t.isName = true) : Dotted [t] [t]
  | cons {t d : Token} {parts N : List Token} (ht : t.isName = true) (hd : d.kind = .dot)
      (h : Dotted parts N) : Dotted (t :: parts) (t :: d :: N)

theorem Dotted.subset {parts N : List Token} (h : Dotted parts N) : parts ⊆ N := by
  induction h with
  | one => exact List.Subset.refl _
  | cons _ _ _ ih => exact List.cons_subset_cons _ (List.subset_cons_of_subset _ ih)

/-- The last part is the last token, and a dot stands before it unless it is the only one. -/
theorem Dotted.last {parts N : List Token} (h : Dotted parts N) :
    ∃ M e, N = M ++ [e] ∧ parts.getLast? = some e ∧ e.isName = true ∧
      (∀ d, M.getLast? = some d → d.kind = .dot) ∧ ∀ t ∈ M, t.isName = true ∨ t.kind = .dot := by
  induction h with
  | @one t ht => exact ⟨[], t, rfl, rfl, ht, by simp, by simp⟩
  | @cons t d parts N ht hd h ih =>
    obtain ⟨M, e, rfl, hlast, he, hdot, hM⟩ := ih
    refine ⟨t :: d :: M, e, rfl, by rw [List.getLast?_cons, hlast]; rfl, he, ?_, ?_⟩
    · intro d' hd'
      rw [List.getLast?_cons_cons, List.getLast?_cons] at hd'
      cases hd'
      cases hM' : M.getLast? with
      | none => exact hd
      | some x => exact hdot x hM'
    · exact List.forall_mem_cons.2 ⟨.inl ht, List.forall_mem_cons.2 ⟨.inr hd, hM⟩⟩

theorem dotted_dottedParts {ts : List Token} {t : Token} (ht : t.isName = true) :
    ∃ N, Dotted (t :: (dottedParts ts).1) N ∧ t :: ts = N ++ (dottedParts ts).2 := by
  fun_induction dottedParts ts generalizing t with
  | case1 d n rest hc parts rest' hp ih =>
    simp only [Bool.and_eq_true, beq_iff_eq] at hc
    obtain ⟨N, hN, heq⟩ := ih hc.2
    rw [hp] at hN heq
    exact ⟨t :: d :: N, .cons ht hc.1 hN, by rw [List.cons_append, List.cons_append, ← heq]⟩
  | case2 | case3 => exact ⟨[t], .one ht, rfl⟩

end Sql

/-- All parts of a table name, outermost first. -/
def TableRef.given (ref : TableRef) : List Text := ref.catalog.toList ++ ref.schema.toList ++ [ref.name]

namespace Sql

theorem ofParts?_given {parts : List Text} {ref : TableRef} (h : TableRef.ofParts? parts = some ref) :
    ref.given = parts := by
  unfold TableRef.ofParts? at h
  split at h <;> cases h <;> rfl

theorem ofParts?_name {parts : List Text} {ref : TableRef} (h : TableRef.ofParts? parts = some ref) :
    parts.getLast? = some ref.name := by
  rw [← ofParts?_given h]
  exact List.getLast?_concat

theorem ofParts?_isSome {ns : List Text} (hne : ns ≠ []) :
    (TableRef.ofParts? ns).isSome = true ↔ ns.length ≤ 3 := by
  match ns with
  | [] => exact absurd rfl hne
  | [_] => simp [TableRef.ofParts?]
  | [_, _] => simp [TableRef.ofParts?]
  | [_, _, _] => simp [TableRef.ofParts?]
  | _ :: _ :: _ :: _ :: _ => simp [TableRef.ofParts?]

theorem readTableName_dotted {ts : List Token} {name : NameReading} (h : readTableName ts = some name) :
    ∃ b parts N, Dotted (b :: parts) N ∧ ts = N ++ name.rest ∧ ts.head? = some b ∧ b.isName = true ∧
      (b :: parts).map (·.text) = name.ref.given ∧ name.start = b.start ∧
      ∀ e, (b :: parts).getLast? = some e → name.stop = e.stop := by
  cases ts with
  | nil => cases h
  | cons b ts =>
    rw [readTableName] at h
    split at h
    · rename_i hb
      obtain ⟨ref, href, rfl⟩ := Option.map_eq_some_iff.1 h
      obtain ⟨N, hN, heq⟩ := dotted_dottedParts hb
      refine ⟨b, _, N, hN, heq, rfl, hb, (ofParts?_given href).symm, rfl, fun e he => ?_⟩
      rw [he]
      rfl
    · cases h

/-- A name ends in a token that holds its plain name, and a dot stands before that unless it is the only
one. -/
theorem readTableName_split {ts : List Token} {name : NameReading} (h : readTableName ts = some name) :
    ∃ b N e, ts.head? = some b ∧ b.isName = true ∧ name.start = b.start ∧
      ts = N ++ e :: name.rest ∧ (∀ d, N.getLast? = some d → d.kind = .dot) ∧ e.isName = true ∧
      name.stop = e.stop ∧ name.ref.name = e.text ∧ ∀ t ∈ N, t.isName = true ∨ t.kind = .dot := by
  obtain ⟨b, parts, N, hN, hts, hhead, hb, htexts, hstart, hstop⟩ := readTableName_dotted h
  obtain ⟨M, e, rfl, hlast, he, hdot, hM⟩ := hN.last
  refine ⟨b, M, e, hhead, hb, hstart, by rw [hts, List.append_assoc]; rfl, hdot, he, hstop e hlast, ?_, hM⟩
  have hname : name.ref.given.getLast? = some name.ref.name := List.getLast?_concat
  rw [← htexts, List.getLast?_map, hlast] at hname
  exact (Option.some.inj hname).symm

/-- A name with a catalog begins with it. -/
theorem readTableName_catalog {ts : List Token} {name : NameReading} {c : Text}
    (h : readTableName ts = some name) (hc : name.ref.catalog = some c) :
    ∃ b r, ts = b :: r ∧ b.isName = true ∧ b.text = c := by
  obtain ⟨b, parts, N, -, -, hhead, hb, htexts, -⟩ := readTableName_dotted h
  obtain ⟨r, rfl⟩ := List.head?_eq_some_iff.1 hhead
  rw [TableRef.given, hc] at htexts
  exact ⟨b, r, rfl, hb, (List.cons.inj htexts).1⟩

/-- Whether the body of an INSERT begins is seen in a token that spells something. -/
theorem opensBody_cons {t : Token} (ht : t.spelled ≠ []) (ts : List Token) :
    opensBody (t :: ts) = (t.kind == .leftParen || t.kind == .hint ||
      (!t.isQuoted && bodyWords.any (t.spelled == [·]))) := by
  have hw : ∀ w, beginsWith w (t :: ts) = (!t.isQuoted && (t.spelled == [w])) := by
    intro w
    rw [beginsWith, matchWords_cons, if_neg ht]
    cases t.isQuoted with
    | true => rfl
    | false =>
      by_cases h : t.spelled = [w]
      · simp [h]
      · simp [h]
  unfold opensBody
  simp only [hw]
  congr 1
  cases t.isQuoted <;> simp

theorem Lexeme.spelled_of_isKeyword {l : Lexeme} {w : Text} (h : l.isKeyword w = true)
    (hw : words w = [w]) : l.isQuoted = false ∧ l.spelled = [w] := by
  simp only [Lexeme.isKeyword, Bool.and_eq_true, beq_iff_eq] at h
  exact ⟨by simp [Lexeme.isQuoted, h.1], by rw [Lexeme.spelled, h.2, hw]⟩

/-- A query begins the body of an INSERT. -/
theorem opensBody_select {t : Token} (ht : t.isKeyword "SELECT".toList = true) (ts : List Token) :
    opensBody (t :: ts) = true ∧ bodyColumns (t :: ts) = [] := by
  obtain ⟨hq, hs⟩ := Lexeme.spelled_of_isKeyword ht (by decide)
  have hk : t.kind = .word := by
    simp only [Lexeme.isKeyword, Bool.and_eq_true, beq_iff_eq] at ht
    exact ht.1
  constructor
  · rw [opensBody_cons (by rw [hs]; simp), hq, hs, hk]
    decide
  · exact if_neg (by rw [List.head?_cons, Option.any_some, hk]; decide)

/-- Lexemes that a name runs into without a body. -/
def bodyless : List Lexeme := [⟨.dot, ['.']⟩, ⟨.semicolon, [';']⟩, ⟨.symbol, "::".toList⟩]

theorem opensBody_bodyless {t : Token} (ht : t.toLexeme ∈ bodyless) (ts : List Token) :
    opensBody (t :: ts) = false := by
  have key : ∀ l ∈ bodyless, l.spelled ≠ [] ∧ (l.kind == .leftParen || l.kind == .hint ||
      (!l.isQuoted && bodyWords.any (l.spelled == [·]))) = false := by decide +kernel
  rw [opensBody_cons (key _ ht).1]
  exact (key _ ht).2

theorem opensBody_quoted {t : Token} (ht : t.isQuoted = true) (ts : List Token) :
    opensBody (t :: ts) = false := by
  have hw : ∀ w, beginsWith w (t :: ts) = false := by
    intro w
    rw [beginsWith, matchWords_cons, ht]
    rfl
  simp only [Lexeme.isQuoted, Bool.or_eq_true, beq_iff_eq] at ht
  rcases ht with ht | ht <;> simp [opensBody, hw, ht]

theorem dottedParts_of_head {rest : List Token} (h : ∀ t, rest.head? = some t → t.kind ≠ .dot) :
    dottedParts rest = ([], rest) := by
  match rest, h with
  | [], _ => rfl
  | [t], _ => rfl
  | t :: n :: rest, h =>
    have : (t.kind == .dot) = false := by simpa using h t rfl
    simp [dottedParts, this]

theorem readTableName_one {x : Token} (hx : x.isName = true) {rest : List Token}
    (hrest : ∀ t, rest.head? = some t → t.kind ≠ .dot) :
    readTableName (x :: rest) = some ⟨⟨none, none, x.text⟩, x.start, x.stop, rest⟩ := by
  simp only [readTableName, hx, dottedParts_of_head hrest, if_true]
  rfl

theorem readTableName_three {w₁ d₁ w₂ d₂ x : Token} (hw₁ : w₁.isName = true) (hd₁ : d₁.kind = .dot)
    (hw₂ : w₂.isName = true) (hd₂ : d₂.kind = .dot) (hx : x.isName = true) {rest : List Token}
    (hrest : ∀ t, rest.head? = some t → t.kind ≠ .dot) :
    readTableName (w₁ :: d₁ :: w₂ :: d₂ :: x :: rest) =
      some ⟨⟨some w₁.text, some w₂.text, x.text⟩, w₁.start, x.stop, rest⟩ := by
  simp only [readTableName, dottedParts, hw₁, hd₁, hw₂, hd₂, hx, dottedParts_of_head hrest,
    beq_self_eq_true, Bool.and_self, if_true]
  rfl

/-- A name of two parts goes on after a dot if a name follows, and then has no fourth part; else it ends
before the dot. -/
theorem readTableName_third {w₁ d₁ w₂ d₂ x : Token} {R : List Token} {name : NameReading}
    (h : readTableName (w₁ :: d₁ :: w₂ :: d₂ :: x :: R) = some name) (hd₁ : d₁.kind = .dot)
    (hw₂ : w₂.isName = true) (hd₂ : d₂.kind = .dot) :
    x.isName = true ∧ name.ref = ⟨some w₁.text, some w₂.text, x.text⟩ ∨ name.rest = d₂ :: x :: R := by
  rw [readTableName] at h
  split at h
  · cases hx : x.isName with
    | true =>
      refine .inl ⟨rfl, ?_⟩
      simp only [dottedParts, hd₁, hw₂, hd₂, hx, beq_self_eq_true, Bool.and_self, if_true] at h
      obtain ⟨ref, href, rfl⟩ := Option.map_eq_some_iff.1 h
      cases hp : (dottedParts R).1 with
      | nil =>
        rw [hp] at href
        cases href
        rfl
      | cons n parts =>
        rw [hp] at href
        cases href
    | false =>
      right
      simp only [dottedParts, hd₁, hw₂, hd₂, hx, beq_self_eq_true, Bool.and_self, if_true,
        Bool.and_false, Bool.false_eq_true, if_false] at h
      obtain ⟨ref, -, rfl⟩ := Option.map_eq_some_iff.1 h
      rfl
  · cases h

/-- In front of a query, a name is read as the target. -/
theorem readInto_select {sql : Text} {overwrite : Bool} {ts : List Token} {name : NameReading}
    (h : readTableName ts = some name) {sel : Token} {rest : List Token} (hrest : name.rest = sel :: rest)
    (hsel : sel.toLexeme = ⟨.word, "SELECT".toList⟩) :
    readInto sql overwrite ts = some ⟨name.ref, sql, name.start, name.stop, [], overwrite⟩ := by
  obtain ⟨hopens, hcolumns⟩ := opensBody_select (by rw [hsel]; decide) rest
  rw [readInto_of_name _ _ h (by rwa [hrest]), hrest, hcolumns]

/-! ## Parentheses -/

/-- The number of open parentheses after tokens of the given kinds, if none but those opened before is
closed. -/
def level : Nat → List Kind → Option Nat
  | depth, [] => some depth
  | depth, k :: ks =>
    if k == .leftParen then level (depth + 1) ks
    else if k == .rightParen then if depth = 0 then none else level (depth - 1) ks
    else level depth ks

theorem level_append {d e : Nat} {ks : List Kind} (h : level d ks = some e) (ks' : List Kind) :
    level d (ks ++ ks') = level e ks' := by
  induction ks generalizing d with
  | nil => cases h; rfl
  | cons k ks ih =>
    rw [level] at h
    rw [List.cons_append, level]
    split at h
    · rename_i hk
      rw [if_pos hk, ih h]
    · rename_i hk
      rw [if_neg hk]
      split at h
      · rename_i hk'
        split at h
        · cases h
        · rename_i hd
          rw [if_pos hk', if_neg hd, ih h]
      · rename_i hk'
        rw [if_neg hk', ih h]

theorem enclosed_cons (depth : Nat) (t : Token) (ts : List Token) :
    enclosed depth (t :: ts) =
      if t.kind == .leftParen then (enclosed (depth + 1) ts).map fun r => (t :: r.1, r.2)
      else if t.kind == .rightParen then
        match depth with
        | 0 => some ([], t, ts)
        | depth + 1 => (enclosed depth ts).map fun r => (t :: r.1, r.2)
      else (enclosed depth ts).map fun r => (t :: r.1, r.2) := by
  cases depth <;> rfl

theorem checkTokens_cons (depth : Nat) (t : Token) (ts : List Token) :
    checkTokens depth (t :: ts) =
      if t.kind == .semicolon && !ts.isEmpty then .error .several
      else if t.kind == .leftParen then checkTokens (depth + 1) ts
      else if t.kind == .rightParen then
        match depth with
        | 0 => .error (.unbalanced t.start)
        | depth + 1 => checkTokens depth ts
      else checkTokens depth ts := by
  cases depth <;> rfl

theorem checkTokens_leftParen {t : Token} (h : t.kind = .leftParen) (depth : Nat) (ts : List Token) :
    checkTokens depth (t :: ts) = checkTokens (depth + 1) ts := by
  rw [checkTokens_cons, h]
  rfl

theorem checkTokens_rightParen {t : Token} (h : t.kind = .rightParen) (depth : Nat) (ts : List Token) :
    checkTokens (depth + 1) (t :: ts) = checkTokens depth ts := by
  rw [checkTokens_cons, h]
  rfl

/-- The parentheses between an opening one and the one that closes it are balanced. -/
theorem enclosed_eq_some {depth : Nat} {ts inner after : List Token} {c : Token} :
    enclosed depth ts = some (inner, c, after) ↔
      ts = inner ++ c :: after ∧ c.kind = .rightParen ∧
        level depth (inner.map (·.kind)) = some 0 := by
  induction ts generalizing depth inner with
  | nil => simp [enclosed]
  | cons t ts ih =>
    have hmap : ∀ d, (enclosed d ts).map (fun r => (t :: r.1, r.2)) = some (inner, c, after) ↔
        ∃ inner', inner = t :: inner' ∧ ts = inner' ++ c :: after ∧ c.kind = .rightParen ∧
          level d (inner'.map (·.kind)) = some 0 := by
      intro d
      rw [Option.map_eq_some_iff]
      constructor
      · rintro ⟨⟨inner', c', after'⟩, hr, he⟩
        cases he
        exact ⟨inner', rfl, ih.1 hr⟩
      · rintro ⟨inner', rfl, hr⟩
        exact ⟨_, ih.2 hr, rfl⟩
    rw [enclosed_cons]
    cases inner with
    | nil =>
      simp only [List.nil_append, List.cons.injEq, List.map_nil, level, Option.some.injEq]
      split
      · rename_i hk
        simp only [hmap, reduceCtorEq, false_and, exists_const, false_iff]
        rintro ⟨⟨rfl, -⟩, hr, -⟩
        rw [hr] at hk
        cases hk
      · split
        · rename_i hk
          cases depth with
          | zero =>
            simp only [Option.some.injEq, Prod.mk.injEq, true_and, and_true]
            exact ⟨fun h => ⟨h, h.1 ▸ eq_of_beq hk⟩, fun h => h.1⟩
          | succ depth => simp [hmap]
        · rename_i hk
          simp only [hmap, reduceCtorEq, false_and, exists_const, false_iff]
          rintro ⟨⟨rfl, -⟩, hr, -⟩
          rw [hr] at hk
          exact hk rfl
    | cons a inner =>
      simp only [List.cons_append, List.cons.injEq, List.map_cons, level]
      by_cases ha : t = a
      · subst ha
        split
        · simp [hmap]
        · split
          · cases depth with
            | zero => simp
            | succ depth => simp [hmap]
          · simp [hmap]
      · split
        · simp [hmap, Ne.symm ha, ha]
        · split
          · cases depth with
            | zero => simp [ha]
            | succ depth => simp [hmap, Ne.symm ha, ha]
          · simp [hmap, Ne.symm ha, ha]

/-- Tokens that are no parentheses and no separators do not matter to the check of a statement. -/
theorem checkTokens_flat {A : List Token}
    (h : ∀ t ∈ A, t.kind ≠ .semicolon ∧ t.kind ≠ .leftParen ∧ t.kind ≠ .rightParen) (depth : Nat)
    (rest : List Token) : checkTokens depth (A ++ rest) = checkTokens depth rest := by
  induction A with
  | nil => rfl
  | cons t A ih =>
    obtain ⟨h₁, h₂, h₃⟩ := h t (List.mem_cons_self ..)
    rw [List.cons_append, checkTokens_cons]
    simp [h₁, h₂, h₃, ih fun s hs => h s (List.mem_cons_of_mem _ hs)]

/-- Balanced tokens without a separator pass the check of a statement. -/
theorem checkTokens_level {d e : Nat} {inner : List Token}
    (h : level d (inner.map (·.kind)) = some e)
    (hsep : ∀ t ∈ inner, t.kind ≠ .semicolon) (k : Nat) (rest : List Token) :
    checkTokens (k + d) (inner ++ rest) = checkTokens (k + e) rest := by
  induction inner generalizing d with
  | nil => cases h; rfl
  | cons t inner ih =>
    have hs : (t.kind == .semicolon) = false := by simpa using hsep t (List.mem_cons_self ..)
    have hsep := fun s hs => hsep s (List.mem_cons_of_mem _ hs)
    rw [List.cons_append, checkTokens_cons, hs]
    rw [List.map_cons, level] at h
    split at h
    · rename_i hk
      simp only [Bool.false_and, Bool.false_eq_true, if_false, hk, if_true]
      exact ih h hsep
    · rename_i hk
      split at h
      · rename_i hk'
        simp only [Bool.false_and, Bool.false_eq_true, if_false, hk, hk', if_true]
        cases d with
        | zero => cases h
        | succ d => exact ih h hsep
      · rename_i hk'
        simp only [Bool.false_and, Bool.false_eq_true, if_false, hk, hk']
        exact ih h hsep

theorem checkTokens_lexemes {d e : Nat} {M : List Token} {L : List Lexeme}
    (hM : M.map Token.toLexeme = L) (h : level d (L.map (·.kind)) = some e)
    (hsep : L.all (·.kind != .semicolon) = true) (k : Nat) (rest : List Token) :
    checkTokens (k + d) (M ++ rest) = checkTokens (k + e) rest := by
  refine checkTokens_level ?_ (fun t ht => ?_) k rest
  · rw [← h, ← hM, List.map_map]
    rfl
  · have := List.all_eq_true.1 hsep t.toLexeme (by rw [← hM]; exact List.mem_map_of_mem ht)
    simpa using this

/-- Only the last token of a statement can be a separator. -/
theorem not_separator_of_checkTokens {d : Nat} {ts rest : List Token}
    (h : checkTokens d (ts ++ rest) = .ok ()) (hne : rest ≠ []) :
    ∀ t ∈ ts, t.kind ≠ .semicolon := by
  induction ts generalizing d with
  | nil => simp
  | cons t ts ih =>
    have hts : (ts ++ rest).isEmpty = false := by simp [hne]
    rw [List.cons_append, checkTokens_cons, hts] at h
    have hs : t.kind ≠ .semicolon := by
      intro hk
      simp [hk] at h
    have hs' : (t.kind == .semicolon) = false := by simpa using hs
    have ih : ∀ s ∈ ts, s.kind ≠ .semicolon := by
      simp only [hs', Bool.false_and, Bool.false_eq_true, if_false] at h
      split at h
      · exact ih h
      · split at h
        · cases d with
          | zero => cases h
          | succ d => exact ih h
        · exact ih h
    intro s hm
    rcases List.mem_cons.1 hm with rfl | hm
    · exact hs
    · exact ih s hm

/-! ## Statements -/

theorem scan_of_blank {sql : Text} (h : isBlankText sql = true) (o : Nat) (p : Option Lexeme) :
    scanFrom 0 o p sql = .ok [] := by
  induction sql generalizing o with
  | nil => rfl
  | cons c sql ih =>
    simp only [isBlankText, List.all_cons, Bool.and_eq_true] at h
    rw [scanFrom_blank h.1]
    exact ih h.2 _

/-- A blank text has no tokens, so that what is read of a text is settled by its scan. -/
theorem readStatement_eq (sql : Text) :
    readStatement sql = match scan sql with
      | .error cause => .error (.lexical cause)
      | .ok pieces =>
        if (pieces.filter Token.isSignificant).head?.all (·.kind == .semicolon) then .error .empty
        else (checkTokens 0 (pieces.filter Token.isSignificant)).map
          fun _ => ⟨pieces.filter Token.isSignificant, commentAfterEnd pieces⟩ := by
  unfold readStatement
  split
  · rename_i hblank
    rw [scan, scan_of_blank hblank]
    rfl
  · cases scan sql with
    | error cause => rfl
    | ok pieces =>
      dsimp only
      split
      · rfl
      · cases checkTokens 0 (pieces.filter Token.isSignificant) <;> rfl

theorem readStatement_eq_ok {sql : Text} {s : Statement} (h : readStatement sql = .ok s) :
    ∃ pieces, scan sql = .ok pieces ∧ s.tokens = pieces.filter Token.isSignificant ∧
      checkTokens 0 s.tokens = .ok () := by
  rw [readStatement_eq] at h
  split at h
  · cases h
  · rename_i pieces hscan
    split at h
    · cases h
    · obtain ⟨_, hcheck, rfl⟩ := map_eq_ok.1 h
      exact ⟨pieces, hscan, rfl, hcheck⟩

/-- A text is read as a statement if its tokens pass the check and it does not begin with a separator. -/
theorem readStatement_of_scan {sql : Text} {pieces : List Token} (hs : scan sql = .ok pieces)
    (hhead : (pieces.filter Token.isSignificant).head?.any (·.kind != .semicolon) = true) :
    readStatement sql = (checkTokens 0 (pieces.filter Token.isSignificant)).map
      fun _ => ⟨pieces.filter Token.isSignificant, commentAfterEnd pieces⟩ := by
  have hall : (pieces.filter Token.isSignificant).head?.all (·.kind == .semicolon) = false := by
    cases hh : (pieces.filter Token.isSignificant).head? with
    | none => rw [hh] at hhead; cases hhead
    | some t =>
      rw [hh] at hhead
      simpa using hhead
  rw [readStatement_eq, hs]
  simp only [hall, Bool.false_eq_true, if_false]

theorem slice_between (x y z : Text) (c : Char) :
    slice (x ++ c :: (y ++ z)) (x.length + 1) (x.length + 1 + y.length) = y := by
  have hx : x ++ c :: (y ++ z) = (x ++ [c]) ++ (y ++ z) := by simp
  have hl : x.length + 1 = (x ++ [c]).length := by simp
  rw [slice, hx, hl, List.drop_left, Nat.add_sub_cancel_left, List.take_left]

theorem filter_split {α : Type} {p : α → Bool} {l A B : List α} {b : α} (h : l.filter p = A ++ b :: B) :
    ∃ l₁ l₂, l = l₁ ++ b :: l₂ ∧ l₁.filter p = A ∧ l₂.filter p = B := by
  obtain ⟨l₁, l', rfl, h₁, h'⟩ := List.filter_eq_append_iff.1 h
  obtain ⟨l₂, l₃, rfl, h₂, -, h₃⟩ := List.filter_eq_cons_iff.1 h'
  refine ⟨l₁ ++ l₂, l₃, by simp, ?_, h₃⟩
  rw [List.filter_append, h₁, List.filter_eq_nil_iff.2 h₂, List.append_nil]

/-- No separator is among the tokens and comments before the end of a statement. -/
theorem not_separator_of_filter {P A rest : List Token}
    (hP : ∀ s ∈ P.filter Token.isSignificant, s ∈ A) (h : checkTokens 0 (A ++ rest) = .ok ())
    (hne : rest ≠ []) : ∀ s ∈ P, s.kind ≠ .semicolon := by
  intro s hs hk
  refine not_separator_of_checkTokens h hne s (hP s ?_) hk
  exact List.mem_filter.2 ⟨hs, by rw [Token.isSignificant, hk]; rfl⟩

/-- Two parentheses of a text: what stands before, between and behind them, and its tokens. -/
structure Between (sql : Text) (pieces P₁ : List Token) (opening : Token) (P : List Token) (closing : Token)
    (P₃ : List Token) (x region z : Text) (q₁ q : Option Lexeme) : Prop where
  pieces_eq : pieces = P₁ ++ opening :: (P ++ closing :: P₃)
  text : sql = x ++ '(' :: (region ++ ')' :: z)
  opening_eq : opening = ⟨⟨.leftParen, ['(']⟩, x.length, x.length + 1⟩
  closing_eq : closing = ⟨⟨.rightParen, [')']⟩, x.length + 1 + region.length, x.length + 1 + region.length + 1⟩
  before : Reads ('(' :: (region ++ ')' :: z)) none x (P₁.map Token.toLexeme) q₁
  inside : Reads (')' :: z) (some ⟨.leftParen, ['(']⟩) region (P.map Token.toLexeme) q
  scanned : scanFrom 0 (x.length + 1) (some ⟨.leftParen, ['(']⟩) (region ++ ')' :: z) = .ok (P ++ closing :: P₃)
  behind : scanFrom 0 closing.stop (some ⟨.rightParen, [')']⟩) z = .ok P₃

theorem Between.slice_eq {sql : Text} {pieces P₁ P P₃ : List Token} {opening closing : Token}
    {x region z : Text} {q₁ q : Option Lexeme}
    (h : Between sql pieces P₁ opening P closing P₃ x region z q₁ q) :
    slice sql opening.stop closing.start = region := by
  rw [h.text, h.opening_eq, h.closing_eq]
  exact slice_between x region (')' :: z) '('

section Between

variable {sql : Text} {pieces A inner after : List Token} {opening closing : Token}
  (hscan : scan sql = .ok pieces)
  (hp : pieces.filter Token.isSignificant = A ++ opening :: (inner ++ closing :: after))
  (hcheck : checkTokens 0 (pieces.filter Token.isSignificant) = .ok ())
  (ho : opening.kind = .leftParen) (hc : closing.kind = .rightParen)

include hscan hp hcheck ho hc

/-- A statement is cut at two of its parentheses. -/
theorem exists_between : ∃ P₁ P P₃ x region z q₁ q,
    Between sql pieces P₁ opening P closing P₃ x region z q₁ q ∧ P₁.filter Token.isSignificant = A ∧
      P.filter Token.isSignificant = inner ∧ ∀ s ∈ P, s.kind ≠ .semicolon := by
  rw [hp] at hcheck
  obtain ⟨P₁, P₂, rfl, h₁, h₂⟩ := filter_split hp
  obtain ⟨P, P₃, rfl, hin, -⟩ := filter_split h₂
  have hsep₁ : ∀ s ∈ P₁, s.kind ≠ .semicolon :=
    not_separator_of_filter (fun s hs => by rwa [h₁] at hs) hcheck (by simp)
  have hcheck' : checkTokens 0 ((A ++ opening :: inner) ++ closing :: after) = .ok () := by
    simpa using hcheck
  have hsep : ∀ s ∈ P, s.kind ≠ .semicolon := by
    refine not_separator_of_filter (fun s hs => ?_) hcheck' (by simp)
    rw [hin] at hs
    exact List.mem_append_right _ (List.mem_cons_of_mem _ hs)
  obtain ⟨x, y, q₁, rfl, hbefore, hst₁, hs₁, hy₁⟩ := scan_cut hscan
    (fun s hs => by
      rcases List.mem_append.1 hs with hs | hs
      · exact hsep₁ s hs
      · rw [List.mem_singleton.1 hs, ho]; decide)
    (by rw [ho]; decide) (fun he => by rw [he] at ho; cases ho) (fun hk => by rw [ho] at hk; cases hk)
  rw [Nat.zero_add] at hst₁
  rw [hst₁] at hs₁
  obtain ⟨c, r, rfl, rfl, hs₂⟩ := scan_sign hs₁ hy₁ (by rw [ho]; rfl)
  obtain rfl : c = '(' := eq_leftParen ho
  obtain ⟨region, y, q, rfl, hinside, hst, hs₃, hy⟩ := scan_cut hs₂
    (fun s hs => by
      rcases List.mem_append.1 hs with hs | hs
      · exact hsep s hs
      · rw [List.mem_singleton.1 hs, hc]; decide)
    (by rw [hc]; decide) (fun he => by rw [he] at hc; cases hc) (fun hk => by rw [hc] at hk; cases hk)
  rw [hst] at hs₃
  obtain ⟨c, z, rfl, rfl, hbehind⟩ := scan_sign hs₃ hy (by rw [hc]; rfl)
  obtain rfl : c = ')' := eq_rightParen hc
  exact ⟨P₁, P, P₃, x, region, z, q₁, q,
    ⟨rfl, rfl, rfl, rfl, hbefore, hinside, hs₂, hbehind⟩, h₁, hin, hsep⟩

/-- The text between two parentheses of a statement is read on its own. -/
theorem reads_between : ∃ (P : List Token) (q : Option Lexeme), P.filter Token.isSignificant = inner ∧
    (∀ s ∈ P, s.kind ≠ .semicolon) ∧
    Reads [] (some ⟨.leftParen, ['(']⟩) (slice sql opening.stop closing.start) (P.map Token.toLexeme) q := by
  obtain ⟨P₁, P, P₃, x, region, z, q₁, q, h, -, hin, hsep⟩ := exists_between hscan hp hcheck ho hc
  refine ⟨P, q, hin, hsep, ?_⟩
  rw [h.slice_eq]
  exact Reads.restrict (z := []) h.inside fun _ => .of_closer fun c hc => by cases hc; decide

end Between

/-! ## The header of a CREATE TABLE -/

/-- Tokens that spell some of the words. -/
def Worded (ws : List Text) (M : List Token) : Prop := ∀ t ∈ M, ∀ w ∈ t.spelled, w ∈ ws

theorem Worded.append {ws : List Text} {M M' : List Token} (h : Worded ws M) (h' : Worded ws M') :
    Worded ws (M ++ M') :=
  fun t ht => (List.mem_append.1 ht).elim (h t) (h' t)

theorem Worded.mono {ws ws' : List Text} {M : List Token} (h : Worded ws M) (hsub : ws ⊆ ws') :
    Worded ws' M :=
  fun t ht w hw => hsub (h t ht w hw)

theorem eq_append_of_isPrefixOf? {vs ws r : List Text} (h : vs.isPrefixOf? ws = some r) : ws = vs ++ r := by
  induction vs generalizing ws with
  | nil => exact Option.some.inj h
  | cons v vs ih =>
    cases ws with
    | nil => cases h
    | cons w ws =>
      rw [isPrefixOf?_cons] at h
      split at h
      · rename_i hv
        rw [ih h, eq_of_beq hv]
        rfl
      · cases h

theorem worded_of_matchWords {ws : List Text} {ts r : List Token} (h : matchWords ws ts = some r) :
    ∃ M, ts = M ++ r ∧ Worded ws M := by
  fun_induction matchWords ws ts with
  | case1 => cases h; exact ⟨[], rfl, by simp [Worded]⟩
  | case2 | case3 | case5 => cases h
  | case4 w ws t ts _ pending hp ih =>
    obtain ⟨M, rfl, hM⟩ := ih h
    have happ := eq_append_of_isPrefixOf? hp
    refine ⟨t :: M, rfl, List.forall_mem_cons.2 ⟨fun v hv => ?_, hM.mono fun v hv => ?_⟩⟩ <;> rw [happ]
    · exact List.mem_append_left _ hv
    · exact List.mem_append_right _ hv

theorem matchWords_none {w v : Text} {ws : List Text} {t : Token} (ht : t.spelled = [v]) (hv : v ≠ w)
    (ts : List Token) : matchWords (w :: ws) (t :: ts) = none := by
  rw [matchWords, ht, isPrefixOf?_cons]
  simp [hv]

theorem worded_skipWords (ws : List Text) (ts : List Token) :
    ∃ M, ts = M ++ skipWords ws ts ∧ Worded ws M := by
  unfold skipWords
  cases h : matchWords ws ts with
  | none => exact ⟨[], rfl, by simp [Worded]⟩
  | some r => exact worded_of_matchWords h

theorem readTableHeader_eq_some {sql : Text} {ts : List Token} {header : TableHeader}
    (h : readTableHeader sql ts = some header) :
    ∃ opening rest inner closing after, readTableOpening ts = some (header.table, opening, rest) ∧
      enclosed 0 rest = some (inner, closing, after) ∧
      header.columns = Text.strip (slice sql opening.stop closing.start) := by
  obtain ⟨⟨table, opening, rest⟩, ho, h⟩ := Option.bind_eq_some_iff.1 h
  obtain ⟨⟨inner, closing, after⟩, he, h⟩ := Option.bind_eq_some_iff.1 h
  cases h
  exact ⟨opening, rest, inner, closing, after, ho, he, rfl⟩

/-- The header of a CREATE TABLE from the name on. -/
def readOpening (tokens : List Token) : Option (TableRef × Token × List Token) :=
  (readTableName tokens).bind fun name =>
    match name.rest with
    | t :: rest => if t.kind == .leftParen then some (name.ref, t, rest) else none
    | [] => none

theorem readTableOpening_eq (ts : List Token) :
    readTableOpening ts = (matchWords ["CREATE".toList] ts).bind fun r =>
      (matchWords ["TABLE".toList]
        (skipWords ["TEMPORARY".toList] (skipWords ["OR".toList, "REPLACE".toList] r))).bind fun r =>
        readOpening (skipWords ["IF".toList, "NOT".toList, "EXISTS".toList] r) :=
  rfl

theorem readOpening_eq_some {ts : List Token} {r : TableRef × Token × List Token} :
    readOpening ts = some r ↔ ∃ name, readTableName ts = some name ∧ name.ref = r.1 ∧
      name.rest = r.2.1 :: r.2.2 ∧ r.2.1.kind = .leftParen := by
  rw [readOpening, Option.bind_eq_some_iff]
  refine exists_congr fun name => and_congr_right fun _ => ?_
  obtain ⟨table, opening, rest⟩ := r
  cases name.rest with
  | nil => simp
  | cons t ts =>
    by_cases hk : t.kind = .leftParen
    · simp only [hk, beq_self_eq_true, if_true, Option.some.injEq, Prod.mk.injEq, List.cons.injEq]
      exact ⟨fun ⟨h₁, h₂, h₃⟩ => ⟨h₁, ⟨h₂, h₃⟩, h₂ ▸ hk⟩, fun ⟨h₁, h₂, _⟩ => ⟨h₁, h₂⟩⟩
    · have hk' : (t.kind == .leftParen) = false := by simpa using hk
      simp only [hk', Bool.false_eq_true, if_false, reduceCtorEq, List.cons.injEq, false_iff, not_and]
      rintro - ⟨rfl, -⟩ h
      exact hk h

/-- The words that may stand before the name of a CREATE TABLE. -/
def createWords : List Text :=
  ["CREATE".toList, "OR".toList, "REPLACE".toList, "TEMPORARY".toList, "TABLE".toList, "IF".toList,
    "NOT".toList, "EXISTS".toList]

/-- A table header is its words, the name and an opening parenthesis. -/
theorem readTableOpening_worded {ts rest : List Token} {ref : TableRef} {opening : Token}
    (h : readTableOpening ts = some (ref, opening, rest)) :
    ∃ M r name, ts = M ++ r ∧ Worded createWords M ∧ readTableName r = some name ∧ name.ref = ref ∧
      name.rest = opening :: rest ∧ opening.kind = .leftParen := by
  rw [readTableOpening_eq] at h
  obtain ⟨r₁, h₁, h⟩ := Option.bind_eq_some_iff.1 h
  obtain ⟨r₂, h₂, h⟩ := Option.bind_eq_some_iff.1 h
  obtain ⟨M₁, hts, hM₁⟩ := worded_of_matchWords h₁
  obtain ⟨M₂, hr₁, hM₂⟩ := worded_skipWords ["OR".toList, "REPLACE".toList] r₁
  obtain ⟨M₃, hr₁', hM₃⟩ := worded_skipWords ["TEMPORARY".toList]
    (skipWords ["OR".toList, "REPLACE".toList] r₁)
  obtain ⟨M₄, hr₂, hM₄⟩ := worded_of_matchWords h₂
  obtain ⟨M₅, hr₂', hM₅⟩ := worded_skipWords ["IF".toList, "NOT".toList, "EXISTS".toList] r₂
  obtain ⟨name, hname, href, hrest⟩ := (readOpening_eq_some (r := (ref, opening, rest))).1 h
  refine ⟨M₁ ++ M₂ ++ M₃ ++ M₄ ++ M₅, _, name, ?_, ?_, hname, href, hrest⟩
  · simp only [List.append_assoc]
    rw [← hr₂', ← hr₂, ← hr₁', ← hr₁, hts]
  · exact ((((hM₁.mono (by decide)).append (hM₂.mono (by decide))).append (hM₃.mono (by decide))).append
      (hM₄.mono (by decide))).append (hM₅.mono (by decide))

theorem readTableOpening_split {ts rest : List Token} {ref : TableRef} {opening : Token}
    (h : readTableOpening ts = some (ref, opening, rest)) :
    ∃ A, ts = A ++ opening :: rest ∧ opening.kind = .leftParen := by
  obtain ⟨M, r, name, rfl, -, hname, -, hrest, hk⟩ := readTableOpening_worded h
  obtain ⟨-, -, N, -, rfl, -⟩ := readTableName_dotted hname
  exact ⟨M ++ N, by rw [hrest, List.append_assoc], hk⟩

/-- The tokens `CREATE` and `TABLE` and one that is not `IF` open a definition. -/
theorem readTableOpening_name {c t b : Token} (hc : c.toLexeme = ⟨.word, "CREATE".toList⟩)
    (ht : t.toLexeme = ⟨.word, "TABLE".toList⟩)
    (hb : b.isQuoted = true ∨ ∃ v, b.spelled = [v] ∧ v ≠ "IF".toList) (rest : List Token) :
    readTableOpening (c :: t :: b :: rest) = readOpening (b :: rest) := by
  have hspell : t.spelled = ["TABLE".toList] := by rw [ht]; decide
  have h₁ : Spells "CREATE".toList [c] := .word (by rw [hc]; decide) (by rw [hc]; decide)
  have h₂ : Spells "TABLE".toList [t] := .word (by rw [ht]; decide) hspell
  have hif : matchWords ["IF".toList, "NOT".toList, "EXISTS".toList] (b :: rest) = none := by
    rcases hb with hq | ⟨v, hv, hne⟩
    · rw [matchWords, hq]
      rfl
    · exact matchWords_none hv hne rest
  rw [readTableOpening_eq, show matchWords ["CREATE".toList] (c :: t :: _) = some (t :: _) from h₁.matched _]
  simp only [Option.bind_some, skipWords,
    matchWords_none hspell (w := "OR".toList) (by decide),
    matchWords_none hspell (w := "TEMPORARY".toList) (by decide), Option.getD_none]
  rw [show matchWords ["TABLE".toList] (t :: b :: _) = some (b :: _) from h₂.matched _]
  simp only [Option.bind_some, hif, Option.getD_none]

end Sql

end DryRun
