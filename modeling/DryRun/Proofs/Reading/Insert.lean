import DryRun.Proofs.Reading.Definition
import DryRun.Proofs.Sql.Places
import DryRun.Reading.Insert

/-!
# Around the name of an INSERT

`insertTokens_of_read` says what every INSERT that is read looks like among tokens: a heading, a dotted name
and a body. In the text, what stands before the name is read on its own as a heading and comments
(`insertParts_of_read`), and what stands behind it is scanned on its own (`InsertTokens.behind`), so that the
token after the target can be named by its place (`InsertTokens.next?_eq`).
-/

namespace DryRun

open Text Sql

/-- The faults that the grammar finds. -/
theorem Sql.Statement.classified_error {s : Sql.Statement} {e : ReadError} (h : s.classified = .error e) :
    e = .grammar ∨ (∃ cause, e = .hint cause) ∨ e = .nothing ∨ e = .commentAfterEnd := by
  unfold Sql.Statement.classified at h
  split at h
  · cases h
    exact .inl rfl
  · cases h
    exact .inr (.inl ⟨_, rfl⟩)
  · split at h <;> cases h
    exact .inr (.inr (.inl rfl))
  · split at h <;> cases h
    exact .inr (.inr (.inr rfl))

theorem readInsert_eq_ok {sql : Text} {i : Insert} (h : readInsert sql = .ok i) :
    ∃ s, readStatement sql = .ok s ∧ readInsertHeader sql s.tokens = some i := by
  unfold readInsert at h
  split at h
  · cases h
  · rename_i s hs
    split at h
    · rename_i header hh
      cases h
      exact ⟨s, hs, hh⟩
    · split at h <;> cases h

theorem readInsert_of_header {sql : Text} {s : Statement} {i : Insert} (hs : readStatement sql = .ok s)
    (hh : readInsertHeader sql s.tokens = some i) : readInsert sql = .ok i := by
  rw [readInsert, hs]
  simp only [hh]

/-! ## Cutting a statement at a name -/

/-- The text before a name is read on its own, unless the name is a suffix. -/
theorem scan_cut_name {sql : Text} {pieces A B : List Token} {b : Token} (hscan : scan sql = .ok pieces)
    (hp : pieces.filter Token.isSignificant = A ++ b :: B)
    (hcheck : checkTokens 0 (pieces.filter Token.isSignificant) = .ok ()) (hB : B ≠ [])
    (hb : b.isName = true) (hA : ∀ a, A.getLast? = some a → a.toLexeme ≠ ⟨.symbol, "::".toList⟩) :
    ∃ (P R : List Token) (x y : Text) (q : Option Lexeme), pieces = P ++ b :: R ∧
      P.filter Token.isSignificant = A ∧ R.filter Token.isSignificant = B ∧ sql = x ++ y ∧
      Reads y none x (P.map Token.toLexeme) q ∧ b.start = x.length ∧
      scanFrom 0 b.start q y = .ok (b :: R) ∧ ∀ c, y.head? = some c → isBlank c = false := by
  rw [hp] at hcheck
  obtain ⟨P, R, rfl, hP, hR⟩ := filter_split hp
  have hcheck' : checkTokens 0 ((A ++ [b]) ++ B) = .ok () := by simpa using hcheck
  have hsep : ∀ s ∈ P ++ [b], s.kind ≠ .semicolon := by
    refine not_separator_of_filter (fun s hs => ?_) hcheck' hB
    rw [List.filter_append, hP] at hs
    exact (List.mem_append.1 hs).elim (List.mem_append_left _)
      fun hs => List.mem_append_right _ (List.mem_filter.1 hs).1
  have hstring : b.kind ≠ .string := by
    intro hk
    simp [Lexeme.isName, hk] at hb
  have hcast : b.toLexeme ≠ ⟨.symbol, "::".toList⟩ := by
    intro he
    rw [he] at hb
    exact absurd hb (by decide)
  have hlast : (P.map Token.toLexeme).getLast? ≠ some ⟨.symbol, "::".toList⟩ := by
    intro hl
    rw [List.getLast?_map] at hl
    obtain ⟨t, ht, he⟩ := Option.map_eq_some_iff.1 hl
    obtain ⟨P', rfl⟩ := List.getLast?_eq_some_iff.1 ht
    have hsig : t.isSignificant = true := by rw [Token.isSignificant, he]; rfl
    refine hA t ?_ he
    rw [← hP, List.filter_append, List.filter_cons_of_pos hsig]
    simp
  obtain ⟨x, y, q, rfl, hx, hst, hs, hy⟩ := scan_cut hscan hsep hstring hcast fun _ => hlast
  exact ⟨P, R, x, y, q, rfl, hP, hR, rfl, hx, by rw [hst, Nat.zero_add], hs, hy⟩

section Scan

variable {o : Nat} {q : Option Lexeme} {y : Text} {b : Token} {R : List Token}

/-- The first token of a scan begins with the text. -/
theorem scan_first (h : scanFrom 0 o q y = .ok (b :: R))
    (hy : ∀ c, y.head? = some c → isBlank c = false) :
    ∃ c u r ls R', y = c :: (u ++ r) ∧ isBlank c = false ∧
      readLexeme q (c :: (u ++ r)) = .ok (b.toLexeme :: ls, u.length + 1) ∧
      b.start = o ∧ b.stop = o + (u.length + 1) ∧ R = placed o (o + (u.length + 1)) ls ++ R' ∧
      (scanFrom 0 b.stop (nextPrevious q (b.toLexeme :: ls)) r = .ok R' ∨
        ∃ S R'', R' = S ++ R'' ∧ (∀ s ∈ S, s.kind = .string) ∧
          ∀ s, R''.head? = some s → s.toLexeme = ⟨.semicolon, [';']⟩) := by
  rcases scanFrom_cases h with ⟨-, hnil⟩ | ⟨c, r, rfl, hc, -⟩ | ⟨c, u, r, ls, R', rfl, hc, hr, hR, hrest⟩
  · cases hnil
  · rw [hy c rfl] at hc
    cases hc
  · have hls : ls ≠ [] := by
      rcases readLexeme_group hr with ⟨l, rfl, -⟩ | ⟨a, s, rfl⟩ <;> simp
    obtain ⟨l, ls, rfl⟩ := List.exists_cons_of_ne_nil hls
    obtain ⟨rfl, rfl⟩ := List.cons.inj hR
    refine ⟨c, u, r, ls, R', rfl, hc, hr, rfl, rfl, rfl, ?_⟩
    rcases hrest with ⟨-, hs⟩ | ⟨-, S, R'', -, -, -, hS, hstr, hsemi, -⟩
    · exact .inl hs
    · exact .inr ⟨S, R'', hS, hstr, hsemi⟩

theorem scan_first_name (h : scanFrom 0 o q y = .ok (b :: R))
    (hy : ∀ c, y.head? = some c → isBlank c = false) (hb : b.isName = true) :
    ∃ c, y.head? = some c ∧ isBlank c = false ∧ isInert c = true := by
  obtain ⟨c, u, r, ls, R', rfl, hc, hr, -⟩ := scan_first h hy
  exact ⟨c, rfl, hc, isInert_of_isName hc hr (List.mem_cons_self ..) hb⟩

/-- The scan of a text that begins with a back-tick begins with a quoted name. -/
theorem opensBody_backtick {r : Text} (h : scanFrom 0 o q r = .ok R) (hr : r.head? = some '\x60') :
    opensBody (R.filter Token.isSignificant) = false := by
  cases R with
  | nil =>
    rfl
  | cons s R =>
    obtain ⟨c, u, r', ls, R', rfl, hc, hread, -⟩ := scan_first h fun c hc => by
      rw [hr] at hc
      cases hc
      decide
    cases hr
    rw [readLexeme_cons, if_neg (by decide), if_pos (by decide)] at hread
    obtain ⟨l, -, hls, hk, -⟩ := readQuotation_cases hread
    have hq : s.isQuoted = true := by
      rw [(List.cons.inj hls).1]
      rcases hk with ⟨-, hk⟩ | hk <;> simp [Lexeme.isQuoted, hk]
    have hsig : s.isSignificant = true := by
      rw [Token.isSignificant, (List.cons.inj hls).1]
      rcases hk with ⟨-, hk⟩ | hk <;> rw [hk] <;> rfl
    rw [List.filter_cons_of_pos hsig]
    exact opensBody_quoted hq _

/-- What stands behind a token in front of a body is scanned on its own. -/
theorem scan_first_body (h : scanFrom 0 o q y = .ok (b :: R))
    (hy : ∀ c, y.head? = some c → isBlank c = false)
    (hbody : opensBody (R.filter Token.isSignificant) = true) :
    ∃ w r, y = w ++ r ∧ w ≠ [] ∧ b.stop = o + w.length ∧
      scanFrom 0 b.stop (nextPrevious q [b.toLexeme]) r = .ok R := by
  obtain ⟨c, u, r, ls, R', rfl, hc, hr, -, hstop, rfl, hrest⟩ := scan_first h hy
  refine ⟨c :: u, r, rfl, by simp, hstop, ?_⟩
  rcases readLexeme_group hr with ⟨l, hls, -⟩ | ⟨a, s, hls⟩
  · obtain ⟨-, rfl⟩ := List.cons.inj hls
    rcases hrest with hs | ⟨S, R'', rfl, hstr, hsemi⟩
    · exact hs
    · -- what follows a command is one string, or a separator
      exfalso
      cases S with
      | nil =>
        cases R'' with
        | nil => cases hbody
        | cons s R'' =>
          have hs := hsemi s rfl
          have hbody : opensBody ((s :: R'').filter Token.isSignificant) = true := hbody
          rw [List.filter_cons_of_pos (by rw [Token.isSignificant, hs]; rfl),
            opensBody_bodyless (by rw [hs]; decide)] at hbody
          cases hbody
      | cons s S =>
        have hs := hstr s (List.mem_cons_self ..)
        have hbody : opensBody ((s :: (S ++ R'')).filter Token.isSignificant) = true := hbody
        rw [List.filter_cons_of_pos (by rw [Token.isSignificant, hs]; rfl),
          opensBody_quoted (by simp [Lexeme.isQuoted, hs])] at hbody
        cases hbody
  · obtain ⟨-, rfl⟩ := List.cons.inj hls
    rw [placed, List.map_cons, List.cons_append, List.filter_cons_of_pos rfl,
      opensBody_bodyless (List.mem_of_getLast? (l := bodyless) rfl)] at hbody
    cases hbody

end Scan

/-! ## The tokens of an INSERT -/

/-- The tokens of an INSERT: the heading `M`, the name, of which `e` is the last token, and the body. -/
structure InsertTokens (i : Insert) (pieces M N : List Token) (e : Token) (rest : List Token) : Prop where
  scan : Sql.scan i.sql = .ok pieces
  tokens : pieces.filter Token.isSignificant = M ++ (N ++ e :: rest)
  check : checkTokens 0 (M ++ (N ++ e :: rest)) = .ok ()
  heading : Heading i.overwrite M
  first : ∃ b, (N ++ e :: rest).head? = some b ∧ b.isName = true ∧ i.start = b.start
  names : ∀ t ∈ N, t.isName = true ∨ t.kind = .dot
  dotted : ∀ d, N.getLast? = some d → d.kind = .dot
  last : e.isName = true
  stop : i.stop = e.stop
  name : i.target.name = e.text
  given : ∃ parts, Dotted parts (N ++ [e]) ∧ parts.map (·.text) = i.target.given
  body : opensBody rest = true
  columns : i.columns = bodyColumns rest

theorem insertTokens_of_read {sql : Text} {i : Insert} (h : readInsert sql = .ok i) :
    i.sql = sql ∧ ∃ pieces M N e rest, InsertTokens i pieces M N e rest := by
  obtain ⟨s, hs, hh⟩ := readInsert_eq_ok h
  obtain ⟨pieces, hscan, htokens, hcheck⟩ := readStatement_eq_ok hs
  obtain ⟨M, ts, hM, hheading, hinto⟩ := heading_of_read hh
  obtain ⟨name, hname, hbody, htarget, hsql, hstart, hstop, -, hcolumns⟩ := readInto_eq_some hinto
  obtain ⟨b', parts, N', hdotted, hts, -, -, htexts, -⟩ := readTableName_dotted hname
  obtain ⟨b, N, e, hb, hbname, hbs, rfl, hdot, hename, hes, hlast, hN⟩ := readTableName_split hname
  have hsplit : N ++ [e] = N' := List.append_cancel_right (by rw [← hts, List.append_assoc]; rfl)
  rw [hM] at htokens hcheck
  exact ⟨hsql, pieces, M, N, e, name.rest, by rwa [hsql], htokens.symm, hcheck, hheading,
    ⟨b, hb, hbname, hstart.trans hbs⟩, hN, hdot, hename, hstop.trans hes, by rw [htarget, hlast],
    ⟨b' :: parts, by rwa [hsplit], by rw [htexts, htarget]⟩, hbody, hcolumns⟩

namespace InsertTokens

variable {i : Insert} {pieces M N : List Token} {e : Token} {rest : List Token}
  (h : InsertTokens i pieces M N e rest)

include h

theorem rest_ne_nil : rest ≠ [] := by
  rintro rfl
  exact absurd h.body (by decide)

/-- Before the last token of the name stands no `::`. -/
theorem not_cast : ∀ a, (M ++ N).getLast? = some a → a.toLexeme ≠ ⟨.symbol, "::".toList⟩ := by
  intro a ha he
  rw [List.getLast?_append] at ha
  cases hN : N.getLast? with
  | none => exact h.heading.not_cast a (by rwa [hN, Option.none_or] at ha) he
  | some d =>
    rw [hN, Option.some_or] at ha
    cases ha
    have hk := h.dotted _ hN
    rw [he] at hk
    cases hk

/-- The text before the name is read on its own, and its tokens end before the name. -/
theorem before : ∃ (P : List Token) (q : Option Lexeme), P.filter Token.isSignificant = M ∧
    i.start = (i.sql.take i.start).length ∧
    Reads (i.sql.drop i.start) none (i.sql.take i.start) (P.map Token.toLexeme) q ∧
    (∀ t ∈ P, t.start < t.stop ∧ t.stop ≤ i.start) ∧
    ∃ c, (i.sql.drop i.start).head? = some c ∧ isBlank c = false ∧ isInert c = true := by
  obtain ⟨b, hb, hbname, hstart⟩ := h.first
  obtain ⟨ts, hts⟩ : ∃ ts, N ++ e :: rest = b :: ts := List.head?_eq_some_iff.1 hb
  have hts' : ts ≠ [] := by
    rintro rfl
    have hlen := congrArg List.length hts
    have hpos := List.length_pos_iff.2 h.rest_ne_nil
    rw [List.length_singleton, List.length_append, List.length_cons] at hlen
    omega
  have htokens := h.tokens
  have hcheck := h.check
  rw [← htokens] at hcheck
  rw [hts] at htokens
  obtain ⟨P, R, x, y, q, hpieces, hP, -, hxy, hreads, hbst, hbs, hy⟩ := scan_cut_name h.scan
    htokens hcheck hts' hbname h.heading.not_cast
  have hscan := h.scan
  rw [Sql.scan, hxy, hpieces] at hscan
  have hx : i.sql.take i.start = x ∧ i.sql.drop i.start = y := by
    rw [hstart, hbst, hxy]
    exact ⟨List.take_left .., List.drop_left ..⟩
  rw [hx.1, hx.2]
  refine ⟨P, q, hP, by rw [hstart, hbst], hreads, fun t ht => ?_, scan_first_name hbs hy hbname⟩
  have hplace := hreads.places hscan t ht
  omega

/-- The text behind the name is scanned on its own, and all tokens up to it begin before it. -/
theorem behind : ∃ P R : List Token, pieces = P ++ R ∧ P.filter Token.isSignificant = M ++ (N ++ [e]) ∧
    R.filter Token.isSignificant = rest ∧ (∀ t ∈ P, t.start < i.stop) ∧
    scanFrom 0 i.stop (some e.toLexeme) (i.sql.drop i.stop) = .ok R := by
  have hcheck := h.check
  rw [← h.tokens] at hcheck
  obtain ⟨P, R, x, y, q, rfl, hP, hR, hxy, hreads, hest, hes, hy⟩ := scan_cut_name h.scan
    (by rw [h.tokens, List.append_assoc]) hcheck h.rest_ne_nil h.last h.not_cast
  obtain ⟨w, r, rfl, hw, hstop, hs⟩ := scan_first_body hes hy (by rw [hR]; exact h.body)
  have hpost : i.sql.drop i.stop = r := by
    rw [h.stop, hstop, hest, hxy, ← List.append_assoc, ← List.length_append, List.drop_left]
  have he : e ∈ (P ++ e :: R).filter Token.isSignificant := by rw [h.tokens]; simp
  have hsig := (List.mem_filter.1 he).2
  have hprevious : nextPrevious q [e.toLexeme] = some e.toLexeme := by
    have : e.kind ≠ .comment := by simpa [Token.isSignificant] using hsig
    simp [nextPrevious, this]
  refine ⟨P ++ [e], R, by simp, ?_, hR, fun t ht => ?_, ?_⟩
  · rw [List.filter_append, hP, List.filter_cons_of_pos hsig, List.append_assoc]
    rfl
  · have hlen := List.length_pos_iff.2 hw
    rcases List.mem_append.1 ht with ht | ht
    · have hscan := h.scan
      rw [Sql.scan, hxy] at hscan
      have := hreads.places hscan t ht
      rw [h.stop, hstop, hest]
      omega
    · rw [List.mem_singleton.1 ht, h.stop, hstop]
      omega
  · rw [hpost, h.stop, ← hprevious]
    exact hs

end InsertTokens

/-- The first token that begins behind the name of an INSERT. -/
def Sql.Insert.next? (i : Insert) : Option Token :=
  (Sql.tokens i.sql).toOption.bind (·.find? (i.stop ≤ ·.start))

theorem InsertTokens.next?_eq {i : Insert} {pieces M N : List Token} {e : Token} {rest : List Token}
    (h : InsertTokens i pieces M N e rest) : i.next? = rest.head? := by
  obtain ⟨P, R, rfl, -, hR, hP, hs⟩ := h.behind
  have htokens : Sql.tokens i.sql = .ok (P.filter Token.isSignificant ++ rest) := by
    rw [Sql.tokens, h.scan, ← hR, ← List.filter_append]
    rfl
  have hbefore : (P.filter Token.isSignificant).find? (i.stop ≤ ·.start) = none :=
    List.find?_eq_none.2 fun t ht => by
      have := hP t (List.mem_filter.1 ht).1
      simpa using this
  rw [Insert.next?, htokens]
  change (P.filter Token.isSignificant ++ rest).find? _ = _
  rw [List.find?_append, hbefore, Option.none_or]
  cases hrest : rest with
  | nil => rfl
  | cons t ts =>
    have ht : t ∈ R := (List.mem_filter.1 (by rw [hR, hrest]; simp : t ∈ R.filter Token.isSignificant)).1
    exact List.find?_cons_of_pos (by simpa using scanFrom_start hs t ht)

/-! ## The parts of an INSERT -/

/-- What stands around the name of an INSERT: `P` are the tokens and comments before it. -/
structure InsertParts (i : Insert) (P : List Token) (q : Option Lexeme) : Prop where
  reads : Reads (i.sql.drop i.start) none (i.sql.take i.start) (P.map Token.toLexeme) q
  heading : Heading i.overwrite (P.filter Token.isSignificant)
  name : ∃ c, (i.sql.drop i.start).head? = some c ∧ isBlank c = false ∧ isInert c = true
  post : (i.sql.drop i.stop).head? ≠ some '\x60'

theorem InsertTokens.parts {i : Insert} {pieces M N : List Token} {e : Token} {rest : List Token}
    (h : InsertTokens i pieces M N e rest) : ∃ P q, InsertParts i P q := by
  obtain ⟨P, q, hP, -, hreads, -, hname⟩ := h.before
  refine ⟨P, q, hreads, by rw [hP]; exact h.heading, hname, fun htick => ?_⟩
  obtain ⟨-, R, -, -, hR, -, hs⟩ := h.behind
  have hbody := h.body
  rw [← hR, opensBody_backtick hs htick] at hbody
  cases hbody

theorem insertParts_of_read {sql : Text} {i : Insert} (h : readInsert sql = .ok i) :
    i.sql = sql ∧ ∃ P q, InsertParts i P q := by
  obtain ⟨hsql, _, _, _, _, _, htokens⟩ := insertTokens_of_read h
  exact ⟨hsql, htokens.parts⟩

section Parts

variable {i : Insert} {P : List Token} {q : Option Lexeme}

/-- All that stands before the name are headings and comments. -/
theorem InsertParts.lead (h : InsertParts i P q) : ∀ l ∈ P.map Token.toLexeme, l.isLead = true := by
  intro l hl
  obtain ⟨t, ht, rfl⟩ := List.mem_map.1 hl
  by_cases hk : t.kind = .comment
  · simp [Lexeme.isLead, hk]
  · have hsig : t ∈ P.filter Token.isSignificant :=
      List.mem_filter.2 ⟨ht, by simpa [Token.isSignificant] using hk⟩
    simp [Lexeme.isLead, h.heading.isHeading t hsig]

/-- The name does not stand behind a sigil. -/
theorem InsertParts.not_isSigil (h : InsertParts i P q) : q.any Lexeme.isSigil = false := by
  have hq := h.reads.previous
  obtain ⟨t, w, ht, -, hw, hm⟩ := h.heading.getLast
  rw [← map_filter_significant, List.getLast?_map, ht, Option.map_some, Option.some_or] at hq
  rw [hq]
  cases hs : t.isSigil with
  | false => exact hs
  | true =>
    have key : ∀ s ∈ [['@'], ['$']], ∀ w ∈ ["INTO".toList, "OVERWRITE".toList, "TABLE".toList],
        Text.words (Text.upper s) ≠ [w] := by decide
    simp only [Lexeme.isSigil, Bool.and_eq_true, Bool.or_eq_true, beq_iff_eq] at hs
    exact absurd hw (key t.text (by simpa using hs.2) w hm)

theorem InsertParts.ne_nil (h : InsertParts i P q) : i.sql.take i.start ≠ [] := by
  intro hnil
  have hreads := h.reads
  rw [hnil] at hreads
  exact h.heading.ne_nil (by rw [List.map_eq_nil_iff.1 hreads.eq_nil.1]; rfl)

end Parts

end DryRun
