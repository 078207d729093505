import DryRun.Proofs.Mock.Name
import DryRun.Proofs.Reading.Insert
import DryRun.Proofs.Session.Prepare

/-!
# Where a redirected INSERT writes

The name of a mock is written over the name of the sink without looking at what touches it. A word
directly before it runs into the catalog of the mock, and then no mock is written to
(`target_of_not_isApart`). A word directly behind it runs into the last part, and the mock of another
table is written to (`target_of_isApart`). `prepare_targets` puts the two together for all transforms of a
job.
-/

namespace DryRun

open Text Sql

namespace Sql.Insert

/-- Whether a word can begin where the name stands. -/
def isApart (i : Insert) : Bool := (i.sql.take i.start).getLast?.any endsWord

/-- The table whose mock stands in the redirected statement: the table of the target, with a word that
stands directly behind the name. -/
def splicedName (i : Insert) : Text := Mock.spliceName i.target.name (i.sql.drop i.stop)

end Sql.Insert

theorem mockInsert_value (i : Insert) :
    (mockInsert i).value = i.sql.take i.start ++
      (Mock.place ++ (Mock.written i.target.name ++ i.sql.drop i.stop)) := by
  have hrender : (mockInsert i).value =
      i.sql.take i.start ++ (Mock.ref i.target.name).render ++ i.sql.drop i.stop := rfl
  rw [hrender, Mock.render_ref, List.append_assoc, List.append_assoc]

theorem Mock.written_cons (n : Text) : ∃ c t, written n = c :: t ∧ isBlank c = false := by
  rw [written]
  split
  · exact ⟨_, _, mark_append _, by decide⟩
  · exact ⟨_, _, rfl, by decide⟩

theorem Mock.ref_injective {a b : Text} (h : ref a = ref b) : a = b :=
  List.append_cancel_left (TableRef.mk.inj h).2.2

/-- The tokens of a text that is read as `L` in front of `y`. -/
theorem scan_split {x y : Text} {q : Option Lexeme} {L : List Lexeme} {pieces : List Token}
    (h : Reads y none x L q) (hscan : scan (x ++ y) = .ok pieces) :
    ∃ M R, M.map Token.toLexeme = L ∧ pieces = M ++ R ∧ scanFrom 0 x.length q y = .ok R := by
  obtain ⟨M, hM, hs⟩ := h.scan 0
  rw [scan, hs, Nat.zero_add] at hscan
  obtain ⟨R, hR, rfl⟩ := map_eq_ok.1 hscan
  exact ⟨M, R, hM, rfl, hR⟩

/-- After an edge, the text before the name is read in front of a mock as in front of the name. -/
theorem InsertParts.exchange {i : Insert} {P : List Token} {q : Option Lexeme} (h : InsertParts i P q)
    (hedge : ∃ d, (i.sql.take i.start).getLast? = some d ∧ isEdge d = true) (t : Text) :
    Reads (Mock.place ++ t) none (i.sql.take i.start) (P.map Token.toLexeme) q := by
  obtain ⟨c, hc, hcb, hinert⟩ := h.name
  have happart : Apart (i.sql.take i.start) (i.sql.drop i.start) :=
    ⟨fun d hd => by rw [hc] at hd; cases hd; exact hinert, .inr hedge⟩
  have hsealed : Sealed (i.sql.take i.start) (Mock.place ++ t) :=
    .inr ⟨hedge, phraseStop_cons (by decide) (by decide) _, fun d hd => by cases hd; decide⟩
  exact h.reads.exchange (fun _ => happart) (fun _ => hsealed) ⟨c, hc, hcb⟩

section Splice

variable {sql : Text} {i j : Insert}

/-- After an edge, the redirected statement writes to the mock of a table. -/
theorem target_of_isApart (hi : readInsert sql = .ok i) (hapart : i.isApart = true)
    (hj : readInsert (mockInsert i).value = .ok j) : j.target = Mock.ref i.splicedName := by
  obtain ⟨-, P, q, parts⟩ := insertParts_of_read hi
  obtain ⟨c, hc, hcb, -⟩ := parts.name
  have hedge : ∃ d, (i.sql.take i.start).getLast? = some d ∧ isEdge d = true := by
    rcases parts.reads.boundary parts.lead ⟨c, hc, hcb⟩ parts.ne_nil with
      hedge | ⟨x, d, u, -, -, -, hx, -, -, hglue, -⟩
    · exact hedge
    · obtain ⟨e, he⟩ : ∃ e, (d :: u).getLast? = some e :=
        ⟨_, List.getLast?_eq_some_getLast (List.cons_ne_nil d u)⟩
      rw [Insert.isApart, hx, List.getLast?_append, he, Option.some_or, Option.any_some,
        hglue.chars e (List.mem_of_getLast? he)] at hapart
      cases hapart
  have hreads := (parts.exchange hedge (Mock.written i.target.name ++ i.sql.drop i.stop)).append
    (Mock.reads_place parts.not_isSigil _)
  obtain ⟨s, hs, hheader⟩ := readInsert_eq_ok hj
  obtain ⟨pieces, hscan, htokens, -⟩ := readStatement_eq_ok hs
  rw [mockInsert_value, ← List.append_assoc] at hscan
  obtain ⟨M, R, hM, rfl, hR⟩ := scan_split hreads hscan
  obtain ⟨M₁, W, rfl, hM₁, hW⟩ := List.map_eq_append_iff.1 hM
  obtain ⟨w₁, d₁, w₂, d₂, rfl, place⟩ := Mock.exists_place hW
  obtain ⟨k, m, hk, hread⟩ := Mock.readLexeme_written (p := some ⟨.dot, ['.']⟩) rfl
    (n := i.target.name) parts.post
  obtain ⟨a, t, ha, hab⟩ := Mock.written_cons i.target.name
  rw [ha, List.cons_append] at hR hread
  obtain ⟨x, R, rfl, hx⟩ := scan_head hR hab hread
  have hfilter : (M₁ ++ [w₁, d₁, w₂, d₂] ++ x :: R).filter Token.isSignificant =
      M₁.filter Token.isSignificant ++ (w₁ :: d₁ :: w₂ :: d₂ :: x :: R.filter Token.isSignificant) := by
    have hx : x.isSignificant = true := by
      rw [Token.isSignificant, hx]
      rcases hk with rfl | rfl <;> rfl
    rw [List.filter_append, List.filter_append, filter_significant hW rfl, List.filter_cons_of_pos hx,
      List.append_assoc]
    rfl
  have hheading : Heading i.overwrite (M₁.filter Token.isSignificant) := by
    refine parts.heading.congr ?_
    rw [map_filter_significant, map_filter_significant, hM₁]
  rw [htokens, hfilter, hheading.read _ place.isFirstName] at hheader
  obtain ⟨name, hname, hbody, htarget, -⟩ := readInto_eq_some hheader
  rcases place.third hname with ⟨-, href⟩ | hrest
  · rw [htarget, href, hx]
    rfl
  · rw [hrest, opensBody_bodyless (by rw [place.dot₂]; decide)] at hbody
    cases hbody

/-- A heading does not hold the catalog of a mock. -/
theorem not_isHeading_catalog {k : Kind} (hk : k ≠ .hint) (a : Text) :
    (⟨k, a ++ Mock.catalog⟩ : Lexeme).isHeading = false := by
  refine Lexeme.not_isHeading_append hk a (by decide) (by decide) fun w hw v hv => ?_
  have key : ∀ w ∈ headingWords, w.length < (upper Mock.catalog).length := by decide +kernel
  have hlen := key w hw
  rw [hv, List.length_append] at hlen
  omega

/-- A heading whose word runs into the catalog of a mock leads to no mock. -/
theorem target_of_glued {x t : Text} {c : Char} {u : Text} {q : Option Lexeme} {L : List Lexeme}
    (hreads : Reads (c :: (u ++ (Mock.catalog ++ '.' :: t))) none x L q) (hL : ∀ l ∈ L, l.isLead = true)
    (hglue : Gluing c u) (hj : readInsert (x ++ (c :: (u ++ (Mock.catalog ++ '.' :: t)))) = .ok j) :
    j.target.catalog ≠ some Mock.catalog := by
  intro hcatalog
  obtain ⟨s, hs, hheader⟩ := readInsert_eq_ok hj
  obtain ⟨pieces, hscan, htokens, -⟩ := readStatement_eq_ok hs
  obtain ⟨M, R, hM, rfl, hR⟩ := scan_split hreads hscan
  obtain ⟨k, a, m, hread, ha, hcomment, hhint⟩ := hglue.read (b := Mock.catalog) (by decide) (by decide) q
  obtain ⟨g, R, rfl, hg⟩ := scan_head hR (isBlank_of_endsWord (hglue.chars c (List.mem_cons_self ..))) hread
  have hgs : g.isSignificant = true := by
    rw [Token.isSignificant, hg]
    simpa using hcomment
  rw [List.filter_append, List.filter_cons_of_pos hgs] at htokens
  obtain ⟨H, ts, hH, hheading, hinto⟩ := heading_of_read hheader
  obtain ⟨name, hname, -, htarget, -⟩ := readInto_eq_some hinto
  rw [htarget] at hcatalog
  obtain ⟨b, r, rfl, -, hb⟩ := readTableName_catalog hname hcatalog
  rw [htokens] at hH
  have hlexeme {t : Token} {d : Text} (ht : t.text = d) : t.toLexeme = ⟨t.kind, d⟩ := by rw [← ht]
  rcases append_eq_append_cons hH with ⟨C, hC, -⟩ | ⟨C, hC, hR⟩
  · -- the name would stand among the tokens before the word, which are headings
    have hbM := List.mem_filter.1 (hC ▸ List.mem_append_right H (List.mem_cons_self ..) :
      b ∈ M.filter Token.isSignificant)
    have hlead := hL b.toLexeme (by rw [← hM]; exact List.mem_map_of_mem hbM.1)
    have hkind : b.kind ≠ .hint := fun hk => by
      have hend := scan_forall
        (P := fun l => l.kind = .hint → ∃ d, l.text.getLast? = some d ∧ endsWord d = true)
        (fun _ hr l hl hk => readLexeme_hint hr hl hk) (fun l hl hk => by rw [hl] at hk; cases hk) hscan b
        (List.mem_append_left _ hbM.1) hk
      rw [hb] at hend
      obtain ⟨d, hd, hend⟩ := hend
      cases hd
      exact absurd hend (by decide)
    have hheading := not_isHeading_catalog hkind []
    rw [List.nil_append, ← hlexeme hb] at hheading
    rw [Lexeme.not_isLead (by simpa [Token.isSignificant] using hbM.2) hheading] at hlead
    cases hlead
  · cases C with
    | nil =>
      obtain ⟨rfl, -⟩ := List.cons.inj hR
      rw [hg] at hb
      exact ha (List.append_left_eq_self.1 hb)
    | cons g' C =>
      obtain ⟨rfl, -⟩ := List.cons.inj hR
      have := hheading.isHeading g (by rw [hC]; simp)
      rw [hg, not_isHeading_catalog hhint] at this
      cases this

/-- Directly behind a word, the redirected statement writes to no mock. -/
theorem target_of_not_isApart (hi : readInsert sql = .ok i) (hapart : i.isApart = false)
    (hj : readInsert (mockInsert i).value = .ok j) (t : Text) : j.target ≠ Mock.ref t := by
  obtain ⟨-, P, q, parts⟩ := insertParts_of_read hi
  obtain ⟨c, hc, hcb, -⟩ := parts.name
  rcases parts.reads.boundary parts.lead ⟨c, hc, hcb⟩ parts.ne_nil with
    ⟨d, hd, hedge⟩ | ⟨x, d, u, L, l, q', hx, hL, hreads, hglue, -⟩
  · rw [Insert.isApart, hd, Option.any_some] at hapart
    simp [isEdge, hapart] at hedge
  · have hd := hglue.chars d (List.mem_cons_self ..)
    have hlead : ∀ l ∈ L, l.isLead = true := fun l hl =>
      parts.lead l (by rw [hL]; exact List.mem_append_left _ hl)
    have hnotbreak : d ∉ breakChars := fun hb => by simp [endsWord, hb] at hd
    have hinert : isInert d = true := by simp [isInert, hnotbreak]
    have hedge := hreads.boundary_word hlead hd
    have hsplice : (mockInsert i).value = x ++ (d :: (u ++ (Mock.catalog ++ '.' ::
        ("default_database.".toList ++ (Mock.written i.target.name ++ i.sql.drop i.stop))))) := by
      rw [mockInsert_value, hx, List.append_assoc]
      rfl
    rw [hsplice] at hj
    refine fun ht => target_of_glued (hreads.exchange (fun hne => ?_) (fun hne => ?_) ?_) hlead hglue hj
      (by rw [ht]; rfl)
    · exact ⟨fun e he => by cases he; exact hinert, .inr (hedge hne)⟩
    · exact .inr ⟨hedge hne, hglue.stop _, fun e he => by
        cases he
        exact ⟨hinert, fun h => hnotbreak (by rw [h]; decide)⟩⟩
    · exact ⟨d, rfl, isBlank_of_endsWord hd⟩

end Splice

/-- All INSERTs of the prepared job write to mocks that the report names exactly if each redirected one
that can be read has its name apart from the word before it, and is not lengthened by a word behind it to a
name that the report does not hold. -/
theorem prepare_targets {s : Session} {job prepared : Job} {report : Report} (hs : s.enabled = true)
    (h : (s.prepare job).value = .ok (prepared, report)) :
    (∀ st ∈ prepared.trans, st.type = .insert → ∀ j, readInsert st.value = .ok j →
      ∃ t ∈ report.mockedTables, j.target = Mock.ref t) ↔
    ∀ st ∈ job.trans, st.type = .insert → ∀ i, readInsert st.value = .ok i →
      ∀ j, readInsert (mockInsert i).value = .ok j →
        i.isApart = true ∧ i.splicedName ∈ report.mockedTables := by
  obtain ⟨rfl, -⟩ := Session.prepare_eq_ok hs h
  constructor
  · intro hall given hmem ht i hi j hj
    have hout : mockInsert i ∈ (Session.transforms job).statements :=
      Session.mem_statements.2 ⟨given, hmem, by rw [redirectTransform_insert ht hi]; rfl⟩
    obtain ⟨t, hreport, htarget⟩ := hall _ hout rfl j hj
    cases hapart : i.isApart with
    | false => exact absurd htarget (target_of_not_isApart hi hapart hj t)
    | true =>
      rw [target_of_isApart hi hapart hj] at htarget
      exact ⟨rfl, Mock.ref_injective htarget ▸ hreport⟩
  · intro hall st hmem ht j hj
    obtain ⟨given, hgiven, hout⟩ := Session.mem_statements.1 hmem
    obtain ⟨i, htype, hi, rfl⟩ := redirected_of_output hout ht hj
    obtain ⟨hapart, hreport⟩ := hall given hgiven htype i hi j hj
    exact ⟨_, hreport, target_of_isApart hi hapart hj⟩

/-- An INSERT between a comment and a parenthesis. -/
def commentedInsert : Text := "INSERT INTO/* c */\x60a b\x60(x) SELECT 1".toList

/-- A name between a comment and a parenthesis stands apart from both. -/
theorem prepare_targets_commented : ∃ prepared report st j,
    ((⟨true, Mock.defaultConnector, .passThrough⟩ : Session).prepare
      ⟨[], [], [⟨commentedInsert, .insert⟩], []⟩).value = .ok (prepared, report) ∧
    prepared.trans = [st] ∧ st.type = .insert ∧ readInsert st.value = .ok j ∧
    ∃ t ∈ report.mockedTables, j.target = Mock.ref t := by
  have hread : readInsert commentedInsert =
      .ok ⟨⟨none, none, "a b".toList⟩, commentedInsert, 18, 23, ["x".toList], false⟩ := rfl
  have hprepare : ((⟨true, Mock.defaultConnector, .passThrough⟩ : Session).prepare
      ⟨[], [], [⟨commentedInsert, .insert⟩], []⟩).value = .ok _ := rfl
  refine ⟨_, _, _, _, hprepare, rfl, rfl, rfl, (prepare_targets rfl hprepare).2 ?_ _ (.head _) rfl _ rfl⟩
  intro st hst _ i hi _ _
  rw [List.mem_singleton.1 hst, hread] at hi
  cases hi
  exact ⟨by decide, by decide⟩

/-- A name in back-ticks directly behind `TABLE` makes one word with the catalog of the mock. -/
theorem prepare_misses_mock : ∃ prepared report st j,
    ((⟨true, Mock.defaultConnector, .passThrough⟩ : Session).prepare
      ⟨[], [], [⟨"INSERT INTO TABLE\x60x\x60 SELECT 1".toList, .insert⟩], []⟩).value =
        .ok (prepared, report) ∧
    prepared.trans = [st] ∧ st.type = .insert ∧ readInsert st.value = .ok j ∧
    ∀ t, j.target ≠ Mock.ref t := by
  refine ⟨_, _, ⟨"INSERT INTO TABLEdefault_catalog.default_database.mock_sink_x SELECT 1".toList, .insert⟩,
    _, rfl, rfl, rfl, rfl, fun t ht => ?_⟩
  have hcatalog : some "TABLEdefault_catalog".toList = some Mock.catalog := congrArg TableRef.catalog ht
  exact absurd hcatalog (by decide)

end DryRun
