import DryRun.Proofs.Reading.InsertSyntax

/-!
# The span of a target

The span of an INSERT runs from the first to the last token of its target name. It touches neither the word
before the name nor the token after it, and so all that a chain of new targets changes in the text is the
name (`readInsert_span`).
-/

namespace DryRun

open Text Sql

namespace Sql

/-- The target of an INSERT among tokens, with the word before it and the token after it. -/
structure TargetPlace (i : Insert) (tokens before : List Token) (word : Token) (parts name : List Token)
    (follower : Token) (after : List Token) : Prop where
  split : tokens = before ++ word :: (name ++ follower :: after)
  word_spells : ∃ w ∈ ["INTO".toList, "OVERWRITE".toList, "TABLE".toList], word.spells w = true
  dotted : Dotted parts name
  texts : parts.map (·.text) = i.target.given
  first : parts.head?.map (·.start) = some i.start
  last : parts.getLast?.map (·.stop) = some i.stop
  word_stop : word.stop ≤ i.start
  follower_start : i.stop ≤ follower.start

theorem Dotted.head? {parts N : List Token} (h : Dotted parts N) : parts.head? = N.head? := by
  cases h with
  | one | cons => rfl

theorem retargets_eq (i : Insert) (targets : List TableRef) :
    targets.foldl Insert.retarget i = { i with target := targets.getLast?.getD i.target } := by
  induction targets generalizing i with
  | nil => rfl
  | cons t targets ih =>
    rw [List.foldl_cons, ih, List.getLast?_cons]
    rfl

end Sql

namespace InsertTokens

variable {i : Insert} {pieces M N : List Token} {e : Token} {rest : List Token}
  (h : InsertTokens i pieces M N e rest)

include h

/-- The word before the target lies before the span. -/
theorem word_place : ∃ before word, M = before ++ [word] ∧
    (∃ w ∈ ["INTO".toList, "OVERWRITE".toList, "TABLE".toList], word.spells w = true) ∧
    word.start < word.stop ∧ word.stop ≤ i.start := by
  obtain ⟨word, w, hlast, hquoted, hspelled, hw⟩ := h.heading.getLast
  obtain ⟨before, hM⟩ := List.getLast?_eq_some_iff.1 hlast
  obtain ⟨P, q, hP, -, -, hplace, -⟩ := h.before
  have hmem : word ∈ P := (List.mem_filter.1 (by rw [hP, hM]; simp)).1
  exact ⟨before, word, hM, ⟨w, hw, Lexeme.spells_iff.2 ⟨hquoted, hspelled⟩⟩, hplace word hmem⟩

/-- The token after the target lies behind the span, and within the text. -/
theorem follower_place : ∃ follower after, rest = follower :: after ∧ i.stop ≤ follower.start ∧
    i.stop < i.sql.length := by
  obtain ⟨P, R, -, -, hR, -, hscan⟩ := h.behind
  obtain ⟨follower, after, hrest⟩ := List.exists_cons_of_ne_nil h.rest_ne_nil
  have hmem : follower ∈ R := (List.mem_filter.1 (by rw [hR, hrest]; simp)).1
  refine ⟨follower, after, hrest, scanFrom_start hscan follower hmem, ?_⟩
  -- nothing is scanned at the end of the text
  refine Nat.lt_of_not_le fun hlength => ?_
  rw [List.drop_eq_nil_of_le hlength] at hscan
  cases hscan
  cases hmem

theorem start_lt_stop : i.start < i.stop := by
  obtain ⟨b, hb, -, hstart⟩ := h.first
  obtain ⟨P, R, -, hP, -, hplace, -⟩ := h.behind
  have hmem : b ∈ N ++ [e] := by
    refine List.mem_of_mem_head? ?_
    rw [List.head?_append] at hb ⊢
    exact hb
  have hbP : b ∈ P := (List.mem_filter.1 (by rw [hP]; exact List.mem_append_right M hmem)).1
  rw [hstart]
  exact hplace b hbP

theorem targetPlace : ∃ before word parts follower after,
    TargetPlace i (M ++ (N ++ e :: rest)) before word parts (N ++ [e]) follower after := by
  obtain ⟨before, word, hM, hspells, -, hword⟩ := h.word_place
  obtain ⟨follower, after, hrest, hfollower, -⟩ := h.follower_place
  obtain ⟨parts, hdotted, htexts⟩ := h.given
  obtain ⟨b, hb, -, hstart⟩ := h.first
  have hfirst : parts.head? = some b := by
    rw [List.head?_append] at hb
    rw [hdotted.head?, List.head?_append]
    exact hb
  have hlast : parts.getLast? = some e := by
    obtain ⟨N', e', heq, hlast, -⟩ := hdotted.last
    rw [hlast, (List.append_singleton_inj.1 heq).2]
  exact ⟨before, word, parts, follower, after, by rw [hM, hrest]; simp, hspells, hdotted, htexts,
    by rw [hfirst, hstart]; rfl, by rw [hlast, h.stop]; rfl, hword, hfollower⟩

end InsertTokens

/-- The span of an INSERT is that of its target name, apart from the tokens around it. Each view that a chain
of new targets leads through differs in the target alone, and the last target is written over the span. -/
theorem readInsert_span {sql : Text} {i : Insert} (h : readInsert sql = .ok i) :
    (∃ s before word parts name follower after, readStatement sql = .ok s ∧
      TargetPlace i s.tokens before word parts name follower after) ∧
    i.sql = sql ∧ 0 < i.start ∧ i.start < i.stop ∧ i.stop ≤ sql.length ∧
    (∀ targets : List TableRef, ∃ target, targets.foldl Insert.retarget i = { i with target := target }) ∧
    ∀ (targets : List TableRef) (t : TableRef), targets.getLast? = some t →
      (targets.foldl Insert.retarget i).render = sql.take i.start ++ t.render ++ sql.drop i.stop := by
  obtain ⟨hsql, pieces, M, N, e, rest, htokens⟩ := insertTokens_of_read h
  obtain ⟨s, hs, -⟩ := readInsert_eq_ok h
  obtain ⟨-, word, -, -, hword, hstart⟩ := htokens.word_place
  obtain ⟨-, -, -, -, hlength⟩ := htokens.follower_place
  refine ⟨?_, hsql, by omega, htokens.start_lt_stop, by rw [← hsql]; omega,
    fun targets => ⟨_, retargets_eq i targets⟩, fun targets t ht => ?_⟩
  · obtain ⟨before, word, parts, follower, after, hplace⟩ := htokens.targetPlace
    obtain ⟨pieces', hscan, hs', -⟩ := readStatement_eq_ok hs
    have hpieces : pieces' = pieces := by
      rw [← hsql, htokens.scan] at hscan
      cases hscan
      rfl
    rw [hpieces, htokens.tokens] at hs'
    rw [← hs'] at hplace
    exact ⟨s, before, word, parts, _, follower, after, hs, hplace⟩
  · rw [retargets_eq, ht, Insert.render, hsql]
    rfl

/-- An INSERT whose target touches the tokens around it and has a comment within. -/
def tightInsert : Text := "INSERT INTO TABLE`a b`./* d */ t(x) SELECT 1".toList

theorem readInsert_span_tight : ∃ i, readInsert tightInsert = .ok i ∧
    (∃ s before word parts name follower after, readStatement tightInsert = .ok s ∧
      TargetPlace i s.tokens before word parts name follower after) ∧
    i.start = 17 ∧ i.stop = 32 ∧
    ([⟨none, none, "u".toList⟩, ⟨none, some "a".toList, "b c".toList⟩].foldl Insert.retarget i).render =
      "INSERT INTO TABLEa.`b c`(x) SELECT 1".toList := by
  have hread : readInsert tightInsert =
      .ok ⟨⟨none, some "a b".toList, "t".toList⟩, tightInsert, 17, 32, ["x".toList], false⟩ :=
    eq_ok_of_toOption (by decide +kernel)
  obtain ⟨hplace, -, -, -, -, -, hrender⟩ := readInsert_span hread
  exact ⟨_, hread, hplace, rfl, rfl, (hrender _ _ rfl).trans (by decide +kernel)⟩

end DryRun
