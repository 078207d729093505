import DryRun.Proofs.Text.Classes

/-!
# Words and upper case

A token is compared with a keyword by the words of its upper-case form. The upper-case form of a text
has a blank only where the text has one, so that a text without blanks spells one word; what a text
begins and ends with can be seen in its first and its last word.
-/

namespace DryRun.Text

/-! ## Words -/

theorem splitAux_of_none {p : Char → Bool} {b : Text} (hb : ∀ c ∈ b, p c = false) (current : Text) :
    splitAux p current b = [current.reverse ++ b] := by
  induction b generalizing current with
  | nil => simp [splitAux]
  | cons c b ih =>
    rw [splitAux, hb c (List.mem_cons_self ..), if_neg (by simp),
      ih (fun d hd => hb d (List.mem_cons_of_mem _ hd)), List.reverse_cons, List.append_assoc]
    rfl

theorem words_of_no_blank {b : Text} (hne : b ≠ []) (hb : ∀ c ∈ b, isBlank c = false) :
    words b = [b] := by
  rw [words, splitBy, splitAux_of_none hb]
  simp [hne]

/-- The last word of a text takes in all of an unbroken end. -/
theorem words_append {b : Text} (hne : b ≠ []) (hb : ∀ c ∈ b, isBlank c = false) (a : Text) :
    ∃ ws w, words (a ++ b) = ws ++ [w ++ b] := by
  have split : ∀ current, ∃ ws w, splitAux isBlank current (a ++ b) = ws ++ [w ++ b] := by
    induction a with
    | nil => exact fun current => ⟨[], current.reverse, splitAux_of_none hb current⟩
    | cons c a ih =>
      intro current
      rw [List.cons_append, splitAux]
      split
      · obtain ⟨ws, w, h⟩ := ih []
        exact ⟨current.reverse :: ws, w, by rw [h]; rfl⟩
      · exact ih _
  obtain ⟨ws, w, h⟩ := split []
  refine ⟨ws.filter (!·.isEmpty), w, ?_⟩
  rw [words, splitBy, h, List.filter_append]
  simp [hne]

theorem splitAux_current (p : Char → Bool) (current t : Text) :
    ∃ w ws, splitAux p current t = (current.reverse ++ w) :: ws := by
  induction t generalizing current with
  | nil => exact ⟨[], [], by simp [splitAux]⟩
  | cons c t ih =>
    rw [splitAux]
    split
    · exact ⟨[], _, by rw [List.append_nil]⟩
    · obtain ⟨w, ws, h⟩ := ih (c :: current)
      exact ⟨c :: w, ws, by simp [h]⟩

/-- The first word of a text takes in its first character. -/
theorem words_cons {c : Char} (hc : isBlank c = false) (t : Text) :
    ∃ w ws, words (c :: t) = (c :: w) :: ws := by
  obtain ⟨w, ws, h⟩ := splitAux_current isBlank [c] t
  refine ⟨w, ws.filter (!·.isEmpty), ?_⟩
  rw [words, splitBy, splitAux, hc, if_neg (by simp), h]
  rfl

/-! ## Upper case -/

theorem mem_blankCodes_of_ofNat {n : Nat} (h : isBlank (Char.ofNat n) = true) : n ∈ blankCodes := by
  by_cases hn : n.isValidChar
  · rw [Char.ofNat, dif_pos hn] at h
    exact toNat_mem_blankCodes h
  · rw [Char.ofNat, dif_neg hn] at h
    exact absurd h (by decide)

/-- No run of characters has a blank in its image. -/
theorem isBlank_map_upperRuns {c : Char} (hc : isBlank c = false) :
    isBlank (CaseRun.map upperRuns c) = false := by
  rw [CaseRun.map]
  split
  · rename_i r hr
    have hmem := List.mem_of_find?_eq_some hr
    have hin := List.find?_some hr
    simp only [Bool.and_eq_true, decide_eq_true_eq] at hin
    have key : ∀ r ∈ upperRuns, ∀ b ∈ blankCodes, b < r.image ∨ r.image + (r.last - r.first) < b := by
      decide +kernel
    cases hb : isBlank (Char.ofNat (r.image + (c.toNat - r.first))) with
    | false => rfl
    | true =>
      have := key r hmem _ (mem_blankCodes_of_ofNat hb)
      omega
  · exact hc

/-- The upper-case form of a character that is no blank holds no blank. -/
theorem isBlank_upperChar {c : Char} (hc : isBlank c = false) :
    upperChar c ≠ [] ∧ ∀ d ∈ upperChar c, isBlank d = false := by
  rw [upperChar]
  split
  · rename_i h
    refine ⟨by simp, fun d hd => ?_⟩
    rw [List.mem_singleton.1 hd]
    exact of_ascii (P := fun c => isBlank c = false → isBlank c.toUpper = false) (by decide) h hc
  · split
    · rename_i entry he
      have key : ∀ e ∈ upperExpansions, e.2 ≠ [] ∧ ∀ n ∈ e.2, isBlank (Char.ofNat n) = false := by
        decide +kernel
      obtain ⟨hne, hall⟩ := key entry (List.mem_of_find?_eq_some he)
      refine ⟨by simpa using hne, fun d hd => ?_⟩
      obtain ⟨n, hn, rfl⟩ := List.mem_map.1 hd
      exact hall n hn
    · refine ⟨by simp, fun d hd => ?_⟩
      rw [List.mem_singleton.1 hd]
      exact isBlank_map_upperRuns hc

theorem upper_cons (c : Char) (t : Text) : upper (c :: t) = upperChar c ++ upper t := rfl

theorem upper_append (a b : Text) : upper (a ++ b) = upper a ++ upper b := List.flatMap_append

theorem isBlank_upper {t : Text} (hne : t ≠ []) (ht : ∀ c ∈ t, isBlank c = false) :
    upper t ≠ [] ∧ ∀ d ∈ upper t, isBlank d = false := by
  refine ⟨?_, fun d hd => ?_⟩
  · obtain ⟨c, t, rfl⟩ := List.exists_cons_of_ne_nil hne
    rw [upper_cons]
    simp [(isBlank_upperChar (ht c (List.mem_cons_self ..))).1]
  · obtain ⟨c, hc, hd⟩ := List.mem_flatMap.1 hd
    exact (isBlank_upperChar (ht c hc)).2 d hd

/-- A text without blanks spells one word. -/
theorem words_upper {t : Text} (hne : t ≠ []) (ht : ∀ c ∈ t, isBlank c = false) :
    words (upper t) = [upper t] :=
  words_of_no_blank (isBlank_upper hne ht).1 (isBlank_upper hne ht).2

/-- A text that does not begin with a blank spells something. -/
theorem words_upper_ne_nil {c : Char} (hc : isBlank c = false) (t : Text) : words (upper (c :: t)) ≠ [] := by
  obtain ⟨hne, hall⟩ := isBlank_upperChar hc
  obtain ⟨d, r, hd⟩ := List.exists_cons_of_ne_nil hne
  obtain ⟨w, ws, hw⟩ := words_cons (hall d (by rw [hd]; simp)) (r ++ upper t)
  rw [upper_cons, hd, List.cons_append, hw]
  simp

theorem upperChar_of_isBlank {c : Char} (hc : isBlank c = true) : upperChar c = [c] :=
  of_blank (P := fun c => upperChar c = [c]) (by decide +kernel) hc

/-- A text spells something unless it is blank. -/
theorem words_upper_of_not_blank {t : Text} (h : isBlankText t = false) : words (upper t) ≠ [] := by
  induction t with
  | nil => cases h
  | cons c t ih =>
    cases hc : isBlank c with
    | false => exact words_upper_ne_nil hc t
    | true =>
      have hskip : words (c :: upper t) = words (upper t) := by
        rw [words, splitBy, splitAux, if_pos hc]
        rfl
      rw [upper_cons, upperChar_of_isBlank hc, List.singleton_append, hskip]
      exact ih (by simpa [isBlankText, hc] using h)

end DryRun.Text
