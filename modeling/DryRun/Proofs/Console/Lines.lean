import DryRun.Console.Wrap
import DryRun.Proofs.Text.Words

/-!
# Texts that fit on a line

The cells of two texts one after the other are about the sum of theirs: a joiner at the end of the first hides a
character of the second, and a mark at the start of the second may widen a character of the first. A text that
takes no more cells than a line has is not broken (`wrap_of_cells_le`).
-/

namespace DryRun

namespace Text

/-! ## Cells -/

/-- The cells that a character other than the joiner adds after `last`. -/
def cellsAfter (last : Option Char) (c : Char) : Nat :=
  if c == emojiMark then if last.any (inRanges emojiFormRanges) then 1 else 0 else charCells c

/-- The last character that takes any cells once `c` has been read. -/
def lastAfter (last : Option Char) (c : Char) : Option Char :=
  if c == emojiMark then none else if charCells c == 0 then last else some c

theorem cellsFrom_joiner (last : Option Char) (t : Text) : cellsFrom last (joiner :: t) = cellsFrom last t.tail := by
  cases t <;> rfl

theorem cellsFrom_cons {c : Char} (hc : c ≠ joiner) (last : Option Char) (t : Text) :
    cellsFrom last (c :: t) = cellsAfter last c + cellsFrom (lastAfter last c) t := by
  rw [cellsFrom.eq_def, cellsAfter, lastAfter]
  dsimp only
  rw [if_neg (by simpa using hc)]
  split
  · rfl
  · split
    · rename_i hzero
      rw [eq_of_beq hzero, Nat.zero_add]
    · rfl

/-- Induction over a text in which a joiner takes the character after it along. -/
theorem joined_induction {P : Text → Prop} (nil : P []) (joined : ∀ t : Text, P t.tail → P (joiner :: t))
    (char : ∀ c t, c ≠ joiner → P t → P (c :: t)) (t : Text) : P t := by
  suffices h : ∀ n (t : Text), t.length ≤ n → P t from h t.length t (Nat.le_refl _)
  intro n
  induction n with
  | zero =>
    intro t ht
    rwa [List.length_eq_zero_iff.1 (Nat.le_zero.1 ht)]
  | succ n ih =>
    intro t ht
    cases t with
    | nil => exact nil
    | cons c t =>
      have ht : t.length ≤ n := Nat.le_of_succ_le_succ ht
      by_cases hc : c = joiner
      · subst hc
        refine joined t (ih t.tail ?_)
        rw [List.length_tail]
        omega
      · exact char c t hc (ih t ht)

/-- Of what stands before a text, only matters whether a mark would widen it. -/
theorem cellsFrom_congr {last last' : Option Char}
    (h : last.any (inRanges emojiFormRanges) = last'.any (inRanges emojiFormRanges)) (t : Text) :
    cellsFrom last t = cellsFrom last' t := by
  induction t using joined_induction generalizing last last' with
  | nil => rfl
  | joined t ih => rw [cellsFrom_joiner, cellsFrom_joiner, ih h]
  | char c t hc ih =>
    rw [cellsFrom_cons hc, cellsFrom_cons hc, cellsAfter, cellsAfter, h, lastAfter, lastAfter]
    split
    · rfl
    · split
      · rw [ih h]
      · rfl

theorem cells_le_cellsFrom (last : Option Char) (t : Text) : cells t ≤ cellsFrom last t := by
  rw [cells]
  induction t using joined_induction generalizing last with
  | nil => exact Nat.le_refl _
  | joined t ih =>
    rw [cellsFrom_joiner, cellsFrom_joiner]
    exact ih last
  | char c t hc ih =>
    rw [cellsFrom_cons hc, cellsFrom_cons hc]
    refine Nat.add_le_add ?_ ?_
    · unfold cellsAfter
      split
      · exact Nat.zero_le _
      · exact Nat.le_refl _
    · unfold lastAfter
      split
      · exact Nat.le_refl _
      · split
        · exact ih last
        · exact Nat.le_refl _

/-- What follows a text adds its cells, unless a joiner before it takes a character away. -/
theorem cellsFrom_append_ge (last : Option Char) (a b : Text) :
    cellsFrom last a + (if a.getLast? = some joiner then 0 else cells b) ≤ cellsFrom last (a ++ b) := by
  induction a using joined_induction generalizing last with
  | nil =>
    rw [if_neg (by simp), cellsFrom, Nat.zero_add]
    exact cells_le_cellsFrom last b
  | joined a ih =>
    rw [List.cons_append, cellsFrom_joiner, cellsFrom_joiner]
    cases a with
    | nil => exact Nat.zero_le _
    | cons d a =>
      refine Nat.le_trans (Nat.add_le_add_left ?_ _) (ih last)
      rw [List.tail_cons, List.getLast?_cons_cons]
      cases a with
      | nil => split <;> simp
      | cons e a => exact Nat.le_of_eq (by rw [List.getLast?_cons_cons])
  | char c a hc ih =>
    rw [List.cons_append, cellsFrom_cons hc, cellsFrom_cons hc, Nat.add_assoc]
    refine Nat.add_le_add_left (Nat.le_trans (Nat.add_le_add_left ?_ _) (ih _)) _
    cases a with
    | nil => simp [hc]
    | cons d a => exact Nat.le_of_eq (by rw [List.getLast?_cons_cons])

/-- The end of a text adds no more cells than it could take by itself, with or without its first character. -/
theorem cellsFrom_append_le {b : Text} {n : Nat} (hb : ∀ last, cellsFrom last b ≤ n)
    (htail : ∀ last, cellsFrom last b.tail ≤ n) (last : Option Char) (a : Text) :
    cellsFrom last (a ++ b) ≤ cellsFrom last a + n := by
  induction a using joined_induction generalizing last with
  | nil =>
    rw [cellsFrom, Nat.zero_add]
    exact hb last
  | joined a ih =>
    rw [List.cons_append, cellsFrom_joiner, cellsFrom_joiner]
    cases a with
    | nil =>
      rw [List.tail_nil, cellsFrom, Nat.zero_add]
      exact htail last
    | cons d a => exact ih last
  | char c a hc ih =>
    rw [List.cons_append, cellsFrom_cons hc, cellsFrom_cons hc, Nat.add_assoc]
    exact Nat.add_le_add_left (ih _) _

theorem cells_mono {a t : Text} (h : a <+: t) : cells a ≤ cells t := by
  obtain ⟨b, rfl⟩ := h
  exact Nat.le_trans (Nat.le_add_right _ _) (cellsFrom_append_ge none a b)

/-- A printable character takes one cell. -/
theorem cellsFrom_printable {c : Char} (hlow : 32 ≤ c.toNat) (hhigh : c.toNat < 127) (last : Option Char) (t : Text) :
    cellsFrom last (c :: t) = 1 + cellsFrom (some c) t := by
  have hone : charCells c = 1 := by
    rw [charCells, if_neg (by omega), if_pos hhigh]
  have hjoiner : c ≠ joiner := by
    rintro rfl
    exact absurd hhigh (by decide)
  have hmark : c ≠ emojiMark := by
    rintro rfl
    exact absurd hhigh (by decide)
  rw [cellsFrom_cons hjoiner, cellsAfter, lastAfter, if_neg (by simpa using hmark), if_neg (by simpa using hmark), hone]
  rfl

theorem cellsFrom_of_printable {t : Text} (h : ∀ c ∈ t, 32 ≤ c.toNat ∧ c.toNat < 127) (last : Option Char) :
    cellsFrom last t = t.length := by
  induction t generalizing last with
  | nil => rfl
  | cons c t ih =>
    obtain ⟨⟨hlow, hhigh⟩, ht⟩ := List.forall_mem_cons.1 h
    rw [cellsFrom_printable hlow hhigh, ih ht, List.length_cons, Nat.add_comm]

end Text

namespace Console

open Text

theorem cellsFrom_spaces (n : Nat) (last : Option Char) : cellsFrom last (spaces n) = n := by
  rw [cellsFrom_of_printable, spaces, List.length_replicate]
  intro c hc
  rw [List.eq_of_mem_replicate hc]
  decide

/-- Spaces in front of a text take their own cells. -/
theorem cells_spaces_append (n : Nat) (t : Text) : cells (spaces n ++ t) = n + cells t := by
  have hspace (t : Text) : cellsFrom (some ' ') t = cells t := cellsFrom_congr (by decide +kernel) t
  induction n with
  | zero => exact (Nat.zero_add _).symm
  | succ n ih =>
    rw [spaces, List.replicate_succ, List.cons_append, cells, cellsFrom_printable (by decide) (by decide), hspace,
      Nat.add_right_comm, Nat.add_comm 1]
    exact congrArg (· + 1) ih

theorem cells_append_spaces_le (t : Text) (n : Nat) : cells (t ++ spaces n) ≤ cells t + n := by
  refine cellsFrom_append_le (fun last => Nat.le_of_eq (cellsFrom_spaces n last)) (fun last => ?_) none t
  rw [spaces, List.tail_replicate]
  exact Nat.le_trans (Nat.le_of_eq (cellsFrom_spaces _ last)) (Nat.sub_le n 1)

/-! ## Words -/

theorem drop_length_takeWhile (p : Char → Bool) (t : Text) : t.drop (t.takeWhile p).length = t.dropWhile p := by
  have hsplit : t = t.takeWhile p ++ t.dropWhile p := List.takeWhile_append_dropWhile.symm
  exact (congrArg (List.drop (t.takeWhile p).length) hsplit).trans List.drop_left

/-- A run of blanks in front of more is not empty. -/
theorem takeWhile_blanks {t : Text} (h : (t.dropWhile (!isBlank ·)).dropWhile isBlank ≠ []) :
    (t.dropWhile (!isBlank ·)).takeWhile isBlank ≠ [] := by
  have hhead := List.head?_dropWhile_not (!isBlank ·) t
  cases hrest : t.dropWhile (!isBlank ·) with
  | nil =>
    rw [hrest] at h
    exact absurd rfl h
  | cons c rest =>
    rw [hrest] at hhead
    rw [List.takeWhile_cons, if_pos (by simpa using hhead)]
    exact List.cons_ne_nil _ _

/-- A word that is not the last one ends with a blank. -/
theorem nextWord?_split {t word rest : Text} (h : nextWord? t = some (word, rest)) :
    t = word ++ rest ∧ (rest ≠ [] → ∃ c, word.getLast? = some c ∧ isBlank c = true) := by
  rw [nextWord?, drop_length_takeWhile, ← List.drop_drop, drop_length_takeWhile, drop_length_takeWhile] at h
  split at h
  · cases h
  · cases h
    refine ⟨?_, fun hrest => ?_⟩
    · simp only [List.append_assoc, List.takeWhile_append_dropWhile]
    · have htail := takeWhile_blanks hrest
      rw [List.getLast?_append, List.getLast?_eq_some_getLast htail]
      exact ⟨_, rfl, all_takeWhile_isBlank _ _ (List.getLast_mem htail)⟩

theorem stripRight_isPrefix (t : Text) : stripRight t <+: t := ⟨_, (stripRight_append t).symm⟩

/-- A line that has room for all its words is not broken. -/
theorem breaks_eq_nil (overflow : Overflow) (width fuel start : Nat) {used : Nat} {t : Text}
    (h : used + cells t ≤ width) : breaks overflow width start used (wordsFrom fuel t) = [] := by
  induction fuel generalizing start used t with
  | zero => rfl
  | succ fuel ih =>
    rw [wordsFrom]
    cases hword : nextWord? t with
    | none => rfl
    | some r =>
      obtain ⟨word, rest⟩ := r
      obtain ⟨rfl, hblank⟩ := nextWord?_split hword
      have hneeded : cells (stripRight word) ≤ cells (word ++ rest) :=
        cells_mono ((stripRight_isPrefix word).trans (List.prefix_append word rest))
      have hrest : cells word + cells rest ≤ cells (word ++ rest) := by
        by_cases hnil : rest = []
        · rw [hnil, List.append_nil]
          exact Nat.le_refl _
        · obtain ⟨c, hlast, hc⟩ := hblank hnil
          have hsum := cellsFrom_append_ge none word rest
          rwa [if_neg] at hsum
          rw [hlast]
          rintro hjoiner
          cases hjoiner
          exact absurd hc (by decide)
      dsimp only
      rw [breaks.eq_def]
      dsimp only
      rw [if_pos (by omega)]
      exact ih _ (by omega)

/-! ## Lines -/

theorem splitBy_of_none {p : Char → Bool} {t : Text} (h : ∀ c ∈ t, p c = false) : splitBy p t = [t] :=
  splitAux_of_none h []

theorem measure_eq_cells {t : Text} (h : ∀ c ∈ t, isLineBreak c = false) : measure t = cells t := by
  rw [measure, splitBy_of_none h]
  exact Nat.zero_max _

/-- A text on one line that fits is one line, in its place. -/
theorem wrap_of_cells_le (a : Align) (overflow : Overflow) {width : Nat} (hwidth : 0 < width) {t : Text}
    (hline : ∀ c ∈ t, c ≠ '\n' ∧ c ≠ '\t') (h : cells t ≤ width) :
    wrap a overflow width t = [align a overflow width (trimEnd width t)] := by
  have hlines : Text.lines t = [t] := splitBy_of_none fun c hc => beq_false_of_ne (hline c hc).1
  have htabs : expandTabs t = t := by
    rw [expandTabs, splitBy_of_none fun c hc => beq_false_of_ne (hline c hc).2]
    rfl
  have hbreaks : breaks overflow width 0 0 (wordsFrom t.length t) = [] :=
    breaks_eq_nil overflow width t.length 0 (by omega)
  rw [wrap, if_neg (by simpa using Nat.ne_of_gt hwidth), hlines]
  simp only [List.flatMap_cons, List.flatMap_nil, htabs, hbreaks, List.append_nil, List.filter_nil]
  rfl

theorem trimEnd_isPrefix (width : Nat) (t : Text) : trimEnd width t <+: t := List.take_prefix _ _

theorem trimEnd_of_length_le {width : Nat} {t : Text} (h : t.length ≤ width) : trimEnd width t = t := by
  rw [trimEnd, Nat.sub_eq_zero_of_le h, Nat.min_zero, Nat.sub_zero, List.take_length]

theorem truncate_of_cells_le (overflow : Overflow) {width : Nat} {t : Text} (h : cells t ≤ width) :
    truncate overflow width t = t := if_neg (Nat.not_lt.2 h)

theorem fit_of_cells_le {width : Nat} {t : Text} (h : cells t ≤ width) :
    fit width t = t ++ spaces (width - cells t) := if_neg (Nat.not_lt.2 h)

/-- A line in its place has nothing but spaces around it, and stays within its width. -/
theorem align_of_cells_le (a : Align) (overflow : Overflow) {width : Nat} {line : Text}
    (h : cells line ≤ width) : cells (align a overflow width line) ≤ width ∧
      ∃ m n l, l <+: line ∧ align a overflow width line = spaces m ++ l ++ spaces n := by
  have hstrip : cells (stripRight line) ≤ width :=
    Nat.le_trans (cells_mono (stripRight_isPrefix line)) h
  cases a with
  | natural =>
    have hline : align .natural overflow width line = line := truncate_of_cells_le overflow h
    rw [hline]
    exact ⟨h, 0, 0, line, List.prefix_refl line, (List.append_nil line).symm⟩
  | left =>
    rw [align, truncate_of_cells_le overflow h]
    have hspaces := cells_append_spaces_le line (width - cells line)
    exact ⟨by omega, 0, _, line, List.prefix_refl line, rfl⟩
  | center =>
    rw [align, truncate_of_cells_le overflow hstrip]
    refine ⟨?_, _, _, _, stripRight_isPrefix line, rfl⟩
    have hspaces := cells_append_spaces_le (stripRight line)
      (width - cells (stripRight line) - (width - cells (stripRight line)) / 2)
    rw [List.append_assoc, cells_spaces_append]
    omega
  | right =>
    rw [align, truncate_of_cells_le overflow hstrip]
    refine ⟨?_, _, 0, _, stripRight_isPrefix line, (List.append_nil _).symm⟩
    rw [cells_spaces_append]
    omega

end Console

end DryRun
