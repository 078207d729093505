import DryRun.Sql.Words

/-!
# Classes of characters

How the classes of characters that readers and writers test relate to each other: a word never holds a
character that ends one, and the characters of plain ASCII names are characters of words in every
sense. The second half is about trimming: what `strip` takes away is blank, and what it leaves begins
and ends with a character that is not.
-/

namespace DryRun

-- Results are compared as options, whose equality can be decided.
theorem eq_ok_of_toOption {ε α : Type} {x : Except ε α} {a : α} (h : x.toOption = some a) : x = .ok a := by
  cases x <;> cases h
  rfl

theorem map_eq_ok {ε α β : Type} {f : α → β} {r : Except ε α} {b : β} :
    r.map f = .ok b ↔ ∃ a, r = .ok a ∧ f a = b := by
  cases r with
  | error e => simp [Except.map]
  | ok a => simp [Except.map]

namespace Text

section Decidable

variable (P : Char → Prop) [DecidablePred P]

-- A statement about the characters of a text is decided by going through the text, not through all characters.
instance decidableForallMem (t : Text) : Decidable (∀ c ∈ t, P c) := List.decidableBAll P t

instance decidableExistsMem (t : Text) : Decidable (∃ c ∈ t, P c) := List.decidableBEx P t

instance decidableForallOption (o : Option Char) : Decidable (∀ c ∈ o, P c) := o.decidableForallMem

instance decidableExistsOption (o : Option Char) : Decidable (∃ c ∈ o, P c) := o.decidableExistsMem

end Decidable

/-- An ASCII letter, an ASCII digit or an underscore. -/
def isPlainChar (c : Char) : Bool := c.isAlphanum || c == '_'

/-- A fact about ASCII characters can be checked code point by code point. -/
theorem of_ascii {P : Char → Prop} (h : ∀ n < 128, P (Char.ofNat n)) {c : Char}
    (hc : c.toNat < 128) : P c := by
  have := h c.toNat hc
  rwa [Char.ofNat_toNat] at this

theorem isPlainChar_ascii {c : Char} (h : isPlainChar c = true) : c.toNat < 128 := by
  change (((decide (c.val ≥ 65 ∧ c.val ≤ 90) || (decide (c.val ≥ 97) && decide (c.val ≤ 122))) ||
    (decide (c.val ≥ 48) && decide (c.val ≤ 57))) || c == '_') = true at h
  simp only [Bool.or_eq_true, Bool.and_eq_true, decide_eq_true_eq, beq_iff_eq, UInt32.le_iff_toNat_le,
    ge_iff_le] at h
  change (((65 ≤ c.toNat ∧ c.toNat ≤ 90) ∨ (97 ≤ c.toNat ∧ c.toNat ≤ 122)) ∨
    (48 ≤ c.toNat ∧ c.toNat ≤ 57)) ∨ c = '_' at h
  rcases h with ((h | h) | h) | rfl
  · omega
  · omega
  · omega
  · decide

theorem isPlainChar_isWordChar {c : Char} (h : isPlainChar c = true) : isWordChar c = true := by
  unfold isWordChar
  rw [if_pos (isPlainChar_ascii h)]
  exact h

theorem toUpper_of_not_ascii {c : Char} (h : ¬ c.toNat < 128) : c.toUpper = c := by
  unfold Char.toUpper
  refine dif_neg ?_
  rintro ⟨-, hz⟩
  have hz : c.toNat ≤ 122 := hz
  omega

/-! ## Blanks -/

/-- The code points of all blanks. -/
def blankCodes : List Nat :=
  [9, 10, 11, 12, 13, 28, 29, 30, 31, 32, 0x85, 0xa0, 0x1680, 0x2000, 0x2001, 0x2002, 0x2003, 0x2004,
   0x2005, 0x2006, 0x2007, 0x2008, 0x2009, 0x200a, 0x2028, 0x2029, 0x202f, 0x205f, 0x3000]

theorem toNat_mem_blankCodes {c : Char} (h : isBlank c = true) : c.toNat ∈ blankCodes := by
  simp only [blankCodes, List.mem_cons, List.not_mem_nil, or_false]
  unfold isBlank at h
  split at h
  · have hs : (c == ' ') = true → c.toNat = 32 := by
      intro e
      rw [eq_of_beq e]
      rfl
    simp only [Bool.or_eq_true, Bool.and_eq_true, decide_eq_true_eq] at h
    rcases h with (h | h) | h
    · have := hs h
      omega
    · omega
    · omega
  · simp only [inRanges, blankRanges, List.any_cons, List.any_nil, Bool.or_eq_true, Bool.and_eq_true,
      decide_eq_true_eq, Bool.false_eq_true, or_false] at h
    omega

/-- A fact about blanks can be checked code point by code point. -/
theorem of_blank {P : Char → Prop} (h : ∀ n ∈ blankCodes, P (Char.ofNat n)) {c : Char}
    (hc : isBlank c = true) : P c := by
  have := h c.toNat (toNat_mem_blankCodes hc)
  rwa [Char.ofNat_toNat] at this

/-- No letter or digit of any script is a blank. -/
theorem isBlank_of_isWordChar {c : Char} (h : isWordChar c = true) : isBlank c = false := by
  cases hb : isBlank c with
  | false => rfl
  | true =>
    have : isWordChar c = false :=
      of_blank (P := fun c => isWordChar c = false) (by decide +kernel) hb
    rw [h] at this
    cases this

/-! ## Trimming -/

theorem stripLeft_append (t : Text) : t = t.takeWhile isBlank ++ stripLeft t :=
  List.takeWhile_append_dropWhile.symm

theorem stripRight_append (t : Text) : t = stripRight t ++ (t.reverse.takeWhile isBlank).reverse := by
  rw [stripRight, ← List.reverse_append, List.takeWhile_append_dropWhile, List.reverse_reverse]

theorem all_takeWhile_isBlank (t : Text) : ∀ c ∈ t.takeWhile isBlank, isBlank c = true :=
  List.all_eq_true.1 List.all_takeWhile

/-- A text is its stripped form between blanks. -/
theorem exists_strip (t : Text) :
    ∃ a b : Text, t = a ++ (strip t ++ b) ∧ (∀ c ∈ a, isBlank c = true) ∧ ∀ c ∈ b, isBlank c = true := by
  refine ⟨t.takeWhile isBlank, ((stripLeft t).reverse.takeWhile isBlank).reverse, ?_,
    all_takeWhile_isBlank t, ?_⟩
  · rw [strip, ← stripRight_append, ← stripLeft_append]
  · intro c hc
    exact all_takeWhile_isBlank _ c (List.mem_reverse.1 hc)

theorem stripRight_last {t : Text} {c : Char} (h : (stripRight t).getLast? = some c) :
    isBlank c = false := by
  rw [stripRight, List.getLast?_reverse] at h
  have := List.head?_dropWhile_not isBlank t.reverse
  rw [h] at this
  simpa using this

/-- What is left by `strip` does not end with a blank. -/
theorem strip_last {t : Text} {c : Char} (h : (strip t).getLast? = some c) : isBlank c = false :=
  stripRight_last h

/-- What is left by `strip` does not begin with a blank. -/
theorem strip_head {t : Text} {c : Char} (h : (strip t).head? = some c) : isBlank c = false := by
  have hd := List.head?_dropWhile_not isBlank t
  have happ := stripRight_append (stripLeft t)
  have : (stripLeft t).head? = some c := by
    rw [happ, List.head?_append]
    rw [strip] at h
    rw [h]
    rfl
  rw [stripLeft] at this
  rw [this] at hd
  simpa using hd

theorem stripLeft_of_head {t : Text} (h : ∀ c, t.head? = some c → isBlank c = false) :
    stripLeft t = t := by
  cases t with
  | nil => rfl
  | cons c t => simp [stripLeft, h c rfl]

theorem stripRight_of_last {t : Text} (h : ∀ c, t.getLast? = some c → isBlank c = false) :
    stripRight t = t := by
  have : t.reverse.dropWhile isBlank = t.reverse := by
    apply stripLeft_of_head
    intro c hc
    exact h c (by rw [← List.head?_reverse]; exact hc)
  rw [stripRight, this, List.reverse_reverse]

/-- What follows a text that does not end with a blank is trimmed on its own. -/
theorem stripRight_append_of_last {a : Text} (h : ∀ c, a.getLast? = some c → isBlank c = false)
    (b : Text) : stripRight (a ++ b) = a ++ stripRight b := by
  have ha : a.reverse.dropWhile isBlank = a.reverse := by
    refine stripLeft_of_head fun c hc => h c ?_
    rwa [← List.head?_reverse]
  rw [stripRight, stripRight, List.reverse_append, List.dropWhile_append, ha]
  split
  · rename_i he
    rw [List.isEmpty_iff.1 he]
    simp
  · rw [List.reverse_append, List.reverse_reverse]

/-- A text without blanks at its ends is left as it is. -/
theorem strip_of_ends {t : Text} (hh : ∀ c, t.head? = some c → isBlank c = false)
    (hl : ∀ c, t.getLast? = some c → isBlank c = false) : strip t = t := by
  rw [strip, stripLeft_of_head hh, stripRight_of_last hl]

theorem strip_strip (t : Text) : strip (strip t) = strip t :=
  strip_of_ends (fun _ => strip_head) (fun _ => strip_last)

end Text

namespace Sql

open Text

theorem endsWord_of_isBlank {c : Char} (h : isBlank c = true) : endsWord c = true := by
  simp [endsWord, h]

theorem breakChars_ascii : ∀ c ∈ breakChars, c.toNat < 128 := by decide +kernel

/-- No character of a word ends one. -/
theorem endsWord_of_isWordChar {c : Char} (h : isWordChar c = true) : endsWord c = false := by
  have hb := isBlank_of_isWordChar h
  by_cases hc : c.toNat < 128
  · revert h
    exact of_ascii (P := fun c => isWordChar c = true → endsWord c = false) (by decide) hc
  · have : breakChars.contains c = false := by
      cases hk : breakChars.contains c with
      | false => rfl
      | true => exact absurd (breakChars_ascii c (List.contains_iff_mem.1 hk)) hc
    rw [endsWord, hb, this]
    rfl

theorem endsWord_of_isPlainChar {c : Char} (h : isPlainChar c = true) : endsWord c = false :=
  endsWord_of_isWordChar (isPlainChar_isWordChar h)

end Sql

end DryRun
