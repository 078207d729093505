import DryRun.Json.Reader
import DryRun.Json.Writer
import DryRun.Proofs.Text.Classes

/-!
# Strings and integers in JSON

What the writer makes of a string or an integer is read back. For strings the step is one character: whatever
`escapeChar` writes for it (itself, a short escape, one unit or two), `readString` takes it off the head and adds
the character to the content. For integers the reader stops at the end of the digits, which holds if the text
behind them does not go on with a number.
-/

namespace DryRun.Json

/-! ## Units -/

section Units

variable (n : Nat) (rest : Text)

theorem hexDigit?_hexChar : ∀ n < 16, Text.hexDigit? (Text.hexChar n) = some n := by decide

theorem readUnit_hex (h : n < 0x10000) : readUnit (Text.hex 4 n ++ rest) = some (n, rest) := by
  have hdigit (m : Nat) : Text.hexDigit? (Text.hexChar (m % 16)) = some (m % 16) :=
    hexDigit?_hexChar (m % 16) (Nat.mod_lt m (by decide))
  simp only [Text.hex, List.nil_append, List.cons_append, readUnit, hdigit]
  have hvalue : ((n / 16 / 16 / 16 % 16 * 16 + n / 16 / 16 % 16) * 16 + n / 16 % 16) * 16 + n % 16 = n := by
    omega
  rw [hvalue]

/-- A unit that is no half of a character. -/
theorem readEscape_hex (h : n < 0xd800 ∨ 0xe000 ≤ n) (hn : n < 0x10000) :
    readEscape (Text.hex 4 n ++ rest) = some (Char.ofNat n, rest) := by
  rw [readEscape, readUnit_hex n rest hn]
  dsimp only
  rw [if_pos (by simpa using h)]

/-- Two units that make a character. -/
theorem readEscape_pair {high low : Nat} (hhigh : 0xd800 ≤ high) (hhigh' : high < 0xdc00)
    (hlow : 0xdc00 ≤ low) (hlow' : low < 0xe000) :
    readEscape (Text.hex 4 high ++ (unitEscape low ++ rest)) =
      some (Char.ofNat (0x10000 + (high - 0xd800) * 0x400 + (low - 0xdc00)), rest) := by
  rw [readEscape, readUnit_hex _ _ (by omega)]
  simp only [unitEscape, List.cons_append]
  rw [readUnit_hex _ _ (by omega), if_neg (by simp; omega), if_neg (by omega)]
  dsimp only
  rw [if_pos (by simp; omega)]

end Units

/-! ## Characters -/

/-- What can be written for a character. -/
inductive Escaped (c : Char) : Text → Prop where
  | short {d : Char} (hd : d ≠ 'u') (h : shortEscape? d = some c) : Escaped c ['\\', d]
  | unit (h : c.toNat < 0x10000) : Escaped c (unitEscape c.toNat)
  | pair (h : 0x10000 ≤ c.toNat) :
      Escaped c (unitEscape (0xd800 + (c.toNat - 0x10000) / 0x400) ++
        unitEscape (0xdc00 + (c.toNat - 0x10000) % 0x400))
  | plain (hquote : c ≠ '\x22') (hslash : c ≠ '\\') (hcontrol : ¬c.toNat < 32) : Escaped c [c]

/-- The characters with an escape of one letter. -/
def shortChars : List Char := ['\x22', '\\', '\n', '\r', '\t', '\x08', '\x0c']

theorem escapeChar_short : ∀ ascii : Bool, ∀ c ∈ shortChars,
    (escapeChar ascii c).getLastD 'u' ≠ 'u' ∧ shortEscape? ((escapeChar ascii c).getLastD 'u') = some c ∧
      escapeChar ascii c = ['\\', (escapeChar ascii c).getLastD 'u'] := by
  decide

theorem escaped_escapeChar (ascii : Bool) (c : Char) : Escaped c (escapeChar ascii c) := by
  by_cases hshort : c ∈ shortChars
  · obtain ⟨hd, h, heq⟩ := escapeChar_short ascii c hshort
    rw [heq]
    exact .short hd h
  · simp only [shortChars, List.mem_cons, List.not_mem_nil, or_false, not_or] at hshort
    obtain ⟨hquote, hslash, h3, h4, h5, h6, h7⟩ := hshort
    simp only [escapeChar, beq_iff_eq, hquote, hslash, h3, h4, h5, h6, h7, if_false]
    split
    · exact .unit (by omega)
    · split
      · split
        · exact .unit (by assumption)
        · exact .pair (by omega)
      · exact .plain hquote hslash (by assumption)

theorem Escaped.ne_nil {c : Char} {t : Text} (h : Escaped c t) : t ≠ [] := by
  cases h <;> exact List.cons_ne_nil _ _

/-! ## Strings -/

section Strings

variable (fuel : Nat) (content rest : Text)

theorem readString_short {c d : Char} (hd : d ≠ 'u') (h : shortEscape? d = some c) :
    readString (fuel + 1) content ('\\' :: d :: rest) = readString fuel (c :: content) rest := by
  rw [readString.eq_def]
  dsimp only
  rw [if_neg (by decide), if_pos (by decide)]
  split
  · rename_i heq
    cases heq
  · rename_i heq
    exact absurd (List.cons.inj heq).1 hd
  · rename_i heq
    obtain ⟨rfl, rfl⟩ := List.cons.inj heq
    rw [h]

theorem readString_unit {c : Char} {t : Text} (h : readEscape t = some (c, rest)) :
    readString (fuel + 1) content ('\\' :: 'u' :: t) = readString fuel (c :: content) rest := by
  rw [readString.eq_def]
  dsimp only
  rw [if_neg (by decide), if_pos (by decide)]
  split
  · rename_i heq
    cases heq
  · rename_i heq
    cases heq
    rw [h]
  · rename_i hnot heq
    exact absurd (List.cons.inj heq).1.symm hnot

theorem readString_plain {c : Char} (hquote : c ≠ '\x22') (hslash : c ≠ '\\') (h : ¬c.toNat < 32) :
    readString (fuel + 1) content (c :: rest) = readString fuel (c :: content) rest := by
  rw [readString.eq_def]
  dsimp only
  rw [if_neg (by simpa using hquote), if_neg (by simpa using hslash), if_neg h]

/-- Reading takes what is written for one character off the head. -/
theorem Escaped.readString {c : Char} {t : Text} (h : Escaped c t) :
    readString (fuel + 1) content (t ++ rest) = readString fuel (c :: content) rest := by
  have hpoint := Char.ofNat_toNat c
  have hvalid : c.toNat < 0xd800 ∨ 0xe000 ≤ c.toNat ∧ c.toNat < 0x110000 := by
    rcases c.valid with h | ⟨h, h'⟩
    · exact .inl h
    · exact .inr ⟨h, h'⟩
  cases h with
  | short hd h => exact readString_short fuel content rest hd h
  | unit h =>
    have hunit := readEscape_hex c.toNat rest (by omega) h
    rw [hpoint] at hunit
    exact readString_unit fuel content rest hunit
  | pair h =>
    have hvalue : 0x10000 + (0xd800 + (c.toNat - 0x10000) / 0x400 - 0xd800) * 0x400 +
        (0xdc00 + (c.toNat - 0x10000) % 0x400 - 0xdc00) = c.toNat := by omega
    have hhigh : 0xd800 + (c.toNat - 0x10000) / 0x400 < 0xdc00 := by omega
    have hlow : 0xdc00 + (c.toNat - 0x10000) % 0x400 < 0xe000 := by omega
    have hpair := readEscape_pair rest (Nat.le_add_right _ _) hhigh (Nat.le_add_right _ _) hlow
    rw [hvalue, hpoint] at hpair
    rw [List.append_assoc]
    exact readString_unit fuel content rest hpair
  | plain hquote hslash hcontrol => exact readString_plain fuel content rest hquote hslash hcontrol

theorem length_le_escaped (ascii : Bool) (t : Text) : t.length ≤ (t.flatMap (escapeChar ascii)).length := by
  induction t with
  | nil => exact Nat.le_refl 0
  | cons c t ih =>
    have hpos := List.length_pos_iff.2 (escaped_escapeChar ascii c).ne_nil
    rw [List.flatMap_cons, List.length_append, List.length_cons]
    omega

theorem readString_flatMap (ascii : Bool) (t : Text) (hfuel : t.length < fuel) :
    readString fuel content (t.flatMap (escapeChar ascii) ++ '\x22' :: rest) =
      some (content.reverse ++ t, rest) := by
  induction t generalizing fuel content with
  | nil =>
    cases fuel with
    | zero => cases hfuel
    | succ fuel =>
      rw [readString.eq_def]
      simp
  | cons c t ih =>
    cases fuel with
    | zero => cases hfuel
    | succ fuel =>
      rw [List.flatMap_cons, List.append_assoc, (escaped_escapeChar ascii c).readString,
        ih fuel (c :: content) (Nat.lt_of_succ_lt_succ hfuel)]
      simp

/-- The content of a string is read back. -/
theorem readString_quoted (ascii : Bool) (t : Text) : ∃ body, quoted ascii t ++ rest = '\x22' :: body ∧
    readString (body.length + 1) [] body = some (t, rest) := by
  refine ⟨t.flatMap (escapeChar ascii) ++ '\x22' :: rest, by simp [quoted], ?_⟩
  have hfuel : t.length < (t.flatMap (escapeChar ascii) ++ '\x22' :: rest).length + 1 := by
    have := length_le_escaped ascii t
    rw [List.length_append]
    omega
  rw [readString_flatMap _ _ _ ascii t hfuel, List.reverse_nil, List.nil_append]

end Strings

/-! ## Integers -/

/-- A character that may follow a value. -/
def endsValue (c : Char) : Bool := isSpace c || c == ',' || c == ']' || c == '\x7d'

/-- The text does not go on with the value before it. -/
def Stops (t : Text) : Prop := ∀ c ∈ t.head?, endsValue c = true

theorem endsValue_facts {c : Char} (h : endsValue c = true) :
    Text.isDigit c = false ∧ c ≠ '.' ∧ (c == 'e' || c == 'E') = false := by
  simp only [endsValue, isSpace, Bool.or_eq_true, beq_iff_eq] at h
  rcases h with (((((rfl | rfl) | rfl) | rfl) | rfl) | rfl) | rfl <;> decide

section Integers

variable {rest : Text} (hrest : Stops rest)

theorem isDigit_of_mem_ofNat {n : Nat} {c : Char} (h : c ∈ Text.ofNat n) : Text.isDigit c = true := by
  have hdigit := Nat.isDigit_of_mem_toDigits (by decide) (by decide) h
  simpa [Char.isDigit, Text.isDigit, Char.le_def] using hdigit

theorem digitChar_ne_zero : ∀ n < 10, 0 < n → n.digitChar ≠ '0' := by decide

/-- A number has no needless zero in front. -/
theorem head?_ofNat {n : Nat} (h : 0 < n) : (Text.ofNat n).head? ≠ some '0' := by
  unfold Text.ofNat
  induction n using Nat.strongRecOn with
  | _ n ih =>
    by_cases hn : n < 10
    · rw [Nat.toDigits_of_lt_base hn, List.head?_cons]
      exact fun heq => digitChar_ne_zero n hn h (Option.some.inj heq)
    · have hhead := ih (n / 10) (by omega) (by omega)
      obtain ⟨d, ds, hd⟩ := List.exists_cons_of_ne_nil (Nat.toDigits_ne_nil (n := n / 10) (b := 10))
      rw [hd] at hhead
      rwa [Nat.toDigits_of_base_le (by decide) (by omega), hd]

theorem length_ofNat_of_zero {n : Nat} (h : (Text.ofNat n).head? = some '0') : (Text.ofNat n).length = 1 := by
  cases n with
  | zero => rfl
  | succ n => exact absurd h (head?_ofNat n.succ_pos)

theorem digitsValue_ofNat (n : Nat) : digitsValue (Text.ofNat n) = n := by
  have hvalue := Nat.ofDigitChars_ten_toDigits (n := n)
  rw [Nat.ofDigitChars_eq_foldl] at hvalue
  simpa only [digitsValue, Text.ofNat, Nat.mul_comm] using hvalue

theorem exists_digit (n : Nat) : ∃ d ds, Text.ofNat n = d :: ds ∧ Text.isDigit d = true := by
  have hne : Text.ofNat n ≠ [] := Nat.toDigits_ne_nil
  obtain ⟨d, ds, h⟩ := List.exists_cons_of_ne_nil hne
  exact ⟨d, ds, h, isDigit_of_mem_ofNat (n := n) (h ▸ List.mem_cons_self)⟩

theorem exists_ofInt (n : Int) : ∃ c t, Text.ofInt n = c :: t ∧ c ≠ '[' ∧ c ≠ '\x7b' := by
  cases n with
  | ofNat n =>
    obtain ⟨d, ds, hds, hd⟩ := exists_digit n
    refine ⟨d, ds, hds, ?_, ?_⟩ <;> rintro rfl <;> exact absurd hd (by decide)
  | negSucc n => exact ⟨'-', _, rfl, by decide, by decide⟩

section

variable {d : Char} {t : Text} (hd : Text.isDigit d = true)

include hd

theorem ne_of_isDigit {c : Char} (hc : Text.isDigit c = false) : c ≠ d := by
  rintro rfl
  rw [hd] at hc
  cases hc

theorem after?_digit {c : Char} (lead : Text) (hc : Text.isDigit c = false) :
    Text.after? (c :: lead) (d :: t) = none := by
  rw [Text.after?, if_neg (by simpa using ne_of_isDigit hd hc)]

theorem readScalar_digit : readScalar (d :: t) = readNumber false (d :: t) := by
  have hquote := ne_of_isDigit hd (c := '\x22') (by decide)
  have hminus := ne_of_isDigit hd (c := '-') (by decide)
  unfold readScalar
  split
  · rename_i heq
    exact absurd (List.cons.inj heq).1.symm hquote
  · rename_i heq
    exact absurd (List.cons.inj heq).1.symm hminus
  · simp only [String.reduceToList]
    simp only [after?_digit hd _ (show Text.isDigit 'n' = false by decide),
      after?_digit hd _ (show Text.isDigit 't' = false by decide),
      after?_digit hd _ (show Text.isDigit 'f' = false by decide),
      after?_digit hd _ (show Text.isDigit 'N' = false by decide),
      after?_digit hd _ (show Text.isDigit 'I' = false by decide)]

theorem readScalar_minus : readScalar ('-' :: d :: t) = readNumber true (d :: t) := by
  unfold readScalar
  simp only [String.reduceToList, after?_digit hd _ (show Text.isDigit 'I' = false by decide)]

end

include hrest

theorem readDigits_ofNat (n : Nat) : readDigits (Text.ofNat n ++ rest) = (Text.ofNat n, rest) := by
  have hdigits : ∀ c ∈ Text.ofNat n, Text.isDigit c = true := fun c => isDigit_of_mem_ofNat
  rw [readDigits, List.takeWhile_append_of_pos hdigits, List.dropWhile_append_of_pos hdigits]
  cases rest with
  | nil => simp
  | cons c rest =>
    have hc := (endsValue_facts (hrest c rfl)).1
    simp [hc]

theorem readFraction_stops : readFraction rest = some (none, rest) := by
  cases rest with
  | nil => rfl
  | cons c rest =>
    have hc := (endsValue_facts (hrest c rfl)).2.1
    unfold readFraction
    split
    · rename_i heq
      exact absurd (List.cons.inj heq).1 hc
    · rfl

theorem readExponent_stops : readExponent rest = some (none, rest) := by
  cases rest with
  | nil => rfl
  | cons c rest =>
    have hc := (endsValue_facts (hrest c rfl)).2.2
    rw [readExponent.eq_def]
    dsimp only
    rw [if_neg (by simp [hc])]

theorem readNumber_ofNat (negative : Bool) {n : Nat} (hn : (Text.ofNat n).length ≤ digitLimit) :
    readNumber negative (Text.ofNat n ++ rest) = some (.int (if negative then -(n : Int) else n), rest) := by
  have hzero : ¬((Text.ofNat n).head? == some '0' && (Text.ofNat n).length != 1) = true := by
    intro h
    simp only [Bool.and_eq_true, beq_iff_eq, bne_iff_ne] at h
    exact h.2 (length_ofNat_of_zero h.1)
  rw [readNumber, readDigits_ofNat hrest]
  split
  · rename_i heq
    exact absurd (Prod.mk.inj heq).1 Nat.toDigits_ne_nil
  · rename_i heq
    obtain ⟨rfl, rfl⟩ := Prod.mk.inj heq
    rw [if_neg hzero, if_neg (Nat.not_lt.2 hn), readFraction_stops hrest]
    dsimp only
    rw [readExponent_stops hrest]
    dsimp only
    rw [digitsValue_ofNat]

theorem readScalar_ofInt {n : Int} (hn : (Text.ofNat n.natAbs).length ≤ digitLimit) :
    readScalar (Text.ofInt n ++ rest) = some (.int n, rest) := by
  cases n with
  | ofNat n =>
    obtain ⟨d, ds, hds, hd⟩ := exists_digit n
    have hnumber := readNumber_ofNat hrest false hn
    rw [Text.ofInt, hds, List.cons_append, readScalar_digit hd, ← List.cons_append, ← hds]
    exact hnumber
  | negSucc n =>
    obtain ⟨d, ds, hds, hd⟩ := exists_digit (n + 1)
    have hnumber := readNumber_ofNat hrest true hn
    rw [Text.ofInt, hds, List.cons_append, List.cons_append, readScalar_minus hd, ← List.cons_append, ← hds]
    exact hnumber

end Integers

end DryRun.Json
