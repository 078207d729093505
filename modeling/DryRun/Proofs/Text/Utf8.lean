import DryRun.Text.Utf8

/-!
# Texts from octets

A text is read back from its encoding: `readChar?` takes the octets of one character off the head and no more, so
that `ofUtf8?` gives the characters one by one. A text without carriage returns is also the text of the file that
holds its encoding.
-/

namespace DryRun.Text

/-! ## One character -/

section Octets

theorem toNat_ofNat_octet {n : Nat} (h : n < 256) : (UInt8.ofNat n).toNat = n := by
  rw [UInt8.toNat_ofNat', Nat.mod_eq_of_lt h]

theorem continuation?_continuation (n : Nat) : continuation? (continuation n) = some (n % 64) := by
  have hlt : 0x80 + n % 64 < 256 := by omega
  unfold continuation? continuation
  rw [toNat_ofNat_octet hlt, if_pos (by simp; omega), Nat.add_sub_cancel_left]

theorem scalar?_toNat {c : Char} {least : Nat} (h : least ≤ c.toNat) : scalar? least c.toNat = some c := by
  unfold scalar?
  rw [if_pos (by simpa using ⟨h, c.valid⟩), Char.ofNat_toNat]

theorem toNat_lt (c : Char) : c.toNat < 0x110000 := by
  rcases c.valid with h | ⟨-, h⟩
  · exact Nat.lt_trans h (by decide)
  · exact h

/-- Reading takes one character off the head. -/
theorem readChar?_charOctets (c : Char) (rest : List UInt8) :
    readChar? (charOctets c ++ rest) = some (c, rest) := by
  have hlast := toNat_lt c
  unfold charOctets
  dsimp only
  split
  · rename_i h
    have hlead : (UInt8.ofNat c.toNat).toNat = c.toNat := toNat_ofNat_octet (by omega)
    simp only [List.cons_append, List.nil_append, readChar?, hlead, h, if_true, Char.ofNat_toNat]
  split
  · have hlead : (UInt8.ofNat (0xc0 + c.toNat / 64)).toNat = 0xc0 + c.toNat / 64 :=
      toNat_ofNat_octet (by omega)
    have hpoint : (0xc0 + c.toNat / 64 - 0xc0) * 64 + c.toNat % 64 = c.toNat := by omega
    simp only [List.cons_append, List.nil_append, readChar?, hlead]
    rw [if_neg (by omega), if_neg (by omega), if_pos (by omega)]
    simp only [continuation?_continuation, Option.bind_some, hpoint]
    rw [scalar?_toNat (by omega), Option.map_some]
  split
  · have hlead : (UInt8.ofNat (0xe0 + c.toNat / 4096)).toNat = 0xe0 + c.toNat / 4096 :=
      toNat_ofNat_octet (by omega)
    have hpoint : ((0xe0 + c.toNat / 4096 - 0xe0) * 64 + c.toNat / 64 % 64) * 64 + c.toNat % 64 =
        c.toNat := by omega
    simp only [List.cons_append, List.nil_append, readChar?, hlead]
    rw [if_neg (by omega), if_neg (by omega), if_neg (by omega), if_pos (by omega)]
    simp only [continuation?_continuation, Option.bind_some, hpoint]
    rw [scalar?_toNat (by omega), Option.map_some]
  · have hlead : (UInt8.ofNat (0xf0 + c.toNat / 262144)).toNat = 0xf0 + c.toNat / 262144 :=
      toNat_ofNat_octet (by omega)
    have hpoint : (((0xf0 + c.toNat / 262144 - 0xf0) * 64 + c.toNat / 4096 % 64) * 64 +
        c.toNat / 64 % 64) * 64 + c.toNat % 64 = c.toNat := by omega
    simp only [List.cons_append, List.nil_append, readChar?, hlead]
    rw [if_neg (by omega), if_neg (by omega), if_neg (by omega), if_neg (by omega), if_pos (by omega)]
    simp only [continuation?_continuation, Option.bind_some, hpoint]
    rw [scalar?_toNat (by omega), Option.map_some]

theorem charOctets_ne_nil (c : Char) : charOctets c ≠ [] := by
  unfold charOctets
  dsimp only
  intro h
  split at h
  · cases h
  · split at h
    · cases h
    · split at h <;> cases h

end Octets

/-! ## Texts -/

theorem ofUtf8From_toUtf8 (t : Text) {fuel : Nat} (h : t.length ≤ fuel) :
    ofUtf8From fuel (toUtf8 t) = some t := by
  induction t generalizing fuel with
  | nil =>
    unfold ofUtf8From
    rfl
  | cons c t ih =>
    cases fuel with
    | zero => cases h
    | succ fuel =>
      have hread := readChar?_charOctets c (toUtf8 t)
      obtain ⟨a, octets, ha⟩ := List.exists_cons_of_ne_nil (charOctets_ne_nil c)
      have hoctets : toUtf8 (c :: t) = a :: (octets ++ toUtf8 t) := by
        rw [toUtf8, List.flatMap_cons, ← toUtf8, ha, List.cons_append]
      rw [ha, List.cons_append] at hread
      rw [hoctets, ofUtf8From, hread, Option.bind_some]
      · dsimp only
        rw [ih (Nat.le_of_succ_le_succ h), Option.map_some]
      · exact List.cons_ne_nil a _

theorem length_le_toUtf8 (t : Text) : t.length ≤ (toUtf8 t).length := by
  induction t with
  | nil => exact Nat.le_refl 0
  | cons c t ih =>
    have hpos := List.length_pos_iff.2 (charOctets_ne_nil c)
    rw [toUtf8, List.flatMap_cons, List.length_append, ← toUtf8, List.length_cons]
    omega

theorem ofUtf8?_toUtf8 (t : Text) : ofUtf8? (toUtf8 t) = some t :=
  ofUtf8From_toUtf8 t (length_le_toUtf8 t)

theorem unifyLines_of_not_mem {t : Text} (h : '\r' ∉ t) : unifyLines t = t := by
  induction t with
  | nil => rfl
  | cons c t ih =>
    rw [List.mem_cons, not_or] at h
    unfold unifyLines
    split
    · rename_i hc
      exact absurd hc (by simp)
    · rename_i hc
      cases hc
      exact absurd rfl h.1
    · rename_i hc
      cases hc
      exact absurd rfl h.1
    · rename_i hc
      cases hc
      rw [ih h.2]

/-- A text without carriage returns is the text of a file with its octets. -/
theorem ofFile?_toUtf8 {t : Text} (h : '\r' ∉ t) : ofFile? (toUtf8 t) = some t := by
  rw [ofFile?, ofUtf8?_toUtf8, Option.map_some, unifyLines_of_not_mem h]

end DryRun.Text
