import DryRun.Console.Emoji
import DryRun.Proofs.Text.Classes

/-!
# Texts without emoji

`Uncoded t` says that no code of `t` names an emoji, where codes are read from the left and share no colons. Then
nothing is replaced in `t`; otherwise colons of `t` are lost, since no emoji has any (`withEmoji_cases`). The same
is true of the other characters that begin markup, so that `active` counts all of them.
-/

namespace DryRun.Console

open Text

/-! ## Characters -/

/-- A character that can begin a tag, an escape or a code. -/
def isActive (c : Char) : Bool := c == '[' || c == '\\' || c == ':'

/-- The number of characters that can begin markup. -/
def active (t : Text) : Nat := t.countP isActive

@[simp] theorem active_nil : active [] = 0 := rfl

@[simp] theorem active_append (a b : Text) : active (a ++ b) = active a + active b := List.countP_append

@[simp] theorem active_cons (c : Char) (t : Text) : active (c :: t) = active t + if isActive c then 1 else 0 :=
  List.countP_cons

theorem active_eq_zero {t : Text} (h : ∀ c ∈ t, isActive c = false) : active t = 0 :=
  List.countP_eq_zero.2 fun c hc => by simp [h c hc]

/-- A character of an emoji: neither blank nor a control character, and no beginning of markup. -/
def isGlyph (c : Char) : Bool := 32 < c.toNat && !isBlank c && !isActive c

theorem isActive_of_isGlyph {c : Char} (h : isGlyph c = true) : isActive c = false := by
  rw [isGlyph, Bool.and_eq_true] at h
  simpa using h.2

theorem emojiTable_glyphs : ∀ e ∈ emojiTable, ∀ n ∈ e.2, isGlyph (Char.ofNat n) = true := by
  decide +kernel

theorem emoji?_glyphs {name emoji : Text} (h : emoji? name = some emoji) : ∀ c ∈ emoji, isGlyph c = true := by
  obtain ⟨e, he, rfl⟩ := Option.map_eq_some_iff.1 h
  exact List.forall_mem_map.2 (emojiTable_glyphs e (List.mem_of_find?_eq_some he))

/-! ## Codes -/

theorem eq_append_of_after? {lead t rest : Text} (h : after? lead t = some rest) : t = lead ++ rest := by
  induction lead generalizing t with
  | nil =>
    cases t <;> cases h <;> rfl
  | cons c lead ih =>
    cases t with
    | nil => cases h
    | cons d t =>
      rw [after?] at h
      split at h
      · rename_i heq
        rw [ih h, eq_of_beq heq]
        rfl
      · cases h

/-- A code is read from the start of a text and leaves what follows it. -/
theorem readCode?_split {name t : Text} {code : EmojiCode} (h : readCode? name t = some code) :
    ∃ used, t = used ++ code.rest ∧ ∀ c ∈ code.form, isGlyph c = true := by
  induction t generalizing name with
  | nil => cases h
  | cons c t ih =>
    rw [readCode?] at h
    split at h
    · rename_i rest hlead
      cases h
      exact ⟨_, eq_append_of_after? hlead, List.forall_mem_singleton.2 (by decide)⟩
    · split at h
      · rename_i rest hlead
        cases h
        exact ⟨_, eq_append_of_after? hlead, List.forall_mem_singleton.2 (by decide)⟩
      · split at h
        · cases h
          exact ⟨[c], rfl, by simp⟩
        · split at h
          · cases h
          · obtain ⟨used, rfl, hform⟩ := ih h
            exact ⟨c :: used, rfl, hform⟩

/-- No code of the text names an emoji. -/
inductive Uncoded : Text → Prop where
  | nil : Uncoded []
  | char {c : Char} {t : Text} : c ≠ ':' → Uncoded t → Uncoded (c :: t)
  | colon {t : Text} : readCode? [] t = none → Uncoded t → Uncoded (':' :: t)
  | unknown {t : Text} {code : EmojiCode} : readCode? [] t = some code → emoji? (lower code.name) = none →
      Uncoded code.rest → Uncoded (':' :: t)

theorem uncoded_of_not_mem {t : Text} (h : ':' ∉ t) : Uncoded t := by
  induction t with
  | nil => exact .nil
  | cons c t ih =>
    rw [List.mem_cons, not_or] at h
    exact .char (fun hc => h.1 hc.symm) (ih h.2)

section Inversion

variable {t : Text}

theorem uncoded_char {c : Char} (hc : c ≠ ':') : Uncoded (c :: t) ↔ Uncoded t := by
  refine ⟨fun h => ?_, .char hc⟩
  cases h with
  | char _ h => exact h
  | colon => exact absurd rfl hc
  | unknown => exact absurd rfl hc

theorem uncoded_colon (hcode : readCode? [] t = none) : Uncoded (':' :: t) ↔ Uncoded t := by
  refine ⟨fun h => ?_, .colon hcode⟩
  cases h with
  | char hc _ => exact absurd rfl hc
  | colon _ h => exact h
  | unknown h' =>
    rw [hcode] at h'
    cases h'

theorem uncoded_code {code : EmojiCode} (hcode : readCode? [] t = some code) :
    Uncoded (':' :: t) ↔ emoji? (lower code.name) = none ∧ Uncoded code.rest := by
  refine ⟨fun h => ?_, fun h => .unknown hcode h.1 h.2⟩
  cases h with
  | char hc _ => exact absurd rfl hc
  | colon h' =>
    rw [hcode] at h'
    cases h'
  | unknown h' hnone hrest =>
    rw [hcode] at h'
    cases h'
    exact ⟨hnone, hrest⟩

end Inversion

/-! ## Replacing codes -/

section Replacing

variable {t : Text} (fuel : Nat)

theorem replaceCodes_char {c : Char} (hc : c ≠ ':') :
    replaceCodes (fuel + 1) (c :: t) = c :: replaceCodes fuel t := by
  rw [replaceCodes, if_neg (by simpa using hc)]

theorem replaceCodes_colon (hcode : readCode? [] t = none) :
    replaceCodes (fuel + 1) (':' :: t) = ':' :: replaceCodes fuel t := by
  rw [replaceCodes, if_pos (by decide), hcode]

/-- What is shown for a code: the emoji in its form, or the code as it is written. -/
theorem replaceCodes_code {used : Text} {code : EmojiCode} (hcode : readCode? [] t = some code)
    (hused : t = used ++ code.rest) :
    replaceCodes (fuel + 1) (':' :: t) =
      ((emoji? (lower code.name)).map (· ++ code.form)).getD (':' :: used) ++ replaceCodes fuel code.rest := by
  have hwritten : (':' :: t).take (t.length + 1 - code.rest.length) = ':' :: used := by
    have hlength : t.length + 1 - code.rest.length = (':' :: used).length := by
      rw [hused, List.length_append, List.length_cons]
      omega
    rw [hlength, hused, ← List.cons_append, List.take_left]
  rw [replaceCodes, if_pos (by decide), hcode]
  dsimp only
  rw [hwritten]
  cases emoji? (lower code.name) <;> rfl

end Replacing

/-- Nothing is replaced, or a colon is lost. -/
theorem replaceCodes_cases (fuel : Nat) (t : Text) (h : t.length ≤ fuel) :
    (Uncoded t ∧ replaceCodes fuel t = t) ∨ (¬Uncoded t ∧ active (replaceCodes fuel t) < active t) := by
  induction fuel generalizing t with
  | zero =>
    rw [List.length_eq_zero_iff.1 (Nat.le_zero.1 h)]
    exact .inl ⟨.nil, rfl⟩
  | succ fuel ih =>
    cases t with
    | nil => exact .inl ⟨.nil, rfl⟩
    | cons c t =>
      have hcons (c : Char) : (Uncoded t ∧ c :: replaceCodes fuel t = c :: t) ∨
          (¬Uncoded t ∧ active (c :: replaceCodes fuel t) < active (c :: t)) := by
        refine (ih t (Nat.le_of_succ_le_succ h)).imp (fun h => ⟨h.1, congrArg _ h.2⟩) fun h => ⟨h.1, ?_⟩
        rw [active_cons, active_cons]
        exact Nat.add_lt_add_right h.2 _
      by_cases hc : c = ':'
      · subst hc
        cases hcode : readCode? [] t with
        | none =>
          rw [uncoded_colon hcode, replaceCodes_colon fuel hcode]
          exact hcons ':'
        | some code =>
          obtain ⟨used, hused, hform⟩ := readCode?_split hcode
          have hlength : code.rest.length ≤ fuel := by
            rw [hused, List.length_cons, List.length_append] at h
            omega
          rw [uncoded_code hcode, replaceCodes_code fuel hcode hused]
          cases hemoji : emoji? (lower code.name) with
          | some emoji =>
            have hglyphs : active (emoji ++ code.form) = 0 :=
              active_eq_zero fun c hc => isActive_of_isGlyph <|
                (List.mem_append.1 hc).elim (emoji?_glyphs hemoji c) (hform c)
            have hrest : active (replaceCodes fuel code.rest) ≤ active code.rest :=
              (ih code.rest hlength).elim (fun h => Nat.le_of_eq (congrArg active h.2)) fun h => Nat.le_of_lt h.2
            refine .inr ⟨fun h => Option.some_ne_none _ h.1, ?_⟩
            rw [Option.map_some, Option.getD_some, active_append, hglyphs, hused, active_cons, active_append,
              if_pos (by decide)]
            omega
          | none =>
            rw [Option.map_none, Option.getD_none, hused]
            refine (ih code.rest hlength).imp (fun h => ⟨⟨rfl, h.1⟩, ?_⟩) fun h => ⟨fun hn => h.1 hn.2, ?_⟩
            · rw [h.2, List.cons_append]
            · rw [← List.cons_append, active_append, active_append]
              exact Nat.add_lt_add_left h.2 _
      · rw [uncoded_char hc, replaceCodes_char fuel hc]
        exact hcons c

theorem mem_replaceCodes (fuel : Nat) (t : Text) : ∀ c ∈ replaceCodes fuel t, c ∈ t ∨ isGlyph c = true := by
  induction fuel generalizing t with
  | zero => exact fun c hc => .inl hc
  | succ fuel ih =>
    cases t with
    | nil => exact fun c hc => .inl hc
    | cons d t =>
      have hcons {c : Char} (hc : c ∈ d :: replaceCodes fuel t) : c ∈ d :: t ∨ isGlyph c = true := by
        rcases List.mem_cons.1 hc with rfl | hc
        · exact .inl List.mem_cons_self
        · exact (ih t c hc).imp_left (List.mem_cons_of_mem d)
      intro c hc
      by_cases hd : d = ':'
      · subst hd
        cases hcode : readCode? [] t with
        | none =>
          rw [replaceCodes_colon fuel hcode] at hc
          exact hcons hc
        | some code =>
          obtain ⟨used, hused, hform⟩ := readCode?_split hcode
          rw [replaceCodes_code fuel hcode hused, List.mem_append] at hc
          rcases hc with hc | hc
          · cases hemoji : emoji? (lower code.name) with
            | some emoji =>
              rw [hemoji, Option.map_some, Option.getD_some, List.mem_append] at hc
              exact .inr (hc.elim (emoji?_glyphs hemoji c) (hform c))
            | none =>
              rw [hemoji, Option.map_none, Option.getD_none] at hc
              rw [hused, ← List.cons_append]
              exact .inl (List.mem_append_left _ hc)
          · refine (ih code.rest c hc).imp_left fun hmem => ?_
            rw [hused]
            exact List.mem_cons_of_mem _ (List.mem_append_right used hmem)
      · rw [replaceCodes_char fuel hd] at hc
        exact hcons hc

/-! ## Texts -/

/-- A text is shown without emoji just if no code of it names one. -/
theorem withEmoji_cases (t : Text) :
    (Uncoded t ∧ withEmoji t = t) ∨ (¬Uncoded t ∧ active (withEmoji t) < active t) := by
  unfold withEmoji
  split
  · exact replaceCodes_cases t.length t (Nat.le_refl _)
  · rename_i hcolon
    exact .inl ⟨uncoded_of_not_mem (by simpa using hcolon), rfl⟩

theorem active_withEmoji_le (t : Text) : active (withEmoji t) ≤ active t :=
  (withEmoji_cases t).elim (fun h => Nat.le_of_eq (congrArg active h.2)) fun h => Nat.le_of_lt h.2

theorem mem_withEmoji {t : Text} {c : Char} (h : c ∈ withEmoji t) : c ∈ t ∨ isGlyph c = true := by
  unfold withEmoji at h
  split at h
  · exact mem_replaceCodes t.length t c h
  · exact .inl h

theorem withEmoji_cons {c : Char} (hc : c ≠ ':') (t : Text) : withEmoji (c :: t) = c :: withEmoji t := by
  have hcontains : (c :: t).contains ':' = t.contains ':' := by
    rw [List.contains_cons, beq_false_of_ne hc.symm, Bool.false_or]
  rw [withEmoji, withEmoji, hcontains]
  split
  · exact replaceCodes_char t.length hc
  · rfl

end DryRun.Console
