import DryRun.Proofs.Console.Emoji
import DryRun.Proofs.Console.Markup

/-!
# Texts that stand for themselves

A text with markup is shown as it is just if it is `Literal`: no tag stands in it, no bracket follows a backslash
and no code names an emoji. In a text that is not, some of the characters that begin markup are lost
(`plain_cases`).
-/

namespace DryRun.Markup

open Console Text

variable {evaluates : Text → Bool}

/-! ## Tags -/

/-- What may stand between the brackets of a tag. -/
def IsBody (body : Text) : Prop := ∃ c b, body = c :: b ∧ beginsTag c = true ∧ '[' ∉ b ∧ ']' ∉ b

/-- A tag with its brackets. -/
def IsTag (s : Text) : Prop := ∃ body, IsBody body ∧ s = '[' :: (body ++ [']'])

theorem takeWhile_all {p : Char → Bool} {t : Text} (h : ∀ c ∈ t, p c = true) : t.takeWhile p = t := by
  have hnil : (t ++ []).takeWhile p = t ++ [].takeWhile p := List.takeWhile_append_of_pos h
  rwa [List.takeWhile_nil, List.append_nil] at hnil

theorem tagBody?_eq_some_iff {t body after : Text} :
    tagBody? t = some (body, after) ↔ IsBody body ∧ t = body ++ ']' :: after := by
  constructor
  · intro h
    cases t with
    | nil => cases h
    | cons c t =>
      rw [tagBody?] at h
      split at h
      · rename_i hc
        rcases split_first (fun d => d != '[' && d != ']') t with hall | ⟨b, d, y, rfl, hb, hd⟩
        · dsimp only at h
          rw [takeWhile_all hall, List.drop_length] at h
          cases h
        · dsimp only at h
          rw [takeWhile_first hb hd, List.drop_left] at h
          split at h
          · rename_i rest hrest
            obtain ⟨rfl, rfl⟩ := List.cons.inj hrest
            cases h
            refine ⟨⟨c, b, rfl, hc, fun hm => ?_, fun hm => ?_⟩, rfl⟩
            · exact absurd (hb _ hm) (by decide)
            · exact absurd (hb _ hm) (by decide)
          · cases h
      · cases h
  · rintro ⟨⟨c, b, rfl, hc, hopen, hclose⟩, rfl⟩
    have hb : ∀ d ∈ b, (d != '[' && d != ']') = true := by
      intro d hd
      rw [Bool.and_eq_true, bne_iff_ne, bne_iff_ne]
      exact ⟨fun h => hopen (h ▸ hd), fun h => hclose (h ▸ hd)⟩
    rw [List.cons_append, tagBody?, if_pos hc]
    dsimp only
    rw [takeWhile_first hb (by decide), List.drop_left]
    rfl

/-- No tag stands in the text. -/
def Untagged (t : Text) : Prop := ∀ s, IsTag s → ¬s <:+: t

theorem untagged_nil : Untagged [] := by
  rintro s ⟨body, -, rfl⟩ h
  cases List.infix_nil.1 h

/-- A tag begins with its bracket. -/
theorem untagged_cons {c : Char} {t : Text} (h : c = '[' → tagBody? t = none) :
    Untagged (c :: t) ↔ Untagged t := by
  constructor
  · exact fun huntagged s hs hinside => huntagged s hs (List.infix_cons hinside)
  · intro huntagged s hs hinside
    rcases List.infix_cons_iff.1 hinside with ⟨after, hstart⟩ | hinside
    · obtain ⟨body, hbody, rfl⟩ := hs
      obtain ⟨hc, ht⟩ := List.cons.inj hstart
      have hsome := tagBody?_eq_some_iff.2 ⟨hbody, ht.symm.trans (List.append_assoc body [']'] after)⟩
      rw [h hc.symm] at hsome
      cases hsome
    · exact huntagged s hs hinside

theorem untagged_slashes (n : Nat) (t : Text) : Untagged (List.replicate n '\\' ++ t) ↔ Untagged t := by
  induction n with
  | zero => rfl
  | succ n ih =>
    rw [List.replicate_succ, List.cons_append, untagged_cons (fun h => absurd h (by decide)), ih]

theorem untagged_of_not_mem {t : Text} (h : '[' ∉ t) : Untagged t := by
  rintro s ⟨body, -, rfl⟩ hinside
  exact h (hinside.subset List.mem_cons_self)

/-! ## Escapes -/

theorem unescape_cons {c : Char} {t : Text} (h : c = '\\' → t.head? ≠ some '[') :
    unescape (c :: t) = c :: unescape t := by
  rw [unescape]
  rintro rest rfl rfl
  exact h rfl rfl

theorem unescape_sublist (t : Text) : (unescape t).Sublist t := by
  fun_induction unescape t with
  | case1 => exact .slnil
  | case2 rest ih => exact (ih.cons_cons '[').cons '\\'
  | case3 c rest _ ih => exact ih.cons_cons c

theorem active_le_of_sublist {a b : Text} (h : a.Sublist b) : active a ≤ active b := h.countP_le

/-- No bracket follows a backslash, or a backslash is lost. -/
theorem unescape_cases (t : Text) : (¬['\\', '['] <:+: t ∧ unescape t = t) ∨
    (['\\', '['] <:+: t ∧ active (unescape t) < active t) := by
  fun_induction unescape t with
  | case1 => exact .inl ⟨by simp, rfl⟩
  | case2 rest ih =>
    refine .inr ⟨⟨[], rest, rfl⟩, ?_⟩
    have hrest := active_le_of_sublist (unescape_sublist rest)
    rw [active_cons, active_cons, active_cons, if_pos (by decide), if_pos (by decide)]
    omega
  | case3 c rest hescape ih =>
    have hstart : ¬['\\', '['] <+: c :: rest := by
      rintro ⟨after, h⟩
      obtain ⟨rfl, rfl⟩ := List.cons.inj h
      exact hescape after rfl rfl
    rw [List.infix_cons_iff, or_iff_right hstart]
    refine ih.imp (fun h => ⟨h.1, congrArg _ h.2⟩) fun h => ⟨h.1, ?_⟩
    rw [active_cons, active_cons]
    exact Nat.add_lt_add_right h.2 _

theorem unescape_append_spaces {lead : Text} (h : ∀ c ∈ lead, c = ' ') (t : Text) :
    unescape (lead ++ t) = lead ++ unescape t := by
  induction lead with
  | nil => rfl
  | cons c lead ih =>
    rw [List.forall_mem_cons] at h
    rw [List.cons_append, unescape_cons (fun hc => absurd (h.1.symm.trans hc) (by decide)), ih h.2, List.cons_append]

/-! ## One step of reading -/

theorem eq_replicate_of_slashes {w : Text} (h : ∀ c ∈ w, (c == '\\') = true) :
    w = List.replicate w.length '\\' :=
  List.eq_replicate_of_mem fun c hc => eq_of_beq (h c hc)

/-- Backslashes without a tag after them are passed over. -/
theorem piecesFrom_slashes {c : Char} {t w v : Text} (hw : ∀ c ∈ w, (c == '\\') = true) (hne : w ≠ [])
    (htake : (c :: t).takeWhile (· == '\\') = w) (hdrop : (c :: t).drop w.length = v)
    (hahead : tagAhead? (c :: t) = none) (fuel position : Nat) (pending : Text) :
    piecesFrom (fuel + 1) position pending (c :: t) =
      piecesFrom fuel (position + w.length) (w.reverse ++ pending) v := by
  have hreverse : w.reverse = w := by
    rw [eq_replicate_of_slashes hw, List.reverse_replicate]
  rw [piecesFrom_skip fuel position pending hahead]
  dsimp only
  rw [htake, hdrop, if_neg (by simpa using hne), hreverse]

/-- What stands ahead: a tag after backslashes, or no tag and a part that is passed over. -/
theorem piecesFrom_ahead (c : Char) (t : Text) :
    (∃ n body after, tagAhead? (c :: t) = some (n, body, after) ∧ IsBody body ∧
      c :: t = List.replicate n '\\' ++ '[' :: (body ++ ']' :: after)) ∨
    ∃ u v, u ≠ [] ∧ c :: t = u ++ v ∧ (Untagged (c :: t) ↔ Untagged v) ∧ ∀ fuel position pending,
      piecesFrom (fuel + 1) position pending (c :: t) =
        piecesFrom fuel (position + u.length) (u.reverse ++ pending) v := by
  rcases split_first (· == '\\') (c :: t) with hall | ⟨w, d, y, hsplit, hw, hd⟩
  · have htake := takeWhile_all hall
    have hdrop : (c :: t).drop (c :: t).length = [] := List.drop_length
    have hahead : tagAhead? (c :: t) = none := by
      rw [tagAhead?, htake, hdrop]
    refine .inr ⟨c :: t, [], by simp, by simp, ?_, piecesFrom_slashes hall (by simp) htake hdrop hahead⟩
    have hslashes := untagged_slashes (c :: t).length []
    rwa [← eq_replicate_of_slashes hall, List.append_nil] at hslashes
  · have htake : (c :: t).takeWhile (· == '\\') = w := by rw [hsplit, takeWhile_first hw hd]
    have hdrop : (c :: t).drop w.length = d :: y := by rw [hsplit, List.drop_left]
    have hahead : tagAhead? (c :: t) =
        if d = '[' then (tagBody? y).map fun r => (w.length, r) else none := by
      rw [tagAhead?, htake, hdrop]
      split
      · rename_i heq
        obtain ⟨rfl, rfl⟩ := List.cons.inj heq
        rw [if_pos rfl]
      · rename_i hopen
        rw [if_neg fun hd => hopen y (by rw [hd])]
    by_cases htag : d = '[' ∧ tagBody? y ≠ none
    · obtain ⟨rfl, hbody⟩ := htag
      obtain ⟨⟨body, after⟩, hr⟩ := Option.ne_none_iff_exists'.1 hbody
      obtain ⟨hisBody, rfl⟩ := tagBody?_eq_some_iff.1 hr
      refine .inl ⟨w.length, body, after, ?_, hisBody, ?_⟩
      · rw [hahead, if_pos rfl, hr, Option.map_some]
      · rw [← eq_replicate_of_slashes hw, hsplit]
    · have htag : d = '[' → tagBody? y = none := fun hd => Classical.not_not.1 fun hbody => htag ⟨hd, hbody⟩
      have hnone : tagAhead? (c :: t) = none := by
        rw [hahead]
        split
        · rw [htag ‹_›, Option.map_none]
        · rfl
      cases w with
      | nil =>
        obtain ⟨rfl, rfl⟩ := List.cons.inj hsplit
        refine .inr ⟨[c], t, by simp, rfl, untagged_cons htag, fun fuel position pending => ?_⟩
        rw [piecesFrom_skip fuel position pending hnone]
        dsimp only
        rw [htake]
        rfl
      | cons e w =>
        refine .inr ⟨e :: w, d :: y, by simp, hsplit, ?_, piecesFrom_slashes hw (by simp) htake hdrop hnone⟩
        rw [hsplit, eq_replicate_of_slashes hw, untagged_slashes]

/-! ## What is shown of a text -/

/-- The text of a piece before codes are replaced. -/
def Piece.raw : Piece → Text
  | .text t => t
  | .tag _ _ => []

/-- The text of a piece. -/
def Piece.shown : Piece → Text
  | .text t => withEmoji t
  | .tag _ _ => []

theorem flatMap_raw_plainPiece (t : Text) : (plainPiece t).flatMap Piece.raw = t := by
  unfold plainPiece
  split
  · exact (List.isEmpty_iff.1 ‹_›).symm
  · exact List.append_nil t

/-- What is left of a tag after backslashes: half of them, and the tag itself if their number is odd. -/
def leftOf (n : Nat) (body : Text) : Text :=
  List.replicate (n / 2) '\\' ++ if n % 2 == 0 then [] else '[' :: (body ++ [']'])

theorem leftOf_sublist (n : Nat) (body : Text) :
    (leftOf n body).Sublist (List.replicate n '\\' ++ '[' :: (body ++ [']'])) := by
  refine List.Sublist.append (List.replicate_sublist_replicate '\\' |>.2 (Nat.div_le_self n 2)) ?_
  split
  · exact List.nil_sublist _
  · exact List.Sublist.refl _

theorem active_leftOf_lt (n : Nat) (body : Text) :
    active (leftOf n body) < active (List.replicate n '\\' ++ '[' :: (body ++ [']'])) := by
  have hslashes (k : Nat) : active (List.replicate k '\\') = k := by
    rw [active, List.countP_replicate, if_pos (by decide)]
  have hopen : active ('[' :: (body ++ [']'])) = active body + 1 := by
    rw [active_cons, active_append, if_pos (by decide)]
    rfl
  rw [leftOf, active_append, active_append, hslashes, hslashes, hopen]
  split
  · rw [active_nil]
    omega
  · rename_i hodd
    have hodd : n % 2 ≠ 0 := by simpa using hodd
    rw [hopen]
    omega

theorem flatMap_raw_tag {fuel : Nat} {c : Char} {t : Text} {n : Nat} {body after : Text}
    (hahead : tagAhead? (c :: t) = some (n, body, after)) (position : Nat) (pending : Text) :
    (piecesFrom (fuel + 1) position pending (c :: t)).flatMap Piece.raw =
      unescape pending.reverse ++ (leftOf n body ++
        (piecesFrom fuel (position + n + body.length + 2) [] after).flatMap Piece.raw) := by
  have hleft : leftOf n body = List.replicate (n / 2) '\\' ++
      List.flatMap Piece.raw
        (if n % 2 == 0 then [.tag body (position + n)] else [.text ('[' :: body ++ [']'])]) := by
    rw [leftOf]
    split
    · rfl
    · simp [Piece.raw]
  rw [piecesFrom_tag fuel position pending hahead, hleft]
  simp only [List.flatMap_append, flatMap_raw_plainPiece, List.append_assoc]

/-- A text without tags is one piece; otherwise a bracket or a backslash is lost. Nothing is added. -/
theorem piecesFrom_cases {fuel : Nat} {t : Text} (hfuel : t.length ≤ fuel) (position : Nat) (pending : Text) :
    ((piecesFrom fuel position pending t).flatMap Piece.raw).Sublist (pending.reverse ++ t) ∧
    ((Untagged t ∧ piecesFrom fuel position pending t = plainPiece (unescape (pending.reverse ++ t))) ∨
      (¬Untagged t ∧ active ((piecesFrom fuel position pending t).flatMap Piece.raw) <
        active (pending.reverse ++ t))) := by
  induction fuel generalizing t position pending with
  | zero =>
    rw [List.length_eq_zero_iff.1 (Nat.le_zero.1 hfuel), piecesFrom, flatMap_raw_plainPiece, List.append_nil]
    exact ⟨unescape_sublist _, .inl ⟨untagged_nil, rfl⟩⟩
  | succ fuel ih =>
    cases t with
    | nil =>
      rw [piecesFrom, flatMap_raw_plainPiece, List.append_nil]
      exact ⟨unescape_sublist _, .inl ⟨untagged_nil, rfl⟩⟩
    | cons c t =>
      obtain ⟨n, body, after, hahead, hbody, hsplit⟩ | ⟨u, v, hu, hsplit, huntagged, hstep⟩ :=
        piecesFrom_ahead c t
      · have hlength : after.length ≤ fuel := by
          rw [hsplit] at hfuel
          simp only [List.length_append, List.length_cons] at hfuel
          omega
        obtain ⟨hrest, -⟩ := ih hlength (position + n + body.length + 2) []
        have hwhole : c :: t = (List.replicate n '\\' ++ '[' :: (body ++ [']'])) ++ after := by
          simp [hsplit]
        have htagged : ¬Untagged (c :: t) := fun h =>
          h _ ⟨body, hbody, rfl⟩ ⟨List.replicate n '\\', after, hwhole.symm⟩
        rw [flatMap_raw_tag hahead]
        refine ⟨?_, .inr ⟨htagged, ?_⟩⟩
        · rw [hwhole]
          exact (unescape_sublist _).append ((leftOf_sublist n body).append hrest)
        · have hpending := active_le_of_sublist (unescape_sublist pending.reverse)
          have hafter : active (List.flatMap Piece.raw _) ≤ active after := active_le_of_sublist hrest
          have htag := active_leftOf_lt n body
          rw [hwhole, active_append, active_append, active_append, active_append _ after]
          omega
      · have hlength : v.length ≤ fuel := by
          have := List.length_pos_iff.2 hu
          rw [hsplit, List.length_append] at hfuel
          omega
        have hrest := ih hlength (position + u.length) (u.reverse ++ pending)
        rw [List.reverse_append, List.reverse_reverse, List.append_assoc, ← hsplit] at hrest
        rw [hstep, huntagged]
        exact hrest

/-- Showing pieces adds nothing but emoji. -/
theorem active_shown_le (ps : List Piece) : active (ps.flatMap Piece.shown) ≤ active (ps.flatMap Piece.raw) := by
  induction ps with
  | nil => exact Nat.le_refl _
  | cons p ps ih =>
    have hp : active p.shown ≤ active p.raw := by
      cases p with
      | text t => exact active_withEmoji_le t
      | tag => exact Nat.le_refl _
    rw [List.flatMap_cons, List.flatMap_cons, active_append, active_append]
    exact Nat.add_le_add hp ih

theorem mem_shown {ps : List Piece} {c : Char} (h : c ∈ ps.flatMap Piece.shown) :
    c ∈ ps.flatMap Piece.raw ∨ isGlyph c = true := by
  obtain ⟨p, hp, hc⟩ := List.mem_flatMap.1 h
  cases p with
  | text t => exact (mem_withEmoji hc).imp_left fun hm => List.mem_flatMap.2 ⟨_, hp, hm⟩
  | tag => cases hc

theorem plainFrom_shown {opened : List Tag} {ps : List Piece} {t : Text} (h : plainFrom evaluates opened ps = .ok t) :
    t = ps.flatMap Piece.shown := by
  induction ps generalizing opened t with
  | nil =>
    cases h
    rfl
  | cons p ps ih =>
    rw [List.flatMap_cons]
    cases p with
    | text u =>
      obtain ⟨v, hv, rfl⟩ := plainFrom_text.1 h
      rw [ih hv, Piece.shown]
    | tag body position =>
      obtain ⟨_, -, hrest⟩ | ⟨_, _, -, -, -, hrest⟩ | ⟨_, _, _, -, -, -, hrest⟩ := plainFrom_tag.1 h
      all_goals exact ih hrest

theorem plainFrom_plainPiece {opened : List Tag} {u t : Text} {ps : List Piece} :
    plainFrom evaluates opened (plainPiece u ++ ps) = .ok t ↔
      ∃ v, plainFrom evaluates opened ps = .ok v ∧ withEmoji u ++ v = t := by
  unfold plainPiece
  split
  · rename_i hempty
    rw [List.isEmpty_iff.1 hempty, List.nil_append]
    exact ⟨fun h => ⟨t, h, rfl⟩, fun ⟨v, hv, hvt⟩ => hvt ▸ hv⟩
  · exact plainFrom_text

/-- Only escapes and codes are read in a text without tags. -/
theorem plainFrom_untagged {t p : Text} (h : Untagged t) :
    plainFrom evaluates [] (pieces t) = .ok p ↔ p = withEmoji (unescape t) := by
  obtain ⟨-, ⟨-, hpieces⟩ | ⟨htagged, -⟩⟩ := piecesFrom_cases (Nat.le_refl t.length) 0 []
  · rw [pieces, hpieces, ← List.append_nil (plainPiece _), plainFrom_plainPiece]
    constructor
    · rintro ⟨v, hv, rfl⟩
      cases hv
      exact List.append_nil _
    · rintro rfl
      exact ⟨[], rfl, List.append_nil _⟩
  · exact absurd h htagged

theorem Untagged.looksUp {t : Text} (h : Untagged t) : LooksUp t := by
  obtain ⟨-, ⟨-, hpieces⟩ | ⟨htagged, -⟩⟩ := piecesFrom_cases (Nat.le_refl t.length) 0 []
  · rw [LooksUp, pieces, hpieces, bodies_plainPiece]
    exact List.forall_mem_nil _
  · exact absurd h htagged

/-- Whether a text without tags can be shown does not depend on what stands in it. -/
theorem Untagged.shows {t : Text} (h : Untagged t) : Shows evaluates t :=
  ⟨matched_of_plainFrom ((plainFrom_untagged h).2 rfl), h.looksUp⟩

/-! ## Literal texts -/

/-- No markup is read in the text. -/
structure Literal (t : Text) : Prop where
  untagged : Untagged t
  unescaped : ¬['\\', '['] <:+: t
  uncoded : Uncoded t

/-- A text in which nothing begins markup is literal. -/
theorem literal_of_inactive {t : Text} (h : ∀ c ∈ t, isActive c = false) : Literal t := by
  have hnot {c : Char} (hc : isActive c = true) : c ∉ t := fun hm => by
    rw [h c hm] at hc
    cases hc
  refine ⟨untagged_of_not_mem (hnot (by decide)), fun hinside => ?_, uncoded_of_not_mem (hnot (by decide))⟩
  exact hnot (c := '[') (by decide) (hinside.subset (by simp))

theorem shows_of_inactive {t : Text} (h : ∀ c ∈ t, isActive c = false) : Shows evaluates t :=
  (literal_of_inactive h).untagged.shows

/-- All characters of the text are printable ASCII. -/
def Printable (t : Text) : Prop := ∀ c ∈ t, 32 ≤ c.toNat ∧ c.toNat < 127

instance (t : Text) : Decidable (Printable t) := inferInstanceAs (Decidable (∀ c ∈ t, _))

/-- A space, or a character that is neither blank nor a control character. -/
def isPlaced (c : Char) : Bool := c == ' ' || (32 < c.toNat && !isBlank c)

theorem isPlaced_of_printable {c : Char} (hlow : 32 ≤ c.toNat) (hhigh : c.toNat < 127) : isPlaced c = true :=
  of_ascii (P := fun c => 32 ≤ c.toNat → c.toNat < 127 → isPlaced c = true) (by decide +kernel)
    (by omega) hlow hhigh

theorem Printable.isPlaced {t : Text} (h : Printable t) : ∀ c ∈ t, isPlaced c = true := fun c hc =>
  isPlaced_of_printable (h c hc).1 (h c hc).2

theorem isPlaced_of_isGlyph {c : Char} (h : isGlyph c = true) : isPlaced c = true := by
  rw [isGlyph, Bool.and_eq_true] at h
  rw [isPlaced, h.1, Bool.or_true]

theorem isUnshown_of_isPlaced {c : Char} (h : isPlaced c = true) : isUnshown c = false := by
  rw [isPlaced, Bool.or_eq_true, beq_iff_eq, Bool.and_eq_true, decide_eq_true_eq] at h
  rcases h with rfl | ⟨h, -⟩
  · rfl
  · simp [isUnshown]
    omega

theorem plain_eq_ok {t p : Text} : plain evaluates t = .ok p ↔
    ∃ u, plainFrom evaluates [] (pieces t) = .ok u ∧ u.filter (!isUnshown ·) = p := by
  rw [plain]
  cases plainFrom evaluates [] (pieces t) <;> simp [Except.map]

section Plain

variable {t : Text} (ht : Printable t) {p : Text}

include ht

/-- Only spaces and visible characters are shown of printable texts. -/
theorem isPlaced_of_mem_shown {c : Char} (hc : c ∈ (pieces t).flatMap Piece.shown) : isPlaced c = true := by
  rcases mem_shown hc with hc | hc
  · have hsublist := (piecesFrom_cases (Nat.le_refl t.length) 0 []).1
    exact ht.isPlaced c (hsublist.subset hc)
  · exact isPlaced_of_isGlyph hc

theorem isPlaced_shown (h : plainFrom evaluates [] (pieces t) = .ok p) : ∀ c ∈ p, isPlaced c = true := by
  intro c hc
  rw [plainFrom_shown h] at hc
  exact isPlaced_of_mem_shown ht hc

/-- A printable text is drawn on one line. -/
theorem isOneLine_of_printable : isOneLine t = true := by
  rw [isOneLine, List.all_eq_true]
  intro piece hpiece
  cases piece with
  | tag => rfl
  | text u =>
    refine List.all_eq_true.2 fun c hc => ?_
    have hshown : c ∈ (pieces t).flatMap Piece.shown :=
      List.mem_flatMap.2 ⟨_, hpiece, (List.mem_filter.1 hc).1⟩
    have hplaced := isPlaced_of_mem_shown ht hshown
    rw [Bool.and_eq_true, bne_iff_ne, bne_iff_ne]
    constructor <;> (rintro rfl; cases hplaced)

/-- Nothing of what the pieces show is left out. -/
theorem plain_eq_ok_of_printable : plain evaluates t = .ok p ↔ plainFrom evaluates [] (pieces t) = .ok p := by
  have hfilter {u : Text} (hu : plainFrom evaluates [] (pieces t) = .ok u) : u.filter (!isUnshown ·) = u :=
    List.filter_eq_self.2 fun c hc => by simp [isUnshown_of_isPlaced (isPlaced_shown ht hu c hc)]
  rw [plain_eq_ok]
  constructor
  · rintro ⟨u, hu, rfl⟩
    rw [hu, hfilter hu]
  · exact fun h => ⟨p, h, hfilter h⟩

theorem isPlaced_plain (h : plain evaluates t = .ok p) : ∀ c ∈ p, isPlaced c = true :=
  isPlaced_shown ht ((plain_eq_ok_of_printable ht).1 h)

/-- A text is shown as it is, or some of the characters that begin markup are lost. -/
theorem plain_cases (h : plain evaluates t = .ok p) :
    (Literal t ∧ p = t) ∨ (¬Literal t ∧ active p < active t) := by
  have hp := (plain_eq_ok_of_printable ht).1 h
  obtain ⟨-, ⟨huntagged, -⟩ | ⟨htagged, hlost⟩⟩ := piecesFrom_cases (Nat.le_refl t.length) 0 []
  · rw [(plainFrom_untagged huntagged).1 hp]
    obtain ⟨hunescaped, hsame⟩ | ⟨hescaped, hlost⟩ := unescape_cases t
    · rw [hsame]
      exact (withEmoji_cases t).imp (fun h => ⟨⟨huntagged, hunescaped, h.1⟩, h.2⟩)
        fun h => ⟨fun hliteral => h.1 hliteral.uncoded, h.2⟩
    · have hle := active_withEmoji_le (unescape t)
      exact .inr ⟨fun h => h.unescaped hescaped, Nat.lt_of_le_of_lt hle hlost⟩
  · rw [plainFrom_shown hp]
    exact .inr ⟨fun h => htagged h.untagged, Nat.lt_of_le_of_lt (active_shown_le _) hlost⟩

theorem Literal.plain (h : Literal t) : Markup.plain evaluates t = .ok t := by
  rw [plain_eq_ok_of_printable ht, plainFrom_untagged h.untagged]
  obtain ⟨-, hunescape⟩ | ⟨hescaped, -⟩ := unescape_cases t
  · obtain ⟨-, hemoji⟩ | ⟨hcoded, -⟩ := withEmoji_cases t
    · rw [hunescape, hemoji]
    · exact absurd h.uncoded hcoded
  · exact absurd hescaped h.unescaped

/-- A text stands for itself just if no markup is read in it. -/
theorem plain_eq_self_iff : Markup.plain evaluates t = .ok t ↔ Literal t := by
  refine ⟨fun h => ?_, Literal.plain ht⟩
  obtain ⟨hliteral, -⟩ | ⟨-, hlost⟩ := plain_cases ht h
  · exact hliteral
  · exact absurd hlost (Nat.lt_irrefl _)

end Plain

end DryRun.Markup
