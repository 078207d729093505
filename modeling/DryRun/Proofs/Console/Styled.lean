import DryRun.Console.Wrap
import DryRun.Proofs.Console.Literal

/-!
# Texts after a label in a style

A label in a style, such as `[red]Dropped:[/red]`, opens and closes its tag, so that what follows it is read as
it would be read alone (`plain_labelled`), and can be shown just if it can be shown alone (`shows_labelled`).
-/

namespace DryRun.Markup

open Console Text

variable {evaluates : Text → Bool}

/-! ## Passing over plain text -/

section Passing

variable (fuel position : Nat) (pending : Text)

theorem tagAhead?_here {body : Text} (h : IsBody body) (after : Text) :
    tagAhead? ('[' :: (body ++ ']' :: after)) = some (0, body, after) := by
  have hbody : tagBody? (body ++ ']' :: after) = some (body, after) := tagBody?_eq_some_iff.2 ⟨h, rfl⟩
  change (tagBody? (body ++ ']' :: after)).map (fun r => (0, r)) = _
  rw [hbody, Option.map_some]

theorem piecesFrom_here {body : Text} (h : IsBody body) (after : Text) :
    piecesFrom (fuel + 1) position pending ('[' :: (body ++ ']' :: after)) =
      plainPiece (unescape pending.reverse) ++
        .tag body position :: piecesFrom fuel (position + body.length + 2) [] after := by
  rw [piecesFrom_tag fuel position pending (tagAhead?_here h after)]
  simp [plainPiece]

/-- Neither a bracket nor a backslash stands in the text. -/
def IsPassed (t : Text) : Prop := ∀ c ∈ t, c ≠ '[' ∧ c ≠ '\\'

instance (t : Text) : Decidable (IsPassed t) := inferInstanceAs (Decidable (∀ c ∈ t, _))

theorem isPassed_of_inactive {t : Text} (h : ∀ c ∈ t, isActive c = false) : IsPassed t := by
  intro c hc
  have hinactive := h c hc
  constructor <;> (rintro rfl; exact absurd hinactive (by decide))

theorem piecesFrom_passed {t : Text} (h : IsPassed t) (rest : Text) :
    piecesFrom (fuel + t.length) position pending (t ++ rest) =
      piecesFrom fuel (position + t.length) (t.reverse ++ pending) rest := by
  induction t generalizing position pending with
  | nil => rfl
  | cons c t ih =>
    obtain ⟨⟨hbracket, hslash⟩, ht⟩ := List.forall_mem_cons.1 h
    have htake : (c :: (t ++ rest)).takeWhile (· == '\\') = [] := by
      rw [List.takeWhile_cons, if_neg (by simpa using hslash)]
    have hahead : tagAhead? (c :: (t ++ rest)) = none := by
      rw [tagAhead?, htake, List.length_nil, List.drop_zero]
      split
      · rename_i heq
        exact absurd (List.cons.inj heq).1 hbracket
      · rfl
    rw [List.cons_append, List.length_cons, ← Nat.add_assoc, piecesFrom_skip _ _ _ hahead]
    dsimp only
    rw [htake, if_pos (by decide), ih _ _ ht]
    simp [Nat.add_assoc, Nat.add_comm 1]

theorem unescape_passed {t : Text} (h : IsPassed t) : unescape t = t := by
  obtain ⟨-, hsame⟩ | ⟨hescaped, -⟩ := unescape_cases t
  · exact hsame
  · exact absurd rfl (h '[' (hescaped.subset (by simp))).1

end Passing

/-! ## Places and spaces before a text -/

theorem withEmoji_spaces (n : Nat) (t : Text) : withEmoji (spaces n ++ t) = spaces n ++ withEmoji t := by
  induction n with
  | zero => rfl
  | succ n ih =>
    rw [spaces, List.replicate_succ, List.cons_append, withEmoji_cons (by decide)]
    exact congrArg _ ih

theorem unescape_spaces (n : Nat) (t : Text) : unescape (spaces n ++ t) = spaces n ++ unescape t :=
  unescape_append_spaces (fun _ hc => List.eq_of_mem_replicate hc) t

theorem reverse_append_spaces (n : Nat) (t : Text) : (t ++ spaces n).reverse = spaces n ++ t.reverse := by
  rw [List.reverse_append, spaces, List.reverse_replicate]

theorem piecesFrom_end (fuel position : Nat) (pending : Text) :
    piecesFrom fuel position pending [] = plainPiece (unescape pending.reverse) := by
  cases fuel <;> rfl

/-- What a tag after backslashes does to what follows it does not depend on its place. -/
theorem plainFrom_tag_congr {ps ps' : List Piece}
    (h : ∀ opened p, plainFrom evaluates opened ps = .ok p ↔ plainFrom evaluates opened ps' = .ok p) (n : Nat)
    (body : Text) (position position' : Nat) (opened : List Tag) (p : Text) :
    plainFrom evaluates opened
        ((if n % 2 == 0 then [.tag body position] else [.text ('[' :: body ++ [']'])]) ++ ps) = .ok p ↔
      plainFrom evaluates opened
        ((if n % 2 == 0 then [.tag body position'] else [.text ('[' :: body ++ [']'])]) ++ ps') = .ok p := by
  split
  · simp only [List.singleton_append, plainFrom_tag, h]
  · simp only [List.singleton_append, plainFrom_text, h]

/-- Spaces before plain text are shown before it. -/
theorem plainFrom_pending {ps ps' : List Piece} {opened : List Tag}
    (h : ∀ p, plainFrom evaluates opened ps = .ok p ↔ plainFrom evaluates opened ps' = .ok p) (n : Nat)
    (pending p : Text) :
    plainFrom evaluates opened (plainPiece (unescape (pending ++ spaces n).reverse) ++ ps) = .ok p ↔
      ∃ u, plainFrom evaluates opened (plainPiece (unescape pending.reverse) ++ ps') = .ok u ∧ spaces n ++ u = p := by
  simp only [plainFrom_plainPiece, reverse_append_spaces, unescape_spaces, withEmoji_spaces, h]
  constructor
  · rintro ⟨v, hv, rfl⟩
    exact ⟨_, ⟨v, hv, rfl⟩, (List.append_assoc _ _ _).symm⟩
  · rintro ⟨_, ⟨v, hv, rfl⟩, rfl⟩
    exact ⟨v, hv, List.append_assoc _ _ _⟩

theorem plainFrom_spaces_end (n fuel fuel' position position' : Nat) (pending : Text) (opened : List Tag)
    (p : Text) : plainFrom evaluates opened (piecesFrom fuel position (pending ++ spaces n) []) = .ok p ↔
      ∃ u, plainFrom evaluates opened (piecesFrom fuel' position' pending []) = .ok u ∧ spaces n ++ u = p := by
  have hnil (p : Text) : plainFrom evaluates opened [] = .ok p ↔ plainFrom evaluates opened [] = .ok p := Iff.rfl
  have hpending := plainFrom_pending hnil n pending p
  rwa [List.append_nil, List.append_nil, ← piecesFrom_end fuel position, ← piecesFrom_end fuel' position']
    at hpending

/-- Spaces before a text are shown before it, and neither its place nor more fuel than it needs matters. -/
theorem plainFrom_spaces (n : Nat) {fuel fuel' : Nat} {t : Text} (hfuel : t.length ≤ fuel)
    (hfuel' : t.length ≤ fuel') (position position' : Nat) (pending : Text) (opened : List Tag) (p : Text) :
    plainFrom evaluates opened (piecesFrom fuel position (pending ++ spaces n) t) = .ok p ↔
      ∃ u, plainFrom evaluates opened (piecesFrom fuel' position' pending t) = .ok u ∧ spaces n ++ u = p := by
  induction fuel generalizing n fuel' t position position' pending opened p with
  | zero =>
    rw [List.length_eq_zero_iff.1 (Nat.le_zero.1 hfuel)]
    exact plainFrom_spaces_end n _ _ _ _ pending opened p
  | succ fuel ih =>
    cases t with
    | nil => exact plainFrom_spaces_end n _ _ _ _ pending opened p
    | cons c t =>
      obtain ⟨fuel', rfl⟩ := Nat.exists_eq_succ_of_ne_zero (Nat.ne_zero_of_lt hfuel')
      obtain ⟨k, body, after, hahead, -, hsplit⟩ | ⟨u, v, hu, hsplit, -, hstep⟩ := piecesFrom_ahead c t
      · have hshorter : after.length < (c :: t).length := by
          rw [hsplit]
          simp only [List.length_append, List.length_cons]
          omega
        have hafter (opened : List Tag) (p : Text) :
            plainFrom evaluates opened (piecesFrom fuel (position + k + body.length + 2) [] after) = .ok p ↔
              plainFrom evaluates opened (piecesFrom fuel' (position' + k + body.length + 2) [] after) = .ok p := by
          have hrest := ih 0 (by omega) (show after.length ≤ fuel' by omega) (position + k + body.length + 2)
            (position' + k + body.length + 2) [] opened p
          simpa [spaces] using hrest
        rw [piecesFrom_tag _ _ _ hahead, piecesFrom_tag _ _ _ hahead]
        simp only [List.append_assoc]
        refine plainFrom_pending (fun p => ?_) n pending p
        rw [plainFrom_plainPiece, plainFrom_plainPiece]
        simp only [plainFrom_tag_congr hafter k body (position + k) (position' + k)]
      · have hshorter : v.length < (c :: t).length := by
          have := List.length_pos_iff.2 hu
          rw [hsplit, List.length_append]
          omega
        rw [hstep, hstep, ← List.append_assoc]
        exact ih n (by omega) (by omega) _ _ _ opened p

/-- The tags of a text depend neither on its place nor on what stands before it. -/
theorem bodies_piecesFrom {fuel fuel' : Nat} {t : Text} (hfuel : t.length ≤ fuel) (hfuel' : t.length ≤ fuel')
    (position position' : Nat) (pending pending' : Text) :
    bodies (piecesFrom fuel position pending t) = bodies (piecesFrom fuel' position' pending' t) := by
  induction fuel generalizing fuel' t position position' pending pending' with
  | zero =>
    rw [List.length_eq_zero_iff.1 (Nat.le_zero.1 hfuel), piecesFrom_end, piecesFrom_end, bodies_plainPiece,
      bodies_plainPiece]
  | succ fuel ih =>
    cases t with
    | nil => rw [piecesFrom_end, piecesFrom_end, bodies_plainPiece, bodies_plainPiece]
    | cons c t =>
      obtain ⟨fuel', rfl⟩ := Nat.exists_eq_succ_of_ne_zero (Nat.ne_zero_of_lt hfuel')
      obtain ⟨k, body, after, hahead, -, hsplit⟩ | ⟨u, v, hu, hsplit, -, hstep⟩ := piecesFrom_ahead c t
      · have hshorter : after.length < (c :: t).length := by
          rw [hsplit]
          simp only [List.length_append, List.length_cons]
          omega
        rw [piecesFrom_tag _ _ _ hahead, piecesFrom_tag _ _ _ hahead]
        simp only [bodies_append, bodies_plainPiece]
        rw [ih (by omega) (show after.length ≤ fuel' by omega)]
        split <;> rfl
      · have hshorter : v.length < (c :: t).length := by
          have := List.length_pos_iff.2 hu
          rw [hsplit, List.length_append]
          omega
        rw [hstep, hstep]
        exact ih (by omega) (by omega) _ _ _ _

theorem matched_iff_plainFrom {t : Text} :
    Matched evaluates [] (pieces t) ↔ ∃ u, plainFrom evaluates [] (pieces t) = .ok u :=
  ⟨Matched.plainFrom, fun ⟨_, hu⟩ => matched_of_plainFrom hu⟩

section Space

variable {t : Text}

theorem pieces_space : pieces (' ' :: t) = piecesFrom t.length 1 [' '] t :=
  piecesFrom_passed t.length 0 [] (List.forall_mem_singleton.2 (by decide)) t

theorem plainFrom_space {u : Text} : plainFrom evaluates [] (pieces (' ' :: t)) = .ok u ↔
    ∃ v, plainFrom evaluates [] (pieces t) = .ok v ∧ ' ' :: v = u := by
  rw [pieces_space]
  exact plainFrom_spaces 1 (Nat.le_refl _) (Nat.le_refl _) 1 0 [] [] u

theorem shows_space : Shows evaluates (' ' :: t) ↔ Shows evaluates t := by
  refine and_congr ?_ ?_
  · rw [matched_iff_plainFrom, matched_iff_plainFrom]
    constructor
    · rintro ⟨u, hu⟩
      obtain ⟨v, hv, -⟩ := plainFrom_space.1 hu
      exact ⟨v, hv⟩
    · rintro ⟨v, hv⟩
      exact ⟨_, plainFrom_space.2 ⟨v, hv, rfl⟩⟩
  · rw [LooksUp, LooksUp, pieces_space, pieces, bodies_piecesFrom (Nat.le_refl _) (Nat.le_refl _)]

end Space

/-! ## Labels -/

/-- A text in a style. -/
def styled (style body : Text) : Text := '[' :: (style ++ ']' :: (body ++ '[' :: '/' :: (style ++ [']'])))

/-- A word in small letters that is the name of its style. -/
def IsStyle (style : Text) : Prop :=
  style ≠ [] ∧ (∀ c ∈ style, ('a' ≤ c && c ≤ 'z') = true) ∧ (styleName style).toOption = some style ∧
    styleFault? style = none

instance (style : Text) : Decidable (IsStyle style) :=
  inferInstanceAs (Decidable (_ ∧ (∀ c ∈ style, _) ∧ _ ∧ _))

namespace IsStyle

variable {style : Text} (h : IsStyle style)

include h

theorem not_mem {c : Char} (hc : ('a' ≤ c && c ≤ 'z') = false) : c ∉ style := fun hm => by
  have := h.2.1 c hm
  rw [hc] at this
  cases this

theorem isBody : IsBody style := by
  cases style with
  | nil => exact absurd rfl h.1
  | cons c b =>
    have hbegins : beginsTag c = true := by
      rw [beginsTag, h.2.1 c List.mem_cons_self]
      rfl
    have hnot {d : Char} (hd : ('a' ≤ d && d ≤ 'z') = false) : d ∉ b := fun hm =>
      h.not_mem hd (List.mem_cons_of_mem c hm)
    exact ⟨c, b, rfl, hbegins, hnot (by decide), hnot (by decide)⟩

theorem isBody_close : IsBody ('/' :: style) :=
  ⟨'/', style, rfl, by decide, h.not_mem (by decide), h.not_mem (by decide)⟩

theorem ne_equals : ∀ c ∈ style, (c != '=') = true := by
  intro c hc
  rw [bne_iff_ne]
  rintro rfl
  exact h.not_mem (by decide) hc

theorem tagName_eq : tagName style = style := takeWhile_all h.ne_equals

theorem tagName_close : tagName ('/' :: style) = '/' :: style := by
  rw [tagName, List.takeWhile_cons, if_pos (by decide)]
  exact congrArg _ h.tagName_eq

theorem isBlankText_eq : isBlankText style = false := by
  cases style with
  | nil => exact absurd rfl h.1
  | cons c b =>
    have hletter := h.2.1 c List.mem_cons_self
    have hascii : c.toNat < 128 := by
      rw [Bool.and_eq_true, decide_eq_true_eq, decide_eq_true_eq] at hletter
      exact Nat.lt_of_le_of_lt hletter.2 (by decide)
    have hblank : isBlank c = false :=
      of_ascii (P := fun c => ('a' ≤ c && c ≤ 'z') = true → isBlank c = false) (by decide +kernel) hascii hletter
    rw [isBlankText, List.all_cons, hblank, Bool.false_and]

theorem styleName_eq : styleName style = .ok style := eq_ok_of_toOption h.2.2.1

theorem readMove_eq : readMove style = .ok (.opens ⟨style, none⟩) := by
  have hrest : style.dropWhile (· != '=') = [] := by
    have hsplit := List.takeWhile_append_dropWhile (p := (· != '=')) (l := style)
    rw [takeWhile_all h.ne_equals] at hsplit
    exact List.append_right_eq_self.1 hsplit
  have hparameters : tagParameters? style = none := by rw [tagParameters?, hrest]
  rw [readMove, h.tagName_eq]
  split
  · exact absurd List.mem_cons_self (h.not_mem (c := '/') (by decide))
  · rw [h.styleName_eq, hparameters]
    rfl

theorem readMove_close : readMove ('/' :: style) = .ok (.closes style) := by
  rw [readMove, h.tagName_close]
  change (if isBlankText style = true then .ok .closesLast else (styleName style).map Move.closes) = _
  rw [h.isBlankText_eq, h.styleName_eq]
  rfl

theorem looksUp : Markup.looksUp style = true := by
  rw [Markup.looksUp, h.readMove_eq]
  exact Option.isNone_iff_eq_none.2 h.2.2.2

theorem looksUp_close : Markup.looksUp ('/' :: style) = true := by
  rw [Markup.looksUp, h.readMove_close]

end IsStyle

section Labels

variable {style : Text} (h : IsStyle style) {opened : List Tag} {p : Text} {ps : List Piece} {position : Nat}

include h

theorem plainFrom_open : plainFrom evaluates opened (.tag style position :: ps) = .ok p ↔
    plainFrom evaluates (⟨style, none⟩ :: opened) ps = .ok p := by
  simp [plainFrom_tag, h.readMove_eq]

theorem plainFrom_close : plainFrom evaluates (⟨style, none⟩ :: opened) (.tag ('/' :: style) position :: ps) = .ok p ↔
    plainFrom evaluates opened ps = .ok p := by
  simp [plainFrom_tag, h.readMove_close, close?, Tag.closes, and_assoc]

/-- The pieces of a text in a style, and of what follows it. -/
theorem piecesFrom_styled {body : Text} (hbody : IsPassed body) {fuel : Nat} {rest : Text}
    (hfuel : (styled style body ++ rest).length ≤ fuel) (position : Nat) (pending : Text) : ∃ close place spare,
      rest.length ≤ spare ∧ piecesFrom fuel position pending (styled style body ++ rest) =
        plainPiece (unescape pending.reverse) ++ .tag style position ::
          (plainPiece body ++ .tag ('/' :: style) close :: piecesFrom spare place [] rest) := by
  have hwhole : styled style body ++ rest =
      '[' :: (style ++ ']' :: (body ++ '[' :: ('/' :: style ++ ']' :: rest))) := by
    simp [styled]
  obtain ⟨spare, rfl⟩ : ∃ spare, fuel = spare + rest.length + 1 + body.length + 1 := by
    rw [hwhole] at hfuel
    simp only [List.length_append, List.length_cons] at hfuel
    exact ⟨fuel - (rest.length + 1 + body.length + 1), by omega⟩
  let close := position + style.length + 2 + body.length
  refine ⟨close, close + ('/' :: style).length + 2, spare + rest.length, Nat.le_add_left _ _, ?_⟩
  rw [hwhole, piecesFrom_here _ _ _ h.isBody, piecesFrom_passed _ _ _ hbody, List.append_nil,
    piecesFrom_here _ _ _ h.isBody_close, List.reverse_reverse, unescape_passed hbody]

/-- A text in a style opens and closes its tag, and what follows is read as it would be read alone. -/
theorem plainFrom_styled {body : Text} (hbody : IsPassed body) {fuel : Nat} {rest : Text}
    (hfuel : (styled style body ++ rest).length ≤ fuel) (pending : Text) :
    plainFrom evaluates opened (piecesFrom fuel position pending (styled style body ++ rest)) = .ok p ↔
      ∃ u, plainFrom evaluates opened (pieces rest) = .ok u ∧
        withEmoji (unescape pending.reverse) ++ (withEmoji body ++ u) = p := by
  obtain ⟨close, place, spare, hspare, hpieces⟩ := piecesFrom_styled h hbody hfuel position pending
  have hrest (u : Text) : plainFrom evaluates opened (piecesFrom spare place [] rest) = .ok u ↔
      plainFrom evaluates opened (pieces rest) = .ok u := by
    have hspaces : plainFrom evaluates opened (piecesFrom spare place ([] ++ spaces 0) rest) = .ok u ↔ _ :=
      plainFrom_spaces 0 hspare (Nat.le_refl rest.length) place 0 [] opened u
    simpa [spaces, pieces] using hspaces
  rw [hpieces]
  simp only [plainFrom_plainPiece, plainFrom_open h, plainFrom_close h, hrest]
  constructor
  · rintro ⟨_, ⟨u, hu, rfl⟩, rfl⟩
    exact ⟨u, hu, rfl⟩
  · rintro ⟨u, hu, rfl⟩
    exact ⟨_, ⟨u, hu, rfl⟩, rfl⟩

/-- Plain text and a text in a style take nothing from what can be shown, and add nothing to it. -/
theorem shows_styled {lead body rest : Text} (hlead : IsPassed lead) (hbody : IsPassed body) :
    Shows evaluates (lead ++ (styled style body ++ rest)) ↔ Shows evaluates rest := by
  have hpieces : pieces (lead ++ (styled style body ++ rest)) =
      piecesFrom (styled style body ++ rest).length (0 + lead.length) (lead.reverse ++ [])
        (styled style body ++ rest) := by
    rw [pieces, List.length_append, Nat.add_comm, piecesFrom_passed _ _ _ hlead]
  refine and_congr ?_ ?_
  · rw [matched_iff_plainFrom, matched_iff_plainFrom, hpieces]
    constructor
    · rintro ⟨p, hp⟩
      obtain ⟨u, hu, -⟩ := (plainFrom_styled h hbody (Nat.le_refl _) _).1 hp
      exact ⟨u, hu⟩
    · rintro ⟨u, hu⟩
      exact ⟨_, (plainFrom_styled h hbody (Nat.le_refl _) _).2 ⟨u, hu, rfl⟩⟩
  · obtain ⟨close, place, spare, hspare, hstyled⟩ :=
      piecesFrom_styled h hbody (Nat.le_refl (styled style body ++ rest).length) (0 + lead.length)
        (lead.reverse ++ [])
    rw [LooksUp, LooksUp, hpieces, hstyled]
    simp only [bodies_append, bodies_plainPiece, bodies_tag, List.nil_append, List.forall_mem_cons, h.looksUp,
      h.looksUp_close, true_and]
    rw [pieces, bodies_piecesFrom hspare (Nat.le_refl _)]

end Labels

/-- A text that can stand in a style: printable, and without markup of its own. -/
structure IsLabel (t : Text) : Prop where
  printable : Printable t
  passed : IsPassed t
  uncoded : withEmoji t = t

section Labelled

variable {style label : Text} (h : IsStyle style) (hlabel : IsLabel label)

include hlabel

theorem filter_label : label.filter (!isUnshown ·) = label :=
  List.filter_eq_self.2 fun c hc => by
    simp [isUnshown_of_isPlaced (hlabel.printable.isPlaced c hc)]

include h

theorem plain_styled : plain evaluates (styled style label) = .ok label := by
  have hpieces : plainFrom evaluates [] (pieces (styled style label ++ [])) = .ok label :=
    (plainFrom_styled h hlabel.passed (Nat.le_refl _) []).2
      ⟨[], rfl, by rw [List.append_nil, hlabel.uncoded]; rfl⟩
  rw [List.append_nil] at hpieces
  exact plain_eq_ok.2 ⟨label, hpieces, filter_label hlabel⟩

theorem looksUp_styled : LooksUp (styled style label) := by
  have hnil : Shows (fun _ => false) [] := ⟨.nil, List.forall_mem_nil _⟩
  have hshows : Shows (fun _ => false) ([] ++ (styled style label ++ [])) :=
    (shows_styled h (List.forall_mem_nil _) hlabel.passed).2 hnil
  rw [List.nil_append, List.append_nil] at hshows
  exact hshows.2

/-- What follows a label is shown as it would be shown alone. -/
theorem plain_labelled {t q : Text} : plain evaluates (styled style label ++ ' ' :: t) = .ok q ↔
    ∃ p, plain evaluates t = .ok p ∧ label ++ ' ' :: p = q := by
  have hfilter (v : Text) : (label ++ ' ' :: v).filter (!isUnshown ·) =
      label ++ ' ' :: v.filter (!isUnshown ·) := by
    rw [List.filter_append, filter_label hlabel]
    rfl
  simp only [plain_eq_ok, pieces, plainFrom_styled h hlabel.passed (Nat.le_refl _), hlabel.uncoded]
  constructor
  · rintro ⟨_, ⟨u, hu, rfl⟩, rfl⟩
    obtain ⟨v, hv, rfl⟩ := plainFrom_space.1 hu
    exact ⟨_, ⟨v, hv, rfl⟩, (hfilter v).symm⟩
  · rintro ⟨_, ⟨v, hv, rfl⟩, rfl⟩
    exact ⟨_, ⟨_, plainFrom_space.2 ⟨v, hv, rfl⟩, rfl⟩, hfilter v⟩

/-- A text can be shown after a label just if it can be shown alone. -/
theorem shows_labelled {t : Text} : Shows evaluates (styled style label ++ ' ' :: t) ↔ Shows evaluates t := by
  rw [← List.nil_append (styled style label ++ ' ' :: t),
    shows_styled h (List.forall_mem_nil _) hlabel.passed, shows_space]

theorem printable_labelled {t : Text} (ht : Printable t) : Printable (styled style label ++ ' ' :: t) := by
  have hstyle : Printable style := fun c hc => by
    have hletter := h.2.1 c hc
    rw [Bool.and_eq_true, decide_eq_true_eq, decide_eq_true_eq] at hletter
    exact ⟨Nat.le_trans (by decide) hletter.1, Nat.lt_of_le_of_lt hletter.2 (by decide)⟩
  intro c hc
  simp only [styled, List.mem_append, List.mem_cons, List.not_mem_nil, or_false] at hc
  rcases hc with (rfl | hc | rfl | hc | rfl | rfl | hc | rfl) | rfl | hc
  · decide
  · exact hstyle c hc
  · decide
  · exact hlabel.printable c hc
  · decide
  · decide
  · exact hstyle c hc
  · decide
  · decide
  · exact ht c hc

end Labelled

end DryRun.Markup
