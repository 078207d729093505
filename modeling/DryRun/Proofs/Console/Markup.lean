import DryRun.Console.Markup
import DryRun.Proofs.Text.Classes

/-!
# Tags that match

`Markup.plain` fails for texts whose tags do not match, and for no others. `Matched` says what that means: a
closing tag closes one that is open, by its style or, without a name, the last one, and the tag that is closed
is no handler without values. A text whose tags match can be drawn if all of them can be looked up
(`LooksUp.drawFault?`), and on one line only then (`drawFault?_eq_none_iff`). A text in which no `[` is
followed by a slash has no closing tag, so that it can be put between `[red]` and `[/red]` (`matched_red`),
unless a backslash at its end takes the closing tag away.
-/

namespace DryRun.Markup

variable {evaluates : Text → Bool}

/-! ## Matching -/

/-- Every closing tag of the pieces closes an open one; `opened` are the tags that are open, the last one
first. -/
inductive Matched (evaluates : Text → Bool) : List Tag → List Piece → Prop
  | nil {opened : List Tag} : Matched evaluates opened []
  | text {opened : List Tag} {t : Text} {rest : List Piece} :
      Matched evaluates opened rest → Matched evaluates opened (.text t :: rest)
  | openTag {opened : List Tag} {tag : Tag} {body : Text} {position : Nat} {rest : List Piece} :
      readMove body = .ok (.opens tag) → Matched evaluates (tag :: opened) rest →
      Matched evaluates opened (.tag body position :: rest)
  | closeLast {opened : List Tag} {tag : Tag} {body : Text} {position : Nat} {rest : List Piece} :
      readMove body = .ok .closesLast → tag.closes evaluates = true → Matched evaluates opened rest →
      Matched evaluates (tag :: opened) (.tag body position :: rest)
  | close {above below : List Tag} {tag : Tag} {body : Text} {position : Nat} {rest : List Piece} :
      readMove body = .ok (.closes tag.name) → (∀ other ∈ above, other.name ≠ tag.name) →
      tag.closes evaluates = true → Matched evaluates (above ++ below) rest →
      Matched evaluates (above ++ tag :: below) (.tag body position :: rest)

theorem close?_eq_some {name : Text} {opened left : List Tag} {tag : Tag} :
    close? name opened = some (tag, left) ↔ ∃ above below, opened = above ++ tag :: below ∧
      (∀ other ∈ above, other.name ≠ name) ∧ tag.name = name ∧ left = above ++ below := by
  induction opened generalizing left with
  | nil => simp [close?]
  | cons first opened ih =>
    rw [close?]
    by_cases hname : first.name = name
    · rw [if_pos (beq_iff_eq.2 hname)]
      constructor
      · rintro ⟨⟩
        exact ⟨[], opened, rfl, by simp, hname, rfl⟩
      · rintro ⟨above, below, hsplit, habove, -, rfl⟩
        cases above with
        | nil =>
          cases hsplit
          rfl
        | cons other above =>
          cases hsplit
          exact absurd hname (habove _ List.mem_cons_self)
    · rw [if_neg (by simpa using hname)]
      constructor
      · intro h
        obtain ⟨⟨closed, kept⟩, hclose, he⟩ := Option.map_eq_some_iff.1 h
        cases he
        obtain ⟨above, below, rfl, habove, htag, rfl⟩ := ih.1 hclose
        exact ⟨first :: above, below, rfl, List.forall_mem_cons.2 ⟨hname, habove⟩, htag, rfl⟩
      · rintro ⟨above, below, hsplit, habove, htag, rfl⟩
        cases above with
        | nil =>
          cases hsplit
          exact absurd htag hname
        | cons other above =>
          cases hsplit
          rw [ih.2 ⟨above, below, rfl, (List.forall_mem_cons.1 habove).2, htag, rfl⟩]
          rfl

theorem closing_eq_ok {tag : Tag} {next : Except Error Text} {t : Text} :
    closing evaluates tag next = .ok t ↔ tag.closes evaluates = true ∧ next = .ok t := by
  rw [closing]
  split
  · rename_i h
    rw [and_iff_right h]
  · rename_i h
    exact iff_of_false (by simp) fun hc => h hc.1

theorem plainFrom_text {opened : List Tag} {u t : Text} {rest : List Piece} :
    plainFrom evaluates opened (.text u :: rest) = .ok t ↔
      ∃ v, plainFrom evaluates opened rest = .ok v ∧ Console.withEmoji u ++ v = t := by
  change (plainFrom evaluates opened rest).map (Console.withEmoji u ++ ·) = .ok t ↔ _
  cases plainFrom evaluates opened rest <;> simp [Except.map]

/-- What a tag can do: open a style, close the last one or close the one that it names. -/
theorem plainFrom_tag {opened : List Tag} {body t : Text} {position : Nat} {rest : List Piece} :
    plainFrom evaluates opened (.tag body position :: rest) = .ok t ↔
      (∃ tag, readMove body = .ok (.opens tag) ∧ plainFrom evaluates (tag :: opened) rest = .ok t) ∨
      (∃ tag below, readMove body = .ok .closesLast ∧ opened = tag :: below ∧ tag.closes evaluates = true ∧
        plainFrom evaluates below rest = .ok t) ∨
      ∃ name tag left, readMove body = .ok (.closes name) ∧ close? name opened = some (tag, left) ∧
        tag.closes evaluates = true ∧ plainFrom evaluates left rest = .ok t := by
  rw [plainFrom.eq_def]
  dsimp only
  cases readMove body with
  | error cause => simp
  | ok move =>
    cases move with
    | opens tag => simp
    | closesLast =>
      cases opened with
      | nil => simp
      | cons tag below => simp [closing_eq_ok, and_assoc]
    | closes name =>
      dsimp only
      cases hclose : close? name opened with
      | none => simp [hclose]
      | some closed => simp [hclose, closing_eq_ok, Prod.ext_iff, and_assoc]

theorem Matched.plainFrom {opened : List Tag} {pieces : List Piece} (h : Matched evaluates opened pieces) :
    ∃ t, plainFrom evaluates opened pieces = .ok t := by
  induction h with
  | nil => exact ⟨[], rfl⟩
  | text _ ih =>
    obtain ⟨u, hu⟩ := ih
    exact ⟨_, plainFrom_text.2 ⟨u, hu, rfl⟩⟩
  | openTag hmove _ ih =>
    obtain ⟨u, hu⟩ := ih
    exact ⟨u, plainFrom_tag.2 (.inl ⟨_, hmove, hu⟩)⟩
  | closeLast hmove hcloses _ ih =>
    obtain ⟨u, hu⟩ := ih
    exact ⟨u, plainFrom_tag.2 (.inr (.inl ⟨_, _, hmove, rfl, hcloses, hu⟩))⟩
  | close hmove habove hcloses _ ih =>
    obtain ⟨u, hu⟩ := ih
    refine ⟨u, plainFrom_tag.2 (.inr (.inr ⟨_, _, _, hmove, ?_, hcloses, hu⟩))⟩
    exact close?_eq_some.2 ⟨_, _, rfl, habove, rfl, rfl⟩

theorem matched_of_plainFrom {opened : List Tag} {pieces : List Piece} {t : Text}
    (h : plainFrom evaluates opened pieces = .ok t) : Matched evaluates opened pieces := by
  induction pieces generalizing opened t with
  | nil => exact .nil
  | cons p rest ih =>
    cases p with
    | text u =>
      obtain ⟨v, hv, -⟩ := plainFrom_text.1 h
      exact .text (ih hv)
    | tag body position =>
      obtain ⟨tag, hmove, hrest⟩ | ⟨tag, below, hmove, rfl, hcloses, hrest⟩ |
        ⟨name, tag, left, hmove, hclose, hcloses, hrest⟩ := plainFrom_tag.1 h
      · exact .openTag hmove (ih hrest)
      · exact .closeLast hmove hcloses (ih hrest)
      · obtain ⟨above, below, rfl, habove, rfl, rfl⟩ := close?_eq_some.1 hclose
        exact .close hmove habove hcloses (ih hrest)

/-- A text has a plain form just if its tags match. -/
theorem plain_eq_ok_iff (t : Text) :
    (∃ shown, plain evaluates t = .ok shown) ↔ Matched evaluates [] (pieces t) := by
  rw [plain]
  constructor
  · rintro ⟨shown, h⟩
    cases hp : plainFrom evaluates [] (pieces t) with
    | ok u => exact matched_of_plainFrom hp
    | error e =>
      rw [hp] at h
      cases h
  · intro h
    obtain ⟨u, hu⟩ := h.plainFrom
    rw [hu]
    exact ⟨_, rfl⟩

/-! ## Styles that can be looked up -/

/-- The bodies of the tags among pieces. -/
def bodies (ps : List Piece) : List Text :=
  ps.filterMap fun
    | .text _ => none
    | .tag body _ => some body

@[simp] theorem bodies_text (t : Text) (ps : List Piece) : bodies (.text t :: ps) = bodies ps := rfl

@[simp] theorem bodies_tag (body : Text) (position : Nat) (ps : List Piece) :
    bodies (.tag body position :: ps) = body :: bodies ps := rfl

@[simp] theorem bodies_append (ps qs : List Piece) : bodies (ps ++ qs) = bodies ps ++ bodies qs :=
  List.filterMap_append

@[simp] theorem bodies_plainPiece (t : Text) : bodies (plainPiece t) = [] := by
  unfold plainPiece
  split <;> rfl

/-- Whether a tag can be looked up: the style that it names, and if it opens one also what is set off. -/
def looksUp (body : Text) : Bool :=
  match readMove body with
  | .error _ => false
  | .ok (.opens tag) => (Console.styleFault? tag.style).isNone
  | .ok _ => true

/-- All tags of a text can be looked up. -/
def LooksUp (t : Text) : Prop := ∀ body ∈ bodies (pieces t), looksUp body = true

instance (t : Text) : Decidable (LooksUp t) := inferInstanceAs (Decidable (∀ body ∈ _, _))

/-- The tags of a text match, and all of them can be looked up. -/
def Shows (evaluates : Text → Bool) (t : Text) : Prop := Matched evaluates [] (pieces t) ∧ LooksUp t

/-- The tags of a text match, and those in whose style something visible is drawn can be looked up. -/
def ShowsVisibly (evaluates : Text → Bool) (t : Text) : Prop :=
  Matched evaluates [] (pieces t) ∧
    ∀ style ∈ stylesWhere (fun tag rest => tag.covers (!Text.isBlank ·) [] rest) (pieces t),
      Console.styleFault? style = none

theorem Tag.covers_of_covers {kind kind' : Char → Bool} (hkind : ∀ c, kind c = true → kind' c = true) {tag : Tag}
    {above : List Tag} {ps : List Piece} (h : tag.covers kind above ps = true) : tag.covers kind' above ps = true := by
  induction ps generalizing above with
  | nil => cases h
  | cons p ps ih =>
    cases p with
    | text t =>
      rw [covers, Bool.or_eq_true, List.any_eq_true] at h ⊢
      exact h.imp (fun ⟨c, hc, hshown⟩ => ⟨c, hc, hkind c hshown⟩) ih
    | tag body position =>
      rw [covers.eq_def] at h ⊢
      dsimp only at h ⊢
      split at h
      · cases h
      · exact ih h
      · split at h
        · cases h
        · exact ih h
      · split at h
        · exact ih h
        · rw [Bool.and_eq_true] at h ⊢
          exact ⟨h.1, ih h.2⟩

theorem mem_stylesWhere {counts counts' : Tag → List Piece → Bool}
    (hcounts : ∀ tag rest, counts tag rest = true → counts' tag rest = true) {ps : List Piece} {style : Text}
    (h : style ∈ stylesWhere counts ps) : style ∈ stylesWhere counts' ps := by
  induction ps with
  | nil => cases h
  | cons p ps ih =>
    cases p with
    | text t => exact ih h
    | tag body position =>
      rw [stylesWhere] at h ⊢
      split at h
      · rcases List.mem_append.1 h with h | h
        · split at h
          · rename_i hcount
            rw [if_pos (hcounts _ _ hcount)]
            exact List.mem_append_left _ h
          · cases h
        · exact List.mem_append_right _ (ih h)
      · exact ih h

/-- What is looked up to draw pieces can be looked up if their tags can. -/
theorem styleFault?_of_looksUp {ps : List Piece} (h : ∀ body ∈ bodies ps, looksUp body = true) :
    ∀ style ∈ stylesWhere (fun _ _ => true) ps, Console.styleFault? style = none := by
  induction ps with
  | nil => exact List.forall_mem_nil _
  | cons p ps ih =>
    cases p with
    | text t => exact ih h
    | tag body position =>
      obtain ⟨hbody, hps⟩ := List.forall_mem_cons.1 h
      rw [looksUp] at hbody
      rw [stylesWhere]
      split
      · rename_i tag hmove
        rw [hmove] at hbody
        rw [if_pos rfl, List.singleton_append, List.forall_mem_cons]
        exact ⟨Option.isNone_iff_eq_none.1 hbody, ih hps⟩
      · exact ih hps

theorem Matched.looksUp {opened : List Tag} {ps : List Piece} (h : Matched evaluates opened ps)
    (hstyles : ∀ style ∈ stylesWhere (fun _ _ => true) ps, Console.styleFault? style = none) :
    ∀ body ∈ bodies ps, looksUp body = true := by
  induction h with
  | nil => exact List.forall_mem_nil _
  | text _ ih => exact ih hstyles
  | openTag hmove _ ih =>
    simp only [stylesWhere, hmove, if_true, List.singleton_append, List.forall_mem_cons] at hstyles
    refine List.forall_mem_cons.2 ⟨?_, ih hstyles.2⟩
    rw [Markup.looksUp, hmove]
    exact Option.isNone_iff_eq_none.2 hstyles.1
  | closeLast hmove _ _ ih | close hmove _ _ _ ih =>
    simp only [stylesWhere, hmove] at hstyles
    refine List.forall_mem_cons.2 ⟨?_, ih hstyles⟩
    rw [Markup.looksUp, hmove]

theorem drawFault?_eq_none {t : Text} :
    drawFault? t = none ↔ ∀ style ∈ drawnStyles t, Console.styleFault? style = none := by
  rw [drawFault?, Option.map_eq_none_iff, List.findSome?_eq_none_iff]

/-- A text can be drawn if its tags can be looked up. -/
theorem LooksUp.drawFault? {t : Text} (h : LooksUp t) : drawFault? t = none :=
  drawFault?_eq_none.2 fun style hstyle =>
    styleFault?_of_looksUp h style (mem_stylesWhere (fun _ _ _ => rfl) hstyle)

/-- A text on one line whose tags match can be drawn just if they can be looked up. -/
theorem drawFault?_eq_none_iff {t : Text} (hline : isOneLine t = true)
    (hmatched : Matched evaluates [] (pieces t)) : drawFault? t = none ↔ LooksUp t := by
  refine ⟨fun h => ?_, LooksUp.drawFault?⟩
  rw [drawFault?_eq_none] at h
  refine hmatched.looksUp fun style hstyle => h style (mem_stylesWhere (fun tag rest _ => ?_) hstyle)
  rw [hline, Bool.true_or]

section Screens

variable {s : Console.Screen} {t : Text}

theorem drawn_eq_ok_iff {p : Text} : s.drawn t = .ok p ↔ plain s.evaluates t = .ok p ∧ drawFault? t = none := by
  rw [Console.Screen.drawn]
  cases plain s.evaluates t with
  | error e => simp
  | ok shown => cases drawFault? t <;> simp

theorem exists_drawn_iff :
    (∃ p, s.drawn t = .ok p) ↔ Matched s.evaluates [] (pieces t) ∧ drawFault? t = none := by
  simp only [drawn_eq_ok_iff, exists_and_right, plain_eq_ok_iff]

theorem Shows.drawn (h : Shows s.evaluates t) : ∃ p, s.drawn t = .ok p :=
  exists_drawn_iff.2 ⟨h.1, h.2.drawFault?⟩

/-- What is visible is drawn in a style that can be looked up. -/
theorem showsVisibly_of_drawn {p : Text} (h : s.drawn t = .ok p) : ShowsVisibly s.evaluates t := by
  obtain ⟨hmatched, hfault⟩ := exists_drawn_iff.1 ⟨p, h⟩
  have hvisible (c : Char) (hc : (!Text.isBlank c) = true) : (c != '\n') = true := by
    rw [bne_iff_ne]
    rintro rfl
    exact absurd hc (by decide)
  refine ⟨hmatched, fun style hstyle => drawFault?_eq_none.1 hfault style ?_⟩
  refine mem_stylesWhere (fun tag rest hcovers => ?_) hstyle
  rw [Tag.covers_of_covers hvisible hcovers, Bool.or_true]

/-- A text on one line can be drawn just if its tags match and can be looked up. -/
theorem shows_iff_of_oneLine (hline : isOneLine t = true) :
    Shows s.evaluates t ↔ ∃ p, s.drawn t = .ok p := by
  rw [exists_drawn_iff]
  exact and_congr_right fun hmatched => (drawFault?_eq_none_iff hline hmatched).symm

end Screens

/-! ## Texts without closing tags -/

/-- A piece that closes nothing. -/
def Piece.isOpening : Piece → Bool
  | .text _ => true
  | .tag body _ => (tagName body).head? != some '/'

theorem isOpening_plainPiece {t : Text} {p : Piece} (h : p ∈ plainPiece t) : p.isOpening = true := by
  unfold plainPiece at h
  split at h
  · cases h
  · rw [List.mem_singleton.1 h]
    rfl

/-- A tag that closes nothing opens a style, if it can be looked up. -/
theorem exists_opens {body : Text} {position : Nat} (hopen : (Piece.tag body position).isOpening = true)
    (hup : looksUp body = true) : ∃ tag, readMove body = .ok (.opens tag) := by
  rw [looksUp] at hup
  cases hmove : readMove body with
  | error cause =>
    rw [hmove] at hup
    cases hup
  | ok move =>
    unfold readMove at hmove
    split at hmove
    · rename_i name hname
      rw [Piece.isOpening, hname] at hopen
      cases hopen
    · obtain ⟨name, -, rfl⟩ := map_eq_ok.1 hmove
      exact ⟨_, rfl⟩

/-- What is open stays open while nothing is closed. -/
theorem matched_close {opened : List Tag} {ps : List Piece} {name body : Text} {position : Nat}
    (hps : ∀ p ∈ ps, p.isOpening = true) (hups : ∀ body ∈ bodies ps, looksUp body = true)
    (hmove : readMove body = .ok (.closes name)) (hname : name.head? ≠ some '@')
    (hm : ∃ tag ∈ opened, tag.name = name) : Matched evaluates opened (ps ++ [.tag body position]) := by
  induction ps generalizing opened with
  | nil =>
    have hfind : (opened.find? (·.name == name)).isSome := by simpa [List.find?_isSome] using hm
    obtain ⟨tag, htag⟩ := Option.isSome_iff_exists.1 hfind
    obtain ⟨hsame, above, below, rfl, habove⟩ := List.find?_eq_some_iff_append.1 htag
    have hsame : tag.name = name := beq_iff_eq.1 hsame
    have hcloses : tag.closes evaluates = true := by
      rw [Tag.closes, hsame, bne_iff_ne.2 hname, Bool.true_or]
    refine .close (by rw [hmove, hsame]) (fun other hother => ?_) hcloses .nil
    rw [hsame]
    simpa using habove other hother
  | cons p ps ih =>
    obtain ⟨hopen, hrest⟩ := List.forall_mem_cons.1 hps
    cases p with
    | text t => exact .text (ih hrest hups hm)
    | tag other place =>
      obtain ⟨hup, hups⟩ := List.forall_mem_cons.1 hups
      obtain ⟨tag, htag⟩ := exists_opens hopen hup
      obtain ⟨kept, hkept, hsame⟩ := hm
      exact .openTag htag (ih hrest hups ⟨kept, List.mem_cons_of_mem _ hkept, hsame⟩)

/-- A text is of one class throughout, or there is a first character that is not of it. -/
theorem split_first (p : Char → Bool) (t : Text) :
    (∀ c ∈ t, p c = true) ∨ ∃ w d y, t = w ++ d :: y ∧ (∀ c ∈ w, p c = true) ∧ p d = false := by
  induction t with
  | nil => exact .inl (by simp)
  | cons c t ih =>
    cases hc : p c with
    | false => exact .inr ⟨[], c, t, rfl, by simp, hc⟩
    | true =>
      rcases ih with hall | ⟨w, d, y, rfl, hw, hd⟩
      · exact .inl (List.forall_mem_cons.2 ⟨hc, hall⟩)
      · exact .inr ⟨c :: w, d, y, rfl, List.forall_mem_cons.2 ⟨hc, hw⟩, hd⟩

theorem takeWhile_first {p : Char → Bool} {w y : Text} {d : Char} (hw : ∀ c ∈ w, p c = true)
    (hd : p d = false) : (w ++ d :: y).takeWhile p = w := by
  rw [List.takeWhile_append_of_pos hw, List.takeWhile_cons_of_neg (by simp [hd]), List.append_nil]

theorem tagBody?_append {y z body after : Text} (h : tagBody? (y ++ '[' :: z) = some (body, after)) :
    ∃ e b v, y = e :: (b ++ ']' :: v) ∧ beginsTag e = true ∧ body = e :: b ∧ after = v ++ '[' :: z := by
  cases y with
  | nil =>
    rw [List.nil_append, tagBody?, if_neg (by decide)] at h
    cases h
  | cons e y =>
    rw [List.cons_append, tagBody?] at h
    split at h
    · rename_i he
      rcases split_first (fun d => d != '[' && d != ']') y with hall | ⟨b, f, v, rfl, hb, hf⟩
      · dsimp only at h
        rw [takeWhile_first hall (by decide), List.drop_left] at h
        cases h
      · dsimp only at h
        rw [List.append_assoc, List.cons_append, takeWhile_first hb hf, List.drop_left] at h
        split at h
        · rename_i rest hrest
          obtain ⟨rfl, rfl⟩ := List.cons.inj hrest
          cases h
          exact ⟨e, b, v, rfl, he, rfl, rfl⟩
        · cases h
    · cases h

theorem tagName_head {e : Char} (he : beginsTag e = true) (b : Text) : (tagName (e :: b)).head? = some e := by
  have hne : (e != '=') = true := by
    rw [bne_iff_ne]
    rintro rfl
    exact absurd he (by decide)
  rw [tagName, List.takeWhile_cons, if_pos hne]
  rfl

section Ahead

variable {x z : Text} (hlast : x.getLast? ≠ some '\\') (hslash : ¬['[', '/'] <:+: x)

include hlast

/-- The backslashes at the start of a text that does not end in one. -/
theorem split_slashes (hx : x ≠ []) : ∃ w d y, x = w ++ d :: y ∧ (∀ c ∈ w, (c == '\\') = true) ∧
    (d == '\\') = false ∧ (x ++ '[' :: z).takeWhile (· == '\\') = w ∧
    (x ++ '[' :: z).drop w.length = d :: (y ++ '[' :: z) := by
  rcases split_first (· == '\\') x with hall | ⟨w, d, y, rfl, hw, hd⟩
  · obtain ⟨c, hc⟩ : ∃ c, x.getLast? = some c := ⟨_, List.getLast?_eq_some_getLast hx⟩
    have hslash := hall c (List.mem_of_getLast? hc)
    rw [eq_of_beq hslash] at hc
    exact absurd hc hlast
  · refine ⟨w, d, y, rfl, hw, hd, ?_, ?_⟩
    · rw [List.append_assoc, List.cons_append, takeWhile_first hw hd]
    · rw [List.append_assoc, List.cons_append, List.drop_left]

include hslash

/-- A tag in front of a bracket ends before it, and is no closing tag if no bracket before it is followed by a
slash. -/
theorem tagAhead?_append (hx : x ≠ []) {slashes : Nat} {body after : Text}
    (h : tagAhead? (x ++ '[' :: z) = some (slashes, body, after)) :
    (tagName body).head? ≠ some '/' ∧ ∃ u v, x = u ++ v ∧ u ≠ [] ∧ after = v ++ '[' :: z := by
  obtain ⟨w, d, y, rfl, -, -, htake, hdrop⟩ := split_slashes (z := z) hlast hx
  rw [tagAhead?, htake, hdrop] at h
  split at h
  · rename_i rest hrest
    obtain ⟨rfl, rfl⟩ := List.cons.inj hrest
    obtain ⟨r, hr, he⟩ := Option.map_eq_some_iff.1 h
    cases he
    obtain ⟨e, b, v, rfl, hbegins, rfl, rfl⟩ := tagBody?_append hr
    refine ⟨?_, w ++ '[' :: e :: (b ++ [']']), v, by simp, by simp, rfl⟩
    rw [tagName_head hbegins]
    intro he
    cases he
    exact hslash ⟨w, b ++ ']' :: v, by simp⟩
  · cases h

end Ahead

section Pieces

variable {c : Char} {rest : Text} (fuel position : Nat) (pending : Text)

theorem piecesFrom_nil : piecesFrom fuel position [] [] = [] := by
  cases fuel <;> rfl

theorem piecesFrom_tag {slashes : Nat} {body after : Text}
    (h : tagAhead? (c :: rest) = some (slashes, body, after)) :
    piecesFrom (fuel + 1) position pending (c :: rest) =
      plainPiece (unescape pending.reverse) ++ plainPiece (List.replicate (slashes / 2) '\\') ++
        (if slashes % 2 == 0 then [.tag body (position + slashes)]
          else [.text ('[' :: body ++ [']'])]) ++
        piecesFrom fuel (position + slashes + body.length + 2) [] after := by
  rw [piecesFrom, h]

/-- Without a tag ahead, one character or all backslashes before it are passed over. -/
theorem piecesFrom_skip (h : tagAhead? (c :: rest) = none) :
    piecesFrom (fuel + 1) position pending (c :: rest) =
      let slashes := (c :: rest).takeWhile (· == '\\')
      if slashes.isEmpty then piecesFrom fuel (position + 1) (c :: pending) rest
      else piecesFrom fuel (position + slashes.length) (slashes ++ pending)
        ((c :: rest).drop slashes.length) := by
  rw [piecesFrom, h]

end Pieces

section Suffix

variable {u v : Text}

theorem not_infix_suffix {w : Text} (h : ¬w <:+: u ++ v) : ¬w <:+: v := by
  intro hv
  exact h (hv.trans (List.suffix_append u v).isInfix)

theorem getLast?_suffix {c : Char} (h : (u ++ v).getLast? ≠ some c) : v.getLast? ≠ some c := by
  intro hv
  rw [List.getLast?_append, hv] at h
  exact h rfl

end Suffix

/-- One step of reading in front of a bracket: a part of the text gives pieces that close nothing. -/
theorem piecesFrom_step {x z : Text} (hx : x ≠ []) (hlast : x.getLast? ≠ some '\\')
    (hslash : ¬['[', '/'] <:+: x) (fuel position : Nat) (pending : Text) :
    ∃ u v front place kept, x = u ++ v ∧ u ≠ [] ∧ (∀ p ∈ front, p.isOpening = true) ∧
      piecesFrom (fuel + 1) position pending (x ++ '[' :: z) =
        front ++ piecesFrom fuel place kept (v ++ '[' :: z) := by
  cases x with
  | nil => exact absurd rfl hx
  | cons c x =>
    cases hahead : tagAhead? (c :: (x ++ '[' :: z)) with
    | some r =>
      obtain ⟨slashes, body, after⟩ := r
      obtain ⟨hopen, u, v, hsplit, hu, rfl⟩ := tagAhead?_append hlast hslash hx hahead
      refine ⟨u, v, _, _, _, hsplit, hu, ?_, piecesFrom_tag fuel position pending hahead⟩
      intro p hp
      simp only [List.mem_append] at hp
      rcases hp with (hp | hp) | hp
      · exact isOpening_plainPiece hp
      · exact isOpening_plainPiece hp
      · split at hp <;> rw [List.mem_singleton.1 hp]
        · simpa [Piece.isOpening] using hopen
        · rfl
    | none =>
      have hskip := piecesFrom_skip fuel position pending hahead
      obtain ⟨w, d, y, hsplit, -, -, htake, hdrop⟩ := split_slashes (z := z) hlast hx
      rw [List.cons_append] at htake hdrop
      dsimp only at hskip
      rw [htake, hdrop] at hskip
      split at hskip
      · exact ⟨[c], x, [], _, _, rfl, by simp, by simp, hskip⟩
      · rename_i hw
        exact ⟨w, d :: y, [], _, _, hsplit, by simpa using hw, by simp, hskip⟩

/-- In front of a closing tag, a text without closing tags has only pieces that close nothing. -/
theorem piecesFrom_close {x : Text} (hlast : x.getLast? ≠ some '\\') (hslash : ¬['[', '/'] <:+: x)
    {fuel : Nat} (hfuel : x.length < fuel) (position : Nat) (pending : Text) :
    ∃ ps place, piecesFrom fuel position pending (x ++ '[' :: "/red]".toList) =
      ps ++ [.tag "/red".toList place] ∧ ∀ p ∈ ps, p.isOpening = true := by
  induction fuel generalizing x position pending with
  | zero => omega
  | succ fuel ih =>
    by_cases hx : x = []
    · have hahead : tagAhead? ('[' :: "/red]".toList) = some (0, "/red".toList, []) := by decide
      refine ⟨plainPiece (unescape pending.reverse), position, ?_, fun p => isOpening_plainPiece⟩
      rw [hx, List.nil_append, piecesFrom_tag _ _ _ hahead, piecesFrom_nil]
      simp [plainPiece]
    · obtain ⟨u, v, front, place, kept, rfl, hu, hfront, hstep⟩ :=
        piecesFrom_step (z := "/red]".toList) hx hlast hslash fuel position pending
      have hlen : v.length < fuel := by
        have := List.length_pos_iff.2 hu
        rw [List.length_append] at hfuel
        omega
      obtain ⟨ps, last, hps, hall⟩ :=
        ih (getLast?_suffix hlast) (not_infix_suffix hslash) hlen place kept
      refine ⟨front ++ ps, last, ?_, ?_⟩
      · rw [hstep, hps, List.append_assoc]
      · intro p hp
        exact (List.mem_append.1 hp).elim (hfront p) (hall p)

theorem readMove_red : readMove "red".toList = .ok (.opens ⟨"red".toList, none⟩) :=
  eq_ok_of_toOption (by decide +kernel)

theorem readMove_closeRed : readMove "/red".toList = .ok (.closes "red".toList) :=
  eq_ok_of_toOption (by decide +kernel)

/-- The tags of a text in red match if it has no closing tag, does not end in a backslash and all its tags can
be looked up. -/
theorem matched_red {t : Text} (hlast : t.getLast? ≠ some '\\') (hslash : ¬['[', '/'] <:+: t)
    (hups : LooksUp ("[red]".toList ++ t ++ "[/red]".toList)) :
    Matched evaluates [] (pieces ("[red]".toList ++ t ++ "[/red]".toList)) := by
  have hahead : tagAhead? ('[' :: ("red]".toList ++ (t ++ "[/red]".toList))) =
      some (0, "red".toList, t ++ "[/red]".toList) := rfl
  have htext : "[red]".toList ++ t ++ "[/red]".toList =
      '[' :: ("red]".toList ++ (t ++ "[/red]".toList)) := rfl
  have hfuel : t.length < ("red]".toList ++ (t ++ "[/red]".toList)).length := by
    have hopen : "red]".toList.length = 4 := rfl
    simp only [List.length_append]
    omega
  obtain ⟨ps, place, hps, hall⟩ := piecesFrom_close hlast hslash hfuel 5 []
  have hpieces : pieces ("[red]".toList ++ t ++ "[/red]".toList) =
      .tag "red".toList 0 :: (ps ++ [.tag "/red".toList place]) := by
    rw [htext, pieces, List.length_cons, piecesFrom_tag _ _ _ hahead]
    exact congrArg (List.cons (Piece.tag "red".toList 0)) hps
  rw [LooksUp, hpieces, bodies_tag, bodies_append, List.forall_mem_cons, List.forall_mem_append] at hups
  rw [hpieces]
  exact .openTag readMove_red
    (matched_close hall hups.2.1 readMove_closeRed (by decide) ⟨_, List.mem_singleton_self _, rfl⟩)

end DryRun.Markup
