import DryRun.Proofs.Sql.Headers
import DryRun.Table.Mock

/-!
# The name of a mock in a text

A definition writes the name of a mock as it is (`Mock.name`), a transform writes its last part in
back-ticks where that is not a word (`render_ref`). `reads_name` reads the first form for plain names;
`readLexeme_written` reads the last part of the second form for every name, together with the word that
may stand directly behind it.
-/

namespace DryRun

open Text Sql

namespace Mock

/-! ## Plain names -/

/-- The catalog and the schema of all mocks, as they stand before a name. -/
def place : Text := "default_catalog.default_database.".toList

theorem name_eq (n : Text) : name n = place ++ (mark ++ n) := rfl

/-- The lexemes of the catalog and the schema of all mocks, with their dots. -/
def placeLexemes : List Lexeme := [⟨.word, catalog⟩, ⟨.dot, ['.']⟩, ⟨.word, schema⟩, ⟨.dot, ['.']⟩]

theorem reads_place {p : Option Lexeme} (hp : p.any Lexeme.isSigil = false) (y : Text) :
    Reads y p place placeLexemes (some ⟨.dot, ['.']⟩) := by
  refine .word (w := catalog) (x := ".default_database.".toList) (by decide) hp rfl ?_
  refine .sign (by decide) ?_
  refine .word (w := schema) (x := ".".toList) (by decide) rfl rfl ?_
  exact .sign (by decide) .nil

/-- The tokens of the catalog and the schema of all mocks, with their dots. -/
structure Place (w₁ d₁ w₂ d₂ : Token) : Prop where
  catalog : w₁.toLexeme = ⟨.word, catalog⟩
  dot₁ : d₁.toLexeme = ⟨.dot, ['.']⟩
  schema : w₂.toLexeme = ⟨.word, schema⟩
  dot₂ : d₂.toLexeme = ⟨.dot, ['.']⟩

theorem exists_place {M : List Token} (hM : M.map Token.toLexeme = placeLexemes) :
    ∃ w₁ d₁ w₂ d₂, M = [w₁, d₁, w₂, d₂] ∧ Place w₁ d₁ w₂ d₂ := by
  obtain ⟨w₁, M, rfl, h₁, hM⟩ := List.map_eq_cons_iff.1 hM
  obtain ⟨d₁, M, rfl, h₂, hM⟩ := List.map_eq_cons_iff.1 hM
  obtain ⟨w₂, M, rfl, h₃, hM⟩ := List.map_eq_cons_iff.1 hM
  obtain ⟨d₂, M, rfl, h₄, hM⟩ := List.map_eq_cons_iff.1 hM
  obtain rfl := List.map_eq_nil_iff.1 hM
  exact ⟨w₁, d₁, w₂, d₂, rfl, h₁, h₂, h₃, h₄⟩

section Place

variable {w₁ d₁ w₂ d₂ : Token} (h : Place w₁ d₁ w₂ d₂)

include h

theorem Place.isFirstName : isFirstName w₁ = true := by
  rw [Sql.isFirstName, h.catalog]
  decide

theorem Place.spelled : w₁.spelled = ["DEFAULT_CATALOG".toList] := by
  rw [h.catalog]
  decide

theorem Place.isName : w₁.isName = true ∧ w₂.isName = true := by
  rw [h.catalog, h.schema]
  decide

/-- A name after the catalog and the schema is read as the third part. -/
theorem Place.readTableName {x : Token} (hx : x.isName = true) {rest : List Token}
    (hrest : ∀ t, rest.head? = some t → t.kind ≠ .dot) :
    Sql.readTableName (w₁ :: d₁ :: w₂ :: d₂ :: x :: rest) =
      some ⟨⟨some Mock.catalog, some Mock.schema, x.text⟩, w₁.start, x.stop, rest⟩ := by
  have hname := readTableName_three h.isName.1 (by rw [h.dot₁]) h.isName.2 (by rw [h.dot₂]) hx hrest
  rwa [h.catalog, h.schema] at hname

theorem Place.third {x : Token} {R : List Token} {name : NameReading}
    (hn : Sql.readTableName (w₁ :: d₁ :: w₂ :: d₂ :: x :: R) = some name) :
    x.isName = true ∧ name.ref = ⟨some Mock.catalog, some Mock.schema, x.text⟩ ∨
      name.rest = d₂ :: x :: R := by
  have hthird := readTableName_third hn (by rw [h.dot₁]) h.isName.2 (by rw [h.dot₂])
  rwa [h.catalog, h.schema] at hthird

end Place

theorem mark_append (n : Text) : mark ++ n = 'm' :: 'o' :: ("ck_sink_".toList ++ n) := rfl

/-- A text that begins with the mark is read as a word. -/
theorem readLexeme_mark {p : Option Lexeme} (hp : p.any Lexeme.isSigil = false) (t : Text) :
    readLexeme p (mark ++ t) =
      .ok ([⟨.word, wordAhead (mark ++ t)⟩], (wordAhead (mark ++ t)).length) := by
  have hr := readLexeme_of_word (p := p) (c := 'm') (d := 'o') (t := "ck_sink_".toList ++ t) (by decide)
    (by decide) (by decide) (by decide)
  rwa [← mark_append, hp] at hr

theorem upper_mark (n : Text) : upper (mark ++ n) = 'M' :: ("OCK_SINK_".toList ++ upper n) := by
  have hm : upper mark = 'M' :: "OCK_SINK_".toList := by decide
  rw [upper, List.flatMap_append, ← upper, ← upper, hm]
  rfl

theorem isPlainWord_mark {n : Text} (hn : n.all isPlainChar = true) : isPlainWord (mark ++ n) = true := by
  have hall : (mark ++ n).all (!endsWord ·) = true := by
    rw [List.all_append, Bool.and_eq_true]
    refine ⟨by decide, List.all_eq_true.2 fun c hc => ?_⟩
    simp [endsWord_of_isPlainChar (List.all_eq_true.1 hn c hc)]
  have hcmd : (⟨.word, mark ++ n⟩ : Lexeme).opensCommand = false := by
    have key : ∀ w ∈ Lexeme.commandWords, w.head? ≠ some 'M' := by decide +kernel
    have hnot : upper (mark ++ n) ∉ Lexeme.commandWords := fun hm => by
      have := key _ hm
      rw [upper_mark] at this
      exact this rfl
    simp [Lexeme.opensCommand, hnot]
  rw [mark_append] at hall hcmd ⊢
  rw [isPlainWord, hall, hcmd]
  decide

theorem reads_name {n x y : Text} {p q : Option Lexeme} {L : List Lexeme} (hn : n.all isPlainChar = true)
    (hp : p.any Lexeme.isSigil = false) (hx : (x ++ y).head?.all endsWord = true)
    (h : Reads y (some ⟨.word, mark ++ n⟩) x L q) :
    Reads y p (name n ++ x) (placeLexemes ++ ⟨.word, mark ++ n⟩ :: L) q := by
  rw [name_eq, List.append_assoc]
  exact (reads_place hp _).append (.word (isPlainWord_mark hn) rfl hx h)

theorem isName_mark {n : Text} (hn : n.all isPlainChar = true) :
    (⟨.word, mark ++ n⟩ : Lexeme).isName = true := by
  have hall : (mark ++ n).all Lexeme.isNameChar = true := by
    rw [List.all_append, Bool.and_eq_true]
    refine ⟨by decide, List.all_eq_true.2 fun c hc => ?_⟩
    have := List.all_eq_true.1 hn c hc
    simp only [isPlainChar] at this
    simp [Lexeme.isNameChar, this]
  rw [mark_append, List.all_cons, Bool.and_eq_true] at hall
  have hplain : Lexeme.isPlainName (mark ++ n) = true := by
    rw [mark_append, Lexeme.isPlainName, hall.2]
    decide
  simp [Lexeme.isName, hplain]

/-- A name without a character that ends a word is plain. -/
theorem isPlain_of_isName {n : Text} (h : (⟨.word, mark ++ n⟩ : Lexeme).isName = true)
    (hn : ∀ c ∈ n, endsWord c = false) : n.all isPlainChar = true := by
  have hplain : Lexeme.isPlainName (mark ++ n) = true := by simpa [Lexeme.isName] using h
  rw [mark_append, Lexeme.isPlainName, Bool.and_eq_true] at hplain
  refine List.all_eq_true.2 fun c hc => ?_
  have hname : Lexeme.isNameChar c = true :=
    List.all_eq_true.1 hplain.2 c (List.mem_cons_of_mem _ (List.mem_append_right _ hc))
  have hdollar : c ≠ '$' := by
    rintro rfl
    exact absurd (hn '$' hc) (by decide)
  simpa [Lexeme.isNameChar, isPlainChar, hdollar] using hname

/-! ## Names as a transform writes them -/

theorem isWordTail_append {w : Text} (hw : w.all isWordChar = true) (n : Text) :
    TableRef.isWordTail (w ++ n) = TableRef.isWordTail n := by
  induction w with
  | nil => rfl
  | cons c w ih =>
    simp only [List.all_cons, Bool.and_eq_true] at hw
    have hc : c ≠ '\n' := by
      rintro rfl
      exact absurd hw.1 (by decide)
    rw [List.cons_append, TableRef.isWordTail, hw.1, Bool.true_and, ih hw.2]
    exact fun h _ => hc h

/-- A word tail is made of word characters and perhaps a line feed. -/
theorem isWordTail_cases {n : Text} (h : TableRef.isWordTail n = true) :
    ∃ w : Text, w.all isWordChar = true ∧ (n = w ∨ n = w ++ ['\n']) := by
  fun_induction TableRef.isWordTail n with
  | case1 => exact ⟨[], rfl, .inl rfl⟩
  | case2 => exact ⟨[], rfl, .inr rfl⟩
  | case3 c cs _ ih =>
    simp only [Bool.and_eq_true] at h
    obtain ⟨w, hw, hn⟩ := ih h.2
    refine ⟨c :: w, by simp [h.1, hw], ?_⟩
    rcases hn with rfl | rfl
    · exact .inl rfl
    · exact .inr rfl

theorem stripRight_of_word {w : Text} (hw : w.all isWordChar = true) : stripRight w = w :=
  stripRight_of_last fun c hc => isBlank_of_isWordChar (List.all_eq_true.1 hw c (List.mem_of_getLast? hc))

theorem isBare_mark (n : Text) : TableRef.isBare (mark ++ n) = TableRef.isWordTail n := by
  rw [mark_append, TableRef.isBare, show ('m'.isAlpha || 'm' == '_') = true by decide, Bool.true_and]
  exact isWordTail_append (w := "ock_sink_".toList) (by decide) n

/-- The name of a sink whose mock is written bare is a word, perhaps with a line feed behind it. -/
theorem stripRight_of_isBare {n : Text} (h : TableRef.isBare (mark ++ n) = true) :
    (stripRight n).all isWordChar = true := by
  rw [isBare_mark] at h
  obtain ⟨w, hw, rfl | rfl⟩ := isWordTail_cases h
  · rwa [stripRight_of_word hw]
  · have hlast : ∀ c, w.getLast? = some c → isBlank c = false := fun c hc =>
      isBlank_of_isWordChar (List.all_eq_true.1 hw c (List.mem_of_getLast? hc))
    rw [stripRight_append_of_last hlast, show stripRight ['\n'] = [] by decide, List.append_nil]
    exact hw

/-- The last part of the name of a mock as a transform writes it. -/
def written (n : Text) : Text :=
  if TableRef.isBare (mark ++ n) then mark ++ stripRight n else TableRef.quote (mark ++ n)

theorem parts_ref (n : Text) : (ref n).parts = [catalog, schema, mark ++ n] := by
  rw [TableRef.parts, mark_append]
  rfl

theorem render_ref (n : Text) : (ref n).render = place ++ written n := by
  have hjoin : Text.join ['.'] ((ref n).parts.map TableRef.renderPart) =
      place ++ TableRef.renderPart (mark ++ n) := by
    rw [parts_ref]
    have hc : TableRef.renderPart catalog = catalog := by decide
    have hs : TableRef.renderPart schema = schema := by decide
    simp only [List.map_cons, List.map_nil, hc, hs, Text.join]
    rfl
  have hhead : stripLeft (place ++ TableRef.renderPart (mark ++ n)) =
      place ++ TableRef.renderPart (mark ++ n) :=
    stripLeft_of_head fun c hc => by cases hc; decide
  have hplace : ∀ c, place.getLast? = some c → isBlank c = false := by decide
  have hmark : ∀ c, mark.getLast? = some c → isBlank c = false := by decide
  rw [TableRef.render, hjoin, strip, hhead, stripRight_append_of_last hplace, TableRef.renderPart, written]
  split
  · rw [stripRight_append_of_last hmark]
  · rw [stripRight_of_last fun c hc => ?_]
    rw [TableRef.quote, List.getLast?_append] at hc
    cases hc
    decide

/-- A plain name is written alike in a transform and in a definition. -/
theorem render_of_isPlain {n : Text} (hn : n.all isPlainChar = true) : (ref n).render = name n := by
  have hword : n.all isWordChar = true :=
    List.all_eq_true.2 fun c hc => isPlainChar_isWordChar (List.all_eq_true.1 hn c hc)
  have hbare : TableRef.isBare (mark ++ n) = true := by
    rw [isBare_mark, ← List.append_nil n, isWordTail_append hword]
    rfl
  rw [render_ref, written, if_pos hbare, stripRight_of_word hword, name_eq]

/-- What stands for the name of the sink when the last part of the name of its mock is read in front of
`post`: a word directly behind a bare name becomes a part of it. -/
def spliceName (n post : Text) : Text :=
  if TableRef.isBare (mark ++ n) then stripRight n ++ wordAhead post else n

/-- The last part of the name of a mock is read together with a word behind it. -/
theorem readLexeme_written {p : Option Lexeme} (hp : p.any Lexeme.isSigil = false) {n post : Text}
    (hpost : post.head? ≠ some '\x60') :
    ∃ k m, (k = .word ∨ k = .quotedName) ∧
      readLexeme p (written n ++ post) = .ok ([⟨k, mark ++ spliceName n post⟩], m) := by
  rw [written, spliceName]
  split
  · rename_i hb
    have hall : (mark ++ stripRight n).all (!endsWord ·) = true := by
      rw [List.all_append, Bool.and_eq_true]
      refine ⟨by decide, List.all_eq_true.2 fun c hc => ?_⟩
      simp [endsWord_of_isWordChar (List.all_eq_true.1 (stripRight_of_isBare hb) c hc)]
    have hword : wordAhead (mark ++ stripRight n ++ post) = mark ++ (stripRight n ++ wordAhead post) := by
      rw [wordAhead_of_all hall, List.append_assoc]
    have hr := readLexeme_mark hp (stripRight n ++ post)
    rw [← List.append_assoc, hword] at hr
    exact ⟨_, _, .inl rfl, hr⟩
  · exact ⟨_, _, .inr rfl, readLexeme_quote hpost⟩

end Mock

end DryRun
