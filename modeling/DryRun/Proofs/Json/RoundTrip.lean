import DryRun.Proofs.Json.Scalar

/-!
# Values in JSON

Writing a value in any of the styles and reading the text gives the value back, if the reader takes it at all:
`Readable depth v` says that containers nest at most `depth` deep, that integers do not have too many digits,
and that no number is a real. The reader's fuel is used up by one unit for every value and for every item of a
container, and each of them is written with at least one character, so the length of the text is fuel enough.
-/

namespace DryRun.Json

/-- What the reader takes when containers may nest `depth` deep. -/
inductive Readable : Nat → Json → Prop where
  | null {depth : Nat} : Readable depth .null
  | bool {depth : Nat} (b : Bool) : Readable depth (.bool b)
  | int {depth : Nat} {n : Int} (h : (Text.ofNat n.natAbs).length ≤ digitLimit) : Readable depth (.int n)
  | string {depth : Nat} (t : Text) : Readable depth (.string t)
  | noItems {depth : Nat} : Readable depth (.array [])
  | noFields {depth : Nat} : Readable depth (.object [])
  | array {depth : Nat} {items : List Json} (h : ∀ v ∈ items, Readable depth v) :
      Readable (depth + 1) (.array items)
  | object {depth : Nat} {fields : List (Text × Json)} (h : ∀ f ∈ fields, Readable depth f.2) :
      Readable (depth + 1) (.object fields)

/-- The separators are a comma and a colon, with blanks behind them at most. -/
structure Style.Separates (style : Style) : Prop where
  comma : ∃ blanks, style.comma = ',' :: blanks ∧ ∀ c ∈ blanks, isSpace c = true
  colon : ∃ blanks, style.colon = ':' :: blanks ∧ ∀ c ∈ blanks, isSpace c = true

theorem separates_compact : Style.compact.Separates where
  comma := ⟨[], rfl, by decide⟩
  colon := ⟨[], rfl, by decide⟩

theorem separates_spaced : Style.spaced.Separates where
  comma := ⟨[' '], rfl, by decide⟩
  colon := ⟨[' '], rfl, by decide⟩

theorem separates_pretty : Style.pretty.Separates where
  comma := ⟨[], rfl, by decide⟩
  colon := ⟨[' '], rfl, by decide⟩

theorem separates_prettyAscii : Style.prettyAscii.Separates where
  comma := ⟨[], rfl, by decide⟩
  colon := ⟨[' '], rfl, by decide⟩

/-! ## Blanks -/

theorem skipSpace_append {blanks t : Text} (h : ∀ c ∈ blanks, isSpace c = true) :
    skipSpace (blanks ++ t) = skipSpace t := List.dropWhile_append_of_pos h

theorem skipSpace_cons {c : Char} {t : Text} (h : isSpace c = false) : skipSpace (c :: t) = c :: t := by
  rw [skipSpace, List.dropWhile_cons_of_neg (by simp [h])]

theorem isSpace_lineBreak (depth : Nat) : ∀ c ∈ lineBreak depth, isSpace c = true := by
  intro c hc
  rcases List.mem_cons.1 hc with rfl | hc
  · decide
  · rw [List.eq_of_mem_replicate hc]
    decide

section Layout

variable (style : Style) (depth : Nat)

theorem isSpace_beforeClose : ∀ c ∈ beforeClose style depth, isSpace c = true := by
  unfold beforeClose
  split
  · exact isSpace_lineBreak depth
  · intro c hc
    cases hc

theorem isSpace_beforeFirst : ∀ c ∈ beforeItem style depth true, isSpace c = true :=
  isSpace_beforeClose style depth

theorem beforeItem_comma (h : style.Separates) :
    ∃ blanks, beforeItem style depth false = ',' :: blanks ∧ ∀ c ∈ blanks, isSpace c = true := by
  obtain ⟨blanks, hcomma, hblanks⟩ := h.comma
  refine ⟨blanks ++ beforeClose style depth, ?_, ?_⟩
  · rw [beforeItem, hcomma]
    rfl
  · intro c hc
    exact (List.mem_append.1 hc).elim (hblanks c) (isSpace_beforeClose style depth c)

end Layout

/-! ## Where a value begins and ends -/

/-- A character that a value may begin with. -/
def beginsValue (c : Char) : Bool := !isSpace c && c != ']'

theorem beginsValue_of_isDigit {c : Char} (h : Text.isDigit c = true) : beginsValue c = true := by
  have hne := fun (d : Char) (hd : Text.isDigit d = false) => (ne_of_isDigit h hd).symm
  simp [beginsValue, isSpace, hne ' ' (by decide), hne '\n' (by decide), hne '\r' (by decide),
    hne '\t' (by decide), hne ']' (by decide)]

/-- The text of a value, by its first character. -/
theorem write_head (style : Style) (depth : Nat) {limit : Nat} {v : Json} (h : Readable limit v) :
    ∃ c t, write style depth v = c :: t ∧ beginsValue c = true := by
  cases h with
  | null => exact ⟨'n', "ull".toList, by rw [write]; rfl, by decide⟩
  | bool b => cases b <;> exact ⟨_, _, by rw [write]; rfl, by decide⟩
  | @int _ n h =>
    rw [write]
    cases n with
    | ofNat n =>
      obtain ⟨d, ds, hds, hd⟩ := exists_digit n
      exact ⟨d, ds, hds, beginsValue_of_isDigit hd⟩
    | negSucc n => exact ⟨'-', _, rfl, by decide⟩
  | string t => exact ⟨'\x22', _, by rw [write]; rfl, by decide⟩
  | noItems => exact ⟨'[', [']'], by rw [write]; rfl, by decide⟩
  | noFields => exact ⟨'\x7b', ['\x7d'], by rw [write]; rfl, by decide⟩
  | @array _ items h =>
    cases items with
    | nil => exact ⟨'[', [']'], by rw [write]; rfl, by decide⟩
    | cons item items => exact ⟨'[', _, by rw [write]; rfl, by decide⟩
  | @object _ fields h =>
    cases fields with
    | nil => exact ⟨'\x7b', ['\x7d'], by rw [write]; rfl, by decide⟩
    | cons f fields => exact ⟨'\x7b', _, by rw [write]; rfl, by decide⟩

theorem skipSpace_write {style : Style} {depth limit : Nat} {v : Json} (h : Readable limit v) (t : Text) :
    skipSpace (write style depth v ++ t) = write style depth v ++ t := by
  obtain ⟨c, u, hu, hc⟩ := write_head style depth h
  simp only [beginsValue, Bool.and_eq_true, Bool.not_eq_true'] at hc
  rw [hu, List.cons_append, skipSpace_cons hc.1]

theorem skipSpace_quoted (ascii : Bool) (key t : Text) :
    skipSpace (quoted ascii key ++ t) = quoted ascii key ++ t :=
  skipSpace_cons (by decide)

theorem stops_blanks {blanks t : Text} (h : ∀ c ∈ blanks, isSpace c = true) (ht : Stops t) :
    Stops (blanks ++ t) := by
  cases blanks with
  | nil => exact ht
  | cons b blanks =>
    intro c hc
    cases hc
    simp [endsValue, h b List.mem_cons_self]

theorem stops_cons {c : Char} {t : Text} (h : endsValue c = true) : Stops (c :: t) := by
  intro d hd
  cases hd
  exact h

/-! ## Steps of the reader -/

section Steps

variable {fuel limit : Nat} {item : Json} {t tail rest : Text}

theorem readItems_last (acc : List Json) (h : readValue fuel limit t = some (item, tail))
    (htail : skipSpace tail = ']' :: rest) :
    readItems (fuel + 1) limit acc t = some ((item :: acc).reverse, rest) := by
  simp only [readItems, h, htail]

theorem readItems_next (acc : List Json) (h : readValue fuel limit t = some (item, tail))
    (htail : skipSpace tail = ',' :: rest) :
    readItems (fuel + 1) limit acc t = readItems fuel limit (item :: acc) (skipSpace rest) := by
  simp only [readItems, h, htail]

variable {key : Text} {body behind value : Text}

theorem readFields_last (acc : List (Text × Json)) (hkey : readString (body.length + 1) [] body = some (key, behind))
    (hbehind : skipSpace behind = ':' :: value) (h : readValue fuel limit (skipSpace value) = some (item, tail))
    (htail : skipSpace tail = '\x7d' :: rest) :
    readFields (fuel + 1) limit acc ('\x22' :: body) = some (((key, item) :: acc).reverse, rest) := by
  simp only [readFields, hkey, hbehind, h, htail]

theorem readFields_next (acc : List (Text × Json)) (hkey : readString (body.length + 1) [] body = some (key, behind))
    (hbehind : skipSpace behind = ':' :: value) (h : readValue fuel limit (skipSpace value) = some (item, tail))
    (htail : skipSpace tail = ',' :: rest) :
    readFields (fuel + 1) limit acc ('\x22' :: body) =
      readFields fuel limit ((key, item) :: acc) (skipSpace rest) := by
  simp only [readFields, hkey, hbehind, h, htail]

theorem readValue_array (inner : Text) (hinner : ∃ c u, skipSpace inner = c :: u ∧ c ≠ ']') :
    readValue (fuel + 1) (limit + 1) ('[' :: inner) =
      (readItems fuel limit [] (skipSpace inner)).map fun r => (.array r.1, r.2) := by
  obtain ⟨c, u, hu, hc⟩ := hinner
  simp only [readValue, hu]
  split
  · rename_i heq
    exact absurd (List.cons.inj heq).1 hc
  · rfl

theorem readValue_object (inner : Text) (hinner : ∃ c u, skipSpace inner = c :: u ∧ c ≠ '\x7d') :
    readValue (fuel + 1) (limit + 1) ('\x7b' :: inner) =
      (readFields fuel limit [] (skipSpace inner)).map fun r => (.object r.1, r.2) := by
  obtain ⟨c, u, hu, hc⟩ := hinner
  simp only [readValue, hu]
  split
  · rename_i heq
    exact absurd (List.cons.inj heq).1 hc
  · rfl

theorem readValue_scalar {c : Char} (harray : c ≠ '[') (hobject : c ≠ '\x7b') :
    readValue (fuel + 1) limit (c :: t) = readScalar (c :: t) := by
  unfold readValue
  split
  · rename_i heq
    exact absurd (List.cons.inj heq).1 harray
  · rename_i heq
    exact absurd (List.cons.inj heq).1 hobject
  · rfl

end Steps

/-! ## Values -/

section Values

variable {style : Style} (hstyle : style.Separates)

/-- The value is read back from its text, wherever that stands. -/
def ReadsBack (style : Style) (limit : Nat) (v : Json) : Prop :=
  ∀ (depth : Nat) (rest : Text) (fuel : Nat), Stops rest → (write style depth v).length ≤ fuel →
    readValue fuel limit (write style depth v ++ rest) = some (v, rest)

include hstyle

theorem stops_writeItems (depth : Nat) (items : List Json) {t : Text} (ht : Stops t) :
    Stops (writeItems style depth items ++ t) := by
  cases items with
  | nil => exact ht
  | cons item items =>
    obtain ⟨blanks, hcomma, -⟩ := beforeItem_comma style depth hstyle
    rw [writeItems, hcomma]
    exact stops_cons (by decide)

theorem stops_writeFields (depth : Nat) (fields : List (Text × Json)) {t : Text} (ht : Stops t) :
    Stops (writeFields style depth fields ++ t) := by
  cases fields with
  | nil => exact ht
  | cons f fields =>
    obtain ⟨blanks, hcomma, -⟩ := beforeItem_comma style depth hstyle
    rw [writeFields, hcomma]
    exact stops_cons (by decide)

theorem readItems_write {limit : Nat} {item : Json} {items : List Json}
    (hread : ∀ v ∈ item :: items, Readable limit v ∧ ReadsBack style limit v) (depth : Nat)
    {blanks rest : Text} (hblanks : ∀ c ∈ blanks, isSpace c = true) (acc : List Json) {fuel : Nat}
    (hfuel : (write style depth item ++ writeItems style depth items).length < fuel) :
    readItems fuel limit acc
      (write style depth item ++ (writeItems style depth items ++ (blanks ++ ']' :: rest))) =
      some (acc.reverse ++ item :: items, rest) := by
  induction items generalizing item acc fuel with
  | nil =>
    cases fuel with
    | zero => cases hfuel
    | succ fuel =>
      have hstops : Stops (blanks ++ ']' :: rest) := stops_blanks hblanks (stops_cons (by decide))
      have hitem := (hread item List.mem_cons_self).2 depth _ fuel hstops (by
        rw [writeItems, List.append_nil] at hfuel
        exact Nat.le_of_lt_succ hfuel)
      have htail : skipSpace (blanks ++ ']' :: rest) = ']' :: rest := by
        rw [skipSpace_append hblanks, skipSpace_cons (by decide)]
      rw [writeItems, List.nil_append, readItems_last acc hitem htail, List.reverse_cons]
  | cons next items ih =>
    cases fuel with
    | zero => cases hfuel
    | succ fuel =>
      obtain ⟨gap, hcomma, hgap⟩ := beforeItem_comma style depth hstyle
      have hrest := List.forall_mem_cons.1 hread
      have hnext := (List.forall_mem_cons.1 hrest.2).1
      have hstops : Stops (writeItems style depth (next :: items) ++ (blanks ++ ']' :: rest)) :=
        stops_writeItems hstyle depth _ (stops_blanks hblanks (stops_cons (by decide)))
      rw [List.length_append, writeItems, hcomma] at hfuel
      simp only [List.length_append, List.length_cons] at hfuel
      have hitem := hrest.1.2 depth _ fuel hstops (by omega)
      have htail : skipSpace (writeItems style depth (next :: items) ++ (blanks ++ ']' :: rest)) =
          ',' :: (gap ++ (write style depth next ++
            (writeItems style depth items ++ (blanks ++ ']' :: rest)))) := by
        rw [writeItems, hcomma]
        simp only [List.cons_append, List.append_assoc]
        exact skipSpace_cons (by decide)
      rw [readItems_next acc hitem htail, skipSpace_append hgap, skipSpace_write hnext.1,
        ih hrest.2 (item :: acc) (by rw [List.length_append]; omega), List.reverse_cons, List.append_assoc]
      rfl

/-- The key of a field and the colon behind it. -/
theorem exists_key (key : Text) (depth : Nat) {limit : Nat} {value : Json} (h : Readable limit value) (tail : Text) :
    ∃ body behind inner, quoted style.ascii key ++ (style.colon ++ (write style depth value ++ tail)) =
        '\x22' :: body ∧ readString (body.length + 1) [] body = some (key, behind) ∧
      skipSpace behind = ':' :: inner ∧ skipSpace inner = write style depth value ++ tail := by
  obtain ⟨gap, hcolon, hgap⟩ := hstyle.colon
  obtain ⟨body, hbody, hkey⟩ :=
    readString_quoted (style.colon ++ (write style depth value ++ tail)) style.ascii key
  refine ⟨body, _, gap ++ (write style depth value ++ tail), hbody, hkey, ?_, ?_⟩
  · rw [hcolon, List.cons_append, skipSpace_cons (by decide)]
  · rw [skipSpace_append hgap, skipSpace_write h]

theorem readFields_write {limit : Nat} {key : Text} {value : Json} {fields : List (Text × Json)}
    (hread : ∀ f ∈ (key, value) :: fields, Readable limit f.2 ∧ ReadsBack style limit f.2) (depth : Nat)
    {blanks rest : Text} (hblanks : ∀ c ∈ blanks, isSpace c = true) (acc : List (Text × Json)) {fuel : Nat}
    (hfuel : (write style depth value ++ writeFields style depth fields).length < fuel) :
    readFields fuel limit acc
      (quoted style.ascii key ++ (style.colon ++ (write style depth value ++
        (writeFields style depth fields ++ (blanks ++ '\x7d' :: rest))))) =
      some (acc.reverse ++ (key, value) :: fields, rest) := by
  induction fields generalizing key value acc fuel with
  | nil =>
    cases fuel with
    | zero => cases hfuel
    | succ fuel =>
      have hvalue := hread (key, value) List.mem_cons_self
      have hstops : Stops (blanks ++ '\x7d' :: rest) := stops_blanks hblanks (stops_cons (by decide))
      have hitem := hvalue.2 depth _ fuel hstops (by
        rw [writeFields, List.append_nil] at hfuel
        exact Nat.le_of_lt_succ hfuel)
      have htail : skipSpace (blanks ++ '\x7d' :: rest) = '\x7d' :: rest := by
        rw [skipSpace_append hblanks, skipSpace_cons (by decide)]
      obtain ⟨body, behind, inner, hbody, hkey, hbehind, hinner⟩ :=
        exists_key hstyle key depth hvalue.1 (blanks ++ '\x7d' :: rest)
      rw [← hinner] at hitem
      rw [writeFields, List.nil_append, hbody, readFields_last acc hkey hbehind hitem htail, List.reverse_cons]
  | cons next fields ih =>
    cases fuel with
    | zero => cases hfuel
    | succ fuel =>
      obtain ⟨nextKey, nextValue⟩ := next
      obtain ⟨gap, hcomma, hgap⟩ := beforeItem_comma style depth hstyle
      have hrest := List.forall_mem_cons.1 hread
      have hvalue : Readable limit value ∧ ReadsBack style limit value := hrest.1
      have hstops : Stops (writeFields style depth ((nextKey, nextValue) :: fields) ++ (blanks ++ '\x7d' :: rest)) :=
        stops_writeFields hstyle depth _ (stops_blanks hblanks (stops_cons (by decide)))
      rw [List.length_append, writeFields, hcomma] at hfuel
      simp only [List.length_append, List.length_cons] at hfuel
      have hitem := hvalue.2 depth _ fuel hstops (by omega)
      have htail : skipSpace
            (writeFields style depth ((nextKey, nextValue) :: fields) ++ (blanks ++ '\x7d' :: rest)) =
          ',' :: (gap ++ (quoted style.ascii nextKey ++ (style.colon ++ (write style depth nextValue ++
            (writeFields style depth fields ++ (blanks ++ '\x7d' :: rest)))))) := by
        rw [writeFields, hcomma]
        simp only [List.cons_append, List.append_assoc]
        exact skipSpace_cons (by decide)
      obtain ⟨body, behind, inner, hbody, hkey, hbehind, hinner⟩ := exists_key hstyle key depth
        hvalue.1 (writeFields style depth ((nextKey, nextValue) :: fields) ++ (blanks ++ '\x7d' :: rest))
      rw [← hinner] at hitem
      rw [hbody, readFields_next acc hkey hbehind hitem htail, skipSpace_append hgap, skipSpace_quoted,
        ih hrest.2 ((key, value) :: acc) (by rw [List.length_append]; omega), List.reverse_cons, List.append_assoc]
      rfl

omit hstyle in
/-- A value has a text, so there is fuel for its first step. -/
theorem readsBack_of_step {limit : Nat} {v : Json} (h : Readable limit v)
    (hstep : ∀ (depth : Nat) (rest : Text) (fuel : Nat), Stops rest →
      (write style depth v).length ≤ fuel + 1 →
      readValue (fuel + 1) limit (write style depth v ++ rest) = some (v, rest)) :
    ReadsBack style limit v := by
  intro depth rest fuel hrest hfuel
  cases fuel with
  | zero =>
    obtain ⟨c, t, ht, -⟩ := write_head style depth h
    rw [ht] at hfuel
    cases hfuel
  | succ fuel => exact hstep depth rest fuel hrest hfuel

/-- An array is read back if its items are. -/
theorem readValue_writeArray {limit : Nat} {item : Json} {items : List Json}
    (hread : ∀ v ∈ item :: items, Readable limit v ∧ ReadsBack style limit v) (depth : Nat) (rest : Text)
    {fuel : Nat} (hfuel : (write style depth (.array (item :: items))).length ≤ fuel + 1) :
    readValue (fuel + 1) (limit + 1) (write style depth (.array (item :: items)) ++ rest) =
      some (.array (item :: items), rest) := by
  have hitem := (hread item List.mem_cons_self).1
  obtain ⟨c, u, hu, hc⟩ := write_head style (depth + 1) hitem
  have htext : write style depth (.array (item :: items)) ++ rest =
      '[' :: (beforeItem style (depth + 1) true ++ (write style (depth + 1) item ++
        (writeItems style (depth + 1) items ++ (beforeClose style depth ++ ']' :: rest)))) := by
    simp [write]
  have hinner : skipSpace (beforeItem style (depth + 1) true ++ (write style (depth + 1) item ++
        (writeItems style (depth + 1) items ++ (beforeClose style depth ++ ']' :: rest)))) =
      write style (depth + 1) item ++
        (writeItems style (depth + 1) items ++ (beforeClose style depth ++ ']' :: rest)) := by
    rw [skipSpace_append (isSpace_beforeFirst style (depth + 1)), skipSpace_write hitem]
  have hlength : (write style (depth + 1) item ++ writeItems style (depth + 1) items).length < fuel := by
    simp only [write, List.length_append, List.length_cons] at hfuel
    rw [List.length_append]
    omega
  rw [htext, readValue_array _ ?_, hinner,
    readItems_write hstyle hread (depth + 1) (isSpace_beforeClose style depth) [] hlength]
  · rfl
  · -- no item begins with the bracket that closes an empty array
    rw [hinner, hu]
    refine ⟨c, _, rfl, ?_⟩
    simp only [beginsValue, Bool.and_eq_true, bne_iff_ne] at hc
    exact hc.2

/-- An object is read back if its values are. -/
theorem readValue_writeObject {limit : Nat} {key : Text} {value : Json} {fields : List (Text × Json)}
    (hread : ∀ f ∈ (key, value) :: fields, Readable limit f.2 ∧ ReadsBack style limit f.2) (depth : Nat)
    (rest : Text) {fuel : Nat}
    (hfuel : (write style depth (.object ((key, value) :: fields))).length ≤ fuel + 1) :
    readValue (fuel + 1) (limit + 1) (write style depth (.object ((key, value) :: fields)) ++ rest) =
      some (.object ((key, value) :: fields), rest) := by
  have htext : write style depth (.object ((key, value) :: fields)) ++ rest =
      '\x7b' :: (beforeItem style (depth + 1) true ++ (quoted style.ascii key ++ (style.colon ++
        (write style (depth + 1) value ++
          (writeFields style (depth + 1) fields ++ (beforeClose style depth ++ '\x7d' :: rest)))))) := by
    simp [write]
  have hlength : (write style (depth + 1) value ++ writeFields style (depth + 1) fields).length < fuel := by
    simp only [write, List.length_append, List.length_cons] at hfuel
    rw [List.length_append]
    omega
  have hinner := skipSpace_append (isSpace_beforeFirst style (depth + 1))
    (t := quoted style.ascii key ++ (style.colon ++ (write style (depth + 1) value ++
      (writeFields style (depth + 1) fields ++ (beforeClose style depth ++ '\x7d' :: rest)))))
  rw [skipSpace_quoted] at hinner
  rw [htext, readValue_object _ ?_, hinner,
    readFields_write hstyle hread (depth + 1) (isSpace_beforeClose style depth) [] hlength]
  · rfl
  · rw [hinner]
    exact ⟨'\x22', _, rfl, by decide⟩

/-- Every readable value is read back. -/
theorem Readable.readsBack {limit : Nat} {v : Json} (h : Readable limit v) : ReadsBack style limit v := by
  refine readsBack_of_step h ?_
  induction h with
  | null =>
    intro depth rest fuel _ _
    rw [write]
    exact readValue_scalar (by decide) (by decide)
  | bool b =>
    intro depth rest fuel _ _
    cases b <;> rw [write] <;> exact readValue_scalar (by decide) (by decide)
  | @int limit n hn =>
    intro depth rest fuel hrest _
    obtain ⟨c, t, ht, harray, hobject⟩ := exists_ofInt n
    have hscalar := readScalar_ofInt hrest hn
    rw [write]
    rw [ht, List.cons_append] at hscalar ⊢
    rw [readValue_scalar harray hobject, hscalar]
  | string t =>
    intro depth rest fuel _ _
    obtain ⟨body, hbody, hread⟩ := readString_quoted rest style.ascii t
    rw [write, hbody, readValue_scalar (by decide) (by decide), readScalar, hread]
    rfl
  | noItems =>
    intro depth rest fuel _ _
    rw [write]
    rfl
  | noFields =>
    intro depth rest fuel _ _
    rw [write]
    rfl
  | @array limit items hitems ih =>
    intro depth rest fuel _ hfuel
    cases items with
    | nil =>
      rw [write]
      rfl
    | cons item items =>
      exact readValue_writeArray hstyle
        (fun v hv => ⟨hitems v hv, readsBack_of_step (hitems v hv) (ih v hv)⟩) depth rest hfuel
  | @object limit fields hfields ih =>
    intro depth rest fuel _ hfuel
    cases fields with
    | nil =>
      rw [write]
      rfl
    | cons f fields =>
      exact readValue_writeObject hstyle
        (fun f hf => ⟨hfields f hf, readsBack_of_step (hfields f hf) (ih f hf)⟩) depth rest hfuel

/-- A value is read back from its text at any depth, with blanks behind it or not. -/
theorem parse?_write {v : Json} (h : Readable depthLimit v) (depth : Nat) {blanks : Text}
    (hblanks : ∀ c ∈ blanks, isSpace c = true) : parse? (write style depth v ++ blanks) = some v := by
  have hstops : Stops blanks := by
    have hnil : Stops [] := fun c hc => by cases hc
    simpa using stops_blanks hblanks hnil
  have hfuel : (write style depth v).length ≤ 2 * (write style depth v ++ blanks).length + 2 := by
    rw [List.length_append]
    omega
  have hempty : skipSpace blanks = [] := by
    have := skipSpace_append (t := []) hblanks
    rwa [List.append_nil] at this
  rw [parse?, skipSpace_write h, h.readsBack hstyle depth blanks _ hstops hfuel]
  dsimp only
  rw [hempty]
  rfl

theorem parse?_render {v : Json} (h : Readable depthLimit v) {blanks : Text}
    (hblanks : ∀ c ∈ blanks, isSpace c = true) : parse? (render style v ++ blanks) = some v :=
  parse?_write hstyle h 0 hblanks

end Values

/-! ## Line ends

Control characters are escaped, so that the only line ends of a text are the line feeds of an indented style:
the text keeps its line ends in a file, and without indentation it is one line. -/

section Lines

/-- No control character, but for the line feeds of an indented style. -/
def isLineChar (indented : Bool) (c : Char) : Bool := 32 ≤ c.toNat || (indented && c == '\n')

theorem isLineChar_of_le {c : Char} (indented : Bool) (h : 32 ≤ c.toNat) : isLineChar indented c = true := by
  simp [isLineChar, h]

theorem le_hexChar : ∀ n < 16, 32 ≤ (Text.hexChar n).toNat := by decide

theorem le_unitEscape (n : Nat) : ∀ c ∈ unitEscape n, 32 ≤ c.toNat := by
  have hhex (m : Nat) : 32 ≤ (Text.hexChar (m % 16)).toNat := le_hexChar (m % 16) (Nat.mod_lt m (by decide))
  simp [unitEscape, Text.hex, hhex]

theorem shortEscape?_control : ∀ n < 32, shortEscape? (Char.ofNat n) = none := by decide

theorem Escaped.le {c : Char} {t : Text} (h : Escaped c t) : ∀ d ∈ t, 32 ≤ d.toNat := by
  cases h with
  | @short d _ h =>
    have hd : 32 ≤ d.toNat := by
      by_cases hlt : d.toNat < 32
      · have hnone := shortEscape?_control d.toNat hlt
        rw [Char.ofNat_toNat, h] at hnone
        cases hnone
      · exact Nat.not_lt.1 hlt
    simp [hd]
  | unit => exact le_unitEscape _
  | pair => exact List.forall_mem_append.2 ⟨le_unitEscape _, le_unitEscape _⟩
  | plain _ _ hcontrol => simpa using hcontrol

theorem le_quoted (ascii : Bool) (t : Text) : ∀ c ∈ quoted ascii t, 32 ≤ c.toNat := by
  have hbody : ∀ c ∈ t.flatMap (escapeChar ascii), 32 ≤ c.toNat := by
    intro c hc
    obtain ⟨d, -, hd⟩ := List.mem_flatMap.1 hc
    exact (escaped_escapeChar ascii d).le c hd
  rw [quoted]
  exact List.forall_mem_append.2 ⟨List.forall_mem_cons.2 ⟨by decide, hbody⟩, by decide⟩

theorem le_ofNat (n : Nat) : ∀ c ∈ Text.ofNat n, 32 ≤ c.toNat := by
  intro c hc
  have hdigit := isDigit_of_mem_ofNat hc
  have hle : '0' ≤ c := by
    simp only [Text.isDigit, Bool.and_eq_true, decide_eq_true_eq] at hdigit
    exact hdigit.1
  exact Nat.le_trans (by decide) (show ('0' : Char).toNat ≤ c.toNat from hle)

theorem le_ofInt (n : Int) : ∀ c ∈ Text.ofInt n, 32 ≤ c.toNat := by
  cases n with
  | ofNat n => exact le_ofNat n
  | negSucc n => exact List.forall_mem_cons.2 ⟨by decide, le_ofNat _⟩

theorem isLineChar_lineBreak (depth : Nat) : ∀ c ∈ lineBreak depth, isLineChar true c = true := by
  refine List.forall_mem_cons.2 ⟨by decide, fun c hc => ?_⟩
  rw [List.eq_of_mem_replicate hc]
  decide

variable {style : Style} (hcomma : ∀ c ∈ style.comma, isLineChar style.indented c = true)
  (hcolon : ∀ c ∈ style.colon, isLineChar style.indented c = true)

theorem isLineChar_beforeClose (depth : Nat) :
    ∀ c ∈ beforeClose style depth, isLineChar style.indented c = true := by
  unfold beforeClose
  split
  · rename_i hindented
    rw [hindented]
    exact isLineChar_lineBreak depth
  · exact List.forall_mem_nil _

theorem isLineChar_quoted (t : Text) : ∀ c ∈ quoted style.ascii t, isLineChar style.indented c = true :=
  fun c hc => isLineChar_of_le _ (le_quoted _ t c hc)

include hcomma

theorem isLineChar_beforeItem (depth : Nat) (first : Bool) :
    ∀ c ∈ beforeItem style depth first, isLineChar style.indented c = true := by
  refine List.forall_mem_append.2 ⟨?_, isLineChar_beforeClose depth⟩
  split
  · exact List.forall_mem_nil _
  · exact hcomma

theorem isLineChar_writeItems {items : List Json} (depth : Nat)
    (h : ∀ v ∈ items, ∀ c ∈ write style depth v, isLineChar style.indented c = true) :
    ∀ c ∈ writeItems style depth items, isLineChar style.indented c = true := by
  induction items with
  | nil => exact List.forall_mem_nil _
  | cons item items ih =>
    obtain ⟨hitem, hitems⟩ := List.forall_mem_cons.1 h
    simp only [writeItems, List.forall_mem_append]
    exact ⟨⟨isLineChar_beforeItem hcomma depth false, hitem⟩, ih hitems⟩

include hcolon

theorem isLineChar_writeFields {fields : List (Text × Json)} (depth : Nat)
    (h : ∀ f ∈ fields, ∀ c ∈ write style depth f.2, isLineChar style.indented c = true) :
    ∀ c ∈ writeFields style depth fields, isLineChar style.indented c = true := by
  induction fields with
  | nil => exact List.forall_mem_nil _
  | cons f fields ih =>
    obtain ⟨hvalue, hfields⟩ := List.forall_mem_cons.1 h
    simp only [writeFields, List.forall_mem_append]
    exact ⟨⟨⟨⟨isLineChar_beforeItem hcomma depth false, isLineChar_quoted f.1⟩, hcolon⟩, hvalue⟩, ih hfields⟩

theorem isLineChar_write {limit : Nat} {v : Json} (h : Readable limit v) (depth : Nat) :
    ∀ c ∈ write style depth v, isLineChar style.indented c = true := by
  have hle {t : Text} (ht : ∀ c ∈ t, 32 ≤ c.toNat) : ∀ c ∈ t, isLineChar style.indented c = true :=
    fun c hc => isLineChar_of_le _ (ht c hc)
  induction h generalizing depth with
  | null =>
    rw [write]
    exact hle (by decide)
  | bool b =>
    cases b <;> rw [write]
    · exact hle (by decide)
    · exact hle (by decide)
  | @int _ n _ =>
    rw [write]
    exact hle (le_ofInt n)
  | string t =>
    rw [write]
    exact isLineChar_quoted t
  | noItems =>
    rw [write]
    exact hle (by decide)
  | noFields =>
    rw [write]
    exact hle (by decide)
  | @array _ items _ ih =>
    cases items with
    | nil =>
      rw [write]
      exact hle (by decide)
    | cons item items =>
      obtain ⟨hitem, hitems⟩ := List.forall_mem_cons.1 fun v hv => ih v hv (depth + 1)
      have hopen := isLineChar_of_le (c := '[') style.indented (by decide)
      have hclose := isLineChar_of_le (c := ']') style.indented (by decide)
      simp only [write, List.forall_mem_append, List.forall_mem_cons]
      exact ⟨⟨⟨⟨⟨hopen, isLineChar_beforeItem hcomma _ true⟩, hitem⟩, isLineChar_writeItems hcomma _ hitems⟩,
        isLineChar_beforeClose depth⟩, hclose, List.forall_mem_nil _⟩
  | @object _ fields _ ih =>
    cases fields with
    | nil =>
      rw [write]
      exact hle (by decide)
    | cons f fields =>
      obtain ⟨hvalue, hfields⟩ := List.forall_mem_cons.1 fun f hf => ih f hf (depth + 1)
      have hopen := isLineChar_of_le (c := '\x7b') style.indented (by decide)
      have hclose := isLineChar_of_le (c := '\x7d') style.indented (by decide)
      simp only [write, List.forall_mem_append, List.forall_mem_cons]
      exact ⟨⟨⟨⟨⟨⟨⟨hopen, isLineChar_beforeItem hcomma _ true⟩, isLineChar_quoted f.1⟩, hcolon⟩, hvalue⟩,
        isLineChar_writeFields hcomma hcolon _ hfields⟩, isLineChar_beforeClose depth⟩, hclose,
        List.forall_mem_nil _⟩

/-- No style writes a carriage return. -/
theorem not_mem_write {limit : Nat} {v : Json} (h : Readable limit v) (depth : Nat) :
    '\r' ∉ write style depth v := by
  intro hmem
  have hchar := isLineChar_write hcomma hcolon h depth _ hmem
  cases hi : style.indented <;> rw [hi] at hchar <;> cases hchar

end Lines

end DryRun.Json
