import DryRun.Settings.Load

/-!
# Where a setting comes from

The values of all sources are laid over each other key by key. Without overrides a setting has the value of
its variable in the environment or, if there is none, in the file (`field?_merge`); overrides change the
settings that they name and nothing else (`field?_overlay_ne`, `unknownKeys_overlay`). Settings are valid just
if each of them is (`isOk_ofFields`), so that overrides can only hide what is wrong with the settings that they
name.
-/

namespace DryRun

open Validation

namespace Settings

/-! ## Laying values over each other -/

theorem field?_append (A B : List (Text × Json)) (name : Text) :
    Json.field? (A ++ B) name = (Json.field? B name).or (Json.field? A name) := by
  simp [Json.field?, List.find?_append, Option.map_or]

theorem field?_cons (e : Text × Json) (fields : List (Text × Json)) (name : Text) :
    Json.field? (e :: fields) name = (Json.field? fields name).or (if e.1 = name then some e.2 else none) := by
  rw [← List.singleton_append, field?_append]
  by_cases h : e.1 = name <;> simp [Json.field?, h]

theorem field?_eq_none {fields : List (Text × Json)} {name : Text} (h : ∀ e ∈ fields, e.1 ≠ name) :
    Json.field? fields name = none := by
  simpa [Json.field?] using fun k v hm => h (k, v) hm

/-- The key stands in the list once at most. -/
def Once (name : Text) (fields : List (Text × Json)) : Prop :=
  fields.Pairwise fun a b => ¬(a.1 = name ∧ b.1 = name)

theorem mem_setKey {α : Type} {key : Text} {value : α} {fields : List (Text × α)} {e : Text × α}
    (h : e ∈ setKey key value fields) : e = (key, value) ∨ e ∈ fields := by
  induction fields with
  | nil => exact .inl (List.mem_singleton.1 h)
  | cons f fields ih =>
    rw [setKey] at h
    split at h
    · exact (List.mem_cons.1 h).imp_right (List.mem_cons_of_mem _)
    · rcases List.mem_cons.1 h with rfl | h
      · exact .inr List.mem_cons_self
      · exact (ih h).imp_right (List.mem_cons_of_mem _)

section SetKey

variable {key name : Text} {value : Json} {fields : List (Text × Json)}

theorem field?_setKey_ne (h : key ≠ name) :
    Json.field? (setKey key value fields) name = Json.field? fields name := by
  induction fields with
  | nil => simp [setKey, Json.field?, h]
  | cons f fields ih =>
    rw [setKey]
    split
    · rename_i hk
      rw [field?_cons, field?_cons, eq_of_beq hk, if_neg h, if_neg h]
    · rw [field?_cons, field?_cons, ih]

theorem field?_setKey_self (h : Once key fields) : Json.field? (setKey key value fields) key = some value := by
  induction fields with
  | nil => simp [setKey, Json.field?]
  | cons f fields ih =>
    obtain ⟨hf, hrest⟩ := List.pairwise_cons.1 h
    rw [setKey]
    split
    · rename_i hk
      have hnone : Json.field? fields key = none :=
        field?_eq_none fun e he hkey => hf e he ⟨eq_of_beq hk, hkey⟩
      rw [field?_cons, hnone, if_pos rfl, Option.none_or]
    · rw [field?_cons, ih hrest, Option.some_or]

theorem Once.setKey (h : Once name fields) : Once name (setKey key value fields) := by
  induction fields with
  | nil => exact List.pairwise_singleton _ _
  | cons f fields ih =>
    obtain ⟨hf, hrest⟩ := List.pairwise_cons.1 h
    rw [Settings.setKey]
    split
    · rename_i hk
      refine List.pairwise_cons.2 ⟨fun e he => ?_, hrest⟩
      rw [← eq_of_beq hk]
      exact hf e he
    · rename_i hk
      refine List.pairwise_cons.2 ⟨fun e he => ?_, ih hrest⟩
      rintro ⟨hname, hkey⟩
      rcases mem_setKey he with rfl | he
      · exact hk (by rw [hname]; exact beq_iff_eq.2 hkey.symm)
      · exact hf e he ⟨hname, hkey⟩

end SetKey

/-- The entries of a list laid over those of another. -/
abbrev overlay (fields updates : List (Text × Json)) : List (Text × Json) :=
  updates.foldl (fun done e => setKey e.1 e.2 done) fields

theorem field?_overlay {fields : List (Text × Json)} {name : Text} (h : Once name fields)
    (updates : List (Text × Json)) :
    Json.field? (overlay fields updates) name = (Json.field? updates name).or (Json.field? fields name) := by
  induction updates generalizing fields with
  | nil => rfl
  | cons e updates ih =>
    rw [overlay, List.foldl_cons, ih h.setKey, field?_cons, Option.or_assoc]
    congr 1
    by_cases he : e.1 = name
    · subst he
      rw [field?_setKey_self h, if_pos rfl, Option.some_or]
    · rw [field?_setKey_ne he, if_neg he, Option.none_or]

/-! ## Variables -/

/-- The variables of a file with keys in lower case. -/
def fileVariables (environment : List (Text × Text)) (file : Option Text) : List (Text × Text) :=
  (lowerKeys ((Dotenv.parse environment (file.getD [])).map fun b => (b.key, b.value))).filterMap
    fun b => b.2.map fun v => (b.1, v)

/-- The text of the variable for a setting. -/
def textOf? (entries : List (Text × Text)) (name : Text) : Option Text :=
  (entries.find? (·.1 == variableMark ++ name)).map (·.2)

/-- The text that the environment, or else the file, gives for a setting. -/
def givenText? (environment : List (Text × Text)) (file : Option Text) (name : Text) : Option Text :=
  (textOf? (lowerKeys environment) name).or (textOf? (fileVariables environment file) name)

theorem merge_eq (sources : Sources) :
    merge sources = overlay
      (overlay (fromVariables (fileVariables sources.environment sources.dotenv) ++
          unknownVariables (fileVariables sources.environment sources.dotenv))
        (fromVariables (lowerKeys sources.environment)))
      (namedOverrides sources.overrides) := by
  rw [merge, List.foldl_append]
  rfl

theorem field?_filterMap (value? : Text → Option Json) (names : List Text) {name : Text} :
    Json.field? (names.filterMap fun n => (value? n).map fun v => (n, v)) name =
      if name ∈ names then value? name else none := by
  induction names with
  | nil => simp [Json.field?]
  | cons n names ih =>
    by_cases hn : n = name
    · subst hn
      cases hv : value? n with
      | none => simp [hv, ih]
      | some v =>
        rw [List.filterMap_cons_some (by rw [hv]; rfl), field?_cons, ih, if_pos rfl,
          if_pos List.mem_cons_self, hv]
        split <;> rfl
    · have hmem : name ∈ n :: names ↔ name ∈ names := by simp [Ne.symm hn]
      cases hv : value? n with
      | none => simp [hv, ih, hmem]
      | some v =>
        rw [List.filterMap_cons_some (by rw [hv]; rfl), field?_cons, ih, if_neg hn, Option.or_none]
        simp [hmem]

theorem fromVariables_eq (entries : List (Text × Text)) :
    fromVariables entries =
      fieldNames.filterMap fun n => ((textOf? entries n).map Json.string).map fun v => (n, v) := by
  simp only [fromVariables, textOf?, Option.map_map]
  rfl

theorem field?_fromVariables (entries : List (Text × Text)) {name : Text} (h : name ∈ fieldNames) :
    Json.field? (fromVariables entries) name = (textOf? entries name).map .string := by
  rw [fromVariables_eq, field?_filterMap, if_pos h]

theorem mem_unknownVariables {entries : List (Text × Text)} {e : Text × Json}
    (h : e ∈ unknownVariables entries) : e.1 ∉ fieldNames := by
  obtain ⟨v, hv, rfl⟩ := List.mem_map.1 h
  have := (List.mem_filter.1 hv).2
  simp only [Bool.and_eq_true, Bool.not_eq_true', List.contains_eq_mem, decide_eq_false_iff_not] at this
  exact this.1.2

theorem once_fromVariables (entries : List (Text × Text)) (name : Text) :
    Once name (fromVariables entries) := by
  have hnodup : fieldNames.Nodup := by decide
  rw [fromVariables_eq, Once, List.pairwise_filterMap]
  refine hnodup.imp fun {a b} hne x hx y hy => ?_
  obtain ⟨v, -, rfl⟩ := Option.map_eq_some_iff.1 hx
  obtain ⟨w, -, rfl⟩ := Option.map_eq_some_iff.1 hy
  rintro ⟨rfl, rfl⟩
  exact hne rfl

/-- Without overrides a setting comes from the environment or else from the file. -/
theorem field?_merge (environment : List (Text × Text)) (file : Option Text) {name : Text}
    (h : name ∈ fieldNames) :
    Json.field? (merge ⟨[], environment, file⟩) name = (givenText? environment file name).map .string := by
  have hunknown : ∀ entries, ∀ e ∈ unknownVariables entries, e.1 ≠ name := fun entries e he heq =>
    mem_unknownVariables he (heq ▸ h)
  have honce : Once name (fromVariables (fileVariables environment file) ++
      unknownVariables (fileVariables environment file)) := by
    refine List.pairwise_append.2 ⟨once_fromVariables _ _, ?_, fun a _ b hb hab => hunknown _ b hb hab.2⟩
    exact List.pairwise_of_forall_mem_list fun a ha _ _ hab => hunknown _ a ha hab.1
  rw [merge_eq]
  change Json.field? (overlay (fromVariables (fileVariables environment file) ++
    unknownVariables (fileVariables environment file)) (fromVariables (lowerKeys environment))) name = _
  rw [field?_overlay honce, field?_fromVariables _ h, field?_append, field?_eq_none (hunknown _),
    Option.none_or, field?_fromVariables _ h, givenText?, Option.map_or]

/-! ## Overrides -/

theorem merge_override (overrides : List (Text × Json)) (environment : List (Text × Text))
    (file : Option Text) : merge ⟨overrides, environment, file⟩ =
      overlay (merge ⟨[], environment, file⟩) (namedOverrides overrides) := by
  rw [merge_eq, merge_eq]
  rfl

theorem filter_setKey {key : Text} (value : Json) (hkey : key ∈ fieldNames) (fields : List (Text × Json)) :
    (setKey key value fields).filter (fun f => !fieldNames.contains f.1) =
      fields.filter fun f => !fieldNames.contains f.1 := by
  induction fields with
  | nil => simp [setKey, hkey]
  | cons f fields ih =>
    rw [setKey]
    split
    · rename_i hk
      rw [List.filter_cons_of_neg (by simp [hkey]), List.filter_cons_of_neg (by simp [eq_of_beq hk, hkey])]
    · rw [List.filter_cons, List.filter_cons, ih]

/-- Values laid over others leave alone the keys that they do not have. -/
theorem field?_overlay_ne {updates : List (Text × Json)} {name : Text} (h : ∀ e ∈ updates, e.1 ≠ name)
    (fields : List (Text × Json)) : Json.field? (overlay fields updates) name = Json.field? fields name := by
  induction updates generalizing fields with
  | nil => rfl
  | cons e updates ih =>
    obtain ⟨he, hrest⟩ := List.forall_mem_cons.1 h
    exact (ih hrest _).trans (field?_setKey_ne he)

/-- Values of settings laid over others leave alone what is no setting. -/
theorem unknownKeys_overlay {updates : List (Text × Json)} (h : ∀ e ∈ updates, e.1 ∈ fieldNames)
    (fields : List (Text × Json)) : unknownKeys (overlay fields updates) = unknownKeys fields := by
  induction updates generalizing fields with
  | nil => rfl
  | cons e updates ih =>
    obtain ⟨he, hrest⟩ := List.forall_mem_cons.1 h
    refine (ih hrest _).trans ?_
    rw [unknownKeys, filter_setKey _ he]
    rfl

end Settings

/-! ## Valid settings -/

namespace Validation

variable {α β : Type}

/-- The issues that were found. -/
def issuesOf : Validated α → List Issue
  | .ok _ => []
  | .error issues => issues

theorem isOk_apply (f : Validated (α → β)) (a : Validated α) : (apply f a).isOk = (f.isOk && a.isOk) := by
  cases f <;> cases a <;> rfl

theorem issuesOf_apply (f : Validated (α → β)) (a : Validated α) :
    issuesOf (apply f a) = issuesOf f ++ issuesOf a := by
  cases f <;> cases a <;> simp [apply, issuesOf]

theorem isOk_map (f : α → β) (a : Validated α) : (a.map f).isOk = a.isOk := by
  cases a <;> rfl

theorem issuesOf_map (f : α → β) (a : Validated α) : issuesOf (a.map f) = issuesOf a := by
  cases a <;> rfl

theorem exists_error_iff {a : Validated α} : (∃ issues, a = .error issues) ↔ a.isOk = false := by
  cases a with
  | ok a => exact ⟨fun h => (by obtain ⟨issues, h⟩ := h; cases h), fun h => (by cases h)⟩
  | error issues => exact ⟨fun _ => rfl, fun _ => ⟨issues, rfl⟩⟩

theorem issuesOf_of_isOk {a : Validated α} (h : a.isOk = true) : issuesOf a = [] := by
  cases a with
  | ok a => rfl
  | error issues => cases h

section Optional

variable {fields : List (Text × Json)} {key : String} {default : α} {shape : Json → Validated α}

theorem optional_congr {fields' : List (Text × Json)}
    (h : Json.field? fields key.toList = Json.field? fields' key.toList) :
    optional fields key default shape = optional fields' key default shape := by
  rw [optional, optional, h]

/-- A field is valid just if the value that is given for it is. -/
theorem isOk_optional : (optional fields key default shape).isOk =
    (Json.field? fields key.toList).all fun value => (shape value).isOk := by
  unfold optional
  cases Json.field? fields key.toList with
  | none => rfl
  | some value =>
    dsimp only [Option.all_some]
    cases shape value <;> rfl

/-- The issues of a field name it. -/
theorem place_optional {issue : Issue} (h : issue ∈ issuesOf (optional fields key default shape)) :
    issue.place.head? = some (.key key.toList) := by
  unfold optional at h
  split at h
  · rename_i value hvalue
    cases hshape : shape value with
    | ok a =>
      rw [hshape] at h
      cases h
    | error issues =>
      rw [hshape] at h
      obtain ⟨inner, -, rfl⟩ := List.mem_map.1 h
      rfl
  · cases h

end Optional

end Validation

namespace Settings

theorem isOk_ofFields (fields : List (Text × Json)) : (ofFields fields).isOk =
    ((optional fields "debug" ({} : Settings).debug bool).isOk &&
      (optional fields "mock_sink" ({} : Settings).mockSink bool).isOk &&
      (optional fields "mock_connector" ({} : Settings).mockConnector connector).isOk &&
      (optional fields "ddl_parse_failure" ({} : Settings).ddlParseFailure policy).isOk &&
      (optional fields "log_level" ({} : Settings).logLevel level).isOk &&
      (optional fields "structured_logging" ({} : Settings).structuredLogging bool).isOk &&
      (unknownKeys fields).isOk) := by
  simp only [ofFields, isOk_apply, isOk_map]

theorem issuesOf_ofFields (fields : List (Text × Json)) : issuesOf (ofFields fields) =
    issuesOf (optional fields "debug" ({} : Settings).debug bool) ++
      issuesOf (optional fields "mock_sink" ({} : Settings).mockSink bool) ++
      issuesOf (optional fields "mock_connector" ({} : Settings).mockConnector connector) ++
      issuesOf (optional fields "ddl_parse_failure" ({} : Settings).ddlParseFailure policy) ++
      issuesOf (optional fields "log_level" ({} : Settings).logLevel level) ++
      issuesOf (optional fields "structured_logging" ({} : Settings).structuredLogging bool) ++
      issuesOf (unknownKeys fields) := by
  simp only [ofFields, issuesOf_apply, issuesOf_map]

/-- The overrides name the two settings for the log and no others. -/
def OverridesLog (overrides : List (Text × Json)) : Prop :=
  ∀ o ∈ namedOverrides overrides, o.1 = "log_level".toList ∨ o.1 = "structured_logging".toList

section Hidden

variable {overrides : List (Text × Json)} {environment : List (Text × Text)} {file : Option Text}
  (hlog : OverridesLog overrides) (hok : (load ⟨overrides, environment, file⟩).isOk = true)

include hlog hok

/-- If settings are valid with overrides for the log, all but the two settings for the log are valid. -/
theorem load_hidden : (load ⟨[], environment, file⟩).isOk =
      ((optional (merge ⟨[], environment, file⟩) "log_level" ({} : Settings).logLevel level).isOk &&
        (optional (merge ⟨[], environment, file⟩) "structured_logging" ({} : Settings).structuredLogging
          bool).isOk) ∧
    issuesOf (load ⟨[], environment, file⟩) =
      issuesOf (optional (merge ⟨[], environment, file⟩) "log_level" ({} : Settings).logLevel level) ++
        issuesOf (optional (merge ⟨[], environment, file⟩) "structured_logging"
          ({} : Settings).structuredLogging bool) := by
  have hkeys : ∀ o ∈ namedOverrides overrides, o.1 ∈ fieldNames := fun o ho => by
    rcases hlog o ho with h | h <;> rw [h] <;> decide
  have hother (name : String) (hname : "log_level".toList ≠ name.toList ∧
      "structured_logging".toList ≠ name.toList) :
      Json.field? (merge ⟨overrides, environment, file⟩) name.toList =
        Json.field? (merge ⟨[], environment, file⟩) name.toList := by
    rw [merge_override]
    refine field?_overlay_ne (fun o ho => ?_) _
    rcases hlog o ho with h | h <;> rw [h]
    · exact hname.1
    · exact hname.2
  have hunknown := unknownKeys_overlay hkeys (merge ⟨[], environment, file⟩)
  rw [← merge_override] at hunknown
  rw [load, isOk_ofFields, optional_congr (hother "debug" (by decide)),
    optional_congr (hother "mock_sink" (by decide)), optional_congr (hother "mock_connector" (by decide)),
    optional_congr (hother "ddl_parse_failure" (by decide)), hunknown] at hok
  simp only [Bool.and_eq_true] at hok
  obtain ⟨⟨⟨⟨⟨⟨hdebug, hsink⟩, hconnector⟩, hpolicy⟩, -⟩, -⟩, hrest⟩ := hok
  constructor
  · rw [load, isOk_ofFields, hdebug, hsink, hconnector, hpolicy, hrest]
    simp
  · rw [load, issuesOf_ofFields, issuesOf_of_isOk hdebug, issuesOf_of_isOk hsink,
      issuesOf_of_isOk hconnector, issuesOf_of_isOk hpolicy, issuesOf_of_isOk hrest]
    simp

end Hidden

/-- The text names a log level. -/
def NamesLevel (t : Text) : Prop := Text.upper t ∈ levelNames

/-- The text stands for a truth value. -/
def NamesTruth (t : Text) : Prop := (boolWord? t).isSome = true

instance (t : Text) : Decidable (NamesLevel t) := inferInstanceAs (Decidable (_ ∈ _))

instance (t : Text) : Decidable (NamesTruth t) := inferInstanceAs (Decidable (_ = _))

theorem isOk_level (t : Text) : (level (.string t)).isOk = true ↔ NamesLevel t := by
  have hlevel : level (.string t) = if levelNames.contains (Text.upper t) then .ok (Text.upper t)
      else fail (.string t) (.rule ("Unknown log level: ".toList ++ t)) := rfl
  rw [hlevel, NamesLevel, ← List.contains_iff_mem]
  cases levelNames.contains (Text.upper t) with
  | false => exact ⟨fun h => (by cases h), fun h => (by cases h)⟩
  | true => exact ⟨fun _ => rfl, fun _ => rfl⟩

theorem isOk_bool (t : Text) : (bool (.string t)).isOk = true ↔ NamesTruth t := by
  have hword : Validation.bool (.string t) = readBool (.string t) (boolWord? t) := rfl
  rw [hword, NamesTruth]
  cases boolWord? t with
  | none => exact ⟨fun h => (by cases h), fun h => (by cases h)⟩
  | some b => exact ⟨fun _ => rfl, fun _ => rfl⟩

/-- If settings are valid with overrides for the log, they are not valid without them just if the
environment, or else the file, gives a text for one of the overridden settings that it cannot have. -/
theorem load_eq_error_iff {overrides : List (Text × Json)} {environment : List (Text × Text)}
    {file : Option Text} (hlog : OverridesLog overrides)
    (hok : (load ⟨overrides, environment, file⟩).isOk = true) :
    (∃ issues, load ⟨[], environment, file⟩ = .error issues) ↔
      (∃ t, givenText? environment file "log_level".toList = some t ∧ ¬NamesLevel t) ∨
        ∃ t, givenText? environment file "structured_logging".toList = some t ∧ ¬NamesTruth t := by
  have hfield (name : String) (hname : name.toList ∈ fieldNames) (check : Json → Bool) :
      (Json.field? (merge ⟨[], environment, file⟩) name.toList).all check = false ↔
        ∃ t, givenText? environment file name.toList = some t ∧ ¬check (.string t) = true := by
    rw [field?_merge _ _ hname]
    cases givenText? environment file name.toList <;> simp
  rw [exists_error_iff, (load_hidden hlog hok).1, Bool.and_eq_false_iff, isOk_optional, isOk_optional,
    hfield _ (by decide), hfield _ (by decide)]
  simp only [isOk_level, isOk_bool]

end Settings

end DryRun
