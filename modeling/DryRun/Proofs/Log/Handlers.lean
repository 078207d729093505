import DryRun.Log.Root
import DryRun.Proofs.Text.Classes

/-!
# Handlers over a run

A run configures the root logger and adds handlers from elsewhere, in any order. `Tracks` says what the logger
has come to after some steps: it has the handler and the level of the last configuration, if there was one, and
all handlers from elsewhere in the order in which they were first added. Each step keeps it, so that it holds
after every run (`run_tracks`).
-/

namespace DryRun.Log.Root

/-! ## Removing and adding handlers -/

theorem removeOwn_eq (root : Root) (h : Handler) :
    root.removeOwn h = if h.isOwn then { root with handlers := root.handlers.erase h } else root := rfl

/-- Going through the handlers removes all of our own: those before the place that has been reached are from
elsewhere, so that the first handler equal to the one at hand is that one. -/
theorem foldl_removeOwn (level : Int) {kept : List Handler} (hkept : ∀ h ∈ kept, h.isOwn = false)
    (rest : List Handler) :
    rest.foldl removeOwn ⟨level, kept ++ rest⟩ = ⟨level, kept ++ rest.filter (!·.isOwn)⟩ := by
  induction rest generalizing kept with
  | nil => rfl
  | cons h rest ih =>
    rw [List.foldl_cons, removeOwn_eq]
    cases hown : h.isOwn with
    | true =>
      have hnot : h ∉ kept := fun hm => by
        rw [hkept h hm] at hown
        cases hown
      have hremove : (kept ++ h :: rest).erase h = kept ++ rest := by
        rw [List.erase_append_right _ hnot, List.erase_cons_head]
      rw [if_pos rfl, hremove, ih hkept, List.filter_cons_of_neg (by simp [hown])]
    | false =>
      have hkept' : ∀ g ∈ kept ++ [h], g.isOwn = false := by
        intro g hg
        rcases List.mem_append.1 hg with hg | hg
        · exact hkept g hg
        · rw [List.mem_singleton.1 hg, hown]
      rw [if_neg (by simp), List.append_cons, ih hkept', List.filter_cons_of_pos (by simp [hown]),
        ← List.append_cons]

theorem clear_eq (root : Root) : root.clear = { root with handlers := root.handlers.filter (!·.isOwn) } :=
  foldl_removeOwn root.level (List.forall_mem_nil _) root.handlers

theorem addHandler_of_not_mem {root : Root} {h : Handler} (hm : h ∉ root.handlers) :
    root.addHandler h = { root with handlers := root.handlers ++ [h] } := by
  rw [addHandler, if_neg (by simpa using hm)]

/-- A configuration removes all handlers of our own, wherever they stand, and adds one at the end. -/
theorem configure_eq (root : Root) (s : Settings) :
    root.configure s = ⟨if s.debug then 10 else levelNumber s.logLevel,
      root.handlers.filter (!·.isOwn) ++ [.own s.structuredLogging]⟩ := by
  have hnot : Handler.own s.structuredLogging ∉ root.clear.handlers := by
    rw [clear_eq]
    simp [Handler.isOwn]
  rw [configure, addHandler_of_not_mem hnot, clear_eq]

/-! ## Runs -/

/-- What is done with the root logger. -/
inductive Step where
  | configure (settings : Settings)
  /-- Adds the handler from elsewhere with this number. -/
  | add (number : Nat)

/-- The logger after a step. -/
def step (root : Root) : Step → Root
  | .configure s => root.configure s
  | .add number => root.addHandler (.foreign number)

/-- The logger after steps. -/
def run (root : Root) (steps : List Step) : Root := steps.foldl step root

/-- The settings of a configuration. -/
def Step.settings? : Step → Option Settings
  | .configure s => some s
  | .add _ => none

/-- The handler that is added. -/
def Step.added? : Step → Option Nat
  | .configure _ => none
  | .add number => some number

/-- The settings of the last configuration. -/
def lastSettings? (steps : List Step) : Option Settings := (steps.filterMap Step.settings?).getLast?

/-- The handlers from elsewhere in the order in which they were first added. -/
def added (steps : List Step) : List Nat := (steps.filterMap Step.added?).eraseDups

theorem lastSettings?_configure (steps : List Step) (s : Settings) :
    lastSettings? (steps ++ [.configure s]) = some s := by
  simp [lastSettings?, Step.settings?]

theorem lastSettings?_add (steps : List Step) (number : Nat) :
    lastSettings? (steps ++ [.add number]) = lastSettings? steps := by
  simp [lastSettings?, Step.settings?]

theorem added_configure (steps : List Step) (s : Settings) : added (steps ++ [.configure s]) = added steps := by
  have hnone : [Step.configure s].filterMap Step.added? = [] := rfl
  rw [added, List.filterMap_append, hnone, List.append_nil, added]

theorem added_add (steps : List Step) (number : Nat) :
    added (steps ++ [.add number]) =
      if number ∈ added steps then added steps else added steps ++ [number] := by
  have hone : [Step.add number].filterMap Step.added? = [number] := rfl
  rw [added, List.filterMap_append, hone, List.eraseDups_append, ← added, List.removeAll]
  by_cases hm : number ∈ added steps
  · have hm' := List.mem_eraseDups.1 hm
    rw [if_pos hm, List.filter_cons_of_neg (by simpa using hm')]
    simp
  · have hm' : number ∉ steps.filterMap Step.added? := fun h => hm (List.mem_eraseDups.2 h)
    rw [if_neg hm, List.filter_cons_of_pos (by simpa using hm')]
    rfl

/-! ## What a run keeps -/

/-- What the logger has come to after steps. -/
structure Tracks (steps : List Step) (root : Root) : Prop where
  /-- The only handler of our own is that of the last configuration. -/
  own : root.handlers.filter Handler.isOwn =
    ((lastSettings? steps).map fun s => Handler.own s.structuredLogging).toList
  foreign : root.handlers.filter (!·.isOwn) = (added steps).map .foreign
  level : ∀ s, lastSettings? steps = some s →
    root.level = if s.debug then 10 else levelNumber s.logLevel

theorem Tracks.configure {steps : List Step} {root : Root} (h : Tracks steps root) (s : Settings) :
    Tracks (steps ++ [.configure s]) (root.configure s) := by
  rw [configure_eq]
  refine ⟨?_, ?_, fun t ht => ?_⟩
  · have hnone : (root.handlers.filter (!·.isOwn)).filter Handler.isOwn = [] := by simp
    rw [lastSettings?_configure, List.filter_append, hnone]
    rfl
  · rw [added_configure, ← h.foreign, List.filter_append, List.filter_filter]
    simp [Handler.isOwn]
  · rw [lastSettings?_configure] at ht
    cases ht
    rfl

theorem Tracks.mem_added {steps : List Step} {root : Root} (h : Tracks steps root) (number : Nat) :
    Handler.foreign number ∈ root.handlers ↔ number ∈ added steps := by
  have hmem : Handler.foreign number ∈ root.handlers.filter (!·.isOwn) ↔ number ∈ added steps := by
    rw [h.foreign]
    simp
  simpa [Handler.isOwn] using hmem

theorem Tracks.add {steps : List Step} {root : Root} (h : Tracks steps root) (number : Nat) :
    Tracks (steps ++ [.add number]) (root.addHandler (.foreign number)) := by
  by_cases hm : Handler.foreign number ∈ root.handlers
  · rw [addHandler, if_pos (List.contains_iff_mem.2 hm)]
    refine ⟨?_, ?_, ?_⟩
    · rw [lastSettings?_add, h.own]
    · rw [added_add, if_pos ((h.mem_added number).1 hm), h.foreign]
    · rw [lastSettings?_add]
      exact h.level
  · rw [addHandler_of_not_mem hm]
    refine ⟨?_, ?_, ?_⟩
    · rw [lastSettings?_add, ← h.own, List.filter_append]
      simp [Handler.isOwn]
    · rw [added_add, if_neg (fun hn => hm ((h.mem_added number).2 hn)), List.map_append, ← h.foreign,
        List.filter_append]
      rfl
    · rw [lastSettings?_add]
      exact h.level

/-- Every step keeps track of what has been done. -/
theorem Tracks.step {steps : List Step} {root : Root} (h : Tracks steps root) (t : Step) :
    Tracks (steps ++ [t]) (root.step t) := by
  cases t with
  | configure s => exact h.configure s
  | add number => exact h.add number

theorem run_tracks {done : List Step} {root : Root} (h : Tracks done root) (steps : List Step) :
    Tracks (done ++ steps) (root.run steps) := by
  induction steps generalizing done root with
  | nil => simpa [run] using h
  | cons t steps ih =>
    have := ih (h.step t)
    rwa [List.append_assoc] at this

theorem tracks_nil {root : Root} (h : root.handlers = []) : Tracks [] root :=
  ⟨by rw [h]; rfl, by rw [h]; rfl, fun s hs => by cases hs⟩

/-! ## Writing -/

/-- What the formatter of a handler of our own makes of an entry. -/
def formatted (structured : Bool) (e : Entry) : Except EntryError Text :=
  if structured then e.structured else e.plain

/-- Handlers from elsewhere have no part in what our own write. -/
theorem flatMap_written (e : Entry) (handlers : List Handler) :
    handlers.flatMap (written e) = (handlers.filter Handler.isOwn).flatMap (written e) := by
  induction handlers with
  | nil => rfl
  | cons h handlers ih =>
    cases h with
    | own structured => rw [List.filter_cons_of_pos rfl, List.flatMap_cons, List.flatMap_cons, ih]
    | foreign number =>
      rw [List.filter_cons_of_neg (by simp [Handler.isOwn]), List.flatMap_cons, ih]
      rfl

theorem emit_of_own {root : Root} {structured : Bool}
    (hown : root.handlers.filter Handler.isOwn = [.own structured]) {e : Entry} {line : Text}
    (hline : formatted structured e = .ok line) (hpass : root.passes e.level = true) :
    root.emit e = line ++ ['\n'] := by
  unfold formatted at hline
  rw [emit, if_pos hpass, flatMap_written, hown]
  simp [written, write, hline]

/-- After any run with at least one configuration, on a logger that had no handlers: there is one handler of our
own, with the format of the last configuration, and the level is that of the last configuration; the handlers
from elsewhere are all there, in the order in which they were added; and an entry that passes the level is
written once. -/
theorem run_configured {root : Root} (hroot : root.handlers = []) {steps : List Step} {s : Settings}
    (hlast : lastSettings? steps = some s) :
    let final := root.run steps
    final.handlers.filter Handler.isOwn = [.own s.structuredLogging] ∧
    final.level = levelNumber (if s.debug then "DEBUG".toList else s.logLevel) ∧
    final.handlers.filter (!·.isOwn) = (added steps).map .foreign ∧
    ∀ e line, formatted s.structuredLogging e = .ok line →
      final.emit e = if 0 < e.level ∧ final.level ≤ e.level then line ++ ['\n'] else [] := by
  intro final
  have h : Tracks steps final := run_tracks (tracks_nil hroot) steps
  have hown : final.handlers.filter Handler.isOwn = [.own s.structuredLogging] := by rw [h.own, hlast]; rfl
  refine ⟨hown, ?_, h.foreign, fun e line hline => ?_⟩
  · rw [h.level s hlast]
    cases s.debug <;> rfl
  · have hpass : final.passes e.level = true ↔ 0 < e.level ∧ final.level ≤ e.level := by simp [passes]
    split
    · rename_i hlevel
      exact emit_of_own hown hline (hpass.2 hlevel)
    · rename_i hlevel
      rw [emit, if_neg (fun hp => hlevel (hpass.1 hp))]

/-- Three configurations among four handlers from elsewhere, one of them added twice. -/
theorem run_configured_mixed :
    let s : Settings := { logLevel := "WARNING".toList }
    let steps := [.add 4, .configure { structuredLogging := true }, .add 7, .configure { debug := true }, .add 4,
      .configure s, .add 2]
    let e : Entry := ⟨"a".toList, 40, "m".toList, [], ⟨false, 1715776496, 0, 1⟩, .null, none⟩
    let final := run {} steps
    lastSettings? steps = some s ∧ final.handlers.filter Handler.isOwn = [.own false] ∧ final.level = 30 ∧
    final.handlers.filter (!·.isOwn) = [.foreign 4, .foreign 7, .foreign 2] ∧
    final.emit e = "2024-05-15 12:34:56,000 ERROR    a: m\n".toList := by
  intro s steps e final
  have hline : formatted false e = .ok "2024-05-15 12:34:56,000 ERROR    a: m".toList :=
    eq_ok_of_toOption (by decide +kernel)
  have hlast : lastSettings? steps = some s := rfl
  obtain ⟨hown, hlevel, hforeign, hemit⟩ := run_configured (show ({} : Root).handlers = [] from rfl) hlast
  exact ⟨rfl, hown, hlevel, hforeign, hemit e _ hline⟩

end DryRun.Log.Root
