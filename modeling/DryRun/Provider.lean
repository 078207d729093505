/-!
# The shared reader of statements

One reader of statements is shared by all its users. It is built on first use, by the builder that was
registered last or, if there is none, by the default one, and kept until another builder is registered
or all is forgotten. A builder is any function: a call may build a new reader, hand out one that exists,
give none, or fail. Nothing is kept of a call that gives no reader, so that the next use calls the builder
again.
-/

namespace DryRun

/-- A way to build readers of type `ρ`: what it gives, or the error with which it fails, if it is called
after so many calls of builders. -/
def Builder (ρ ε : Type) : Type := Nat → Except ε (Option ρ)

/-- The holder of the shared reader. -/
structure Provider (ρ ε : Type) where
  /-- The builder that is used if none is registered. -/
  fallback : Builder ρ ε
  /-- The builder that was registered, if any. -/
  builder : Option (Builder ρ ε) := none
  /-- The shared reader, if it was built. -/
  current : Option ρ := none
  /-- What the calls of builders came to so far, in order. -/
  calls : List (Except ε (Option ρ)) := []

namespace Provider

variable {ρ ε : Type}

/-- Registers a builder; the next reader comes from it. -/
def register (p : Provider ρ ε) (builder : Builder ρ ε) : Provider ρ ε :=
  { p with builder := some builder, current := none }

/-- Forgets the shared reader and the registered builder. -/
def reset (p : Provider ρ ε) : Provider ρ ε := { p with builder := none, current := none }

/-- The builder that the next reader comes from. -/
def maker (p : Provider ρ ε) : Builder ρ ε := p.builder.getD p.fallback

/-- The shared reader; if there is none, what a call of the builder gives, which is kept. -/
def get (p : Provider ρ ε) : Provider ρ ε × Except ε (Option ρ) :=
  match p.current with
  | some reader => (p, .ok (some reader))
  | none =>
    let result := p.maker p.calls.length
    let called := { p with calls := p.calls ++ [result] }
    match result with
    | .ok built => ({ called with current := built }, .ok built)
    | .error e => (called, .error e)

end Provider

end DryRun
