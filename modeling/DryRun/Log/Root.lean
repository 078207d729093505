import DryRun.Log.Format
import DryRun.Settings.Basic

/-!
# The root logger

The root logger has a level and a list of handlers. Configuring it goes through the handlers and removes
those of previous configurations, adds a new one at the end and sets the level; handlers from elsewhere are
left alone.
-/

namespace DryRun.Log

/-- A receiver of entries. -/
inductive Handler where
  /-- Installed by `Root.configure`; writes JSON or plain text. -/
  | own (structured : Bool)
  /-- Installed by someone else; the number tells it from others. -/
  | foreign (number : Nat)
deriving DecidableEq, Repr

/-- Whether a handler was installed by `Root.configure`. -/
def Handler.isOwn : Handler → Bool
  | .own _ => true
  | .foreign _ => false

/-- The root logger. -/
structure Root where
  level : Int := 30
  handlers : List Handler := []
deriving DecidableEq, Repr

namespace Root

/-- Adds a handler at the end, unless it is there. -/
def addHandler (root : Root) (h : Handler) : Root :=
  if root.handlers.contains h then root else { root with handlers := root.handlers ++ [h] }

def removeHandler (root : Root) (h : Handler) : Root := { root with handlers := root.handlers.erase h }

/-- Removes a handler if `configure` has installed it. -/
def removeOwn (root : Root) (h : Handler) : Root := if h.isOwn then root.removeHandler h else root

/-- Removes the handlers that `configure` has installed. -/
def clear (root : Root) : Root := root.handlers.foldl removeOwn root

/-- Installs the handler and the level that settings ask for. -/
def configure (root : Root) (s : Settings) : Root :=
  { root.clear.addHandler (.own s.structuredLogging) with
    level := if s.debug then 10 else levelNumber s.logLevel }

/-- Adds a new handler from elsewhere. -/
def addForeign (root : Root) : Root := root.addHandler (.foreign root.handlers.length)

/-- Whether entries of a level are passed to the handlers. -/
def passes (root : Root) (level : Int) : Bool := 0 < level && root.level ≤ level

/-- Whether entries of a level are written by a handler of our own. -/
def writes (root : Root) (level : Int) : Bool := root.passes level && root.handlers.any Handler.isOwn

/-- What a handler of our own writes for an entry: one line, or nothing if the message cannot be made. -/
def write (structured : Bool) (e : Entry) : Text :=
  match (if structured then e.structured else e.plain) with
  | .ok line => line ++ ['\n']
  | .error _ => []

/-- What a handler writes for an entry, if it is our own. -/
def written (e : Entry) : Handler → Text
  | .own structured => write structured e
  | .foreign _ => []

/-- Everything that handlers of our own write for an entry. -/
def emit (root : Root) (e : Entry) : Text :=
  if root.passes e.level then root.handlers.flatMap (written e) else []

end Root

end DryRun.Log
