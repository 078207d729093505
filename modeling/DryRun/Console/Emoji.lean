import DryRun.Console.EmojiTable
import DryRun.Text.LowerCase

/-!
# Emoji codes

A code is a name between colons, such as `:key:`; `-emoji` or `-text` before the second colon asks for the
form of the emoji. A code whose name is in the table stands for its emoji, any other code for itself.
-/

namespace DryRun.Console

/-- A code after its first colon: its name, the mark of its form, and what follows it. -/
structure EmojiCode where
  name : Text
  form : Text
  rest : Text

/-- Reads a code after its first colon, the shortest there is; `name` is what was read of the name,
reversed. -/
def readCode? (name : Text) : Text → Option EmojiCode
  | [] => none
  | c :: cs =>
    match Text.after? "-emoji:".toList (c :: cs) with
    | some rest => some ⟨name.reverse, ['\ufe0f'], rest⟩
    | none =>
      match Text.after? "-text:".toList (c :: cs) with
      | some rest => some ⟨name.reverse, ['\ufe0e'], rest⟩
      | none =>
        if c == ':' then some ⟨name.reverse, [], cs⟩
        else if Text.isBlank c then none
        else readCode? (c :: name) cs

/-- The text with emoji for its codes; the fuel is its length. -/
def replaceCodes : Nat → Text → Text
  | 0, t => t
  | _ + 1, [] => []
  | fuel + 1, c :: cs =>
    if c == ':' then
      match readCode? [] cs with
      | none => c :: replaceCodes fuel cs
      | some code =>
        let written := (c :: cs).take (cs.length + 1 - code.rest.length)
        let shown := match emoji? (Text.lower code.name) with
          | some emoji => emoji ++ code.form
          | none => written
        shown ++ replaceCodes fuel code.rest
    else c :: replaceCodes fuel cs

def withEmoji (t : Text) : Text := if t.contains ':' then replaceCodes t.length t else t

end DryRun.Console
