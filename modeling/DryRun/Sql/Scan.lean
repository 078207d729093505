import DryRun.Sql.Lexeme

/-!
# Cutting a text into tokens

`scan` reads lexeme after lexeme and gives each its span; comments are kept in the list, since one
that follows the final separator counts as a statement of its own. `tokens` drops them. After a
command word at the start of a statement the rest of the statement is still read lexeme by lexeme, but
becomes one string token of the text as written.
-/

namespace DryRun.Sql

/-- The lexeme that later ones see as the one before them; a comment leaves it as it was. -/
def nextPrevious (previous : Option Lexeme) (lexemes : List Lexeme) : Option Lexeme :=
  match lexemes.getLast? with
  | some l => if l.kind == .comment then previous else some l
  | none => previous

/-- The code points of a command's text: up to the first place between lexemes where `;` follows, or
the end. -/
def commandLength (skip : Nat) (previous : Option Lexeme) (used : Nat) : Text → Except LexError Nat
  | [] => .ok used
  | c :: cs =>
    match skip with
    | skip + 1 => commandLength skip previous (used + 1) cs
    | 0 =>
      if c == ';' then .ok used
      else if Text.isBlank c then commandLength 0 previous (used + 1) cs
      else match readLexeme previous (c :: cs) with
        | .error e => .error e
        | .ok (lexemes, n) =>
          commandLength (n - 1) (nextPrevious previous lexemes) (used + 1) cs

/-- The string token for the text of a command, if it holds more than blanks. -/
def commandText (text : Text) (start : Nat) : List Token :=
  let text := Text.strip text
  if text.isEmpty then [] else [⟨⟨.string, text⟩, start, start + text.length⟩]

/-- The tokens and comments of a text, from the offset `offset` on; `skip` counts the code points ahead
that belong to the token read last. -/
def scanFrom (skip offset : Nat) (previous : Option Lexeme) : Text → Except LexError (List Token)
  | [] => .ok []
  | c :: cs =>
    match skip with
    | skip + 1 => scanFrom skip (offset + 1) previous cs
    | 0 =>
      if Text.isBlank c then scanFrom 0 (offset + 1) previous cs
      else match readLexeme previous (c :: cs) with
        | .error e => .error e
        | .ok (lexemes, n) =>
          let here := lexemes.map fun l => (⟨l, offset, offset + n⟩ : Token)
          if startsStatement previous && lexemes.any Lexeme.opensCommand then
            -- the rest of a command is read for its end only
            let rest := (c :: cs).drop n
            match commandLength 0 lexemes.getLast? 0 rest with
            | .error e => .error e
            | .ok m =>
              let spoken := commandText (rest.take m) (offset + n + (rest.takeWhile Text.isBlank).length)
              match scanFrom (n + m - 1) (offset + 1)
                  ((spoken.getLast?.map Token.toLexeme).or lexemes.getLast?) cs with
              | .error e => .error e
              | .ok tokens => .ok (here ++ spoken ++ tokens)
          else match scanFrom (n - 1) (offset + 1) (nextPrevious previous lexemes) cs with
            | .error e => .error e
            | .ok tokens => .ok (here ++ tokens)

/-- The tokens and comments of a text, in order. -/
def scan (t : Text) : Except LexError (List Token) := scanFrom 0 0 none t

def Token.isSignificant (token : Token) : Bool := token.kind != .comment

/-- The tokens of a text without its comments. -/
def tokens (t : Text) : Except LexError (List Token) :=
  (scan t).map fun pieces => pieces.filter Token.isSignificant

/-- Whether a comment follows the last separator of a list of tokens and comments. -/
def commentAfterEnd (pieces : List Token) : Bool :=
  let tail := pieces.reverse.takeWhile (·.kind == .comment)
  !tail.isEmpty && (pieces.reverse.drop tail.length).head?.any (·.kind == .semicolon)

end DryRun.Sql
