import DryRun.Sql.Scan

/-!
# One statement

A text is read as one statement if it can be cut into tokens, there is at least one, none but the
last is a separator, the first is not, and the parentheses are balanced. `ReadError` lists the ways in
which a text fails to be one, with their wording.
-/

namespace DryRun.Sql

/-- Why a text is not one well-formed statement. -/
inductive ReadError where
  | empty
  | lexical (cause : LexError)
  /-- A separator before the last token. -/
  | several
  | unbalanced (offset : Nat)
  | unclosed
  /-- The grammar has no such statement. -/
  | grammar
  /-- The text of a hint cannot be cut into tokens. -/
  | hint (cause : LexError)
  /-- The tokens make no statement. -/
  | nothing
  /-- A comment after the final separator, which makes a second statement. -/
  | commentAfterEnd
deriving DecidableEq, Repr

def ReadError.message (e : ReadError) : Text :=
  "Failed to parse SQL: ".toList ++
    match e with
    | .empty => "empty statement".toList
    | .lexical _ | .hint _ => "<TokenError>".toList
    | .several => "expected exactly 1 statement".toList
    | .unbalanced offset => "unbalanced \x27)\x27 at offset ".toList ++ Text.ofNat offset
    | .unclosed => "unclosed \x27(\x27".toList
    | .grammar => "<ParseError>".toList
    | .nothing => "expected exactly 1 statement, got 0".toList
    | .commentAfterEnd => "expected exactly 1 statement, got 2".toList

/-- Checks separators and parentheses from the left, with `depth` parentheses open. -/
def checkTokens (depth : Nat) : List Token → Except ReadError Unit
  | [] => if depth == 0 then .ok () else .error .unclosed
  | t :: ts =>
    -- also within parentheses, so that `(;)` is two statements and not an unclosed one
    if t.kind == .semicolon && !ts.isEmpty then .error .several
    else if t.kind == .leftParen then checkTokens (depth + 1) ts
    else if t.kind == .rightParen then
      match depth with
      | 0 => .error (.unbalanced t.start)
      | depth + 1 => checkTokens depth ts
    else checkTokens depth ts

/-- The tokens of one statement. -/
structure Statement where
  tokens : List Token
  /-- Whether a comment follows the final separator. -/
  commentAfterEnd : Bool

/-- Reads a text as one statement. -/
def readStatement (sql : Text) : Except ReadError Statement :=
  if Text.isBlankText sql then .error .empty
  else match scan sql with
    | .error cause => .error (.lexical cause)
    | .ok pieces =>
      let tokens := pieces.filter Token.isSignificant
      if tokens.head?.all (·.kind == .semicolon) then .error .empty
      else match checkTokens 0 tokens with
        | .error e => .error e
        | .ok () => .ok ⟨tokens, commentAfterEnd pieces⟩

end DryRun.Sql
