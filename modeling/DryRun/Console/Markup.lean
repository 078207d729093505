import DryRun.Console.Emoji
import DryRun.Console.Handler
import DryRun.Console.Style
import DryRun.Text.Quoted

/-!
# Console markup

Texts for the console hold tags in square brackets, such as `[red]` and `[/red]`. A bracket begins a tag
if a small letter, `#`, `/` or `@` follows and a closing bracket comes before the next opening one; any
other bracket stands for itself, and so does a tag after a backslash. `Markup.plain` gives the text
without its tags, and with emoji for the codes between them. A closing tag has to match an open one of the
same style, and what a tag that begins with `@` calls has to be given values. What an equals sign in a tag
sets off belongs to its style too, which is looked up when something is drawn in it (`Markup.drawFault?`).
-/

namespace DryRun.Markup

/-- Why a text cannot be shown. -/
inductive Error where
  /-- A closing tag, with its brackets, without an open tag of its name. -/
  | unmatched (tag : Text) (position : Nat)
  /-- A closing tag without name where no tag is open. -/
  | nothingOpen (position : Nat)
  /-- What follows the equals sign of a handler gives no values. -/
  | arguments (parameters : Text)
  /-- A style with a share of a colour that is no number. -/
  | share (cause : Console.ShareError)
deriving DecidableEq, Repr

def Error.message : Error → Text
  | .unmatched tag position =>
    "closing tag \x27".toList ++ tag ++ "\x27 at position ".toList ++ Text.ofNat position ++
      " doesn\x27t match any open tag".toList
  | .nothingOpen position =>
    "closing tag \x27[/]\x27 at position ".toList ++ Text.ofNat position ++
      " has nothing to close".toList
  | .arguments parameters => "error parsing ".toList ++ Text.quoted parameters
  | .share cause => cause.message

/-! ## Pieces -/

/-- A piece of a text with tags. -/
inductive Piece where
  | text (value : Text)
  /-- What stands between the brackets of a tag, and the position of its opening bracket. -/
  | tag (body : Text) (position : Nat)
deriving DecidableEq, Repr

/-- A character that may begin a tag. -/
def beginsTag (c : Char) : Bool :=
  ('a' ≤ c && c ≤ 'z') || c == '#' || c == '/' || c == '@'

/-- The body of the tag after an opening bracket, and what follows the tag. -/
def tagBody? : Text → Option (Text × Text)
  | [] => none
  | c :: cs =>
    if beginsTag c then
      let body := cs.takeWhile fun d => d != '[' && d != ']'
      match cs.drop body.length with
      | ']' :: rest => some (c :: body, rest)
      | _ => none
    else none

/-- The tag at the start of a text: the number of backslashes before it, its body, and what follows. -/
def tagAhead? (t : Text) : Option (Nat × Text × Text) :=
  let slashes := t.takeWhile (· == '\\')
  match t.drop slashes.length with
  | '[' :: rest => (tagBody? rest).map fun r => (slashes.length, r)
  | _ => none

/-- The text with `[` for each bracket after a backslash. -/
def unescape : Text → Text
  | [] => []
  | '\\' :: '[' :: rest => '[' :: unescape rest
  | c :: rest => c :: unescape rest

/-- A piece of plain text, unless it is empty. -/
def plainPiece (t : Text) : List Piece := if t.isEmpty then [] else [.text t]

/-- The pieces of a text. Each two backslashes before a tag stand for one, and one that is left over
makes the tag plain text. `pending` is the plain text before `position`, reversed. -/
def piecesFrom : Nat → Nat → Text → Text → List Piece
  | 0, _, pending, _ => plainPiece (unescape pending.reverse)
  | _ + 1, _, pending, [] => plainPiece (unescape pending.reverse)
  | fuel + 1, position, pending, c :: rest =>
    match tagAhead? (c :: rest) with
    | some (slashes, body, after) =>
      let next := position + slashes + body.length + 2
      plainPiece (unescape pending.reverse) ++ plainPiece (List.replicate (slashes / 2) '\\') ++
        (if slashes % 2 == 0 then [.tag body (position + slashes)]
          else [.text ('[' :: body ++ [']'])]) ++
        piecesFrom fuel next [] after
    | none =>
      let slashes := (c :: rest).takeWhile (· == '\\')
      if slashes.isEmpty then piecesFrom fuel (position + 1) (c :: pending) rest
      else piecesFrom fuel (position + slashes.length) (slashes ++ pending)
        ((c :: rest).drop slashes.length)

def pieces (t : Text) : List Piece := piecesFrom t.length 0 [] t

/-! ## Tags -/

/-- The name of a tag: what stands before an equals sign. -/
def tagName (body : Text) : Text := body.takeWhile (· != '=')

/-- What follows the equals sign of a tag. -/
def tagParameters? (body : Text) : Option Text :=
  match body.dropWhile (· != '=') with
  | _ :: parameters => some parameters
  | [] => none

/-- A tag that is open. -/
structure Tag where
  /-- The name of its style. -/
  name : Text
  parameters : Option Text
deriving DecidableEq, Repr

/-- What is looked up as the style of a tag. -/
def Tag.style (tag : Tag) : Text :=
  match tag.parameters with
  | none => tag.name
  | some parameters => tag.name ++ ' ' :: parameters

/-- Whether a tag can be closed: what a handler calls has to be given values. -/
def Tag.closes (evaluates : Text → Bool) (tag : Tag) : Bool :=
  tag.name.head? != some '@' ||
    tag.parameters.all fun p => p.isEmpty || (Handler.arguments? p).all evaluates

/-- What a tag does. -/
inductive Move where
  | opens (tag : Tag)
  /-- Closes the tag opened last. -/
  | closesLast
  /-- Closes the tag opened last under a name. -/
  | closes (name : Text)
deriving DecidableEq, Repr

/-- What a tag with the given body does. -/
def readMove (body : Text) : Except Console.ShareError Move :=
  match tagName body with
  | '/' :: name =>
    if Text.isBlankText name then .ok .closesLast else (Console.styleName name).map .closes
  | name => (Console.styleName name).map fun name => .opens ⟨name, tagParameters? body⟩

/-- The tag opened last under a name, and the others; `opened` holds the open tags, the last one first. -/
def close? (name : Text) : List Tag → Option (Tag × List Tag)
  | [] => none
  | tag :: opened =>
    if tag.name == name then some (tag, opened)
    else (close? name opened).map fun (closed, left) => (closed, tag :: left)

/-! ## Reading -/

/-- Goes on with the tags that are left after one is closed. -/
def closing (evaluates : Text → Bool) (tag : Tag) (next : Except Error Text) : Except Error Text :=
  if tag.closes evaluates then next else .error (.arguments (tag.parameters.getD []))

/-- The plain text of pieces. Which texts write the values of a handler is for `evaluates` to say. -/
def plainFrom (evaluates : Text → Bool) : List Tag → List Piece → Except Error Text
  | _, [] => .ok []
  | opened, .text t :: rest => (plainFrom evaluates opened rest).map (Console.withEmoji t ++ ·)
  | opened, .tag body position :: rest =>
    match readMove body with
    | .error cause => .error (.share cause)
    | .ok (.opens tag) => plainFrom evaluates (tag :: opened) rest
    | .ok .closesLast =>
      match opened with
      | [] => .error (.nothingOpen position)
      | tag :: left => closing evaluates tag (plainFrom evaluates left rest)
    | .ok (.closes name) =>
      match close? name opened with
      | none => .error (.unmatched ('[' :: body ++ [']']) position)
      | some (tag, left) => closing evaluates tag (plainFrom evaluates left rest)

/-- Characters that the console does not show: bell, backspace, vertical tab, form feed and return. -/
def isUnshown (c : Char) : Bool :=
  c.toNat == 7 || c.toNat == 8 || c.toNat == 11 || c.toNat == 12 || c.toNat == 13

/-- The text without its tags, as the console shows it. -/
def plain (evaluates : Text → Bool) (t : Text) : Except Error Text :=
  (plainFrom evaluates [] (pieces t)).map fun shown => shown.filter (!isUnshown ·)

/-! ## Drawing -/

/-- What is shown of plain text. -/
def shownText (t : Text) : Text := (Console.withEmoji t).filter (!isUnshown ·)

/-- Whether pieces show a character of some kind in the style of a tag before them. The style holds up to the piece
that closes the tag; `above` are the tags opened after it. -/
def Tag.covers (kind : Char → Bool) (tag : Tag) : List Tag → List Piece → Bool
  | _, [] => false
  | above, .text t :: rest => (shownText t).any kind || tag.covers kind above rest
  | above, .tag body _ :: rest =>
    match readMove body with
    | .error _ => false
    | .ok (.opens other) => tag.covers kind (other :: above) rest
    | .ok .closesLast =>
      match above with
      | [] => false
      | _ :: above => tag.covers kind above rest
    | .ok (.closes name) =>
      match close? name above with
      | some (_, above) => tag.covers kind above rest
      | none => tag.name != name && tag.covers kind above rest

/-- The styles of the tags among pieces that count; whether one does may depend on the pieces after it. -/
def stylesWhere (counts : Tag → List Piece → Bool) : List Piece → List Text
  | [] => []
  | .text _ :: rest => stylesWhere counts rest
  | .tag body _ :: rest =>
    match readMove body with
    | .ok (.opens tag) => (if counts tag rest then [tag.style] else []) ++ stylesWhere counts rest
    | _ => stylesWhere counts rest

/-- Whether a text is drawn as it is, without being taken apart at line ends and tabs. -/
def isOneLine (t : Text) : Bool :=
  (pieces t).all fun
    | .text t => (shownText t).all fun c => c != '\n' && c != '\t'
    | .tag _ _ => true

/-- The styles that are looked up to draw a text. Tags that cover nothing count if the text is one line. -/
def drawnStyles (t : Text) : List Text :=
  stylesWhere (fun tag rest => isOneLine t || tag.covers (· != '\n') [] rest) (pieces t)

/-- Why a text whose tags match cannot be drawn. -/
def drawFault? (t : Text) : Option Error := ((drawnStyles t).findSome? Console.styleFault?).map .share

end DryRun.Markup

namespace DryRun.Console

/-- What texts are shown on. -/
structure Screen where
  width : Nat := 1000
  /-- Which texts write the values of a handler. -/
  evaluates : Text → Bool := Handler.isValue

/-- The text without its tags, if it can be drawn. -/
def Screen.drawn (s : Screen) (t : Text) : Except Markup.Error Text :=
  match Markup.plain s.evaluates t with
  | .error e => .error e
  | .ok shown =>
    match Markup.drawFault? t with
    | some e => .error e
    | none => .ok shown

end DryRun.Console
