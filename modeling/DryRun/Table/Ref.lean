import DryRun.Text.WordChar

/-!
# Table names

A possibly qualified table name, its dotted form and its form in a statement. In a statement a part is
written bare if it is a word that begins with an ASCII letter or an underscore, and in back-ticks
otherwise.
-/

namespace DryRun

/-- A table name with an optional catalog and schema. -/
structure TableRef where
  catalog : Option Text := none
  schema : Option Text := none
  name : Text := []
deriving DecidableEq, Repr

namespace TableRef

/-- The parts that are present and not empty, outermost first. -/
def parts (ref : TableRef) : List Text :=
  (ref.catalog.toList ++ ref.schema.toList ++ [ref.name]).filter (!·.isEmpty)

/-- The parts with dots between them. -/
def qualified (ref : TableRef) : Text := Text.join ['.'] ref.parts

/-- The name of one to three parts, read from the right: name, schema, catalog. -/
def ofParts? : List Text → Option TableRef
  | [name] => some ⟨none, none, name⟩
  | [schema, name] => some ⟨none, some schema, name⟩
  | [catalog, schema, name] => some ⟨some catalog, some schema, name⟩
  | _ => none

/-! ## The form in a statement -/

/-- Whether all characters belong to words, up to one line feed at the end. -/
def isWordTail : Text → Bool
  | [] => true
  | ['\n'] => true
  | c :: cs => Text.isWordChar c && isWordTail cs

/-- Whether a part is written without quotes. -/
def isBare : Text → Bool
  | [] => false
  | c :: cs => (c.isAlpha || c == '_') && isWordTail cs

/-- The part in back-ticks, each back-tick inside written twice. -/
def quote (part : Text) : Text :=
  '\x60' :: part.flatMap (fun c => if c == '\x60' then [c, c] else [c]) ++ ['\x60']

/-- A part as a statement writes it. -/
def renderPart (part : Text) : Text := if isBare part then part else quote part

/-- The name as a statement writes it. -/
def render (ref : TableRef) : Text := Text.strip (Text.join ['.'] (ref.parts.map renderPart))

end TableRef

end DryRun
