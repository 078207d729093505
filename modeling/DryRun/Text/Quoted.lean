import DryRun.Text.Printable

/-!
# Quoted texts

A text between quotes with escapes for what cannot be printed. Single quotes are used unless the text
holds a single quote and no double quote.
-/

namespace DryRun.Text

/-- The escape of a character that is not printable, as short as its code point allows. -/
def codeEscape (c : Char) : Text :=
  if c.toNat < 0x100 then '\\' :: 'x' :: hex 2 c.toNat
  else if c.toNat < 0x10000 then '\\' :: 'u' :: hex 4 c.toNat
  else '\\' :: 'U' :: hex 8 c.toNat

def quoteChar (quote c : Char) : Text :=
  if c == quote || c == '\\' then ['\\', c]
  else if c == '\n' then ['\\', 'n']
  else if c == '\r' then ['\\', 'r']
  else if c == '\t' then ['\\', 't']
  else if isPrintable c then [c]
  else codeEscape c

def quoted (t : Text) : Text :=
  let quote := if t.contains '\x27' && !t.contains '\x22' then '\x22' else '\x27'
  quote :: t.flatMap (quoteChar quote) ++ [quote]

end DryRun.Text
