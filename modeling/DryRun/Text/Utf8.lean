import DryRun.Text.Basic

/-!
# UTF-8

Texts as octets. Every text has one encoding, and only that one is read back: longer encodings of a code
point, surrogates and code points beyond the last are refused. In the text of a file all line ends are line
feeds.
-/

namespace DryRun.Text

/-- An octet that continues a character, with the low six bits of `n`. -/
def continuation (n : Nat) : UInt8 := UInt8.ofNat (0x80 + n % 64)

/-- The octets of a character. -/
def charOctets (c : Char) : List UInt8 :=
  let n := c.toNat
  if n < 0x80 then [UInt8.ofNat n]
  else if n < 0x800 then [UInt8.ofNat (0xc0 + n / 64), continuation n]
  else if n < 0x10000 then [UInt8.ofNat (0xe0 + n / 4096), continuation (n / 64), continuation n]
  else
    [UInt8.ofNat (0xf0 + n / 262144), continuation (n / 4096), continuation (n / 64), continuation n]

def toUtf8 (t : Text) : List UInt8 := t.flatMap charOctets

/-- The bits of an octet that continues a character. -/
def continuation? (octet : UInt8) : Option Nat :=
  if 0x80 ≤ octet.toNat && octet.toNat < 0xc0 then some (octet.toNat - 0x80) else none

/-- The character with a code point of at least `least`. -/
def scalar? (least n : Nat) : Option Char :=
  if least ≤ n && n.isValidChar then some (Char.ofNat n) else none

/-- The character at the head of octets, and the octets after it. -/
def readChar? : List UInt8 → Option (Char × List UInt8)
  | [] => none
  | a :: rest =>
    if a.toNat < 0x80 then some (Char.ofNat a.toNat, rest)
    else if a.toNat < 0xc0 then none
    else if a.toNat < 0xe0 then
      match rest with
      | b :: rest =>
        (continuation? b).bind fun b =>
          (scalar? 0x80 ((a.toNat - 0xc0) * 64 + b)).map (·, rest)
      | _ => none
    else if a.toNat < 0xf0 then
      match rest with
      | b :: c :: rest =>
        (continuation? b).bind fun b => (continuation? c).bind fun c =>
          (scalar? 0x800 (((a.toNat - 0xe0) * 64 + b) * 64 + c)).map (·, rest)
      | _ => none
    else if a.toNat < 0xf8 then
      match rest with
      | b :: c :: d :: rest =>
        (continuation? b).bind fun b => (continuation? c).bind fun c => (continuation? d).bind fun d =>
          (scalar? 0x10000 ((((a.toNat - 0xf0) * 64 + b) * 64 + c) * 64 + d)).map (·, rest)
      | _ => none
    else none

/-- Reads at most `fuel` characters, up to the end of the octets. -/
def ofUtf8From : Nat → List UInt8 → Option Text
  | _, [] => some []
  | 0, _ :: _ => none
  | fuel + 1, octets =>
    (readChar? octets).bind fun (c, rest) => (ofUtf8From fuel rest).map (c :: ·)

/-- The text of octets, if they are the encoding of one. -/
def ofUtf8? (octets : List UInt8) : Option Text := ofUtf8From octets.length octets

/-- Every line end as a line feed. -/
def unifyLines : Text → Text
  | [] => []
  | '\r' :: '\n' :: rest => '\n' :: unifyLines rest
  | '\r' :: rest => '\n' :: unifyLines rest
  | c :: rest => c :: unifyLines rest

/-- The text of a file. -/
def ofFile? (octets : List UInt8) : Option Text := (ofUtf8? octets).map unifyLines

end DryRun.Text
