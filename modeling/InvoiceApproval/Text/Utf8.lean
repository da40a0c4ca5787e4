/-
Text in bytes.

A file or a message arrives as bytes.  A file that is not UTF-8 is refused whole;
a message is read on, and each stretch of bytes that begins a character without
ending it is replaced by one mark.
-/
namespace InvoiceApproval.Text

/-- The character U+FFFD, which stands for bytes that are no character. -/
def replacementChar : Char := Char.ofNat 0xFFFD

/-- The character U+FFFC, which stands for what is no text. -/
def objectChar : Char := Char.ofNat 0xFFFC

/-- What the first byte of a character says of the rest: how many bytes follow, the
bits that it carries itself, and the bounds on the byte after it.  The bounds keep
out longer forms than needed, the surrogates and what lies above U+10FFFF. -/
structure LeadByte where
  following : Nat
  bits : Nat
  low : Nat
  high : Nat

/-- Reads the first byte of a character; a byte that can begin none gives nothing. -/
def LeadByte.of? (b : UInt8) : Option LeadByte :=
  let n := b.toNat
  if n < 0x80 then some ⟨0, n, 0x80, 0xBF⟩
  else if n < 0xC2 then none
  else if n < 0xE0 then some ⟨1, n - 0xC0, 0x80, 0xBF⟩
  else if n = 0xE0 then some ⟨2, 0, 0xA0, 0xBF⟩
  else if n = 0xED then some ⟨2, 0x0D, 0x80, 0x9F⟩
  else if n < 0xF0 then some ⟨2, n - 0xE0, 0x80, 0xBF⟩
  else if n = 0xF0 then some ⟨3, 0, 0x90, 0xBF⟩
  else if n < 0xF4 then some ⟨3, n - 0xF0, 0x80, 0xBF⟩
  else if n = 0xF4 then some ⟨3, 4, 0x80, 0x8F⟩
  else none

/-- A character that has begun: its bits so far, how many bytes it still needs, and
the bounds on the next of them. -/
structure Pending where
  bits : Nat
  missing : Nat
  low : Nat
  high : Nat

/-- One byte where no character has begun. -/
def beginChar (mark : Char) (b : UInt8) : List Char × Option Pending :=
  match LeadByte.of? b with
  | none => ([mark], none)
  | some lead =>
    if lead.following = 0 then ([Char.ofNat lead.bits], none)
    else ([], some ⟨lead.bits, lead.following, lead.low, lead.high⟩)

/-- One byte: the characters that it completes, and the character that it leaves
begun.  A byte that cannot go on with the begun character ends it as a mark and is
then read afresh. -/
def stepByte (mark : Char) (pending : Option Pending) (b : UInt8) : List Char × Option Pending :=
  match pending with
  | none => beginChar mark b
  | some p =>
    if p.low ≤ b.toNat ∧ b.toNat ≤ p.high then
      let bits := p.bits * 64 + (b.toNat - 0x80)
      if p.missing = 1 then ([Char.ofNat bits], none)
      else ([], some ⟨bits, p.missing - 1, 0x80, 0xBF⟩)
    else
      let (cs, next) := beginChar mark b
      (mark :: cs, next)

/-- The characters of a list of bytes, with a mark for what is no character. -/
def decode (mark : Char) (bytes : List UInt8) : List Char :=
  go none bytes
where
  go (pending : Option Pending) : List UInt8 → List Char
    | [] => if pending.isSome then [mark] else []
    | b :: rest =>
      let (cs, next) := stepByte mark pending b
      cs ++ go next rest

/-- The characters of a list of bytes, with U+FFFD for what is no character. -/
def decodeLossy (bytes : List UInt8) : List Char := decode replacementChar bytes

/-- The text that a list of bytes encodes, if it encodes one. -/
def decodeExact? (bytes : List UInt8) : Option String :=
  String.fromUTF8? (ByteArray.mk bytes.toArray)

/-- The bytes of a text. -/
def encode (s : String) : List UInt8 :=
  s.toUTF8.toList

end InvoiceApproval.Text
