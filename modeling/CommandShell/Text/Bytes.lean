set_option autoImplicit false

/-!
# Bytes as text

Programs pass bytes to each other that need not be UTF-8, while names and arguments are texts here.
A byte that belongs to no character is carried through a text by a private character of its own, so
that every sequence of bytes has a text and comes out of it unchanged.  Where one of these private
characters is itself meant, its bytes are carried one by one.
-/

namespace CommandShell.Text

/-- The code point that carries byte 0. -/
def carrierBase : Nat := 0x10F700

/-- The character that carries a byte. -/
def carrier (byte : UInt8) : Char := Char.ofNat (carrierBase + byte.toNat)

/-- The byte that a character carries. -/
def carried? (c : Char) : Option UInt8 :=
  if carrierBase ≤ c.toNat && c.toNat < carrierBase + 256 then
    some (UInt8.ofNat (c.toNat - carrierBase))
  else none

/-- Some character of a text stands for a byte. -/
def hasCarrier (text : String) : Bool := text.toList.any fun c => (carried? c).isSome

/-- The character at the front of some bytes, and how many bytes it has. -/
def frontChar? (bytes : List UInt8) : Option (Char × Nat) :=
  [1, 2, 3, 4].findSome? fun size =>
    let piece := bytes.take size
    if piece.length < size then none
    else
      (String.fromUTF8? ⟨piece.toArray⟩).bind fun text =>
        (text.toList.head?.filter fun c => (carried? c).isNone).map (·, size)

/-- The characters of some bytes, of which the first `skip` belong to a character before. -/
def charsOfBytes (skip : Nat) : List UInt8 → List Char
  | [] => []
  | byte :: rest =>
    match skip with
    | skip + 1 => charsOfBytes skip rest
    | 0 =>
      match frontChar? (byte :: rest) with
      | some (c, size) => c :: charsOfBytes (size - 1) rest
      | none => carrier byte :: charsOfBytes 0 rest

/-- The text of some bytes. -/
def ofBytes (bytes : ByteArray) : String :=
  match (String.fromUTF8? bytes).filter fun text => !hasCarrier text with
  | some text => text
  | none => String.ofList (charsOfBytes 0 bytes.toList)

/-- A text as machines hold it. -/
def held (text : String) : String := if hasCarrier text then ofBytes text.toUTF8 else text

/-- The bytes of a character. -/
def bytesOfChar (c : Char) : List UInt8 :=
  match carried? c with
  | some byte => [byte]
  | none => c.toString.toUTF8.toList

/-- The bytes of a text. -/
def toBytes (text : String) : ByteArray :=
  if hasCarrier text then ⟨(text.toList.flatMap bytesOfChar).toArray⟩
  else text.toUTF8

end CommandShell.Text
