set_option autoImplicit false

/-!
# Lines of bytes

A sequence of bytes is cut after each line feed.  A piece that is UTF-8 is a line, without its line
feed and without a carriage return before that; any other piece is a line that cannot be read.
-/

namespace CommandShell.Text

/-- The byte of a line feed. -/
def lineFeed : UInt8 := 0x0A

/-- Cuts bytes after each line feed; `piece` holds those read since, the last one first.  There is
no empty piece. -/
def cutLines (piece : List UInt8) : List UInt8 → List (List UInt8)
  | [] => if piece.isEmpty then [] else [piece.reverse]
  | byte :: rest =>
    if byte = lineFeed then (byte :: piece).reverse :: cutLines [] rest
    else cutLines (byte :: piece) rest

/-- A text without the line feed at its end and the carriage return before that one. -/
def stripLineEnd (cs : List Char) : List Char :=
  match cs.reverse with
  | '\n' :: '\r' :: rest | '\n' :: rest => rest.reverse
  | _ => cs

/-- The text of a piece; none if its bytes are no UTF-8. -/
def decodeLine (piece : List UInt8) : Option String :=
  (String.fromUTF8? ⟨piece.toArray⟩).map fun text => String.ofList (stripLineEnd text.toList)

/-- The lines of a sequence of bytes; none in place of one that cannot be read. -/
def lines (bytes : List UInt8) : List (Option String) := (cutLines [] bytes).map decodeLine

end CommandShell.Text
