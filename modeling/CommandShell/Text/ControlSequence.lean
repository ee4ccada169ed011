set_option autoImplicit false

/-!
# Control sequences of terminals

A text may hold sequences of characters that a terminal obeys and does not show: colours, titles,
movements of the cursor.  Each begins with an escape character; the states here are how far one has
been read.  Without them and without the control characters that are no white space, a text is
plain.
-/

namespace CommandShell.Text

/-- How far a control sequence has been read. -/
inductive ControlState where
  /-- Outside of any sequence. -/
  | ground
  /-- After the escape character. -/
  | escape
  /-- After the escape character and characters that add to it. -/
  | escapeMore
  /-- At the start of a sequence with parameters. -/
  | control
  | controlParameters
  | controlMore
  /-- In a sequence with parameters that means nothing. -/
  | controlIgnored
  /-- At the start of a string for the device. -/
  | device
  | deviceParameters
  | deviceMore
  /-- In the string for the device. -/
  | deviceString
  /-- In a command to the terminal's system, which a bell ends. -/
  | systemString
  /-- In a string that means nothing. -/
  | otherString
  deriving DecidableEq

/-- A byte that is none of the controls that break off every sequence. -/
def isMildControl (byte : UInt8) : Bool := byte < 0x20 && byte ≠ 0x18 && byte ≠ 0x1A && byte ≠ 0x1B

namespace ControlState

/-- What follows the escape character. -/
def afterEscape (byte : UInt8) : ControlState :=
  if byte < 0x20 || byte ≥ 0x7F then escape
  else if byte < 0x30 then escapeMore
  else if byte = 0x50 then device
  else if byte = 0x58 || byte = 0x5E || byte = 0x5F then otherString
  else if byte = 0x5B then control
  else if byte = 0x5D then systemString
  else ground

/-- What follows in a sequence with parameters: `more` after one that adds to it, `parameters` after
a parameter, `marks` after one of the marks that may stand at the start. -/
def afterControl (here parameters marks more : ControlState) (byte : UInt8) : ControlState :=
  if byte < 0x20 || byte ≥ 0x7F then here
  else if byte < 0x30 then more
  else if byte < 0x3C then parameters
  else if byte < 0x40 then marks
  else ground

/-- What follows at the start of a string for the device. -/
def afterDevice (here parameters marks more : ControlState) (byte : UInt8) : ControlState :=
  if byte < 0x20 || byte ≥ 0x7F then here
  else if byte < 0x30 then more
  else if byte < 0x3C then parameters
  else if byte < 0x40 then marks
  else deviceString

/-- The state after a byte. -/
def next (state : ControlState) (byte : UInt8) : ControlState :=
  if byte = 0x1B then escape
  else if byte = 0x18 || byte = 0x1A then ground
  else
    match state with
    | ground => ground
    | escape => afterEscape byte
    | escapeMore => if byte ≥ 0x30 && byte < 0x7F then ground else escapeMore
    | control => afterControl control controlParameters controlParameters controlMore byte
    | controlParameters =>
      afterControl controlParameters controlParameters controlIgnored controlMore byte
    | controlMore => afterControl controlMore controlIgnored controlIgnored controlMore byte
    | controlIgnored => if byte ≥ 0x40 && byte < 0x7F then ground else controlIgnored
    | device => afterDevice device deviceParameters deviceParameters deviceMore byte
    | deviceParameters =>
      afterDevice deviceParameters deviceParameters otherString deviceMore byte
    | deviceMore => afterDevice deviceMore otherString otherString deviceMore byte
    | deviceString => if byte = 0x9C then ground else deviceString
    | systemString => if byte = 0x07 then ground else systemString
    | otherString => if byte = 0x9C then ground else otherString

/-- White space among the controls counts as text also inside these sequences.  They go on where the
text ends that begins so. -/
def obeysControls : ControlState → Bool
  | ground | escape | escapeMore => true
  | control | controlParameters | controlMore | controlIgnored => true
  | _ => false

/-- A byte that starts a text in this state, or goes on with it. -/
def shows (state : ControlState) (byte : UInt8) : Bool :=
  (state.obeysControls && (byte = 0x09 || byte = 0x0A || byte = 0x0C || byte = 0x0D))
    || (state = ground && ((0x20 ≤ byte && byte < 0x7F) || (0xC2 ≤ byte && byte ≤ 0xF4)))

end ControlState

/-- How many bytes follow the first one of a character. -/
def followers (byte : UInt8) : Nat :=
  if byte < 0xC2 then 0 else if byte < 0xE0 then 1 else if byte < 0xF0 then 2 else 3

/-- The bytes that a terminal shows.  Inside a text (`inText`) all that could be shown is shown,
even if a sequence has not come to its end; a character of several bytes ends that.  The first
`kept` bytes belong to a character that is shown. -/
def shownBytes (state : ControlState) (inText : Bool) (kept : Nat) : List UInt8 → List UInt8
  | [] => []
  | byte :: rest =>
    match kept with
    | kept + 1 => byte :: shownBytes state inText kept rest
    | 0 =>
      if (if inText then .ground else state).shows byte then
        let after := if followers byte = 0 then state else .ground
        byte :: shownBytes after true (followers byte) rest
      else shownBytes (state.next byte) false 0 rest

/-- The text without control sequences. -/
def plain (text : String) : String :=
  if text.toList.any fun c => c.toNat < 0x20 || c.toNat = 0x7F then
    (String.fromUTF8? ⟨(shownBytes .ground false 0 text.toUTF8.toList).toArray⟩).getD ""
  else text

/-- Colours and bells go, white space stays. -/
example : plain "a\x1b[31mb\tc\x07\n" = "ab\tc\n" := by decide +kernel

/-- White space does not end a sequence. -/
example : plain "a\x1b\tb\x07c d" = "a\tb d" := by decide +kernel

end CommandShell.Text
