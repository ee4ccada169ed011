import CommandShell.Machine.Awk.Pattern
import CommandShell.Machine.Awk.Syntax
import CommandShell.Machine.Awk.Value
set_option autoImplicit false

/-!
# Tokens of record programs

A text is cut into tokens, each with the line on which it stands.  Whether a slash divides or opens
a pattern depends on the token before it.  What cannot be a token becomes one that carries the
complaint, so that it is met where it stands.
-/

namespace CommandShell.Machine.Awk

/-- A word with a meaning of its own. -/
inductive Keyword where
  | opening
  | closing
  | function
  | ifWord
  | elseWord
  | whileWord
  | doWord
  | forWord
  | inWord
  | breakWord
  | continueWord
  | nextWord
  | nextFileWord
  | exitWord
  | returnWord
  | deleteWord
  | printWord
  | printfWord
  | getline
  deriving DecidableEq

/-- The words with a meaning of their own. -/
def Keyword.table : List (String × Keyword) :=
  [("BEGIN", opening), ("END", closing), ("function", function), ("func", function),
    ("if", ifWord), ("else", elseWord), ("while", whileWord), ("do", doWord), ("for", forWord),
    ("in", inWord), ("break", breakWord), ("continue", continueWord), ("next", nextWord),
    ("nextfile", nextFileWord), ("exit", exitWord), ("return", returnWord),
    ("delete", deleteWord), ("print", printWord), ("printf", printfWord), ("getline", getline)]

/-- A token. -/
inductive Token where
  | number (value : Float) (shown : String)
  | text (bytes : ByteArray)
  | pattern (source : ByteArray)
  | name (name : String)
  /-- A name right before an opening parenthesis. -/
  | functionName (name : String)
  | builtin (name : String) (function : Builtin) (least most : Nat)
  | keyword (keyword : Keyword) (shown : String)
  /-- An operator or a bracket. -/
  | mark (sign : String)
  | newline
  | finish
  /-- What stands here is no token. -/
  | invalid (complaint : String)

namespace Token

/-- How a token is named in a complaint. -/
def shown : Token → String
  | number _ word => word
  | text bytes => Text.ofBytes bytes
  | pattern source => Text.ofBytes source
  | name word | functionName word | builtin word .. | keyword _ word | mark word => word
  | newline => "end of line"
  | finish => "end of file"
  | invalid complaint => complaint

/-- A slash after this token divides. -/
def endsOperand : Token → Bool
  | number .. | text _ | pattern _ | name _ | functionName _ => true
  | builtin _ function .. => function = .length
  | mark sign => sign = ")" || sign = "]" || sign = "$" || sign = "++" || sign = "--"
  | _ => false

end Token

/-- The operators and brackets, of which the longest that fits counts. -/
def markTexts : List String :=
  ["+=", "-=", "*=", "/=", "%=", "^=", "==", "<=", ">=", "!=", "!~", "++", "--", "&&", "||", ">>",
    "+", "-", "*", "/", "%", "^", "=", "<", ">", "!", "~", "?", ":", ",", ";", "(", ")", "[", "]",
    "\x7b", "\x7d", "$", "|"]

/-- A letter or an underscore. -/
def isNameStart (b : UInt8) : Bool := b < 0x80 && ((Program.asciiChar b).isAlpha || b = 0x5F)

/-- A letter, a digit or an underscore. -/
def isNamePart (b : UInt8) : Bool := isNameStart b || isDigit b
where
  /-- A decimal digit. -/
  isDigit (b : UInt8) : Bool := 0x30 ≤ b && b ≤ 0x39

/-- Replaces the escapes of a text; a backslash that means nothing stays. -/
def unescape : (fuel : Nat) → List UInt8 → List UInt8
  | 0, _ => []
  | _, [] => []
  | fuel + 1, 0x5C :: rest =>
    match Pattern.readEscape? rest with
    | some (b, size) => b :: unescape fuel (rest.drop size)
    | none =>
      match rest with
      | 0x22 :: rest => 0x22 :: unescape fuel rest
      | 0x0A :: rest => unescape fuel rest
      | rest => 0x5C :: unescape fuel rest
  | fuel + 1, b :: rest => b :: unescape fuel rest

/-- The text that some bytes between quotes stand for. -/
def unescaped (bytes : ByteArray) : ByteArray :=
  Program.pack (unescape (bytes.size + 1) bytes.toList)

/-- The bytes of a text up to the quote that ends it; none if there is none on the line. -/
def textBody : List UInt8 → Option (List UInt8)
  | [] => none
  | 0x22 :: _ => some []
  | 0x0A :: _ => none
  | 0x5C :: b :: rest => (textBody rest).map fun body => 0x5C :: b :: body
  | b :: rest => (textBody rest).map (b :: ·)

/-- The bytes of a pattern up to the slash that ends it, and how many there are before they are
changed; none if there is no such slash on the line. -/
def patternBody (inClass : Bool) : (fuel : Nat) → List UInt8 → Option (List UInt8 × Nat)
  | 0, _ => none
  | _, [] => none
  | _, 0x0A :: _ => none
  | fuel + 1, 0x5C :: 0x2F :: rest =>
    (patternBody inClass fuel rest).map fun (body, size) => (0x2F :: body, size + 2)
  | fuel + 1, 0x5C :: 0x0A :: rest =>
    (patternBody inClass fuel rest).map fun (body, size) => (body, size + 2)
  | fuel + 1, 0x5C :: b :: rest =>
    (patternBody inClass fuel rest).map fun (body, size) => (0x5C :: b :: body, size + 2)
  | fuel + 1, b :: rest =>
    if b = 0x2F && !inClass then some ([], 0)
    else if b = 0x5B && !inClass then
      let front : List UInt8 := match rest with
        | 0x5E :: 0x5D :: _ => [0x5E, 0x5D]
        | 0x5D :: _ => [0x5D]
        | 0x5E :: _ => [0x5E]
        | _ => []
      (patternBody true fuel (rest.drop front.length)).map fun (body, size) =>
        (b :: (front ++ body), size + 1 + front.length)
    else if b = 0x5B && rest.head? = some 0x3A then
      let name := (rest.drop 1).takeWhile fun b => b ≠ 0x3A && b ≠ 0x0A && b ≠ 0x2F
      let front : List UInt8 := 0x3A :: (name ++ [0x3A, 0x5D])
      if front.isPrefixOf rest then
        (patternBody inClass fuel (rest.drop front.length)).map fun (body, size) =>
          (b :: (front ++ body), size + 1 + front.length)
      else (patternBody inClass fuel rest).map fun (body, size) => (b :: body, size + 1)
    else
      (patternBody (inClass && b ≠ 0x5D) fuel rest).map fun (body, size) =>
        (b :: body, size + 1)

/-- The first bytes of what was not ended. -/
def runaway (what : String) (bytes : List UInt8) : Token :=
  let front := (bytes.takeWhile (· ≠ 0x0A)).take 11
  .invalid (what ++ " " ++ Text.ofBytes (Program.pack front) ++ " ...")

/-- How many bytes the number at the front of some bytes has. -/
def numberSize (bytes : List UInt8) : Nat :=
  match Program.Fraction.read? bytes with
  | some (_, rest) => bytes.length - rest.length
  | none => 0

/-- The token of a word. -/
def wordToken (word : String) (next : Option UInt8) : Token :=
  match Keyword.table.lookup word with
  | some keyword => .keyword keyword word
  | none =>
    match Builtin.table.lookup word with
    | some (function, least, most) => .builtin word function least most
    | none => if next = some 0x28 then .functionName word else .name word

/-- The token at the front of some bytes that are no blank, and how many bytes it has; `divides` if
a slash divides here. -/
def frontToken (divides : Bool) (bytes : List UInt8) : Token × Nat :=
  match bytes with
  | [] => (.finish, 0)
  | 0x0A :: _ => (.newline, 1)
  | 0x22 :: rest =>
    match textBody rest with
    | some body => (.text (unescaped (Program.pack body)), body.length + 2)
    | none => (runaway "runaway string constant" bytes, 0)
  | b :: rest =>
    if isNameStart b then
      let word := bytes.takeWhile isNamePart
      (wordToken (Text.ofBytes (Program.pack word)) bytes[word.length]?, word.length)
    else if Program.isDigit b || (b = 0x2E && (rest.head?.any Program.isDigit)) then
      let size := numberSize bytes
      (.number (frontNumber (bytes.take size)) (Text.ofBytes (Program.pack (bytes.take size))),
        size)
    else if b = 0x2F && !divides then
      match patternBody false (bytes.length + 1) rest with
      | some (body, size) => (.pattern (Program.pack body), size + 2)
      | none => (runaway "runaway regular expression" bytes, 0)
    else
      match markTexts.find? fun sign => sign.toUTF8.toList.isPrefixOf bytes with
      | some sign => (.mark sign, sign.utf8ByteSize)
      | none => (.invalid ("unexpected character '" ++ Text.ofBytes (Program.pack [b]) ++ "'"), 0)

/-- The tokens of a text, each with its line; `divides` if a slash at the front divides. -/
def tokensFrom (divides : Bool) (line : Nat) : (fuel : Nat) → List UInt8 → List (Token × Nat)
  | 0, _ => [(.finish, line)]
  | fuel + 1, bytes =>
    match bytes with
    | [] => [(.finish, line)]
    | 0x5C :: 0x0A :: rest => tokensFrom divides (line + 1) fuel rest
    | 0x23 :: rest => tokensFrom divides line fuel (rest.dropWhile (· ≠ 0x0A))
    | b :: rest =>
      if b = 0x20 || b = 0x09 || b = 0x0D then tokensFrom divides line fuel rest
      else
        let (token, size) := frontToken divides bytes
        match token with
        | .invalid _ => [(token, line)]
        | .newline => (token, line) :: tokensFrom false (line + 1) fuel rest
        | _ =>
          let lines := (bytes.take size).count 0x0A
          (token, line) :: tokensFrom token.endsOperand (line + lines) fuel (bytes.drop size)

/-- The tokens of a text. -/
def tokens (text : ByteArray) : Array (Token × Nat) :=
  (tokensFrom false 1 (text.size + 2) (text.toList ++ [0x0A])).toArray

end CommandShell.Machine.Awk
