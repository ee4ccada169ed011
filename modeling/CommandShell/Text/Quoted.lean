import CommandShell.Text.Unprintable
set_option autoImplicit false

/-!
# Quoted text

The one-line form of a text that messages show: between double quotes, with the quote, the
backslash and the usual control characters escaped by a backslash, and every other unprintable
character given by its code point in hexadecimal.
-/

namespace CommandShell.Text

/-- The code point of a character between braces: lower-case hexadecimal digits, no leading zero. -/
def codePoint (c : Char) : List Char :=
  '\\' :: 'u' :: '\x7b' :: Nat.toDigits 16 c.toNat ++ ['\x7d']

/-- How one character appears inside a quoted text. -/
def quoteChar (c : Char) : List Char :=
  if c = '"' then ['\\', '"']
  else if c = '\\' then ['\\', '\\']
  else if c = '\n' then ['\\', 'n']
  else if c = '\r' then ['\\', 'r']
  else if c = '\t' then ['\\', 't']
  else if c = '\x00' then ['\\', '0']
  else if isUnprintable c then codePoint c
  else [c]

/-- The text between double quotes, each character as `quoteChar` gives it. -/
def quoted (s : String) : String :=
  String.ofList ('"' :: s.toList.flatMap quoteChar ++ ['"'])

/-- Each escape in turn; an accent that stands alone is shown by its code point. -/
example : quoted "a\"\\\n\x00\x1b́é" = "\"a\\\"\\\\\\n\\0\\u\x7b1b\x7d\\u\x7b301\x7dé\"" := by
  decide +kernel

end CommandShell.Text
