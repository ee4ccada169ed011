import CommandShell.Text.Quoted
set_option autoImplicit false

/-!
# Tokens

A command line is a list of words and operators.
-/

namespace CommandShell

/-- The operators of the command language. -/
inductive Operator where
  | sequence
  | conjunction
  | disjunction
  | pipe
  | inputRedirect
  | outputRedirect
  | appendRedirect
  | openScope
  | closeScope
  deriving DecidableEq

namespace Operator

/-- How an operator is written. -/
def text : Operator → String
  | sequence => ";"
  | conjunction => "&&"
  | disjunction => "||"
  | pipe => "|"
  | inputRedirect => "<"
  | outputRedirect => ">"
  | appendRedirect => ">>"
  | openScope => "("
  | closeScope => ")"

/-- By how much an operator changes the number of open scopes. -/
def scopeChange : Operator → Int
  | openScope => 1
  | closeScope => -1
  | _ => 0

/-- The longest operator at the front of a text, with the text after it. -/
def read? : List Char → Option (Operator × List Char)
  | ';' :: rest => some (sequence, rest)
  | '&' :: '&' :: rest => some (conjunction, rest)
  | '|' :: '|' :: rest => some (disjunction, rest)
  | '|' :: rest => some (pipe, rest)
  | '<' :: rest => some (inputRedirect, rest)
  | '>' :: '>' :: rest => some (appendRedirect, rest)
  | '>' :: rest => some (outputRedirect, rest)
  | '(' :: rest => some (openScope, rest)
  | ')' :: rest => some (closeScope, rest)
  | _ => none

/-- An operator takes at least one character. -/
theorem length_lt_of_read? {cs rest : List Char} {op : Operator} (h : read? cs = some (op, rest)) :
    rest.length < cs.length := by
  unfold read? at h
  split at h <;> cases h <;> simp only [List.length_cons] <;> omega

end Operator

/-- One token of a command line. -/
inductive Token where
  | word (text : String)
  | operator (op : Operator)
  deriving DecidableEq

namespace Token

/-- The text of a token; of a word, without its quotes and escapes. -/
def text : Token → String
  | word s => s
  | operator op => op.text

/-- A token as messages show it: a word quoted, an operator as it is written. -/
def display : Token → String
  | word s => Text.quoted s
  | operator op => op.text

/-- A token after which another command may follow. -/
def isConnective : Token → Bool
  | operator .sequence | operator .conjunction | operator .disjunction | operator .pipe => true
  | _ => false

end Token

end CommandShell
