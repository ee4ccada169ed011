set_option autoImplicit false

/-!
# Themes

How prompts and error reports look.  A style wraps a text in the terminal's control sequences; the
sequence that ends a style inside the text does not end the style around it.
-/

namespace CommandShell

/-- A colour of the terminal, or none. -/
structure Style where
  colour : Option Nat
  deriving DecidableEq

namespace Style

/-- No colour. -/
def plain : Style := ⟨none⟩

/-- The control sequence that ends every style. -/
def reset : String := "\x1b[0m"

/-- The control sequence that starts a colour. -/
def sequence (colour : Nat) : String := "\x1b[" ++ toString colour ++ "m"

/-- A text in this style. -/
def apply (style : Style) (text : String) : String :=
  match style.colour with
  | none => text
  | some colour =>
    sequence colour ++ (reset ++ sequence colour).intercalate (text.splitOn reset) ++ reset

end Style

/-- The looks of a shell. -/
structure Theme where
  continuation : Style
  prompt : Style
  error : Style
  deriving DecidableEq

namespace Theme

/-- No colours at all. -/
def plain : Theme := ⟨.plain, .plain, .plain⟩

/-- A grey continuation prompt, a cyan prompt and errors in red. -/
def colourful : Theme := ⟨⟨some 90⟩, ⟨some 96⟩, ⟨some 91⟩⟩

/-- The theme with a name. -/
def named? : String → Option Theme
  | "plain" => some plain
  | "default" => some colourful
  | _ => none

/-- The theme with a name, or else the colourful one.  Without `colours` every theme is plain. -/
def load (name : String) (colours : Bool) : Theme :=
  if colours then (named? name).getD colourful else plain

/-- The prompt for the further lines of a command. -/
def continuationPrompt (theme : Theme) : String := theme.continuation.apply "> "

/-- The prompt for a command: who and where, as far as they are known. -/
def commandPrompt (theme : Theme) (user : Option String) (host : String) : String :=
  let user := (user.filter (· ≠ "")).getD ""
  let place := if host = "" then "" else "@" ++ host
  theme.prompt.apply (user ++ place ++ "$ ")

/-- How an error is reported. -/
def formatError (theme : Theme) (message : String) : String :=
  "rshell: " ++ theme.error.apply "error:" ++ " " ++ message

end Theme

/-- Who the user is: the first variable counts even when it is empty. -/
def userName (user logname : Option String) : Option String := user <|> logname

end CommandShell
