import CommandShell.Machine.SystemShell.Builtin.Declaring
set_option autoImplicit false

/-!
# Options

How a script sets the options of the shell and its arguments, and how it looks at the options among
its own arguments.
-/

namespace CommandShell.Machine.SystemShell

/-! ## Options of the plain dialect -/

/-- Turns an option on or off. -/
def setFlag (on : Bool) (flag : Char) : Eval Unit :=
  modify fun state =>
    let others := state.flags.filter (· ≠ flag)
    { state with flags := if on then flag :: others else others }

/-- Turns options on or off as arguments say; the result is the other arguments, if there are
any that are to be the new ones. -/
def setOptions : List String → Eval (Option (List String))
  | [] => return none
  | "--" :: rest => return some rest
  | "-" :: rest => do
    setFlag false 'x'
    setFlag false 'v'
    return if rest.isEmpty then none else some rest
  | word :: rest => do
    match word.toList with
    | sign :: 'o' :: [] =>
      if sign ≠ '-' && sign ≠ '+' then return some (word :: rest)
      match rest with
      | [] =>
        let flags := (← get).flags
        let line (option : String × Char) : String :=
          if sign = '+' then
            "set " ++ (if flags.contains option.2 then "-o " else "+o ") ++ option.1 ++ "\n"
          else
            option.1 ++ String.ofList (List.replicate (16 - option.1.length) ' ')
              ++ (if flags.contains option.2 then "on" else "off") ++ "\n"
        let head := if sign = '+' then "" else "Current option settings\n"
        let _ ← putText (head ++ String.join (plainOptionNames.map line))
        return none
      | name :: rest =>
        match plainOptionNames.lookup name with
        | some flag =>
          setFlag (sign = '-') flag
          setOptions rest
        | none => fail ("Illegal option -o " ++ name)
    | sign :: c :: cs =>
      if sign ≠ '-' && sign ≠ '+' then return some (word :: rest)
      for letter in c :: cs do
        if !"efIimnsxvVECabup".contains letter then fail ("Illegal option -" ++ letter.toString)
        setFlag (sign = '-') letter
      setOptions rest
    | _ => return some (word :: rest)

/-- Sets options and arguments, or lists the variables. -/
def setCommand : Builtin := fun _ arguments => do
  if arguments.isEmpty then
    listVariables "" fun v => v.value.isSome
  else
    if let some arguments ← setOptions arguments then
      modify fun state => { state with arguments, optionOffset := 0 }
    return 0

/-! ## Options of the extended dialect -/

/-- The letters of the options of the extended dialect. -/
def extendedFlags : String := "abefhkmnptuvxBCEHPT"

/-- How `set` is used. -/
def setUsage : String := "set [-" ++ extendedFlags ++ "] [-o option-name] [--] [-] [arg ...]"

/-- A name and whether it is on, as options are listed. -/
def shownOption (name : String) (isOn : Bool) : String :=
  name ++ String.ofList (List.replicate (15 - name.length) ' ') ++ "\t"
    ++ (if isOn then "on" else "off") ++ "\n"

/-- The letter that stands for an option, where two letters do. -/
def flagOf (letter : Char) : Char := if letter = 'H' then '\x0B' else letter

/-- Lists the options, as statements that set them if `asStatements`. -/
def listOptions (asStatements : Bool) : Eval Nat := do
  let flags := (← get).flags
  putText (String.join ((optionNames .extended).map fun (name, flag) =>
    let isOn := flags.contains flag
    if asStatements then "set " ++ (if isOn then "-o " else "+o ") ++ name ++ "\n"
    else shownOption name isOn))

/-- Turns the options of the letters of a word on or off; an `o` takes its name from the words that
follow, which are the result. -/
def setLetters (isOn : Bool) : List Char → List String → Eval (List String)
  | [], rest => return rest
  | 'o' :: letters, [] => do
    let _ ← listOptions !isOn
    setLetters isOn letters []
  | 'o' :: letters, name :: rest => do
    match (optionNames .extended).lookup name with
    | some flag =>
      setFlag isOn flag
      setLetters isOn letters rest
    | none => refuseCommand (name ++ ": invalid option name") 2
  | letter :: letters, rest => do
    if !extendedFlags.contains letter then
      warn ((if isOn then "-" else "+") ++ letter.toString ++ ": invalid option")
      refuseUse setUsage
    setFlag isOn (flagOf letter)
    setLetters isOn letters rest

/-- Turns options on or off as arguments say; the result is the new arguments, if there are any. -/
def setExtendedOptions : (fuel : Nat) → List String → Eval (Option (List String))
  | 0, _ | _, [] => return none
  | _, "--" :: rest => return some rest
  | _, "-" :: rest => do
    setFlag false 'x'
    setFlag false 'v'
    return if rest.isEmpty then none else some rest
  | fuel + 1, word :: rest => do
    match word.toList with
    | sign :: letter :: letters =>
      if sign ≠ '-' && sign ≠ '+' then return some (word :: rest)
      setExtendedOptions fuel (← setLetters (sign = '-') (letter :: letters) rest)
    | _ => return some (word :: rest)

/-- Sets options and arguments of the extended dialect, or lists the variables. -/
def extendedSet : Builtin := fun _ arguments => do
  if arguments.isEmpty then listSettings
  else
    if let some arguments ← setExtendedOptions arguments.length arguments then
      modify fun state => { state with arguments }
    return 0

/-- The further options of the extended dialect. -/
def featureNames : List String :=
  ["autocd", "assoc_expand_once", "cdable_vars", "cdspell", "checkhash", "checkjobs",
    "checkwinsize", "cmdhist", "compat31", "compat32", "compat40", "compat41", "compat42",
    "compat43", "compat44", "complete_fullquote", "direxpand", "dirspell", "dotglob", "execfail",
    "expand_aliases", "extdebug", "extglob", "extquote", "failglob", "force_fignore",
    "globasciiranges", "globskipdots", "globstar", "gnu_errfmt", "histappend", "histreedit",
    "histverify", "hostcomplete", "huponexit", "inherit_errexit", "interactive_comments",
    "lastpipe", "lithist", "localvar_inherit", "localvar_unset", "login_shell", "mailwarn",
    "no_empty_cmd_completion", "nocaseglob", "nocasematch", "noexpand_translation", "nullglob",
    "patsub_replacement", "progcomp", "progcomp_alias", "promptvars", "restricted_shell",
    "shift_verbose", "sourcepath", "varredir_close", "xpg_echo"]

/-- The further options that are on in a new shell. -/
def initialFeatures : List String :=
  ["checkwinsize", "cmdhist", "complete_fullquote", "extquote", "force_fignore",
    "globasciiranges", "globskipdots", "hostcomplete", "interactive_comments",
    "patsub_replacement", "progcomp", "promptvars", "sourcepath"]

/-- Turns a further option on or off. -/
def setFeature (isOn : Bool) (name : String) : Eval Unit :=
  modify fun state =>
    let others := state.features.filter (· ≠ name)
    { state with features := if isOn then name :: others else others }

/-- A kind of options that can be listed and changed. -/
structure OptionTable where
  names : List String
  isOn : String → Eval Bool
  change : (isOn : Bool) → String → Eval Unit
  /-- The statement that turns an option on or off, without its name. -/
  statement : (isOn : Bool) → String
  fault : String

/-- The further options of the extended dialect. -/
def featureTable : OptionTable where
  names := featureNames
  isOn := hasFeature
  change := setFeature
  statement isOn := if isOn then "shopt -s " else "shopt -u "
  fault := "invalid shell option name"

/-- The options that have letters. -/
def flagTable : OptionTable where
  names := (optionNames .extended).map Prod.fst
  isOn name := hasFlag (((optionNames .extended).lookup name).getD ' ')
  change isOn name := setFlag isOn (((optionNames .extended).lookup name).getD ' ')
  statement isOn := if isOn then "set -o " else "set +o "
  fault := "invalid option name"

/-- Shows options; the status says whether all of them are on. -/
def OptionTable.show (table : OptionTable) (asStatements isQuiet : Bool) (names : List String) :
    Eval Nat := do
  let mut status := 0
  for name in names do
    if !table.names.contains name then
      warn (name ++ ": " ++ table.fault)
      status := 1
    else
      let isOn ← table.isOn name
      if !isOn then status := 1
      if !isQuiet then
        let _ ← putText (if asStatements then table.statement isOn ++ name ++ "\n"
          else shownOption name isOn)
  return status

/-- Shows or changes further options. -/
def shopt : Builtin := fun _ arguments => do
  let (options, names) ← extendedOptions "shopt [-pqsu] [-o] [optname ...]" "opqsu" arguments
  let table := if hasOption options 'o' then flagTable else featureTable
  let turnsOn := hasOption options 's'
  let turnsOff := hasOption options 'u'
  let asStatements := hasOption options 'p'
  if turnsOn && turnsOff then
    refuseCommand "cannot set and unset shell options simultaneously"
  if names.isEmpty then
    let chosen ← table.names.filterM fun name => do
      let isOn ← table.isOn name
      return !(turnsOn || turnsOff) || isOn = turnsOn
    let _ ← table.show asStatements (hasOption options 'q') chosen
    return 0
  else if turnsOn || turnsOff then
    let mut status := 0
    for name in names do
      if table.names.contains name then table.change turnsOn name
      else
        warn (name ++ ": " ++ table.fault)
        status := 1
    return status
  else table.show asStatements (hasOption options 'q') names

/-! ## Options of scripts -/

/-- Complains about a letter among the options of a script that is not known, or else has no
argument. -/
def warnOfOption (isUnknown : Bool) (letter : Char) : Eval Unit := do
  let state ← get
  if state.dialect = .extended then
    if state.value? "OPTERR" ≠ some "0" then
      let text := if isUnknown then "illegal option" else "option requires an argument"
      putError (state.name ++ ": " ++ text ++ " -- " ++ letter.toString ++ "\n")
  else if isUnknown then putError ("Illegal option -" ++ letter.toString ++ "\n")
  else putError ("No arg for -" ++ letter.toString ++ " option\n")

/-- Looks at the next option of the arguments. -/
def getOption : Builtin := fun _ arguments => do
  let usage := "getopts optstring name [arg ...]"
  let words ←
    if ← speaksExtended then do
      let (_, words) ← extendedOptions usage "" arguments
      match words with
      | _ :: name :: _ =>
        if !isName name then refuseName name
        pure words
      | _ => refuseUse usage
    else withoutOptions arguments
  match words with
  | known :: variableName :: given =>
    let state ← get
    let words := if given.isEmpty then state.arguments else given
    let index := max 1 (((state.value? "OPTIND").bind Program.natural?).getD 1)
    let word := (words[index - 1]?).getD ""
    let offset := state.optionOffset
    let finish (index : Nat) : Eval Nat := do
      setVariable "OPTIND" (toString index)
      setVariable variableName "?"
      return 1
    if offset = 0 && (word = "--" && index ≤ words.length) then finish (index + 1)
    else if offset = 0 && (!word.startsWith "-" || word.length < 2) then finish index
    else
      let offset := if offset = 0 then 1 else offset
      let letters := word.toList
      match letters[offset]? with
      | none => finish index
      | some letter =>
        let isLast := offset + 1 ≥ letters.length
        let next (index offset : Nat) : Eval Unit := do
          setVariable "OPTIND" (toString index)
          modify fun state => { state with optionOffset := offset }
        let quiet := known.startsWith ":"
        match known.toList.dropWhile (· ≠ letter) with
        | _ :: rest =>
          if letter = ':' then
            finish index
          else if rest.head? = some ':' then
            if !isLast then
              next (index + 1) 0
              setVariable "OPTARG" (String.ofList (letters.drop (offset + 1)))
              setVariable variableName letter.toString
              return 0
            else
              match words[index]? with
              | some value =>
                next (index + 2) 0
                setVariable "OPTARG" value
                setVariable variableName letter.toString
                return 0
              | none =>
                next (index + 1) 0
                if quiet then
                  setVariable "OPTARG" letter.toString
                  setVariable variableName ":"
                else
                  warnOfOption false letter
                  unsetVariable "OPTARG"
                  setVariable variableName "?"
                return 0
          else
            if isLast then next (index + 1) 0 else next index (offset + 1)
            unsetVariable "OPTARG"
            setVariable variableName letter.toString
            return 0
        | [] =>
          if isLast then next (index + 1) 0 else next index (offset + 1)
          if quiet then setVariable "OPTARG" letter.toString
          else
            warnOfOption true letter
            unsetVariable "OPTARG"
          setVariable variableName "?"
          return 0
  | _ => fail "Usage: getopts optstring var [arg...]"

end CommandShell.Machine.SystemShell
