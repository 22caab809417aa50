import Cil.Selector

/-!
# Arguments of the command

Arguments are read from left to right. An option takes its value from the same argument or from the
next one, which must not look like an option. Each option may be given once, and one file is the
input. Asking for the version or for help ends the reading.
-/

namespace Cil.Command

/-- How the rendered lines are printed. -/
inductive OutputFormat where
  | text
  | tokens
deriving DecidableEq, Repr

/-- What the command is asked to do. -/
structure Arguments where
  input : Option String := none
  language : Option String := none
  selector : Option Selector := none
  full : Bool := false
  format : Option OutputFormat := none
  listLanguages : Bool := false
deriving DecidableEq, Repr

/-- An option with a value. -/
inductive Setting where
  | language
  | entity
  | format
deriving DecidableEq, Repr

/-- An option without a value. -/
inductive Flag where
  | full
  | listLanguages
  | help
  | version
deriving DecidableEq, Repr

def Setting.name : Setting → String
  | language => "--language"
  | entity => "--entity"
  | format => "--format"

def Flag.name : Flag → String
  | full => "--full"
  | listLanguages => "--list-languages"
  | help => "--help"
  | version => "--version"

/-- What is wrong with the arguments. -/
inductive UsageError where
  | unknownOption (text : String)
  | repeated (option : String)
  | noValue (option : String)
  | needlessValue (option : String)
  | invalidValue (option value : String)
  | unexpected (argument : String)
  | noInput
deriving DecidableEq, Repr

def UsageError.message : UsageError → String
  | unknownOption text => "unexpected argument '" ++ text ++ "' found"
  | repeated option => "the argument '" ++ option ++ "' cannot be used multiple times"
  | noValue option => "a value is required for '" ++ option ++ "' but none was supplied"
  | needlessValue option => "a value was given for '" ++ option ++ "', which takes none"
  | invalidValue option value => "invalid value '" ++ value ++ "' for '" ++ option ++ "'"
  | unexpected argument => "unexpected argument '" ++ argument ++ "' found"
  | noInput => "no input file was given"

/-- Why the reading of arguments ends before their end. -/
inductive Stop where
  | usage (error : UsageError)
  | help
  | version
deriving DecidableEq, Repr

namespace Arguments

def setInput (arguments : Arguments) (path : String) : Except Stop Arguments :=
  if arguments.input.isSome then .error (.usage (.unexpected path))
  else if path = "" then .error (.usage (.noValue "<INPUT>"))
  else .ok { arguments with input := some path }

def set (arguments : Arguments) (setting : Setting) (value : String) : Except Stop Arguments :=
  match setting with
  | .language =>
    if arguments.language.isSome then .error (.usage (.repeated setting.name))
    else .ok { arguments with language := some value }
  | .entity =>
    if arguments.selector.isSome then .error (.usage (.repeated setting.name))
    else
      match Selector.parse value with
      | .ok selector => .ok { arguments with selector := some selector }
      | .error _ => .error (.usage (.invalidValue setting.name value))
  | .format =>
    if arguments.format.isSome then .error (.usage (.repeated setting.name))
    else
      match value with
      | "text" => .ok { arguments with format := some .text }
      | "tokens" => .ok { arguments with format := some .tokens }
      | _ => .error (.usage (.invalidValue setting.name value))

def setFlag (arguments : Arguments) (flag : Flag) : Except Stop Arguments :=
  match flag with
  | .full =>
    if arguments.full then .error (.usage (.repeated flag.name))
    else .ok { arguments with full := true }
  | .listLanguages =>
    if arguments.listLanguages then .error (.usage (.repeated flag.name))
    else .ok { arguments with listLanguages := true }
  | .help => .error .help
  | .version => .error .version

/-! ### Reading -/

/-- An option by its long name. -/
def long? : String → Option (Setting ⊕ Flag)
  | "language" => some (.inl .language)
  | "entity" => some (.inl .entity)
  | "format" => some (.inl .format)
  | "full" => some (.inr .full)
  | "list-languages" => some (.inr .listLanguages)
  | "help" => some (.inr .help)
  | "version" => some (.inr .version)
  | _ => none

/-- An option by its letter. -/
def short? : Char → Option (Setting ⊕ Flag)
  | 'l' => some (.inl .language)
  | 'e' => some (.inl .entity)
  | 'f' => some (.inr .full)
  | 'h' => some (.inr .help)
  | 'V' => some (.inr .version)
  | _ => none

/-- Reads a long option without its two dashes. Gives the setting that waits for its value too. -/
def readLong (arguments : Arguments) (text : List Char) :
    Except Stop (Arguments × Option Setting) :=
  let name := String.ofList (text.takeWhile (· ≠ '='))
  let value? := (text.dropWhile (· ≠ '=')).tail?.map String.ofList
  match long? name, value? with
  | none, _ => .error (.usage (.unknownOption ("--" ++ name)))
  | some (.inl setting), some value => (arguments.set setting value).map (·, none)
  | some (.inl setting), none => .ok (arguments, some setting)
  | some (.inr flag), some _ => .error (.usage (.needlessValue flag.name))
  | some (.inr flag), none => (arguments.setFlag flag).map (·, none)

/-- Reads options given by letters behind one dash. A setting takes the rest as its value, without
an equals sign in front. -/
def readShort (arguments : Arguments) : List Char → Except Stop (Arguments × Option Setting)
  | [] => .ok (arguments, none)
  | c :: text =>
    match short? c, text with
    | none, _ => .error (.usage (.unknownOption (String.ofList ['-', c])))
    | some (.inr flag), text => do readShort (← arguments.setFlag flag) text
    | some (.inl setting), [] => .ok (arguments, some setting)
    | some (.inl setting), '=' :: value =>
      (arguments.set setting (String.ofList value)).map (·, none)
    | some (.inl setting), value => (arguments.set setting (String.ofList value)).map (·, none)

/-- Reads arguments of which a setting may wait for its value. -/
def readFrom (arguments : Arguments) (waiting : Option Setting) :
    List String → Except Stop Arguments
  | [] =>
    match waiting with
    | some setting => .error (.usage (.noValue setting.name))
    | none => .ok arguments
  | text :: rest =>
    match waiting, text.toList with
    | some setting, '-' :: _ :: _ => .error (.usage (.noValue setting.name))
    | some setting, _ => do (← arguments.set setting text).readFrom none rest
    | none, ['-', '-'] => rest.foldlM setInput arguments
    | none, '-' :: '-' :: option => do
      let (arguments, waiting) ← arguments.readLong option
      arguments.readFrom waiting rest
    | none, '-' :: c :: options => do
      let (arguments, waiting) ← arguments.readShort (c :: options)
      arguments.readFrom waiting rest
    | none, _ => do (← arguments.setInput text).readFrom none rest

/-- Reads all arguments. An input is needed unless only the languages are asked for. -/
def read (texts : List String) : Except Stop Arguments := do
  let arguments ← ({} : Arguments).readFrom none texts
  if arguments.input.isNone && !arguments.listLanguages then throw (.usage .noInput)
  return arguments

end Arguments

end Cil.Command
