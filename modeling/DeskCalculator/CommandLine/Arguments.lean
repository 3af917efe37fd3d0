/-!
# Arguments

The arguments of the program name a command and its options.  `parse` reads them.  The
options `--color` and `--verbose` may stand before the command and after it, once at each
place, and what stands after the command counts.  An argument `--` ends the options, so
that an operand may begin with a hyphen; a single hyphen is an operand.

Whether expressions are read strictly is asked for by the option `--strict` or, where it
is absent, by a variable of the environment that holds `true` or `false`.
-/

namespace DeskCalculator.CommandLine

/-- When the output is coloured. -/
inductive Color where
  | auto
  | always
  | never
deriving DecidableEq, Repr

/-- The setting named by a word. -/
def Color.ofName? : String → Option Color
  | "auto" => some auto
  | "always" => some always
  | "never" => some never
  | _ => none

/-- An option without a value. -/
inductive Switch where
  | verbose
  | strict
  | json
deriving DecidableEq, Repr

/-- The name of a switch. -/
def Switch.name : Switch → String
  | verbose => "verbose"
  | strict => "strict"
  | json => "json"

/-- The settings that hold for every command. -/
structure Settings where
  color : Color
  verbose : Bool
deriving DecidableEq, Repr

/-- What the program is asked to do. -/
inductive Command where
  /-- Answer one message. -/
  | eval (message : String) (strict json : Bool)
  /-- Converse line by line. -/
  | chat (strict : Bool)
  /-- Answer the lines of a file. -/
  | batch (file : String) (strict json : Bool)
deriving DecidableEq, Repr

/-- A request that can be met. -/
inductive Request where
  | run (settings : Settings) (command : Command)
  | version
  | help
deriving DecidableEq, Repr

/-- Why arguments cannot be understood. -/
inductive UsageError where
  | missingCommand
  | unknownCommand (word : String)
  | unexpectedArgument (argument : String)
  | missingOperand (name : String)
  | emptyOperand (name : String)
  | missingValue (option : String)
  | invalidValue (option value : String)
  | unexpectedValue (option value : String)
  | repeatedOption (option : String)
deriving DecidableEq, Repr

/-- The wording of a usage error. -/
def UsageError.message : UsageError → String
  | missingCommand => "a command is required"
  | unknownCommand word => "unrecognized command '" ++ word ++ "'"
  | unexpectedArgument argument => "unexpected argument '" ++ argument ++ "'"
  | missingOperand name => "the argument <" ++ name ++ "> is required"
  | emptyOperand name => "the argument <" ++ name ++ "> must not be empty"
  | missingValue option => "the option '" ++ option ++ "' requires a value"
  | invalidValue option value => "invalid value '" ++ value ++ "' for '" ++ option ++ "'"
  | unexpectedValue option value =>
    "unexpected value '" ++ value ++ "' for '" ++ option ++ "'"
  | repeatedOption option => "the option '" ++ option ++ "' cannot be used twice"

/-- How the reading of arguments ends early. -/
inductive Stop where
  | version
  | help
  | misuse (error : UsageError)
deriving DecidableEq, Repr

/-! ### Options -/

/-- The shape of an argument. -/
inductive Shape where
  /-- The argument `--`. -/
  | terminator
  /-- An argument `--name` or `--name=value`. -/
  | long (name : String) (value : Option String)
  /-- An argument `-abc`. -/
  | short (letters : List Char)
  | operand
deriving DecidableEq, Repr

/-- The shape of an argument. -/
def Shape.of (argument : String) : Shape :=
  match argument.toList with
  | ['-', '-'] => terminator
  | '-' :: '-' :: text =>
    let name := String.ofList (text.takeWhile (· ≠ '='))
    match text.dropWhile (· ≠ '=') with
    | [] => long name none
    | _ :: value => long name (some (String.ofList value))
  | '-' :: letter :: letters => short (letter :: letters)
  | _ => operand

/-- The options given at one place. -/
structure Options where
  color : Option Color := none
  switches : List Switch := []
deriving DecidableEq, Repr

/-- The options that a place admits. -/
structure Place where
  switches : List Switch
  version : Bool

namespace Place

/-- The options with one more switch. -/
def addSwitch (place : Place) (options : Options) (switch : Switch) (argument : String) :
    Except Stop Options :=
  if switch ∉ place.switches then
    .error (.misuse (.unexpectedArgument argument))
  else if switch ∈ options.switches then
    .error (.misuse (.repeatedOption argument))
  else
    .ok { options with switches := switch :: options.switches }

/-- The options with one more colour setting. -/
def addColor (options : Options) (value : String) : Except Stop Options :=
  match Color.ofName? value with
  | none => .error (.misuse (.invalidValue "--color" value))
  | some color =>
    if options.color.isSome then
      .error (.misuse (.repeatedOption "--color"))
    else
      .ok { options with color := some color }

/-- The options with one more argument `--name`. -/
def addLong (place : Place) (options : Options) (name : String) : Except Stop Options :=
  let argument := "--" ++ name
  match [Switch.verbose, .strict, .json].find? (·.name = name) with
  | some switch => place.addSwitch options switch argument
  | none =>
    if name = "help" then
      .error .help
    else if name = "version" ∧ place.version then
      .error .version
    else
      .error (.misuse (.unexpectedArgument argument))

/-- The options with one more argument `--name=value`. -/
def addLongValue (place : Place) (options : Options) (name value : String) :
    Except Stop Options :=
  if name = "color" then
    addColor options value
  else
    match place.addLong options name with
    | .error (.misuse error) => .error (.misuse error)
    | _ => .error (.misuse (.unexpectedValue ("--" ++ name) value))

/-- The options with one more argument of letters. -/
def addLetters (place : Place) (options : Options) : List Char → Except Stop Options
  | [] => .ok options
  | letter :: letters => do
    let argument := "-" ++ letter.toString
    if letter = 'v' then
      let options ← place.addSwitch options .verbose argument
      place.addLetters options letters
    else if letter = 'h' then
      .error .help
    else if letter = 'V' ∧ place.version then
      .error .version
    else
      .error (.misuse (.unexpectedArgument argument))

/-- The options at the start of the arguments, and the arguments from the first one on
that is not an option.  The argument `--` is left in front. -/
def options (place : Place) (given : Options) :
    List String → Except Stop (Options × List String)
  | [] => .ok (given, [])
  | argument :: rest =>
    match Shape.of argument with
    | .terminator => .ok (given, argument :: rest)
    | .operand => .ok (given, argument :: rest)
    | .short letters => do place.options (← place.addLetters given letters) rest
    | .long name (some value) => do place.options (← place.addLongValue given name value) rest
    | .long name none =>
      if name = "color" then
        match rest with
        | [] => .error (.misuse (.missingValue argument))
        | value :: rest =>
          if Shape.of value = .operand then
            do place.options (← addColor given value) rest
          else
            .error (.misuse (.missingValue argument))
      else
        do place.options (← place.addLong given name) rest

/-- The options after a command and the operand among them, if the command takes one
named by `operand`. -/
def operand (place : Place) (name : Option String) (arguments : List String) :
    Except Stop (Options × Option String) := do
  let (given, rest) ← place.options {} arguments
  match rest, name with
  | [], _ => .ok (given, none)
  | ["--"], _ => .ok (given, none)
  | argument :: _, none =>
    .error (.misuse (.unexpectedArgument argument))
  | "--" :: [argument], some _ => .ok (given, some argument)
  | "--" :: _ :: extra :: _, some _ => .error (.misuse (.unexpectedArgument extra))
  | argument :: rest, some _ =>
    match ← place.options given rest with
    | (given, []) => .ok (given, some argument)
    | (given, ["--"]) => .ok (given, some argument)
    | (_, extra :: _) => .error (.misuse (.unexpectedArgument extra))

end Place

/-! ### Commands -/

/-- Whether expressions are read strictly: the option asks for it or, where it is absent,
the variable of the environment with the given content. -/
def strictness (variableContent : Option String) (options : Options) : Except Stop Bool :=
  if Switch.strict ∈ options.switches then
    .ok true
  else
    match variableContent with
    | none => .ok false
    | some "true" => .ok true
    | some "false" => .ok false
    | some value => .error (.misuse (.invalidValue "--strict" value))

/-- The options of the place before the command. -/
def globalPlace : Place where
  switches := [.verbose]
  version := true

/-- The options of the place after a command. -/
def commandPlace (switches : List Switch) : Place where
  switches := .verbose :: switches
  version := false

/-- The operand that a command requires. -/
def required (name : String) : Option String → Except Stop String
  | none => .error (.misuse (.missingOperand name))
  | some operand => .ok operand

/-- The command named by a word, with the options and the operand after it. -/
def command (variableContent : Option String) (word : String) (arguments : List String) :
    Except Stop (Options × Command) :=
  match word with
  | "eval" => do
    let (options, operand) ←
      (commandPlace [.strict, .json]).operand (some "EXPRESSION") arguments
    let message ← required "EXPRESSION" operand
    .ok (options, .eval message (← strictness variableContent options) (.json ∈ options.switches))
  | "chat" => do
    let (options, _) ← (commandPlace [.strict]).operand none arguments
    .ok (options, .chat (← strictness variableContent options))
  | "batch" => do
    let (options, operand) ← (commandPlace [.strict, .json]).operand (some "FILE") arguments
    let file ← required "FILE" operand
    if file.isEmpty then
      .error (.misuse (.emptyOperand "FILE"))
    else
      .ok (options, .batch file (← strictness variableContent options) (.json ∈ options.switches))
  | _ => .error (.misuse (.unknownCommand word))

/-- The ending of the command `help`, which takes the name of one command at most. -/
def helpStop (names : List String) : Stop :=
  match names with
  | [] => .help
  | name :: further =>
    if name ∉ ["eval", "chat", "batch", "help"] then
      .misuse (.unknownCommand name)
    else
      match further with
      | [] => .help
      | name :: _ => .misuse (.unknownCommand name)

/-- The settings and the command that the arguments ask for. -/
def settled (variableContent : Option String) (arguments : List String) :
    Except Stop (Settings × Command) := do
  let (outer, rest) ← globalPlace.options {} arguments
  match rest with
  | [] => .error (.misuse .missingCommand)
  | "--" :: [] => .error (.misuse .missingCommand)
  | "--" :: argument :: _ => .error (.misuse (.unexpectedArgument argument))
  | "help" :: names => .error (helpStop names)
  | word :: arguments =>
    let (inner, command) ← command variableContent word arguments
    let settings : Settings :=
      { color := (inner.color <|> outer.color).getD .auto
        verbose := .verbose ∈ inner.switches ∨ .verbose ∈ outer.switches }
    .ok (settings, command)

/-- The request that the arguments make, with the given content of the variable of the
environment. -/
def parse (variableContent : Option String) (arguments : List String) :
    Except UsageError Request :=
  match settled variableContent arguments with
  | .ok (settings, command) => .ok (.run settings command)
  | .error .version => .ok .version
  | .error .help => .ok .help
  | .error (.misuse error) => .error error

end DeskCalculator.CommandLine
