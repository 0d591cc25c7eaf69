import SampleModels.Settings
import SampleModels.Terminal
import SampleModels.Text.Digit

/-!
# Command line arguments

Arguments are read from left to right. A value that stands in an argument of its own is taken in
only when the next argument that is understood has been found, so an argument that is not
understood is reported first. After `--` every argument is an operand.
-/

namespace SampleModels.CommandLine

/-- What can be given on the command line. -/
inductive Parameter where
  | input
  | out
  | rootName
  | inspectArrays
  | indentWidth
  | help
  | version
deriving DecidableEq

namespace Parameter

def label : Parameter → String
  | .input => "[INPUT]"
  | .out => "--out <OUT>"
  | .rootName => "--root-name <ROOT_NAME>"
  | .inspectArrays => "--inspect-arrays"
  | .indentWidth => "--indent-width <INDENT_WIDTH>"
  | .help => "--help"
  | .version => "--version"

def ofLongName? (name : String) : Option Parameter :=
  [("out", .out), ("root-name", .rootName), ("inspect-arrays", .inspectArrays),
    ("indent-width", .indentWidth), ("help", .help), ("version", .version)].lookup name

def ofShortName? (name : Char) : Option Parameter :=
  [('o', .out), ('h', .help), ('V', .version)].lookup name

end Parameter

/-- Why a text is not a number. -/
inductive NumberDefect where
  | empty
  | invalidDigit
  | tooLarge
deriving DecidableEq

def NumberDefect.message : NumberDefect → String
  | .empty => "cannot parse integer from empty string"
  | .invalidDigit => "invalid digit found in string"
  | .tooLarge => "number too large to fit in target type"

/-- Reads digits up to the first that is none or makes the number too large. -/
def readDigits (n : Nat) : List Char → Except NumberDefect Nat
  | [] => .ok n
  | c :: rest =>
    match Text.digit? c with
    | none => .error .invalidDigit
    | some d => if n * 10 + d < wordSize then readDigits (n * 10 + d) rest else .error .tooLarge

def readNumber (text : String) : Except NumberDefect Nat :=
  match text.toList with
  | [] => .error .empty
  | ['+'] => .error .invalidDigit
  | '+' :: rest => readDigits 0 rest
  | digits => readDigits 0 digits

/-- Why the arguments are refused. -/
inductive UsageError where
  | unexpectedArgument (text : String)
  | unexpectedValue (value : String) (parameter : Parameter)
  | missingValue (parameter : Parameter)
  | repeated (parameter : Parameter)
  | invalidNumber (text : String) (parameter : Parameter) (defect : NumberDefect)
deriving DecidableEq

namespace UsageError

def report : UsageError → String
  | .unexpectedArgument text => "unexpected argument '" ++ Terminal.styled text ++ "' found"
  | .unexpectedValue value parameter =>
    "unexpected value '" ++ Terminal.styled value ++ "' for '" ++
      Terminal.styled parameter.label ++ "' found; no more were expected"
  | .missingValue parameter =>
    "a value is required for '" ++ Terminal.styled parameter.label ++ "' but none was supplied"
  | .repeated parameter =>
    "the argument '" ++ Terminal.styled parameter.label ++ "' cannot be used multiple times"
  | .invalidNumber text parameter defect =>
    "invalid value '" ++ Terminal.styled text ++ "' for '" ++ Terminal.styled parameter.label ++
      "': " ++ defect.message

/-- The first line of a text, without the carriage return at its end. -/
def firstLine (text : String) : String :=
  let line := text.toList.takeWhile (· != '\n')
  String.ofList (if line.getLast? = some '\r' then line.dropLast else line)

def message (e : UsageError) : String := firstLine (Terminal.plain ("error: " ++ e.report))

end UsageError

/-- What was chosen. -/
structure Options where
  input? : Option String := none
  out? : Option String := none
  rootName? : Option String := none
  inspectArrays : Bool := false
  indentWidth? : Option Nat := none
deriving DecidableEq

namespace Options

def settings (o : Options) : Settings :=
  { inspectArrays := o.inspectArrays, indentWidth := o.indentWidth?.getD defaultIndentWidth }

def has (o : Options) : Parameter → Bool
  | .input => o.input?.isSome
  | .out => o.out?.isSome
  | .rootName => o.rootName?.isSome
  | .inspectArrays => o.inspectArrays
  | .indentWidth => o.indentWidth?.isSome
  | .help | .version => false

def path (parameter : Parameter) (text : String) : Except UsageError String :=
  if text = "" then .error (.missingValue parameter) else .ok text

/-- Takes in the value of a parameter that has not been given before. -/
def take (o : Options) (parameter : Parameter) (text : String) : Except UsageError Options :=
  if o.has parameter then .error (.repeated parameter)
  else match parameter with
    | .input => (path .input text).map fun text => { o with input? := some text }
    | .out => (path .out text).map fun text => { o with out? := some text }
    | .rootName => .ok { o with rootName? := some text }
    | .inspectArrays => .ok { o with inspectArrays := true }
    | .indentWidth =>
      match readNumber text with
      | .ok n => .ok { o with indentWidth? := some n }
      | .error defect => .error (.invalidNumber text .indentWidth defect)
    | .help | .version => .ok o

end Options

/-- What the arguments ask for. -/
inductive Command where
  | help
  | version
  | generate (options : Options)
deriving DecidableEq

/-- How far the arguments have been read. -/
structure Reading where
  options : Options := {}
  /-- A parameter that has been found and its value, once that has been found too. -/
  pending? : Option (Parameter × Option String) := none
  /-- Whether `--` has been found. -/
  operandsOnly : Bool := false

/-- What comes after an argument. -/
inductive Next where
  | more (reading : Reading)
  | done (command : Command)

namespace Reading

def settle (r : Reading) : Except UsageError Reading :=
  match r.pending? with
  | none => .ok r
  | some (parameter, none) => .error (.missingValue parameter)
  | some (parameter, some text) =>
    (r.options.take parameter text).map fun options => { r with options, pending? := none }

def give (r : Reading) (parameter : Parameter) (text : String) : Except UsageError Next := do
  let r ← r.settle
  let options ← r.options.take parameter text
  return .more { r with options }

/-- A parameter whose value is still to be taken in, or to be found. -/
def defer (r : Reading) (parameter : Parameter) (text? : Option String) :
    Except UsageError Next := do
  let r ← r.settle
  return .more { r with pending? := some (parameter, text?) }

def stop (r : Reading) (command : Command) : Except UsageError Next :=
  r.settle.map fun _ => .done command

def hasOperand (r : Reading) : Bool :=
  r.options.input?.isSome || (r.pending?.map Prod.fst) == some .input

/-- An operand: the input, and nothing after it. -/
def operand (r : Reading) (text : String) : Except UsageError Next :=
  if r.hasOperand then .error (.unexpectedArgument text) else r.defer .input (some text)

/-- An option, with the value that was attached to it. -/
def option (r : Reading) (parameter : Parameter) (attached? : Option String) :
    Except UsageError Next :=
  match parameter, attached? with
  | .help, none => r.stop .help
  | .version, none => r.stop .version
  | .inspectArrays, none => r.give .inspectArrays ""
  | .help, some value | .version, some value | .inspectArrays, some value =>
    .error (.unexpectedValue value parameter)
  | _, none => r.defer parameter none
  | _, some value => r.give parameter value

/-- An option by its long name: what follows the two dashes. -/
def longOption (r : Reading) (text : List Char) : Except UsageError Next :=
  let name := String.ofList (text.takeWhile (· != '='))
  let attached? := match text.dropWhile (· != '=') with
    | [] => none
    | _ :: value => some (String.ofList value)
  match Parameter.ofLongName? name with
  | none => .error (.unexpectedArgument ("--" ++ name))
  | some parameter => r.option parameter attached?

/-- An option by its short name, with its value after it or after an equals sign. What follows one
that has no value is never reached. -/
def shortOption (r : Reading) (name : Char) (rest : List Char) : Except UsageError Next :=
  match Parameter.ofShortName? name with
  | none => .error (.unexpectedArgument (String.ofList ['-', name]))
  | some .out =>
    match rest with
    | [] => r.option .out none
    | '=' :: value => r.option .out (some (String.ofList value))
    | value => r.option .out (some (String.ofList value))
  | some parameter => r.option parameter none

/-- An argument that looks like no option: the value that is missing, or an operand. -/
def plain (r : Reading) (text : String) : Except UsageError Next :=
  match r.pending? with
  | some (parameter, none) => .ok (.more { r with pending? := some (parameter, some text) })
  | _ => r.operand text

def step (r : Reading) (argument : String) : Except UsageError Next :=
  if r.operandsOnly then r.operand argument
  else match argument.toList with
    | ['-', '-'] => .ok (.more { r with operandsOnly := true })
    | '-' :: '-' :: text => r.longOption text
    | '-' :: name :: rest => r.shortOption name rest
    | _ => r.plain argument

/-- Reads arguments to their end, or to an option that ends the reading. -/
def readAll (r : Reading) : List String → Except UsageError Command
  | [] => r.settle.map fun r => .generate r.options
  | argument :: rest => do
    match ← r.step argument with
    | .more r => r.readAll rest
    | .done command => return command

end Reading

def readArguments (arguments : List String) : Except UsageError Command :=
  Reading.readAll {} arguments

end SampleModels.CommandLine
