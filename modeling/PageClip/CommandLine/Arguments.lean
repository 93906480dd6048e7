import PageClip.Decimal.Numeral
import PageClip.Text.Basic

/-!
# Arguments

Options may stand before and after the other arguments of a command, with their
value behind an equals sign, attached to a single letter, or in the next
argument. Two dashes end the options.
-/

namespace PageClip.CommandLine

structure OptionSpec where
  key : String
  letter : Option Char
  long : String
  takesValue : Bool
  deriving DecidableEq, Repr

/-- Values of options by key, in order; those without a value have an empty one. -/
abbrev OptionValues := List (String × String)

namespace OptionValues

def last? (key : String) (values : OptionValues) : Option String := values.reverse.lookup key

def all (key : String) (values : OptionValues) : List String :=
  values.filterMap fun (name, value) => if name = key then some value else none

def has (key : String) (values : OptionValues) : Bool := (last? key values).isSome

end OptionValues

/-- The options that single letters behind a dash spell, and whether one takes `next` as its value. -/
def readLetters? (specs : List OptionSpec) (next : Option String) :
    Text → Option (OptionValues × Bool)
  | [] => some ([], false)
  | c :: rest =>
    match specs.find? fun spec => spec.letter = some c with
    | none => none
    | some spec =>
      if spec.takesValue then
        if rest.isEmpty then next.map fun value => ([(spec.key, value)], true)
        else some ([(spec.key, String.ofList rest)], false)
      else
        (readLetters? specs next rest).map fun (values, used) => ((spec.key, "") :: values, used)

/-- The options that an argument with a dash spells, and whether one takes `next` as its value. -/
def readOption? (specs : List OptionSpec) (argument : String) (next : Option String) :
    Option (OptionValues × Bool) :=
  let (name, attached) : Text × Option Text :=
    match Text.cut? ['='] argument.toList with
    | some (name, value) => (name, some value)
    | none => (argument.toList, none)
  match specs.find? fun spec => spec.long.toList = name with
  | some spec =>
    match spec.takesValue, attached with
    | true, some value => some ([(spec.key, String.ofList value)], false)
    | true, none => next.map fun value => ([(spec.key, value)], true)
    | false, some _ => none
    | false, none => some ([(spec.key, "")], false)
  | none =>
    match argument.toList with
    | '-' :: '-' :: _ => none
    | '-' :: letters => readLetters? specs next letters
    | _ => none

def isOption (argument : String) : Bool :=
  match argument.toList with
  | '-' :: _ :: _ => true
  | _ => false

/-- The options and the other arguments of a command; without `mixed` the first other argument ends
the options. -/
def readArguments? (specs : List OptionSpec) (mixed : Bool) :
    List String → Option (OptionValues × List String)
  | [] => some ([], [])
  | argument :: rest =>
    if argument = "--" then some ([], rest)
    else if isOption argument then
      match readOption? specs argument rest.head? with
      | none => none
      | some (values, used) =>
        let others :=
          match used, rest with
          | true, _ :: rest => readArguments? specs mixed rest
          | _, rest => readArguments? specs mixed rest
        others.map fun (more, arguments) => (values ++ more, arguments)
    else if mixed then
      (readArguments? specs mixed rest).map fun (values, arguments) =>
        (values, argument :: arguments)
    else some ([], argument :: rest)

/-! ### Commands -/

structure ConvertOptions where
  page : String
  css : Option String
  js : Option String
  /-- Where the paste is written; it is printed where none is given. -/
  output : Option String
  split : Option String
  chunkSize : Int
  baseOnly : Bool
  deriving DecidableEq, Repr

inductive Command where
  | convert (options : ConvertOptions)
  | inspect (page : String) (css : Option String)
  | styles (sheet : String) (classNames : List String)
  | version
  | help
  deriving DecidableEq, Repr

structure Invocation where
  verbose : Bool
  command : Command
  deriving DecidableEq, Repr

def helpOption : OptionSpec := ⟨"help", none, "--help", false⟩

def programOptions : List OptionSpec :=
  [⟨"version", none, "--version", false⟩, ⟨"verbose", some 'v', "--verbose", false⟩, helpOption]

def convertOptions : List OptionSpec :=
  [⟨"css", none, "--css", true⟩, ⟨"js", none, "--js", true⟩, ⟨"output", some 'o', "--output", true⟩,
    ⟨"split", none, "--split", true⟩, ⟨"chunk-size", none, "--chunk-size", true⟩,
    ⟨"base-only", none, "--base-only", false⟩, helpOption]

def inspectOptions : List OptionSpec := [⟨"css", none, "--css", true⟩, helpOption]

def stylesOptions : List OptionSpec := [⟨"class", none, "--class", true⟩, helpOption]

def integerOption? (key : String) (fallback : Int) (values : OptionValues) : Option Int :=
  match values.last? key with
  | none => some fallback
  | some value => Decimal.readInteger? value.toList

def readConvert? (values : OptionValues) : List String → Option Command
  | [page] =>
    (integerOption? "chunk-size" 25 values).map fun chunkSize =>
      .convert {
        page
        css := values.last? "css"
        js := values.last? "js"
        output := values.last? "output"
        split := values.last? "split"
        chunkSize
        baseOnly := values.has "base-only" }
  | _ => none

def readInspect? (values : OptionValues) : List String → Option Command
  | [page] => some (.inspect page (values.last? "css"))
  | _ => none

def readStyles? (values : OptionValues) : List String → Option Command
  | [sheet] => some (.styles sheet (values.all "class"))
  | _ => none

/-- A command with its arguments; help goes before all else. -/
def readWith? (specs : List OptionSpec) (read : OptionValues → List String → Option Command)
    (arguments : List String) : Option Command :=
  match readArguments? specs true arguments with
  | none => none
  | some (values, others) => if values.has "help" then some .help else read values others

def readCommand? (name : String) (arguments : List String) : Option Command :=
  match name with
  | "convert" => readWith? convertOptions readConvert? arguments
  | "inspect" => readWith? inspectOptions readInspect? arguments
  | "styles" => readWith? stylesOptions readStyles? arguments
  | _ => none

def commandNames : List String := ["convert", "inspect", "styles"]

/-- What the options before the command ask for in its place: the first that is about the program. -/
def aboutProgram? (values : OptionValues) : Option Command :=
  values.findSome? fun (key, _) =>
    match key with
    | "version" => some .version
    | "help" => some .help
    | _ => none

/-- The command that stands in place of an unknown one: a question about the program is answered
wherever it stands first. -/
def readUnknown? (arguments : List String) : Option Command :=
  (readArguments? programOptions false arguments).bind fun (values, _) => aboutProgram? values

/-- What the arguments of the program ask for, where they can be understood. -/
def readInvocation? (arguments : List String) : Option Invocation :=
  match readArguments? programOptions false arguments with
  | none => none
  | some (values, others) =>
    let command :=
      match aboutProgram? values, others with
      | some command, _ => some command
      | none, [] => none
      | none, name :: rest =>
        if commandNames.contains name then readCommand? name rest else readUnknown? others
    command.map fun command => ⟨values.has "verbose", command⟩

def Command.inputs : Command → List String
  | .convert options => options.page :: options.css.toList ++ options.js.toList
  | .inspect page css => page :: css.toList
  | .styles sheet _ => [sheet]
  | .version => []
  | .help => []

end PageClip.CommandLine
