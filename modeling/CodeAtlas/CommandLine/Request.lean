import CodeAtlas.CommandLine.Word
import CodeAtlas.Numeral.Reading
import CodeAtlas.Vocabulary

/-!
# What a command line asks for

The program has one command, `build`, which takes an input file and options.  Words are read from left
to right, and the first fault found is the answer, except that words which nothing takes are refused
only at the end.  A request for help is granted where it stands, before anything behind it is looked at;
of an option that is given twice the last value counts.

## Main definitions

* `Preferences`, `Request`: a build that is asked for.
* `Command`, `Command.ofArguments`: what a command line asks for.
-/

namespace CodeAtlas.CommandLine

/-- How a build is to be done.  What is not given is left to the settings. -/
structure Preferences where
  output : String := ""
  strategy : Option Strategy := none
  enableImports : Bool := false
  enableCalls : Bool := false
  enableSemantic : Bool := false
  minWeight : Option Float := none
  logLevel : Option String := none

/-- A build that is asked for. -/
structure Request where
  input : String
  workspace : String
  preferences : Preferences

/-- What a command line asks for. -/
inductive Command where
  | help
  | build (request : Request)

/-- A request while it is read. -/
structure Draft where
  input : Option String := none
  workspace : Option String := none
  preferences : Preferences := {}
  /-- whether there were words that nothing takes -/
  surplus : Bool := false

namespace Draft

/-- Sets an option to a value. -/
def set (d : Draft) (name : OptionName) (value : String) : Except UsageFault Draft :=
  match name with
  | .workspace => .ok { d with workspace := some value }
  | .output => .ok { d with preferences.output := value }
  | .logLevel => .ok { d with preferences.logLevel := some value }
  | .strategy =>
    match Strategy.ofText? value with
    | some s => .ok { d with preferences.strategy := some s }
    | none => .error (.valueMalformed name value)
  | .minWeight =>
    match Numeral.decimal? value with
    | some x => .ok { d with preferences.minWeight := some x }
    | none => .error (.valueMalformed name value)
  | _ => .error (.valueUnwanted name)

/-- Switches an option on. -/
def enable (d : Draft) : OptionName → Draft
  | .enableImports => { d with preferences.enableImports := true }
  | .enableCalls => { d with preferences.enableCalls := true }
  | .enableSemantic => { d with preferences.enableSemantic := true }
  | _ => d

/-- The request, if it is complete and nothing is left over. -/
def finish (d : Draft) : Except UsageFault Command :=
  match d.input, d.workspace with
  | none, _ => .error .inputMissing
  | _, none => .error .workspaceMissing
  | some input, some workspace =>
    if d.surplus then .error .surplus else .ok (.build ⟨input, workspace, d.preferences⟩)

/-- Reads the words behind the command.  The mark of the end of options may stand directly in front of
or behind the input file. -/
def read (d : Draft) : List Word → Except UsageFault Command
  | [] => d.finish
  | .operand text :: rest =>
    if d.input.isSome then read { d with surplus := true } rest
    else
      match rest with
      | .endOfOptions :: rest => read { d with input := some text } rest
      | rest => read { d with input := some text } rest
  | .endOfOptions :: rest =>
    match d.input, rest with
    | none, .operand text :: rest => read { d with input := some text } rest
    | _, rest => read { d with surplus := true } rest
  | .unknown _ :: rest => read { d with surplus := true } rest
  | .shortHelp letters :: _ =>
    if Word.helpAllows letters then .ok .help else .error (.valueUnwanted .help)
  | .option name (some value) :: rest =>
    if name.takesValue then (d.set name value).bind (read · rest)
    else .error (.valueUnwanted name)
  | .option name none :: rest =>
    if name.takesValue then
      match rest with
      | .operand value :: rest => (d.set name value).bind (read · rest)
      | _ => .error (.valueMissing name)
    else if name = .help then .ok .help
    else read (d.enable name) rest

end Draft

namespace Command

/-- The name of the command. -/
def buildName : String := "build"

/-- Reads the words behind the command. -/
def ofBuildArguments (arguments : List String) : Except UsageFault Command :=
  (Word.ofArguments OptionName.all arguments).bind fun words => Draft.read {} words

/-- Reads a command line; `surplus` says whether words have been passed over.  In front of the command
the only option is the one for help. -/
def ofArgumentsAfter (surplus : Bool) : List String → Except UsageFault Command
  | [] => .error .commandMissing
  | word :: rest => do
    match ← Word.classify [.help] word with
    | .operand name =>
      if name ≠ buildName then throw (.commandUnknown name)
      match ← ofBuildArguments rest with
      | .help => return .help
      | command => if surplus then throw .surplus else return command
    | .endOfOptions => throw (if rest.isEmpty then .commandMissing else .commandUnknown word)
    | .unknown _ => ofArgumentsAfter true rest
    | .shortHelp letters =>
      if Word.helpAllows letters then return .help else throw (.valueUnwanted .help)
    | .option _ none => return .help
    | .option name (some _) => throw (.valueUnwanted name)

/-- What a command line asks for. -/
def ofArguments (arguments : List String) : Except UsageFault Command :=
  ofArgumentsAfter false arguments

end Command

end CodeAtlas.CommandLine
