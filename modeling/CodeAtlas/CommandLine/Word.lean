import CodeAtlas.Text.Digits

/-!
# The words of a command line

A command line is a list of words.  In front of the first `--`, a word that starts with a dash is an
option, and any other word is an operand; behind it all words are operands.  An option may be shortened
as long as only one known option starts that way, and may carry a value behind an equals sign.

A word that names no option is an operand all the same when it is a single dash, a negative number, or
has a blank in it.

## Main definitions

* `OptionName`: the options of the program.
* `Word`, `Word.classify`: what a word means, given the options that are known.
* `Word.ofArguments`: the meaning of each word of a command line.
-/

namespace CodeAtlas.CommandLine

/-- The options of the program. -/
inductive OptionName where
  | help
  | workspace
  | output
  | strategy
  | enableImports
  | enableCalls
  | enableSemantic
  | minWeight
  | logLevel
  deriving DecidableEq, Repr

namespace OptionName

/-- The written form. -/
def text : OptionName → String
  | help => "--help"
  | workspace => "--workspace"
  | output => "--output"
  | strategy => "--strategy"
  | enableImports => "--enable-imports"
  | enableCalls => "--enable-calls"
  | enableSemantic => "--enable-semantic"
  | minWeight => "--min-weight"
  | logLevel => "--log-level"

/-- All options. -/
def all : List OptionName :=
  [help, workspace, output, strategy, enableImports, enableCalls, enableSemantic, minWeight, logLevel]

/-- Whether an option comes with a value. -/
def takesValue : OptionName → Bool
  | help => false
  | enableImports => false
  | enableCalls => false
  | enableSemantic => false
  | _ => true

end OptionName

/-- Why a command line is refused. -/
inductive UsageFault where
  /-- a shortened option that several options start with -/
  | ambiguous (word : String)
  | valueMissing (option : OptionName)
  | valueUnwanted (option : OptionName)
  | valueMalformed (option : OptionName) (value : String)
  | commandMissing
  | commandUnknown (word : String)
  | inputMissing
  | workspaceMissing
  /-- words that no part of the command line takes -/
  | surplus
  deriving DecidableEq, Repr

/-- What a word of a command line means. -/
inductive Word where
  /-- a word that is no option -/
  | operand (text : String)
  /-- a known option, with the value behind its equals sign -/
  | option (name : OptionName) (value : Option String)
  /-- the short form of the option for help, with the letters behind it -/
  | shortHelp (letters : List Char)
  /-- an option that is not known -/
  | unknown (text : String)
  /-- the mark behind which all words are operands -/
  | endOfOptions
  deriving DecidableEq, Repr

namespace Word

/-- Splits a word at its first equals sign. -/
def splitValue (cs : List Char) : List Char × Option String :=
  match cs.dropWhile (· != '=') with
  | [] => (cs, none)
  | _ :: value => (cs.takeWhile (· != '='), some (String.ofList value))

/-- Drops a line break at the end. -/
def dropLineEnd (cs : List Char) : List Char := if cs.getLast? = some '\n' then cs.dropLast else cs

/-- Whether characters are digits, or a point with at least one digit behind it. -/
def isMagnitude (cs : List Char) : Bool :=
  let isDigit (c : Char) : Bool := (Text.digitValue? c).isSome
  match cs.dropWhile isDigit with
  | [] => !cs.isEmpty
  | '.' :: fraction => !fraction.isEmpty && fraction.all isDigit
  | _ => false

/-- A word that starts with a dash and names no option. -/
def unnamed (word : String) : Word :=
  let cs := word.toList
  if isMagnitude (dropLineEnd cs.tail) || cs.contains ' ' then operand word else unknown word

/-- An option with two dashes: the one with this name, or the only one whose name starts this way. -/
def named (known : List OptionName) (word : String) : Except UsageFault Word :=
  let (name, value) := splitValue word.toList
  match known.find? fun o => o.text.toList == name with
  | some o => .ok (option o value)
  | none =>
    match known.filter fun o => name.isPrefixOf o.text.toList with
    | [] => .ok (unnamed word)
    | [o] => .ok (option o value)
    | _ => .error (.ambiguous word)

/-- What a word means where options are looked for. -/
def classify (known : List OptionName) (word : String) : Except UsageFault Word :=
  match word.toList with
  | ['-', '-'] => .ok endOfOptions
  | '-' :: '-' :: _ => named known word
  | '-' :: 'h' :: letters => .ok (shortHelp letters)
  | '-' :: _ :: _ => .ok (unnamed word)
  | _ => .ok (operand word)

/-- What each word of a command line means. -/
def ofArguments (known : List OptionName) : List String → Except UsageFault (List Word)
  | [] => .ok []
  | word :: rest => do
    match ← classify known word with
    | endOfOptions => return endOfOptions :: rest.map operand
    | w => return w :: (← ofArguments known rest)

/-- Whether the short form of help may have these letters behind it: none but more of the same letter, of
which an equals sign may stand in front. -/
def helpAllows (letters : List Char) : Bool :=
  match letters with
  | '=' :: 'h' :: rest => rest.all (· == 'h')
  | _ => letters.all (· == 'h')

end Word

end CodeAtlas.CommandLine
