import Splice.Command.Argument
import Splice.Command.Path
import Splice.Comparison

namespace Splice

/-!
# Invocations

A command line names one of four commands, with its operands and options.  Options for
all commands stand before the name of the command; those of the command stand anywhere
behind it.
-/

/-- The path of an operand; an operand that is only a separator has none. -/
abbrev Operand := Option Path

/-- A command with what it works on; a granularity that is only a separator is none. -/
inductive Command where
  | merge (source edits : Operand) (processed : Bool) (output : Option Path)
  | diff (source target : Operand) (json reverse merge : Bool)
      (granularity : Option Granularity)
  | markup (source edits : Operand) (comment : Option Text) (output : Option Path)
  | delimiter (input : Operand)
  deriving Repr, DecidableEq

/-- Which records are shown. -/
structure LogSettings where
  verbose : Bool
  json : Bool
  deriving Repr, DecidableEq

/-- The commands by name. -/
inductive Invocation.CommandName where
  | merge
  | diff
  | markup
  | delimiter
  deriving Repr, DecidableEq

/-- What a command line asks for; help may be asked for on one command or on all. -/
inductive Invocation where
  | help (command : Option Invocation.CommandName)
  | version
  | run (settings : LogSettings) (command : Command)
  deriving Repr, DecidableEq

namespace Invocation

def helpOption : OptionSpec :=
  ⟨.help, ["-h", "--help"], false⟩

/-- The option that names the file for the result. -/
def outputOption : OptionSpec :=
  ⟨.output, ["-o", "--output"], true⟩

/-- The options before the name of the command. -/
def commonOptions : List OptionSpec :=
  [helpOption, ⟨.version, ["-v", "--version"], false⟩, ⟨.verbose, ["--verbose"], false⟩,
    ⟨.jsonLogs, ["--json-logs"], false⟩]

namespace CommandName

def name : CommandName → String
  | .merge => "merge"
  | .diff => "diff"
  | .markup => "markup"
  | .delimiter => "delimiter"

def all : List CommandName :=
  [.merge, .diff, .markup, .delimiter]

/-- The command with a name, which may not be shortened. -/
def ofText? (text : Text) : Option CommandName :=
  all.find? fun command => command.name.toList == text

/-- The options of a command. -/
def options : CommandName → List OptionSpec
  | .merge => [helpOption, ⟨.processed, ["--processed"], false⟩, outputOption]
  | .diff =>
      [helpOption, ⟨.json, ["--json"], false⟩, ⟨.reverse, ["--reverse"], false⟩,
        ⟨.merge, ["--merge"], false⟩, ⟨.granularity, ["--granularity"], true⟩]
  | .markup => [helpOption, ⟨.comment, ["-c", "--comment"], true⟩, outputOption]
  | .delimiter => [helpOption]

/-- How many operands a command has. -/
def operandCount : CommandName → Nat
  | .delimiter => 1
  | _ => 2

end CommandName

/-- The arguments of a command as they are collected, the last ones first. -/
structure Collected where
  operands : List (Option Text)
  options : List (OptionKey × Option Text)
  helpAsked : Bool
  unrecognized : Bool
  deriving Repr, DecidableEq

namespace Collected

def empty : Collected :=
  ⟨[], [], false, false⟩

/-- One more operand, unless the command has enough. -/
def addOperand
    (collected : Collected)
    (count : Nat)
    (operand : Option Text) :
    Collected :=
  if collected.operands.length < count then
    { collected with operands := operand :: collected.operands }
  else
    { collected with unrecognized := true }

/-- One more option with its value, if it has one. -/
def addOption
    (collected : Collected)
    (key : OptionKey)
    (value : Option Text) :
    Collected :=
  { collected with options := (key, value) :: collected.options }

def has (collected : Collected) (key : OptionKey) : Bool :=
  collected.options.any fun option => option.1 == key

/-- What an option was given as value, which may be none; the last time counts. -/
def given? (collected : Collected) (key : OptionKey) : Option (Option Text) :=
  (collected.options.find? fun option => option.1 == key).map (·.2)

/-- The value of an option, if it was given one. -/
def value? (collected : Collected) (key : OptionKey) : Option Text :=
  (collected.given? key).join

/-- The values of an option are among those allowed. -/
def valuesAllowed
    (collected : Collected)
    (key : OptionKey)
    (allowed : Text → Bool) :
    Bool :=
  collected.options.all fun option => option.1 != key || option.2.all allowed

end Collected

/-- An operand comes next. -/
def operandFollows : List Argument → Bool
  | .operand _ :: _ => true
  | _ => false

/--
Collect the arguments of a command that has `count` operands; nothing if one of them is
used wrongly.  A separator belongs to the operand beside it.  An operand that reads as
the separator but stands apart from it has no text.
-/
def collect?
    (specs : List OptionSpec)
    (count : Nat)
    (collected : Collected) :
    List Argument → Option Collected
  | [] => some collected
  | .separator :: .operand text :: rest =>
      collect? specs count (collected.addOperand count (some text)) rest
  | .separator :: rest => collect? specs count { collected with unrecognized := true } rest
  | .operand text :: .separator :: rest =>
      collect? specs count (collected.addOperand count (some text)) rest
  | .operand text :: rest =>
      collect? specs count (collected.addOperand count (Argument.valueOf? text)) rest
  | .unknownOption :: rest =>
      collect? specs count { collected with unrecognized := true } rest
  | .option spec attached :: rest =>
      if spec.takesValue then
        let give := fun value => collected.addOption spec.key (Argument.valueOf? value)
        match attached with
        | .behindEquals value => collect? specs count (give value) rest
        | .joined value => collect? specs count (give value) rest
        | .nothing =>
            match rest with
            | .operand value :: rest => collect? specs count (give value) rest
            | _ => none
      else if Argument.acceptsFlag specs (operandFollows rest) attached then
        if spec.key = .help then
          some { collected with helpAsked := true }
        else
          collect? specs count (collected.addOption spec.key none) rest
      else
        none

/-- The command that the collected arguments complete. -/
def command? (name : CommandName) (collected : Collected) : Option Command :=
  let path := fun operand : Option Text => operand.map Path.ofText
  let output := (collected.value? .output).map Path.ofText
  match name, collected.operands.reverse with
  | .merge, [source, edits] =>
      some (.merge (path source) (path edits) (collected.has .processed) output)
  | .diff, [source, target] =>
      let granularity :=
        match collected.given? .granularity with
        | some name => name.bind Granularity.ofName?
        | none => some .word
      some
        (.diff (path source) (path target) (collected.has .json) (collected.has .reverse)
          (collected.has .merge) granularity)
  | .markup, [source, edits] =>
      some (.markup (path source) (path edits) (collected.value? .comment) output)
  | .delimiter, [input] => some (.delimiter (path input))
  | _, _ => none

/-- The invocation of a command whose arguments have been collected. -/
def complete?
    (settings : LogSettings)
    (unrecognized : Bool)
    (name : CommandName)
    (collected : Collected) :
    Option Invocation :=
  let allowed := collected.valuesAllowed .granularity fun value =>
    (Granularity.ofName? value).isSome
  if !allowed then
    none
  else if collected.helpAsked then
    some (.help (some name))
  else if unrecognized || collected.unrecognized then
    none
  else
    (command? name collected).map (.run settings)

/-- The invocation of a command with the arguments behind its name. -/
def ofCommand?
    (settings : LogSettings)
    (unrecognized : Bool)
    (name : CommandName)
    (texts : List Text) :
    Option Invocation := do
  let arguments ← Argument.ofTexts? name.options texts
  let collected ← collect? name.options name.operandCount .empty arguments
  complete? settings unrecognized name collected

/-- Go over the options before the name of the command; help and version end the line. -/
def ofArguments?
    (settings : LogSettings)
    (unrecognized : Bool) :
    List (Argument × Text) → Option Invocation
  | [] => none
  | (.separator, _) :: _ => none
  | (.operand text, _) :: rest => do
      let name ← CommandName.ofText? text
      ofCommand? settings unrecognized name (rest.map (·.2))
  | (.unknownOption, _) :: rest => ofArguments? settings true rest
  | (.option spec attached, _) :: rest =>
      if Argument.acceptsFlag commonOptions false attached then
        match spec.key with
        | .help => some (.help none)
        | .version => some .version
        | .verbose => ofArguments? { settings with verbose := true } unrecognized rest
        | .jsonLogs => ofArguments? { settings with json := true } unrecognized rest
        | _ => ofArguments? settings unrecognized rest
      else
        none

/-- What a command line asks for; nothing if it is used wrongly. -/
def ofTexts? (texts : List Text) : Option Invocation := do
  let arguments ← Argument.ofTexts? commonOptions texts
  ofArguments? ⟨false, false⟩ false (arguments.zip texts)

end Invocation

end Splice
