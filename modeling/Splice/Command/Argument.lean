import Splice.Text
import Splice.Text.Digit

namespace Splice

/-!
# Command-line arguments

An argument is an option, an operand, or the separator behind which all are operands.
A long option may be shortened as far as it stays the only one, and may carry its value
behind an equals sign; a short option may carry its value with or without the sign.  Short
options without values may share one dash.
-/

/-- What can be given on the command line besides operands. -/
inductive OptionKey where
  | help
  | version
  | verbose
  | jsonLogs
  | processed
  | output
  | json
  | reverse
  | merge
  | granularity
  | comment
  deriving Repr, DecidableEq

/-- An option with the names it goes by. -/
structure OptionSpec where
  key : OptionKey
  names : List String
  takesValue : Bool
  deriving Repr, DecidableEq

/-- What is written in the same argument as an option, behind a long name or a short one. -/
inductive Attached where
  | nothing
  | behindEquals (value : Text)
  | joined (value : Text)
  deriving Repr, DecidableEq

/-- What an argument is. -/
inductive Argument where
  | operand (text : Text)
  | option (spec : OptionSpec) (attached : Attached)
  | unknownOption
  | separator
  deriving Repr, DecidableEq

namespace Argument

/-- The argument behind which all are operands. -/
def separatorText : Text :=
  ['-', '-']

/-- Every name with its option, in the order in which the options are listed. -/
def namedOptions (specs : List OptionSpec) : List (Text × OptionSpec) :=
  specs.flatMap fun spec => spec.names.map fun name => (name.toList, spec)

/-- The option with exactly the given name. -/
def named? (specs : List OptionSpec) (name : Text) : Option OptionSpec :=
  ((namedOptions specs).find? fun option => option.1 == name).map (·.2)

/-- The value that a text gives; one that is only the separator gives none. -/
def valueOf? (text : Text) : Option Text :=
  if text = separatorText then none else some text

/-- A text in two parts, before and behind its first equals sign, if it has one. -/
def atEquals (text : Text) : Text × Attached :=
  match text.span (· != '=') with
  | (name, []) => (name, .nothing)
  | (name, _ :: value) =>
      (name, if separatorText.isPrefixOf name then .behindEquals value else .joined value)

/-- The options that a shortened or joined one may stand for. -/
def candidates (specs : List OptionSpec) (text : Text) : List (OptionSpec × Attached) :=
  if separatorText.isPrefixOf text then
    let (name, attached) := atEquals text
    (namedOptions specs).filterMap fun option =>
      if name.isPrefixOf option.1 then some (option.2, attached) else none
  else
    (namedOptions specs).filterMap fun option =>
      if option.1 = text.take 2 then
        some (option.2, .joined (text.drop 2))
      else if text.isPrefixOf option.1 then
        some (option.2, .nothing)
      else
        none

/-- The text without a line break at its end. -/
def withoutLineBreak (text : Text) : Text :=
  match text.reverse with
  | '\n' :: rest => rest.reverse
  | _ => text

/-- A minus sign and a decimal number in digits of any script, which may have a point. -/
def isNegativeNumber (text : Text) : Bool :=
  match withoutLineBreak text with
  | '-' :: digits =>
      match digits.span isDecimalDigit with
      | (whole, []) => !whole.isEmpty
      | (_, '.' :: fraction) => !fraction.isEmpty && fraction.all isDecimalDigit
      | _ => false
  | _ => false

/-- What a dash and more stand for, if that is no name of an option; nothing if ambiguous. -/
def ofDashed? (specs : List OptionSpec) (text : Text) : Option Argument :=
  let (name, attached) := atEquals text
  match named? specs name with
  | some spec => some (.option spec attached)
  | none =>
      match candidates specs text with
      | _ :: _ :: _ => none
      | [(spec, attached)] => some (.option spec attached)
      | [] =>
          if isNegativeNumber text || text.contains ' ' then
            some (.operand text)
          else
            some .unknownOption

/-- What one argument before the separator is; nothing if it is ambiguous. -/
def ofText? (specs : List OptionSpec) (text : Text) : Option Argument :=
  match text with
  | '-' :: _ :: _ =>
      match named? specs text with
      | some spec => some (.option spec .nothing)
      | none => ofDashed? specs text
  | _ => some (.operand text)

/-- What each argument is; nothing if one of them is ambiguous. -/
def ofTexts? (specs : List OptionSpec) : List Text → Option (List Argument)
  | [] => some []
  | text :: rest =>
      if text = separatorText then
        some (.separator :: rest.map .operand)
      else do
        let argument ← ofText? specs text
        let behind ← ofTexts? specs rest
        return argument :: behind

/--
The tail of an argument in which short options share one dash.  Each letter is an option,
and the first that takes a value has the rest as its value, or else the next argument;
`valueFollows` tells whether that may be one.
-/
def acceptsTail
    (specs : List OptionSpec)
    (valueFollows : Bool) :
    Text → Bool
  | [] => true
  | letter :: rest =>
      match named? specs ['-', letter] with
      | none => false
      | some spec =>
          if spec.takesValue then
            valueFollows || !rest.isEmpty
          else
            acceptsTail specs valueFollows rest

/-- An option without a value is acceptable as it is written. -/
def acceptsFlag
    (specs : List OptionSpec)
    (valueFollows : Bool) :
    Attached → Bool
  | .nothing => true
  | .behindEquals _ => false
  | .joined [] => false
  | .joined tail => acceptsTail specs valueFollows tail

end Argument

end Splice
