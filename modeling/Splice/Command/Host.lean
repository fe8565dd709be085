import Splice.Command.Help
import Splice.Edit.Batch

namespace Splice

/-!
# Hosts

A host is what the program relies on without deciding it: the comparison of two texts, the
validation of edits, the separator of lines on the platform, the limit on the digits of an
integer that is read, and what is told about the use of the command line.
-/

/-- What the program relies on. -/
structure Host where
  compare : Comparer
  validate : Edit.Validator
  lineDelimiter : Text
  digitLimit : Option Nat
  help : Option Invocation.CommandName → Text
  complaint : List Text → Text

/-- The host that compares by the readable script and reads edits as fields. -/
def Host.standard : Host where
  compare := Script.between
  validate := Edit.validate
  lineDelimiter := ['\n']
  digitLimit := some 4300
  help := Help.text
  complaint := fun _ => Help.ofLines Help.usageLines

end Splice
