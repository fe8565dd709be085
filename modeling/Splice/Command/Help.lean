import Splice.Command.Invocation

namespace Splice.Help

/-!
# Help

What is told on request about the program and about each of its commands, in lines of at most
eighty columns.
-/

def ofLines (lines : List String) : Text :=
  ("\n".intercalate lines).toList

/-- How the program is used. -/
def usageLines : List String :=
  ["usage: editmerge [-h] [-v] [--verbose] [--json-logs]",
    "                 \x7bmerge,diff,markup,delimiter\x7d ..."]

def programLines : List String :=
  usageLines ++
    ["",
      "Merge text edit streams into a single edit",
      "",
      "positional arguments:",
      "  \x7bmerge,diff,markup,delimiter\x7d",
      "                        Subcommands",
      "    merge               Merge a JSON edit list into one edit",
      "    diff                Compute the edit stream between two text files",
      "    markup              Show the merged edits inline as CriticMarkup",
      "    delimiter           Print the line delimiter to use for a file",
      "",
      "options:",
      "  -h, --help            show this help message and exit",
      "  -v, --version         show program's version number and exit",
      "  --verbose             Log every merge step",
      "  --json-logs           Emit logs as JSON lines on stderr"]

def mergeLines : List String :=
  ["usage: editmerge merge [-h] [--processed] [-o OUTPUT] original edits",
    "",
    "positional arguments:",
    "  original              Text file the edits apply to",
    "  edits                 JSON list of \x7boffset, length, text\x7d in application",
    "                        order",
    "",
    "options:",
    "  -h, --help            show this help message and exit",
    "  --processed           Merge against the final text (edits applied first)",
    "                        instead of the original",
    "  -o OUTPUT, --output OUTPUT",
    "                        Output file (default: stdout)"]

def diffLines : List String :=
  ["usage: editmerge diff [-h] [--json] [--reverse] [--merge]",
    "                      [--granularity \x7bword,char\x7d]",
    "                      original modified",
    "",
    "positional arguments:",
    "  original              Original text file",
    "  modified              Modified text file",
    "",
    "options:",
    "  -h, --help            show this help message and exit",
    "  --json                Output raw JSON edits",
    "  --reverse             Emit edits right to left in original offsets",
    "  --merge               Collapse the edit stream into one edit",
    "  --granularity \x7bword,char\x7d",
    "                        Diff unit (default: word)"]

def markupLines : List String :=
  ["usage: editmerge markup [-h] [-c COMMENT] [-o OUTPUT] original edits",
    "",
    "positional arguments:",
    "  original              Text file the edits apply to",
    "  edits                 JSON list of edits",
    "",
    "options:",
    "  -h, --help            show this help message and exit",
    "  -c COMMENT, --comment COMMENT",
    "                        Comment attached to the change",
    "  -o OUTPUT, --output OUTPUT",
    "                        Output file (default: stdout)"]

def delimiterLines : List String :=
  ["usage: editmerge delimiter [-h] input",
    "",
    "positional arguments:",
    "  input       Text file",
    "",
    "options:",
    "  -h, --help  show this help message and exit"]

/-- The help on a command, or on the whole program. -/
def text (command : Option Invocation.CommandName) : Text :=
  ofLines
    (match command with
    | none => programLines
    | some .merge => mergeLines
    | some .diff => diffLines
    | some .markup => markupLines
    | some .delimiter => delimiterLines)

end Splice.Help
