import Splice.Command.Invocation

namespace Splice

/-!
# Command lines in plain form

A command line that gives the name of a command, two operands and then options asks for
that command, whatever the operands are, as long as they do not look like options.
-/

/-- The text has no dash in front, so it is no option and no separator. -/
def Argument.Plain (text : Text) : Prop :=
  text.head? ≠ some '-'

namespace Argument

instance (text : Text) : Decidable (Plain text) :=
  inferInstanceAs (Decidable (_ ≠ _))

variable {name : Text}

theorem Plain.ne_separatorText (plain : Plain name) : name ≠ separatorText := by
  rintro rfl
  exact plain rfl

theorem Plain.valueOf?_eq_some (plain : Plain name) : valueOf? name = some name :=
  if_neg plain.ne_separatorText

theorem Plain.ofText?_eq_operand
    (plain : Plain name)
    (specs : List OptionSpec) :
    ofText? specs name = some (.operand name) := by
  unfold ofText?
  split
  · exact (plain rfl).elim
  · rfl

/-- A plain text is an operand, and those behind it are what they are without it. -/
theorem Plain.ofTexts?_cons
    (plain : Plain name)
    (specs : List OptionSpec)
    (texts : List Text) :
    ofTexts? specs (name :: texts) = (ofTexts? specs texts).map (.operand name :: ·) := by
  rw [ofTexts?, if_neg plain.ne_separatorText, plain.ofText?_eq_operand]
  simp only [Option.bind_eq_bind, Option.bind_some, Option.pure_def, Option.map_eq_bind]
  rfl

/-- Only the separator itself is one. -/
theorem ofText?_ne_separator (specs : List OptionSpec) (text : Text) :
    ofText? specs text ≠ some .separator := by
  intro told
  unfold ofText? at told
  split at told
  · split at told
    · cases told
    · unfold ofDashed? at told
      simp only at told
      split at told
      · cases told
      · split at told
        · cases told
        · cases told
        · split at told <;> cases told
  · cases told

theorem head?_of_ofTexts?
    {specs : List OptionSpec}
    {texts : List Text}
    {arguments : List Argument}
    (apart : texts.head? ≠ some separatorText)
    (told : ofTexts? specs texts = some arguments) :
    arguments.head? ≠ some .separator := by
  cases texts with
  | nil =>
      cases told
      simp
  | cons text rest =>
      rw [ofTexts?, if_neg fun same => apart (congrArg some same)] at told
      obtain ⟨argument, first, told⟩ := Option.bind_eq_some_iff.mp told
      obtain ⟨behind, _, same⟩ := Option.bind_eq_some_iff.mp told
      cases same
      rintro isSeparator
      cases isSeparator
      exact ofText?_ne_separator specs text first

theorem length_of_ofTexts?
    {specs : List OptionSpec}
    {texts : List Text}
    {arguments : List Argument}
    (told : ofTexts? specs texts = some arguments) :
    arguments.length = texts.length := by
  induction texts generalizing arguments with
  | nil =>
      cases told
      rfl
  | cons text rest inductionHypothesis =>
      unfold ofTexts? at told
      split at told
      · cases told
        simp
      · obtain ⟨argument, _, told⟩ := Option.bind_eq_some_iff.mp told
        obtain ⟨behind, restTold, same⟩ := Option.bind_eq_some_iff.mp told
        cases same
        simp [inductionHypothesis restTold]

end Argument

namespace Invocation

open Argument

theorem CommandName.plain (command : CommandName) : Plain command.name.toList := by
  cases command <;> decide

theorem CommandName.ofText?_name (command : CommandName) :
    ofText? command.name.toList = some command := by
  cases command <;> decide

/-- A plain operand with no separator behind it is collected with its text. -/
theorem collect?_operand
    {name : Text}
    (plain : Plain name)
    {specs : List OptionSpec}
    {count : Nat}
    {collected : Collected}
    {rest : List Argument}
    (apart : rest.head? ≠ some .separator) :
    collect? specs count collected (.operand name :: rest) =
      collect? specs count (collected.addOperand count (some name)) rest := by
  rw [collect?, plain.valueOf?_eq_some]
  rintro others rfl
  exact apart rfl

/--
The name of a command, two operands and options ask for what the command makes of the
operands and the options, which have to be clear beside the options for all commands.
-/
theorem ofTexts?_command
    (command : CommandName)
    {first second : Text}
    (firstPlain : Plain first)
    (secondPlain : Plain second)
    (options : List Text)
    (apart : options.head? ≠ some separatorText)
    (clear : (Argument.ofTexts? commonOptions options).isSome = true) :
    ofTexts? (command.name.toList :: first :: second :: options) =
      (Argument.ofTexts? command.options options).bind fun arguments =>
        (collect? command.options command.operandCount
          ((Collected.empty.addOperand command.operandCount (some first)).addOperand
            command.operandCount (some second))
          arguments).bind (complete? ⟨false, false⟩ false command) := by
  obtain ⟨common, commonTold⟩ := Option.isSome_iff_exists.mp clear
  have behind : (common.zip options).map (·.2) = options :=
    List.map_snd_zip (Nat.le_of_eq (length_of_ofTexts? commonTold).symm)
  have asked :
      ofTexts? (command.name.toList :: first :: second :: options) =
        ofCommand? ⟨false, false⟩ false command (first :: second :: options) := by
    rw [ofTexts?, command.plain.ofTexts?_cons, firstPlain.ofTexts?_cons,
      secondPlain.ofTexts?_cons, commonTold]
    simp only [Option.map_some, Option.bind_eq_bind, Option.bind_some, List.zip_cons_cons,
      ofArguments?, command.ofText?_name, List.map_cons, behind]
  rw [asked, ofCommand?, firstPlain.ofTexts?_cons, secondPlain.ofTexts?_cons]
  cases told : Argument.ofTexts? command.options options with
  | none =>
      rfl
  | some arguments =>
      simp only [Option.map_some, Option.bind_eq_bind, Option.bind_some]
      rw [collect?_operand firstPlain (by simp),
        collect?_operand secondPlain (head?_of_ofTexts? apart told)]

/-! ## Comparing and merging -/

/-- The options with which two files are compared, and their edits printed as JSON. -/
def diffOptions
    (reverse : Bool)
    (granularity : Option Granularity)
    (merge : Bool) :
    List Text :=
  "--json".toList :: (if reverse then ["--reverse".toList] else []) ++
    (match granularity with
      | none => []
      | some granularity => ["--granularity".toList, granularity.name.toList]) ++
    (if merge then ["--merge".toList] else [])

/-- The command line that compares two files. -/
def diffLine
    (source target : Text)
    (reverse : Bool)
    (granularity : Option Granularity)
    (merge : Bool) :
    List Text :=
  "diff".toList :: source :: target :: diffOptions reverse granularity merge

/-- The command line that merges the edits of a file. -/
def mergeLine
    (source edits : Text)
    (processed : Bool) :
    List Text :=
  "merge".toList :: source :: edits :: if processed then ["--processed".toList] else []

variable {source target edits : Text}

theorem ofTexts?_mergeLine
    (sourcePlain : Plain source)
    (editsPlain : Plain edits)
    (processed : Bool) :
    ofTexts? (mergeLine source edits processed) =
      some
        (.run ⟨false, false⟩
          (.merge (some (Path.ofText source)) (some (Path.ofText edits)) processed none)) := by
  cases processed with
  | false =>
      exact ofTexts?_command .merge sourcePlain editsPlain [] (by decide) (by decide)
  | true =>
      exact ofTexts?_command .merge sourcePlain editsPlain ["--processed".toList]
        (by decide) (by decide)

theorem ofTexts?_diffLine
    (sourcePlain : Plain source)
    (targetPlain : Plain target)
    (reverse : Bool)
    (granularity : Option Granularity)
    (merge : Bool) :
    ofTexts? (diffLine source target reverse granularity merge) =
      some
        (.run ⟨false, false⟩
          (.diff (some (Path.ofText source)) (some (Path.ofText target)) true reverse merge
            (some (granularity.getD .word)))) := by
  have apart : (diffOptions reverse granularity merge).head? ≠ some separatorText :=
    fun same => absurd (Option.some.inj same) (by decide)
  have clear :
      (Argument.ofTexts? commonOptions (diffOptions reverse granularity merge)).isSome = true := by
    cases reverse <;> cases merge <;> rcases granularity with _ | _ | _ <;> decide
  refine (ofTexts?_command .diff sourcePlain targetPlain _ apart clear).trans ?_
  cases reverse <;> cases merge <;> rcases granularity with _ | _ | _ <;> rfl

end Invocation

end Splice
