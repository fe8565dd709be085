import Splice.Proofs.Document.History

namespace Splice

/-!
# The delimiter for new line breaks

The default delimiter of a document is looked for in four places, one behind the other: the
explicit default, the break of the first line, the separator of the platform and the list of
legal delimiters.  Whatever the list holds, each of them gives a legal delimiter or lets the next
one decide, and the last one always decides.  Under the standard delimiters the break of the
first line is also what a look at the text alone finds.
-/

/-- A line break is one of the delimiters that are looked for. -/
theorem mem_of_nextBreak?
    {delimiters : Needles}
    {text delimiter : Text}
    {offset behind : Nat}
    (found : nextBreak? delimiters text offset = some (delimiter, behind)) :
    delimiter ∈ delimiters := by
  rw [nextBreak?_eq_map_earliest?] at found
  obtain ⟨occurrence, isEarliest, same⟩ := Option.map_eq_some_iff.mp found
  cases same
  have listed := (Needles.candidate_of_earliest? isEarliest).1
  exact List.mem_of_getElem? (Needles.getElem?_of_mem_candidates listed)

/--
What a look at the text alone finds is its first line break, since none of the standard
delimiters is empty.
-/
theorem firstDelimiter_eq_or (text : Text) (hint : Option Text) :
    firstDelimiter text hint =
      ((nextBreak? standardDelimiters text 0).map Prod.fst).or hint := by
  have noneEmpty : standardDelimiters.lastEmpty? = none := by
    decide
  rw [firstDelimiter, nextBreak?_eq_map_earliest?, Needles.indexOf?, Int.toNat_zero, noneEmpty]
  cases found : standardDelimiters.earliest? text 0 with
  | none =>
      rfl
  | some occurrence =>
      have listed := (Needles.candidate_of_earliest? found).1
      exact Needles.getElem?_of_mem_candidates listed

namespace Document

variable {document : Document}

/-- Every document has a first line, which ends with the first line break. -/
theorem lineDelimiter_zero :
    document.lineDelimiter 0 =
      .ok ((nextBreak? document.delimiters document.text 0).map Prod.fst) :=
  rfl

/-- Each place where a default is looked for decides if it has one; the list always has. -/
theorem defaultDelimiter_eq_ok (platform : Text) :
    document.defaultDelimiter platform =
      .ok
        (document.explicitDefault.getD
          (((nextBreak? document.delimiters document.text 0).map Prod.fst).getD
            (if platform ∈ document.delimiters then
              platform
            else
              document.delimiters.head document.delimiters_ne_nil))) := by
  unfold defaultDelimiter
  cases document.explicitDefault with
  | some delimiter =>
      rfl
  | none =>
      rw [lineDelimiter_zero, ok_bind]
      cases nextBreak? document.delimiters document.text 0 with
      | some found =>
          rfl
      | none =>
          exact (apply_ite Except.ok _ _ _).symm

/-- The default delimiter of a document can always be told, and it is legal. -/
theorem exists_defaultDelimiter (document : Document) (platform : Text) :
    ∃ delimiter ∈ document.delimiters, document.defaultDelimiter platform = .ok delimiter := by
  refine ⟨_, ?_, defaultDelimiter_eq_ok platform⟩
  cases explicit : document.explicitDefault with
  | some delimiter =>
      exact document.explicitDefault_mem delimiter explicit
  | none =>
      cases found : nextBreak? document.delimiters document.text 0 with
      | some firstBreak =>
          exact mem_of_nextBreak? found
      | none =>
          by_cases legal : platform ∈ document.delimiters
          · simp [legal]
          · simp [legal]

end Document

namespace Session

variable (session : Session)

/-- Editing a document leaves its legal delimiters as they are. -/
theorem delimiters_edited {offset length : Int} {replacement : Text} :
    (session.edited (session.document.replace offset length replacement)).2.document.delimiters =
      session.document.delimiters := by
  by_cases fits : Fits offset length session.document.text.length
  · simp only [Document.replace, if_pos fits, edited]
  · simp only [Document.replace_of_not_fits fits, edited]

/-- No step changes which delimiters are legal. -/
theorem delimiters_step (next : Step) :
    (session.step next).2.document.delimiters = session.document.delimiters := by
  cases next with
  | replace offset length text =>
      exact session.delimiters_edited
  | set text =>
      exact session.delimiters_edited
  | get | length | events | drain | takeSnapshot | getFromSnapshot | mergeSince | numberOfLines
  | lineDelimiter | defaultDelimiter =>
      rfl

theorem delimiters_run (steps : List Step) :
    (session.run steps).2.document.delimiters = session.document.delimiters := by
  induction steps generalizing session with
  | nil =>
      rfl
  | cons next rest inductionHypothesis =>
      exact (inductionHypothesis (session.step next).2).trans (session.delimiters_step next)

end Session

/--
Whatever delimiters a document is made with, empty ones and a list without the separator of the
platform included, and whatever is done in a session on it, its default delimiter can be told and
is one of them, on every platform.  For a new document with the standard delimiters and no
explicit default, a look at the text alone finds the delimiter of the first line and, with the
separator of the platform for a hint, the default delimiter, if this separator is a standard one.
-/
theorem default_delimiter_is_legal :
    (∀ text delimiters explicitDefault document,
        Document.create text delimiters explicitDefault = .ok document →
          ∀ steps platform,
            let current := ((Session.start document).run steps).2.document
            ∃ delimiter ∈ delimiters, current.defaultDelimiter platform = .ok delimiter) ∧
      ∀ text,
        ∃ document,
          Document.create text standardDelimiters none = .ok document ∧
            document.lineDelimiter 0 = .ok (firstDelimiter text none) ∧
            ∀ platform ∈ standardDelimiters,
              ∃ delimiter,
                document.defaultDelimiter platform = .ok delimiter ∧
                  firstDelimiter text (some platform) = some delimiter := by
  constructor
  · intro text delimiters explicitDefault document created steps platform current
    have kept := (Session.start document).delimiters_run steps
    obtain ⟨delimiter, legal, isDefault⟩ := current.exists_defaultDelimiter platform
    refine ⟨delimiter, ?_, isDefault⟩
    rwa [kept, show (Session.start document).document = document from rfl,
      (Document.fields_of_create created).2.2.1] at legal
  · intro text
    refine ⟨_, rfl, ?_, fun platform standard => ?_⟩
    · rw [Document.lineDelimiter_zero, firstDelimiter_eq_or, Option.or_none]
    · refine ⟨_, Document.defaultDelimiter_eq_ok platform, ?_⟩
      rw [firstDelimiter_eq_or, Option.or_some, if_pos standard]
      rfl

/--
Where nothing else decides, the first legal delimiter is the default, even an empty one.  In a
text with a line break, this decides, also against the line feed as the platform's separator.
-/
theorem default_delimiter_is_legal_last_resort :
    let steps : List Session.Step := [.replace 0 1 ['b', '\x1e'], .drain, .set ['c']]
    (∃ document,
      Document.create ['a', '\n'] [[], ['\x1e']] none = .ok document ∧
        ((Session.start document).run steps).2.document.defaultDelimiter ['\n'] = .ok [] ∧
        ∃ delimiter ∈ ([[], ['\x1e']] : Needles),
          ((Session.start document).run steps).2.document.defaultDelimiter ['\n'] =
            .ok delimiter) ∧
      ['\n'] ∈ standardDelimiters ∧
      ∃ document,
        Document.create ['a', '\r', 'b'] standardDelimiters none = .ok document ∧
          document.lineDelimiter 0 = .ok (firstDelimiter ['a', '\r', 'b'] none) ∧
          document.defaultDelimiter ['\n'] = .ok ['\r'] ∧
          firstDelimiter ['a', '\r', 'b'] (some ['\n']) = some ['\r'] := by
  intro steps
  have standard : ['\n'] ∈ standardDelimiters := by decide
  refine ⟨?_, standard, ?_⟩
  · obtain ⟨document, created⟩ :
        ∃ document, Document.create ['a', '\n'] [[], ['\x1e']] none = .ok document :=
      ⟨_, rfl⟩
    refine ⟨document, created, ?_, default_delimiter_is_legal.1 _ _ _ _ created steps ['\n']⟩
    cases created
    decide
  · obtain ⟨document, created, firstLine, ofPlatform⟩ :=
      default_delimiter_is_legal.2 ['a', '\r', 'b']
    obtain ⟨delimiter, isDefault, found⟩ := ofPlatform ['\n'] standard
    obtain rfl : ['\r'] = delimiter := by
      have known : firstDelimiter ['a', '\r', 'b'] (some ['\n']) = some ['\r'] := by decide
      exact Option.some.inj (known.symm.trans found)
    exact ⟨document, created, firstLine, isDefault, found⟩

end Splice
