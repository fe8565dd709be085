import Splice.Document.Session
import Splice.Proofs.Batch

namespace Splice

/-!
# The history of a session

The history of a run holds the edits that its drains have answered, in order, and behind
them those that the document still records.  Whatever is done in a session, this history
applies to the text at the start and leads to the text of the document.  A history only
grows at its end and a snapshot never changes, so that a snapshot stays what the part of
the history leads to that there was when it was taken.
-/

namespace Document

variable {document later : Document} {offset length : Int} {replacement : Text} {edit : Edit}

/-- A new document has the parts that it is made of and records nothing. -/
theorem fields_of_create
    {text : Text}
    {delimiters : Needles}
    {explicitDefault : Option Text}
    (created : create text delimiters explicitDefault = .ok document) :
    document.text = text ∧
      document.events = [] ∧
      document.delimiters = delimiters ∧
      document.explicitDefault = explicitDefault := by
  unfold create at created
  split at created
  · cases created
  · split at created
    · cases created
      exact ⟨rfl, rfl, rfl, rfl⟩
    · split at created
      · cases created
        exact ⟨rfl, rfl, rfl, rfl⟩
      · cases created

theorem text_and_events_of_create
    {text : Text}
    {delimiters : Needles}
    {explicitDefault : Option Text}
    (created : create text delimiters explicitDefault = .ok document) :
    document.text = text ∧ document.events = [] :=
  ⟨(fields_of_create created).1, (fields_of_create created).2.1⟩

/-- A range that fits is replaced, by an edit with just the numbers of the request. -/
theorem exists_replace_of_fits
    (fits : Fits offset length document.text.length)
    (replacement : Text) :
    ∃ (edit : Edit) (later : Document),
      document.replace offset length replacement = .ok (edit, later) ∧
        (edit.offset : Int) = offset ∧
        (edit.length : Int) = length ∧
        edit.text = replacement := by
  unfold replace
  rw [if_pos fits]
  obtain ⟨offsetNonneg, lengthNonneg, _⟩ := fits
  exact ⟨_, _, rfl, Int.toNat_of_nonneg offsetNonneg, Int.toNat_of_nonneg lengthNonneg, rfl⟩

theorem replace_of_not_fits
    (misfit : ¬Fits offset length document.text.length)
    (replacement : Text) :
    document.replace offset length replacement =
      .error ⟨offset, length, document.text.length⟩ := by
  unfold replace
  rw [if_neg misfit]

/-- What a replacement records behind the other edits is what it does to the text. -/
theorem apply_of_replace
    (replaced : document.replace offset length replacement = .ok (edit, later)) :
    later.events = document.events ++ [edit] ∧
      document.text.apply edit = .ok later.text := by
  unfold replace at replaced
  split at replaced
  · next fits =>
      cases replaced
      refine ⟨rfl, Text.apply_eq_ok_iff.mpr ⟨?_, rfl⟩⟩
      obtain ⟨_, _, _⟩ := fits
      simp only [Edit.stop]
      omega
  · cases replaced

end Document

namespace Session

/-- The edits that a drain has answered; other steps hand out none. -/
def handedOut : Step → Except Failure Answer → List Edit
  | .drain, .ok (.batch edits) => edits
  | _, _ => []

/-- The edits of a run: those handed out by its drains and those recorded at its end. -/
def history (session : Session) (steps : List Step) : List Edit :=
  let (answers, final) := session.run steps
  (List.zipWith handedOut steps answers).flatten ++ final.document.events

variable (session : Session)

theorem run_cons (next : Step) (rest : List Step) :
    session.run (next :: rest) =
      ((session.step next).1 :: ((session.step next).2.run rest).1,
        ((session.step next).2.run rest).2) :=
  rfl

theorem run_append (first second : List Step) :
    (session.run (first ++ second)).2 = ((session.run first).2.run second).2 := by
  induction first generalizing session with
  | nil =>
      rfl
  | cons next rest inductionHypothesis =>
      rw [List.cons_append, run_cons, run_cons]
      exact inductionHypothesis (session.step next).2

theorem history_nil : session.history [] = session.document.events :=
  rfl

theorem history_cons (next : Step) (rest : List Step) :
    session.history (next :: rest) =
      handedOut next (session.step next).1 ++ (session.step next).2.history rest := by
  simp only [history, run_cons, List.zipWith_cons_cons, List.flatten_cons,
    List.append_assoc]

/-! ## What a step does -/

/-- Recorded edits that lead from the text of one session to that of another. -/
def Records (before after : Session) (handed : List Edit) : Prop :=
  ∃ recorded,
    handed ++ after.document.events = before.document.events ++ recorded ∧
      before.document.text.applyAll recorded = .ok after.document.text

theorem records_self : Records session session [] :=
  ⟨[], by simp, rfl⟩

/-- An editing step records its edit, or else leaves the session as it is. -/
theorem records_edited
    {offset length : Int}
    {replacement : Text} :
    Records session (session.edited (session.document.replace offset length replacement)).2
      [] := by
  cases outcome : session.document.replace offset length replacement with
  | error error =>
      exact session.records_self
  | ok replaced =>
      obtain ⟨edit, document⟩ := replaced
      obtain ⟨events, applied⟩ := Document.apply_of_replace outcome
      refine ⟨[edit], ?_, ?_⟩
      · simpa [edited] using events
      · exact Text.applyAll_cons_eq_ok_iff.mpr ⟨document.text, applied, rfl⟩

/-- No step loses an edit or changes the text without recording how. -/
theorem records_step (next : Step) :
    Records session (session.step next).2 (handedOut next (session.step next).1) := by
  cases next with
  | replace offset length text =>
      exact session.records_edited
  | set text =>
      exact session.records_edited
  | drain =>
      exact ⟨[], by simp [step, handedOut, Document.drain], rfl⟩
  | get | length | events | takeSnapshot | getFromSnapshot | mergeSince | numberOfLines
  | lineDelimiter | defaultDelimiter =>
      exact session.records_self

theorem snapshots_edited (outcome : Except RangeError (Edit × Document)) :
    (session.edited outcome).2.snapshots = session.snapshots := by
  cases outcome <;> rfl

/-- A snapshot that has been taken stays what and where it is. -/
theorem snapshots_prefix_step (next : Step) :
    session.snapshots <+: (session.step next).2.snapshots := by
  cases next with
  | takeSnapshot =>
      exact List.prefix_append _ _
  | replace offset length text =>
      exact ⟨[], (List.append_nil _).trans (session.snapshots_edited _).symm⟩
  | set text =>
      exact ⟨[], (List.append_nil _).trans (session.snapshots_edited _).symm⟩
  | get | length | events | drain | getFromSnapshot | mergeSince | numberOfLines
  | lineDelimiter | defaultDelimiter =>
      exact List.prefix_rfl

/-! ## What a run does -/

/-- The history of a run begins with the recorded edits and leads on to the text at its end. -/
theorem exists_recorded_of_run (steps : List Step) :
    ∃ recorded,
      session.history steps = session.document.events ++ recorded ∧
        session.document.text.applyAll recorded =
          .ok (session.run steps).2.document.text := by
  induction steps generalizing session with
  | nil =>
      exact ⟨[], by simp [history_nil], rfl⟩
  | cons next rest inductionHypothesis =>
      obtain ⟨first, firstRecorded, firstApplied⟩ := session.records_step next
      obtain ⟨others, othersRecorded, othersApplied⟩ :=
        inductionHypothesis (session.step next).2
      refine ⟨first ++ others, ?_, ?_⟩
      · rw [history_cons, othersRecorded, ← List.append_assoc, firstRecorded,
          List.append_assoc]
      · exact Text.applyAll_append_eq_ok_iff.mpr ⟨_, firstApplied, othersApplied⟩

theorem snapshots_prefix_run (steps : List Step) :
    session.snapshots <+: (session.run steps).2.snapshots := by
  induction steps generalizing session with
  | nil =>
      exact List.prefix_rfl
  | cons next rest inductionHypothesis =>
      exact (session.snapshots_prefix_step next).trans
        (inductionHypothesis (session.step next).2)

/-- What later steps record comes behind the history of a run. -/
theorem history_append
    {first second : List Step}
    {recorded : List Edit}
    (behind :
      (session.run first).2.history second =
        (session.run first).2.document.events ++ recorded) :
    session.history (first ++ second) = session.history first ++ recorded := by
  induction first generalizing session with
  | nil =>
      exact behind
  | cons next rest inductionHypothesis =>
      rw [List.cons_append, history_cons, history_cons, List.append_assoc]
      exact congrArg _ (inductionHypothesis (session.step next).2 behind)

/-- The history of a run is the beginning of that of every longer run. -/
theorem history_prefix (first second : List Step) :
    session.history first <+: session.history (first ++ second) := by
  obtain ⟨recorded, behind, _⟩ := (session.run first).2.exists_recorded_of_run second
  exact ⟨recorded, (session.history_append behind).symm⟩

/-- Whatever is read of the snapshot with a number is read of the text. -/
def SnapshotReads (number : Nat) (text : Text) : Prop :=
  ∀ offset length,
    session.step (.getFromSnapshot number offset length) =
      (((text.get offset length).map .text).mapError .range, session)

theorem snapshotReads_of_getElem?
    {number : Nat}
    {text : Text}
    (taken : session.snapshots[number]? = some text) :
    session.SnapshotReads number text := by
  intro offset length
  simp only [step, fromSnapshot, taken]

/-- A snapshot is told by its number as long as the session lasts. -/
theorem snapshotReads_after_takeSnapshot (earlier later : List Step) :
    let taken := (session.run earlier).2
    (taken.step .takeSnapshot).1 = .ok (.number taken.snapshots.length) ∧
      (session.run (earlier ++ .takeSnapshot :: later)).2.SnapshotReads taken.snapshots.length
        taken.document.text := by
  intro taken
  obtain ⟨others, snapshots⟩ :=
    (taken.step .takeSnapshot).2.snapshots_prefix_run later
  have held :
      (session.run (earlier ++ .takeSnapshot :: later)).2.snapshots[taken.snapshots.length]? =
        some taken.document.text := by
    rw [run_append, run_cons, ← snapshots]
    simp [step, taken]
  exact ⟨rfl, snapshotReads_of_getElem? _ held⟩

/--
A replacement whose range fits answers with the edit of the request, applies it to the text and
records it, and it leaves the snapshots as they are.
-/
theorem step_replace_of_fits
    {offset length : Int}
    (fits : Fits offset length session.document.text.length)
    (text : Text) :
    let after := (session.step (.replace offset length text)).2
    ∃ edit : Edit,
      (session.step (.replace offset length text)).1 =
          .ok (.edited edit after.document.text) ∧
        ((edit.offset : Int) = offset ∧ (edit.length : Int) = length ∧ edit.text = text) ∧
        session.document.text.apply edit = .ok after.document.text ∧
        after.document.events = session.document.events ++ [edit] ∧
        after.snapshots = session.snapshots := by
  obtain ⟨edit, later, replaced, offsetSame, lengthSame, textSame⟩ :=
    Document.exists_replace_of_fits fits text
  obtain ⟨recorded, applied⟩ := Document.apply_of_replace replaced
  refine ⟨edit, ?_, ⟨offsetSame, lengthSame, textSame⟩, ?_, ?_, ?_⟩
  · simp only [step, replaced, edited]
  · simpa only [step, replaced, edited] using applied
  · simpa only [step, replaced, edited] using recorded
  · simp only [step, replaced, edited]

/-- A replacement whose range does not fit is refused and leaves the session as it is. -/
theorem step_replace_of_not_fits
    {offset length : Int}
    (misfit : ¬Fits offset length session.document.text.length)
    (text : Text) :
    session.step (.replace offset length text) =
      (.error (.range ⟨offset, length, session.document.text.length⟩), session) := by
  simp only [step, Document.replace_of_not_fits misfit, edited]

/-- On a new document the history leads from its text to the text at the end of the run. -/
theorem applyAll_history_start
    {document : Document}
    (unrecorded : document.events = [])
    (steps : List Step) :
    document.text.applyAll ((start document).history steps) =
      .ok ((start document).run steps).2.document.text := by
  obtain ⟨recorded, isHistory, applied⟩ := (start document).exists_recorded_of_run steps
  rw [isHistory, show (start document).document.events = [] from unrecorded,
    List.nil_append]
  exact applied

/--
Whatever is done in a session on a new document, some of it in vain: the history applies
edit by edit and leads to the text of the document; every snapshot, the one at the start
included, stays what the history led to when it was taken; and a replacement fails exactly
if its range does not fit, with that range and without any effect.  A replacement that fits
answers with its edit, which leads from the text before it to the text behind it, comes last in
the history and leaves the snapshots as they were.
-/
theorem history_accounts_for_session
    {text : Text}
    {delimiters : Needles}
    {explicitDefault : Option Text}
    {document : Document}
    (created : Document.create text delimiters explicitDefault = .ok document)
    (steps : List Step) :
    let initial := start document
    let current := (initial.run steps).2
    (text.applyAll (initial.history steps) = .ok current.document.text ∧
      ∀ before edit behind,
        initial.history steps = before ++ edit :: behind →
          ∃ middle, text.applyAll before = .ok middle ∧ edit.stop ≤ middle.length) ∧
    (current.SnapshotReads 0 text ∧
      ∀ earlier later,
        steps = earlier ++ .takeSnapshot :: later →
          ∃ number snapshot,
            ((initial.run earlier).2.step .takeSnapshot).1 = .ok (.number number) ∧
              text.applyAll
                  ((initial.history steps).take (initial.history earlier).length) =
                .ok snapshot ∧
              current.SnapshotReads number snapshot) ∧
    ∀ offset length replacement,
      let replaced := current.step (.replace offset length replacement)
      (Fits offset length current.document.text.length →
        ∃ edit : Edit,
          replaced.1 = .ok (.edited edit replaced.2.document.text) ∧
            ((edit.offset : Int) = offset ∧
              (edit.length : Int) = length ∧
              edit.text = replacement) ∧
            current.document.text.apply edit = .ok replaced.2.document.text ∧
            initial.history (steps ++ [.replace offset length replacement]) =
              initial.history steps ++ [edit] ∧
            replaced.2.snapshots = current.snapshots) ∧
      (¬Fits offset length current.document.text.length →
        replaced =
          (.error (.range ⟨offset, length, current.document.text.length⟩), current)) := by
  intro initial current
  obtain ⟨rfl, unrecorded⟩ := Document.text_and_events_of_create created
  have applied := applyAll_history_start unrecorded steps
  refine ⟨⟨applied, ?_⟩, ⟨?_, ?_⟩, ?_⟩
  · intro before edit behind parts
    rw [parts] at applied
    exact Text.exists_turn_of_applyAll applied
  · obtain ⟨others, snapshots⟩ := initial.snapshots_prefix_run steps
    have held : current.snapshots[0]? = some document.text := by
      rw [← snapshots]
      rfl
    exact current.snapshotReads_of_getElem? held
  · rintro earlier later rfl
    have taken := initial.snapshotReads_after_takeSnapshot earlier later
    have begun := initial.history_prefix earlier (.takeSnapshot :: later)
    refine ⟨_, _, taken.1, ?_, taken.2⟩
    rw [← List.prefix_iff_eq_take.mp begun]
    exact applyAll_history_start unrecorded earlier
  · intro offset length replacement
    constructor
    · intro fits
      obtain ⟨edit, answer, ofRequest, editApplied, recorded, snapshots⟩ :=
        current.step_replace_of_fits fits replacement
      exact ⟨edit, answer, ofRequest, editApplied, initial.history_append recorded, snapshots⟩
    · intro misfit
      exact current.step_replace_of_not_fits misfit replacement

/-- A session with a drain, a snapshot, a replacement in front of the text and a new text. -/
theorem history_accounts_for_session_drained :
    let steps : List Step :=
      [.replace 1 1 ['X', 'Y'], .drain, .takeSnapshot, .replace (-1) 1 [], .set ['Z']]
    ∃ document,
      Document.create ['a', 'b'] standardDelimiters none = .ok document ∧
        let initial := start document
        let current := (initial.run steps).2
        current.document.text = ['Z'] ∧
          initial.history steps = [⟨1, 1, ['X', 'Y']⟩, ⟨0, 3, ['Z']⟩] ∧
          Text.applyAll ['a', 'b'] [⟨1, 1, ['X', 'Y']⟩, ⟨0, 3, ['Z']⟩] = .ok ['Z'] ∧
          current.SnapshotReads 0 ['a', 'b'] ∧
          Text.applyAll ['a', 'b'] [⟨1, 1, ['X', 'Y']⟩] = .ok ['a', 'X', 'Y'] ∧
          current.SnapshotReads 1 ['a', 'X', 'Y'] ∧
          current.step (.replace 1 (-1) []) = (.error (.range ⟨1, -1, 1⟩), current) ∧
          (current.step (.replace 1 0 ['W'])).2.document.text = ['Z', 'W'] ∧
          initial.history (steps ++ [.replace 1 0 ['W']]) =
            [⟨1, 1, ['X', 'Y']⟩, ⟨0, 3, ['Z']⟩, ⟨1, 0, ['W']⟩] := by
  intro steps
  refine ⟨_, rfl, ?_⟩
  intro initial current
  obtain ⟨⟨applied, _⟩, ⟨firstReads, laterRead⟩, replaces⟩ :=
    history_accounts_for_session
      (rfl : Document.create ['a', 'b'] standardDelimiters none = .ok _) steps
  obtain ⟨number, snapshot, isNumber, led, reads⟩ :=
    laterRead [.replace 1 1 ['X', 'Y'], .drain] [.replace (-1) 1 [], .set ['Z']] rfl
  obtain rfl : 1 = number := Answer.number.inj (Except.ok.inj isNumber)
  obtain rfl : ['a', 'X', 'Y'] = snapshot := Except.ok.inj led
  obtain ⟨edit, answer, _, editApplied, recorded, _⟩ := (replaces 1 0 ['W']).1 (by decide)
  obtain rfl : ⟨1, 0, ['W']⟩ = edit := (Answer.edited.inj (Except.ok.inj answer)).1
  have refused := (replaces 1 (-1) []).2 (by decide)
  exact ⟨rfl, rfl, applied, firstReads, led, reads, refused, (Except.ok.inj editApplied).symm,
    recorded⟩

end Session

end Splice
