import Splice.Proofs.Word.Lexicon

namespace Splice.Word

/-!
# Boundaries of tokens

The boundaries of a text are the places that no run of white space or of word characters
reaches over; they are just the places between its tokens.  Where the tokens of a text are
coded, perhaps some of them together, every beginning of the codes stands for a text that ends
at a boundary.
-/

/-- A place in a text where what is in front and what is behind do not belong to one run. -/
def IsBoundary (text : Text) (position : Nat) : Prop :=
  position ≤ text.length ∧
    ∀ left ∈ (text.take position).getLast?,
      ∀ right ∈ (text.drop position).head?, joined charClass left right = false

theorem isBoundary_append_iff {front rest : Text} :
    IsBoundary (front ++ rest) front.length ↔
      ∀ left ∈ front.getLast?, ∀ right ∈ rest.head?, joined charClass left right = false := by
  simp [IsBoundary]

/-- Between two of its tokens a text has a boundary. -/
theorem isBoundary_of_tokens_eq_append
    {text : Text}
    {front rest : List Text}
    (divided : tokens text = front ++ rest) :
    IsBoundary text front.flatten.length := by
  obtain ⟨spelled, _, _, parted⟩ := List.splitBy_eq_iff.mp divided
  have apart := (List.isChain_append.mp parted).2.2
  rw [spelled, List.flatten_append, isBoundary_append_iff]
  intro left isLast right isFirst
  rcases List.eq_nil_or_concat' front with rfl | ⟨others, last, rfl⟩
  · simp at isLast
  · cases rest with
    | nil =>
        simp at isFirst
    | cons first behind =>
        obtain ⟨lastNonempty, firstNonempty, notJoined⟩ :=
          apart last (by simp) first (by simp)
        have isLast' : left = last.getLast lastNonempty := by
          rw [List.flatten_append, List.flatten_singleton,
            List.getLast?_append_of_ne_nil _ lastNonempty,
            List.getLast?_eq_some_getLast lastNonempty] at isLast
          exact (Option.some.inj isLast).symm
        have isFirst' : right = first.head firstNonempty := by
          rw [List.flatten_cons, List.head?_append_of_ne_nil _ firstNonempty,
            List.head?_eq_some_head firstNonempty] at isFirst
          exact (Option.some.inj isFirst).symm
        rw [isLast', isFirst']
        exact notJoined

/-- The boundaries of a text are the places where its tokens end, and its start. -/
theorem isBoundary_iff
    {text : Text}
    {position : Nat} :
    IsBoundary text position ↔
      ∃ front rest, tokens text = front ++ rest ∧ front.flatten.length = position := by
  constructor
  · rintro ⟨within, parted⟩
    refine ⟨tokens (text.take position), tokens (text.drop position), ?_, ?_⟩
    · have divided := List.splitBy_append parted
      rwa [List.take_append_drop] at divided
    · rw [flatten_tokens, List.length_take, Nat.min_eq_left within]
  · rintro ⟨front, rest, divided, rfl⟩
    exact isBoundary_of_tokens_eq_append divided

/-- A beginning of the codes of a text stands for what ends at a boundary. -/
theorem Lexicon.Divides.isBoundary
    {lexicon : Lexicon}
    {codes front text : Text}
    (divides : lexicon.Divides codes text)
    (isPrefix : front <+: codes) :
    IsBoundary text (lexicon.decode front).length := by
  obtain ⟨groups, grouped, _, told⟩ := divides
  obtain ⟨behind, rfl⟩ := isPrefix
  rw [List.map_append] at told
  obtain ⟨first, others, rfl, frontTold, _⟩ := List.map_eq_append_iff.mp told.symm
  have spelled : lexicon.decode front = first.flatten.flatten := by
    rw [decode, List.flatMap_def, ← frontTold, List.flatten_flatten]
  have divided : Word.tokens text = first.flatten ++ others.flatten := by
    rw [← grouped, List.flatten_append]
  rw [spelled]
  exact isBoundary_of_tokens_eq_append divided

end Splice.Word
