import Splice.Proofs.Word.Encoding

namespace Splice.Word

/-!
# Coding a text twice

A text that is coded again, with the lexicon that it has left behind, is given the same
places, even though the second limit leaves room for one more token.  Where the first
coding took a rest together, the second one does so too: the rest of several tokens is none
of the tokens that are known by then, since a text is never divided differently.
-/

/-- A list of tokens into which the text that it spells is divided. -/
def Division (pieces : List Text) : Prop :=
  tokens pieces.flatten = pieces

theorem division_tokens (text : Text) : Division (tokens text) := by
  rw [Division, flatten_tokens]

/-- Behind its first token a division is one of the rest, and the token is one by itself. -/
theorem Division.of_cons
    {token : Text}
    {rest : List Text}
    (divided : Division (token :: rest)) :
    Division [token] ∧ Division rest := by
  obtain ⟨_, nonempty, chains, parted⟩ := List.splitBy_eq_iff.mp divided
  rw [List.mem_cons, not_or] at nonempty
  rw [List.forall_mem_cons] at chains
  constructor
  · exact List.splitBy_flatten (by simpa using nonempty.1) (by simpa using chains.1)
      (List.isChain_singleton token)
  · exact List.splitBy_flatten nonempty.2 chains.2 parted.tail

/-- A division that spells a single token consists of it. -/
theorem Division.eq_singleton
    {pieces : List Text}
    (divided : Division pieces)
    (single : Division [pieces.flatten]) :
    pieces = [pieces.flatten] := by
  have spelled : tokens pieces.flatten = [pieces.flatten] := by
    simpa [Division] using single
  exact divided.symm.trans spelled

namespace Lexicon

variable {lexicon : Lexicon} {token : Text} {place : Nat}

theorem intern_of_place?_eq_some
    (known : lexicon.place? token = some place) :
    lexicon.intern token = (place, lexicon) := by
  rcases lexicon.intern_cases token with ⟨other, otherKnown, interned⟩ | ⟨unknown, _⟩
  · rw [known, Option.some.injEq] at otherKnown
    rw [interned, otherKnown]
  · rw [known] at unknown
    cases unknown

/-- An interned token is known from then on, at the place that it was given. -/
theorem place?_of_extends_intern
    {later : Lexicon}
    (extended : later.Extends (lexicon.intern token).2) :
    later.place? token = some (lexicon.intern token).1 :=
  (later.agree _ _).mpr (extended _ _ (lexicon.getElem?_intern token))

theorem tokens_intern_of_unknown
    (unknown : lexicon.place? token = none) :
    (lexicon.intern token).2.tokens = lexicon.tokens.push token := by
  rcases lexicon.intern_cases token with ⟨place, known, _⟩ | ⟨_, interned⟩
  · rw [known] at unknown
    cases unknown
  · rw [interned]
    rfl

/-- A lexicon knows exactly its tokens. -/
theorem exists_place?_iff :
    (∃ place, lexicon.place? token = some place) ↔ token ∈ lexicon.tokens := by
  rw [Array.mem_iff_getElem?]
  exact exists_congr fun place => lexicon.agree token place

end Lexicon

/-- A rest that was taken together is taken together again, or known if it is one token. -/
theorem places_again_of_full
    {limit : Int}
    {lexicon : Lexicon}
    {reversed : List Nat}
    {token : Text}
    {rest : List Text}
    (single : lexicon.All fun known => Division [known])
    (divided : Division (token :: rest))
    (full : lexicon.place? token = none ∧ limit - 1 - 1 ≤ lexicon.tokens.size) :
    places limit (lexicon.intern (token :: rest).flatten).2 reversed (token :: rest) =
      (((lexicon.intern (token :: rest).flatten).1 :: reversed).reverse,
        (lexicon.intern (token :: rest).flatten).2) := by
  -- If the rest were known it would be a single token, and that one is not known.
  have unknown : lexicon.place? (token :: rest).flatten = none := by
    cases known : lexicon.place? (token :: rest).flatten with
    | none =>
        rfl
    | some place =>
        have alone := divided.eq_singleton (single _ (Lexicon.exists_place?_iff.mp ⟨place, known⟩))
        rw [← (List.cons.inj alone).1, full.1] at known
        cases known
  have known := Lexicon.place?_of_extends_intern
    (.refl (lexicon.intern (token :: rest).flatten).2)
  have again := Lexicon.intern_of_place?_eq_some known
  have grown := lexicon.tokens_intern_of_unknown unknown
  by_cases other : (lexicon.intern (token :: rest).flatten).2.place? token = none
  · have fullAgain :
        (lexicon.intern (token :: rest).flatten).2.place? token = none ∧
          limit - 1 ≤ (lexicon.intern (token :: rest).flatten).2.tokens.size := by
      refine ⟨other, ?_⟩
      rw [grown, Array.size_push]
      have := full.2
      omega
    rw [places_cons_of_full fullAgain, again]
  · -- Only the rest has been added, so the token is all of it.
    have isRest : token = (token :: rest).flatten := by
      have member := Lexicon.exists_place?_iff.mp (Option.ne_none_iff_exists'.mp other)
      rw [grown] at member
      rcases Array.mem_push.mp member with before | isRest
      · obtain ⟨place, held⟩ := Lexicon.exists_place?_iff.mpr before
        rw [full.1] at held
        cases held
      · exact isRest
    have nothing : rest = [] := by
      have alone := divided.eq_singleton (isRest ▸ divided.of_cons.1)
      exact (List.cons.inj alone).2
    subst nothing
    rw [← isRest] at again ⊢
    rw [places_cons_of_not_full fun full => other (isRest ▸ full.1), again]
    rfl

/-- Places are given again when a text is coded anew with the lexicon that it has left. -/
theorem places_again
    {limit : Int}
    {lexicon : Lexicon}
    {reversed : List Nat}
    {tokens : List Text}
    (single : lexicon.All fun known => Division [known])
    (divided : Division tokens) :
    places limit (places (limit - 1) lexicon reversed tokens).2 reversed tokens =
      places (limit - 1) lexicon reversed tokens := by
  induction tokens generalizing lexicon reversed with
  | nil =>
      rfl
  | cons token rest inductionHypothesis =>
      by_cases full : lexicon.place? token = none ∧ limit - 1 - 1 ≤ lexicon.tokens.size
      · rw [places_cons_of_full full]
        exact places_again_of_full single divided full
      · obtain ⟨tokenDivided, restDivided⟩ := divided.of_cons
        rw [places_cons_of_not_full full]
        have known := Lexicon.place?_of_extends_intern
          (extends_places (limit - 1) (lexicon.intern token).2
            ((lexicon.intern token).1 :: reversed) rest)
        rw [places_cons_of_not_full (by simp [known]),
          Lexicon.intern_of_place?_eq_some known]
        exact inductionHypothesis (single.intern tokenDivided) restDivided

/-- Two equal texts are coded alike. -/
theorem source_eq_target_of_encode
    {limit : Int}
    {text : Text}
    {encoding : Encoding}
    (encoded : encode limit text text = .ok encoding) :
    encoding.source = encoding.target := by
  obtain ⟨sourceCoded, targetCoded, _⟩ := encode_eq_ok_iff.mp encoded
  rw [places_again (Lexicon.all_empty _) (division_tokens text), sourceCoded] at targetCoded
  exact Except.ok.inj targetCoded

/-- Two texts are coded alike exactly if they are equal, since their codes tell them. -/
theorem source_eq_target_iff_of_encode
    {limit : Int}
    {source target : Text}
    {encoding : Encoding}
    (enough : limit ≤ codeCount)
    (encoded : encode limit source target = .ok encoding) :
    encoding.source = encoding.target ↔ source = target := by
  constructor
  · intro codedAlike
    obtain ⟨other, otherEncoded, readsSource, readsTarget⟩ :=
      exists_encode enough source target
    cases encoded.symm.trans otherEncoded
    rw [← readsSource.2, ← readsTarget.2, codedAlike]
  · rintro rfl
    exact source_eq_target_of_encode encoded

end Splice.Word
