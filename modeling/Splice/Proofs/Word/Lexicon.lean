import Mathlib.Data.List.SplitBy
import Splice.Proofs.Script.Sides
import Splice.Proofs.Word.Code
import Splice.Word.Lexicon

namespace Splice.Word

/-!
# Coding loses nothing

Interning keeps the tokens of a lexicon where they are, so the places that a text was given
stay good while the other text is coded.  A rest that is taken together is still the text
of its tokens.  The lexicon never outgrows its limit, and as long as there are enough
characters both texts are coded and decoded.
-/

theorem flatten_tokens (text : Text) : (tokens text).flatten = text :=
  List.flatten_splitBy _ text

namespace Lexicon

variable {lexicon later : Lexicon}

/-- The later lexicon holds all tokens where the earlier one holds them. -/
def Extends (later earlier : Lexicon) : Prop :=
  ∀ (place : Nat) (token : Text),
    earlier.tokens[place]? = some token → later.tokens[place]? = some token

/-- The lexicon holds the tokens at the places. -/
def Lists (lexicon : Lexicon) (places : List Nat) (tokens : List Text) : Prop :=
  places.map (lexicon.tokens[·]?) = tokens.map some

theorem Extends.refl (lexicon : Lexicon) : lexicon.Extends lexicon :=
  fun _ _ held => held

theorem Extends.trans
    {first second third : Lexicon}
    (outer : third.Extends second)
    (inner : second.Extends first) :
    third.Extends first :=
  fun place token held => outer place token (inner place token held)

theorem lists_nil (lexicon : Lexicon) : lexicon.Lists [] [] :=
  rfl

theorem lists_cons_iff
    {place : Nat}
    {places : List Nat}
    {token : Text}
    {tokens : List Text} :
    lexicon.Lists (place :: places) (token :: tokens) ↔
      lexicon.tokens[place]? = some token ∧ lexicon.Lists places tokens := by
  simp [Lists]

theorem Lists.append
    {first second : List Nat}
    {before behind : List Text}
    (firstListed : lexicon.Lists first before)
    (secondListed : lexicon.Lists second behind) :
    lexicon.Lists (first ++ second) (before ++ behind) := by
  unfold Lists at *
  rw [List.map_append, List.map_append, firstListed, secondListed]

/-- What a lexicon lists, its extensions list as well. -/
theorem Lists.of_extends
    {places : List Nat}
    {tokens : List Text}
    (listed : lexicon.Lists places tokens)
    (extended : later.Extends lexicon) :
    later.Lists places tokens := by
  induction places generalizing tokens with
  | nil =>
      exact listed
  | cons place places inductionHypothesis =>
      cases tokens with
      | nil =>
          cases listed
      | cons token tokens =>
          rw [lists_cons_iff] at listed ⊢
          exact ⟨extended _ _ listed.1, inductionHypothesis listed.2⟩

/-- A token is interned at the place it has, or else behind all others. -/
theorem intern_cases (lexicon : Lexicon) (token : Text) :
    (∃ place,
        lexicon.place? token = some place ∧ lexicon.intern token = (place, lexicon)) ∨
      ∃ unknown : lexicon.place? token = none,
        lexicon.intern token = (lexicon.tokens.size, lexicon.add token unknown) := by
  unfold intern
  split
  · next place known =>
      exact Or.inl ⟨place, known, rfl⟩
  · next unknown =>
      exact Or.inr ⟨unknown, rfl⟩

theorem getElem?_intern (lexicon : Lexicon) (token : Text) :
    (lexicon.intern token).2.tokens[(lexicon.intern token).1]? = some token := by
  rcases lexicon.intern_cases token with ⟨place, known, interned⟩ | ⟨unknown, interned⟩
  · rw [interned]
    exact (lexicon.agree token place).mp known
  · rw [interned]
    simp [add]

/-- Interning moves no token. -/
theorem extends_intern (lexicon : Lexicon) (token : Text) :
    (lexicon.intern token).2.Extends lexicon := by
  intro place other held
  rcases lexicon.intern_cases token with ⟨_, _, interned⟩ | ⟨unknown, interned⟩
  · rw [interned]
    exact held
  · have inside : place < lexicon.tokens.size :=
      (Array.getElem?_eq_some_iff.mp held).1
    rw [interned]
    simp only [add, Array.getElem?_push]
    rw [if_neg (Nat.ne_of_lt inside)]
    exact held

theorem size_intern_le (lexicon : Lexicon) (token : Text) :
    (lexicon.intern token).2.tokens.size ≤ lexicon.tokens.size + 1 := by
  rcases lexicon.intern_cases token with ⟨place, known, interned⟩ | ⟨unknown, interned⟩
  · rw [interned]
    exact Nat.le_succ _
  · rw [interned]
    simp [add]

end Lexicon

section

variable {limit : Int} {lexicon : Lexicon} {reversed : List Nat} {token : Text}
  {rest : List Text}

theorem places_cons_of_full
    (full : lexicon.place? token = none ∧ limit - 1 ≤ lexicon.tokens.size) :
    places limit lexicon reversed (token :: rest) =
      (((lexicon.intern (token :: rest).flatten).1 :: reversed).reverse,
        (lexicon.intern (token :: rest).flatten).2) := by
  rw [places, if_pos full]

theorem places_cons_of_not_full
    (roomy : ¬(lexicon.place? token = none ∧ limit - 1 ≤ lexicon.tokens.size)) :
    places limit lexicon reversed (token :: rest) =
      places limit (lexicon.intern token).2 ((lexicon.intern token).1 :: reversed) rest := by
  rw [places, if_neg roomy]

end

/-- While a text is coded the lexicon only grows. -/
theorem extends_places
    (limit : Int)
    (lexicon : Lexicon)
    (reversed : List Nat)
    (tokens : List Text) :
    (places limit lexicon reversed tokens).2.Extends lexicon := by
  induction tokens generalizing lexicon reversed with
  | nil =>
      exact .refl lexicon
  | cons token rest inductionHypothesis =>
      by_cases full : lexicon.place? token = none ∧ limit - 1 ≤ lexicon.tokens.size
      · rw [places_cons_of_full full]
        exact lexicon.extends_intern _
      · rw [places_cons_of_not_full full]
        exact (inductionHypothesis _ _).trans (lexicon.extends_intern token)

/-- The places of tokens list them in groups, which are taken together. -/
theorem exists_lists_places
    (limit : Int)
    {lexicon : Lexicon}
    {reversed : List Nat}
    {before : List Text}
    (listed : lexicon.Lists reversed.reverse before)
    (tokens : List Text) :
    ∃ groups : List (List Text),
      (places limit lexicon reversed tokens).2.Lists
          (places limit lexicon reversed tokens).1 (before ++ groups.map List.flatten) ∧
        groups.flatten = tokens := by
  induction tokens generalizing lexicon reversed before with
  | nil =>
      exact ⟨[], by simpa [places] using listed, rfl⟩
  | cons token rest inductionHypothesis =>
      have interned (piece : Text) :
          (lexicon.intern piece).2.Lists
            ((lexicon.intern piece).1 :: reversed).reverse (before ++ [piece]) := by
        rw [List.reverse_cons]
        exact (listed.of_extends (lexicon.extends_intern piece)).append
          (Lexicon.lists_cons_iff.mpr ⟨lexicon.getElem?_intern piece, Lexicon.lists_nil _⟩)
      by_cases full : lexicon.place? token = none ∧ limit - 1 ≤ lexicon.tokens.size
      · rw [places_cons_of_full full]
        exact ⟨[token :: rest], interned _, by simp⟩
      · rw [places_cons_of_not_full full]
        obtain ⟨groups, groupsListed, grouped⟩ := inductionHypothesis (interned token)
        exact ⟨[token] :: groups, by simpa using groupsListed, by simp [grouped]⟩

/-- A lexicon exceeds its limit less one only by the rest that is taken together. -/
theorem size_places_le
    (limit : Int)
    (lexicon : Lexicon)
    (reversed : List Nat)
    (tokens : List Text) :
    ((places limit lexicon reversed tokens).2.tokens.size : Int) ≤
      max (lexicon.tokens.size : Int) (limit - 1) + 1 := by
  induction tokens generalizing lexicon reversed with
  | nil =>
      simp only [places]
      omega
  | cons token rest inductionHypothesis =>
      by_cases full : lexicon.place? token = none ∧ limit - 1 ≤ lexicon.tokens.size
      · rw [places_cons_of_full full]
        have grown := lexicon.size_intern_le (token :: rest).flatten
        simp only
        omega
      · rw [places_cons_of_not_full full]
        refine Int.le_trans (inductionHypothesis _ _) ?_
        rcases lexicon.intern_cases token with ⟨place, _, interned⟩ | ⟨unknown, _⟩
        · simp only [interned, Int.le_refl]
        · -- A token is added only while the limit leaves room for it and a rest.
          have roomy : ¬limit - 1 ≤ lexicon.tokens.size := fun tight => full ⟨unknown, tight⟩
          have grown := lexicon.size_intern_le token
          omega

/-- A whole text is given places of its tokens in groups, within the limit. -/
theorem exists_places
    (limit : Int)
    (lexicon : Lexicon)
    (text : Text) :
    ∃ (found : List Nat) (later : Lexicon) (groups : List (List Text)),
      places limit lexicon [] (tokens text) = (found, later) ∧
        later.Lists found (groups.map List.flatten) ∧
        groups.flatten = tokens text ∧
        later.Extends lexicon ∧
        (later.tokens.size : Int) ≤ max (lexicon.tokens.size : Int) (limit - 1) + 1 := by
  have listed : lexicon.Lists ([] : List Nat).reverse [] := rfl
  obtain ⟨groups, groupsListed, grouped⟩ := exists_lists_places limit listed (tokens text)
  exact ⟨_, _, groups, rfl, groupsListed, grouped,
    extends_places limit lexicon [] (tokens text),
    size_places_le limit lexicon [] (tokens text)⟩

namespace Lexicon

/-- The codes are those of the tokens, one for one. -/
def Tells (lexicon : Lexicon) (codes : Text) (tokens : List Text) : Prop :=
  (∀ c ∈ codes, lexicon.knows c = true) ∧ codes.map lexicon.tokenOf = tokens

/-- The codes are those of the tokens of a text, where groups of tokens may be taken together. -/
def Divides (lexicon : Lexicon) (codes text : Text) : Prop :=
  ∃ groups : List (List Text),
    groups.flatten = Word.tokens text ∧ lexicon.Tells codes (groups.map List.flatten)

/-- The codes are those of tokens, and the tokens spell the text. -/
def Reads (lexicon : Lexicon) (codes text : Text) : Prop :=
  (∀ c ∈ codes, lexicon.knows c = true) ∧ lexicon.decode codes = text

theorem tells_nil (lexicon : Lexicon) : lexicon.Tells [] [] :=
  ⟨by simp, rfl⟩

theorem Tells.cons
    {lexicon : Lexicon}
    {c : Char}
    {codes token : Text}
    {tokens : List Text}
    (held : lexicon.tokens[(codeOfChar c).toNat]? = some token)
    (tells : lexicon.Tells codes tokens) :
    lexicon.Tells (c :: codes) (token :: tokens) := by
  obtain ⟨known, told⟩ := tells
  constructor
  · intro other member
    rcases List.mem_cons.mp member with isFirst | inRest
    · subst isFirst
      simpa [knows] using (Array.getElem?_eq_some_iff.mp held).1
    · exact known other inRest
  · rw [← told]
    simp [tokenOf, Array.getD_eq_getD_getElem?, held]

/-- Codes of the tokens of a text are read as the text. -/
theorem Divides.reads
    {lexicon : Lexicon}
    {codes text : Text}
    (divides : lexicon.Divides codes text) :
    lexicon.Reads codes text := by
  obtain ⟨groups, grouped, known, told⟩ := divides
  refine ⟨known, ?_⟩
  rw [decode, List.flatMap_def, told, ← List.flatten_flatten, grouped, flatten_tokens]

/-- With enough characters every place has one, and they are the codes of the tokens. -/
theorem Lists.exists_characters
    {lexicon : Lexicon}
    {places : List Nat}
    {tokens : List Text}
    (listed : lexicon.Lists places tokens)
    (small : (lexicon.tokens.size : Int) ≤ codeCount) :
    ∃ codes, characters places = .ok codes ∧ lexicon.Tells codes tokens := by
  induction places generalizing tokens with
  | nil =>
      cases tokens with
      | nil =>
          exact ⟨[], rfl, lexicon.tells_nil⟩
      | cons token tokens =>
          cases listed
  | cons place places inductionHypothesis =>
      cases tokens with
      | nil =>
          cases listed
      | cons token tokens =>
          obtain ⟨held, restListed⟩ := lists_cons_iff.mp listed
          obtain ⟨codes, coded, tells⟩ := inductionHypothesis restListed
          have inside : place < lexicon.tokens.size :=
            (Array.getElem?_eq_some_iff.mp held).1
          obtain ⟨c, standsFor, code⟩ :=
            exists_charOfCode? (Int.natCast_nonneg place) (by omega)
          refine ⟨c :: codes, ?_, ?_⟩
          · unfold characters
            rw [List.mapM_cons, standsFor]
            exact bind_eq_ok_iff.mpr ⟨c, rfl, bind_eq_ok_iff.mpr ⟨codes, coded, rfl⟩⟩
          · exact .cons (by simpa [code] using held) tells

theorem decode_append (lexicon : Lexicon) (first second : Text) :
    lexicon.decode (first ++ second) = lexicon.decode first ++ lexicon.decode second := by
  simp [decode]

/-- A piece of codes read as a piece of the text that they stand for. -/
def decoded (lexicon : Lexicon) (piece : Piece) : Piece :=
  { piece with text := lexicon.decode piece.text }

/-- A piece is decoded exactly if its codes are all known. -/
theorem decodePiece_eq_ok_iff
    {lexicon : Lexicon}
    {piece read : Piece} :
    lexicon.decodePiece piece = .ok read ↔
      (∀ c ∈ piece.text, lexicon.knows c = true) ∧ lexicon.decoded piece = read := by
  have noneUnknown :
      List.find? (fun c => !lexicon.knows c) piece.text = none ↔
        ∀ c ∈ piece.text, lexicon.knows c = true := by
    simp
  rw [decodePiece, ← noneUnknown]
  cases List.find? (fun c => !lexicon.knows c) piece.text with
  | some unknown =>
      simp
  | none =>
      simp [decoded]

/-- What a script shows of its codes on a side, its decoding shows of their text. -/
theorem on_map_decoded
    (lexicon : Lexicon)
    (side : Side)
    (script : Script) :
    Script.on side (script.map lexicon.decoded) = lexicon.decode (script.on side) := by
  induction script with
  | nil =>
      rfl
  | cons piece rest inductionHypothesis =>
      rw [List.map_cons, Script.on_cons, Script.on_cons, decode_append, inductionHypothesis]
      congr 1
      rcases Piece.on_eq_self_or_nil side piece.operation with shown | hidden
      · exact (shown _).trans (congrArg lexicon.decode (shown piece.text)).symm
      · exact (hidden _).trans (congrArg lexicon.decode (hidden piece.text)).symm

/-- A script is decoded exactly if its codes are all known, and then piece by piece. -/
theorem decodeScript_eq_ok_iff
    {lexicon : Lexicon}
    {script read : Script} :
    lexicon.decodeScript script = .ok read ↔
      (∀ piece ∈ script, ∀ c ∈ piece.text, lexicon.knows c = true) ∧
        script.map lexicon.decoded = read := by
  unfold decodeScript
  induction script generalizing read with
  | nil =>
      simp [pure, Except.pure]
  | cons piece rest inductionHypothesis =>
      rw [List.mapM_cons, List.forall_mem_cons, List.map_cons]
      simp only [bind_eq_ok_iff, decodePiece_eq_ok_iff, inductionHypothesis]
      constructor
      · rintro ⟨_, ⟨pieceKnown, rfl⟩, _, ⟨restKnown, rfl⟩, made⟩
        exact ⟨⟨pieceKnown, restKnown⟩, Except.ok.inj made⟩
      · rintro ⟨⟨pieceKnown, restKnown⟩, rfl⟩
        exact ⟨_, ⟨pieceKnown, rfl⟩, _, ⟨restKnown, rfl⟩, rfl⟩

/-- What is known of both sides of a script is known of its pieces. -/
theorem knows_of_mem_piece
    {lexicon : Lexicon}
    {script : Script}
    (knownSource : ∀ c ∈ script.source, lexicon.knows c = true)
    (knownTarget : ∀ c ∈ script.target, lexicon.knows c = true) :
    ∀ piece ∈ script, ∀ c ∈ piece.text, lexicon.knows c = true := by
  intro piece member c inPiece
  rcases Script.mem_source_or_mem_target member inPiece with inSource | inTarget
  · exact knownSource c inSource
  · exact knownTarget c inTarget

end Lexicon

/-- The texts are coded in turn, the target with the lexicon that the source has left. -/
theorem encode_eq_ok_iff
    {limit : Int}
    {source target : Text}
    {encoding : Encoding} :
    encode limit source target = .ok encoding ↔
      characters (places (limit - 1) .empty [] (tokens source)).1 = .ok encoding.source ∧
        let seen := (places (limit - 1) .empty [] (tokens source)).2
        characters (places limit seen [] (tokens target)).1 = .ok encoding.target ∧
          encoding.lexicon = (places limit seen [] (tokens target)).2 := by
  unfold encode
  simp only [bind_eq_ok_iff]
  constructor
  · rintro ⟨sourceCodes, sourceCoded, targetCodes, targetCoded, made⟩
    cases made
    exact ⟨sourceCoded, targetCoded, rfl⟩
  · rintro ⟨sourceCoded, targetCoded, lexicon_eq⟩
    refine ⟨_, sourceCoded, _, targetCoded, ?_⟩
    rw [← lexicon_eq]
    rfl

/-- Both texts are coded, and the codes are those of their tokens, some taken together. -/
theorem exists_encode_divides
    {limit : Int}
    (enough : limit ≤ codeCount)
    (source target : Text) :
    ∃ encoding,
      encode limit source target = .ok encoding ∧
        encoding.lexicon.Divides encoding.source source ∧
        encoding.lexicon.Divides encoding.target target := by
  have total : codeCount = 0x10F800 := rfl
  obtain ⟨sourcePlaces, sourceLexicon, sourceGroups, sourceRun, sourceListed,
      sourceGrouped, _, sourceSize⟩ :=
    exists_places (limit - 1) .empty source
  obtain ⟨targetPlaces, lexicon, targetGroups, targetRun, targetListed, targetGrouped,
      extended, targetSize⟩ :=
    exists_places limit sourceLexicon target
  simp only [Lexicon.empty, Array.size_empty] at sourceSize
  have small : (lexicon.tokens.size : Int) ≤ codeCount := by
    omega
  -- The source was coded before the lexicon grew with the target.
  obtain ⟨sourceCodes, sourceCoded, sourceTells⟩ :=
    (sourceListed.of_extends extended).exists_characters small
  obtain ⟨targetCodes, targetCoded, targetTells⟩ :=
    targetListed.exists_characters small
  refine ⟨⟨sourceCodes, targetCodes, lexicon⟩, ?_, ⟨sourceGroups, sourceGrouped, sourceTells⟩,
    ⟨targetGroups, targetGrouped, targetTells⟩⟩
  simp only [encode_eq_ok_iff, sourceRun, targetRun, and_true]
  exact ⟨sourceCoded, targetCoded⟩

/-- Both texts are coded, and decoding their codes gives them back. -/
theorem exists_encode
    {limit : Int}
    (enough : limit ≤ codeCount)
    (source target : Text) :
    ∃ encoding,
      encode limit source target = .ok encoding ∧
        encoding.lexicon.Reads encoding.source source ∧
        encoding.lexicon.Reads encoding.target target := by
  obtain ⟨encoding, encoded, sourceDivides, targetDivides⟩ :=
    exists_encode_divides enough source target
  exact ⟨encoding, encoded, sourceDivides.reads, targetDivides.reads⟩

end Splice.Word
