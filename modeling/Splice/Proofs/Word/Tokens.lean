import Mathlib.Data.List.Chain
import Mathlib.Data.List.SplitBy
import Mathlib.Data.List.TakeWhile
import Splice.Word.Token

namespace Splice.Word

/-!
# Tokens as maximal runs

A token is a run of white space, a run of word characters, or a single other character.  Every
text is divided into tokens of which no two neighbours would make up one run, and it is so
divided in only one way.  A scan finds this division: it goes through the text and cuts it around
every longest token that it meets.  It passes over nothing, since every character is in a class
and so starts a token.
-/

section

variable (classOf : Char → CharClass)

/-- The text is not empty, and its characters are all of one class. -/
def IsRun (kind : CharClass) (text : Text) : Prop :=
  text ≠ [] ∧ ∀ c ∈ text, classOf c = kind

/-- A run of white space, a run of word characters, or a single other character. -/
def IsToken (text : Text) : Prop :=
  IsRun classOf .space text ∨ IsRun classOf .word text ∨ ∃ c, classOf c = .other ∧ text = [c]

/-- Two runs of white space, or two runs of word characters. -/
def SameRun (left right : Text) : Prop :=
  IsRun classOf .space left ∧ IsRun classOf .space right ∨
    IsRun classOf .word left ∧ IsRun classOf .word right

/-- Tokens that spell the text, of which no two neighbours would make up one run. -/
structure IsTokenization (text : Text) (pieces : List Text) : Prop where
  spelled : pieces.flatten = text
  areTokens : ∀ piece ∈ pieces, IsToken classOf piece
  parted : pieces.IsChain fun left right => ¬SameRun classOf left right

end

variable {classOf : Char → CharClass}

/-! ## Tokens as chains of joined characters -/

/-- Joined characters are both white space or both word characters. -/
theorem joined_iff {left right : Char} :
    joined classOf left right = true ↔
      classOf left = .space ∧ classOf right = .space ∨
        classOf left = .word ∧ classOf right = .word := by
  unfold joined
  cases classOf left <;> cases classOf right <;> decide

theorem IsRun.isToken
    {kind : CharClass}
    {text : Text}
    (run : IsRun classOf kind text)
    (joining : kind ≠ .other) :
    IsToken classOf text := by
  cases kind with
  | space =>
      exact Or.inl run
  | word =>
      exact Or.inr (Or.inl run)
  | other =>
      exact absurd rfl joining

/-- The neighbouring characters of a run are joined. -/
theorem IsRun.isChain
    {kind : CharClass}
    {text : Text}
    (run : IsRun classOf kind text)
    (joining : kind ≠ .other) :
    text.IsChain fun left right => joined classOf left right = true := by
  refine (List.pairwise_of_forall_mem_list fun left inLeft right inRight => ?_).isChain
  simp [joined, run.2 left inLeft, run.2 right inRight, joining]

/-- The characters of a token are all of one class. -/
theorem IsToken.isRun_iff
    {token : Text}
    (isToken : IsToken classOf token)
    {kind : CharClass}
    {c : Char}
    (member : c ∈ token) :
    IsRun classOf kind token ↔ classOf c = kind := by
  have alike : ∀ d ∈ token, classOf d = classOf c := by
    rcases isToken with ⟨_, uniform⟩ | ⟨_, uniform⟩ | ⟨other, _, rfl⟩
    · exact fun d inToken => (uniform d inToken).trans (uniform c member).symm
    · exact fun d inToken => (uniform d inToken).trans (uniform c member).symm
    · intro d inToken
      rw [List.mem_singleton.mp inToken, List.mem_singleton.mp member]
  constructor
  · rintro ⟨_, uniform⟩
    exact uniform c member
  · rintro rfl
    exact ⟨List.ne_nil_of_mem member, alike⟩

/-- Along a chain of joined characters the class stays the same. -/
theorem classOf_eq_of_isChain
    {c : Char}
    {rest : Text}
    (chain : (c :: rest).IsChain fun left right => joined classOf left right = true) :
    ∀ d ∈ rest, classOf d = classOf c := by
  induction rest generalizing c with
  | nil =>
      simp
  | cons next rest inductionHypothesis =>
      obtain ⟨joins, restChain⟩ := List.isChain_cons_cons.mp chain
      have same : classOf next = classOf c := by
        rcases joined_iff.mp joins with ⟨left, right⟩ | ⟨left, right⟩
        · rw [left, right]
        · rw [left, right]
      intro d member
      rcases List.mem_cons.mp member with rfl | inRest
      · exact same
      · exact (inductionHypothesis restChain d inRest).trans same

/-- Tokens are the texts, other than the empty one, whose neighbouring characters are joined. -/
theorem isToken_iff {text : Text} :
    IsToken classOf text ↔
      text ≠ [] ∧ text.IsChain fun left right => joined classOf left right = true := by
  constructor
  · rintro (spaces | word | ⟨c, _, rfl⟩)
    · exact ⟨spaces.1, spaces.isChain (by decide)⟩
    · exact ⟨word.1, word.isChain (by decide)⟩
    · exact ⟨List.cons_ne_nil _ _, List.isChain_singleton c⟩
  · rintro ⟨nonempty, chain⟩
    obtain ⟨c, rest, rfl⟩ := List.exists_cons_of_ne_nil nonempty
    have run : IsRun classOf (classOf c) (c :: rest) := by
      refine ⟨nonempty, fun d member => ?_⟩
      rcases List.mem_cons.mp member with rfl | inRest
      · rfl
      · exact classOf_eq_of_isChain chain d inRest
    by_cases other : classOf c = .other
    · -- Nothing is joined to a character of this class, so it stands alone.
      cases rest with
      | nil =>
          exact Or.inr (Or.inr ⟨c, other, rfl⟩)
      | cons next rest =>
          have joins := (List.isChain_cons_cons.mp chain).1
          simp [joined, other] at joins
    · exact run.isToken other

/-- Two tokens would make up one run exactly if they are joined where they meet. -/
theorem sameRun_iff_joined
    {left right : Text}
    (leftToken : IsToken classOf left)
    (rightToken : IsToken classOf right)
    (leftNonempty : left ≠ [])
    (rightNonempty : right ≠ []) :
    SameRun classOf left right ↔
      joined classOf (left.getLast leftNonempty) (right.head rightNonempty) = true := by
  simp only [SameRun, joined_iff, leftToken.isRun_iff (List.getLast_mem leftNonempty),
    rightToken.isRun_iff (List.head_mem rightNonempty)]

/-- The tokens of a text are its only division into tokens that make up no longer runs. -/
theorem isTokenization_iff
    {text : Text}
    {pieces : List Text} :
    IsTokenization classOf text pieces ↔ tokensBy classOf text = pieces := by
  rw [tokensBy, List.splitBy_eq_iff]
  constructor
  · rintro ⟨spelled, areTokens, parted⟩
    have chains (piece : Text) (member : piece ∈ pieces) := isToken_iff.mp (areTokens piece member)
    refine ⟨spelled.symm, fun member => (chains [] member).1 rfl,
      fun piece member => (chains piece member).2, ?_⟩
    refine parted.imp_of_mem_imp fun left right inLeft inRight notSame => ?_
    refine ⟨(chains left inLeft).1, (chains right inRight).1, ?_⟩
    rwa [← Bool.not_eq_true,
      ← sameRun_iff_joined (areTokens left inLeft) (areTokens right inRight)]
  · rintro ⟨spelled, nonempty, chains, parted⟩
    have areTokens (piece : Text) (member : piece ∈ pieces) : IsToken classOf piece :=
      isToken_iff.mpr ⟨fun empty => nonempty (empty ▸ member), chains piece member⟩
    refine ⟨spelled.symm, areTokens, ?_⟩
    refine parted.imp_of_mem_imp fun left right inLeft inRight notJoined => ?_
    obtain ⟨leftNonempty, rightNonempty, apart⟩ := notJoined
    rwa [sameRun_iff_joined (areTokens left inLeft) (areTokens right inRight) leftNonempty
      rightNonempty, Bool.not_eq_true]

/-! ## The scan -/

/--
The token at the start of a text: white space as far as it reaches, or else word characters as
far as they reach, or else one other character.
-/
def tokenAt? (classOf : Char → CharClass) (text : Text) : Option Text :=
  [text.takeWhile (classOf · == .space), text.takeWhile (classOf · == .word),
    (text.take 1).takeWhile (classOf · == .other)].find? (!·.isEmpty)

theorem ne_nil_of_tokenAt?
    {text token : Text}
    (found : tokenAt? classOf text = some token) :
    token ≠ [] := by
  simpa using List.find?_some found

/--
A text cut around its tokens: what stands in front of the first, the first, what stands between
that and the second, and so on up to what stands behind the last.  `passed` holds, in reverse,
what the scan has passed over since the last token.
-/
def cutAroundTokens
    (classOf : Char → CharClass)
    (passed : Text) :
    Text → List Text
  | [] => [passed.reverse]
  | c :: rest =>
      match _found : tokenAt? classOf (c :: rest) with
      | some token =>
          passed.reverse :: token :: cutAroundTokens classOf [] ((c :: rest).drop token.length)
      | none => cutAroundTokens classOf (c :: passed) rest
termination_by text => text.length
decreasing_by
  · have advanced := List.length_pos_iff.mpr (ne_nil_of_tokenAt? _found)
    simp only [List.length_drop, List.length_cons]
    omega
  · simp

/-- A token that is not joined to what is behind it is the first token of the text. -/
theorem tokensBy_append
    {token behind : Text}
    (isToken : IsToken classOf token)
    (apart : ∀ left ∈ token.getLast?, ∀ right ∈ behind.head?, joined classOf left right = false) :
    tokensBy classOf (token ++ behind) = token :: tokensBy classOf behind := by
  obtain ⟨nonempty, chain⟩ := isToken_iff.mp isToken
  rw [tokensBy, List.splitBy_append apart, List.splitBy_of_isChain nonempty chain]
  rfl

/-- A text starts with a run of the class of its first character, as far as that one reaches. -/
theorem tokenAt?_cons_of_ne_other
    {c : Char}
    (rest : Text)
    (joining : classOf c ≠ .other) :
    tokenAt? classOf (c :: rest) = some ((c :: rest).takeWhile (classOf · == classOf c)) := by
  unfold tokenAt?
  cases kind : classOf c with
  | space =>
      simp [kind]
  | word =>
      simp [kind]
  | other =>
      exact absurd kind joining

/-- That run is the first token of the text. -/
theorem tokensBy_cons_of_ne_other
    {c : Char}
    (rest : Text)
    (joining : classOf c ≠ .other) :
    tokensBy classOf (c :: rest) =
      (c :: rest).takeWhile (classOf · == classOf c) ::
        tokensBy classOf ((c :: rest).dropWhile (classOf · == classOf c)) := by
  have uniform : ∀ d ∈ (c :: rest).takeWhile (classOf · == classOf c), classOf d = classOf c := by
    intro d member
    simpa using List.mem_takeWhile_imp member
  have run : IsRun classOf (classOf c) ((c :: rest).takeWhile (classOf · == classOf c)) :=
    ⟨by simp, uniform⟩
  have apart :
      ∀ left ∈ ((c :: rest).takeWhile (classOf · == classOf c)).getLast?,
        ∀ right ∈ ((c :: rest).dropWhile (classOf · == classOf c)).head?,
          joined classOf left right = false := by
    intro left isLast right isFirst
    have stopped := (c :: rest).head?_dropWhile_not (classOf · == classOf c)
    rw [Option.mem_def.mp isFirst] at stopped
    have leftKind := uniform left (List.mem_of_getLast? isLast)
    have rightKind : classOf right ≠ classOf c := by
      simpa using stopped
    simp [joined, leftKind, rightKind.symm]
  have divided := tokensBy_append (run.isToken joining) apart
  rwa [List.takeWhile_append_dropWhile] at divided

/-- At every character a scan finds a token, and that is the first token of what is left. -/
theorem exists_tokenAt?_cons
    (classOf : Char → CharClass)
    (c : Char)
    (rest : Text) :
    ∃ token behind,
      c :: rest = token ++ behind ∧
        tokenAt? classOf (c :: rest) = some token ∧
        tokensBy classOf (c :: rest) = token :: tokensBy classOf behind := by
  by_cases other : classOf c = .other
  · have single : IsToken classOf [c] := Or.inr (Or.inr ⟨c, other, rfl⟩)
    have apart :
        ∀ left ∈ [c].getLast?, ∀ right ∈ rest.head?, joined classOf left right = false := by
      simp [joined, other]
    exact ⟨[c], rest, rfl, by simp [tokenAt?, other], tokensBy_append single apart⟩
  · exact ⟨_, _, List.takeWhile_append_dropWhile.symm, tokenAt?_cons_of_ne_other rest other,
      tokensBy_cons_of_ne_other rest other⟩

/-- A scan passes over nothing: behind each token it is empty until the next one. -/
theorem cutAroundTokens_eq (classOf : Char → CharClass) (passed text : Text) :
    cutAroundTokens classOf passed text =
      passed.reverse :: (tokensBy classOf text).flatMap ([·, []]) := by
  fun_induction cutAroundTokens classOf passed text with
  | case1 passed =>
      simp [tokensBy]
  | case2 passed c rest token found inductionHypothesis =>
      obtain ⟨first, behind, whole, firstFound, divided⟩ := exists_tokenAt?_cons classOf c rest
      cases found.symm.trans firstFound
      rw [inductionHypothesis, divided, whole, List.drop_left]
      rfl
  | case3 passed c rest notFound _ =>
      obtain ⟨first, _, _, firstFound, _⟩ := exists_tokenAt?_cons classOf c rest
      rw [notFound] at firstFound
      cases firstFound

/-- The pieces that a scan cuts a text into are its tokens, apart from the empty ones between. -/
theorem filter_cutAroundTokens (classOf : Char → CharClass) (text : Text) :
    (cutAroundTokens classOf [] text).filter (!·.isEmpty) = tokensBy classOf text := by
  have onlyToken :
      ∀ token ∈ tokensBy classOf text, [token, []].filter (!·.isEmpty) = [token] := by
    intro token member
    simp [List.ne_nil_of_mem_splitBy member]
  rw [cutAroundTokens_eq, List.filter_cons_of_neg (by simp), List.filter_flatMap,
    List.flatMap_congr onlyToken, List.flatMap_singleton']

/--
Whatever the classes of the characters, a scan that takes the longest token at every place gives
the tokens of a text, once what is empty between them is left out.  They spell the text, each is a
run of white space, a run of word characters or a single other character, and no two neighbours
would make up one run; and the text has no other division of this kind.
-/
theorem scan_gives_only_tokenization (classOf : Char → CharClass) (text : Text) :
    (cutAroundTokens classOf [] text).filter (!·.isEmpty) = tokensBy classOf text ∧
      ∀ pieces, IsTokenization classOf text pieces ↔ tokensBy classOf text = pieces :=
  ⟨filter_cutAroundTokens classOf text, fun _ => isTokenization_iff⟩

/-- Other characters stand alone even beside their like. -/
example :
    tokens ['a', '1', ' ', '\t', '(', '(', 'b'] =
      [['a', '1'], [' ', '\t'], ['('], ['('], ['b']] := by
  decide

end Splice.Word
