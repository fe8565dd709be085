import Mathlib.Data.List.Nodup
import Splice.Proofs.Word.Lexicon

namespace Splice.Word

/-!
# What an encoding holds

The lexicon of an encoding lists no text twice and no empty one, and it keeps within its
limit, where room for two tokens is always left: one for the rest of each text.
-/

/-- A text has no empty tokens. -/
theorem ne_nil_of_mem_tokens
    {text token : Text}
    (member : token ∈ tokens text) :
    token ≠ [] :=
  List.ne_nil_of_mem_splitBy member

namespace Lexicon

variable {lexicon : Lexicon}

theorem knows_iff {c : Char} :
    lexicon.knows c = true ↔ codeOfChar c < lexicon.tokens.size := by
  have notNegative := codeOfChar_nonneg c
  simp only [knows, decide_eq_true_eq]
  omega

/-- A token has one place only, so no token is listed twice. -/
theorem nodup_tokens (lexicon : Lexicon) : lexicon.tokens.toList.Nodup := by
  rw [List.nodup_iff_getElem?_ne_getElem?]
  intro first second firstBefore inside same
  have held : lexicon.tokens[second]? = some lexicon.tokens[second] :=
    Array.getElem?_eq_getElem (by simpa using inside)
  rw [Array.getElem?_toList, Array.getElem?_toList, held] at same
  have firstPlace := (lexicon.agree _ _).mpr same
  have secondPlace := (lexicon.agree _ _).mpr held
  rw [firstPlace, Option.some.injEq] at secondPlace
  omega

/-- All tokens of the lexicon satisfy a condition. -/
def All (lexicon : Lexicon) (condition : Text → Prop) : Prop :=
  ∀ token ∈ lexicon.tokens, condition token

theorem all_empty (condition : Text → Prop) : empty.All condition := by
  simp [All, empty]

/-- Known codes of tokens that are not empty stand for some text. -/
theorem decode_ne_nil
    {codes : Text}
    (nonempty : lexicon.All (· ≠ []))
    (known : ∀ c ∈ codes, lexicon.knows c = true)
    (someCodes : codes ≠ []) :
    lexicon.decode codes ≠ [] := by
  obtain ⟨c, rest, rfl⟩ := List.exists_cons_of_ne_nil someCodes
  have inside : (codeOfChar c).toNat < lexicon.tokens.size := by
    simpa [knows] using known c List.mem_cons_self
  have held : lexicon.tokenOf c = lexicon.tokens[(codeOfChar c).toNat] := by
    simp [tokenOf, inside]
  have someText : lexicon.tokenOf c ≠ [] := held ▸ nonempty _ (Array.getElem_mem inside)
  simp [decode, someText]

theorem All.intern
    {condition : Text → Prop}
    {token : Text}
    (all : lexicon.All condition)
    (meets : condition token) :
    (lexicon.intern token).2.All condition := by
  rcases lexicon.intern_cases token with ⟨_, _, interned⟩ | ⟨unknown, interned⟩
  · rw [interned]
    exact all
  · rw [interned]
    intro other member
    rcases Array.mem_push.mp member with before | isToken
    · exact all other before
    · exact isToken ▸ meets

end Lexicon

/-- What is added for a text consists of its tokens, perhaps several taken together. -/
theorem all_ne_nil_places
    {limit : Int}
    {lexicon : Lexicon}
    {reversed : List Nat}
    {tokens : List Text}
    (all : lexicon.All (· ≠ []))
    (nonempty : ∀ token ∈ tokens, token ≠ []) :
    (places limit lexicon reversed tokens).2.All (· ≠ []) := by
  induction tokens generalizing lexicon reversed with
  | nil =>
      exact all
  | cons token rest inductionHypothesis =>
      rw [List.forall_mem_cons] at nonempty
      by_cases full : lexicon.place? token = none ∧ limit - 1 ≤ lexicon.tokens.size
      · rw [places_cons_of_full full]
        exact all.intern (by simp [nonempty.1])
      · rw [places_cons_of_not_full full]
        exact inductionHypothesis (all.intern nonempty.1) nonempty.2

/-- The lexicon of an encoding has grown with the one text and then with the other. -/
theorem lexicon_of_encode
    {limit : Int}
    {source target : Text}
    {encoding : Encoding}
    (encoded : encode limit source target = .ok encoding) :
    encoding.lexicon =
      (places limit (places (limit - 1) .empty [] (tokens source)).2 []
        (tokens target)).2 :=
  (encode_eq_ok_iff.mp encoded).2.2

section

variable {limit : Int} {source target : Text} {encoding : Encoding}

theorem all_ne_nil_of_encode
    (encoded : encode limit source target = .ok encoding) :
    encoding.lexicon.All (· ≠ []) := by
  rw [lexicon_of_encode encoded]
  exact all_ne_nil_places
    (all_ne_nil_places (Lexicon.all_empty _) fun _ => ne_nil_of_mem_tokens)
    fun _ => ne_nil_of_mem_tokens

/-- The limit is kept, unless it leaves no room for the two rests. -/
theorem size_le_of_encode
    (encoded : encode limit source target = .ok encoding) :
    (encoding.lexicon.tokens.size : Int) ≤ max 2 limit := by
  rw [lexicon_of_encode encoded]
  have sourceSize := size_places_le (limit - 1) .empty [] (tokens source)
  have targetSize :=
    size_places_le limit (places (limit - 1) .empty [] (tokens source)).2 []
      (tokens target)
  simp only [Lexicon.empty, Array.size_empty] at sourceSize
  simp only [Lexicon.empty] at targetSize ⊢
  omega

end

/--
With any limit up to the number of characters, two texts are coded in characters that the
lexicon knows and that are no surrogates, and decoding gives the texts back.  The lexicon
lists no empty text and none twice, and keeps the limit or else holds two tokens.
-/
theorem encode_is_lossless
    {limit : Int}
    (enough : limit ≤ codeCount)
    (source target : Text) :
    ∃ encoding,
      encode limit source target = .ok encoding ∧
        (∀ c ∈ encoding.source ++ encoding.target,
          (c.toNat < 0xD800 ∨ 0xE000 ≤ c.toNat ∧ c.toNat < 0x110000) ∧
            0 ≤ codeOfChar c ∧
            codeOfChar c < encoding.lexicon.tokens.size) ∧
        encoding.lexicon.decode encoding.source = source ∧
        encoding.lexicon.decode encoding.target = target ∧
        (∀ token ∈ encoding.lexicon.tokens, token ≠ []) ∧
        encoding.lexicon.tokens.toList.Nodup ∧
        (encoding.lexicon.tokens.size : Int) ≤ max 2 limit := by
  obtain ⟨encoding, encoded, ⟨sourceKnown, sourceDecoded⟩, targetKnown, targetDecoded⟩ :=
    exists_encode enough source target
  refine ⟨encoding, encoded, ?_, sourceDecoded, targetDecoded, all_ne_nil_of_encode encoded,
    encoding.lexicon.nodup_tokens, size_le_of_encode encoded⟩
  intro c member
  have known : encoding.lexicon.knows c = true := by
    rcases List.mem_append.mp member with inSource | inTarget
    · exact sourceKnown c inSource
    · exact targetKnown c inTarget
  exact ⟨toNat_bounds c, codeOfChar_nonneg c, Lexicon.knows_iff.mp known⟩

/-- A negative limit leaves one token for each text. -/
theorem encode_is_lossless_without_room :
    (-3 : Int) ≤ codeCount ∧
      ∃ encoding,
        encode (-3) ['a', ' ', 'b'] ['a', ' ', 'c'] = .ok encoding ∧
          (∀ c ∈ encoding.source ++ encoding.target,
            (c.toNat < 0xD800 ∨ 0xE000 ≤ c.toNat ∧ c.toNat < 0x110000) ∧
              0 ≤ codeOfChar c ∧
              codeOfChar c < encoding.lexicon.tokens.size) ∧
          encoding.lexicon.decode encoding.source = ['a', ' ', 'b'] ∧
          encoding.lexicon.decode encoding.target = ['a', ' ', 'c'] ∧
          (∀ token ∈ encoding.lexicon.tokens, token ≠ []) ∧
          encoding.lexicon.tokens.toList.Nodup ∧
          (encoding.lexicon.tokens.size : Int) ≤ max 2 (-3) :=
  ⟨by decide, encode_is_lossless (by decide) ['a', ' ', 'b'] ['a', ' ', 'c']⟩

end Splice.Word
