import Splice.Script
import Splice.Word.Code
import Splice.Word.Token
import Std.Data.HashMap

namespace Splice.Word

/-!
# Texts as sequences of token codes

For a comparison by words every token becomes one character: the one whose code is
the place of the token in a lexicon that both texts share.  The lexicon has a limit.
A token that is not in a full lexicon is taken together with the rest of its text as
one last token; the first text stops one code early, so that the second has a code
left for its own rest.
-/

/-- Texts are hashed as strings. -/
instance : Hashable Text where
  hash text := hash (String.ofList text)

/-- The tokens met so far, in order, and the place of each. -/
structure Lexicon where
  tokens : Array Text
  places : Std.HashMap Text Nat
  agree :
    ∀ (token : Text) (place : Nat),
      places[token]? = some place ↔ tokens[place]? = some token

namespace Lexicon

def empty : Lexicon where
  tokens := #[]
  places := ∅
  agree := by simp

def place? (lexicon : Lexicon) (token : Text) : Option Nat :=
  lexicon.places[token]?

/-- A new token at the end and its place agree as those before do. -/
theorem agree_push
    (lexicon : Lexicon)
    (token : Text)
    (unknown : lexicon.place? token = none)
    (other : Text)
    (place : Nat) :
    (lexicon.places.insert token lexicon.tokens.size)[other]? = some place ↔
      (lexicon.tokens.push token)[place]? = some other := by
  have held := lexicon.agree other place
  rw [Std.HashMap.getElem?_insert, Array.getElem?_push]
  by_cases same : token = other
  · subst same
    have noPlace : ¬lexicon.tokens[place]? = some token := by
      intro listed
      unfold place? at unknown
      rw [held.mpr listed] at unknown
      cases unknown
    by_cases last : place = lexicon.tokens.size
    · simp [last]
    · have other : lexicon.tokens.size ≠ place := fun equal => last equal.symm
      simp [last, other, noPlace]
  · by_cases last : place = lexicon.tokens.size
    · subst last
      simp_all
    · simp_all

/-- The lexicon with a new token at the end. -/
def add
    (lexicon : Lexicon)
    (token : Text)
    (unknown : lexicon.place? token = none) :
    Lexicon :=
  let size := lexicon.tokens.size
  { tokens := lexicon.tokens.push token
    places := lexicon.places.insert token size
    agree := lexicon.agree_push token unknown }

/-- The place of a token in the lexicon, to which it is added if it is not there. -/
def intern (lexicon : Lexicon) (token : Text) : Nat × Lexicon :=
  match known : lexicon.place? token with
  | some place => (place, lexicon)
  | none => (lexicon.tokens.size, lexicon.add token known)

end Lexicon

/--
The places of tokens in a lexicon that grows with them; `reversed` holds those of the
tokens before.  With one code left, an unknown token takes all tokens behind it along.
-/
def places
    (limit : Int)
    (lexicon : Lexicon)
    (reversed : List Nat) :
    List Text → List Nat × Lexicon
  | [] => (reversed.reverse, lexicon)
  | token :: rest =>
      if lexicon.place? token = none ∧ limit - 1 ≤ lexicon.tokens.size then
        let (place, lexicon) := lexicon.intern (token :: rest).flatten
        ((place :: reversed).reverse, lexicon)
      else
        let (place, lexicon) := lexicon.intern token
        places limit lexicon (place :: reversed) rest

/-- Two texts as sequences of codes, with the lexicon that they share. -/
structure Encoding where
  source : Text
  target : Text
  lexicon : Lexicon

/-- A code without the character or the token that is asked for. -/
structure CodeError where
  code : Int
  deriving Repr, DecidableEq

/-- The characters for a sequence of places. -/
def characters (places : List Nat) : Except CodeError Text :=
  places.mapM fun place : Nat =>
    match charOfCode? place with
    | some c => .ok c
    | none => .error ⟨place⟩

/-- Two texts in the codes of a lexicon with a limit. -/
def encode
    (limit : Int)
    (source target : Text) :
    Except CodeError Encoding := do
  let (sourcePlaces, lexicon) := places (limit - 1) .empty [] (tokens source)
  let sourceCodes ← characters sourcePlaces
  let (targetPlaces, lexicon) := places limit lexicon [] (tokens target)
  let targetCodes ← characters targetPlaces
  return ⟨sourceCodes, targetCodes, lexicon⟩

namespace Lexicon

/-- The token that a character stands for; a character without one stands for nothing. -/
def tokenOf (lexicon : Lexicon) (c : Char) : Text :=
  lexicon.tokens.getD (codeOfChar c).toNat []

/-- The text that a sequence of codes stands for. -/
def decode (lexicon : Lexicon) (codes : Text) : Text :=
  codes.flatMap lexicon.tokenOf

/-- There is a token that the character stands for. -/
def knows (lexicon : Lexicon) (c : Char) : Bool :=
  (codeOfChar c).toNat < lexicon.tokens.size

/-- A piece of codes as a piece of the text that they stand for. -/
def decodePiece (lexicon : Lexicon) (piece : Piece) : Except CodeError Piece :=
  match List.find? (fun c => !lexicon.knows c) piece.text with
  | some unknown => .error ⟨codeOfChar unknown⟩
  | none => .ok { piece with text := lexicon.decode piece.text }

/-- A script of codes as a script of the texts that they stand for. -/
def decodeScript (lexicon : Lexicon) (script : Script) : Except CodeError Script :=
  script.mapM lexicon.decodePiece

end Lexicon

end Splice.Word
