import Splice.Script.Cut
import Splice.Text.Shared

namespace Splice.Stretch

/-!
# Long common stretches

Two texts that share a stretch of at least half the longer one are cut there.  Such a
stretch holds a whole quarter of the longer text, the second or the third; so each of
these two is looked up in the shorter text and extended as far as the texts agree.
-/

/--
The longest of the stretches around the places where `seed` occurs in the shorter
text, the first of equally long ones.  `before` and `behind` are the longer text on
both sides of the start of the seed, `before` in reverse; the shorter text is taken
apart in the same way.
-/
def aroundSeed
    (seed before behind : Text)
    (best : Stretch)
    (passed : Text) :
    Text → Stretch
  | [] => best
  | c :: rest =>
      let next :=
        if seed.isPrefixOf (c :: rest) then
          let ahead := (Text.commonPrefix behind (c :: rest)).length
          let back := (Text.commonPrefix before passed).length
          if best.length < back + ahead then
            ⟨before.length - back, passed.length - back, back + ahead⟩
          else
            best
        else
          best
      aroundSeed seed before behind next (c :: passed) rest

/-- The stretch around the quarter of `long` at `start`, if it is half as long as `long`. -/
def fromQuarter?
    (long short : Text)
    (start : Nat) :
    Option Stretch :=
  let behind := long.drop start
  let seed := behind.take (long.length / 4)
  let best := aroundSeed seed (long.take start).reverse behind ⟨0, 0, 0⟩ [] short
  if long.length ≤ 2 * best.length then some best else none

/-- The longer of the stretches around the second and the third quarter of `long`. -/
def halfOf?
    (long short : Text) :
    Option Stretch :=
  if long.length < 4 ∨ 2 * short.length < long.length then
    none
  else
    match fromQuarter? long short ((long.length + 3) / 4),
        fromQuarter? long short ((long.length + 1) / 2) with
    | some second, some third =>
        if third.length < second.length then some second else some third
    | some second, none => some second
    | none, third => third

/-- A common stretch of at least half the longer text. -/
def half? (source target : Text) : Option Stretch :=
  if target.length < source.length then
    halfOf? source target
  else
    (halfOf? target source).map swap

end Splice.Stretch
