import Splice.Script.LongStretch
import Splice.Script.Meeting
import Splice.Script.Tidy

namespace Splice.Script

/-!
# Comparing two texts

What two texts share at their ends is kept.  Of what lies between, one part may be
empty or hold the other as a whole; otherwise the parts are cut at a long common
stretch or where a shortest script passes the middle, and both sides are compared in
turn.  Every comparison is tidied.
-/

/-- The script that deletes the source and inserts the target. -/
def replaceAll (source target : Text) : Script :=
  [.delete source, .insert target]

/-- The script for two texts of which one holds the other as a whole. -/
def containing? (source target : Text) : Option Script :=
  if target.length < source.length then
    (source.find? target 0).map fun position =>
      [.delete (source.take position), .keep target,
        .delete (source.drop (position + target.length))]
  else
    (target.find? source 0).map fun position =>
      [.insert (target.take position), .keep source,
        .insert (target.drop (position + source.length))]

/-- How two texts without common ends are compared: at once, or on both sides of a cut. -/
inductive Plan (source target : Text) where
  | whole (script : Script)
  | cut (cut : Cut source target)

/-- The plan for two texts without common ends. -/
def plan (source target : Text) : Plan source target :=
  if source = [] then
    .whole [.insert target]
  else if target = [] then
    .whole [.delete source]
  else
    match containing? source target with
    | some script => .whole script
    | none =>
        if min source.length target.length = 1 then
          .whole (replaceAll source target)
        else
          match (Stretch.half? source target).orElse fun _ =>
            Stretch.meeting? source target with
          | none => .whole (replaceAll source target)
          | some stretch =>
              match stretch.cut? source target with
              | some cut => .cut cut
              | none => .whole (replaceAll source target)

/-- The middle of two texts around what they share at their ends. -/
structure Frame where
  start : Text
  source : Text
  target : Text
  ending : Text

/-- Take what two texts share at their starts, and then at their ends, off both. -/
def Frame.ofTexts (source target : Text) : Frame :=
  let start := Text.commonPrefix source target
  let source := source.drop start.length
  let target := target.drop start.length
  let ending := Text.commonSuffix source target
  { start := start
    source := Text.dropEnd source ending.length
    target := Text.dropEnd target ending.length
    ending := ending }

/-- The parts in a frame are together no longer than the texts. -/
theorem Frame.length_ofTexts (source target : Text) :
    (Frame.ofTexts source target).source.length +
        (Frame.ofTexts source target).target.length ≤
      source.length + target.length := by
  simp only [Frame.ofTexts, Text.dropEnd, List.length_take, List.length_drop]
  omega

/-- The tidied script that turns `source` into `target`. -/
def compare (source target : Text) : Script :=
  if source = target then
    unlessEmpty .keep source
  else
    let frame := Frame.ofTexts source target
    let middle :=
      match plan frame.source frame.target with
      | .whole script => script
      | .cut cut =>
          compare cut.sourceLeft cut.targetLeft ++ unlessEmpty .keep cut.common ++
            compare cut.sourceRight cut.targetRight
    tidy (unlessEmpty .keep frame.start ++ middle ++ unlessEmpty .keep frame.ending)
termination_by source.length + target.length
decreasing_by
  · have shorter := cut.left_shorter
    have within :
        frame.source.length + frame.target.length ≤ source.length + target.length :=
      Frame.length_ofTexts source target
    omega
  · have shorter := cut.right_shorter
    have within :
        frame.source.length + frame.target.length ≤ source.length + target.length :=
      Frame.length_ofTexts source target
    omega

end Splice.Script
