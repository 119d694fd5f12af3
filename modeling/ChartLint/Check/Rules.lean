import ChartLint.Chart.Event
import ChartLint.Diagnostic.Basic

/-!
What is looked for in each kind of event. Every rule reads one event alone, so events are never
compared with each other, and the findings of an event come in a fixed order.
-/

namespace ChartLint

def findingIf (condition : Bool) (diagnostic : Diagnostic) : List Diagnostic :=
  if condition then [diagnostic] else []

def Spanned.negativeTime (time : Spanned Int) : List Diagnostic :=
  findingIf (decide (time.value < 0))
    (.error .timestampNonNegative "Timestamp should not be negative" time.span)

namespace Timing

/-- A tempo needs beats and a stopped one needs none. A tempo that is not a number is not
stopped. -/
def findings (timing : Timing) : List Diagnostic :=
  let stopped := timing.bpm.value == Binary64.zero
  let beatless := timing.measure.value == 0
  timing.time.negativeTime
    ++ findingIf (!stopped && beatless) (.error .nonZeroBpmNonZeroBeats
        "Timing event with non-zero bpm should not have zero beats per segment"
        timing.measure.span)
    ++ findingIf (stopped && !beatless) (.info .zeroBpmZeroBeats
        "Timing event with zero bpm should have zero beats per segment" timing.measure.span)

end Timing

namespace Tap

def findings (tap : Tap) : List Diagnostic := tap.time.negativeTime

end Tap

namespace Hold

def findings (hold : Hold) (span : Span) : List Diagnostic :=
  hold.start.negativeTime ++ hold.stop.negativeTime
    ++ findingIf (decide (hold.stop.value ≤ hold.start.value)) (.error .holdPositiveDuration
        "Hold event should have a positive time length" span)

end Hold

namespace Arc

def effectKnown (effect : String) : Bool :=
  effect == "none" || ['_', 'w', 'a', 'v'].isSuffixOf effect.toList

/-- An arc with no length in time must move, be straight and carry no list of arctaps. The three
rules do not depend on each other. -/
def instantFindings (arc : Arc) (span : Span) : List Diagnostic :=
  findingIf arc.isStill (.error .arcZeroDurationDifferentPoints
      "Arc event with zero time length should have different start point and end point" span)
    ++ findingIf (arc.kind.value != 's') (.info .arcZeroDurationStraight
        "Arc event with zero time length should be \"s\" type" arc.kind.span)
    ++ match arc.arctaps with
      | none => []
      | some arctaps => [.error .arcZeroDurationNoArctap
          "Arc event with zero time length should not have arctap events on it" arctaps.span]

/-- A solid arc is drawn as a line when it carries a list of arctaps, and else must not have the
reserved color. -/
def solidFindings (arc : Arc) : List Diagnostic :=
  if arc.isLine.value then []
  else if arc.hasArctaps then
    [.warning .arcArctapNotSolid
      "Arc event with arctap events on it will be treated as not solid even it is specified as solid"
      arc.isLine.span]
  else
    findingIf (arc.color.value == 3)
      (.error .arcSolidColor "Solid arc event should not use the color 3" arc.color.span)

def arctapFindings (arc : Arc) (arctap : Spanned Arctap) : List Diagnostic :=
  let time := arctap.value.time.value
  findingIf (decide (time < arc.start.value) || decide (arc.stop.value < time))
    (.error .arcArctapInTimeRange
      "Arctap event should happens in the time range of parent arc event" arctap.span)

def arctapList (arc : Arc) : List (Spanned Arctap) :=
  match arc.arctaps with
  | none => []
  | some arctaps => arctaps.value

def findings (arc : Arc) (span : Span) : List Diagnostic :=
  arc.start.negativeTime ++ arc.stop.negativeTime
    ++ findingIf (decide (arc.stop.value < arc.start.value)) (.error .arcNonNegativeDuration
        "Arc event should have a non-negative time length" span)
    ++ (if arc.isInstant then arc.instantFindings span else [])
    ++ findingIf (!effectKnown arc.effect.value) (.warning .arcEffectUnknown
        ("Arc event with effect \"" ++ arc.effect.value ++ "\"  is not known by us")
        arc.effect.span)
    ++ arc.solidFindings
    ++ arc.arctapList.flatMap arc.arctapFindings

end Arc

namespace Camera

def findings (camera : Camera) : List Diagnostic :=
  findingIf (decide (camera.duration.value < 0)) (.error .cameraNonNegativeDuration
    "Camera event should have non negative duration" camera.duration.span)

end Camera

end ChartLint
