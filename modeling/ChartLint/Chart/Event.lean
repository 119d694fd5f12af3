import ChartLint.Binary64.Basic
import ChartLint.Source.Spanned

/-!
The events of a chart. Every field keeps the place it was read from, and values are kept as
written: a negative time is an event like any other, and refusing it is the business of a check.
-/

namespace ChartLint

structure Timing where
  time : Spanned Int
  bpm : Spanned Binary64
  /-- Beats in a segment. -/
  measure : Spanned Int
deriving BEq

structure Tap where
  time : Spanned Int
deriving BEq

structure Hold where
  start : Spanned Int
  stop : Spanned Int
deriving BEq

structure Arctap where
  time : Spanned Int
deriving BEq

structure Arc where
  start : Spanned Int
  stop : Spanned Int
  xStart : Spanned Binary64
  xStop : Spanned Binary64
  yStart : Spanned Binary64
  yStop : Spanned Binary64
  kind : Spanned Char
  effect : Spanned String
  /-- A thin line, or else a solid arc. -/
  isLine : Spanned Bool
  color : Spanned Int
  /-- An arc without a list differs from one with an empty list. -/
  arctaps : Option (Spanned (List (Spanned Arctap)))
deriving BEq

namespace Arc

def hasArctaps (arc : Arc) : Bool := arc.arctaps.isSome

def isInstant (arc : Arc) : Bool := arc.start == arc.stop

def isStill (arc : Arc) : Bool := arc.xStart == arc.xStop && arc.yStart == arc.yStop

end Arc

structure Camera where
  duration : Spanned Int
deriving BEq

inductive Event where
  | timing (timing : Timing)
  | tap (tap : Tap)
  | hold (hold : Hold)
  | arc (arc : Arc)
  | camera (camera : Camera)
deriving BEq

def Event.keyword : Event → String
  | .timing _ => "timing"
  | .tap _ => "tap"
  | .hold _ => "hold"
  | .arc _ => "arc"
  | .camera _ => "camera"

end ChartLint
