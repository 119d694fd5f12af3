/-!
The codes of the findings. A code is a stable name that readers of a report may key on; `all`
lists every code once, in the order in which reports are grouped.
-/

namespace ChartLint

inductive Code where
  | timestampNonNegative
  | nonZeroBpmNonZeroBeats
  | zeroBpmZeroBeats
  | holdPositiveDuration
  | arcNonNegativeDuration
  /-- An arc with no length in time and none in space, which cannot be seen. -/
  | arcZeroDurationDifferentPoints
  | arcZeroDurationStraight
  | arcZeroDurationNoArctap
  | arcEffectUnknown
  /-- A solid arc that carries a list of arctaps, be it empty; in play it is drawn as a line. -/
  | arcArctapNotSolid
  | arcSolidColor
  | arcArctapInTimeRange
  | cameraNonNegativeDuration
deriving DecidableEq, Repr

namespace Code

def all : List Code :=
  [timestampNonNegative, nonZeroBpmNonZeroBeats, zeroBpmZeroBeats, holdPositiveDuration,
    arcNonNegativeDuration, arcZeroDurationDifferentPoints, arcZeroDurationStraight,
    arcZeroDurationNoArctap, arcEffectUnknown, arcArctapNotSolid, arcSolidColor,
    arcArctapInTimeRange, cameraNonNegativeDuration]

def identifier : Code → String
  | timestampNonNegative => "TimestampNonNegative"
  | nonZeroBpmNonZeroBeats => "NonZeroBPMNonZeroBeats"
  | zeroBpmZeroBeats => "ZeroBPMZeroBeats"
  | holdPositiveDuration => "HoldPositiveDuration"
  | arcNonNegativeDuration => "ArcNonNegativeDuration"
  | arcZeroDurationDifferentPoints => "ArcZeroDurationDifferentPoints"
  | arcZeroDurationStraight => "ArcZeroDurationSType"
  | arcZeroDurationNoArctap => "ArcZeroDurationNoArctap"
  | arcEffectUnknown => "ArcEffectUnknown"
  | arcArctapNotSolid => "ArcArctapNotSolid"
  | arcSolidColor => "ArcSolidColor3"
  | arcArctapInTimeRange => "ArcArctapInTimeRange"
  | cameraNonNegativeDuration => "CameraNonNegativeDuration"

/-- The name that a code is declared by. Formats write it and read codes back from it; it is a list
of its own, and `declaredName_eq` says that the two lists agree. -/
def declaredName : Code → String
  | timestampNonNegative => "TimestampNonNegative"
  | nonZeroBpmNonZeroBeats => "NonZeroBPMNonZeroBeats"
  | zeroBpmZeroBeats => "ZeroBPMZeroBeats"
  | holdPositiveDuration => "HoldPositiveDuration"
  | arcNonNegativeDuration => "ArcNonNegativeDuration"
  | arcZeroDurationDifferentPoints => "ArcZeroDurationDifferentPoints"
  | arcZeroDurationStraight => "ArcZeroDurationSType"
  | arcZeroDurationNoArctap => "ArcZeroDurationNoArctap"
  | arcEffectUnknown => "ArcEffectUnknown"
  | arcArctapNotSolid => "ArcArctapNotSolid"
  | arcSolidColor => "ArcSolidColor3"
  | arcArctapInTimeRange => "ArcArctapInTimeRange"
  | cameraNonNegativeDuration => "CameraNonNegativeDuration"

def description : Code → String
  | timestampNonNegative => "negative timestamp"
  | nonZeroBpmNonZeroBeats => "zero beats with non-zero bpm"
  | zeroBpmZeroBeats => "non-zero beats with zero bpm"
  | holdPositiveDuration => "hold without positive duration"
  | arcNonNegativeDuration => "arc with negative duration"
  | arcZeroDurationDifferentPoints => "zero-length arc without movement"
  | arcZeroDurationStraight => "zero-length arc not of s type"
  | arcZeroDurationNoArctap => "zero-length arc with arctaps"
  | arcEffectUnknown => "unknown arc effect"
  | arcArctapNotSolid => "solid arc with arctaps"
  | arcSolidColor => "solid arc with color 3"
  | arcArctapInTimeRange => "arctap outside arc"
  | cameraNonNegativeDuration => "camera with negative duration"

def ofName? (name : String) : Option Code := all.find? (·.declaredName == name)

def position (code : Code) : Nat := all.idxOf code

theorem mem_all (code : Code) : code ∈ all := by
  cases code <;> decide

theorem all_nodup : all.Nodup := by decide

theorem declaredName_eq (code : Code) : code.declaredName = code.identifier := by
  cases code <;> rfl

theorem ofName?_declaredName (code : Code) : ofName? code.declaredName = some code := by
  cases code <;> decide

theorem ofName?_eq_some_iff {name : String} {code : Code} :
    ofName? name = some code ↔ name = code.identifier := by
  rw [← declaredName_eq]
  constructor
  · intro found
    have same := List.find?_some found
    exact (eq_of_beq same).symm
  · intro same
    rw [same, ofName?_declaredName]

theorem identifier_injective {first second : Code} (same : first.identifier = second.identifier) :
    first = second := by
  have read : ofName? first.identifier = some first := ofName?_eq_some_iff.mpr rfl
  rw [ofName?_eq_some_iff.mpr same] at read
  exact (Option.some.inj read).symm

end Code

end ChartLint
