import BoardSupport.ChipSupport.Error

/-!
# Faults

A fault makes calls of one entry point fail: after letting some pass it applies to so many, or to
all that follow.  Of several faults that apply to one call, the first with an error decides.
-/

namespace BoardSupport.StandIn

/-- A fault of one entry point. -/
structure Fault where
  /-- The vendor's name of the entry point. -/
  entry : String
  /-- What the calls fail with; a fault without an error lets them succeed. -/
  error : Option ChipSupport.Error
  /-- How many calls are let pass first. -/
  skip : Nat := 0
  /-- How many calls the fault applies to after that; to all if there is no number. -/
  times : Option Nat := none
  deriving DecidableEq, Repr

namespace Fault

/-- What a fault makes of a call of its entry point, and how it stands afterwards. -/
def strike (f : Fault) : Option ChipSupport.Error × Fault :=
  match f.skip, f.times with
  | skip + 1, _ => (none, { f with skip })
  | 0, none => (f.error, f)
  | 0, some 0 => (none, f)
  | 0, some (n + 1) => (f.error, { f with times := some n })

/-- What a fault makes of a call of `entry`; a fault of another entry point is left alone. -/
def on (entry : String) (f : Fault) : Option ChipSupport.Error × Fault :=
  if f.entry = entry then f.strike else (none, f)

/-- What all faults together make of a call of `entry`, and how they stand afterwards. -/
def onAll (entry : String) (fs : List Fault) : Option ChipSupport.Error × List Fault :=
  let struck := fs.map (on entry)
  (struck.findSome? Prod.fst, struck.map Prod.snd)

end Fault

end BoardSupport.StandIn
