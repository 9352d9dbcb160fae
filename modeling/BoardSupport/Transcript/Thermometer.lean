import BoardSupport.Thermometer.Script
import BoardSupport.Transcript.Requests

/-!
# The thermometer's surroundings in writing

Drives of the power pin are written with their failure, if any, and samples with their value.  When
the samples come from the converter, its calls stand in their place.
-/

namespace BoardSupport.Transcript

open Thermometer

/-- A drive of the power pin. -/
def powerEntry (on : Bool) : Except Unit Unit → Entry
  | .ok _ => ⟨"pin", [item on]⟩
  | .error _ => ⟨"pin", [item on, .word "fail"]⟩

/-- A delay. -/
def waitEntry (millis : UInt32) : Entry := ⟨"delay_ms", [item millis]⟩

/-- What was asked of the surroundings, in writing. -/
def ofThermometer (trace : Trace (Thermometer.interface Nat)) : List Entry :=
  trace.toList.map fun
    | ⟨.power on, r⟩ => powerEntry on r
    | ⟨.wait millis, _⟩ => waitEntry millis
    | ⟨.sample, .ok v⟩ => ⟨"sample", [item v]⟩
    | ⟨.sample, .error _⟩ => ⟨"sample", [.word "fail"]⟩

/-- What was asked of pin, delays and converter, in writing. -/
def ofConverterRig (trace : Trace converterRig) : List Entry :=
  Entry.collapse joinPolls (trace.toList.filterMap fun
    | ⟨.inl (.power on), r⟩ => some (powerEntry on r)
    | ⟨.inl (.wait millis), _⟩ => some (waitEntry millis)
    | ⟨.inr c, _⟩ => ofCall Converter.library c)

end BoardSupport.Transcript
