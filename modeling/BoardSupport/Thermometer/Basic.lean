import BoardSupport.Converter.Command
import BoardSupport.Thermometer.Circuit

/-!
# The thermometer

A thermistor whose divider is powered only while it is sampled.  The thermometer asks for three
things: the power pin, delays, and samples of an analog source whose errors are of a type `ε`.

- `powerDown`: leave the divider without power.
- `read`: power up, settle, sample, power down, compute.
- `overConverter`: the converter bound to a pin as the analog source.
-/

namespace BoardSupport

namespace Thermometer

/-- What is asked of the surroundings. -/
inductive Call where
  /-- Drive the power pin high or low. -/
  | power (on : Bool)
  /-- Wait. -/
  | wait (millis : UInt32)
  /-- Take a sample. -/
  | sample
  deriving DecidableEq, Repr

/-- Driving the pin may fail without a reason; sampling fails with an `ε`. -/
abbrev Call.Reply (ε : Type) : Call → Type
  | power _ => Except Unit Unit
  | wait _ => Unit
  | sample => Except ε UInt16

/-- The power pin, a source of delays and an analog source. -/
abbrev interface (ε : Type) : Interface := ⟨Call, Call.Reply ε⟩

/-- Why there is no temperature. -/
inductive Error (ε : Type) where
  /-- The analog source failed. -/
  | source (e : ε)
  /-- The power pin could not be driven. -/
  | pin
  /-- The readings are at one of their ends. -/
  | circuit (fault : CircuitFault)
  deriving DecidableEq, Repr

variable {ε : Type}

/-- Computations that use the surroundings. -/
abbrev Routine (ε : Type) : Type → Type := Program (interface ε)

/-- Computations that use the surroundings and may fail. -/
abbrev Action (ε α : Type) : Type := ExceptT (Error ε) (Routine ε) α

/-- Makes a call of the surroundings. -/
abbrev call (c : Call) : Routine ε (c.Reply ε) := .send (I := interface ε) c

/-- Drives the power pin. -/
def drive (on : Bool) : Action ε Unit := ExceptT.mk do
  match ← call (.power on) with
  | .ok () => pure (.ok ())
  | .error () => pure (.error .pin)

/-- Leaves the divider without power. -/
def powerDown : Action ε Unit := drive false

/-- Takes one sample.  If that fails the power is taken away, whether that works or not. -/
def takeSample : Action ε UInt16 := ExceptT.mk do
  match ← call .sample with
  | .ok sample => pure (.ok sample)
  | .error e =>
    discard (call (.power false))
    pure (.error (.source e))

/-- Takes `count` samples, waiting after each, and adds them up from `sum`. -/
def takeSamples (intervalMillis : UInt32) : (count : Nat) → (sum : UInt32) → Action ε UInt32
  | 0, sum => pure sum
  | count + 1, sum => do
    let sample ← takeSample
    (call (.wait intervalMillis) : Routine ε Unit)
    takeSamples intervalMillis count (sum + sample.toUInt32)

/-- The temperature in tenths of a degree Celsius. -/
def read [Binary32.Logarithm] (c : Config) : Action ε Int16 := do
  drive true
  (call (.wait c.settleMillis) : Routine ε Unit)
  let sum ← takeSamples c.intervalMillis c.sampleCount 0
  drive false
  match c.interpret (c.average sum) with
  | .ok tenths => pure tenths
  | .error fault => throw (.circuit fault)

end Thermometer

/-- The thermometer's driver. -/
structure Thermometer where
  /-- The circuit. -/
  config : Thermometer.Config := {}
  deriving DecidableEq, Repr, Inhabited

namespace Thermometer

variable {ε : Type}

/-- What an application can ask of the thermometer. -/
inductive Command where
  /-- Leave the divider without power. -/
  | powerDown
  /-- Read the temperature. -/
  | read
  /-- Replace the circuit's parameters. -/
  | withConfig (config : Config)
  deriving DecidableEq, Repr

/-- The answer to each command. -/
abbrev Command.Answer (ε : Type) : Command → Type
  | powerDown => Except (Error ε) Unit
  | read => Except (Error ε) Int16
  | withConfig _ => Unit

/-- The thermometer's operations. -/
abbrev commands (ε : Type) : Interface := ⟨Command, Command.Answer ε⟩

/-- Performs a command. -/
def perform [Binary32.Logarithm] : Handler (commands ε) (StateT Thermometer (Routine ε))
  | .powerDown => StateT.lift (Thermometer.powerDown (ε := ε)).run
  | .read => fun s => do
    let answer ← (Thermometer.read (ε := ε) s.config).run
    pure (answer, s)
  | .withConfig config => set (Thermometer.mk config)

/-! ## Sampling through the converter -/

/-- What remains of the surroundings when the samples come from the converter. -/
inductive PinCall where
  /-- Drive the power pin high or low. -/
  | power (on : Bool)
  /-- Wait. -/
  | wait (millis : UInt32)
  deriving DecidableEq, Repr

/-- Driving the pin may fail without a reason. -/
abbrev PinCall.Reply : PinCall → Type
  | power _ => Except Unit Unit
  | wait _ => Unit

/-- The power pin and a source of delays. -/
abbrev pins : Interface := ⟨PinCall, PinCall.Reply⟩

/-- The surroundings of a thermometer that samples through the converter. -/
abbrev converterRig : Interface := pins.sum Converter.library.interface

/-- The converter bound to `pin` as the analog source, its driver's state being carried along. -/
def overConverter [ChipSupport.Build] (budget : Nat) (pin : Converter.Pin) :
    Handler (interface Converter.Error) (StateT Converter (Program converterRig))
  | .power on => StateT.lift (Program.left (.send (I := pins) (.power on)))
  | .wait millis => StateT.lift (Program.left (.send (I := pins) (.wait millis)))
  | .sample => fun s => Program.right ((Converter.sample budget pin).run s)

end Thermometer

end BoardSupport
