import BoardSupport.Program.Handler
import BoardSupport.Registers.Control

/-!
# The period timer

Timer A1 counts the auxiliary clock up to its compare register and raises an interrupt once a
period; the interrupt runs the callback that the application has set.
-/

namespace BoardSupport

namespace PeriodTimer

/-- What is asked of the hardware, and of the application whose callbacks are named by `κ`. -/
inductive Call (κ : Type) where
  /-- Write the timer's control register. -/
  | setControl (value : BitVec 16)
  /-- Write the control register of the compare unit. -/
  | setCompareControl (value : BitVec 16)
  /-- Write the compare register. -/
  | setCompare (value : UInt16)
  /-- Run a callback of the application. -/
  | run (callback : κ)
  deriving DecidableEq, Repr

/-- The timer's registers and the application's callbacks. -/
abbrev interface (κ : Type) : Interface := ⟨Call κ, fun _ => Unit⟩

end PeriodTimer

/-- The period timer's driver. -/
structure PeriodTimer (κ : Type) where
  /-- What is run once a period. -/
  callback : Option κ := none
  deriving DecidableEq, Repr, Inhabited

namespace PeriodTimer

variable {κ : Type}

/-- Computations that use the timer. -/
abbrev Routine (κ : Type) : Type → Type := Program (interface κ)

/-- Makes a call of the hardware or the application. -/
abbrev call (c : Call κ) : Routine κ Unit := .send (I := interface κ) c

/-- Why a period was refused. -/
inductive Error where
  /-- The period does not fit the compare register. -/
  | periodTooLong (millis : UInt32)
  deriving DecidableEq, Repr

/-- The number of counts taken for a second: one short of what 16 bits hold, so that a second is
the longest period. -/
def countsPerSecond : UInt64 := 65535

/-- The number of counts in a period, rounded down. -/
def counts (millis : UInt32) : UInt64 := millis.toUInt64 * countsPerSecond / 1000

/-- Starts periods of so many milliseconds.  A period that does not fit is refused before anything
is written. -/
def start (millis : UInt32) : Routine κ (Except Error Unit) :=
  if counts millis ≤ 0xFFFF then do
    call (.setCompareControl CompareControl.compareEnable)
    call (.setCompare (counts millis).toUInt16)
    call (.setControl (TimerControl.auxiliaryClock ||| TimerControl.up ||| TimerControl.clear))
    pure (.ok ())
  else
    pure (.error (.periodTooLong millis))

/-- Halts the timer. -/
def stop : Routine κ Unit := call (.setControl 0)

/-- Serves the timer's interrupt: runs the callback, if one is set. -/
def onInterrupt : StateT (PeriodTimer κ) (Routine κ) Unit := do
  match (← get).callback with
  | some callback => StateT.lift (call (.run callback))
  | none => pure ()

/-- What an application can ask of the period timer. -/
inductive Command (κ : Type) where
  /-- Start periods of so many milliseconds. -/
  | start (millis : UInt32)
  /-- Halt the timer. -/
  | stop
  /-- Set what is run once a period. -/
  | setCallback (callback : κ)
  /-- Serve the timer's interrupt. -/
  | onInterrupt
  deriving DecidableEq, Repr

/-- The answer to each command. -/
abbrev Command.Answer : Command κ → Type
  | start _ => Except Error Unit
  | _ => Unit

/-- The period timer's operations. -/
abbrev commands (κ : Type) : Interface := ⟨Command κ, Command.Answer⟩

/-- Performs a command. -/
def perform : Handler (commands κ) (StateT (PeriodTimer κ) (Routine κ))
  | .start millis => StateT.lift (PeriodTimer.start millis)
  | .stop => StateT.lift PeriodTimer.stop
  | .setCallback callback => set (PeriodTimer.mk (some callback))
  | .onInterrupt => PeriodTimer.onInterrupt

/-! ## Registers that remember -/

/-- Registers that remember what was last written to them, and how often each callback was run. -/
structure RegisterFile (κ : Type) where
  /-- The timer's control register, if it was ever written. -/
  control : Option (BitVec 16) := none
  /-- The control register of the compare unit, if it was ever written. -/
  compareControl : Option (BitVec 16) := none
  /-- The compare register, if it was ever written. -/
  compare : Option UInt16 := none
  /-- The callbacks that were run, in order. -/
  runs : List κ := []
  deriving DecidableEq, Repr, Inhabited

/-- The registers as hardware. -/
def RegisterFile.handler : Handler (interface κ) (StateM (RegisterFile κ))
  | .setControl value => modify fun s => { s with control := some value }
  | .setCompareControl value => modify fun s => { s with compareControl := some value }
  | .setCompare value => modify fun s => { s with compare := some value }
  | .run callback => modify fun s => { s with runs := s.runs ++ [callback] }

end PeriodTimer

end BoardSupport
