import BoardSupport.ChipSupport.Bank
import BoardSupport.ChipSupport.Action
import BoardSupport.ChipSupport.PinRouting

/-!
# The host interface

An external host reads and writes the processor's memory over the parallel pins.  The bus always
runs 16 bits wide, multiplexed, with one full-word cycle an access.
-/

namespace BoardSupport

namespace HostInterface

/-- The bus modes of the host interface. -/
inductive BusMode where
  /-- 8 bits, multiplexed. -/
  | multiplexed8
  /-- 16 bits, multiplexed, two half-word cycles an access. -/
  | multiplexed16Dual
  /-- 16 bits, multiplexed, one full-word cycle an access. -/
  | multiplexed16Single
  /-- 16 bits, not multiplexed. -/
  | separate16
  deriving DecidableEq, Repr

instance : Inhabited BusMode := ⟨.multiplexed16Single⟩

/-- What the interface is set up with. -/
structure Setup where
  /-- The bus mode. -/
  mode : BusMode
  /-- Interrupts are raised when the host accesses memory. -/
  interruptOnAccess : Bool
  deriving DecidableEq, Repr

/-- The entry points of the host interface's module. -/
inductive Request where
  /-- Open the module. -/
  | openModule
  /-- Close the module. -/
  | close
  /-- Set the interface up. -/
  | configure (setup : Setup)
  /-- Route the external pins. -/
  | routePins (routing : ChipSupport.PinRouting)
  deriving DecidableEq, Repr

namespace Request

/-- Opening yields a register bank. -/
abbrev Value : Request → Type
  | openModule => ChipSupport.Bank
  | _ => Unit

/-- The vendor's name of each entry point. -/
def entry : Request → String
  | openModule => "UHPI_open"
  | close => "UHPI_Close"
  | configure _ => "UHPI_Config"
  | routePins _ => ChipSupport.PinRouting.entry

end Request

/-- The host interface's part of the chip support library; every entry point may fail. -/
abbrev library : ChipSupport.Library where
  Request := Request
  Value := Request.Value
  entry := Request.entry
  Access := Empty
  Answer := nofun

end HostInterface

/-- The host interface's driver. -/
structure HostInterface where
  /-- The bank of the open interface. -/
  handle : ChipSupport.Bank := .unmapped
  deriving DecidableEq, Repr, Inhabited

namespace HostInterface

/-- Operations of the host interface. -/
abbrev Action (α : Type) : Type := ChipSupport.Action library HostInterface ChipSupport.Error α

variable [ChipSupport.Build]

/-- Makes a call; a failure is reported as `line` and handed back as an error. -/
def attempt (line : String) (r : Request) : Action r.Value :=
  ChipSupport.attempt (L := library) line r

/-- Opens the interface and hands the parallel pins to it. -/
def bringUp : Action Unit := do
  let bank ← attempt "begin(): UHPI_open failed" .openModule
  modify fun s => { s with handle := bank }
  attempt "begin(): SYS_setEBSR failed" (.routePins ⟨.parallel, 0⟩)

/-- Closes the interface.  The handle is released only if that succeeds. -/
def shutDown : Action Unit := do
  attempt "end(): UHPI_Close failed" .close
  modify fun s => { s with handle := .unmapped }

/-- Sets the interface up, raising interrupts on host accesses or not. -/
def configure (interruptOnAccess : Bool) : Action Unit :=
  attempt "config(): UHPI_Config failed" (.configure ⟨.multiplexed16Single, interruptOnAccess⟩)

/-- Sends later messages to another sink; the driver is made anew around it. -/
def withDebug (sink : ChipSupport.Sink) : StateT HostInterface library.Task Unit := do
  StateT.lift (ChipSupport.debug (.attach sink))
  modify fun s => { handle := s.handle }

/-- What an application can ask of the host interface. -/
inductive Command where
  /-- Open the interface. -/
  | bringUp
  /-- Close the interface. -/
  | shutDown
  /-- Set the interface up. -/
  | configure (interruptOnAccess : Bool)
  /-- Send failure messages to another sink. -/
  | withDebug (sink : ChipSupport.Sink)
  deriving DecidableEq, Repr

/-- The answer to each command. -/
abbrev Command.Answer : Command → Type
  | bringUp | shutDown | configure _ => Except ChipSupport.Error Unit
  | withDebug _ => Unit

/-- The host interface's operations. -/
abbrev commands : Interface := ⟨Command, Command.Answer⟩

/-- Performs a command. -/
def perform : Handler commands (StateT HostInterface library.Task)
  | .bringUp => bringUp.run
  | .shutDown => shutDown.run
  | .configure interruptOnAccess => (configure interruptOnAccess).run
  | .withDebug sink => withDebug sink

end HostInterface

end BoardSupport
