import BoardSupport.ChipSupport.Library

/-!
# A driver at work

A driver with its state, a device that plays the chip support library, and a console: given a
command the session performs it and tells which calls were made for it.
-/

namespace BoardSupport.ChipSupport

/-- A driver, the device it drives, and the console it reports to. -/
structure Session (σ τ : Type) where
  /-- The state of the driver. -/
  driver : σ
  /-- The state of the device. -/
  device : τ
  /-- The console. -/
  console : Console
  deriving Repr

namespace Session

variable {L : Library} {C : Interface} {σ τ : Type}

/-- Performs a command of a driver; the answer comes with the calls that were made. -/
def perform (s : Session σ τ) (d : Device L τ) (driver : Handler C (StateT σ L.Task))
    (c : C.Call) : (C.Reply c × Trace L.interface) × Session σ τ :=
  let (((answer, driver), trace), (device, console)) :=
    ((driver c).run s.driver).interpret d.handler.recorded #[] (s.device, s.console)
  ((answer, trace), { driver, device, console })

/-- Hands over the text that reached the console since it was last asked for. -/
def drain (s : Session σ τ) : String × Session σ τ :=
  let (text, console) := s.console.drain
  (text, { s with console })

end Session

end BoardSupport.ChipSupport
