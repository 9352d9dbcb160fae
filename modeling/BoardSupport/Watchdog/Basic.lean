import BoardSupport.ChipSupport.Bank
import BoardSupport.ChipSupport.Action

/-!
# The watchdog

Once started, the watchdog resets the device unless it is serviced in time.  It is opened, then
configured, and only then can it be started, serviced, stopped and closed: `Watchdog` has one case
for each stage, and an operation that the stage does not offer is refused without a call.
-/

namespace BoardSupport

namespace Watchdog

/-- The settings of the watchdog. -/
structure Config where
  /-- The count loaded at every service. -/
  counter : UInt16 := 0
  /-- The prescaler of the watchdog's clock. -/
  prescale : UInt16 := 0
  deriving DecidableEq, Repr, Inhabited

/-- The entry points of the watchdog's module. -/
inductive Request where
  /-- Open the watchdog. -/
  | openTimer
  /-- Load the settings. -/
  | configure (config : Config)
  /-- Load the counter again. -/
  | service
  /-- Start counting. -/
  | start
  /-- Stop counting. -/
  | stop
  /-- Close the watchdog. -/
  | close
  deriving DecidableEq, Repr

namespace Request

/-- Opening yields a register bank. -/
abbrev Value : Request → Type
  | openTimer => ChipSupport.Bank
  | _ => Unit

/-- The vendor's name of each entry point. -/
def entry : Request → String
  | openTimer => "WDTIM_open"
  | configure _ => "WDTIM_config"
  | service => "WDTIM_service"
  | start => "WDTIM_start"
  | stop => "WDTIM_stop"
  | close => "WDTIM_close"

end Request

/-- The watchdog's part of the chip support library; every entry point may fail. -/
abbrev library : ChipSupport.Library where
  Request := Request
  Value := Request.Value
  entry := Request.entry
  Access := Empty
  Answer := nofun

end Watchdog

/-- The stages of the watchdog's life. -/
inductive Watchdog where
  /-- There is no watchdog. -/
  | absent
  /-- The watchdog is open but has no settings yet. -/
  | unconfigured (handle : ChipSupport.Bank)
  /-- The watchdog has its settings and can run. -/
  | configured (handle : ChipSupport.Bank)
  deriving DecidableEq, Repr

instance : Inhabited Watchdog := ⟨.absent⟩

namespace Watchdog

/-- The bank of the watchdog, if there is one. -/
def handle? : Watchdog → Option ChipSupport.Bank
  | absent => none
  | unconfigured handle | configured handle => some handle

/-- Operations of the watchdog. -/
abbrev Action (α : Type) : Type := ChipSupport.Action library Watchdog ChipSupport.Error α

/-- Makes a call that may fail. -/
def request (r : Request) : Action r.Value :=
  ChipSupport.request (L := library) r

/-- Opens the watchdog, giving up one that is open already.  If that fails there is none. -/
def openAnew : Action Unit := do
  set Watchdog.absent
  let handle ← request .openTimer
  set (Watchdog.unconfigured handle)

/-- Loads the settings of the watchdog behind `handle`, which is given up if that fails. -/
def configureOn (handle : ChipSupport.Bank) (config : Config) : Action Unit := do
  set Watchdog.absent
  request (.configure config)
  set (Watchdog.configured handle)

/-- Closes the watchdog, which is given up whether or not that succeeds. -/
def closeAnyway : Action Unit := do
  set Watchdog.absent
  request .close

/-- What an application can ask of the watchdog. -/
inductive Command where
  /-- Open the watchdog. -/
  | openAnew
  /-- Load the settings. -/
  | configure (config : Config)
  /-- Start counting. -/
  | start
  /-- Load the counter again. -/
  | service
  /-- Stop counting. -/
  | stop
  /-- Close the watchdog. -/
  | close
  /-- Give the watchdog up without closing it. -/
  | free
  deriving DecidableEq, Repr

/-- The answer to each command; none where the watchdog's stage does not offer it. -/
abbrev Command.Answer : Command → Type
  | openAnew => Except ChipSupport.Error Unit
  | configure _ | start | service | stop | close => Option (Except ChipSupport.Error Unit)
  | free => Option Unit

/-- The watchdog's operations. -/
abbrev commands : Interface := ⟨Command, Command.Answer⟩

/-- Runs `act` on a configured watchdog; at any other stage nothing happens. -/
def onConfigured (act : Action Unit) :
    StateT Watchdog library.Task (Option (Except ChipSupport.Error Unit)) := do
  match ← get with
  | .configured _ => some <$> act.run
  | _ => pure none

/-- Performs a command. -/
def perform : Handler commands (StateT Watchdog library.Task)
  | .openAnew => openAnew.run
  | .configure config => do
    match ← get with
    | .unconfigured handle => some <$> (configureOn handle config).run
    | _ => pure none
  | .start => onConfigured (request .start)
  | .service => onConfigured (request .service)
  | .stop => onConfigured (request .stop)
  | .close => onConfigured closeAnyway
  | .free => do
    match ← get with
    | .absent => pure none
    | _ =>
      set Watchdog.absent
      pure (some ())

end Watchdog

end BoardSupport
