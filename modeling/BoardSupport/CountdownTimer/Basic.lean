import BoardSupport.ChipSupport.Bank
import BoardSupport.ChipSupport.Action
import BoardSupport.CountdownTimer.Config

/-!
# The countdown timers

Three 32-bit timers that count the system clock down through a prescaler.  A timer is selected
before it is used; `Bench` is the place of the one timer that is selected, if any.
-/

namespace BoardSupport

namespace CountdownTimer

/-- The three timers. -/
inductive Instance where
  /-- Timer 0. -/
  | timer0
  /-- Timer 1. -/
  | timer1
  /-- Timer 2. -/
  | timer2
  deriving DecidableEq, Repr

namespace Instance

/-- The timers in the order of their numbers. -/
def all : List Instance := [timer0, timer1, timer2]

/-- The number of a timer. -/
def index : Instance → UInt8
  | timer0 => 0
  | timer1 => 1
  | timer2 => 2

end Instance

/-- The calls that concern one timer. -/
inductive Operation where
  /-- Open the timer. -/
  | openTimer
  /-- Reset the timer's registers. -/
  | reset
  /-- Write the timer's registers. -/
  | configure (image : RegisterImage)
  /-- Start counting. -/
  | start
  /-- Stop counting. -/
  | stop
  /-- Read the count. -/
  | count
  /-- Close the timer. -/
  | close
  deriving DecidableEq, Repr

namespace Operation

/-- Opening yields a register bank, reading the count. -/
abbrev Value : Operation → Type
  | openTimer => ChipSupport.Bank
  | count => UInt32
  | _ => Unit

/-- The vendor's name of each entry point. -/
def entry : Operation → String
  | openTimer => "GPT_open"
  | reset => "GPT_reset"
  | configure _ => "GPT_config"
  | start => "GPT_start"
  | stop => "GPT_stop"
  | count => "GPT_getCnt"
  | close => "GPT_close"

end Operation

/-- A call of the timers' module: what is to be done to which timer. -/
structure Request where
  /-- The timer. -/
  timer : Instance
  /-- What is to be done. -/
  operation : Operation
  deriving DecidableEq, Repr

/-- The entry points that cannot fail. -/
inductive Access where
  /-- Acknowledge the pending interrupts of all timers. -/
  | clearInterrupts
  deriving DecidableEq, Repr

/-- The timers' part of the chip support library. -/
abbrev library : ChipSupport.Library where
  Request := Request
  Value r := r.operation.Value
  entry r := r.operation.entry
  Access := Access
  Answer _ := Unit

end CountdownTimer

/-- The driver of a selected timer. -/
structure CountdownTimer where
  /-- Which timer it is. -/
  timer : CountdownTimer.Instance
  /-- The bank of the timer, unmapped once it is closed. -/
  handle : ChipSupport.Bank
  deriving DecidableEq, Repr

namespace CountdownTimer

/-- The place of the selected timer. -/
abbrev Bench : Type := Option CountdownTimer

/-- Operations with driver state `σ`. -/
abbrev Action (σ α : Type) : Type := ChipSupport.Action library σ ChipSupport.Error α

/-- Makes a call that concerns `timer`. -/
def request {σ : Type} (timer : Instance) (op : Operation) : Action σ op.Value :=
  ChipSupport.request (L := library) ⟨timer, op⟩

/-- Makes a call that concerns the selected timer. -/
def call (op : Operation) : Action CountdownTimer op.Value := do
  request (← get).timer op

/-- Opens and resets `timer` and makes it the selected one.  If that fails no timer is selected. -/
def select (timer : Instance) : Action Bench Unit := do
  set (none : Bench)
  let handle ← request timer .openTimer
  request timer .reset
  set (some { timer, handle : CountdownTimer })

/-- Loads settings into the timer. -/
def configure (config : Config) : Action CountdownTimer Unit :=
  call (.configure config.image)

/-- Makes the timer count periods of `period` ticks, whatever it was set to before.  Initializing a timer
and setting another period later are this one operation. -/
def setPeriod (period : UInt32) : Action CountdownTimer Unit :=
  configure (.periodic period)

/-- Starts counting. -/
def start : Action CountdownTimer Unit := call .start

/-- Stops counting and, if that succeeds, resets the timer's registers. -/
def stop : Action CountdownTimer Unit := do
  call .stop
  call .reset

/-- Reads the count. -/
def count : Action CountdownTimer UInt32 := call .count

/-- Closes the timer.  The handle is released only if that succeeds. -/
def close : Action CountdownTimer Unit := do
  call .close
  modify fun s => { s with handle := .unmapped }

/-- Acknowledges the pending interrupts of all timers. -/
def clearInterrupts : StateT CountdownTimer library.Task Unit :=
  StateT.lift (ChipSupport.access (L := library) .clearInterrupts)

/-- Runs an operation of the selected timer; if there is none, nothing happens. -/
def onSelected {α : Type} (act : StateT CountdownTimer library.Task α) :
    StateT Bench library.Task (Option α) := fun
  | none => pure (none, none)
  | some s => do
    let (a, s) ← act s
    pure (some a, some s)

/-- What an application can ask of the timers. -/
inductive Command where
  /-- Select a timer. -/
  | select (timer : Instance)
  /-- Load settings. -/
  | configure (config : Config)
  /-- Count periods of so many ticks, for the first time or from now on. -/
  | setPeriod (period : UInt32)
  /-- Start counting. -/
  | start
  /-- Stop counting. -/
  | stop
  /-- Read the count. -/
  | count
  /-- Close the timer. -/
  | close
  /-- Acknowledge pending interrupts. -/
  | clearInterrupts
  deriving DecidableEq, Repr

/-- The answer to each command: all but the selection need a selected timer. -/
abbrev Command.Answer : Command → Type
  | select _ => Except ChipSupport.Error Unit
  | configure _ | setPeriod _ | start | stop | close => Option (Except ChipSupport.Error Unit)
  | count => Option (Except ChipSupport.Error UInt32)
  | clearInterrupts => Option Unit

/-- The timers' operations. -/
abbrev commands : Interface := ⟨Command, Command.Answer⟩

/-- Performs a command. -/
def perform : Handler commands (StateT Bench library.Task)
  | .select timer => (select timer).run
  | .configure config => onSelected (configure config).run
  | .setPeriod period => onSelected (setPeriod period).run
  | .start => onSelected start.run
  | .stop => onSelected stop.run
  | .count => onSelected count.run
  | .close => onSelected close.run
  | .clearInterrupts => onSelected clearInterrupts

end CountdownTimer

end BoardSupport
