import BoardSupport.Converter.Basic

/-!
# The converter's operations as an interface

All that an application can ask of the converter, as calls of one interface.  The driver is a
handler of it (`Converter.perform`), so a run of the driver is a program over these commands or a
list of them.
-/

namespace BoardSupport.Converter

/-- What an application can ask of the converter. -/
inductive Command where
  /-- Bring the module up. -/
  | bringUp
  /-- Close the channel and shut the module down. -/
  | shutDown
  /-- Open a channel and prepare it. -/
  | configureChannel (completion : Completion) (channel : Channel) (conversion : Conversion)
  /-- Start converting. -/
  | start
  /-- Stop converting. -/
  | stop
  /-- Ask whether a result is waiting. -/
  | isReady
  /-- Read the latest result. -/
  | readData
  /-- Read the result if one is waiting. -/
  | readNonBlocking
  /-- One complete conversion of a pin. -/
  | readPin (pin : Pin)
  /-- One complete conversion of the pin of a number. -/
  | readId (id : UInt8)
  /-- One sample of the converter bound to a pin. -/
  | sample (pin : Pin)
  /-- Replace the settings. -/
  | withConfig (config : Config)
  /-- Send failure messages to another sink. -/
  | withDebug (sink : ChipSupport.Sink)
  deriving DecidableEq, Repr

/-- The answer to each command. -/
abbrev Command.Answer : Command → Type
  | bringUp | shutDown | configureChannel .. | start | stop => Except ChipSupport.Error Unit
  | isReady => Bool
  | readData => Except ChipSupport.Error UInt16
  | readNonBlocking => Except (NonBlocking ChipSupport.Error) UInt16
  | readPin _ | readId _ | sample _ => Except Error UInt16
  | withConfig _ | withDebug _ => Unit

/-- The converter's operations. -/
abbrev commands : Interface := ⟨Command, Command.Answer⟩

variable [ChipSupport.Build]

/-- One sample of the converter bound to `pin`. -/
def sample (budget : Nat) (pin : Pin) : Action Error UInt16 := readPin budget pin

/-- Performs a command; waits without a limit are followed for `budget` polls. -/
def perform (budget : Nat) : Handler commands (StateT Converter library.Task)
  | .bringUp => bringUp.run
  | .shutDown => shutDown.run
  | .configureChannel completion channel conversion =>
    (configureChannel completion channel conversion).run
  | .start => start.run
  | .stop => stop.run
  | .isReady => isReady
  | .readData => readData.run
  | .readNonBlocking => readNonBlocking.run
  | .readPin pin => (readPin budget pin).run
  | .readId id => (readId budget id).run
  | .sample pin => (sample budget pin).run
  | .withConfig config => modify fun s => { s with config }
  | .withDebug sink => withDebug sink

end BoardSupport.Converter
