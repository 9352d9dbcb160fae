import BoardSupport.MultichannelBus.Basic

/-!
# The multichannel bus's operations as an interface
-/

namespace BoardSupport.MultichannelBus

open SerialBus (Error)

/-- What an application can ask of the multichannel bus. -/
inductive Command where
  /-- Bring the bus up. -/
  | bringUp (mode : TransferMode)
  /-- Shut the bus down. -/
  | shutDown
  /-- Configure the channel of a number. -/
  | configure (index : UInt8)
  /-- Fill a buffer. -/
  | read (buffer : List UInt16)
  /-- Send a block. -/
  | write (words : List UInt16)
  /-- Ask whether the receive register holds a word. -/
  | isReceiveFull
  /-- Ask whether the transmit register can take a word. -/
  | isTransmitEmpty
  /-- Receive a word if there is one. -/
  | readWord
  /-- Send a word if it can be taken. -/
  | writeWord (word : UInt16)
  /-- Send failure messages to another sink. -/
  | withDebug (sink : ChipSupport.Sink)
  deriving DecidableEq, Repr

/-- The answer to each command; reading a block hands the buffer back. -/
abbrev Command.Answer : Command → Type
  | bringUp _ | shutDown | configure _ | write _ => Except Error Unit
  | read _ => Except Error Unit × List UInt16
  | isReceiveFull | isTransmitEmpty => Bool
  | readWord => Except (NonBlocking Error) UInt16
  | writeWord _ => Except (NonBlocking Error) Unit
  | withDebug _ => Unit

/-- The multichannel bus's operations. -/
abbrev commands : Interface := ⟨Command, Command.Answer⟩

/-- Performs a command. -/
def perform [ChipSupport.Build] : Handler commands (StateT MultichannelBus library.Task)
  | .bringUp mode => (bringUp mode).run
  | .shutDown => shutDown.run
  | .configure index => (configure index).run
  | .read buffer => read buffer
  | .write words => (write words).run
  | .isReceiveFull => isReceiveFull
  | .isTransmitEmpty => isTransmitEmpty
  | .readWord => readWord.run
  | .writeWord word => (writeWord word).run
  | .withDebug sink => withDebug sink

end BoardSupport.MultichannelBus
