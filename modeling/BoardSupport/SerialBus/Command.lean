import BoardSupport.SerialBus.Basic

/-!
# The serial bus's operations as an interface
-/

namespace BoardSupport.SerialBus

/-- What an application can ask of the serial bus. -/
inductive Command where
  /-- Bring the bus up. -/
  | bringUp
  /-- Shut the bus down. -/
  | shutDown
  /-- Change the clock divider. -/
  | setDivider (divider : Divider)
  /-- Change clock polarity and phase. -/
  | setMode (mode : Mode)
  /-- Connect transmit to receive, or not. -/
  | setLoopback (enable : Bool)
  /-- Choose the bit order of bytes. -/
  | setOrder (order : BitOrder)
  /-- Exchange a byte. -/
  | exchangeByte (byte : UInt8)
  /-- Send a block that is not empty. -/
  | write (words : List UInt16)
  /-- Fill a buffer that is not empty. -/
  | read (buffer : List UInt16)
  /-- Send a block. -/
  | send (words : List UInt16)
  /-- Fill a buffer. -/
  | fill (buffer : List UInt16)
  /-- Send `words` and fill `buffer` at the same time. -/
  | transfer (words buffer : List UInt16)
  /-- Exchange a buffer for what is received. -/
  | transferInPlace (buffer : List UInt16)
  /-- Wait for transfers to end. -/
  | flush
  /-- Send failure messages to another sink. -/
  | withDebug (sink : ChipSupport.Sink)
  deriving DecidableEq, Repr

/-- The answer to each command; operations on a buffer hand it back. -/
abbrev Command.Answer : Command → Type
  | bringUp | shutDown | setDivider _ | setMode _ | write _ | send _ | flush => Except Error Unit
  | setLoopback _ | setOrder _ | withDebug _ => Unit
  | exchangeByte _ => Except Error UInt8
  | read _ | fill _ | transfer .. | transferInPlace _ => Except Error Unit × List UInt16

/-- The serial bus's operations. -/
abbrev commands : Interface := ⟨Command, Command.Answer⟩

/-- Performs a command. -/
def perform [ChipSupport.Build] : Handler commands (StateT SerialBus library.Task)
  | .bringUp => bringUp.run
  | .shutDown => shutDown.run
  | .setDivider divider => (setDivider divider).run
  | .setMode mode => (setMode mode).run
  | .setLoopback enable => setLoopback enable
  | .setOrder order => setOrder order
  | .exchangeByte byte => (exchangeByte byte).run
  | .write words => (write words).run
  | .read buffer => read buffer
  | .send words => (send words).run
  | .fill buffer => fill buffer
  | .transfer words buffer => transfer words buffer
  | .transferInPlace buffer => transferInPlace buffer
  | .flush => flush.run
  | .withDebug sink => withDebug sink

end BoardSupport.SerialBus
