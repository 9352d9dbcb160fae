/-!
# The debug console

Drivers report failures, one line each, to a debug sink that the application may exchange at any
time.  Whether there are messages at all is decided when the board's software is built
(`Build.debugMessages`), and it is the drivers that go by it.  A sink may fail to write, and it says
so to the driver that has sent the line.
-/

namespace BoardSupport.ChipSupport

/-- The choices made when the board's software is built. -/
class Build where
  /-- Drivers format messages and send them to the sink. -/
  debugMessages : Bool := true
  /-- The device address lies in the first byte of its slot instead of the second. -/
  swapExtendedAddress : Bool := false
  deriving DecidableEq, Repr, Inhabited

/-- Where failure messages go. -/
inductive Sink where
  /-- All text is kept. -/
  | capture
  /-- All text is dropped. -/
  | discard
  /-- Every write fails. -/
  | failing
  deriving DecidableEq, Repr

/-- Messages are dropped unless the application asks for them. -/
instance : Inhabited Sink := ⟨.discard⟩

/-- A sink could not write. -/
structure WriteError where
  deriving DecidableEq, Repr, Inhabited

/-- What can be asked of the console. -/
inductive DebugCall where
  /-- Write one line. -/
  | line (text : String)
  /-- Send later lines to `sink`. -/
  | attach (sink : Sink)
  deriving DecidableEq, Repr

/-- Writing may fail; there is nothing to be said to another sink. -/
abbrev DebugCall.Reply : DebugCall → Type
  | line _ => Except WriteError Unit
  | attach _ => Unit

/-- The console with the text that reached a capturing sink. -/
structure Console where
  /-- The sink that lines are sent to. -/
  sink : Sink := default
  /-- The text kept so far. -/
  text : String := ""
  deriving DecidableEq, Repr, Inhabited

namespace Console

/-- Takes one call: a line is ended by a line feed and kept by a capturing sink only. -/
def receive (c : Console) : (call : DebugCall) → call.Reply × Console
  | .line text =>
    match c.sink with
    | .capture => (.ok (), { c with text := c.text ++ text ++ "\n" })
    | .discard => (.ok (), c)
    | .failing => (.error {}, c)
  | .attach sink => ((), { c with sink })

/-- Hands over the text kept so far and forgets it. -/
def drain (c : Console) : String × Console := (c.text, { c with text := "" })

end Console

end BoardSupport.ChipSupport
