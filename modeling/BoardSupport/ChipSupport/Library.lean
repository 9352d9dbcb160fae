import BoardSupport.Program.Handler
import BoardSupport.ChipSupport.Error
import BoardSupport.ChipSupport.Console

/-!
# The chip support library as drivers see it

A driver uses one part of the vendor's chip support library.  A `Library` names that part: the
entry points that may fail (`Request`), with the value each yields when it succeeds, and the ones
that cannot (`Access`).  An entry point that fails may have stored words in a buffer of its caller
before, who finds them there (`leftover`).  Together with the debug console they make up the
interface of the driver's programs.

- `Library.interface`: requests, accesses, leftovers and debug calls as one interface.
- `access`, `leftover` and `debug`: the calls by themselves.
- `debugMessage`: a line for the console, if the board's software is built with messages.
- `Device` and `Device.handler`: a state machine that plays the library, beside a console.
-/

namespace BoardSupport.ChipSupport

/-- The part of the chip support library that one driver uses. -/
structure Library where
  /-- The entry points that may fail, with their arguments. -/
  Request : Type
  /-- What an entry point yields when it succeeds. -/
  Value : Request → Type
  /-- The vendor's name of an entry point. -/
  entry : Request → String
  /-- The entry points that cannot fail, with their arguments. -/
  Access : Type
  /-- What such an entry point yields. -/
  Answer : Access → Type

/-- A call a driver makes: of the library, or of the debug console. -/
inductive Library.Call (L : Library) where
  /-- An entry point that may fail. -/
  | request (r : L.Request)
  /-- An entry point that cannot fail. -/
  | access (a : L.Access)
  /-- A look into the buffer of an entry point that has failed. -/
  | leftover
  /-- The debug console. -/
  | debug (d : DebugCall)

/-- What a call asks of the debug console, if it is one. -/
def Library.Call.debug? {L : Library} : L.Call → Option DebugCall
  | debug d => some d
  | request _ | access _ | leftover => none

/-- All that a driver over `L` may call. -/
abbrev Library.interface (L : Library) : Interface where
  Call := L.Call
  Reply
    | .request r => Except Error (L.Value r)
    | .access a => L.Answer a
    | .leftover => List UInt16
    | .debug d => d.Reply

/-- Programs that call `L` and the debug console. -/
abbrev Library.Task (L : Library) : Type → Type := Program L.interface

variable {L : Library}

/-- Makes a call that cannot fail. -/
def access (a : L.Access) : L.Task (L.Answer a) :=
  .send (I := L.interface) (.access a)

/-- The words that an entry point has stored before it failed, from the front of the buffer on. -/
def leftover : L.Task (List UInt16) :=
  .send (I := L.interface) .leftover

/-- A buffer in which words were stored from the front on; those behind its end are lost. -/
def overlay (stored buffer : List UInt16) : List UInt16 :=
  stored.take buffer.length ++ buffer.drop stored.length

/-- Makes a call of the debug console. -/
def debug (d : DebugCall) : L.Task d.Reply :=
  .send (I := L.interface) (.debug d)

/-- Writes a line to the sink, if the board's software is built with messages.  Whether the sink could
write it is nobody's concern. -/
def debugMessage [Build] (line : String) : L.Task Unit :=
  if Build.debugMessages then do
    let _ ← debug (.line line)
    pure ()
  else
    pure ()

/-- A state machine that plays the library. -/
structure Device (L : Library) (τ : Type) where
  /-- Answers a call that may fail. -/
  request : (r : L.Request) → StateM τ (Except Error (L.Value r))
  /-- Answers a call that cannot fail. -/
  access : (a : L.Access) → StateM τ (L.Answer a)
  /-- The words that the last call that failed has stored before it did. -/
  leftover : StateM τ (List UInt16) := pure []

/-- Answers a driver's calls by a device and a console. -/
def Device.handler {τ : Type} (d : Device L τ) : Handler L.interface (StateM (τ × Console))
  | .request r => fun (t, c) => let (x, t') := d.request r t; (x, (t', c))
  | .access a => fun (t, c) => let (x, t') := d.access a t; (x, (t', c))
  | .leftover => fun (t, c) => let (x, t') := d.leftover t; (x, (t', c))
  | .debug call => fun (t, c) => let (x, c') := c.receive call; (x, (t, c'))

end BoardSupport.ChipSupport
