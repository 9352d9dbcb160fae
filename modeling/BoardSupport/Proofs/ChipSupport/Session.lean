import BoardSupport.ChipSupport.Session
import BoardSupport.Proofs.Program.Alike

/-!
# Turns of a session

The turn in which a session performs a command is the course of the driver's operation on the device
and the console.  A device by itself is surroundings too, with a console that has nothing to say
(`Device.alone`).  Beside a device any console is on the side (`Device.beside_handler`): it keeps the
text that it is sent (`Device.hear_handler`), and leaves the device alone.
-/

namespace BoardSupport

namespace ChipSupport

variable {L : Library} {C : Interface} {σ τ : Type}

/-- The call is one of the debug console. -/
def Library.Call.isDebug (c : L.Call) : Bool := c.debug?.isSome

/-- The console after a call, if that was one of the console. -/
def Console.told (k : Console) : Option DebugCall → Console
  | some call => (k.receive call).2
  | none => k

/-- The console after a call of the driver. -/
abbrev Console.hear (k : Console) (c : L.Call) : Console := k.told c.debug?

/-- The reply to a debug call that has nothing to say. -/
def DebugCall.nothing : (call : DebugCall) → call.Reply
  | line _ => .ok ()
  | attach _ => ()

/-- The device with a console that has nothing to say. -/
def Device.alone (d : Device L τ) : Surroundings L.interface τ
  | .request r => d.request r
  | .access a => d.access a
  | .leftover => d.leftover
  | .debug call => pure call.nothing

theorem Device.beside_handler (d : Device L τ) :
    Program.Beside Library.Call.isDebug d.handler d.alone Prod.fst where
  reply c w hc := by
    cases c with
    | debug call => cases hc
    | _ => rfl
  state c w hc := by
    cases c with
    | debug call => cases hc
    | _ => rfl
  aside c w hc := by
    cases c with
    | debug call => rfl
    | _ => cases hc

theorem Device.beside_alone (d : Device L τ) :
    Program.Beside Library.Call.isDebug d.alone d.alone id where
  reply _ _ _ := rfl
  state _ _ _ := rfl
  aside c w hc := by
    cases c with
    | debug call => rfl
    | _ => cases hc

theorem Device.hear_handler (d : Device L τ) (c : L.Call) (w : τ × Console) :
    (d.handler c w).2.2 = w.2.hear c := by
  cases c <;> rfl

/-- Changes from outside, as an interface; they give no answer. -/
abbrev changes (δ : Type) : Interface := ⟨δ, fun _ => Unit⟩

namespace Session

/-- The driver on a device, as a performer of its commands. -/
def performer (d : Device L τ) (driver : Handler C (StateT σ L.Task)) :
    Performer C L.interface (Session σ τ) :=
  fun c s => s.perform d driver c

variable (d : Device L τ) (driver : Handler C (StateT σ L.Task))

/-- The course of a command's operation. -/
def course (c : C.Call) (s : Session σ τ) : Course L.interface (C.Reply c × σ) (τ × Console) :=
  ((driver c).run s.driver).course d.handler (s.device, s.console)

theorem perform_eq (c : C.Call) (s : Session σ τ) :
    s.perform d driver c =
      (((s.course d driver c).result.1, (s.course d driver c).calls.toArray),
        ⟨(s.course d driver c).result.2, (s.course d driver c).state.1,
          (s.course d driver c).state.2⟩) := by
  rw [perform, Program.interpret_recorded_eq]
  simp [course]

theorem perform_of_course {d : Device L τ} {driver : Handler C (StateT σ L.Task)} {c : C.Call}
    {s : Session σ τ} {answer : C.Reply c} {calls : List (Event L.interface)} {u : σ} {t : τ}
    {k : Console} (h : s.course d driver c = ⟨calls, (answer, u), (t, k)⟩) :
    s.perform d driver c = ((answer, calls.toArray), ⟨u, t, k⟩) := by
  rw [perform_eq, h]

/-- A turn is the course of the command's operation. -/
theorem turn_eq (c : C.Call) (s : Session σ τ) :
    (performer d driver).turn c s =
      ⟨c, s, (s.course d driver c).result.1, (s.course d driver c).calls,
        ⟨(s.course d driver c).result.2, (s.course d driver c).state.1,
          (s.course d driver c).state.2⟩⟩ := by
  rw [Performer.turn, performer, perform_eq]

/-- Whatever the device is, a turn is one of the runs of the command's operation. -/
theorem turn_runs (c : C.Call) (s : Session σ τ) : ∃ answer calls after,
    (performer d driver).turn c s = ⟨c, s, answer, calls, after⟩ ∧
      Program.Runs ((driver c).run s.driver) calls (answer, after.driver) :=
  ⟨_, _, _, turn_eq d driver c s, Program.runs_course _ _⟩

theorem runs_turn (c : C.Call) (s : Session σ τ) :
    let turn := (performer d driver).turn c s
    Program.Runs ((driver c).run s.driver) turn.calls (turn.answer, turn.after.driver) := by
  show Program.Runs _ (s.perform d driver c).1.2.toList
    ((s.perform d driver c).1.1, (s.perform d driver c).2.driver)
  rw [perform_eq]
  exact Program.runs_course _ _

/-- The driver on a device that may be changed from outside between the commands. -/
def changing {δ : Type} (change : δ → τ → τ) :
    Performer (C.sum (changes δ)) L.interface (Session σ τ)
  | .inl c, s => performer d driver c s
  | .inr x, s => (((), #[]), { s with device := change x s.device })

theorem turn_changing {δ : Type} (change : δ → τ → τ) (c : C.Call) (s : Session σ τ) :
    (changing d driver change).turn (.inl c) s = ((performer d driver).turn c s).inl := rfl

/-- An operation that makes no call and keeps its state changes nothing. -/
theorem turn_of_done {c : C.Call} {s : Session σ τ} {answer : C.Reply c}
    (h : (driver c).run s.driver = .done (answer, s.driver)) :
    (performer d driver).turn c s = ⟨c, s, answer, [], s⟩ := by
  rw [turn_eq, course, h]
  rfl

end Session

end ChipSupport

end BoardSupport
