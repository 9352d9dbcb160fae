import BoardSupport.Proofs.ChipSupport.Session
import BoardSupport.Proofs.StandIn.Calls
import BoardSupport.StandIn.Devices

/-!
# The stand-in as the clock generator

What the registers hold can be told from the calls alone: it is the configuration of the last
writing that did not fail, or what they held at first (`registers`).  The stand-in is truthful about
it whatever program calls it, and whatever fails (`course_told`).
-/

namespace BoardSupport.StandIn

open ChipSupport (Console Session)
open ClockGenerator (Config Input library)

variable {C : Interface} {σ α : Type}

/-- The configuration that a call has written. -/
def writtenBy : Event library.interface → Option Config
  | ⟨.request (.configure config), .ok _⟩ => some config
  | _ => none

/-- What the registers hold after some calls, if they held `initial` before. -/
def registers (initial : Config) (calls : List (Event library.interface)) : Config :=
  (calls.filterMap writtenBy).getLast?.getD initial

theorem registers_append (initial : Config) (front calls : List (Event library.interface)) :
    registers initial (front ++ calls) = registers (registers initial front) calls := by
  rw [registers, List.filterMap_append, List.getLast?_append, Option.getD_or]
  rfl

theorem registers_singleton (initial : Config) (e : Event library.interface) :
    registers initial [e] = (writtenBy e).getD initial := by
  rw [registers, List.filterMap_cons]
  cases writtenBy e <;> rfl

/-- Calls of which none has written leave the registers alone. -/
theorem registers_of_none {initial : Config} {calls : List (Event library.interface)}
    (h : ∀ e ∈ calls, writtenBy e = none) : registers initial calls = initial := by
  rw [registers, List.filterMap_eq_nil_iff.2 h]
  rfl

/-- The call tells the truth about the input clock and about what the registers hold. -/
def Truthful (clock : Input) (config : Config) : Event library.interface → Prop
  | ⟨.request .readConfig, .ok told⟩ => told = config
  | ⟨.access .input, told⟩ => told = clock
  | _ => True

/-- All calls tell the truth, while the input clock stays the same. -/
def Told (clock : Input) : Config → List (Event library.interface) → Prop
  | _, [] => True
  | config, e :: es => Truthful clock config e ∧ Told clock (registers config [e]) es

/-- A call is truthful, and it writes what it tells that it has written. -/
theorem handler_told (c : library.Call) (t : StandIn) (k : Console) :
    let e : Event library.interface := ⟨c, (clockGenerator.handler c (t, k)).1⟩
    let after := (clockGenerator.handler c (t, k)).2.1
    Truthful t.inputClock t.clock e ∧ after.clock = registers t.clock [e] ∧
      after.inputClock = t.inputClock := by
  intro e after
  rw [registers_singleton]
  cases c with
  | request r =>
    have hhandler : clockGenerator.handler (.request r) (t, k) =
        ((answer r.entry (onClockGenerator r) t).1,
          ((answer r.entry (onClockGenerator r) t).2, k)) := rfl
    simp only [e, after, hhandler]
    obtain ⟨error, h⟩ | h := answer_cases r.entry (onClockGenerator r) t
    · rw [h]
      cases r <;> exact ⟨trivial, rfl, rfl⟩
    · rw [h]
      cases r with
      | readConfig => exact ⟨rfl, rfl, rfl⟩
      | init | reset | configure config | enable => exact ⟨trivial, rfl, rfl⟩
  | access a => exact ⟨rfl, rfl, rfl⟩
  | leftover => exact ⟨trivial, rfl, rfl⟩
  | debug call => exact ⟨trivial, rfl, rfl⟩

/-- Whatever calls it, the stand-in is truthful, and its registers hold what was written last. -/
theorem course_told (p : Program library.interface α) (t : StandIn) (k : Console) :
    let x := p.course clockGenerator.handler (t, k)
    Told t.inputClock t.clock x.calls ∧ x.state.1.clock = registers t.clock x.calls ∧
      x.state.1.inputClock = t.inputClock := by
  induction p generalizing t k with
  | done a => exact ⟨trivial, rfl, rfl⟩
  | call c next ih =>
    obtain ⟨htruthful, hclock, hinput⟩ := handler_told c t k
    obtain ⟨htold, hregisters, hsame⟩ := ih (clockGenerator.handler c (t, k)).1
      (clockGenerator.handler c (t, k)).2.1 (clockGenerator.handler c (t, k)).2.2
    rw [hclock] at htold hregisters
    rw [hinput] at htold hsame
    rw [← registers_append] at hregisters
    exact ⟨⟨htruthful, htold⟩, hregisters, hsame⟩

/-- So it is with all that a driver does on the stand-in. -/
theorem turn_told (driver : Handler C (StateT σ library.Task)) (c : C.Call)
    (s : Session σ StandIn) :
    let turn := (Session.performer clockGenerator driver).turn c s
    Told s.device.inputClock s.device.clock turn.calls ∧
      turn.after.device.clock = registers s.device.clock turn.calls ∧
      turn.after.device.inputClock = s.device.inputClock := by
  intro turn
  have hturn : turn = _ := Session.turn_eq clockGenerator driver c s
  rw [hturn]
  exact course_told _ s.device s.console

end BoardSupport.StandIn
