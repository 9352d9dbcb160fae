import BoardSupport.Proofs.ChipSupport.Frame
import BoardSupport.Proofs.FailFast.Converter

/-!
# The stages of a reading

A reading prepares the channel, waits, and finishes.  Only the wait knows the poll limit: it polls so
many times (`PollLimit.bound`) and then does what running out of polls calls for (`runOut`).  The two
kinds of limit differ in nothing else (`run_awaitReady_eq`).  No other stage polls, and none touches
anything of the driver but its handle (`Unwaiting`).
-/

namespace BoardSupport.Converter

open ChipSupport (Leaves)

section Stages

variable [ChipSupport.Build]

/-- Brings the module up, prepares the pin's channel, and starts converting. -/
def prepare (pin : Pin) : Action Error Unit := do
  bringUp.lift
  (configureChannel .polling pin.channel .single).lift
  start.lift

/-- Waits for the result, and shuts the converter down if that times out. -/
def wait (budget : Nat) : Action Error Unit := tryCatch (awaitReady budget) settle

/-- Reads the result and shuts the converter down. -/
def finish : Action Error UInt16 := do
  let sample ← readData.lift
  shutDown.lift
  pure sample

omit [ChipSupport.Build] in
theorem action_bind_assoc {ε α β γ : Type} (x : Action ε α) (f : α → Action ε β)
    (g : β → Action ε γ) : x >>= f >>= g = x >>= fun a => f a >>= g := by
  have hrun : (x >>= f >>= g).run = (x >>= fun a => f a >>= g).run := by
    rw [ChipSupport.Action.run_bind, ChipSupport.Action.run_bind, bind_assoc,
      ChipSupport.Action.run_bind]
    congr 1
    funext r
    cases r with
    | ok a => rfl
    | error e => rfl
  exact congrArg ChipSupport.Action.mk hrun

theorem readPin_eq (budget : Nat) (pin : Pin) :
    readPin budget pin = prepare pin >>= fun _ => wait budget >>= fun _ => finish := by
  rw [prepare, action_bind_assoc]
  simp only [action_bind_assoc]
  rfl

/-- The number of polls that a wait makes at most, if one without a limit is followed for `budget`
polls. -/
def PollLimit.bound (budget : Nat) : PollLimit → Nat
  | unbounded => budget
  | polls limit => limit.toNat

/-- What is done when that many polls have found no result. -/
def runOut : PollLimit → Action Error Unit
  | .unbounded => throw .unfinished
  | .polls _ => ChipSupport.report "analogRead(): SAR conversion timed out" .timeout

theorem run_awaitReady_eq (budget : Nat) (s : Converter) :
    (awaitReady budget).run.run s =
      (pollOr (s.config.pollLimit.bound budget) (runOut s.config.pollLimit)).run.run s := by
  rw [run_awaitReady]
  cases s.config.pollLimit with
  | unbounded => rfl
  | polls limit => rfl

end Stages

/-! ## What the stages leave alone -/

/-- All calls but polls are allowed, and what is to be left alone does not contain the handle. -/
structure Unwaiting {γ : Type} (Allowed : library.Call → Prop) (part : Converter → γ) : Prop where
  request : ∀ r, r ≠ .status → Allowed (.request r)
  line : ∀ line, Allowed (.debug (.line line))
  handle : ∀ s bank, part { s with handle := bank } = part s

theorem unwaiting_status {γ : Type} {part : Converter → γ}
    (hpart : ∀ s bank, part { s with handle := bank } = part s) :
    Unwaiting (fun c => c ≠ .request Request.status) part where
  request _ hr h := hr (ChipSupport.Library.Call.request.inj h)
  line _ := nofun
  handle := hpart

namespace Unwaiting

variable [ChipSupport.Build] {γ : Type} {Allowed : library.Call → Prop} {part : Converter → γ}
  (hrest : Unwaiting Allowed part)

include hrest

theorem leaves_attempt (line : String) {r : Request} (hr : r ≠ .status) :
    Leaves Allowed part (attempt line r).run :=
  ChipSupport.Action.leaves_attempt (hrest.request r hr) (hrest.line line)

theorem leaves_configureChannel (completion : Completion) (channel : Channel)
    (conversion : Conversion) :
    Leaves Allowed part (configureChannel completion channel conversion).run := by
  refine ChipSupport.Action.leaves_bind (hrest.leaves_attempt _ nofun) fun bank => ?_
  refine ChipSupport.Action.leaves_bind
    (ChipSupport.Action.leaves_modify fun s => hrest.handle s bank) fun _ => ?_
  refine ChipSupport.Action.leaves_bind (hrest.leaves_attempt _ nofun) fun _ => ?_
  refine ChipSupport.Action.leaves_bind ChipSupport.Action.leaves_get fun s => ?_
  refine ChipSupport.Action.leaves_bind (hrest.leaves_attempt _ nofun) fun _ => ?_
  refine ChipSupport.Action.leaves_bind (hrest.leaves_attempt _ nofun) fun _ => ?_
  exact hrest.leaves_attempt _ nofun

theorem leaves_shutDown : Leaves Allowed part shutDown.run := by
  refine ChipSupport.Action.leaves_bind (hrest.leaves_attempt _ nofun) fun _ => ?_
  refine ChipSupport.Action.leaves_bind
    (ChipSupport.Action.leaves_modify fun s => hrest.handle s .unmapped) fun _ => ?_
  exact hrest.leaves_attempt _ nofun

theorem leaves_prepare (pin : Pin) : Leaves Allowed part (prepare pin).run := by
  refine ChipSupport.Action.leaves_bind
    (ChipSupport.Action.leaves_adapt (hrest.leaves_attempt _ nofun)) fun _ => ?_
  refine ChipSupport.Action.leaves_bind
    (ChipSupport.Action.leaves_adapt (hrest.leaves_configureChannel _ _ _)) fun _ => ?_
  exact ChipSupport.Action.leaves_adapt (hrest.leaves_attempt _ nofun)

theorem leaves_finish : Leaves Allowed part finish.run := by
  refine ChipSupport.Action.leaves_bind
    (ChipSupport.Action.leaves_adapt (hrest.leaves_attempt _ nofun)) fun sample => ?_
  refine ChipSupport.Action.leaves_bind
    (ChipSupport.Action.leaves_adapt hrest.leaves_shutDown) fun _ => ?_
  exact .pure _

theorem leaves_abandon : Leaves Allowed part abandon := by
  have hregardless (line : String) (r : Request) (hr : r ≠ .status) :
      Leaves Allowed part (ChipSupport.regardless (attempt line r)) :=
    ChipSupport.Action.leaves_regardless (hrest.leaves_attempt line hr)
  refine (hregardless _ .stop nofun).bind fun _ => ?_
  refine (hregardless _ .closeChannel nofun).bind fun _ => ?_
  refine (Leaves.modify fun s => hrest.handle s .unmapped).bind fun _ => ?_
  exact hregardless _ .deinit nofun

end Unwaiting

end BoardSupport.Converter
