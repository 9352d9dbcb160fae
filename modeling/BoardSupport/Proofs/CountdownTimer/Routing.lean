import BoardSupport.Proofs.Custody.Drivers
import BoardSupport.Proofs.FailFast.Timers

/-!
# Settings and calls of the countdown timers

Only one timer is selected at a time, and it may be another one after every selection, or none.
Which timer that is, and which settings were loaded last, is read off the commands and their answers
here; the calls that are made have to agree with that.

- `Lossless`: the registers keep all of a timer's settings, so that different settings are told apart
  (`image_injective`).
- `Service` and `Fate`: all that a command does for the selected timer, and what any command does;
  `fate_of_runs` says that there is nothing else.
- `Routed` and `Kept`: what one command obeys, and what any commands in a row leave behind.
- `calls_routed`: both, over any commands and on any device.
-/

namespace BoardSupport.CountdownTimer

open ChipSupport (Bank Console Device Session)
open ChipSupport.Action (runs_modify_iff runs_request_bind_iff runs_request_iff runs_set_iff)

variable {τ : Type}

/-! ## Settings in the registers -/

/-- The registers keep all settings. -/
structure Lossless (c : Config) : Prop where
  period : c.image.periodHigh.toNat * 65536 + c.image.periodLow.toNat = c.period.toNat
  divisor : 2 <<< c.image.prescale.toNat = c.prescale.divisor.toNat
  autoReload : c.image.autoReload = c.autoReload
  enabled : c.image.enabled = c.enabled

theorem Prescale.shiftLeft_field (p : Prescale) : 2 <<< p.field.toNat = p.divisor.toNat := by
  cases p <;> rfl

theorem Prescale.getElem?_all_field (p : Prescale) : all[p.field.toNat]? = some p := by
  cases p <;> rfl

theorem lossless (c : Config) : Lossless c where
  period := by
    have hlow : c.image.periodLow.toNat = c.period.toNat % 2 ^ 16 := UInt32.toNat_toUInt16 _
    have hhigh : c.image.periodHigh.toNat = c.period.toNat / 2 ^ 16 % 2 ^ 16 := by
      rw [Config.image, UInt32.toNat_toUInt16, UInt32.toNat_shiftRight, Nat.shiftRight_eq_div_pow]
      rfl
    have hperiod : c.period.toNat < 2 ^ 32 := c.period.toNat_lt
    rw [hlow, hhigh]
    omega
  divisor := c.prescale.shiftLeft_field
  autoReload := rfl
  enabled := rfl

/-- Different settings have different images. -/
theorem image_injective : Function.Injective Config.image := by
  intro c c' himage
  have hprescale : some c.prescale = some c'.prescale := by
    have hfield : c.prescale.field = c'.prescale.field := congrArg RegisterImage.prescale himage
    rw [← c.prescale.getElem?_all_field, ← c'.prescale.getElem?_all_field, hfield]
  have hperiod : c.period.toNat = c'.period.toNat := by
    rw [← (lossless c).period, ← (lossless c').period, himage]
  have hautoReload : c.autoReload = c'.autoReload := congrArg RegisterImage.autoReload himage
  have henabled : c.enabled = c'.enabled := congrArg RegisterImage.enabled himage
  cases c
  cases c'
  cases hautoReload
  cases hprescale
  cases henabled
  cases UInt32.toNat_inj.1 hperiod
  rfl

/-! ## One command -/

/-- The event of a call that concerns `timer`. -/
abbrev event (timer : Instance) (op : Operation) (reply : Except ChipSupport.Error op.Value) :
    Event library.interface :=
  ⟨.request ⟨timer, op⟩, reply⟩

/-- A turn in which a command of the timers was performed. -/
abbrev BenchTurn (τ : Type) : Type := Turn commands library.interface (Session Bench τ)

/-- The timer that is selected. -/
def selection (s : Session Bench τ) : Option Instance := s.driver.map CountdownTimer.timer

/-- What a command does for the selected timer: its answer, and the calls made for it. -/
inductive Service (timer : Instance) : (c : Command) → c.Answer → List (Event library.interface) →
    Prop
  | configured (config : Config) (reply : Except ChipSupport.Error Unit) :
      Service timer (.configure config) (some reply) [event timer (.configure config.image) reply]
  | periodSet (period : UInt32) (reply : Except ChipSupport.Error Unit) :
      Service timer (.setPeriod period) (some reply)
        [event timer (.configure (Config.periodic period).image) reply]
  | started (reply : Except ChipSupport.Error Unit) :
      Service timer .start (some reply) [event timer .start reply]
  | stopFailed (e : ChipSupport.Error) :
      Service timer .stop (some (.error e)) [event timer .stop (.error e)]
  | stopped (reply : Except ChipSupport.Error Unit) :
      Service timer .stop (some reply) [event timer .stop (.ok ()), event timer .reset reply]
  | counted (reply : Except ChipSupport.Error UInt32) :
      Service timer .count (some reply) [event timer .count reply]
  | closed (reply : Except ChipSupport.Error Unit) :
      Service timer .close (some reply) [event timer .close reply]
  | cleared : Service timer .clearInterrupts (some ()) [⟨.access .clearInterrupts, ()⟩]

/-- What a command does: a selection opens and resets a timer, as far as that succeeds; any other
command is for the selected timer, which stays selected, and is refused if there is none. -/
inductive Fate : BenchTurn τ → Prop
  | selected {s u : Session Bench τ} (timer : Instance) (bank : Bank)
      (hafter : selection u = some timer) :
      Fate ⟨.select timer, s, .ok (),
        [event timer .openTimer (.ok bank), event timer .reset (.ok ())], u⟩
  | notOpened {s u : Session Bench τ} (timer : Instance) (e : ChipSupport.Error)
      (hafter : selection u = none) :
      Fate ⟨.select timer, s, .error e, [event timer .openTimer (.error e)], u⟩
  | notReset {s u : Session Bench τ} (timer : Instance) (bank : Bank) (e : ChipSupport.Error)
      (hafter : selection u = none) :
      Fate ⟨.select timer, s, .error e,
        [event timer .openTimer (.ok bank), event timer .reset (.error e)], u⟩
  | refused {s u : Session Bench τ} {c : Command} {answer : c.Answer}
      (hrefusal : contract.refusal none c = some answer) (hbefore : selection s = none)
      (hafter : selection u = none) : Fate ⟨c, s, answer, [], u⟩
  | served {s u : Session Bench τ} {c : Command} {answer : c.Answer}
      {es : List (Event library.interface)} (timer : Instance) (h : Service timer c answer es)
      (hbefore : selection s = some timer) (hafter : selection u = some timer) :
      Fate ⟨c, s, answer, es, u⟩

section Runs

variable {s t : CountdownTimer} {es : List (Event library.interface)}

theorem runs_call {op : Operation} {r : Except ChipSupport.Error op.Value}
    (h : (call op).Runs s es r t) : es = [event s.timer op r] ∧ t = s := by
  have hrequest : (request s.timer op).Runs s es r t := h
  exact runs_request_iff.1 hrequest

/-- Making a call and nothing else, for the selected timer. -/
theorem runs_onSelected_call (op : Operation) {answer : Option (Except ChipSupport.Error op.Value)}
    {u : Bench} (h : Program.Runs ((onSelected (call op).run).run (some s)) es (answer, u)) :
    ∃ reply, answer = some reply ∧ es = [event s.timer op reply] ∧ u = some s := by
  obtain ⟨reply, t, hcall, rfl, rfl⟩ := runs_onSelected_some h
  obtain ⟨rfl, rfl⟩ := runs_call hcall
  exact ⟨reply, rfl, rfl, rfl⟩

/-- Each command but a selection is a service for the selected timer. -/
theorem service_of_runs {c : Command} {answer : c.Answer} {u : Bench}
    (hc : ∀ timer, c ≠ .select timer)
    (h : Program.Runs ((perform c).run (some s)) es (answer, u)) :
    Service s.timer c answer es ∧ u.map CountdownTimer.timer = some s.timer := by
  cases c with
  | select timer => exact absurd rfl (hc timer)
  | configure config =>
    obtain ⟨reply, rfl, rfl, rfl⟩ := runs_onSelected_call (.configure config.image) h
    exact ⟨.configured config reply, rfl⟩
  | setPeriod period =>
    obtain ⟨reply, rfl, rfl, rfl⟩ := runs_onSelected_call (.configure (Config.periodic period).image) h
    exact ⟨.periodSet period reply, rfl⟩
  | start =>
    obtain ⟨reply, rfl, rfl, rfl⟩ := runs_onSelected_call .start h
    exact ⟨.started reply, rfl⟩
  | stop =>
    obtain ⟨reply, t, hstop, rfl, rfl⟩ := runs_onSelected_some h
    have hcalls : (request s.timer .stop >>= fun _ => call .reset).Runs s es reply t := hstop
    obtain ⟨e, rfl, rfl, rfl⟩ | ⟨⟨⟩, later, rfl, hreset⟩ := runs_request_bind_iff.1 hcalls
    · exact ⟨.stopFailed e, rfl⟩
    · obtain ⟨rfl, rfl⟩ := runs_call hreset
      exact ⟨.stopped reply, rfl⟩
  | count =>
    obtain ⟨reply, rfl, rfl, rfl⟩ := runs_onSelected_call .count h
    exact ⟨.counted reply, rfl⟩
  | close =>
    obtain ⟨reply, t, hclose, rfl, rfl⟩ := runs_onSelected_some h
    have hcalls : (request s.timer .close >>= fun _ =>
        modify fun s => { s with handle := .unmapped }).Runs s es reply t := hclose
    obtain ⟨e, rfl, rfl, rfl⟩ | ⟨⟨⟩, later, rfl, hrelease⟩ := runs_request_bind_iff.1 hcalls
    · exact ⟨.closed (.error e), rfl⟩
    · obtain ⟨rfl, rfl, rfl⟩ := runs_modify_iff.1 hrelease
      exact ⟨.closed (.ok ()), rfl⟩
  | clearInterrupts =>
    obtain ⟨⟨⟩, t, haccess, rfl, rfl⟩ := runs_onSelected_some h
    obtain ⟨⟨⟩, later, rfl, hend⟩ := Program.runs_call_iff.1 haccess
    obtain ⟨rfl, -, rfl⟩ := ChipSupport.runs_end_iff.1 hend
    exact ⟨.cleared, rfl⟩

/-- Without a selected timer each command but a selection is refused. -/
theorem refused_of_runs {c : Command} {answer : c.Answer} {u : Bench}
    (hc : ∀ timer, c ≠ .select timer) (h : Program.Runs ((perform c).run none) es (answer, u)) :
    contract.refusal none c = some answer ∧ es = [] ∧ u = none := by
  cases c with
  | select timer => exact absurd rfl (hc timer)
  | _ =>
    obtain ⟨rfl, rfl, rfl⟩ := runs_onSelected_none h
    exact ⟨rfl, rfl, rfl⟩

/-- Whatever was selected before, a selection leaves the new timer selected or none. -/
theorem fate_select {s u : Session Bench τ} {timer : Instance} {r : Except ChipSupport.Error Unit}
    (h : (select timer).Runs s.driver es r u.driver) : Fate ⟨.select timer, s, r, es, u⟩ := by
  have hopen : (request timer .openTimer >>= fun handle => request timer .reset >>= fun _ =>
      set (some { timer, handle : CountdownTimer })).Runs (none : Bench) es r u.driver := h
  obtain ⟨e, rfl, rfl, hnone⟩ | ⟨bank, later, rfl, hreset⟩ := runs_request_bind_iff.1 hopen
  · exact .notOpened timer e (congrArg (Option.map CountdownTimer.timer) hnone)
  obtain ⟨e, rfl, rfl, hnone⟩ | ⟨⟨⟩, later, rfl, hset⟩ := runs_request_bind_iff.1 hreset
  · exact .notReset timer bank e (congrArg (Option.map CountdownTimer.timer) hnone)
  · obtain ⟨rfl, rfl, hsome⟩ := runs_set_iff.1 hset
    exact .selected timer bank (congrArg (Option.map CountdownTimer.timer) hsome)

end Runs

/-- A command does nothing else, whatever the library answers. -/
theorem fate_of_runs {s u : Session Bench τ} {c : Command} {answer : c.Answer}
    {es : List (Event library.interface)}
    (h : Program.Runs ((perform c).run s.driver) es (answer, u.driver)) :
    Fate ⟨c, s, answer, es, u⟩ := by
  by_cases hc : ∃ timer, c = .select timer
  · obtain ⟨timer, rfl⟩ := hc
    exact fate_select h
  · have hother : ∀ timer, c ≠ .select timer := fun timer heq => hc ⟨timer, heq⟩
    cases hs : s.driver with
    | none =>
      rw [hs] at h
      obtain ⟨hrefusal, rfl, hu⟩ := refused_of_runs hother h
      exact .refused hrefusal (congrArg _ hs) (congrArg _ hu)
    | some timer =>
      rw [hs] at h
      obtain ⟨hservice, hu⟩ := service_of_runs hother h
      exact .served timer.timer hservice (congrArg _ hs) hu

theorem fate_turn (d : Device library τ) (c : Command) (s : Session Bench τ) :
    Fate ((Session.performer d perform).turn c s) := by
  obtain ⟨answer, calls, after, hturn, hruns⟩ := Session.turn_runs d perform c s
  rw [hturn]
  exact fate_of_runs hruns

/-! ## Commands in a row -/

/-- What a turn has selected: a timer, or none if that has failed. -/
def selects? : BenchTurn τ → Option (Option Instance)
  | ⟨.select timer, _, .ok (), _, _⟩ => some (some timer)
  | ⟨.select _, _, .error _, _, _⟩ => some none
  | _ => none

/-- The timer that is selected after some turns. -/
def selectedAfter (turns : List (BenchTurn τ)) : Option Instance := (Turn.latest selects? turns).join

/-- The settings that a turn has loaded. -/
def loads? : BenchTurn τ → Option Config
  | ⟨.configure config, _, some (.ok ()), _, _⟩ => some config
  | ⟨.setPeriod period, _, some (.ok ()), _, _⟩ =>
    some { autoReload := true, prescale := .div2, enabled := true, period }
  | _ => none

/-- The image that a call has brought into the registers of a timer. -/
def accepted? : Event library.interface → Option RegisterImage
  | ⟨.request ⟨_, .configure image⟩, .ok ()⟩ => some image
  | _ => none

/-- The timer that a call concerns, if it concerns a single one. -/
def timer? : Event library.interface → Option Instance
  | ⟨.request r, _⟩ => some r.timer
  | _ => none

/-- The timer that a command is for: the one that is to be selected, or else the selected one. -/
def Command.addressee : Command → Option Instance → Option Instance
  | select timer, _ => some timer
  | _, timer => timer

/-- What a turn obeys if `timer` is the selected one. -/
structure Routed (timer : Option Instance) (turn : BenchTurn τ) : Prop where
  /-- Calls concern the timer that the command is for. -/
  addressed : ∀ i ∈ turn.calls.filterMap timer?, turn.command.addressee timer = some i
  /-- If there is none, no calls are made. -/
  silent : turn.command.addressee timer = none → turn.calls = []
  /-- A timer is reset after it was stopped, if it was, and not otherwise. -/
  stopped : turn.command = .stop → ∀ i ∈ timer,
    (∃ e, turn.calls = [event i .stop (.error e)]) ∨
      ∃ reply, turn.calls = [event i .stop (.ok ()), event i .reset reply]

theorem Service.routed {timer : Instance} {s u : Session Bench τ} {c : Command} {answer : c.Answer}
    {es : List (Event library.interface)} (h : Service timer c answer es) :
    Routed (some timer) (⟨c, s, answer, es, u⟩ : BenchTurn τ) := by
  cases h with
  | stopFailed e =>
    refine ⟨List.forall_mem_singleton.2 rfl, nofun, fun _ i hi => ?_⟩
    cases hi
    exact .inl ⟨e, rfl⟩
  | stopped reply =>
    refine ⟨?_, nofun, fun _ i hi => ?_⟩
    · exact List.forall_mem_cons.2 ⟨rfl, List.forall_mem_singleton.2 rfl⟩
    · cases hi
      exact .inr ⟨reply, rfl⟩
  | cleared => exact ⟨List.forall_mem_nil _, nofun, nofun⟩
  | _ => exact ⟨List.forall_mem_singleton.2 rfl, nofun, nofun⟩

theorem Fate.routed {turn : BenchTurn τ} (h : Fate turn) : Routed (selection turn.before) turn := by
  cases h with
  | selected timer bank hafter =>
    exact ⟨List.forall_mem_cons.2 ⟨rfl, List.forall_mem_singleton.2 rfl⟩, nofun, nofun⟩
  | notOpened timer e hafter => exact ⟨List.forall_mem_singleton.2 rfl, nofun, nofun⟩
  | notReset timer bank e hafter =>
    exact ⟨List.forall_mem_cons.2 ⟨rfl, List.forall_mem_singleton.2 rfl⟩, nofun, nofun⟩
  | refused hrefusal hbefore hafter =>
    refine ⟨List.forall_mem_nil _, fun _ => rfl, fun _ i hi => ?_⟩
    rw [hbefore] at hi
    cases hi
  | served timer h hbefore hafter =>
    rw [hbefore]
    exact h.routed

/-- What some turns leave behind: the timer that was selected last, unless that has failed, and as the
last image in the registers that of the settings that were loaded last. -/
structure Kept (turns : List (BenchTurn τ)) (s : Session Bench τ) : Prop where
  selection : selection s = selectedAfter turns
  image : ((Turn.log turns).filterMap accepted?).getLast? =
    (Turn.latest loads? turns).map Config.image

theorem Fate.selection_eq {turn : BenchTurn τ} (h : Fate turn) :
    selection turn.after = (selects? turn).getD (selection turn.before) := by
  cases h with
  | selected timer bank hafter => exact hafter
  | notOpened timer e hafter => exact hafter
  | notReset timer bank e hafter => exact hafter
  | @refused s u c answer hrefusal hbefore hafter =>
    cases c <;> cases hrefusal <;> exact hafter.trans hbefore.symm
  | served timer h hbefore hafter => cases h <;> exact hafter.trans hbefore.symm

/-- The image of the settings that a turn loads goes into the registers, and no other. -/
theorem Fate.accepted_eq {turn : BenchTurn τ} (h : Fate turn) :
    turn.calls.filterMap accepted? = ((loads? turn).map Config.image).toList := by
  cases h with
  | @refused s u c answer hrefusal hbefore hafter =>
    cases c <;> cases hrefusal <;> rfl
  | served timer h hbefore hafter =>
    cases h with
    | configured config reply => cases reply <;> rfl
    | periodSet period reply => cases reply <;> rfl
    | _ => rfl
  | _ => rfl

theorem selectedAfter_concat (turns : List (BenchTurn τ)) (turn : BenchTurn τ) :
    selectedAfter (turns ++ [turn]) = (selects? turn).getD (selectedAfter turns) := by
  rw [selectedAfter, Turn.latest_concat]
  cases selects? turn <;> rfl

theorem Kept.start (t : τ) (k : Console) : Kept [] (⟨none, t, k⟩ : Session Bench τ) := ⟨rfl, rfl⟩

/-- Each command keeps it. -/
theorem Kept.concat {turns : List (BenchTurn τ)} {turn : BenchTurn τ} (h : Kept turns turn.before)
    (hfate : Fate turn) : Kept (turns ++ [turn]) turn.after := by
  constructor
  · rw [selectedAfter_concat, ← h.selection]
    exact hfate.selection_eq
  · rw [Turn.log_concat, List.filterMap_append, List.getLast?_append, h.image, hfate.accepted_eq,
      Turn.latest_concat]
    cases loads? turn <;> rfl

/-- The registers keep all settings of a timer, and different settings are laid out differently.  Over
any commands and on any device, every call concerns the timer that its command is for, there are none
after a selection that has failed, and the last image that went into the registers is that of the
settings that were loaded last. -/
theorem calls_routed :
    (∀ c, Lossless c) ∧ Function.Injective Config.image ∧
      ∀ {τ : Type} (d : Device library τ) (t : τ) (k : Console) (cs : List Command)
        (before : List (BenchTurn τ)) turn later,
        ((Session.performer d perform).play cs ⟨none, t, k⟩).1 = before ++ turn :: later →
          Routed (selectedAfter before) turn ∧ Kept (before ++ [turn]) turn.after := by
  refine ⟨lossless, image_injective, fun d t k cs before turn later hsplit => ?_⟩
  obtain ⟨c, s, rfl, hs⟩ := Performer.exists_turn (P := Kept)
    (fun _ c s h => h.concat (fate_turn d c s)) cs [] (Kept.start t k) hsplit
  have hfate := fate_turn d c s
  have hselection : selection s = selectedAfter before := hs.selection
  refine ⟨?_, hs.concat hfate⟩
  rw [← hselection]
  exact hfate.routed

end BoardSupport.CountdownTimer
