import BoardSupport.Proofs.ChipSupport.Inversion
import BoardSupport.Proofs.StandIn.ClockGenerator

/-!
# The clock generator in operation

How the driver is made decides about everything that follows: if a call fails on the way, or no
bank is found, every operation is refused, and otherwise every operation finds the bank.

There are two ways to the frequency of the processor.  Setting it up computes it from the setting
that is to be written, asking for it computes it from the registers as they are read back.  On the
stand-in they agree until something is written or the input clock changes.

- `created`: the handle tells whether making the driver went well.
- `perform_refused`: without a bank an operation does nothing.
- `answers_of_runs`: what the answers say if the calls tell the truth.
- `lost_or_tracked`: both, over all that can happen once the driver is made.
-/

namespace BoardSupport.ClockGenerator

open ChipSupport (Bank Console Device Leaves Session changes runs_end_iff)
open ChipSupport.Action (leaves_bind leaves_get leaves_lift leaves_request leaves_throw
  runs_bind_ok runs_request_bind_iff runs_request_bind_ok runs_request_iff)
open StandIn (Told registers registers_append registers_of_none turn_told writtenBy)

variable {τ δ α : Type}

/-- The event of a request. -/
abbrev event (r : Request) (reply : Except ChipSupport.Error r.Value) : Event library.interface :=
  ⟨.request r, reply⟩

/-- The event of a look at the input clock. -/
abbrev look (clock : Input) : Event library.interface := ⟨.access .input, clock⟩

/-! ## Operations and what they answer -/

/-- What can be asked of a driver that has been made. -/
inductive Operation where
  | configure (config : Config)
  | readConfig
  | systemKilohertz
  | setUp (speed : Speed)

namespace Operation

abbrev command : Operation → Command
  | configure config => .configure config
  | readConfig => .readConfig
  | systemKilohertz => .systemKilohertz
  | setUp speed => .setUp speed

/-- The answer that refuses an operation. -/
def refusal : (o : Operation) → o.command.Answer
  | configure _ => .error .badHandle
  | readConfig => .error .badHandle
  | systemKilohertz | setUp _ => .error .badHandle

/-- The configuration that was read. -/
def configRead : (o : Operation) → o.command.Answer → Option Config
  | readConfig, .ok config => some config
  | _, _ => none

/-- The frequency that was computed from the registers. -/
def frequencyRead : (o : Operation) → o.command.Answer → Option UInt32
  | systemKilohertz, .ok frequency => some frequency
  | _, _ => none

/-- The frequency that was set up. -/
def frequencySet : (o : Operation) → o.command.Answer → Option UInt32
  | setUp _, .ok frequency => some frequency
  | _, _ => none

end Operation

/-- The operations as an interface. -/
abbrev operations : Interface := ⟨Operation, fun o => o.command.Answer⟩

/-- Performs an operation. -/
def operate : Handler operations (StateT ClockGenerator library.Task) := fun o => perform o.command

/-! ## Making the driver -/

/-- With such a call the making of the driver comes to nothing. -/
def spoils : Event library.interface → Bool
  | ⟨.request .init, .ok bank⟩ => !bank.isMapped
  | ⟨.request .init, .error _⟩ | ⟨.request .reset, .error _⟩ => true
  | _ => false

section Runs

variable {s t : ClockGenerator} {es : List (Event library.interface)}

theorem runs_request {r : Request} {result : Except ChipSupport.Error r.Value}
    (h : (request r).Runs s es result t) : es = [event r result] ∧ t = s :=
  runs_request_iff.1 h

theorem runs_bringUp {r : Except ChipSupport.Error Bank} (h : bringUp.Runs s es r t) :
    (∃ e, es = [event .init (.error e)] ∧ r = .error e) ∨
      (∃ bank e, es = [event .init (.ok bank), event .reset (.error e)] ∧ r = .error e) ∨
      ∃ bank, es = [event .init (.ok bank), event .reset (.ok ())] ∧ r = .ok bank := by
  obtain ⟨e, rfl, rfl, -⟩ | ⟨bank, later, rfl, hreset⟩ := runs_request_bind_iff.1 h
  · exact .inl ⟨e, rfl, rfl⟩
  obtain ⟨e, rfl, rfl, -⟩ | ⟨⟨⟩, later, rfl, hend⟩ := runs_request_bind_iff.1 hreset
  · exact .inr (.inl ⟨bank, e, rfl, rfl⟩)
  · obtain ⟨rfl, rfl, -⟩ := ChipSupport.Action.runs_pure_iff.1 hend
    exact .inr (.inr ⟨bank, rfl, rfl⟩)

/-- The handle of a new driver: that of the bank that was yielded, or none. -/
theorem runs_create (h : Program.Runs (create.run s) es ((), t)) :
    ∃ r u, bringUp.Runs s es r u ∧
      t = ⟨match r with | .ok bank => bank | .error _ => .unmapped⟩ := by
  have hrun : create.run s = bringUp.program s >>= fun p => .done ((),
      ⟨match p.1 with | .ok bank => bank | .error _ => .unmapped⟩) := by
    show (bringUp.run.run s >>= _) = _
    congr 1
    funext p
    obtain ⟨r | bank, u⟩ := p <;> rfl
  rw [hrun, Program.runs_bind_iff] at h
  obtain ⟨es₁, ⟨r, u⟩, es₂, rfl, hbringUp, hend⟩ := h
  obtain ⟨rfl, -, rfl⟩ := runs_end_iff.1 hend
  rw [List.append_nil]
  exact ⟨r, u, hbringUp, rfl⟩

/-- If no call spoils the making of a driver, it has the bank that was yielded. -/
theorem created (h : Program.Runs (create.run s) es ((), t)) :
    (∃ e ∈ es, spoils e = true) ∧ t.handle.isMapped = false ∨
      (¬ ∃ e ∈ es, spoils e = true) ∧ t.handle.isMapped = true ∧
        event .init (.ok t.handle) ∈ es := by
  obtain ⟨r, u, hbringUp, rfl⟩ := runs_create h
  obtain ⟨e, rfl, rfl⟩ | ⟨bank, e, rfl, rfl⟩ | ⟨bank, rfl, rfl⟩ := runs_bringUp hbringUp
  · exact .inl ⟨⟨_, List.mem_singleton_self _, rfl⟩, rfl⟩
  · exact .inl ⟨⟨event .reset (.error e), by simp, rfl⟩, rfl⟩
  · by_cases hmapped : bank.isMapped = true
    · exact .inr ⟨by simp [spoils, hmapped], hmapped, List.mem_cons_self⟩
    · have hunmapped : bank.isMapped = false := Bool.eq_false_iff.2 hmapped
      exact .inl ⟨⟨event .init (.ok bank), by simp, by simp [spoils, hunmapped]⟩, hunmapped⟩

/-- Making a driver writes nothing. -/
theorem writtenBy_create (h : Program.Runs (create.run s) es ((), t)) :
    ∀ e ∈ es, writtenBy e = none := by
  obtain ⟨r, u, hbringUp, -⟩ := runs_create h
  obtain ⟨e, rfl, -⟩ | ⟨bank, e, rfl, -⟩ | ⟨bank, rfl, -⟩ := runs_bringUp hbringUp <;>
    simp [writtenBy]

/-! ## The operations -/

theorem program_requireMapped (s : ClockGenerator) :
    requireMapped.program s =
      .done (if s.handle.isMapped then .ok () else .error .badHandle, s) := by
  show ((if s.handle.isMapped then pure () else throw .badHandle : Action Unit)).program s = _
  cases s.handle.isMapped <;> rfl

/-- Without a bank nothing follows the gate. -/
theorem program_gated (f : PUnit → Action α) (hs : s.handle.isMapped = false) :
    (requireMapped >>= f).program s = .done (.error .badHandle, s) := by
  rw [ChipSupport.Action.program_bind, program_requireMapped, hs]
  rfl

/-- Without a bank an operation makes no call and changes nothing. -/
theorem perform_refused {o : Operation} (hs : s.handle.isMapped = false) :
    (operate o).run s = .done (o.refusal, s) := by
  cases o with
  | configure config => exact program_gated _ hs
  | readConfig => exact program_gated _ hs
  | systemKilohertz =>
    show systemKilohertz.program s = _
    rw [systemKilohertz, ChipSupport.Action.program_bind, readConfig, program_gated _ hs]
    rfl
  | setUp speed => exact program_gated _ hs

/-- What follows the gate if an operation succeeds. -/
theorem runs_gated_ok {f : PUnit → Action α} {a : α}
    (h : (requireMapped >>= f).Runs s es (.ok a) t) : (f ()).Runs s es (.ok a) t := by
  obtain ⟨es₁, ⟨⟩, u, es₂, rfl, hgate, hlater⟩ := runs_bind_ok h
  rw [ChipSupport.Action.Runs, program_requireMapped] at hgate
  obtain ⟨rfl, -, rfl⟩ := runs_end_iff.1 hgate
  exact hlater

theorem runs_input_bind_ok {f : Input → Action α} {a : α}
    (h : ((liftM input : Action Input) >>= f).Runs s es (.ok a) t) :
    ∃ clock later, es = look clock :: later ∧ (f clock).Runs s later (.ok a) t := by
  have hrun : ((liftM input : Action Input) >>= f).program s =
      .call (.access .input) fun clock => (f clock).program s := rfl
  rw [ChipSupport.Action.Runs, hrun] at h
  obtain ⟨clock, later, rfl, hlater⟩ := Program.runs_call_iff.1 h
  exact ⟨clock, later, rfl, hlater⟩

theorem readConfig_ok {config : Config} (h : readConfig.Runs s es (.ok config) t) :
    es = [event .readConfig (.ok config)] ∧ t = s :=
  runs_request (runs_gated_ok h)

theorem systemKilohertz_ok {frequency : UInt32} (h : systemKilohertz.Runs s es (.ok frequency) t) :
    ∃ config clock, es = [event .readConfig (.ok config), look clock] ∧
      frequency = config.outputKilohertz clock := by
  obtain ⟨es₁, config, u, es₂, rfl, hread, hlater⟩ := runs_bind_ok h
  obtain ⟨rfl, rfl⟩ := readConfig_ok hread
  obtain ⟨clock, later, rfl, hend⟩ := runs_input_bind_ok hlater
  obtain ⟨rfl, hfrequency, -⟩ := ChipSupport.Action.runs_pure_iff.1 hend
  exact ⟨config, clock, rfl, Except.ok.inj hfrequency⟩

theorem setUp_ok {speed : Speed} {frequency : UInt32}
    (h : (setUp speed).Runs s es (.ok frequency) t) :
    ∃ clock, es = [look clock, event .reset (.ok ()),
        event (.configure (speed.preset clock)) (.ok ()), event .enable (.ok ())] ∧
      frequency = (speed.preset clock).outputKilohertz clock := by
  obtain ⟨clock, later, rfl, hreset⟩ := runs_input_bind_ok (runs_gated_ok h)
  obtain ⟨⟨⟩, later, rfl, hconfigure⟩ := runs_request_bind_ok hreset
  obtain ⟨⟨⟩, later, rfl, henable⟩ := runs_request_bind_ok hconfigure
  obtain ⟨⟨⟩, later, rfl, hend⟩ := runs_request_bind_ok henable
  obtain ⟨rfl, hfrequency, -⟩ := ChipSupport.Action.runs_pure_iff.1 hend
  exact ⟨clock, rfl, Except.ok.inj hfrequency⟩

/-- What the answers say, if the calls tell the truth. -/
theorem answers_of_runs {clock : Input} {config : Config} (o : Operation)
    {answer : o.command.Answer} (h : Program.Runs ((operate o).run s) es (answer, t))
    (htold : Told clock config es) :
    (∀ read ∈ o.configRead answer, read = config) ∧
      (∀ frequency ∈ o.frequencyRead answer, frequency = config.outputKilohertz clock) ∧
      ∀ frequency ∈ o.frequencySet answer,
        frequency = (registers config es).outputKilohertz clock := by
  cases o with
  | configure config => exact ⟨nofun, nofun, nofun⟩
  | readConfig =>
    refine ⟨?_, nofun, nofun⟩
    intro read hread
    cases answer with
    | error e => cases hread
    | ok told =>
      obtain rfl := Option.some.inj hread
      obtain ⟨rfl, -⟩ := readConfig_ok h
      exact htold.1
  | systemKilohertz =>
    refine ⟨nofun, ?_, nofun⟩
    intro frequency hread
    cases answer with
    | error e => cases hread
    | ok answered =>
      obtain rfl := Option.some.inj hread
      obtain ⟨told, toldClock, rfl, rfl⟩ := systemKilohertz_ok h
      obtain ⟨rfl, rfl, -⟩ := htold
      rfl
  | setUp speed =>
    refine ⟨nofun, nofun, ?_⟩
    intro frequency hset
    cases answer with
    | error e => cases hset
    | ok answered =>
      obtain rfl := Option.some.inj hset
      obtain ⟨toldClock, rfl, rfl⟩ := setUp_ok h
      obtain ⟨rfl, -⟩ := htold
      rfl

theorem leaves_requireMapped : Leaves (fun _ => True) id requireMapped.run := by
  refine leaves_bind leaves_get fun s => ?_
  split
  · exact .pure _
  · exact leaves_throw

theorem leaves_input : Leaves (fun _ => True) id (liftM input : Action Input).run :=
  leaves_lift (.access trivial)

theorem leaves_call (r : Request) : Leaves (fun _ => True) id (request r).run :=
  leaves_request (L := library) trivial

/-- No operation touches the handle. -/
theorem leaves_operate (o : Operation) : Leaves (fun _ => True) id (operate o) := by
  have hread : Leaves (fun _ => True) id readConfig.run :=
    leaves_bind leaves_requireMapped fun _ => leaves_call .readConfig
  cases o with
  | configure config =>
    exact leaves_bind leaves_requireMapped fun _ => leaves_call (.configure config)
  | readConfig => exact hread
  | systemKilohertz =>
    exact leaves_bind hread fun config => leaves_bind leaves_input fun clock => .pure _
  | setUp speed =>
    refine leaves_bind leaves_requireMapped fun _ => leaves_bind leaves_input fun clock => ?_
    refine leaves_bind (leaves_call .reset) fun _ => ?_
    refine leaves_bind (leaves_call (.configure (speed.preset clock))) fun _ => ?_
    exact leaves_bind (leaves_call .enable) fun _ => .pure _

end Runs

/-! ## Plays -/

/-- What may happen to the stand-in between operations: any change but one of the registers. -/
abbrev Change : Type := { x : StandIn.Edit // x.clock = none }

/-- The clock generator on the stand-in, with changes between the operations. -/
abbrev onStandIn : Performer (operations.sum (changes Change)) library.interface
    (Session ClockGenerator StandIn) :=
  Session.changing StandIn.clockGenerator operate fun x => x.val.apply

/-- A turn in which an operation was performed, or a change happened. -/
abbrev OperationTurn (δ τ : Type) : Type :=
  Turn (operations.sum (changes δ)) library.interface (Session ClockGenerator τ)

/-- An operation was refused and nothing was done. -/
def Refused : OperationTurn δ τ → Prop
  | ⟨.inl o, before, answer, calls, after⟩ => answer = o.refusal ∧ calls = [] ∧ after = before
  | ⟨.inr _, _, _, calls, _⟩ => calls = []

/-- The configuration that a turn has read. -/
def configRead : OperationTurn δ τ → Option Config
  | ⟨.inl o, _, answer, _, _⟩ => o.configRead answer
  | ⟨.inr _, _, _, _, _⟩ => none

/-- The frequency that a turn has computed from the registers. -/
def frequencyRead : OperationTurn δ τ → Option UInt32
  | ⟨.inl o, _, answer, _, _⟩ => o.frequencyRead answer
  | ⟨.inr _, _, _, _, _⟩ => none

/-- The frequency that a turn has set up. -/
def frequencySet : OperationTurn δ τ → Option UInt32
  | ⟨.inl o, _, answer, _, _⟩ => o.frequencySet answer
  | ⟨.inr _, _, _, _, _⟩ => none

/-- The driver keeps its bank, and its answers follow the calls, if the registers held `initial` at
first. -/
structure Tracked (bank : Bank) (initial : Config) (turns : List (OperationTurn Change StandIn)) :
    Prop where
  handle : ∀ turn ∈ turns, turn.after.driver.handle = bank
  /-- What is read is what was written last. -/
  config : ∀ before turn after, turns = before ++ turn :: after →
    ∀ config ∈ configRead turn, config = registers initial (Turn.log before)
  /-- The frequency is that of what was written last, with the input clock of the moment. -/
  frequency : ∀ before turn after, turns = before ++ turn :: after →
    ∀ frequency ∈ frequencyRead turn, frequency =
      (registers initial (Turn.log before)).outputKilohertz turn.before.device.inputClock
  /-- A frequency that was set up is read until something is written or the input clock changes. -/
  agrees : ∀ before first between turn after,
    turns = before ++ first :: (between ++ turn :: after) →
    (∀ e ∈ Turn.log between, writtenBy e = none) →
    (∀ x ∈ between, x.after.device.inputClock = x.before.device.inputClock) →
    ∀ set ∈ frequencySet first, ∀ frequency ∈ frequencyRead turn, frequency = set

theorem refused_turn (d : Device library τ) (change : δ → τ → τ) (c : Operation ⊕ δ)
    {s : Session ClockGenerator τ} (hs : s.driver.handle.isMapped = false) :
    let turn := (Session.changing d operate change).turn c s
    Refused turn ∧ turn.after.driver.handle.isMapped = false := by
  cases c with
  | inl o =>
    rw [Session.turn_changing, Session.turn_of_done d operate (perform_refused hs)]
    exact ⟨⟨rfl, rfl, rfl⟩, hs⟩
  | inr x => exact ⟨rfl, hs⟩

/-- Without a bank all operations are refused. -/
theorem refused_play (d : Device library τ) (change : δ → τ → τ) (stimuli : List (Operation ⊕ δ))
    {s : Session ClockGenerator τ} (hs : s.driver.handle.isMapped = false) :
    ∀ turn ∈ ((Session.changing d operate change).play stimuli s).1, Refused turn := by
  induction stimuli generalizing s with
  | nil => exact List.forall_mem_nil _
  | cons c stimuli ih =>
    obtain ⟨hfirst, hkept⟩ := refused_turn d change c hs
    exact List.forall_mem_cons.2 ⟨hfirst, ih hkept⟩

/-- What a turn on the stand-in keeps, and what it answers. -/
structure Answers (turn : OperationTurn Change StandIn) : Prop where
  driver : turn.after.driver = turn.before.driver
  clock : turn.after.device.clock = registers turn.before.device.clock turn.calls
  config : ∀ config ∈ configRead turn, config = turn.before.device.clock
  frequency : ∀ frequency ∈ frequencyRead turn,
    frequency = turn.before.device.clock.outputKilohertz turn.before.device.inputClock
  set : ∀ frequency ∈ frequencySet turn,
    frequency = turn.after.device.clock.outputKilohertz turn.after.device.inputClock

theorem answers_turn (c : Operation ⊕ Change) (s : Session ClockGenerator StandIn) :
    Answers (onStandIn.turn c s) := by
  cases c with
  | inl o =>
    have hruns := Session.runs_turn StandIn.clockGenerator operate o s
    obtain ⟨htold, hclock, hinput⟩ := turn_told operate o s
    obtain ⟨-, hdriver⟩ := leaves_operate o _ _ _ _ hruns
    obtain ⟨hconfig, hread, hset⟩ := answers_of_runs o hruns htold
    rw [← hclock, ← hinput] at hset
    rw [Session.turn_changing]
    exact ⟨hdriver, hclock, hconfig, hread, hset⟩
  | inr x =>
    refine ⟨rfl, ?_, nofun, nofun, nofun⟩
    show x.val.clock.getD s.device.clock = s.device.clock
    rw [x.property]
    rfl

section Plays

variable {bank : Bank} {initial : Config}

/-- What every turn keeps: the bank, and that the registers follow the calls. -/
def Follows (bank : Bank) (initial : Config) (turns : List (OperationTurn Change StandIn))
    (s : Session ClockGenerator StandIn) : Prop :=
  s.driver.handle = bank ∧ s.device.clock = registers initial (Turn.log turns)

theorem Follows.concat (history : List (OperationTurn Change StandIn)) (c : Operation ⊕ Change)
    (s : Session ClockGenerator StandIn) (h : Follows bank initial history s) :
    Follows bank initial (history ++ [onStandIn.turn c s]) (onStandIn.turn c s).after := by
  obtain ⟨hhandle, hregisters⟩ := h
  obtain ⟨hdriver, hclock, -⟩ := answers_turn c s
  constructor
  · rw [hdriver]
    exact hhandle
  · rw [Turn.log_concat, registers_append, ← hregisters]
    exact hclock

/-- From a driver that has its bank, a play is tracked. -/
theorem tracked_play (stimuli : List (Operation ⊕ Change)) {s : Session ClockGenerator StandIn}
    (hhandle : s.driver.handle = bank) (hclock : s.device.clock = initial) :
    Tracked bank initial (onStandIn.play stimuli s).1 := by
  have start : Follows bank initial [] s := ⟨hhandle, hclock⟩
  have hanswers : ∀ turn ∈ (onStandIn.play stimuli s).1, Answers turn :=
    Performer.forall_turns (p := onStandIn) answers_turn stimuli s
  have hregisters : ∀ before turn after, (onStandIn.play stimuli s).1 = before ++ turn :: after →
      turn.before.device.clock = registers initial (Turn.log before) := by
    intro before turn after h
    obtain ⟨c, u, rfl, hu⟩ := Performer.exists_turn Follows.concat stimuli [] start h
    exact hu.2
  constructor
  · intro turn hturn
    obtain ⟨before, after, h⟩ := List.append_of_mem hturn
    exact (Performer.play_induction Follows.concat stimuli [] start h).1
  · intro before turn after h
    rw [← hregisters before turn after h]
    exact (hanswers turn (by simp [h])).config
  · intro before turn after h
    rw [← hregisters before turn after h]
    exact (hanswers turn (by simp [h])).frequency
  · intro before first between turn after h hnone hinput set hset frequency hfrequency
    -- registers and input clock are as they were when the frequency was set up
    have hclock : turn.before.device.clock = first.after.device.clock := by
      refine Performer.kept_between (fun u => u.device.clock) h fun x hx => ?_
      rw [(hanswers x (by simp [h, hx])).clock]
      exact registers_of_none fun e he => hnone e (List.mem_flatMap.2 ⟨x, hx, he⟩)
    have hsame : turn.before.device.inputClock = first.after.device.inputClock :=
      Performer.kept_between (fun u => u.device.inputClock) h hinput
    rw [(hanswers turn (by simp [h])).frequency frequency hfrequency,
      (hanswers first (by simp [h])).set set hset, hclock, hsame]

end Plays

/-- If a call of the driver's making fails or no bank is found, then whatever the device does, every
operation is refused from then on.  Otherwise, on the stand-in, the driver keeps the bank, and what
it answers follows the calls. -/
theorem lost_or_tracked :
    (∀ (τ δ : Type) (d : Device library τ) (change : δ → τ → τ) (s : Session ClockGenerator τ)
        (stimuli : List (Operation ⊕ δ)),
      let made := (Session.performer d perform).turn .create s
      (∃ e ∈ made.calls, spoils e = true) →
        ∀ turn ∈ ((Session.changing d operate change).play stimuli made.after).1, Refused turn) ∧
    ∀ (s : Session ClockGenerator StandIn) (stimuli : List (Operation ⊕ Change)),
      let made := (Session.performer StandIn.clockGenerator perform).turn .create s
      (¬ ∃ e ∈ made.calls, spoils e = true) →
        ∃ bank, event .init (.ok bank) ∈ made.calls ∧ made.after.driver.handle = bank ∧
          Tracked bank s.device.clock (onStandIn.play stimuli made.after).1 := by
  constructor
  · intro τ δ d change s stimuli made hspoiled
    have hruns := Session.runs_turn d perform .create s
    obtain ⟨-, hunmapped⟩ | ⟨hnot, -⟩ := created hruns
    · exact refused_play d change stimuli hunmapped
    · exact absurd hspoiled hnot
  · intro s stimuli made hnot
    have hruns := Session.runs_turn StandIn.clockGenerator perform .create s
    obtain ⟨hspoiled, -⟩ | ⟨-, -, hbank⟩ := created hruns
    · exact absurd hspoiled hnot
    · have hclock : made.after.device.clock = s.device.clock := by
        rw [(turn_told perform .create s).2.1]
        exact registers_of_none (writtenBy_create hruns)
      exact ⟨_, hbank, rfl, tracked_play stimuli rfl hclock⟩

/-- A frequency that was set up is read back, until the input clock changes. -/
example : (onStandIn.play [.inr ⟨{ inputClock := some .realTime }, rfl⟩, .inl (.setUp .mhz40),
      .inl .systemKilohertz, .inr ⟨{ inputClock := some .external }, rfl⟩, .inl .systemKilohertz]
      ⟨⟨⟨1, 1⟩⟩, {}, {}⟩).1.map (fun turn => (frequencySet turn, frequencyRead turn)) =
    [(none, none), (some 40042, none), (none, some 40042), (none, none),
      (none, some 14664000)] := by
  decide

end BoardSupport.ClockGenerator
