import BoardSupport.Proofs.ChipSupport.Frame
import BoardSupport.Proofs.StandIn.Converter

/-!
# Bounded and unbounded waits

A reading whose wait is bounded either times out or does what it would do without a bound.  Nothing
but the wait looks at the poll limit, so both readings come to the same wait (`Indifferent`); and a
loop of polls that ends before its limit would end there with any higher limit
(`polls_settle`).  Hence a reading has either one outcome, which it shows under every limit that
allows so many polls, or none (`settles_or_expires`).

- `Agree`: readings that cannot be told apart from outside.
- `bounded_refines_unbounded`: the two kinds of wait against each other, on any device, and how long
  an unbounded wait for the stand-in is.
-/

namespace BoardSupport.Converter

open ChipSupport (Session)

variable {τ ω α β : Type}

/-- The driver with another poll limit. -/
def waiting (s : Converter) (limit : PollLimit) : Converter :=
  { s with config := { s.config with pollLimit := limit } }

/-- The number of status polls among some calls. -/
def pollCount (es : List (Event library.interface)) : Nat :=
  (ChipSupport.requests es).count .status

theorem pollCount_append (es₁ es₂ : List (Event library.interface)) :
    pollCount (es₁ ++ es₂) = pollCount es₁ + pollCount es₂ := by
  rw [pollCount, ChipSupport.requests, List.filterMap_append]
  exact List.count_append

/-! ## What the poll limit does not matter to -/

section Indifferent

variable {h : Surroundings library.interface ω}

/-- The course with another poll limit in the state that is left. -/
def under (limit : PollLimit) (c : Course library.interface (α × Converter) ω) :
    Course library.interface (α × Converter) ω :=
  { c with result := (c.result.1, c.result.2.waiting limit) }

/-- The computation does the same under every poll limit, and keeps it. -/
def Indifferent (h : Surroundings library.interface ω) (x : StateT Converter library.Task α) :
    Prop :=
  ∀ s w limit, (x.run (s.waiting limit)).course h w = under limit ((x.run s).course h w)

namespace Indifferent

variable {x : StateT Converter library.Task α}

theorem pure (a : α) : Indifferent h (pure a : StateT Converter library.Task α) :=
  fun _ _ _ => rfl

theorem bind {f : α → StateT Converter library.Task β} (hx : Indifferent h x)
    (hf : ∀ a, Indifferent h (f a)) : Indifferent h (x >>= f) := by
  intro s w limit
  rw [StateT.run_bind, StateT.run_bind, Program.course_bind, Program.course_bind, hx]
  exact congrArg (Course.behind _) (hf _ _ _ limit)

theorem action_bind {ε : Type} {x : Action ε α} {f : α → Action ε β} (hx : Indifferent h x.run)
    (hf : ∀ a, Indifferent h (f a).run) : Indifferent h (x >>= f).run := by
  rw [ChipSupport.Action.run_bind]
  refine hx.bind fun r => ?_
  cases r with
  | ok a => exact hf a
  | error e => exact .pure _

theorem lift {x : Action ChipSupport.Error α} (hx : Indifferent h x.run) :
    Indifferent h x.lift.run := by
  rw [Action.lift, ChipSupport.Action.run_adapt]
  refine hx.bind fun r => ?_
  cases r with
  | ok a => exact .pure _
  | error e => exact .pure _

theorem attempt [ChipSupport.Build] (line : String) (r : Request) :
    Indifferent h (attempt line r).run := by
  intro s w limit
  have hrun : ∀ s, (Converter.attempt line r).run.run s = _ :=
    ChipSupport.Action.program_attempt (L := library) line r
  rw [hrun, hrun, Program.course_call, Program.course_call]
  cases (h (.request r) w).1 with
  | ok v => rfl
  | error e =>
    rw [Program.course_bind, Program.course_bind]
    rfl

theorem modify_handle (bank : ChipSupport.Bank) :
    Indifferent h (modify fun s => { s with handle := bank } : Action ChipSupport.Error PUnit).run :=
  fun _ _ _ => rfl

end Indifferent

variable [ChipSupport.Build]

theorem indifferent_configureChannel (completion : Completion) (channel : Channel)
    (conversion : Conversion) :
    Indifferent h (configureChannel completion channel conversion).run := by
  refine .action_bind (.attempt _ _) fun bank => ?_
  refine .action_bind (.modify_handle bank) fun _ => ?_
  refine .action_bind (.attempt _ _) fun _ => ?_
  -- the settings of the channel do not include the poll limit
  intro s w limit
  have hlater : ∀ setup, Indifferent h (do
      attempt "configChannel(): SAR_chanSetup failed" (.setUp setup)
      attempt "configChannel(): SAR_chanCycSet failed" (.setCycle conversion)
      attempt "configChannel(): SAR_A2DMeasParamSet failed" (.route channel) :
      Action ChipSupport.Error Unit).run := fun setup =>
    .action_bind (.attempt _ _) fun _ => .action_bind (.attempt _ _) fun _ => .attempt _ _
  exact hlater ⟨completion, false, s.config.reference, s.config.clockDivider⟩ s w limit

theorem indifferent_prepare (pin : Pin) : Indifferent h (prepare pin).run := by
  refine .action_bind (.lift (.attempt _ _)) fun _ => ?_
  refine .action_bind (.lift (indifferent_configureChannel _ _ _)) fun _ => ?_
  exact .lift (.attempt _ _)

theorem indifferent_finish : Indifferent h finish.run := by
  have hshutDown : Indifferent h shutDown.run :=
    .action_bind (.attempt _ _) fun _ => .action_bind (.modify_handle _) fun _ => .attempt _ _
  refine .action_bind (.lift (.attempt _ _)) fun sample => ?_
  exact .action_bind (.lift hshutDown) fun _ => .pure _

theorem indifferent_pollUntilReady (n : Nat) : Indifferent h (pollUntilReady n).run := by
  induction n with
  | zero => exact .pure _
  | succ n ih =>
    refine .action_bind (.attempt _ _) fun ready => ?_
    cases ready with
    | true => exact .pure _
    | false => exact ih

end Indifferent

/-! ## What does not poll -/

/-- Computations that make no status polls. -/
abbrev Unpolled (x : StateT Converter library.Task α) : Prop :=
  ChipSupport.Leaves (fun c => c ≠ .request Request.status) (fun _ => ()) x

theorem pollCount_eq_zero {es : List (Event library.interface)}
    (hes : ∀ e ∈ es, e.call ≠ .request Request.status) : pollCount es = 0 := by
  refine List.count_eq_zero.2 fun hmem => ?_
  obtain ⟨e, he, hstatus⟩ := List.mem_filterMap.1 hmem
  obtain ⟨r | a | _ | call, reply⟩ := e
  · exact hes _ he (congrArg _ (Option.some.inj hstatus))
  · cases hstatus
  · cases hstatus
  · cases hstatus

theorem Unpolled.pollCount {x : StateT Converter library.Task α} (hx : Unpolled x)
    (h : Surroundings library.interface ω) (s : Converter) (w : ω) :
    pollCount ((x.run s).course h w).calls = 0 :=
  pollCount_eq_zero (hx s _ _ _ (Program.runs_course (h := h) (x.run s) w)).1

theorem unpolled_prepare [ChipSupport.Build] (pin : Pin) : Unpolled (prepare pin).run :=
  (unwaiting_status fun _ _ => rfl).leaves_prepare pin

theorem unpolled_finish [ChipSupport.Build] : Unpolled finish.run :=
  (unwaiting_status fun _ _ => rfl).leaves_finish

/-! ## The loop of polls -/

section Loop

variable [ChipSupport.Build] {h : Surroundings library.interface ω}

/-- The course of so many polls. -/
abbrev pollCourse (h : Surroundings library.interface ω) (n : Nat) (s : Converter) (w : ω) :
    Course library.interface (Except ChipSupport.Error Bool × Converter) ω :=
  ((pollUntilReady n).run.run s).course h w

/-- The course of one poll. -/
abbrev firstPoll (h : Surroundings library.interface ω) (s : Converter) (w : ω) :
    Course library.interface (Except ChipSupport.Error Bool × Converter) ω :=
  (pollStatus.run.run s).course h w

theorem firstPoll_eq (s : Converter) (w : ω) :
    (firstPoll h s w).result.2 = s ∧ pollCount (firstPoll h s w).calls = 1 := by
  have hrun : pollStatus.run.run s = _ :=
    ChipSupport.Action.program_attempt (L := library) "analogRead(): SAR_getStatus failed" .status s
  rw [firstPoll, hrun, Program.course_call]
  cases (h (.request .status) w).1 with
  | ok ready => exact ⟨rfl, rfl⟩
  | error e =>
    unfold ChipSupport.debugMessage
    cases ChipSupport.Build.debugMessages <;> exact ⟨rfl, rfl⟩

/-- A poll that finds nothing is followed by the other polls. -/
theorem pollCourse_succ_idle {s : Converter} {w : ω}
    (hidle : (firstPoll h s w).result.1 = .ok false) (m : Nat) :
    pollCourse h (m + 1) s w =
      (pollCourse h m s (firstPoll h s w).state).behind (firstPoll h s w).calls := by
  have hresult : (firstPoll h s w).result = (.ok false, s) := Prod.ext hidle (firstPoll_eq s w).1
  rw [pollCourse, run_pollUntilReady_succ, StateT.run_bind, Program.course_bind, hresult]

/-- Any other poll is the last. -/
theorem pollCourse_succ_last {s : Converter} {w : ω}
    (hlast : (firstPoll h s w).result.1 ≠ .ok false) (m : Nat) :
    pollCourse h (m + 1) s w = firstPoll h s w := by
  rw [pollCourse, run_pollUntilReady_succ, StateT.run_bind, Program.course_bind]
  rw [firstPoll] at hlast ⊢
  generalize (pollStatus.run.run s).course h w = first at hlast ⊢
  obtain ⟨calls, ⟨r, u⟩, v⟩ := first
  rcases r with e | ready
  · exact Course.behind_end _ _ _
  · cases ready with
    | true => exact Course.behind_end _ _ _
    | false => exact absurd rfl hlast

/-- A loop that ends before its limit ends there under every limit that is not lower, and runs out
under every limit that is. -/
theorem polls_settle {n : Nat} {s : Converter} {w : ω}
    (hn : (pollCourse h n s w).result.1 ≠ .ok false) :
    pollCount (pollCourse h n s w).calls ≤ n ∧
      (∀ m, pollCount (pollCourse h n s w).calls ≤ m → pollCourse h m s w = pollCourse h n s w) ∧
      ∀ m < pollCount (pollCourse h n s w).calls, (pollCourse h m s w).result.1 = .ok false := by
  -- the induction is on the limit that was kept, and each poll leaves other surroundings
  induction n generalizing w with
  | zero => exact absurd rfl hn
  | succ n ih =>
    by_cases hidle : (firstPoll h s w).result.1 = .ok false
    · -- the loop ends where it would end without the first poll
      rw [pollCourse_succ_idle hidle] at hn ⊢
      obtain ⟨hle, hhigher, hlower⟩ := ih hn
      have hcount : pollCount ((pollCourse h n s (firstPoll h s w).state).behind
          (firstPoll h s w).calls).calls =
            pollCount (pollCourse h n s (firstPoll h s w).state).calls + 1 := by
        show pollCount (_ ++ _) = _
        rw [pollCount_append, (firstPoll_eq s w).2, Nat.add_comm]
      rw [hcount]
      refine ⟨Nat.succ_le_succ hle, fun m hm => ?_, fun m hm => ?_⟩
      · cases m with
        | zero => cases hm
        | succ m => rw [pollCourse_succ_idle hidle, hhigher m (Nat.le_of_succ_le_succ hm)]
      · cases m with
        | zero => rfl
        | succ m =>
          rw [pollCourse_succ_idle hidle]
          exact hlower m (Nat.lt_of_succ_lt_succ hm)
    · rw [pollCourse_succ_last hidle, (firstPoll_eq s w).2]
      refine ⟨Nat.succ_le_succ n.zero_le, fun m hm => ?_, fun m hm => ?_⟩
      · cases m with
        | zero => cases hm
        | succ m => exact pollCourse_succ_last hidle m
      · obtain rfl := Nat.lt_one_iff.1 hm
        rfl

end Loop

/-! ## The course of a reading -/

/-- What follows the polls of a reading. -/
def conclude [ChipSupport.Build] (limit : PollLimit) :
    Except ChipSupport.Error Bool → StateT Converter library.Task (Except Error UInt16)
  | .ok true => finish.run
  | .ok false => (tryCatch (runOut limit) settle >>= fun _ => finish).run
  | .error e => pure (.error (.library e))

theorem run_pollOr_finish [ChipSupport.Build] (n : Nat) (limit : PollLimit) :
    (tryCatch (pollOr n (runOut limit)) settle >>= fun _ => finish).run =
      (pollUntilReady n).run >>= conclude limit := by
  rw [ChipSupport.Action.run_bind, ChipSupport.Action.run_tryCatch, run_pollOr, bind_assoc,
    bind_assoc]
  congr 1
  funext r
  rcases r with e | ready
  · show (settle (.library e)).run >>= _ = _
    rw [run_settle (nofun : Error.library e ≠ .timeout), pure_bind]
    rfl
  · cases ready with
    | true => rfl
    | false =>
      rw [conclude, ChipSupport.Action.run_bind, ChipSupport.Action.run_tryCatch, bind_assoc]

theorem run_wait_finish [ChipSupport.Build] (budget : Nat) (s : Converter) :
    (wait budget >>= fun _ => finish).run.run s =
      ((pollUntilReady (s.config.pollLimit.bound budget)).run >>=
        conclude s.config.pollLimit).run s := by
  rw [← run_pollOr_finish, wait, ChipSupport.Action.run_bind, ChipSupport.Action.run_bind,
    ChipSupport.Action.run_tryCatch, ChipSupport.Action.run_tryCatch, StateT.run_bind,
    StateT.run_bind, StateT.run_bind, StateT.run_bind, run_awaitReady_eq]

/-- How a reading ends whose polls have run out. -/
def PollLimit.expired : PollLimit → Error
  | unbounded => .unfinished
  | polls _ => .timeout

section Readings

variable [ChipSupport.Build] {h : Surroundings library.interface ω}

theorem result_runOut (limit : PollLimit) (s : Converter) (w : ω) :
    (((conclude limit (.ok false)).run s).course h w).result.1 = .error limit.expired := by
  cases limit with
  | unbounded => rfl
  | polls limit =>
    -- the report is followed by the shutdown, and the shutdown by the error
    have hrun : conclude (.polls limit) (.ok false) =
        (StateT.lift (ChipSupport.debugMessage "analogRead(): SAR conversion timed out") >>=
          fun _ => abandon) >>= fun _ => pure (.error .timeout) := by
      rw [conclude, runOut, ChipSupport.Action.run_bind, ChipSupport.Action.run_tryCatch,
        ChipSupport.report, bind_assoc, bind_assoc, bind_assoc]
      congr 1
      funext _
      rw [pure_bind]
      show (settle .timeout).run >>= _ = _
      rw [run_settle_timeout, bind_assoc]
      rfl
    rw [hrun, StateT.run_bind, Program.course_bind]
    rfl

/-- The course of a reading. -/
abbrev readCourse (h : Surroundings library.interface ω) (budget : Nat) (pin : Pin) (s : Converter)
    (w : ω) : Course library.interface (Except Error UInt16 × Converter) ω :=
  ((readPin budget pin).run.run s).course h w

/-- A loop of polls that has not run out is concluded in the same way under every limit. -/
theorem conclude_settled {r : Except ChipSupport.Error Bool} (hr : r ≠ .ok false)
    (limit : PollLimit) (s : Converter) (w : ω) :
    let c := ((conclude .unbounded r).run s).course h w
    ((conclude limit r).run (s.waiting limit)).course h w = under limit c ∧
      pollCount c.calls = 0 := by
  rcases r with e | ready
  · exact ⟨rfl, rfl⟩
  · cases ready with
    | true => exact ⟨indifferent_finish s w limit, unpolled_finish.pollCount h s w⟩
    | false => exact absurd rfl hr

variable {pin : Pin} {s : Converter} {w : ω}

/-- A reading whose channel cannot be prepared ends before it polls. -/
theorem readCourse_of_error {e : Error} {u : Converter} {v : ω}
    {es : List (Event library.interface)}
    (hprepare : ((prepare pin).run.run s).course h w = ⟨es, (.error e, u), v⟩)
    (limit : PollLimit) (budget : Nat) :
    readCourse h budget pin (s.waiting limit) w = under limit ⟨es, (.error e, u), v⟩ := by
  rw [readCourse, readPin_eq, ChipSupport.Action.run_bind, StateT.run_bind, Program.course_bind,
    indifferent_prepare, hprepare]
  exact Course.behind_end _ _ _

/-- Any other reading polls, and is concluded. -/
theorem readCourse_of_ok {u : Converter} {v : ω} {es : List (Event library.interface)}
    (hprepare : ((prepare pin).run.run s).course h w = ⟨es, (.ok (), u), v⟩)
    (limit : PollLimit) (budget : Nat) :
    let polls := pollCourse h (limit.bound budget) u v
    readCourse h budget pin (s.waiting limit) w =
      (((conclude limit polls.result.1).run (polls.result.2.waiting limit)).course h
        polls.state).behind (es ++ polls.calls) := by
  rw [readCourse, readPin_eq, ChipSupport.Action.run_bind, StateT.run_bind, Program.course_bind,
    indifferent_prepare, hprepare]
  show Course.behind es (((wait budget >>= fun _ => finish).run.run (u.waiting limit)).course h v) = _
  rw [run_wait_finish, StateT.run_bind, Program.course_bind, Course.behind_behind,
    indifferent_pollUntilReady]
  rfl

/-- A reading whose polls run out ends as its limit says. -/
theorem readCourse_of_idle {u : Converter} {v : ω} {es : List (Event library.interface)}
    (hprepare : ((prepare pin).run.run s).course h w = ⟨es, (.ok (), u), v⟩)
    {limit : PollLimit} {budget : Nat}
    (hidle : (pollCourse h (limit.bound budget) u v).result.1 = .ok false) :
    (readCourse h budget pin (s.waiting limit) w).result.1 = .error limit.expired := by
  rw [readCourse_of_ok hprepare, hidle]
  exact result_runOut limit _ _

/-- Either there is a number of polls from which on the limit does not matter any more, and below
which every reading runs out of polls; or every reading does. -/
theorem settles_or_expires (h : Surroundings library.interface ω) (pin : Pin) (s : Converter)
    (w : ω) :
    (∃ p settled, pollCount settled.calls = p ∧ ∀ limit budget,
      (p ≤ limit.bound budget →
        readCourse h budget pin (s.waiting limit) w = under limit settled) ∧
      (limit.bound budget < p →
        (readCourse h budget pin (s.waiting limit) w).result.1 = .error limit.expired)) ∨
    ∀ limit budget,
      (readCourse h budget pin (s.waiting limit) w).result.1 = .error limit.expired := by
  have hnone := (unpolled_prepare pin).pollCount h s w
  rcases hprepare : ((prepare pin).run.run s).course h w with ⟨es, ⟨r, u⟩, v⟩
  rw [hprepare] at hnone
  cases r with
  | error e =>
    -- the loop is not reached, so no poll is made
    refine .inl ⟨0, ⟨es, (.error e, u), v⟩, hnone, fun limit budget => ⟨fun _ => ?_, fun hlt => ?_⟩⟩
    · exact readCourse_of_error hprepare limit budget
    · exact absurd hlt (Nat.not_lt_zero _)
  | ok _ =>
    by_cases hends : ∃ n, (pollCourse h n u v).result.1 ≠ .ok false
    · obtain ⟨n, hn⟩ := hends
      obtain ⟨-, hhigher, hlower⟩ := polls_settle hn
      have hconclude := conclude_settled (h := h) hn
      generalize pollCourse h n u v = polls at *
      refine .inl ⟨pollCount polls.calls,
        (((conclude .unbounded polls.result.1).run polls.result.2).course h polls.state).behind
          (es ++ polls.calls), ?_, fun limit budget => ⟨fun hle => ?_, fun hlt => ?_⟩⟩
      · show pollCount (_ ++ _ ++ _) = _
        rw [pollCount_append, pollCount_append, hnone, (hconclude .unbounded _ _).2]
        exact Nat.zero_add _
      · rw [readCourse_of_ok hprepare, hhigher _ hle, (hconclude limit _ _).1]
        rfl
      · exact readCourse_of_idle hprepare (hlower _ hlt)
    · refine .inr fun limit budget => readCourse_of_idle hprepare ?_
      by_contra hn
      exact hends ⟨_, hn⟩

end Readings

/-! ## Readings that cannot be told apart -/

/-- The session with another poll limit. -/
def withLimit (s : Session Converter τ) (limit : PollLimit) : Session Converter τ :=
  { s with driver := s.driver.waiting limit }

/-- Two readings that cannot be told apart: the answers, the calls with the reports among them, what
reached the console, and the states of the device and of the handle are the same. -/
structure Agree (r r' : Reading τ) : Prop where
  answer : r.answer = r'.answer
  calls : r.calls = r'.calls
  handle : r.after.driver.handle = r'.after.driver.handle
  device : r.after.device = r'.after.device
  console : r.after.console = r'.after.console

theorem reading_eq_readCourse [ChipSupport.Build] (d : ChipSupport.Device library τ) (budget : Nat)
    (pin : Pin)
    (s : Session Converter τ) :
    let c := readCourse d.handler budget pin s.driver (s.device, s.console)
    reading d budget pin s = ⟨c.result.1, c.calls, ⟨c.result.2, c.state.1, c.state.2⟩⟩ := by
  rw [reading, Session.perform_eq]
  rfl

section Refinement

variable [ChipSupport.Build] {d : ChipSupport.Device library τ} {pin : Pin} {s : Session Converter τ}

/-- Readings with one settled course agree, whatever their limits are. -/
theorem agree_of_settled
    {settled : Course library.interface (Except Error UInt16 × Converter) (τ × ChipSupport.Console)}
    {limit limit' : PollLimit} {budget budget' : Nat}
    (h : readCourse d.handler budget pin (s.driver.waiting limit) (s.device, s.console) =
      under limit settled)
    (h' : readCourse d.handler budget' pin (s.driver.waiting limit') (s.device, s.console) =
      under limit' settled) :
    Agree (reading d budget pin (withLimit s limit))
      (reading d budget' pin (withLimit s limit')) := by
  rw [reading_eq_readCourse, reading_eq_readCourse, withLimit, withLimit, h, h']
  exact ⟨rfl, rfl, rfl, rfl, rfl⟩

/-- Readings of one pin from one state, under different limits: either they all run out of polls, or
there is a number of polls from which on they agree, and which they make. -/
theorem settles_or_expires_reading (d : ChipSupport.Device library τ) (pin : Pin)
    (s : Session Converter τ) :
    (∃ p, ∀ limit budget,
      (p ≤ limit.bound budget →
        pollCount (reading d budget pin (withLimit s limit)).calls = p ∧
          ∀ limit' budget', p ≤ limit'.bound budget' →
            Agree (reading d budget' pin (withLimit s limit'))
              (reading d budget pin (withLimit s limit))) ∧
      (limit.bound budget < p →
        (reading d budget pin (withLimit s limit)).answer = .error limit.expired)) ∨
    ∀ limit budget, (reading d budget pin (withLimit s limit)).answer = .error limit.expired := by
  rcases settles_or_expires d.handler pin s.driver (s.device, s.console) with
    ⟨p, settled, hp, hlimits⟩ | hexpires
  · refine .inl ⟨p, fun limit budget => ⟨fun hle => ⟨?_, fun limit' budget' hle' => ?_⟩,
      fun hlt => ?_⟩⟩
    · have hcourse := (hlimits limit budget).1 hle
      rw [reading_eq_readCourse, withLimit, hcourse]
      exact hp
    · exact agree_of_settled ((hlimits limit' budget').1 hle') ((hlimits limit budget).1 hle)
    · rw [reading_eq_readCourse]
      exact (hlimits limit budget).2 hlt
  · refine .inr fun limit budget => ?_
    rw [reading_eq_readCourse]
    exact hexpires limit budget

end Refinement

/-! ## Waiting for the stand-in -/

theorem count_status_conversion (config : Config) (channel : Channel) (n : Nat) :
    (preparation config channel ++ polling n ++ completing).count .status = n := by
  rw [List.count_append, List.count_append, polling, List.count_replicate_self]
  show 0 + n + 0 = n
  rw [Nat.zero_add, Nat.add_zero]

/-- Without faults a reading of the stand-in ends, after as many polls as it is busy for. -/
theorem reading_standIn [ChipSupport.Build] (pin : Pin) {s : Session Converter StandIn}
    (hfaults : s.device.faults = [])
    (hready : s.device.neverReady = false) (hpolls : s.device.polls < 0xFFFFFFFF)
    (hbusy : s.device.busyPolls < 0xFFFFFFFF) {budget : Nat}
    (hbudget : max 1 (s.device.busyPolls.toNat + 1 - s.device.polls.toNat) ≤
      s.driver.config.pollLimit.bound budget) :
    (∃ sample, (reading StandIn.converter budget pin s).answer = .ok sample) ∧
      pollCount (reading StandIn.converter budget pin s).calls =
        max 1 (s.device.busyPolls.toNat + 1 - s.device.polls.toNat) := by
  have hprepared : StandIn.PollsAs s.device (StandIn.converter.afterAll s.device
      (preparation s.driver.config (wiring pin))) := by
    refine StandIn.afterAll_other hfaults fun r hr => ?_
    rintro rfl
    simp [preparation] at hr
  have hreadyAt := StandIn.readyAt hprepared.faults (hprepared.neverReady.trans hready)
    (hprepared.polls.trans_lt hpolls) (hprepared.busyPolls.trans_lt hbusy)
  rw [hprepared.polls, hprepared.busyPolls] at hreadyAt
  generalize max 1 (s.device.busyPolls.toNat + 1 - s.device.polls.toNat) = n at hreadyAt hbudget ⊢
  have hcompleted := completed budget (StandIn.serves hfaults _) hreadyAt hbudget
  have hdone : (StandIn.converter.afterAll s.device
      (preparation s.driver.config (wiring pin) ++ polling n)).faults = [] := by
    rw [ChipSupport.Device.afterAll_append, StandIn.afterAll_polling hprepared.faults,
      StandIn.faults_polled, hprepared.faults]
  constructor
  · obtain ⟨sample, hread⟩ := (StandIn.request_other hdone (r := .read) nofun).1
    exact ⟨sample, hcompleted.answer sample hread (StandIn.serves hdone _)⟩
  · rw [pollCount, ← ChipSupport.requests_libraryCalls, hcompleted.calls,
      ChipSupport.Device.chain_of_serves (StandIn.serves hdone _),
      ← ChipSupport.Device.exchange_append, ChipSupport.Device.requests_exchange]
    exact count_status_conversion _ _ n

/-- Bounded and unbounded waits.  A bounded reading that does not time out agrees with every reading
that may poll more often, and with the unbounded one; an unbounded reading that ends agrees with all
readings that may poll as often as it does, and all others time out.  On a stand-in without faults
whose counter of polls does not wrap around, an unbounded reading ends after as many polls as the
stand-in is busy for. -/
theorem bounded_refines_unbounded [ChipSupport.Build] (pin : Pin) :
    (∀ {τ : Type} (d : ChipSupport.Device library τ) (s : Session Converter τ),
      let bounded := fun n budget => reading d budget pin (withLimit s (.polls n))
      let unbounded := fun budget => reading d budget pin (withLimit s .unbounded)
      (∀ n budget, (bounded n budget).answer ≠ .error .timeout →
        (∀ m budget', n ≤ m → Agree (bounded m budget') (bounded n budget)) ∧
        ∀ budget', n.toNat ≤ budget' → Agree (unbounded budget') (bounded n budget)) ∧
      ∀ budget, (unbounded budget).answer ≠ .error .unfinished →
        let p := pollCount (unbounded budget).calls
        (∀ budget', p ≤ budget' → Agree (unbounded budget') (unbounded budget)) ∧
        ∀ n budget', (p ≤ n.toNat → Agree (bounded n budget') (unbounded budget)) ∧
          (n.toNat < p → (bounded n budget').answer = .error .timeout)) ∧
    ∀ s : Session Converter StandIn, s.device.faults = [] → s.device.neverReady = false →
      s.device.polls < 0xFFFFFFFF → s.device.busyPolls < 0xFFFFFFFF →
      let p := max 1 (s.device.busyPolls.toNat + 1 - s.device.polls.toNat)
      ∀ budget, p ≤ budget →
        let r := reading StandIn.converter budget pin (withLimit s .unbounded)
        (∃ sample, r.answer = .ok sample) ∧ pollCount r.calls = p := by
  constructor
  · intro τ d s bounded unbounded
    rcases settles_or_expires_reading d pin s with ⟨p, hlimits⟩ | hexpires
    · constructor
      · intro n budget hn
        -- the reading has not run out of polls, so it has settled
        have hle : p ≤ n.toNat := by
          by_contra hlt
          exact hn ((hlimits (.polls n) budget).2 (Nat.lt_of_not_le hlt))
        obtain ⟨-, hagree⟩ := (hlimits (.polls n) budget).1 hle
        refine ⟨fun m budget' hm => ?_, fun budget' hbudget => ?_⟩
        · exact hagree (.polls m) budget' (hle.trans (UInt32.le_iff_toNat_le.1 hm))
        · exact hagree .unbounded budget' (hle.trans hbudget)
      · intro budget hended
        have hle : p ≤ budget := by
          by_contra hlt
          exact hended ((hlimits .unbounded budget).2 (Nat.lt_of_not_le hlt))
        obtain ⟨hcount, hagree⟩ := (hlimits .unbounded budget).1 hle
        intro polls
        obtain rfl : polls = p := hcount
        refine ⟨fun budget' hbudget => hagree .unbounded budget' hbudget, fun n budget' => ⟨?_, ?_⟩⟩
        · exact hagree (.polls n) budget'
        · exact (hlimits (.polls n) budget').2
    · exact ⟨fun n budget hn => absurd (hexpires (.polls n) budget) hn,
        fun budget hended => absurd (hexpires .unbounded budget) hended⟩
  · intro s hfaults hready hpolls hbusy p budget hbudget
    exact reading_standIn (s := withLimit s .unbounded) pin hfaults hready hpolls hbusy hbudget

/-- While the converter is busy for two polls, three are enough whatever the limit is, and two are
not. -/
theorem busyTwice_waits :
    let read := @reading _ {} StandIn.converter
    (read 3 .a1 (withLimit busyTwice .unbounded)).answer ≠ .error .unfinished ∧
      Agree (read 0 .a1 (withLimit busyTwice (.polls 3)))
        (read 3 .a1 (withLimit busyTwice .unbounded)) ∧
      (read 0 .a1 (withLimit busyTwice (.polls 2))).answer = .error .timeout := by
  intro read
  have hended : (read 3 .a1 (withLimit busyTwice .unbounded)).answer ≠ .error .unfinished := by
    decide
  obtain ⟨-, hbounded⟩ :=
    ((@bounded_refines_unbounded {} .a1).1 StandIn.converter busyTwice).2 3 hended
  exact ⟨hended, (hbounded 3 0).1 (by decide), (hbounded 2 0).2 (by decide)⟩

end BoardSupport.Converter
