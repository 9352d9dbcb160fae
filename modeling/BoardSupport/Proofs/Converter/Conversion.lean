import BoardSupport.Proofs.ChipSupport.Exchange
import BoardSupport.Proofs.Converter.Stages
import BoardSupport.Proofs.DebugOutput.Operations
import BoardSupport.StandIn.Devices
import Mathlib.Tactic.IntervalCases

/-!
# Complete conversions

What a reading asks of the library, request by request, as long as nothing goes wrong before the
polls are over: the preparation, the polls, and one of two endings.

- `ReadyAt`: which of the polls is the first to find a result, which is up to the device.
- `doing_wait_ready` and `doing_wait_idle`: the wait ends at that poll, or after as many as the limit
  allows.
- `bounded_conversions`: the requests and the answer of a reading whose wait is bounded, and over a
  run of such readings the balance of what is brought up and shut down.
-/

namespace BoardSupport.Converter

open ChipSupport (Device Performs Session doing doing_bind libraryCalls succeeded)

variable {τ : Type} {d : Device library τ}

theorem doing_attempt [ChipSupport.Build] (line : String) (r : Request) (s : Converter) (t : τ) :
    doing d (attempt line r).run s t =
      ⟨[d.reply t r], ((d.request r t).1, s), (d.request r t).2⟩ :=
  ChipSupport.doing_attempt (L := library) line r

/-! ## Requests of a reading -/

/-- The requests before the first poll. -/
def preparation (config : Config) (channel : Channel) : List Request :=
  [.init, .openChannel channel, .resetChannel,
    .setUp ⟨.polling, false, config.reference, config.clockDivider⟩, .setCycle .single,
    .route channel, .start]

/-- So many status polls. -/
def polling (n : Nat) : List Request := List.replicate n .status

/-- The requests after a poll that has found a result. -/
def completing : List Request := [.read, .closeChannel, .deinit]

/-- The requests after the last poll has found none. -/
def abandoning : List Request := [.stop, .closeChannel, .deinit]

theorem performs_prepare [ChipSupport.Build] (s : Converter) (pin : Pin) :
    Performs d (prepare pin) s (preparation s.config pin.channel) fun _ u =>
      u.config = s.config := by
  have hconfigure : Performs d (configureChannel .polling pin.channel .single) s
      [.openChannel pin.channel, .resetChannel,
        .setUp ⟨.polling, false, s.config.reference, s.config.clockDivider⟩, .setCycle .single,
        .route pin.channel] fun _ u => u.config = s.config := by
    refine Performs.attempt_bind fun bank => Performs.modify_bind ?_
    refine Performs.attempt_bind fun _ => Performs.get_bind ?_
    refine Performs.attempt_bind fun _ => Performs.attempt_bind fun _ => ?_
    exact Performs.attempt fun _ => rfl
  have hbringUp : Performs d bringUp s [.init] fun _ u => u = s := Performs.attempt fun _ => rfl
  -- the settings of the channel are those of the start, for nothing changes them on the way
  refine hbringUp.adapt.bind fun _ u hu => ?_
  rw [hu]
  refine hconfigure.adapt.bind fun _ u hu => ?_
  exact Performs.adapt (Performs.attempt fun _ => hu)

theorem performs_closing [ChipSupport.Build] (s : Converter) (sample : UInt16) :
    Performs d (shutDown.lift >>= fun _ => pure sample : Action Error UInt16) s
      [.closeChannel, .deinit] fun a u => a = sample ∧ u.config = s.config := by
  have hshutDown : Performs d shutDown s [.closeChannel, .deinit] fun _ u =>
      u.config = s.config := by
    refine Performs.attempt_bind fun _ => Performs.modify_bind ?_
    exact Performs.attempt fun _ => rfl
  exact hshutDown.adapt.bind fun _ u hu => Performs.pure ⟨rfl, hu⟩

theorem performs_finish [ChipSupport.Build] (s : Converter) :
    Performs d finish s completing fun _ u => u.config = s.config := by
  have hread : Performs d readData s [.read] fun _ u => u = s := Performs.attempt fun _ => rfl
  refine hread.adapt.bind fun sample u hu => ?_
  rw [hu]
  exact (performs_closing s sample).imp fun _ _ h => h.2

/-- The answer of a reading that is completed is what the converter is read to hold. -/
theorem doing_finish [ChipSupport.Build] {s : Converter} {t : τ} {sample : UInt16}
    (hserves : d.Serves t completing)
    (hread : (d.request .read t).1 = .ok sample) : ∃ u, u.config = s.config ∧
      doing d finish.run s t =
        ⟨d.exchange t completing, (.ok sample, u), d.afterAll t completing⟩ := by
  have hraw : doing d readData.run s t =
      ⟨[d.reply t .read], (.ok sample, s), (d.request .read t).2⟩ := by
    rw [readData, doing_attempt, hread]
  have hsample : doing d readData.lift.run s t =
      ⟨[d.reply t .read], (.ok sample, s), (d.request .read t).2⟩ := by
    rw [Action.lift, ChipSupport.Action.run_adapt, doing_bind hraw]
    rfl
  have hclosing := (ChipSupport.Device.serves_cons.1 hserves).2
  obtain ⟨_, u, ⟨rfl, hu⟩, hdoing⟩ := (performs_closing s sample).of_serves hclosing
  refine ⟨u, hu, ?_⟩
  rw [finish, ChipSupport.Action.run_bind, doing_bind hsample]
  exact congrArg _ hdoing

/-! ## Waiting for a device -/

/-- The reply to a status poll that comes after `n` others. -/
def pollReply (d : Device library τ) (t : τ) (n : Nat) : Except ChipSupport.Error Bool :=
  (d.request .status (d.afterAll t (polling n))).1

/-- The first `n` polls from `t` on find no result. -/
def IdleFor (d : Device library τ) (t : τ) (n : Nat) : Prop :=
  ∀ i < n, pollReply d t i = .ok false

/-- The `k`-th poll from `t` on is the first to find a result. -/
def ReadyAt (d : Device library τ) (t : τ) (k : Nat) : Prop :=
  ∃ n, k = n + 1 ∧ IdleFor d t n ∧ pollReply d t n = .ok true

section Waiting

variable {s : Converter} {t : τ} {k n : Nat}

theorem idleFor_succ : IdleFor d t (n + 1) ↔
    (d.request .status t).1 = .ok false ∧ IdleFor d (d.request .status t).2 n := by
  constructor
  · intro h
    exact ⟨h 0 n.succ_pos, fun i hi => h (i + 1) (Nat.succ_lt_succ hi)⟩
  · rintro ⟨hfirst, hlater⟩ i hi
    cases i with
    | zero => exact hfirst
    | succ i => exact hlater i (Nat.lt_of_succ_lt_succ hi)

theorem polling_succ (n : Nat) : polling (n + 1) = polling n ++ [.status] :=
  List.replicate_succ'

variable [ChipSupport.Build]

theorem doing_pollStatus :
    doing d pollStatus.run s t =
      ⟨[d.reply t .status], ((d.request .status t).1, s), (d.request .status t).2⟩ :=
  doing_attempt _ _ s t

/-- Polls that find no result are made one after another. -/
theorem doing_pollUntilReady_add (h : IdleFor d t k) :
    doing d (pollUntilReady (k + n)).run s t =
      (doing d (pollUntilReady n).run s (d.afterAll t (polling k))).behind
        (d.exchange t (polling k)) := by
  -- the induction is on the polls that find nothing, and moves the device on with each of them
  induction k generalizing t with
  | zero =>
    rw [Nat.zero_add]
    rfl
  | succ k ih =>
    obtain ⟨hfirst, hlater⟩ := idleFor_succ.1 h
    have hpoll := doing_pollStatus (d := d) (s := s) (t := t)
    rw [hfirst] at hpoll
    rw [Nat.succ_add, run_pollUntilReady_succ, doing_bind hpoll]
    show Course.behind _ (doing d (pollUntilReady (k + n)).run s (d.request .status t).2) = _
    rw [ih hlater, Course.behind_behind]
    rfl

/-- If the limit allows no more polls, that was all. -/
theorem doing_pollUntilReady_idle (h : IdleFor d t n) :
    doing d (pollUntilReady n).run s t =
      ⟨d.exchange t (polling n), (.ok false, s), d.afterAll t (polling n)⟩ := by
  rw [← Nat.add_zero n, doing_pollUntilReady_add h]
  exact Course.behind_end _ _ _

/-- The first poll that finds a result, or fails, is the last. -/
theorem doing_pollUntilReady_last (h : IdleFor d t k) (hk : k < n)
    (hlast : pollReply d t k ≠ .ok false) :
    doing d (pollUntilReady n).run s t =
      ⟨d.exchange t (polling (k + 1)), (pollReply d t k, s), d.afterAll t (polling (k + 1))⟩ := by
  obtain ⟨m, rfl⟩ := Nat.exists_eq_add_of_lt hk
  have hpoll : doing d pollStatus.run s (d.afterAll t (polling k)) =
      ⟨[d.reply (d.afterAll t (polling k)) .status], (pollReply d t k, s),
        (d.request .status (d.afterAll t (polling k))).2⟩ := doing_pollStatus
  have hend : doing d (pollUntilReady (m + 1)).run s (d.afterAll t (polling k)) =
      ⟨[d.reply (d.afterAll t (polling k)) .status], (pollReply d t k, s),
        (d.request .status (d.afterAll t (polling k))).2⟩ := by
    rw [run_pollUntilReady_succ]
    cases hreply : pollReply d t k with
    | error e =>
      rw [hreply] at hpoll
      exact doing_bind hpoll
    | ok ready =>
      rw [hreply] at hpoll
      cases ready with
      | true => exact doing_bind hpoll
      | false => exact absurd hreply hlast
  rw [Nat.add_assoc, doing_pollUntilReady_add h, hend, polling_succ,
    ChipSupport.Device.exchange_append, ChipSupport.Device.afterAll_append]
  rfl

omit [ChipSupport.Build] in
/-- Either all polls find no result, or one of them is the last. -/
theorem idleFor_or_last (d : Device library τ) (t : τ) (n : Nat) :
    IdleFor d t n ∨ ∃ k < n, IdleFor d t k ∧ pollReply d t k ≠ .ok false := by
  induction n with
  | zero => exact .inl fun i hi => absurd hi (Nat.not_lt_zero i)
  | succ n ih =>
    rcases ih with hidle | ⟨k, hk, hlast⟩
    · by_cases hn : pollReply d t n = .ok false
      · refine .inl fun i hi => ?_
        rcases Nat.lt_succ_iff_lt_or_eq.1 hi with hlt | rfl
        · exact hidle i hlt
        · exact hn
      · exact .inr ⟨n, n.lt_succ_self, hidle, hn⟩
    · exact .inr ⟨k, Nat.lt_succ_of_lt hk, hlast⟩

theorem doing_awaitReady (budget : Nat) :
    doing d (awaitReady budget).run s t =
      doing d (pollOr (s.config.pollLimit.bound budget) (runOut s.config.pollLimit)).run s t := by
  rw [doing, doing, run_awaitReady_eq]

/-- What a wait makes of its last poll. -/
def lastPoll : Except ChipSupport.Error Bool → Except Error Unit
  | .ok _ => .ok ()
  | .error e => .error (.library e)

/-- A wait ends with the first poll that finds a result, or fails, and nothing is shut down. -/
theorem doing_wait_last {budget : Nat} (h : IdleFor d t k)
    (hk : k < s.config.pollLimit.bound budget) (hlast : pollReply d t k ≠ .ok false) :
    doing d (wait budget).run s t =
      ⟨d.exchange t (polling (k + 1)), (lastPoll (pollReply d t k), s),
        d.afterAll t (polling (k + 1))⟩ := by
  have hawait : doing d (awaitReady budget).run s t =
      ⟨d.exchange t (polling (k + 1)), (lastPoll (pollReply d t k), s),
        d.afterAll t (polling (k + 1))⟩ := by
    rw [doing_awaitReady, run_pollOr, doing_bind (doing_pollUntilReady_last h hk hlast)]
    cases hreply : pollReply d t k with
    | error e => exact Course.behind_end _ _ _
    | ok ready =>
      cases ready with
      | true => exact Course.behind_end _ _ _
      | false => exact absurd hreply hlast
  rw [wait, ChipSupport.Action.run_tryCatch, doing_bind hawait]
  cases pollReply d t k with
  | ok ready => exact Course.behind_end _ _ _
  | error e =>
    show Course.behind _ (doing d (settle (.library e)).run s _) = _
    rw [run_settle (nofun : Error.library e ≠ .timeout)]
    exact Course.behind_end _ _ _

/-- A wait ends with the first poll that finds a result. -/
theorem doing_wait_ready {budget : Nat} (h : ReadyAt d t k)
    (hk : k ≤ s.config.pollLimit.bound budget) :
    doing d (wait budget).run s t =
      ⟨d.exchange t (polling k), (.ok (), s), d.afterAll t (polling k)⟩ := by
  obtain ⟨n, rfl, hidle, hready⟩ := h
  rw [doing_wait_last hidle hk (by rw [hready]; nofun), hready]
  rfl

theorem doing_abandon :
    doing d abandon s t =
      ⟨d.exchange t abandoning, ((), { s with handle := .unmapped }), d.afterAll t abandoning⟩ := by
  have hregardless : ∀ (line : String) (r : Request) (s : Converter) (t : τ),
      doing d (ChipSupport.regardless (attempt line r)) s t =
        ⟨[d.reply t r], ((), s), (d.request r t).2⟩ := by
    intro line r s t
    show doing d ((attempt line r).run >>= fun _ => pure ()) s t = _
    rw [doing_bind (doing_attempt line r s t)]
    rfl
  rw [abandon, stop, doing_bind (hregardless _ _ _ _), doing_bind (hregardless _ _ _ _),
    Course.behind_behind]
  show Course.behind _ (doing d (ChipSupport.regardless _) { s with handle := .unmapped } _) = _
  rw [hregardless]
  rfl

/-- A bounded wait that runs out ends in the whole shutdown. -/
theorem doing_wait_idle {budget : Nat} {limit : UInt32} (hlimit : s.config.pollLimit = .polls limit)
    (h : IdleFor d t limit.toNat) :
    doing d (wait budget).run s t =
      ⟨d.exchange t (polling limit.toNat ++ abandoning),
        (.error .timeout, { s with handle := .unmapped }),
        d.afterAll t (polling limit.toNat ++ abandoning)⟩ := by
  have hawait : doing d (awaitReady budget).run s t =
      ⟨d.exchange t (polling limit.toNat), (.error .timeout, s),
        d.afterAll t (polling limit.toNat)⟩ := by
    rw [doing_awaitReady, hlimit, run_pollOr]
    rw [PollLimit.bound, doing_bind (doing_pollUntilReady_idle h)]
    show Course.behind _ (doing d (ChipSupport.report _ Error.timeout : Action Error Unit).run s _) = _
    rw [ChipSupport.doing_report]
    exact Course.behind_end _ _ _
  rw [wait, ChipSupport.Action.run_tryCatch, doing_bind hawait]
  show Course.behind _ (doing d (settle .timeout).run s _) = _
  rw [run_settle_timeout, doing_bind doing_abandon, ChipSupport.Device.exchange_append,
    ChipSupport.Device.afterAll_append]
  exact congrArg (fun es => Course.mk (_ ++ es) _ _) (List.append_nil _)

end Waiting

/-! ## Readings -/

/-- The wiring of the board's header: the channel that each pin is on. -/
def wiring : Pin → Channel
  | .a0 => .ch0
  | .a1 => .ch3
  | .a2 => .ch4
  | .a3 => .ch5

theorem channel_eq_wiring (pin : Pin) : pin.channel = wiring pin := by
  cases pin <;> rfl

/-- A reading, as it is seen from outside. -/
structure Reading (τ : Type) where
  answer : Except Error UInt16
  /-- Reports to the console are among the calls. -/
  calls : List (Event library.interface)
  after : Session Converter τ

/-- Performs a reading of `pin`; a wait without a limit is followed for `budget` polls. -/
def reading [ChipSupport.Build] (d : Device library τ) (budget : Nat) (pin : Pin)
    (s : Session Converter τ) : Reading τ :=
  let ((answer, calls), after) := s.perform d (perform budget) (.readPin pin)
  ⟨answer, calls.toList, after⟩

/-- The `k`-th poll of a reading has found a result: the reading is read and shut down unless
something fails on the way, and yields the sample if nothing does. -/
structure Completed (d : Device library τ) (s : Session Converter τ) (pin : Pin) (k : Nat)
    (r : Reading τ) : Prop where
  /-- The calls: of what follows the polls, all up to the first failure. -/
  calls : let first := preparation s.driver.config (wiring pin) ++ polling k
    libraryCalls r.calls =
      d.exchange s.device first ++ d.chain (d.afterAll s.device first) completing
  /-- The answer is what the converter is read to hold. -/
  answer : let done := d.afterAll s.device (preparation s.driver.config (wiring pin) ++ polling k)
    ∀ sample, (d.request .read done).1 = .ok sample → d.Serves done completing →
      r.answer = .ok sample

/-- All `n` polls of a reading have found nothing: every step of the shutdown is made, whatever the
others return, and the reading times out. -/
structure Abandoned (d : Device library τ) (s : Session Converter τ) (pin : Pin) (n : Nat)
    (r : Reading τ) : Prop where
  calls : libraryCalls r.calls =
    d.exchange s.device (preparation s.driver.config (wiring pin) ++ polling n ++ abandoning)
  answer : r.answer = .error .timeout

section Readings

variable [ChipSupport.Build] (budget : Nat) {pin : Pin} {s : Session Converter τ} {limit : UInt32}
  {k : Nat}

theorem reading_eq (d : Device library τ) (budget : Nat) (pin : Pin) (s : Session Converter τ) :
    libraryCalls (reading d budget pin s).calls =
        (doing d (readPin budget pin).run s.driver s.device).calls ∧
      (reading d budget pin s).answer =
        (doing d (readPin budget pin).run s.driver s.device).result.1 ∧
      (reading d budget pin s).after.driver =
        (doing d (readPin budget pin).run s.driver s.device).result.2 := by
  obtain ⟨calls, k, hturn, hcalls⟩ :=
    Session.turn_doing d (perform budget) (.readPin pin) s (twins_perform budget _)
  obtain ⟨-, -, hanswer, hes, hafter⟩ := Turn.mk.inj hturn
  refine ⟨Eq.trans ?_ hcalls, eq_of_heq hanswer, congrArg Session.driver hafter⟩
  rw [← hes]
  rfl

/-- If the channel can be prepared, a reading goes on with its wait. -/
theorem doing_readPin {s : Converter} {t : τ}
    (h : d.Serves t (preparation s.config pin.channel)) :
    ∃ u, u.config = s.config ∧ doing d (readPin budget pin).run s t =
      (doing d (wait budget >>= fun _ => finish).run u
        (d.afterAll t (preparation s.config pin.channel))).behind
          (d.exchange t (preparation s.config pin.channel)) := by
  obtain ⟨⟨⟩, u, hu, hprepare⟩ := (performs_prepare s pin).of_serves h
  refine ⟨u, hu, ?_⟩
  rw [readPin_eq, ChipSupport.Action.run_bind, doing_bind hprepare]

/-- The reading ends with the `k`-th poll, and then reads and shuts down. -/
theorem doing_readPin_ready {s : Converter} {t : τ}
    (h : d.Serves t (preparation s.config pin.channel))
    (hready : ReadyAt d (d.afterAll t (preparation s.config pin.channel)) k)
    (hk : k ≤ s.config.pollLimit.bound budget) :
    ∃ u, u.config = s.config ∧ doing d (readPin budget pin).run s t =
      (doing d finish.run u
        (d.afterAll t (preparation s.config pin.channel ++ polling k))).behind
          (d.exchange t (preparation s.config pin.channel ++ polling k)) := by
  obtain ⟨u, hu, hdoing⟩ := doing_readPin budget h
  refine ⟨u, hu, ?_⟩
  rw [← hu] at hk
  rw [hdoing, ChipSupport.Action.run_bind, doing_bind (doing_wait_ready hready hk),
    Course.behind_behind, ChipSupport.Device.exchange_append, ChipSupport.Device.afterAll_append]

/-- The reading polls as often as it may, and then shuts down. -/
theorem doing_readPin_idle {s : Converter} {t : τ} (hlimit : s.config.pollLimit = .polls limit)
    (h : d.Serves t (preparation s.config pin.channel))
    (hidle : IdleFor d (d.afterAll t (preparation s.config pin.channel)) limit.toNat) :
    let does := doing d (readPin budget pin).run s t
    does.calls =
        d.exchange t (preparation s.config pin.channel ++ polling limit.toNat ++ abandoning) ∧
      does.result.1 = .error .timeout ∧ does.result.2.config = s.config := by
  obtain ⟨u, hu, hdoing⟩ := doing_readPin budget h
  rw [← hu] at hlimit
  rw [ChipSupport.Action.run_bind, doing_bind (doing_wait_idle hlimit hidle)] at hdoing
  rw [hdoing, Course.behind_behind]
  refine ⟨?_, rfl, hu⟩
  have happend := ChipSupport.Device.exchange_append (d := d) t (preparation s.config pin.channel)
    (polling limit.toNat ++ abandoning)
  rw [List.append_assoc, happend]
  exact List.append_nil _

/-- The reading ends with a poll that fails. -/
theorem doing_readPin_pollFailed {s : Converter} {t : τ} {e : ChipSupport.Error}
    (h : d.Serves t (preparation s.config pin.channel))
    (hidle : IdleFor d (d.afterAll t (preparation s.config pin.channel)) k)
    (hk : k < s.config.pollLimit.bound budget)
    (hfailed : pollReply d (d.afterAll t (preparation s.config pin.channel)) k = .error e) :
    (doing d (readPin budget pin).run s t).calls =
      d.exchange t (preparation s.config pin.channel ++ polling (k + 1)) := by
  obtain ⟨u, hu, hdoing⟩ := doing_readPin budget h
  rw [← hu] at hk
  rw [hdoing, ChipSupport.Action.run_bind, doing_bind (doing_wait_last hidle hk (by rw [hfailed]; nofun)),
    hfailed, Course.behind_behind, ChipSupport.Device.exchange_append]
  exact List.append_nil _

/-- A reading of which no call fails, and whose wait is bounded, runs to one of the two endings. -/
theorem doing_readPin_smooth {s : Converter} {t : τ} (hlimit : s.config.pollLimit = .polls limit)
    (hsmooth : ∀ e ∈ (doing d (readPin budget pin).run s t).calls, succeeded e = true) :
    let does := doing d (readPin budget pin).run s t
    does.result.2.config = s.config ∧ ∃ n ending, (ending = completing ∨ ending = abandoning) ∧
      does.calls = d.exchange t (preparation s.config pin.channel ++ polling n ++ ending) := by
  have hserves : d.Serves t (preparation s.config pin.channel) := by
    refine (performs_prepare s pin).serves fun e he => hsmooth e ?_
    rw [readPin_eq, ChipSupport.Action.run_bind]
    exact ChipSupport.mem_doing_bind he
  have hbound : s.config.pollLimit.bound budget = limit.toNat := by
    rw [hlimit]
    rfl
  rcases idleFor_or_last d (d.afterAll t (preparation s.config pin.channel)) limit.toNat with
    hidle | ⟨k, hk, hidle, hlast⟩
  · obtain ⟨hcalls, -, hconfig⟩ := doing_readPin_idle budget hlimit hserves hidle
    exact ⟨hconfig, limit.toNat, abandoning, .inr rfl, hcalls⟩
  rw [← hbound] at hk
  cases hreply : pollReply d (d.afterAll t (preparation s.config pin.channel)) k with
  | error e =>
    -- the failing poll is the last of the calls
    rw [doing_readPin_pollFailed budget hserves hidle hk hreply] at hsmooth
    have hpolls := (ChipSupport.Device.serves_append.1 hsmooth).2
    rw [polling_succ] at hpolls
    obtain ⟨ready, hready⟩ :=
      ChipSupport.Device.serves_singleton.1 (ChipSupport.Device.serves_append.1 hpolls).2
    cases hready.symm.trans hreply
  | ok ready =>
    cases ready with
    | false => exact absurd hreply hlast
    | true =>
      obtain ⟨u, hu, hdoing⟩ := doing_readPin_ready budget hserves ⟨k, rfl, hidle, hreply⟩ hk
      rw [hdoing] at hsmooth ⊢
      have hend := (performs_finish u).serves fun e he => hsmooth e (List.mem_append_right _ he)
      obtain ⟨sample, w, hw, hfinish⟩ := (performs_finish u).of_serves hend
      rw [hfinish]
      refine ⟨hw.trans hu, k + 1, completing, .inl rfl, ?_⟩
      rw [ChipSupport.Device.exchange_append _ (_ ++ _)]
      rfl

theorem completed (h : d.Serves s.device (preparation s.driver.config (wiring pin)))
    (hready : ReadyAt d (d.afterAll s.device (preparation s.driver.config (wiring pin))) k)
    (hk : k ≤ s.driver.config.pollLimit.bound budget) :
    Completed d s pin k (reading d budget pin s) := by
  rw [← channel_eq_wiring] at h hready
  obtain ⟨hcalls, hanswer, -⟩ := reading_eq d budget pin s
  obtain ⟨u, -, hdoing⟩ := doing_readPin_ready budget h hready hk
  constructor
  · rw [hcalls, hdoing, ← channel_eq_wiring]
    exact congrArg (_ ++ ·) ((performs_finish u).calls_eq _)
  · rw [← channel_eq_wiring]
    intro done sample hread hserves
    obtain ⟨v, -, hfinish⟩ := doing_finish (s := u) hserves hread
    rw [hanswer, hdoing, hfinish]
    rfl

theorem abandoned (hlimit : s.driver.config.pollLimit = .polls limit)
    (h : d.Serves s.device (preparation s.driver.config (wiring pin)))
    (hidle : IdleFor d (d.afterAll s.device (preparation s.driver.config (wiring pin)))
      limit.toNat) :
    Abandoned d s pin limit.toNat (reading d budget pin s) := by
  rw [← channel_eq_wiring] at h hidle
  obtain ⟨hcalls, hanswer, -⟩ := reading_eq d budget pin s
  obtain ⟨hidleCalls, hidleAnswer, -⟩ := doing_readPin_idle budget hlimit h hidle
  refine ⟨?_, hanswer.trans hidleAnswer⟩
  rw [hcalls, hidleCalls, channel_eq_wiring]

end Readings

/-! ## Runs of readings -/

/-- The request brings the module up or shuts it down, or opens a channel or closes it. -/
def Request.isBracket : Request → Bool
  | init | deinit | openChannel _ | closeChannel => true
  | _ => false

/-- What some calls bring up, open, close and shut down. -/
def brackets (es : List (Event library.interface)) : List Request :=
  (ChipSupport.requests es).filter Request.isBracket

/-- A reading, or a change to settings that bound the wait of a reading. -/
def Command.IsBounded : Command → Prop
  | readPin _ => True
  | withConfig config => ∃ limit, config.pollLimit = .polls limit
  | _ => False

/-- What a command has to bring up, open, close and shut down. -/
def dueBrackets : Command → List Request
  | .readPin pin => [.init, .openChannel (wiring pin), .closeChannel, .deinit]
  | _ => []

theorem filter_isBracket_conversion (config : Config) (channel : Channel) (n : Nat)
    {ending : List Request} (h : ending = completing ∨ ending = abandoning) :
    (preparation config channel ++ polling n ++ ending).filter Request.isBracket =
      [.init, .openChannel channel, .closeChannel, .deinit] := by
  have hpolls : (polling n).filter Request.isBracket = [] :=
    List.filter_eq_nil_iff.2 fun r hr => by
      rw [(List.mem_replicate.1 hr).2]
      exact Bool.false_ne_true
  rw [List.filter_append, List.filter_append, hpolls]
  rcases h with rfl | rfl <;> rfl

section Runs

variable [ChipSupport.Build] (d : Device library τ) (budget : Nat)

/-- A command of a run makes the calls that it is due to make, and the wait stays bounded. -/
theorem brackets_turn {c : Command} {s : Session Converter τ} (hc : c.IsBounded)
    (hs : ∃ limit, s.driver.config.pollLimit = .polls limit)
    (hsmooth : ∀ e ∈ ((Session.performer d (perform budget)).turn c s).calls, succeeded e = true) :
    let turn := (Session.performer d (perform budget)).turn c s
    brackets turn.calls = dueBrackets c ∧
      ∃ limit, turn.after.driver.config.pollLimit = .polls limit := by
  cases c with
  | readPin pin =>
    obtain ⟨limit, hlimit⟩ := hs
    obtain ⟨calls, k, hturn, hcalls⟩ :=
      Session.turn_doing d (perform budget) (.readPin pin) s (twins_perform budget _)
    rw [hturn] at hsmooth ⊢
    have hdoing : ∀ e ∈ (doing d (readPin budget pin).run s.driver s.device).calls,
        succeeded e = true := by
      intro e he
      rw [perform] at hcalls
      rw [← hcalls] at he
      exact hsmooth e ((List.mem_filter.1 he).1)
    obtain ⟨hconfig, n, ending, hending, hexchange⟩ := doing_readPin_smooth budget hlimit hdoing
    refine ⟨?_, limit, (congrArg Config.pollLimit hconfig).trans hlimit⟩
    show (ChipSupport.requests calls).filter Request.isBracket = _
    rw [← ChipSupport.requests_libraryCalls, hcalls]
    show (ChipSupport.requests (doing d (readPin budget pin).run s.driver s.device).calls).filter _ = _
    rw [hexchange, ChipSupport.Device.requests_exchange, dueBrackets, ← channel_eq_wiring]
    exact filter_isBracket_conversion _ _ n hending
  | withConfig config => exact ⟨rfl, hc⟩
  | _ => exact absurd hc id

theorem brackets_play (cs : List Command) (s : Session Converter τ) (hcs : ∀ c ∈ cs, c.IsBounded)
    (hs : ∃ limit, s.driver.config.pollLimit = .polls limit)
    (hsmooth : ∀ turn ∈ ((Session.performer d (perform budget)).play cs s).1,
      ∀ e ∈ turn.calls, succeeded e = true) :
    (((Session.performer d (perform budget)).play cs s).1.flatMap fun turn =>
      brackets turn.calls) = cs.flatMap dueBrackets := by
  -- the invariant is that the wait is bounded
  induction cs generalizing s with
  | nil => rfl
  | cons c cs ih =>
    obtain ⟨hc, hcs⟩ := List.forall_mem_cons.1 hcs
    obtain ⟨hfirst, hlater⟩ := List.forall_mem_cons.1 hsmooth
    obtain ⟨hbrackets, hlimit⟩ := brackets_turn d budget hc hs hfirst
    rw [List.flatMap_cons, ← ih _ hcs hlimit hlater, ← hbrackets]
    rfl

/-- A reading whose wait is bounded, on a converter that can be prepared and polled: if the `k`-th
poll is the first to find a result, and the limit allows so many, the reading polls `k` times and is
completed; otherwise it polls as often as the limit allows and is abandoned.  So, over a run of such
readings of which no call fails, every time that the module is brought up and a channel opened is
followed by one closing of the channel and one shutdown before the next. -/
theorem bounded_conversions :
    (∀ (s : Session Converter τ) (pin : Pin) (limit : UInt32),
      s.driver.config.pollLimit = .polls limit →
      d.Serves s.device (preparation s.driver.config (wiring pin)) →
      let prepared := d.afterAll s.device (preparation s.driver.config (wiring pin))
      (∀ k ≤ limit.toNat, ReadyAt d prepared k →
        Completed d s pin k (reading d budget pin s)) ∧
      ((∀ k < limit.toNat, ∃ found, pollReply d prepared k = .ok found) →
        (∀ k ≤ limit.toNat, ¬ ReadyAt d prepared k) →
          Abandoned d s pin limit.toNat (reading d budget pin s))) ∧
    ∀ (s : Session Converter τ) (cs : List Command),
      (∃ limit, s.driver.config.pollLimit = .polls limit) → (∀ c ∈ cs, c.IsBounded) →
      let turns := ((Session.performer d (perform budget)).play cs s).1
      (∀ turn ∈ turns, ∀ e ∈ turn.calls, succeeded e = true) →
        (turns.flatMap fun turn => brackets turn.calls) = cs.flatMap dueBrackets := by
  constructor
  · intro s pin limit hlimit hserves prepared
    constructor
    · intro k hk hready
      refine completed budget hserves hready ?_
      rw [hlimit]
      exact hk
    · intro hpolls hnever
      refine abandoned budget hlimit hserves ?_
      rcases idleFor_or_last d prepared limit.toNat with hidle | ⟨k, hk, hidle, hlast⟩
      · exact hidle
      · -- the last of the polls does not fail, so it would have found a result
        obtain ⟨found, hfound⟩ := hpolls k hk
        cases found with
        | false => exact absurd hfound hlast
        | true => exact absurd ⟨k, rfl, hidle, hfound⟩ (hnever (k + 1) hk)
  · intro s cs hs hcs turns hsmooth
    exact brackets_play d budget cs s hcs hs hsmooth

end Runs

/-- A converter that is busy for two polls, and a reading that may poll three times. -/
def busyTwice : Session Converter StandIn :=
  ⟨{ config := { pollLimit := .polls 3 } }, { sample := 321, busyPolls := 2 }, {}⟩

/-- The third poll is the last that the limit allows, and it finds the result. -/
theorem busyTwice_completed :
    ReadyAt StandIn.converter (StandIn.converter.afterAll busyTwice.device
        (preparation busyTwice.driver.config Channel.ch3)) 3 ∧
      Completed StandIn.converter busyTwice .a1 3 (@reading _ {} StandIn.converter 0 .a1 busyTwice) := by
  have hready : ReadyAt StandIn.converter (StandIn.converter.afterAll busyTwice.device
      (preparation busyTwice.driver.config Channel.ch3)) 3 :=
    ⟨2, rfl, fun i hi => by interval_cases i <;> rfl, rfl⟩
  refine ⟨hready, ((@bounded_conversions _ {} StandIn.converter 0).1 busyTwice .a1 3 rfl ?_).1 3
    (Nat.le_refl 3) hready⟩
  unfold ChipSupport.Device.Serves
  decide

end BoardSupport.Converter
