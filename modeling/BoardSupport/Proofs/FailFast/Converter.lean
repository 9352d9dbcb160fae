import BoardSupport.Converter.Command
import BoardSupport.Proofs.ChipSupport.FailFast

/-!
# The converter is fail-fast

All commands of the converter follow the rule but for two exceptions.  The status query counts a
failure as no, and a reading that is given up does not stop at a failure: when a bounded wait has run
out, all three steps of the shutdown are made, and the reading is a timeout whatever they return.
(A wait without a limit that is not followed to its end is no ending of the program at all.)

The limit that a reading waits for is in the driver's state when its wait begins, so the rule is
proved along with the invariant that the configuration stays (`rules`).
-/

namespace BoardSupport.Converter

open ChipSupport.Action (Obeys)
open ChipSupport (Calls Contract FailFast LibraryCall Rules Verdict calls_debug_iff calls_done_iff
  calls_end_iff calls_run_attempt_iff calls_run_bind_iff calls_run_regardless calls_run_report_iff
  nonBlockingVerdict outcome reply success)

/-- How a reading says that it failed. -/
def Error.verdict : Error → Verdict
  | invalidPin _ => .refused
  | library e => e.verdict
  | timeout => .timeout
  | unfinished => .unfinished

/-- The calls of so many status polls, none of which finds a result. -/
def idlePolls (n : Nat) : List (LibraryCall library) :=
  List.replicate n (.request .status success false)

/-- The calls of a reading from its first poll on, if it is given up, and the verdict: a bounded wait
is followed by the three steps of the shutdown, whatever they return. -/
def GivenUp (budget : Nat) : PollLimit → List (LibraryCall library) → Verdict → Prop
  | .polls limit, cs, v => v = .timeout ∧ ∃ stopped closed ended,
    cs = idlePolls limit.toNat ++
      [.request .stop stopped (), .request .closeChannel closed (), .request .deinit ended ()]
  | .unbounded, cs, v => v = .unfinished ∧ cs = idlePolls budget

/-- A reading is given up after calls that all succeeded. -/
def ReadingGivenUp (budget : Nat) (s : Converter) (answer : Except Error UInt16)
    (cs : List (LibraryCall library)) : Prop :=
  ∃ before after, cs = before ++ after ∧ (∀ x ∈ before, x.status = success) ∧
    GivenUp budget s.config.pollLimit after (outcome Error.verdict answer)

/-- What the converter's commands are held to, if a wait without a limit is followed for `budget`
polls. -/
def contract (budget : Nat) : Contract commands Converter library where
  refusal _
    | .readId id => if 3 < id then some (.error (.invalidPin id)) else none
    | _ => none
  verdict
    | .bringUp, answer | .shutDown, answer | .configureChannel .., answer | .start, answer
    | .stop, answer => outcome ChipSupport.Error.verdict answer
    | .readData, answer => outcome ChipSupport.Error.verdict answer
    | .readNonBlocking, answer => outcome (nonBlockingVerdict ChipSupport.Error.verdict) answer
    | .readPin _, answer | .readId _, answer | .sample _, answer => outcome Error.verdict answer
    | .isReady, _ | .withConfig _, _ | .withDebug _, _ => .success
  allowed
    | .readNonBlocking => [.wouldBlock]
    | _ => []
  Exception s
    | .isReady, (answer, _), cs =>
      ∃ code ready, cs = [.request .status code ready] ∧ code ≠ success ∧ answer = false
    | .readPin _, (answer, _), cs | .readId _, (answer, _), cs | .sample _, (answer, _), cs =>
      ReadingGivenUp budget s answer cs
    | _, _, _ => False

variable [ChipSupport.Build]

/-! ## The pieces of a reading -/

section Pieces

variable {R : Rules library Converter}

theorem obeys_bringUp : bringUp.Obeys R ChipSupport.Error.verdict :=
  ChipSupport.obeys_attempt _ _

theorem obeys_start : start.Obeys R ChipSupport.Error.verdict :=
  ChipSupport.obeys_attempt _ _

theorem obeys_stop : stop.Obeys R ChipSupport.Error.verdict :=
  ChipSupport.obeys_attempt _ _

theorem obeys_readData : readData.Obeys R ChipSupport.Error.verdict :=
  ChipSupport.obeys_attempt _ _

theorem obeys_shutDown (hR : ∀ s bank, R.Kept s → R.Kept { s with handle := bank }) :
    shutDown.Obeys R ChipSupport.Error.verdict := by
  refine (ChipSupport.obeys_attempt _ _).bind fun _ => ?_
  refine (Obeys.modify fun s => hR s .unmapped).bind fun _ => ?_
  exact ChipSupport.obeys_attempt _ _

theorem obeys_configureChannel (hR : ∀ s bank, R.Kept s → R.Kept { s with handle := bank })
    (completion : Completion) (channel : Channel) (conversion : Conversion) :
    (configureChannel completion channel conversion).Obeys R ChipSupport.Error.verdict := by
  refine (ChipSupport.obeys_attempt _ _).bind fun bank => ?_
  refine (Obeys.modify fun s => hR s bank).bind fun _ => ?_
  refine (ChipSupport.obeys_attempt _ _).bind fun _ => ?_
  refine Obeys.get.bind fun _ => ?_
  refine (ChipSupport.obeys_attempt _ _).bind fun _ => ?_
  refine (ChipSupport.obeys_attempt _ _).bind fun _ => ?_
  exact ChipSupport.obeys_attempt _ _

theorem obeys_readNonBlocking (hR : .wouldBlock ∈ R.allowed) :
    readNonBlocking.Obeys R (nonBlockingVerdict ChipSupport.Error.verdict) := by
  have hstatus : Obeys R (nonBlockingVerdict ChipSupport.Error.verdict)
      ((attempt "readNb(): SAR_getStatus failed" .status).adapt .failed) :=
    Obeys.adapt (ChipSupport.obeys_attempt _ _) fun _ => rfl
  refine hstatus.bind fun ready => ?_
  cases ready with
  | true => exact Obeys.adapt obeys_readData fun _ => rfl
  | false => exact Obeys.throw hR

end Pieces

/-! ## Waiting -/

section Waiting

variable {s t : Converter} {cs : List (LibraryCall library)}

theorem run_pollUntilReady_succ (n : Nat) :
    (pollUntilReady (n + 1)).run = pollStatus.run >>= fun
      | .ok true => pure (.ok true)
      | .ok false => (pollUntilReady n).run
      | .error e => pure (.error e) := by
  show pollStatus.run >>= _ = _
  congr 1
  funext r
  rcases r with e | ready
  · rfl
  · cases ready <;> rfl

/-- Polling either finds nothing and has made so many polls, or it keeps to the rule.  The induction
is on the polls that are left. -/
theorem calls_pollUntilReady {n : Nat} {r : Except ChipSupport.Error Bool}
    (h : Calls ((pollUntilReady n).run.run s) cs (r, t)) :
    t = s ∧ (r = .ok false ∧ cs = idlePolls n ∨
      r ≠ .ok false ∧ FailFast [] cs (outcome ChipSupport.Error.verdict r)) := by
  induction n generalizing s cs with
  | zero =>
    obtain ⟨rfl, rfl, rfl⟩ := calls_end_iff.1 h
    exact ⟨rfl, .inl ⟨rfl, rfl⟩⟩
  | succ n ih =>
    rw [run_pollUntilReady_succ] at h
    obtain ⟨cs₁, r₁, u, cs₂, rfl, h₁, h₂⟩ := calls_run_bind_iff.1 h
    obtain ⟨code, ready, rfl, rfl, rfl⟩ := calls_run_attempt_iff.1 h₁
    have hfirst := @ChipSupport.failFast_request library [] .status code ready
    cases hseen : reply code ready with
    | error e =>
      -- a poll that fails is the last
      rw [hseen] at h₂ hfirst
      obtain ⟨rfl, rfl, rfl⟩ := calls_end_iff.1 h₂
      exact ⟨rfl, .inr ⟨nofun, hfirst⟩⟩
    | ok found =>
      -- a poll that finds nothing is one more, and so is put before those that are left
      obtain ⟨rfl, rfl⟩ := ChipSupport.reply_eq_ok_iff.1 hseen
      cases ready with
      | true =>
        obtain ⟨rfl, rfl, rfl⟩ := calls_end_iff.1 h₂
        exact ⟨rfl, .inr ⟨nofun, hfirst⟩⟩
      | false =>
        obtain ⟨ht, ⟨hr, hcs⟩ | ⟨hr, hfast⟩⟩ := ih h₂
        · rw [hcs]
          exact ⟨ht, .inl ⟨hr, rfl⟩⟩
        · refine ⟨ht, .inr ⟨hr, hfast.append ?_⟩⟩
          exact List.forall_mem_singleton.2 rfl

/-- Polls so many times, and goes on with `last` if that finds nothing. -/
def pollOr (n : Nat) (last : Action Error Unit) : Action Error Unit := do
  unless ← (pollUntilReady n).lift do last

theorem run_pollOr (n : Nat) (last : Action Error Unit) :
    (pollOr n last).run = (pollUntilReady n).run >>= fun
      | .ok true => pure (.ok ())
      | .ok false => last.run
      | .error e => pure (.error (.library e)) := by
  rw [pollOr, ChipSupport.Action.run_bind, Action.lift, ChipSupport.Action.run_adapt, bind_assoc]
  congr 1
  funext r
  rcases r with e | ready
  · rfl
  · cases ready <;> rfl

theorem calls_pollOr {n : Nat} {last : Action Error Unit} {r : Except Error Unit}
    (h : Calls ((pollOr n last).run.run s) cs (r, t)) :
    t = s ∧ FailFast [] cs (outcome Error.verdict r) ∧ r ≠ .error .timeout ∨
      ∃ cs', cs = idlePolls n ++ cs' ∧ Calls (last.run.run s) cs' (r, t) := by
  rw [run_pollOr] at h
  obtain ⟨cs₁, r₁, u, cs₂, rfl, h₁, h₂⟩ := calls_run_bind_iff.1 h
  obtain ⟨rfl, ⟨rfl, rfl⟩ | ⟨hr, hfast⟩⟩ := calls_pollUntilReady h₁
  · exact .inr ⟨cs₂, rfl, h₂⟩
  · left
    cases r₁ with
    | error e =>
      obtain ⟨rfl, rfl, rfl⟩ := calls_end_iff.1 h₂
      rw [List.append_nil]
      exact ⟨rfl, hfast, nofun⟩
    | ok ready =>
      cases ready with
      | false => exact absurd rfl hr
      | true =>
        obtain ⟨rfl, rfl, rfl⟩ := calls_end_iff.1 h₂
        rw [List.append_nil]
        exact ⟨rfl, hfast, nofun⟩

theorem run_awaitReady (budget : Nat) (s : Converter) :
    (awaitReady budget).run.run s = match s.config.pollLimit with
      | .unbounded => (pollOr budget (throw .unfinished)).run.run s
      | .polls limit => (pollOr limit.toNat (ChipSupport.report
          "analogRead(): SAR conversion timed out" .timeout)).run.run s := by
  show ((match s.config.pollLimit with
    | .unbounded => _
    | .polls _ => _ : Action Error Unit)).run.run s = _
  cases s.config.pollLimit with
  | unbounded => rfl
  | polls limit => rfl

/-- Waiting succeeds, or fails by the rule, or has polled as often as it may. -/
theorem calls_awaitReady {budget : Nat} {r : Except Error Unit}
    (h : Calls ((awaitReady budget).run.run s) cs (r, t)) :
    t = s ∧ (FailFast [] cs (outcome Error.verdict r) ∧ r ≠ .error .timeout ∨
      match s.config.pollLimit with
      | .polls limit => r = .error .timeout ∧ cs = idlePolls limit.toNat
      | .unbounded => r = .error .unfinished ∧ cs = idlePolls budget) := by
  rw [run_awaitReady] at h
  cases hlimit : s.config.pollLimit with
  | unbounded =>
    rw [hlimit] at h
    obtain ⟨ht, hfast, hr⟩ | ⟨cs', rfl, hlast⟩ := calls_pollOr h
    · exact ⟨ht, .inl ⟨hfast, hr⟩⟩
    · obtain ⟨rfl, rfl, rfl⟩ := calls_end_iff.1 hlast
      exact ⟨rfl, .inr ⟨rfl, List.append_nil _⟩⟩
  | polls limit =>
    rw [hlimit] at h
    obtain ⟨ht, hfast, hr⟩ | ⟨cs', rfl, hlast⟩ := calls_pollOr h
    · exact ⟨ht, .inl ⟨hfast, hr⟩⟩
    · obtain ⟨rfl, rfl, rfl⟩ := calls_run_report_iff.1 hlast
      exact ⟨rfl, .inr ⟨rfl, List.append_nil _⟩⟩

/-- All steps of the shutdown are made, and the handle is released. -/
theorem calls_abandon (h : Calls (abandon.run s) cs ((), t)) :
    t = { s with handle := .unmapped } ∧ ∃ stopped closed ended,
      cs = [.request .stop stopped (), .request .closeChannel closed (),
        .request .deinit ended ()] := by
  rw [abandon] at h
  obtain ⟨cs₁, ⟨⟩, s₁, _, rfl, h₁, h⟩ := calls_run_bind_iff.1 h
  obtain ⟨cs₂, ⟨⟩, s₂, _, rfl, h₂, h⟩ := calls_run_bind_iff.1 h
  obtain ⟨cs₃, ⟨⟩, s₃, cs₄, rfl, h₃, h₄⟩ := calls_run_bind_iff.1 h
  obtain ⟨rfl, stopped, ⟨⟩, rfl⟩ := calls_run_regardless h₁
  obtain ⟨rfl, closed, ⟨⟩, rfl⟩ := calls_run_regardless h₂
  obtain ⟨rfl, -, rfl⟩ := calls_end_iff.1 h₃
  obtain ⟨rfl, ended, ⟨⟩, rfl⟩ := calls_run_regardless h₄
  exact ⟨rfl, stopped, closed, ended, rfl⟩

end Waiting

/-! ## Readings -/

/-- The rule for a reading that waits as `wait` says. -/
def rules (budget : Nat) (wait : PollLimit) : Rules library Converter where
  Kept s := s.config.pollLimit = wait
  allowed := []
  Late := GivenUp budget wait
  late_ne_success := by
    intro cs v h hv
    cases wait with
    | polls limit =>
      rw [h.1] at hv
      cases hv
    | unbounded =>
      rw [h.1] at hv
      cases hv

/-- What a reading does with an error of its wait. -/
def settle (e : Error) : Action Error Unit := do
  if e = .timeout then
    abandon
  throw e

theorem run_settle_timeout :
    (settle .timeout).run = abandon >>= fun _ => pure (.error .timeout) := by
  rw [settle, if_pos rfl, ChipSupport.Action.run_bind, ChipSupport.Action.run_lift, bind_assoc]
  rfl

theorem run_settle {e : Error} (h : e ≠ .timeout) : (settle e).run = pure (.error e) := by
  rw [settle, if_neg h]
  rfl

/-- Waiting keeps to the rule, up to the shutdown of a bounded wait that has run out. -/
theorem obeys_wait (budget : Nat) (wait : PollLimit) :
    Obeys (rules budget wait) Error.verdict (tryCatch (awaitReady budget) settle) := by
  intro s cs r t hs hrun
  rw [ChipSupport.Action.run_tryCatch] at hrun
  obtain ⟨cs₁, r₁, u, cs₂, rfl, h₁, h₂⟩ := calls_run_bind_iff.1 hrun
  obtain ⟨rfl, hway⟩ := calls_awaitReady h₁
  rcases hway with ⟨hfast, hr⟩ | hout
  · -- the wait has kept to the rule, and nothing follows
    have hend : cs₂ = [] ∧ r = r₁ ∧ t = u := by
      cases r₁ with
      | ok a =>
        exact calls_end_iff.1 h₂
      | error e =>
        have he : e ≠ .timeout := fun he => hr (congrArg Except.error he)
        simp only [run_settle he] at h₂
        exact calls_end_iff.1 h₂
    obtain ⟨rfl, rfl, rfl⟩ := hend
    rw [List.append_nil]
    exact ⟨hs, .inl hfast⟩
  · cases wait with
    | unbounded =>
      -- no shutdown follows, since the wait has not come to an end
      rw [hs] at hout
      obtain ⟨rfl, rfl⟩ := hout
      simp only [run_settle (nofun : Error.unfinished ≠ .timeout)] at h₂
      obtain ⟨rfl, rfl, rfl⟩ := calls_end_iff.1 h₂
      exact ⟨hs, .inr ⟨[], _, rfl, List.forall_mem_nil _, rfl, List.append_nil _⟩⟩
    | polls limit =>
      -- all steps of the shutdown are made, and they are what comes late
      rw [hs] at hout
      obtain ⟨rfl, rfl⟩ := hout
      simp only [run_settle_timeout] at h₂
      obtain ⟨cs₃, ⟨⟩, v, cs₄, rfl, h₃, h₄⟩ := calls_run_bind_iff.1 h₂
      obtain ⟨rfl, stopped, closed, ended, rfl⟩ := calls_abandon h₃
      obtain ⟨rfl, rfl, rfl⟩ := calls_end_iff.1 h₄
      exact ⟨hs, .inr ⟨[], _, rfl, List.forall_mem_nil _, rfl, stopped, closed, ended, rfl⟩⟩

theorem obeys_readPin (budget : Nat) (wait : PollLimit) (pin : Pin) :
    (readPin budget pin).Obeys (rules budget wait) Error.verdict := by
  have hkept : ∀ (s : Converter) (bank : ChipSupport.Bank), (rules budget wait).Kept s →
      (rules budget wait).Kept { s with handle := bank } := fun _ _ h => h
  have hlift : ∀ {α : Type} {act : Action ChipSupport.Error α},
      act.Obeys (rules budget wait) ChipSupport.Error.verdict →
        act.lift.Obeys (rules budget wait) Error.verdict :=
    fun h => Obeys.adapt h fun _ => rfl
  refine (hlift obeys_bringUp).bind fun _ => ?_
  refine (hlift (obeys_configureChannel hkept _ _ _)).bind fun _ => ?_
  refine (hlift obeys_start).bind fun _ => ?_
  refine (obeys_wait budget wait).bind fun _ => ?_
  refine (hlift obeys_readData).bind fun sample => ?_
  refine (hlift (obeys_shutDown hkept)).bind fun _ => ?_
  exact Obeys.pure sample

/-- A reading keeps to the rule or is given up. -/
theorem met_readPin {budget : Nat} {s t : Converter} {pin : Pin} {answer : Except Error UInt16}
    {cs : List (LibraryCall library)} (h : Calls ((readPin budget pin).run.run s) cs (answer, t)) :
    FailFast [] cs (outcome Error.verdict answer) ∨ ReadingGivenUp budget s answer cs :=
  (obeys_readPin budget s.config.pollLimit pin s cs answer t rfl h).2

/-! ## All commands -/

/-- The status query is one call; if it fails, the answer is no. -/
theorem calls_isReady {s t : Converter} {answer : Bool} {cs : List (LibraryCall library)}
    (h : Calls (isReady.run s) cs (answer, t)) : ∃ code ready,
      cs = [.request .status code ready] ∧ answer = (decide (code = success) && ready) := by
  rw [isReady] at h
  obtain ⟨cs₁, r, u, cs₂, rfl, h₁, h₂⟩ := calls_run_bind_iff.1 h
  obtain ⟨code, ready, rfl, rfl, rfl⟩ := calls_run_attempt_iff.1 h₁
  refine ⟨code, ready, ?_⟩
  by_cases hcode : code = success
  · subst hcode
    obtain ⟨rfl, rfl, rfl⟩ := calls_end_iff.1 h₂
    exact ⟨rfl, (Bool.true_and answer).symm⟩
  · obtain ⟨e, he, -⟩ := ChipSupport.reply_failure hcode ready
    simp only [he] at h₂
    obtain ⟨rfl, rfl, rfl⟩ := calls_end_iff.1 h₂
    rw [decide_eq_false hcode]
    exact ⟨rfl, rfl⟩

theorem contract_holds (budget : Nat) : (contract budget).Holds (perform budget) := by
  refine Contract.holds_of_calls fun s c cs answer t hrun => ?_
  cases c with
  | bringUp => exact Contract.met_of_obeys rfl obeys_bringUp hrun
  | shutDown => exact Contract.met_of_obeys rfl (obeys_shutDown fun _ _ h => h) hrun
  | configureChannel completion channel conversion =>
    have h := obeys_configureChannel (R := Rules.plain library Converter []) (fun _ _ h => h)
      completion channel conversion
    exact Contract.met_of_obeys rfl h hrun
  | start => exact Contract.met_of_obeys rfl obeys_start hrun
  | stop => exact Contract.met_of_obeys rfl obeys_stop hrun
  | isReady =>
    obtain ⟨code, ready, rfl, rfl⟩ := calls_isReady hrun
    by_cases hcode : code = success
    · exact ⟨nofun, fun _ => .inl (.clean (List.forall_mem_singleton.2 hcode) (.inl rfl))⟩
    · refine Contract.met_of_exception rfl ⟨code, ready, rfl, hcode, ?_⟩
      rw [decide_eq_false hcode, Bool.false_and]
  | readData => exact Contract.met_of_obeys rfl obeys_readData hrun
  | readNonBlocking =>
    exact Contract.met_of_obeys rfl (obeys_readNonBlocking List.mem_cons_self) hrun
  | readPin pin => exact ⟨nofun, fun _ => met_readPin hrun⟩
  | readId id =>
    refine Contract.met_of_guard rfl ?_ ?_
    · intro hid
      have hthrow : readId budget id = throw (.invalidPin id) := by
        rw [readId, Pin.ofId?_eq_none_iff.2 hid]
      simp only [perform, hthrow] at hrun
      exact calls_end_iff.1 hrun
    · intro hid
      obtain ⟨pin, hpin⟩ := Option.ne_none_iff_exists'.1 (hid ∘ Pin.ofId?_eq_none_iff.1)
      have hread : readId budget id = readPin budget pin := by
        rw [readId, hpin]
      simp only [perform, hread] at hrun
      exact met_readPin hrun
  | sample pin => exact ⟨nofun, fun _ => met_readPin hrun⟩
  | withConfig config =>
    obtain ⟨rfl, -⟩ := calls_done_iff.1 hrun
    exact Contract.met_of_silent rfl rfl
  | withDebug sink =>
    obtain ⟨_, later⟩ := calls_debug_iff.1 hrun
    obtain ⟨rfl, -⟩ := calls_done_iff.1 later
    exact Contract.met_of_silent rfl rfl

end BoardSupport.Converter
