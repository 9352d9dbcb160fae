import BoardSupport.ClockGenerator.Basic
import BoardSupport.CountdownTimer.Basic
import BoardSupport.Proofs.ChipSupport.FailFast
import BoardSupport.Watchdog.Basic

/-!
# The clock generator and the timers are fail-fast

The one exception is making the clock generator's driver: it stops at the first failure as well, but
has no way to hand an error back, and leaves the handle unmapped instead.  From then on every
operation is refused.

The countdown timers and the watchdog have nothing to work on before they are selected or opened;
commands that come too early are refused without an error.
-/

namespace BoardSupport

open ChipSupport (Calls Contract FailFast LibraryCall Rules Verdict calls_bind_iff calls_end_iff
  calls_run_bind_iff outcome)
open ChipSupport.Action (Obeys)

/-- How an answer reads that is missing where there is nothing to work on. -/
def optionalVerdict {α : Type} (read : α → Verdict) : Option α → Verdict
  | none => .refused
  | some a => read a

namespace ClockGenerator

/-- What the clock generator's commands are held to: with an unmapped handle they are refused, and a
driver whose making failed has an unmapped handle. -/
def contract : Contract commands ClockGenerator library where
  refusal s
    | .create => none
    | .configure _ => if s.handle.isMapped = false then some (.error .badHandle) else none
    | .readConfig => if s.handle.isMapped = false then some (.error .badHandle) else none
    | .systemKilohertz | .setUp _ =>
      if s.handle.isMapped = false then some (.error .badHandle) else none
  verdict
    | .create, _ => .success
    | .configure _, answer => outcome ChipSupport.Error.verdict answer
    | .readConfig, answer => outcome ChipSupport.Error.verdict answer
    | .systemKilohertz, answer | .setUp _, answer => outcome ChipSupport.Error.verdict answer
  allowed _ := []
  Exception _
    | .create, (_, t), cs => t.handle = .unmapped ∧ ∃ before last, cs = before ++ [last] ∧
      (∀ x ∈ before, x.status = ChipSupport.success) ∧ last.status ≠ ChipSupport.success
    | _, _, _ => False

/-- The operation is refused with an unmapped handle. -/
def Refuses {α : Type} (act : Action α) : Prop :=
  ∀ s cs r t, s.handle.isMapped = false → Calls (act.run.run s) cs (r, t) →
    cs = [] ∧ r = .error .badHandle ∧ t = s

theorem refuses_requireMapped : Refuses requireMapped := by
  intro s cs r t hs h
  have hrun : requireMapped.run.run s = .done (.error .badHandle, s) := by
    show ((if s.handle.isMapped then pure () else throw .badHandle : Action Unit)).run.run s = _
    rw [hs]
    rfl
  rw [hrun] at h
  obtain ⟨rfl, rfl, rfl⟩ := calls_end_iff.1 h
  exact ⟨rfl, rfl, rfl⟩

/-- What follows a refusal is not reached. -/
theorem Refuses.bind {α β : Type} {act : Action α} {f : α → Action β} (h : Refuses act) :
    Refuses (act >>= f) := by
  intro s cs r t hs hrun
  rw [ChipSupport.Action.run_bind] at hrun
  obtain ⟨cs₁, r₁, u, cs₂, rfl, h₁, h₂⟩ := calls_run_bind_iff.1 hrun
  obtain ⟨rfl, rfl, rfl⟩ := h s cs₁ r₁ u hs h₁
  obtain ⟨rfl, rfl, rfl⟩ := calls_end_iff.1 h₂
  exact ⟨rfl, rfl, rfl⟩

/-- The rule for operations with a mapped handle. -/
abbrev rules : Rules library ClockGenerator :=
  Rules.keeping library (fun s => s.handle.isMapped = true) []

theorem obeys_requireMapped : requireMapped.Obeys rules ChipSupport.Error.verdict := by
  intro s cs r t hs h
  have hrun : requireMapped.run.run s = .done (.ok (), s) := by
    show ((if s.handle.isMapped then pure () else throw .badHandle : Action Unit)).run.run s = _
    rw [hs]
    rfl
  rw [hrun] at h
  obtain ⟨rfl, rfl, rfl⟩ := calls_end_iff.1 h
  exact ⟨hs, .silent (.inl rfl)⟩

theorem obeys_request {R : Rules library ClockGenerator} (r : Request) :
    (request r).Obeys R ChipSupport.Error.verdict :=
  ChipSupport.obeys_request (L := library) r

theorem obeys_bringUp {R : Rules library ClockGenerator} :
    bringUp.Obeys R ChipSupport.Error.verdict := by
  refine (obeys_request .init).bind fun bank => ?_
  refine (obeys_request .reset).bind fun _ => ?_
  exact Obeys.pure bank

theorem obeys_configure (config : Config) :
    (configure config).Obeys rules ChipSupport.Error.verdict :=
  obeys_requireMapped.bind fun _ => obeys_request (.configure config)

theorem obeys_readConfig : readConfig.Obeys rules ChipSupport.Error.verdict :=
  obeys_requireMapped.bind fun _ => obeys_request .readConfig

theorem obeys_input {R : Rules library ClockGenerator} :
    Obeys R ChipSupport.Error.verdict (liftM input : Action Input) :=
  Obeys.lift (ChipSupport.Obeys.access (L := library) .input)

theorem obeys_systemKilohertz : systemKilohertz.Obeys rules ChipSupport.Error.verdict := by
  refine obeys_readConfig.bind fun config => ?_
  refine obeys_input.bind fun clock => ?_
  exact Obeys.pure _

theorem obeys_setUp (speed : Speed) : (setUp speed).Obeys rules ChipSupport.Error.verdict := by
  refine obeys_requireMapped.bind fun _ => ?_
  refine obeys_input.bind fun clock => ?_
  refine (obeys_request _).bind fun _ => ?_
  refine (obeys_request (.configure (speed.preset clock))).bind fun _ => ?_
  refine (obeys_request .enable).bind fun _ => ?_
  exact Obeys.pure _

/-- Making the driver either makes no call that fails, or stops at the first one and leaves the
handle unmapped. -/
theorem met_create {s t : ClockGenerator} {cs : List (LibraryCall library)}
    (h : Calls (create.run s) cs ((), t)) : contract.Met s .create ((), t) cs := by
  rw [create] at h
  obtain ⟨cs₁, r, u, cs₂, rfl, h₁, h₂⟩ := calls_run_bind_iff.1 h
  have hends := (obeys_bringUp (R := Rules.plain library _ []) s cs₁ r u trivial h₁).2
  cases r with
  | ok bank =>
    obtain ⟨rfl, hend⟩ := ChipSupport.calls_done_iff.1 h₂
    rw [List.append_nil]
    exact ⟨nofun, fun _ => .inl (.clean hends.clean (.inl rfl))⟩
  | error e =>
    obtain ⟨rfl, -, rfl⟩ := calls_end_iff.1 h₂
    rw [List.append_nil]
    cases hends.failFast with
    | clean _ hv =>
      rcases hv with hv | hv
      · cases hv
      · cases hv
    | stopped before last hcs hbefore hlast _ =>
      exact Contract.met_of_exception rfl ⟨rfl, before, last, hcs, hbefore, hlast⟩

theorem contract_holds : contract.Holds perform := by
  refine Contract.holds_of_calls fun s c cs answer t hrun => ?_
  cases c with
  | create => exact met_create hrun
  | configure config =>
    exact Contract.met_of_guard rfl (refuses_requireMapped.bind s cs answer t · hrun) fun hs =>
      .inl (obeys_configure config s cs answer t (Bool.of_not_eq_false hs) hrun).2.failFast
  | readConfig =>
    exact Contract.met_of_guard rfl (refuses_requireMapped.bind s cs answer t · hrun) fun hs =>
      .inl (obeys_readConfig s cs answer t (Bool.of_not_eq_false hs) hrun).2.failFast
  | systemKilohertz =>
    exact Contract.met_of_guard rfl (refuses_requireMapped.bind.bind s cs answer t · hrun) fun hs =>
      .inl (obeys_systemKilohertz s cs answer t (Bool.of_not_eq_false hs) hrun).2.failFast
  | setUp speed =>
    exact Contract.met_of_guard rfl (refuses_requireMapped.bind s cs answer t · hrun) fun hs =>
      .inl (obeys_setUp speed s cs answer t (Bool.of_not_eq_false hs) hrun).2.failFast

end ClockGenerator

namespace CountdownTimer

/-- What the countdown timers' commands are held to: all but the selection need a selected timer. -/
def contract : Contract commands Bench library where
  refusal s
    | .select _ => none
    | .configure _ | .setPeriod _ | .start | .stop | .close => if s = none then some none else none
    | .count => if s = none then some none else none
    | .clearInterrupts => if s = none then some none else none
  verdict
    | .select _, answer => outcome ChipSupport.Error.verdict answer
    | .configure _, answer | .setPeriod _, answer | .start, answer | .stop, answer
    | .close, answer => optionalVerdict (outcome ChipSupport.Error.verdict) answer
    | .count, answer => optionalVerdict (outcome ChipSupport.Error.verdict) answer
    | .clearInterrupts, answer => optionalVerdict (fun _ => .success) answer
  allowed _ := []
  Exception _ _ _ _ := False

section Pieces

variable {R : Rules library CountdownTimer}

theorem obeys_call (op : Operation) : (call op).Obeys R ChipSupport.Error.verdict :=
  Obeys.get.bind fun s => ChipSupport.obeys_request (L := library) ⟨s.timer, op⟩

theorem obeys_configure (config : Config) :
    (configure config).Obeys R ChipSupport.Error.verdict :=
  obeys_call (.configure config.image)

theorem obeys_stop : stop.Obeys R ChipSupport.Error.verdict :=
  (obeys_call .stop).bind fun _ => obeys_call .reset

theorem obeys_close (hR : ∀ s, R.Kept s) : close.Obeys R ChipSupport.Error.verdict :=
  (obeys_call .close).bind fun _ => Obeys.modify fun _ _ => hR _

theorem obeys_select {R : Rules library Bench} (hR : ∀ s, R.Kept s) (timer : Instance) :
    (select timer).Obeys R ChipSupport.Error.verdict := by
  refine (Obeys.set (hR _)).bind fun _ => ?_
  refine (ChipSupport.obeys_request (L := library) ⟨timer, .openTimer⟩).bind fun handle => ?_
  refine (ChipSupport.obeys_request (L := library) ⟨timer, .reset⟩).bind fun _ => ?_
  exact Obeys.set (hR _)

end Pieces

section Selected

variable {α : Type} {act : StateT CountdownTimer library.Task α} {s t : Bench} {answer : Option α}
  {cs : List (LibraryCall library)}

/-- Without a timer nothing happens. -/
theorem calls_onSelected_none (hs : s = none) (h : Calls ((onSelected act).run s) cs (answer, t)) :
    cs = [] ∧ answer = none ∧ t = s := by
  subst hs
  exact calls_end_iff.1 h

/-- With one the operation is performed. -/
theorem failFast_onSelected {read : α → Verdict}
    (hact : ChipSupport.Obeys (Rules.plain library CountdownTimer []) read act) (hs : ¬ s = none)
    (h : Calls ((onSelected act).run s) cs (answer, t)) :
    FailFast [] cs (optionalVerdict read answer) := by
  cases s with
  | none => exact absurd rfl hs
  | some s =>
    have hrun : (onSelected act).run (some s) =
        act.run s >>= fun p => .done (some p.1, some p.2) := rfl
    rw [hrun, calls_bind_iff] at h
    obtain ⟨cs₁, ⟨a, u⟩, cs₂, rfl, h₁, h₂⟩ := h
    obtain ⟨rfl, rfl, -⟩ := calls_end_iff.1 h₂
    rw [List.append_nil]
    exact (hact s cs₁ a u trivial h₁).2.failFast

end Selected

theorem contract_holds : contract.Holds perform := by
  refine Contract.holds_of_calls fun s c cs answer t hrun => ?_
  cases c with
  | select timer => exact Contract.met_of_obeys rfl (obeys_select (fun _ => trivial) timer) hrun
  | configure config =>
    exact Contract.met_of_guard rfl (calls_onSelected_none · hrun) fun hs =>
      .inl (failFast_onSelected (obeys_configure config) hs hrun)
  | setPeriod period =>
    exact Contract.met_of_guard rfl (calls_onSelected_none · hrun) fun hs =>
      .inl (failFast_onSelected (obeys_configure (.periodic period)) hs hrun)
  | start =>
    exact Contract.met_of_guard rfl (calls_onSelected_none · hrun) fun hs =>
      .inl (failFast_onSelected (obeys_call .start) hs hrun)
  | stop =>
    exact Contract.met_of_guard rfl (calls_onSelected_none · hrun) fun hs =>
      .inl (failFast_onSelected obeys_stop hs hrun)
  | count =>
    exact Contract.met_of_guard rfl (calls_onSelected_none · hrun) fun hs =>
      .inl (failFast_onSelected (obeys_call .count) hs hrun)
  | close =>
    exact Contract.met_of_guard rfl (calls_onSelected_none · hrun) fun hs =>
      .inl (failFast_onSelected (obeys_close fun _ => trivial) hs hrun)
  | clearInterrupts =>
    exact Contract.met_of_guard rfl (calls_onSelected_none · hrun) fun hs =>
      .inl (failFast_onSelected (ChipSupport.Obeys.access (L := library) .clearInterrupts) hs hrun)

end CountdownTimer

namespace Watchdog

/-- The watchdog is open but has no settings yet. -/
def isUnconfigured : Watchdog → Bool
  | unconfigured _ => true
  | absent | configured _ => false

/-- The watchdog can run. -/
def isConfigured : Watchdog → Bool
  | configured _ => true
  | absent | unconfigured _ => false

/-- What the watchdog's commands are held to: each is refused at the stages that do not offer it. -/
def contract : Contract commands Watchdog library where
  refusal s
    | .openAnew => none
    | .configure _ => if s.isUnconfigured = false then some none else none
    | .start | .service | .stop | .close => if s.isConfigured = false then some none else none
    | .free => if s = .absent then some none else none
  verdict
    | .openAnew, answer => outcome ChipSupport.Error.verdict answer
    | .configure _, answer | .start, answer | .service, answer | .stop, answer | .close, answer =>
      optionalVerdict (outcome ChipSupport.Error.verdict) answer
    | .free, answer => optionalVerdict (fun _ => .success) answer
  allowed _ := []
  Exception _ _ _ _ := False

section Pieces

variable {R : Rules library Watchdog}

theorem obeys_request (r : Request) : (request r).Obeys R ChipSupport.Error.verdict :=
  ChipSupport.obeys_request (L := library) r

theorem obeys_openAnew (hR : ∀ s, R.Kept s) : openAnew.Obeys R ChipSupport.Error.verdict := by
  refine (Obeys.set (hR _)).bind fun _ => ?_
  refine (obeys_request .openTimer).bind fun handle => ?_
  exact Obeys.set (hR _)

theorem obeys_configureOn (hR : ∀ s, R.Kept s) (handle : ChipSupport.Bank) (config : Config) :
    (configureOn handle config).Obeys R ChipSupport.Error.verdict := by
  refine (Obeys.set (hR _)).bind fun _ => ?_
  refine (obeys_request (.configure config)).bind fun _ => ?_
  exact Obeys.set (hR _)

theorem obeys_closeAnyway (hR : ∀ s, R.Kept s) :
    closeAnyway.Obeys R ChipSupport.Error.verdict := by
  refine (Obeys.set (hR _)).bind fun _ => ?_
  exact obeys_request .close

end Pieces

section Configured

variable {act : Action Unit} {s t : Watchdog} {answer : Option (Except ChipSupport.Error Unit)}
  {cs : List (LibraryCall library)}

theorem calls_onConfigured_closed (hs : s.isConfigured = false)
    (h : Calls ((onConfigured act).run s) cs (answer, t)) : cs = [] ∧ answer = none ∧ t = s := by
  cases s with
  | absent | unconfigured handle =>
    exact calls_end_iff.1 h
  | configured handle => cases hs

theorem failFast_onConfigured
    (hact : act.Obeys (Rules.plain library Watchdog []) ChipSupport.Error.verdict)
    (hs : ¬ s.isConfigured = false) (h : Calls ((onConfigured act).run s) cs (answer, t)) :
    FailFast [] cs (optionalVerdict (outcome ChipSupport.Error.verdict) answer) := by
  cases s with
  | absent | unconfigured handle => exact absurd rfl hs
  | configured handle =>
    have hmap : ChipSupport.Obeys (Rules.plain library Watchdog [])
        (optionalVerdict (outcome ChipSupport.Error.verdict)) (some <$> act.run) :=
      hact.map fun _ => rfl
    exact (hmap (.configured handle) cs answer t trivial h).2.failFast

end Configured

theorem contract_holds : contract.Holds perform := by
  refine Contract.holds_of_calls fun s c cs answer t hrun => ?_
  have hkept : ∀ s, (Rules.plain library Watchdog []).Kept s := fun _ => trivial
  cases c with
  | openAnew => exact Contract.met_of_obeys rfl (obeys_openAnew hkept) hrun
  | configure config =>
    refine Contract.met_of_guard rfl ?_ ?_
    · intro hs
      cases s with
      | absent | configured handle =>
        exact calls_end_iff.1 hrun
      | unconfigured handle => cases hs
    · intro hs
      cases s with
      | absent | configured handle => exact absurd rfl hs
      | unconfigured handle =>
        have hmap : ChipSupport.Obeys (Rules.plain library Watchdog [])
            (optionalVerdict (outcome ChipSupport.Error.verdict))
            (some <$> (configureOn handle config).run) :=
          (obeys_configureOn hkept handle config).map fun _ => rfl
        exact .inl (hmap (.unconfigured handle) cs answer t trivial hrun).2.failFast
  | start =>
    exact Contract.met_of_guard rfl (calls_onConfigured_closed · hrun) fun hs =>
      .inl (failFast_onConfigured (obeys_request .start) hs hrun)
  | service =>
    exact Contract.met_of_guard rfl (calls_onConfigured_closed · hrun) fun hs =>
      .inl (failFast_onConfigured (obeys_request .service) hs hrun)
  | stop =>
    exact Contract.met_of_guard rfl (calls_onConfigured_closed · hrun) fun hs =>
      .inl (failFast_onConfigured (obeys_request .stop) hs hrun)
  | close =>
    exact Contract.met_of_guard rfl (calls_onConfigured_closed · hrun) fun hs =>
      .inl (failFast_onConfigured (obeys_closeAnyway hkept) hs hrun)
  | free =>
    refine Contract.met_of_guard rfl ?_ ?_
    · rintro rfl
      exact calls_end_iff.1 hrun
    · intro hs
      cases s with
      | absent => exact absurd rfl hs
      | unconfigured handle | configured handle =>
        obtain ⟨rfl, rfl, -⟩ := calls_end_iff.1 hrun
        exact .inl (.nil (.inl rfl))

end Watchdog

end BoardSupport
