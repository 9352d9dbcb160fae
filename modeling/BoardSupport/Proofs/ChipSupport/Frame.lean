import BoardSupport.ChipSupport.Runs
import BoardSupport.Proofs.ChipSupport.FailFast
import BoardSupport.Proofs.ChipSupport.Session

/-!
# What an operation leaves alone

Most operations of a driver have nothing to do with a given part of its state, nor with a given
entry point.  `Leaves` says so for all runs, and follows the way in which operations are built, so
that a statement about the handle, say, has to look only at the few operations that touch it.
`Stateless` says the same about the whole state, and also that nothing depends on it; `Ignores` says
both of what a change `g` of the state can reach.
-/

namespace BoardSupport.ChipSupport

variable {I C : Interface} {L : Library} {σ τ γ ε ε' α β : Type}

/-- Whatever is answered, the computation makes only allowed calls, and leaves a part of the
driver's state as it was. -/
def Leaves (Allowed : L.Call → Prop) (part : σ → γ) (x : StateT σ L.Task α) : Prop :=
  ∀ s es a t, Program.Runs (x.run s) es (a, t) → (∀ e ∈ es, Allowed e.call) ∧ part t = part s

theorem runs_run_bind_iff {x : StateT σ (Program I) α} {f : α → StateT σ (Program I) β} {s t : σ}
    {b : β} {es : List (Event I)} :
    Program.Runs ((x >>= f).run s) es (b, t) ↔ ∃ es₁ a u es₂, es = es₁ ++ es₂ ∧
      Program.Runs (x.run s) es₁ (a, u) ∧ Program.Runs ((f a).run u) es₂ (b, t) := by
  rw [StateT.run_bind, Program.runs_bind_iff]
  constructor
  · rintro ⟨es₁, ⟨a, u⟩, es₂, hes, h₁, h₂⟩
    exact ⟨es₁, a, u, es₂, hes, h₁, h₂⟩
  · rintro ⟨es₁, a, u, es₂, hes, h₁, h₂⟩
    exact ⟨es₁, (a, u), es₂, hes, h₁, h₂⟩

theorem runs_end_iff {a a' : α} {s t : σ} {es : List (Event I)} :
    Program.Runs (.done (a', s) : Program I (α × σ)) es (a, t) ↔ es = [] ∧ a = a' ∧ t = s := by
  rw [Program.runs_done_iff, Prod.mk.injEq]

namespace Leaves

variable {Allowed : L.Call → Prop} {part : σ → γ} {x : StateT σ L.Task α}
  {f : α → StateT σ L.Task β}

theorem pure (a : α) : Leaves Allowed part (pure a : StateT σ L.Task α) := by
  intro s es b t h
  obtain ⟨rfl, -, rfl⟩ := runs_end_iff.1 h
  exact ⟨List.forall_mem_nil _, rfl⟩

theorem bind (hx : Leaves Allowed part x) (hf : ∀ a, Leaves Allowed part (f a)) :
    Leaves Allowed part (x >>= f) := by
  intro s es b t h
  obtain ⟨es₁, a, u, es₂, rfl, h₁, h₂⟩ := runs_run_bind_iff.1 h
  obtain ⟨hes₁, hu⟩ := hx s es₁ a u h₁
  obtain ⟨hes₂, ht⟩ := hf a u es₂ b t h₂
  exact ⟨List.forall_mem_append.2 ⟨hes₁, hes₂⟩, ht.trans hu⟩

theorem access {a : L.Access} (ha : Allowed (.access a)) :
    Leaves Allowed part (StateT.lift (access a) : StateT σ L.Task (L.Answer a)) := by
  intro s es b t h
  obtain ⟨answer, later, rfl, hend⟩ := Program.runs_call_iff.1 h
  obtain ⟨rfl, -, rfl⟩ := runs_end_iff.1 hend
  exact ⟨List.forall_mem_singleton.2 ha, rfl⟩

theorem leftover (hleftover : Allowed .leftover) :
    Leaves Allowed part (StateT.lift leftover : StateT σ L.Task (List UInt16)) := by
  intro s es b t h
  obtain ⟨stored, later, rfl, hend⟩ := Program.runs_call_iff.1 h
  obtain ⟨rfl, -, rfl⟩ := runs_end_iff.1 hend
  exact ⟨List.forall_mem_singleton.2 hleftover, rfl⟩

theorem debug {call : DebugCall} (hcall : Allowed (.debug call)) :
    Leaves Allowed part (StateT.lift (debug call) : StateT σ L.Task call.Reply) := by
  intro s es b t h
  obtain ⟨answer, later, rfl, hend⟩ := Program.runs_call_iff.1 h
  obtain ⟨rfl, -, rfl⟩ := runs_end_iff.1 hend
  exact ⟨List.forall_mem_singleton.2 hcall, rfl⟩

theorem modify {g : σ → σ} (hg : ∀ s, part (g s) = part s) :
    Leaves Allowed part (modify g : StateT σ L.Task PUnit) := by
  intro s es a t h
  obtain ⟨rfl, -, rfl⟩ := runs_end_iff.1 h
  exact ⟨List.forall_mem_nil _, hg s⟩

end Leaves

namespace Action

variable {Allowed : L.Call → Prop} {part : σ → γ} {x : Action L σ ε α}

theorem leaves_bind {f : α → Action L σ ε β} (hx : Leaves Allowed part x.run)
    (hf : ∀ a, Leaves Allowed part (f a).run) : Leaves Allowed part (x >>= f).run := by
  rw [run_bind]
  refine hx.bind fun r => ?_
  cases r with
  | ok a => exact hf a
  | error e => exact .pure _

theorem leaves_adapt {g : ε → ε'} (hx : Leaves Allowed part x.run) :
    Leaves Allowed part (x.adapt g).run := by
  rw [run_adapt]
  refine hx.bind fun r => ?_
  cases r with
  | ok a => exact .pure _
  | error e => exact .pure _

theorem leaves_get : Leaves Allowed part (get : Action L σ ε σ).run := by
  intro s es a t h
  obtain ⟨rfl, -, rfl⟩ := runs_end_iff.1 h
  exact ⟨List.forall_mem_nil _, rfl⟩

theorem leaves_modify {g : σ → σ} (hg : ∀ s, part (g s) = part s) :
    Leaves Allowed part (modify g : Action L σ ε PUnit).run := by
  intro s es a t h
  obtain ⟨rfl, -, rfl⟩ := runs_end_iff.1 h
  exact ⟨List.forall_mem_nil _, hg s⟩

theorem leaves_lift {y : StateT σ L.Task α} (hy : Leaves Allowed part y) :
    Leaves Allowed part (liftM y : Action L σ ε α).run := by
  rw [run_lift]
  exact hy.bind fun _ => .pure _

theorem forall_mem_messageCalls [Build] {line : String} (hline : Allowed (.debug (.line line)))
    (said : Except WriteError Unit) :
    ∀ e ∈ messageCalls (L := L) line said, Allowed e.call := by
  unfold messageCalls
  cases Build.debugMessages with
  | false => exact List.forall_mem_nil _
  | true => exact List.forall_mem_singleton.2 hline

theorem leaves_report [Build] {line : String} {e : ε} (hline : Allowed (.debug (.line line))) :
    Leaves Allowed part (report line e : Action L σ ε α).run := by
  intro s es a t h
  obtain ⟨⟨said, rfl⟩, -, rfl⟩ := runs_report_iff.1 h
  exact ⟨forall_mem_messageCalls hline said, rfl⟩

theorem leaves_throw {e : ε} : Leaves Allowed part (throw e : Action L σ ε α).run :=
  .pure _

theorem leaves_request {r : L.Request} (hr : Allowed (.request r)) :
    Leaves Allowed part (request r : Action L σ Error (L.Value r)).run := by
  intro s es a t h
  obtain ⟨rfl, rfl⟩ := runs_request_iff.1 h
  exact ⟨List.forall_mem_singleton.2 hr, rfl⟩

theorem leaves_attempt [Build] {line : String} {r : L.Request} (hr : Allowed (.request r))
    (hline : Allowed (.debug (.line line))) :
    Leaves Allowed part (attempt line r : Action L σ Error (L.Value r)).run := by
  intro s es a t h
  obtain ⟨⟨said, rfl⟩, rfl⟩ := runs_attempt_iff.1 h
  refine ⟨?_, rfl⟩
  cases a with
  | ok v => exact List.forall_mem_singleton.2 hr
  | error e => exact List.forall_mem_cons.2 ⟨hr, forall_mem_messageCalls hline said⟩

theorem leaves_thenAlways {after : StateT σ L.Task Unit} (hx : Leaves Allowed part x.run)
    (hafter : Leaves Allowed part after) : Leaves Allowed part (thenAlways x after).run :=
  hx.bind fun _ => hafter.bind fun _ => .pure _

/-- Dropping how an action ends drops nothing else. -/
theorem runs_regardless_iff {s t : σ} {es : List (Event L.interface)} {a : Unit} :
    Program.Runs ((regardless x).run s) es (a, t) ↔ ∃ r, x.Runs s es r t := by
  have hrun : (regardless x).run s = x.program s >>= fun r => .done ((), r.2) := rfl
  rw [hrun, Program.runs_bind_iff]
  constructor
  · rintro ⟨es₁, ⟨r, u⟩, es₂, rfl, hx, hend⟩
    obtain ⟨rfl, -, rfl⟩ := runs_end_iff.1 hend
    rw [List.append_nil]
    exact ⟨r, hx⟩
  · rintro ⟨r, hx⟩
    exact ⟨es, (r, t), [], (List.append_nil es).symm, hx, .done _⟩

theorem leaves_regardless (hx : Leaves Allowed part x.run) :
    Leaves Allowed part (regardless x) := by
  intro s es a t h
  obtain ⟨r, hr⟩ := runs_regardless_iff.1 h
  exact hx s es r t hr

end Action

/-! ## Computations that have nothing to do with the state -/

/-- The computation neither reads nor changes the driver's state: from any two states it is the same
program, and it ends where it began. -/
def Stateless (x : StateT σ L.Task α) : Prop :=
  ∀ s t, x.run s = x.run t >>= fun r => .done (r.1, s)

namespace Stateless

variable {x : StateT σ L.Task α}

theorem pure (a : α) : Stateless (pure a : StateT σ L.Task α) := fun _ _ => rfl

theorem lift (p : L.Task α) : Stateless (StateT.lift p : StateT σ L.Task α) := by
  intro s t
  show (p >>= fun a => .done (a, s)) = (p >>= fun a => .done (a, t)) >>= _
  rw [Program.bind_assoc]
  rfl

theorem bind {f : α → StateT σ L.Task β} (hx : Stateless x) (hf : ∀ a, Stateless (f a)) :
    Stateless (x >>= f) := by
  intro s t
  calc (x >>= f).run s
      = (x.run t >>= fun r => .done (r.1, s)) >>= fun r => (f r.1).run r.2 := by
        rw [StateT.run_bind, hx s t]
    _ = x.run t >>= fun r => (f r.1).run s := by
        rw [Program.bind_assoc]
        rfl
    _ = x.run t >>= fun r => (f r.1).run r.2 >>= fun r' => .done (r'.1, s) := by
        congr 1
        funext r
        exact hf r.1 s r.2
    _ = (x >>= f).run t >>= fun r => .done (r.1, s) := by
        rw [StateT.run_bind, Program.bind_assoc]

theorem map {f : α → β} (hx : Stateless x) : Stateless (f <$> x) := by
  rw [map_eq_pure_bind]
  exact hx.bind fun _ => pure _

/-- Wherever the driver starts, the surroundings see the same calls, and the driver stays there. -/
theorem course_eq {ω : Type} (hx : Stateless x) (k : Surroundings L.interface ω) (w : ω) (s t : σ) :
    (x.run s).course k w =
      ⟨((x.run t).course k w).calls, (((x.run t).course k w).result.1, s),
        ((x.run t).course k w).state⟩ := by
  rw [hx s t, Program.course_bind, Program.course_done, Course.behind_end]

end Stateless

namespace Action

theorem stateless_bind {x : Action L σ ε α} {f : α → Action L σ ε β} (hx : Stateless x.run)
    (hf : ∀ a, Stateless (f a).run) : Stateless (x >>= f).run := by
  rw [run_bind]
  refine hx.bind fun r => ?_
  cases r with
  | ok a => exact hf a
  | error e => exact .pure _

theorem stateless_adapt {g : ε → ε'} {x : Action L σ ε α} (hx : Stateless x.run) :
    Stateless (x.adapt g).run := by
  rw [run_adapt]
  refine hx.bind fun r => ?_
  cases r with
  | ok a => exact .pure _
  | error e => exact .pure _

theorem stateless_report [Build] (line : String) (e : ε) :
    Stateless (report line e : Action L σ ε α).run :=
  (Stateless.lift _).bind fun _ => .pure _

theorem stateless_attempt [Build] (line : String) (r : L.Request) :
    Stateless (attempt line r : Action L σ Error (L.Value r)).run := by
  rw [attempt, logFailure, run_tryCatch]
  refine (Stateless.lift _).bind fun reply => ?_
  cases reply with
  | ok v => exact .pure _
  | error e => exact stateless_report line e

end Action

/-! ## Computations that do not look at a part of the state -/

/-- After the change `g` of the driver's state the computation does what it does without it, and it
keeps the change. -/
def Ignores (g : σ → σ) (x : StateT σ L.Task α) : Prop :=
  ∀ s, x.run (g s) = x.run s >>= fun r => .done (r.1, g r.2)

variable {g : σ → σ}

theorem Stateless.ignores {x : StateT σ L.Task α} (hx : Stateless x) (g : σ → σ) : Ignores g x := by
  intro s
  calc x.run (g s)
      = x.run s >>= fun r => .done (r.1, g s) := hx (g s) s
    _ = (x.run s >>= fun r => .done (r.1, s)) >>= fun r => .done (r.1, g r.2) := by
        rw [Program.bind_assoc]
        rfl
    _ = x.run s >>= fun r => .done (r.1, g r.2) := by rw [← hx s s]

namespace Ignores

variable {x : StateT σ L.Task α}

theorem bind {f : α → StateT σ L.Task β} (hx : Ignores g x) (hf : ∀ a, Ignores g (f a)) :
    Ignores g (x >>= f) := by
  intro s
  calc (x >>= f).run (g s)
      = (x.run s >>= fun r => .done (r.1, g r.2)) >>= fun r => (f r.1).run r.2 := by
        rw [StateT.run_bind, hx s]
    _ = x.run s >>= fun r => (f r.1).run (g r.2) := by
        rw [Program.bind_assoc]
        rfl
    _ = x.run s >>= fun r => (f r.1).run r.2 >>= fun r' => .done (r'.1, g r'.2) := by
        congr 1
        funext r
        exact hf r.1 r.2
    _ = (x >>= f).run s >>= fun r => .done (r.1, g r.2) := by
        rw [StateT.run_bind, Program.bind_assoc]

theorem modify {h : σ → σ} (hg : ∀ s, h (g s) = g (h s)) :
    Ignores g (modify h : StateT σ L.Task PUnit) := by
  intro s
  show Program.done (PUnit.unit, h (g s)) = .done (PUnit.unit, g (h s))
  rw [hg]

/-- The surroundings cannot tell whether the state was changed. -/
theorem course_eq {ω : Type} (hx : Ignores g x) (k : Surroundings L.interface ω) (w : ω) (s : σ) :
    (x.run (g s)).course k w =
      ⟨((x.run s).course k w).calls,
        (((x.run s).course k w).result.1, g ((x.run s).course k w).result.2),
        ((x.run s).course k w).state⟩ := by
  rw [hx s, Program.course_bind, Program.course_done, Course.behind_end]

end Ignores

namespace Action

theorem ignores_bind {x : Action L σ ε α} {f : α → Action L σ ε β} (hx : Ignores g x.run)
    (hf : ∀ a, Ignores g (f a).run) : Ignores g (x >>= f).run := by
  rw [run_bind]
  refine hx.bind fun r => ?_
  cases r with
  | ok a => exact hf a
  | error e => exact (Stateless.pure _).ignores g

/-- What follows may look at the state, but not at what `g` changes. -/
theorem ignores_get_bind {f : σ → Action L σ ε β} (hg : ∀ s, f (g s) = f s)
    (hf : ∀ s, Ignores g (f s).run) : Ignores g (get >>= f : Action L σ ε β).run := by
  intro s
  show (f (g s)).run.run (g s) = (f s).run.run s >>= _
  rw [hg]
  exact hf s s

theorem ignores_modify {h : σ → σ} (hg : ∀ s, h (g s) = g (h s)) :
    Ignores g (modify h : Action L σ ε PUnit).run :=
  (Ignores.modify hg).bind fun _ => (Stateless.pure _).ignores g

theorem ignores_thenAlways {x : Action L σ ε α} {after : StateT σ L.Task Unit}
    (hx : Ignores g x.run) (hafter : Ignores g after) : Ignores g (thenAlways x after).run :=
  hx.bind fun _ => hafter.bind fun _ => (Stateless.pure _).ignores g

end Action

/-- A turn of a command that ignores a change of the driver's state is the same after the change. -/
theorem Session.turn_of_ignores (d : Device L τ) {driver : Handler C (StateT σ L.Task)} {c : C.Call}
    (hc : Ignores g (driver c)) (s : Session σ τ) :
    (performer d driver).turn c { s with driver := g s.driver } =
      { (performer d driver).turn c s with
        before := { s with driver := g s.driver }
        after := { ((performer d driver).turn c s).after with
          driver := g ((performer d driver).turn c s).after.driver } } := by
  have hcourse : Session.course d driver c { s with driver := g s.driver } = _ :=
    hc.course_eq d.handler (s.device, s.console) s.driver
  rw [Session.turn_eq, Session.turn_eq, hcourse]
  rfl

end BoardSupport.ChipSupport
