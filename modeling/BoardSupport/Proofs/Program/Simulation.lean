import BoardSupport.Proofs.Program.Course
import BoardSupport.Proofs.Program.Execution
import Mathlib.Data.List.Forall2

/-!
# One machine by way of another

A program for one machine runs on another one if each of its calls is carried out there, by calls
of the other kind.  If that keeps the states of the two machines in a relation, then it does so for
whole programs (`Program.Executes.simulated`), and what relates single commands relates whole
sessions (`Machine.sessions_related`).

Surroundings that answer every call are a machine that never stops (`unfailing`).
-/

namespace BoardSupport

open Program (Executes)

variable {C I J : Interface} {σ τ φ ψ ω α : Type}

/-- Surroundings as a machine; it never stops. -/
def unfailing (h : Surroundings I ω) : Machine I ω Empty := fun c w => .ok (h c w)

/-- On such a machine every program comes to its end. -/
theorem executes_unfailing (h : Surroundings I ω) (p : Program I α) (w : ω) :
    ∃ a es v, Executes (unfailing h) w p es a v := by
  induction p generalizing w with
  | done a => exact ⟨a, [], w, .done w a⟩
  | call c next ih =>
    obtain ⟨a, es, v, hlater⟩ := ih (h c w).1 (h c w).2
    exact ⟨a, _, v, .call rfl hlater⟩

/-- Calls `es` are carried out by calls `us`: each by some of them, one after another. -/
inductive Images (Image : Event I → List (Event J) → Prop) :
    List (Event I) → List (Event J) → Prop
  | nil : Images Image [] []
  | cons {e : Event I} {es : List (Event I)} {us vs : List (Event J)} (first : Image e us)
      (later : Images Image es vs) : Images Image (e :: es) (us ++ vs)

/-- Every call of machine `m` is carried out on machine `k`, with the same reply. -/
def Simulation (m : Machine I σ φ) (k : Machine J τ ψ) (via : Handler I (Program J))
    (R : σ → τ → Prop) (Image : Event I → List (Event J) → Prop) : Prop :=
  ∀ {s t : σ} {u : τ} {c : I.Call} {r : I.Reply c}, R s u → (m c).run s = .ok (r, t) →
    ∃ us v, Executes k u (via c) us r v ∧ Image ⟨c, r⟩ (us.map Prod.fst) ∧ R t v

theorem Images.exists_image {Image : Event I → List (Event J) → Prop} {es : List (Event I)}
    {us : List (Event J)} (h : Images Image es us) {u : Event J} (hu : u ∈ us) :
    ∃ e part, Image e part ∧ u ∈ part := by
  induction h with
  | nil => cases hu
  | cons first _ ih =>
    rcases List.mem_append.1 hu with hu | hu
    · exact ⟨_, _, first, hu⟩
    · exact ih hu

section Simulation

variable {m : Machine I σ φ} {k : Machine J τ ψ} {via : Handler I (Program J)} {R : σ → τ → Prop}
  {Image : Event I → List (Event J) → Prop}

/-- What holds of calls is carried over to whole programs. -/
theorem Program.Executes.simulated {s t : σ} {u : τ} {p : Program I α} {es : History I σ} {a : α}
    (hsim : Simulation m k via R Image) (e : Executes m s p es a t) (h : R s u) :
    ∃ us v, Executes k u (p.interpret via) us a v ∧
      Images Image (es.map Prod.fst) (us.map Prod.fst) ∧ R t v := by
  induction e generalizing u with
  | done s a => exact ⟨[], u, .done u a, .nil, h⟩
  | call answered _ ih =>
    obtain ⟨us, v, hfirst, himage, hv⟩ := hsim h answered
    obtain ⟨vs, w, hlater, himages, hw⟩ := ih hv
    refine ⟨us ++ vs, w, hfirst.bind hlater, ?_, hw⟩
    rw [List.map_append]
    exact .cons himage himages

end Simulation

/-- If every command comes to its end on both machines, from states that are related and in states
that are related again, then so do sessions. -/
theorem Machine.sessions_related {m : Machine I σ φ} {k : Machine J τ ψ}
    {driver : Handler C (Program I)} {other : Handler C (Program J)} {R : σ → τ → Prop}
    {Q : Transition C I σ → Transition C J τ → Prop}
    (each : ∀ c s u, R s u → ∃ r es t us v, Executes m s (driver c) es r t ∧
      Executes k u (other c) us r v ∧ R t v ∧ Q ⟨c, s, r, es, t⟩ ⟨c, u, r, us, v⟩)
    (cs : List C.Call) {s : σ} {u : τ} (h : R s u) :
    ∃ ds t fs v, m.session driver cs s = .ok (ds, t) ∧ k.session other cs u = .ok (fs, v) ∧
      List.Forall₂ Q ds fs ∧ R t v := by
  induction cs generalizing s u with
  | nil => exact ⟨[], s, [], u, rfl, rfl, .nil, h⟩
  | cons c cs ih =>
    obtain ⟨r, es, t, us, v, hrun, hother, hv, hQ⟩ := each c s u h
    obtain ⟨ds, t', fs, v', hds, hfs, hall, hlast⟩ := ih hv
    refine ⟨_ :: ds, t', _ :: fs, v', ?_, ?_, .cons hQ hall, hlast⟩
    · rw [Machine.session_cons hrun, hds]
      rfl
    · rw [Machine.session_cons hother, hfs]
      rfl

end BoardSupport
