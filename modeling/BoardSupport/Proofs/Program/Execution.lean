import BoardSupport.Program.Handler

/-!
# Executions on a machine

A machine answers calls from a state of its own, or stops at a fault.  A program on a machine has at
most one execution; `Program.Executes` describes it call by call, and a session performs the commands
of a driver one after another.

- `Program.Executes`: the calls a program makes, each with the state in which it is made.
- `Executes.run_interpret`: an execution is what interpretation by the machine computes.
- `Executes.through`: a program that uses one machine by way of another.
- `Machine.session`: commands performed one after another, each with the states around it.
- `Machine.session_follows`: each of them begins in the state that those before it have reached.
- `Machine.session_ok` and `Machine.session_induction`: from single commands to whole sessions.
-/

namespace BoardSupport

/-- Answers the calls of `I` from a state in `σ`, or stops at a fault in `φ`. -/
abbrev Machine (I : Interface) (σ φ : Type) : Type := Handler I (StateT σ (Except φ))

/-- Calls in the order in which they are made, each with the state in which it is made. -/
abbrev History (I : Interface) (σ : Type) : Type := List (Event I × σ)

variable {C I J : Interface} {σ φ α β : Type}

/-- Answers like `m` and notes every call with the state in which it is made. -/
def Machine.traced (m : Machine I σ φ) :
    Handler I (StateT (Array (Event I × σ)) (StateT σ (Except φ))) :=
  m.observed get

namespace Program

/-- From state `s` of machine `m` the program makes the calls of a history, ends in `a`, and leaves
the machine in a last state. -/
inductive Executes (m : Machine I σ φ) : σ → Program I α → History I σ → α → σ → Prop
  /-- A program that has ended makes no calls. -/
  | done (s : σ) (a : α) : Executes m s (.done a) [] a s
  /-- A call is answered by the machine, and the program goes on with the reply. -/
  | call {s t u : σ} {c : I.Call} {r : I.Reply c} {next : I.Reply c → Program I α}
      {es : History I σ} {a : α} (answered : (m c).run s = .ok (r, t))
      (later : Executes m t (next r) es a u) :
      Executes m s (.call c next) ((⟨c, r⟩, s) :: es) a u

namespace Executes

variable {m : Machine I σ φ} {s t u : σ} {p : Program I α} {es es' : History I σ} {a : α} {b : β}

theorem send {c : I.Call} {r : I.Reply c} (answered : (m c).run s = .ok (r, t)) :
    Executes m s (Program.send c) [(⟨c, r⟩, s)] r t :=
  .call answered (.done t r)

theorem bind {f : α → Program I β} (first : Executes m s p es a t)
    (later : Executes m t (f a) es' b u) : Executes m s (p >>= f) (es ++ es') b u := by
  induction first with
  | done s a => exact later
  | call answered _ ih => exact .call answered (ih later)

theorem bind_done (e : Executes m s p es a t) (f : α → β) :
    Executes m s (p >>= fun a => .done (f a)) es (f a) t := by
  have h := e.bind (f := fun a => .done (f a)) (.done t (f a))
  rwa [List.append_nil] at h

/-- An execution is what the traced machine computes. -/
theorem run_interpret (e : Executes m s p es a t) (trace : Array (Event I × σ)) :
    ((p.interpret m.traced).run trace).run s = .ok ((a, trace ++ es), t) := by
  induction e generalizing trace with
  | done s a =>
    rw [interpret_done, Array.appendList_nil]
    rfl
  | @call s t u c r next es a answered _ ih =>
    -- the traced machine answers as the machine does, and notes the call
    have noted : ((m.traced c).run trace).run s = .ok ((r, trace.push (⟨c, r⟩, s)), t) := by
      simp only [Machine.traced, Handler.observed, StateT.run_bind]
      show ((((m c).run s >>= fun x => .ok ((x.1, trace), x.2)) >>= _) : Except φ _) = _
      rw [answered]
      rfl
    rw [interpret_call, StateT.run_bind, StateT.run_bind, noted]
    show ((next r).interpret m.traced |>.run (trace.push (⟨c, r⟩, s))).run t = _
    rw [ih]
    simp

/-- If every call is carried out by `via` on machine `k` with the same reply and the same change of
state, then so is the whole program. -/
theorem through {k : Machine J σ φ} {via : Handler I (Program J)}
    {Allowed : I.Call → Prop} (image : Event I × σ → History J σ)
    (carried : ∀ {s t : σ} {c : I.Call} {r : I.Reply c}, Allowed c →
      (m c).run s = .ok (r, t) → Executes k s (via c) (image (⟨c, r⟩, s)) r t)
    (e : Executes m s p es a t) (allowed : ∀ x ∈ es, Allowed x.1.call) :
    Executes k s (p.interpret via) (es.flatMap image) a t := by
  induction e with
  | done s a => exact .done s a
  | call answered _ ih =>
    rw [interpret_call, List.flatMap_cons]
    refine (carried (allowed _ List.mem_cons_self) answered).bind (ih fun x hx => ?_)
    exact allowed x (List.mem_cons_of_mem _ hx)

end Executes

end Program

/-! ## Sessions -/

/-- A command that was performed on a machine, with the states before and after it. -/
structure Transition (C I : Interface) (σ : Type) where
  /-- The command. -/
  command : C.Call
  /-- The state before it. -/
  before : σ
  /-- Its answer. -/
  answer : C.Reply command
  /-- The calls made for it. -/
  calls : History I σ
  /-- The state after it. -/
  after : σ

namespace Machine

variable {m : Machine I σ φ} {driver : Handler C (Program I)}

/-- Performs commands one after another, unless one of them stops at a fault. -/
def session (m : Machine I σ φ) (driver : Handler C (Program I)) :
    List C.Call → σ → Except φ (List (Transition C I σ) × σ)
  | [], s => .ok ([], s)
  | c :: cs, s => do
    let ((answer, calls), t) ← (((driver c).interpret m.traced).run #[]).run s
    let (later, u) ← session m driver cs t
    pure (⟨c, s, answer, calls.toList, t⟩ :: later, u)

theorem session_cons {c : C.Call} {cs : List C.Call} {s t : σ} {r : C.Reply c} {es : History I σ}
    (first : Program.Executes m s (driver c) es r t) :
    m.session driver (c :: cs) s =
      (m.session driver cs t).map fun (later, u) => (⟨c, s, r, es, t⟩ :: later, u) := by
  rw [session, first.run_interpret #[]]
  show (m.session driver cs t >>= _) = _
  cases m.session driver cs t with
  | error f => rfl
  | ok x => simp [bind, Except.bind, Except.map, pure, Except.pure]

/-- If every command has an execution with a property, then every session comes to its end, and all
of its transitions have the property. -/
theorem session_ok {P : Transition C I σ → Prop}
    (each : ∀ c s, ∃ r es t, Program.Executes m s (driver c) es r t ∧ P ⟨c, s, r, es, t⟩)
    (cs : List C.Call) (s : σ) :
    ∃ ds t, m.session driver cs s = .ok (ds, t) ∧ ds.map Transition.command = cs ∧
      ∀ d ∈ ds, P d := by
  induction cs generalizing s with
  | nil => exact ⟨[], s, rfl, rfl, fun d hd => nomatch hd⟩
  | cons c cs ih =>
    obtain ⟨r, es, t, first, hP⟩ := each c s
    obtain ⟨ds, u, hds, hcs, hall⟩ := ih t
    refine ⟨⟨c, s, r, es, t⟩ :: ds, u, ?_, ?_, ?_⟩
    · rw [session_cons first, hds]
      rfl
    · rw [List.map_cons, hcs]
    · intro d hd
      rcases List.mem_cons.1 hd with rfl | hd
      · exact hP
      · exact hall d hd

/-- Each transition of a session starts where the one before it ended. -/
theorem session_induction {motive : σ → List (Transition C I σ) → σ → Prop}
    (stop : ∀ s, motive s [] s)
    (go : ∀ d ds t, motive d.after ds t → motive d.before (d :: ds) t)
    {cs : List C.Call} {s t : σ} {ds : List (Transition C I σ)}
    (h : m.session driver cs s = .ok (ds, t)) : motive s ds t := by
  induction cs generalizing s ds with
  | nil =>
    cases h
    exact stop _
  | cons c cs ih =>
    rw [session] at h
    -- a session that has come to its end stopped neither at its first command nor at a later one
    cases hfirst : (((driver c).interpret m.traced).run #[]).run s with
    | error f =>
      rw [hfirst] at h
      cases h
    | ok x =>
      obtain ⟨⟨answer, calls⟩, v⟩ := x
      cases hlater : m.session driver cs v with
      | error f =>
        rw [hfirst] at h
        simp only [bind, Except.bind, hlater] at h
        cases h
      | ok y =>
        obtain ⟨later, u⟩ := y
        rw [hfirst] at h
        simp only [bind, Except.bind, hlater] at h
        cases h
        exact go ⟨c, s, answer, calls.toList, v⟩ later t (ih hlater)

/-- A session of single calls stops at the first call that stops the machine. -/
theorem session_send_error {c : I.Call} {cs : List I.Call} {s : σ} {f : φ}
    (h : (m c).run s = .error f) : m.session Program.send (c :: cs) s = .error f := by
  have hcall : (((m.traced c).run #[]).run s) = .error f := by
    simp only [traced, Handler.observed, StateT.run_bind]
    show ((((m c).run s >>= fun x => .ok ((x.1, #[]), x.2)) >>= _) : Except φ _) = _
    rw [h]
    rfl
  rw [session, Program.interpret_send, hcall]
  rfl

end Machine

/-- The state in which some transitions have left a machine that began in state `s`. -/
def Transition.reached (s : σ) (ds : List (Transition C I σ)) : σ :=
  (ds.getLast?.map Transition.after).getD s

section Reached

variable {s : σ} {d : Transition C I σ} {ds : List (Transition C I σ)}

theorem Transition.reached_cons : reached s (d :: ds) = reached d.after ds := by
  unfold reached
  cases ds with
  | nil => rfl
  | cons e es =>
    rw [List.getLast?_cons_cons, List.getLast?_cons, Option.map_some]
    rfl

theorem Transition.reached_concat : reached s (ds ++ [d]) = d.after := by
  simp [reached]

/-- Transitions that follow one another: each begins where those before it have led. -/
def Transition.Follow (s : σ) (ds : List (Transition C I σ)) : Prop :=
  ∀ front d later, ds = front ++ d :: later → d.before = reached s front

theorem Transition.Follow.cons (h : Follow d.after ds) : Follow d.before (d :: ds) := by
  intro front e later hsplit
  cases front with
  | nil =>
    obtain ⟨rfl, -⟩ := List.cons.inj hsplit
    rfl
  | cons first front =>
    obtain ⟨rfl, hds⟩ := List.cons.inj hsplit
    rw [reached_cons]
    exact h front e later hds

end Reached

/-- The transitions of a session follow one another, and lead to its end. -/
theorem Machine.session_follows {m : Machine I σ φ} {driver : Handler C (Program I)}
    {cs : List C.Call} {s t : σ} {ds : List (Transition C I σ)}
    (h : m.session driver cs s = .ok (ds, t)) :
    Transition.Follow s ds ∧ t = Transition.reached s ds := by
  refine session_induction
    (motive := fun s ds t => Transition.Follow s ds ∧ t = Transition.reached s ds) ?_ ?_ h
  · intro s
    exact ⟨fun front d later hsplit => absurd hsplit.symm (by simp), rfl⟩
  · rintro d ds t ⟨hfollow, rfl⟩
    exact ⟨hfollow.cons, Transition.reached_cons.symm⟩

end BoardSupport
