import BoardSupport.Program.Handler

/-!
# Runs of programs and of drivers

What a program can do, whoever answers its calls: `Runs p es a` says that `p` makes the calls of
`es`, in that order, and ends in `a` if it gets the replies of `es`.  A driver's run is a sequence
of steps, each a command with its answer and the calls made for it.

- `Program.runs_bind_iff`: a run of a composition is a run of each part, one after the other.
- `Step` and `Steps`: runs of a driver over many commands, from state to state.
- `Carries` and `Program.runs_interpret`: what the calls of a program become if a driver carries them
  out with calls of its own.
-/

namespace BoardSupport

variable {I C : Interface} {σ α β : Type}

namespace Program

/-- The program makes the calls of a list of events, gets their replies, and ends in a result. -/
inductive Runs : Program I α → List (Event I) → α → Prop
  /-- A program that has ended makes no calls. -/
  | done (a : α) : Runs (.done a) [] a
  /-- A program that makes a call goes on with the reply. -/
  | call {c : I.Call} {next : I.Reply c → Program I α} {r : I.Reply c} {es : List (Event I)} {a : α}
      (h : Runs (next r) es a) : Runs (.call c next) (⟨c, r⟩ :: es) a

@[simp] theorem runs_done_iff {a b : α} {es : List (Event I)} :
    Runs (.done a) es b ↔ es = [] ∧ b = a := by
  constructor
  · rintro ⟨⟩
    exact ⟨rfl, rfl⟩
  · rintro ⟨rfl, rfl⟩
    exact .done b

theorem runs_call_iff {c : I.Call} {next : I.Reply c → Program I α} {es : List (Event I)} {a : α} :
    Runs (.call c next) es a ↔ ∃ r es', es = ⟨c, r⟩ :: es' ∧ Runs (next r) es' a := by
  constructor
  · rintro (_ | ⟨h⟩)
    exact ⟨_, _, rfl, h⟩
  · rintro ⟨r, es', rfl, h⟩
    exact .call h

theorem runs_bind_iff {p : Program I α} {f : α → Program I β} {es : List (Event I)} {b : β} :
    Runs (p >>= f) es b ↔ ∃ es₁ a es₂, es = es₁ ++ es₂ ∧ Runs p es₁ a ∧ Runs (f a) es₂ b := by
  induction p generalizing es with
  | done a =>
    constructor
    · intro h
      exact ⟨[], a, es, rfl, .done a, h⟩
    · rintro ⟨_, _, es₂, rfl, ⟨⟩, h⟩
      exact h
  | call c next ih =>
    simp only [call_bind, runs_call_iff, ih]
    constructor
    · rintro ⟨r, _, rfl, es₁, a, es₂, rfl, h₁, h₂⟩
      exact ⟨⟨c, r⟩ :: es₁, a, es₂, rfl, ⟨r, es₁, rfl, h₁⟩, h₂⟩
    · rintro ⟨_, a, es₂, rfl, ⟨r, es₁, rfl, h₁⟩, h₂⟩
      exact ⟨r, es₁ ++ es₂, rfl, es₁, a, es₂, rfl, h₁, h₂⟩

end Program

/-- A command that was performed, with its answer and the calls made for it. -/
structure Step (C I : Interface) where
  /-- The command. -/
  command : C.Call
  /-- Its answer. -/
  answer : C.Reply command
  /-- The calls made for it. -/
  calls : List (Event I)

/-- The driver goes from state to state by a list of steps, oldest first. -/
inductive Steps (driver : Handler C (StateT σ (Program I))) : σ → List (Step C I) → σ → Prop
  /-- Without commands the state stays. -/
  | none (s : σ) : Steps driver s [] s
  /-- A command is performed, and others follow. -/
  | step {s t u : σ} {c : C.Call} {r : C.Reply c} {es : List (Event I)} {rest : List (Step C I)}
      (first : Program.Runs ((driver c).run s) es (r, t)) (later : Steps driver t rest u) :
      Steps driver s (⟨c, r, es⟩ :: rest) u

theorem steps_cons_iff {driver : Handler C (StateT σ (Program I))} {s u : σ} {c : C.Call}
    {r : C.Reply c} {es : List (Event I)} {rest : List (Step C I)} :
    Steps driver s (⟨c, r, es⟩ :: rest) u ↔
      ∃ t, Program.Runs ((driver c).run s) es (r, t) ∧ Steps driver t rest u := by
  constructor
  · rintro (_ | ⟨first, later⟩)
    exact ⟨_, first, later⟩
  · rintro ⟨t, first, later⟩
    exact .step first later

/-! ## Calls that a driver carries out -/

/-- The driver goes from state to state by calls that it carries out, one after another, with calls of
its own. -/
inductive Carries (driver : Handler C (StateT σ (Program I))) :
    σ → List (Event C) → List (Event I) → σ → Prop
  /-- Without calls the state stays. -/
  | none (s : σ) : Carries driver s [] [] s
  /-- A call is carried out, and others follow. -/
  | call {s t u : σ} {e : Event C} {es : List (Event C)} {fs gs : List (Event I)}
      (first : Program.Runs ((driver e.call).run s) fs (e.reply, t))
      (later : Carries driver t es gs u) : Carries driver s (e :: es) (fs ++ gs) u

section Carries

variable {driver : Handler C (StateT σ (Program I))} {s t : σ} {es : List (Event C)}
  {fs : List (Event I)}

theorem carries_cons {e : Event C} (h : Carries driver s (e :: es) fs t) :
    ∃ fs₁ u fs₂, fs = fs₁ ++ fs₂ ∧ Program.Runs ((driver e.call).run s) fs₁ (e.reply, u) ∧
      Carries driver u es fs₂ t := by
  cases h with
  | call first later => exact ⟨_, _, _, rfl, first, later⟩

theorem carries_append {es₁ es₂ : List (Event C)} (h : Carries driver s (es₁ ++ es₂) fs t) :
    ∃ fs₁ u fs₂, fs = fs₁ ++ fs₂ ∧ Carries driver s es₁ fs₁ u ∧ Carries driver u es₂ fs₂ t := by
  induction es₁ generalizing s fs with
  | nil => exact ⟨[], s, fs, rfl, .none s, h⟩
  | cons e es₁ ih =>
    obtain ⟨front, u, later, rfl, hfirst, hlater⟩ := carries_cons h
    obtain ⟨fs₁, v, fs₂, rfl, h₁, h₂⟩ := ih hlater
    exact ⟨front ++ fs₁, v, fs₂, (List.append_assoc front fs₁ fs₂).symm, .call hfirst h₁, h₂⟩

/-- A run of a program whose calls are left to a driver: the program has run, and the driver has
carried out its calls. -/
theorem Program.runs_interpret {p : Program C α} {a : α}
    (h : Runs ((p.interpret driver).run s) fs (a, t)) :
    ∃ es, Runs p es a ∧ Carries driver s es fs t := by
  induction p generalizing s fs with
  | done b =>
    obtain ⟨rfl, heq⟩ := runs_done_iff.1 h
    obtain ⟨rfl, rfl⟩ := Prod.mk.inj heq
    exact ⟨[], .done _, .none _⟩
  | call c next ih =>
    rw [interpret_call, StateT.run_bind] at h
    obtain ⟨first, ⟨r, u⟩, later, rfl, hfirst, hlater⟩ := runs_bind_iff.1 h
    obtain ⟨es, hruns, hcarries⟩ := ih r hlater
    exact ⟨⟨c, r⟩ :: es, .call hruns, .call (e := ⟨c, r⟩) hfirst hcarries⟩

end Carries

end BoardSupport
