import BoardSupport.ChipSupport.Action
import BoardSupport.Program.Runs

/-!
# Runs of driver operations

What an operation can do, whatever the library answers: `x.Runs s es r t` says that from the
driver's state `s` the operation `x` makes the calls of `es`, ends with `r` and leaves the state
`t`.  One statement for each way in which operations are built says what its runs are.
-/

namespace BoardSupport.ChipSupport.Action

variable {L : Library} {σ ε ε' α β : Type}

/-- From state `s` the operation makes the calls of `es`, ends with `r`, and leaves state `t`. -/
def Runs (x : Action L σ ε α) (s : σ) (es : List (Event L.interface)) (r : Except ε α) (t : σ) :
    Prop :=
  Program.Runs (x.program s) es (r, t)

variable {s t : σ} {es : List (Event L.interface)}

@[simp] theorem runs_pure_iff {a : α} {r : Except ε α} :
    (pure a : Action L σ ε α).Runs s es r t ↔ es = [] ∧ r = .ok a ∧ t = s := by
  simp [Runs]

@[simp] theorem runs_throw_iff {e : ε} {r : Except ε α} :
    (throw e : Action L σ ε α).Runs s es r t ↔ es = [] ∧ r = .error e ∧ t = s := by
  simp [Runs]

@[simp] theorem runs_get_iff {r : Except ε σ} :
    (get : Action L σ ε σ).Runs s es r t ↔ es = [] ∧ r = .ok s ∧ t = s := by
  simp [Runs]

@[simp] theorem runs_set_iff {u : σ} {r : Except ε PUnit} :
    (set u : Action L σ ε PUnit).Runs s es r t ↔ es = [] ∧ r = .ok () ∧ t = u := by
  simp [Runs]

@[simp] theorem runs_modify_iff {f : σ → σ} {r : Except ε PUnit} :
    (modify f : Action L σ ε PUnit).Runs s es r t ↔ es = [] ∧ r = .ok () ∧ t = f s := by
  simp [Runs]

/-- Either the first part succeeds and the second goes on, or the first part's error is the end. -/
theorem runs_bind_iff {x : Action L σ ε α} {f : α → Action L σ ε β} {r : Except ε β} :
    (x >>= f).Runs s es r t ↔
      (∃ es₁ a u es₂, es = es₁ ++ es₂ ∧ x.Runs s es₁ (.ok a) u ∧ (f a).Runs u es₂ r t) ∨
        ∃ e, r = .error e ∧ x.Runs s es (.error e) t := by
  simp only [Runs, program_bind, Program.runs_bind_iff]
  constructor
  · rintro ⟨es₁, ⟨a | a, u⟩, es₂, rfl, h₁, h₂⟩
    · obtain ⟨rfl, heq⟩ := Program.runs_done_iff.1 h₂
      obtain ⟨rfl, rfl⟩ := Prod.mk.inj heq
      exact .inr ⟨a, rfl, by simpa using h₁⟩
    · exact .inl ⟨es₁, a, u, es₂, rfl, h₁, h₂⟩
  · rintro (⟨es₁, a, u, es₂, rfl, h₁, h₂⟩ | ⟨e, rfl, h⟩)
    · exact ⟨es₁, (.ok a, u), es₂, rfl, h₁, h₂⟩
    · exact ⟨es, (.error e, t), [], by simp, h, .done _⟩

/-- Either the operation succeeds, or its error is handled. -/
theorem runs_tryCatch_iff {x : Action L σ ε α} {handle : ε → Action L σ ε α} {r : Except ε α} :
    (tryCatch x handle).Runs s es r t ↔
      (∃ a, r = .ok a ∧ x.Runs s es (.ok a) t) ∨
        ∃ es₁ e u es₂, es = es₁ ++ es₂ ∧ x.Runs s es₁ (.error e) u ∧
          (handle e).Runs u es₂ r t := by
  simp only [Runs, program_tryCatch, Program.runs_bind_iff]
  constructor
  · rintro ⟨es₁, ⟨a | a, u⟩, es₂, rfl, h₁, h₂⟩
    · exact .inr ⟨es₁, a, u, es₂, rfl, h₁, h₂⟩
    · obtain ⟨rfl, heq⟩ := Program.runs_done_iff.1 h₂
      obtain ⟨rfl, rfl⟩ := Prod.mk.inj heq
      exact .inl ⟨a, rfl, by simpa using h₁⟩
  · rintro (⟨a, rfl, h⟩ | ⟨es₁, e, u, es₂, rfl, h₁, h₂⟩)
    · exact ⟨es, (.ok a, t), [], by simp, h, .done _⟩
    · exact ⟨es₁, (.error e, u), es₂, rfl, h₁, h₂⟩

theorem runs_adapt_iff {f : ε → ε'} {x : Action L σ ε α} {r : Except ε' α} :
    (x.adapt f).Runs s es r t ↔ ∃ r', x.Runs s es r' t ∧ r = r'.mapError f := by
  simp only [Runs, program_adapt, Program.runs_bind_iff]
  constructor
  · rintro ⟨es₁, ⟨a, u⟩, es₂, rfl, h₁, h₂⟩
    obtain ⟨rfl, heq⟩ := Program.runs_done_iff.1 h₂
    obtain ⟨rfl, rfl⟩ := Prod.mk.inj heq
    exact ⟨a, by simpa using h₁, by cases a <;> rfl⟩
  · rintro ⟨r', h, rfl⟩
    exact ⟨es, (r', t), [], by simp, h, by cases r' <;> exact .done _⟩

/-- A request is one call, and its reply is the result. -/
theorem runs_request_iff {q : L.Request} {r : Except Error (L.Value q)} :
    @Runs L σ Error (no_index (L.Value q)) (request q) s es r t ↔
      es = [⟨.request q, r⟩] ∧ t = s := by
  simp only [Runs, program_request, Program.runs_call_iff]
  constructor
  · rintro ⟨x, es', rfl, ended⟩
    obtain ⟨rfl, heq⟩ := Program.runs_done_iff.1 ended
    obtain ⟨rfl, rfl⟩ := Prod.mk.inj heq
    exact ⟨rfl, rfl⟩
  · rintro ⟨rfl, rfl⟩
    exact ⟨r, [], rfl, .done _⟩

section Messages

variable [Build]

/-- The calls of a message: one line for the sink, which may say anything to it, and none without
messages. -/
def messageCalls (line : String) (said : Except WriteError Unit) : List (Event L.interface) :=
  if Build.debugMessages then [⟨.debug (.line line), said⟩] else []

theorem messageCalls_of_messages (h : Build.debugMessages = true) (line : String)
    (said : Except WriteError Unit) :
    messageCalls line said = [(⟨.debug (.line line), said⟩ : Event L.interface)] :=
  if_pos h

theorem runs_debugMessage_iff {line : String} {u : Unit} :
    Program.Runs (debugMessage line : L.Task Unit) es u ↔ ∃ said, es = messageCalls line said := by
  unfold debugMessage messageCalls
  cases Build.debugMessages with
  | false =>
    constructor
    · rintro ⟨⟩
      exact ⟨.ok (), rfl⟩
    · rintro ⟨_, rfl⟩
      exact .done _
  | true =>
    constructor
    · rintro (_ | ⟨⟨⟩⟩)
      exact ⟨_, rfl⟩
    · rintro ⟨_, rfl⟩
      exact .call (.done _)

/-- A report is a message, and then the error. -/
theorem runs_report_iff {line : String} {e : ε} {r : Except ε α} :
    (report line e : Action L σ ε α).Runs s es r t ↔
      (∃ said, es = messageCalls line said) ∧ r = .error e ∧ t = s := by
  simp only [Runs, program_report, Program.runs_bind_iff]
  constructor
  · rintro ⟨es₁, u, es₂, rfl, hmessage, ended⟩
    obtain ⟨rfl, heq⟩ := Program.runs_done_iff.1 ended
    obtain ⟨rfl, rfl⟩ := Prod.mk.inj heq
    rw [List.append_nil]
    exact ⟨runs_debugMessage_iff.1 hmessage, rfl, rfl⟩
  · rintro ⟨hmessage, rfl, rfl⟩
    exact ⟨es, (), [], (List.append_nil es).symm, runs_debugMessage_iff.2 hmessage, .done _⟩

/-- The calls of an attempt: the request alone if it succeeds, and its report if it fails. -/
def attemptCalls (line : String) (q : L.Request) (said : Except WriteError Unit) :
    Except Error (L.Value q) → List (Event L.interface)
  | .ok v => [⟨.request q, .ok v⟩]
  | .error e => ⟨.request q, .error e⟩ :: messageCalls line said

theorem runs_attempt_iff {line : String} {q : L.Request} {r : Except Error (L.Value q)} :
    @Runs L σ Error (no_index (L.Value q)) (attempt line q) s es r t ↔
      (∃ said, es = attemptCalls line q said r) ∧ t = s := by
  simp only [attempt, logFailure, runs_tryCatch_iff, runs_request_iff, runs_report_iff]
  constructor
  · rintro (⟨a, rfl, rfl, rfl⟩ | ⟨_, e, _, _, rfl, ⟨rfl, rfl⟩, ⟨said, rfl⟩, rfl, rfl⟩)
    · exact ⟨⟨.ok (), rfl⟩, rfl⟩
    · exact ⟨⟨said, rfl⟩, rfl⟩
  · rintro ⟨⟨said, rfl⟩, rfl⟩
    cases r with
    | ok v => exact .inl ⟨v, rfl, rfl, rfl⟩
    | error e => exact .inr ⟨_, e, _, _, rfl, ⟨rfl, rfl⟩, ⟨said, rfl⟩, rfl, rfl⟩

end Messages

end BoardSupport.ChipSupport.Action
