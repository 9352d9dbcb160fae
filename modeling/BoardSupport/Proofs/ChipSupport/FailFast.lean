import BoardSupport.NonBlocking
import BoardSupport.Proofs.ChipSupport.Calls

/-!
# Operations that stop at the first failure

An operation is fail-fast if the first call of the library that fails is the last call it makes, and
if the status of that call is the code of the error it ends in (`FailFast`).  Drivers are built from
few pieces, and the rule is proved piece by piece: `Obeys` says that a computation keeps to the
rule from every state, and there is one lemma for each way in which computations are built.

- `FailFast`: the rule for the calls and the verdict of one operation.
- `Rules` and `Obeys`: the rule for a computation, with an invariant of the driver's state and with
  what may come late, after the rule has ceased to apply.
- `Obeys.bind`: a computation that is carried on after success, and kept silent after anything else.
- `Contract`: what the commands of one driver are held to, its refusals and exceptions included.
-/

namespace BoardSupport.ChipSupport

variable {L : Library} {C : Interface} {σ ε ε' α β : Type}

/-- How an operation says it ended. -/
inductive Verdict where
  /-- It succeeded. -/
  | success
  /-- A call of the library failed with a code, or the arguments were refused with it. -/
  | failure (code : Int16)
  /-- It would have to wait. -/
  | wouldBlock
  /-- It waited as long as it was allowed to. -/
  | timeout
  /-- It waits without a limit and was not followed to its end. -/
  | unfinished
  /-- It was refused for a reason that the library has no code for. -/
  | refused
  deriving DecidableEq, Repr

/-- An error of the library says its code. -/
def Error.verdict (e : Error) : Verdict := .failure e.code

/-- How the failure of a non-blocking operation reads. -/
def nonBlockingVerdict (read : ε → Verdict) : NonBlocking ε → Verdict
  | .wouldBlock => .wouldBlock
  | .failed e => read e

/-- How a result reads if its errors are read by `read`. -/
def outcome (read : ε → Verdict) : Except ε α → Verdict
  | .ok _ => .success
  | .error e => read e

/-- The calls that an operation made and the verdict it ended in follow the rule; without a failing
call it may also end in one of `allowed`. -/
inductive FailFast (allowed : List Verdict) (cs : List (LibraryCall L)) (v : Verdict) : Prop
  /-- No call failed, and the operation succeeded or had a reason of its own not to. -/
  | clean (hcs : ∀ x ∈ cs, x.status = success) (hv : v = .success ∨ v ∈ allowed)
  /-- The first call that failed was the last one, and its status is the code of the error. -/
  | stopped (before : List (LibraryCall L)) (last : LibraryCall L) (hcs : cs = before ++ [last])
      (hbefore : ∀ x ∈ before, x.status = success) (hlast : last.status ≠ success)
      (hv : v = .failure last.status)

/-- Without a call nothing has failed. -/
theorem FailFast.nil {allowed : List Verdict} {v : Verdict} (hv : v = .success ∨ v ∈ allowed) :
    FailFast allowed ([] : List (LibraryCall L)) v :=
  .clean (List.forall_mem_nil _) hv

/-- Calls that all succeeded may come before others. -/
theorem FailFast.append {allowed : List Verdict} {cs cs' : List (LibraryCall L)} {v : Verdict}
    (hcs : ∀ x ∈ cs, x.status = success) (h : FailFast allowed cs' v) :
    FailFast allowed (cs ++ cs') v := by
  cases h with
  | clean hcs' hv => exact .clean (List.forall_mem_append.2 ⟨hcs, hcs'⟩) hv
  | stopped before last hlater hbefore hlast hv =>
    refine .stopped (cs ++ before) last ?_ (List.forall_mem_append.2 ⟨hcs, hbefore⟩) hlast hv
    rw [hlater, List.append_assoc]

/-- One call that may fail: an error has its status for a code, and nothing follows. -/
theorem failFast_request (allowed : List Verdict) (r : L.Request) (code : Int16)
    (value : L.Value r) :
    FailFast allowed [.request r code value] (outcome Error.verdict (reply code value)) := by
  by_cases hcode : code = success
  · refine .clean (List.forall_mem_singleton.2 hcode) (.inl ?_)
    rw [hcode, reply_success]
    rfl
  · obtain ⟨e, he, hread⟩ := reply_failure hcode value
    refine .stopped [] (.request r code value) rfl (List.forall_mem_nil _) hcode ?_
    rw [he, outcome, Error.verdict, hread]
    rfl

/-- The rule for the computations of one driver. -/
structure Rules (L : Library) (σ : Type) where
  /-- What the driver's state always satisfies. -/
  Kept : σ → Prop
  /-- The verdicts, besides success, in which a computation may end without a failing call. -/
  allowed : List Verdict
  /-- The calls that may end a computation outside the rule, and the verdict they come with. -/
  Late : List (LibraryCall L) → Verdict → Prop
  /-- After such calls a computation is not carried on. -/
  late_ne_success : ∀ {cs : List (LibraryCall L)} {v : Verdict}, Late cs v → v ≠ .success

namespace Rules

/-- The rule without anything late. -/
def keeping (L : Library) (Kept : σ → Prop) (allowed : List Verdict) : Rules L σ where
  Kept := Kept
  allowed := allowed
  Late _ _ := False
  late_ne_success h := h.elim

/-- The rule without anything late, for any state. -/
abbrev plain (L : Library) (σ : Type) (allowed : List Verdict) : Rules L σ :=
  keeping L (fun _ => True) allowed

/-- The calls and the verdict follow the rule, or they do so up to something late. -/
def Ends (R : Rules L σ) (cs : List (LibraryCall L)) (v : Verdict) : Prop :=
  FailFast R.allowed cs v ∨ ∃ before after, cs = before ++ after ∧
    (∀ x ∈ before, x.status = success) ∧ R.Late after v

variable {R : Rules L σ} {cs cs' : List (LibraryCall L)} {v : Verdict}

theorem Ends.silent (hv : v = .success ∨ v ∈ R.allowed) : R.Ends [] v :=
  .inl (.nil hv)

/-- An operation that has succeeded has made no call that failed. -/
theorem Ends.clean (h : R.Ends cs .success) : ∀ x ∈ cs, x.status = success := by
  rcases h with (⟨hcs, -⟩ | ⟨before, last, -, -, -, hv⟩) | ⟨before, after, -, -, hlate⟩
  · exact hcs
  · cases hv
  · exact absurd rfl (R.late_ne_success hlate)

theorem Ends.failFast {Kept : σ → Prop} {allowed : List Verdict}
    (h : (keeping L Kept allowed).Ends cs v) : FailFast allowed cs v := by
  rcases h with h | ⟨_, _, _, _, hlate⟩
  · exact h
  · exact hlate.elim

theorem Ends.append (first : R.Ends cs .success) (later : R.Ends cs' v) : R.Ends (cs ++ cs') v := by
  rcases later with hlater | ⟨before, after, rfl, hbefore, hlate⟩
  · exact .inl (hlater.append first.clean)
  · refine .inr ⟨cs ++ before, after, (List.append_assoc ..).symm, ?_, hlate⟩
    exact List.forall_mem_append.2 ⟨first.clean, hbefore⟩

end Rules

/-! ## Computations -/

/-- Whatever the library does, the computation keeps to the rule. -/
def Obeys (R : Rules L σ) (verdict : α → Verdict) (x : StateT σ L.Task α) : Prop :=
  ∀ s cs a t, R.Kept s → Calls (x.run s) cs (a, t) → R.Kept t ∧ R.Ends cs (verdict a)

/-- The computation makes no call of the library, and ends in something that satisfies `P`. -/
def Silent (R : Rules L σ) (P : α → Prop) (x : StateT σ L.Task α) : Prop :=
  ∀ s cs a t, R.Kept s → Calls (x.run s) cs (a, t) → R.Kept t ∧ cs = [] ∧ P a

section Computations

variable {R : Rules L σ} {x : StateT σ L.Task α} {f : α → StateT σ L.Task β} {v₁ : α → Verdict}
  {v₂ : β → Verdict}

theorem Silent.pure {P : α → Prop} {a : α} (h : P a) :
    Silent R P (pure a : StateT σ L.Task α) := by
  intro s cs b t hs hrun
  obtain ⟨rfl, rfl, rfl⟩ := calls_end_iff.1 hrun
  exact ⟨hs, rfl, h⟩

theorem Silent.obeys {v : Verdict} (h : Silent R (fun a => v₁ a = v) x)
    (hv : v = .success ∨ v ∈ R.allowed) : Obeys R v₁ x := by
  intro s cs a t hs hrun
  obtain ⟨ht, rfl, rfl⟩ := h s cs a t hs hrun
  exact ⟨ht, .silent hv⟩

theorem Obeys.pure {a : α} (h : v₁ a = .success ∨ v₁ a ∈ R.allowed) :
    Obeys R v₁ (pure a : StateT σ L.Task α) :=
  Silent.obeys (Silent.pure (P := fun b => v₁ b = v₁ a) rfl) h

/-- After success a computation is carried on; after anything else it has to be silent and to keep
to the verdict. -/
theorem Obeys.bind (hx : Obeys R v₁ x) (hgo : ∀ a, v₁ a = .success → Obeys R v₂ (f a))
    (hstop : ∀ a, v₁ a ≠ .success → Silent R (fun b => v₂ b = v₁ a) (f a)) :
    Obeys R v₂ (x >>= f) := by
  intro s cs b t hs hrun
  obtain ⟨cs₁, a, u, cs₂, rfl, h₁, h₂⟩ := calls_run_bind_iff.1 hrun
  obtain ⟨hu, hends⟩ := hx s cs₁ a u hs h₁
  by_cases ha : v₁ a = .success
  · -- all calls so far have succeeded, so they may come before what follows
    obtain ⟨ht, hlater⟩ := hgo a ha u cs₂ b t hu h₂
    rw [ha] at hends
    exact ⟨ht, hends.append hlater⟩
  · -- nothing follows, and the verdict stands
    obtain ⟨ht, rfl, hb⟩ := hstop a ha u cs₂ b t hu h₂
    rw [List.append_nil, hb]
    exact ⟨ht, hends⟩

theorem Silent.bind {P : α → Prop} {Q : β → Prop} (hx : Silent R P x)
    (hf : ∀ a, P a → Silent R Q (f a)) : Silent R Q (x >>= f) := by
  intro s cs b t hs hrun
  obtain ⟨cs₁, a, u, cs₂, rfl, h₁, h₂⟩ := calls_run_bind_iff.1 hrun
  obtain ⟨hu, rfl, ha⟩ := hx s cs₁ a u hs h₁
  exact hf a ha u cs₂ b t hu h₂

/-- What is made of an answer afterwards has to read like it. -/
theorem Obeys.map {g : α → β} (hx : Obeys R v₁ x) (hg : ∀ a, v₂ (g a) = v₁ a) :
    Obeys R v₂ (g <$> x) := by
  rw [map_eq_pure_bind]
  refine hx.bind ?_ ?_
  · intro a ha
    exact Obeys.pure (.inl ((hg a).trans ha))
  · intro a _
    exact Silent.pure (hg a)

/-- What is noted down in the state is no call. -/
theorem Silent.modify {g : σ → σ} (h : ∀ s, R.Kept s → R.Kept (g s)) :
    Silent R (fun _ => True) (modify g : StateT σ L.Task PUnit) := by
  intro s cs b t hs hrun
  obtain ⟨rfl, -, rfl⟩ := calls_end_iff.1 hrun
  exact ⟨h s hs, rfl, trivial⟩

/-- A look into a buffer is no call of the library. -/
theorem Silent.leftover :
    Silent R (fun _ => True) (StateT.lift leftover : StateT σ L.Task (List UInt16)) := by
  intro s cs b t hs hrun
  obtain ⟨stored, later⟩ := calls_leftover_iff.1 hrun
  obtain ⟨rfl, -, rfl⟩ := calls_end_iff.1 later
  exact ⟨hs, rfl, trivial⟩

theorem Obeys.access (b : L.Access) :
    Obeys R (fun _ => .success) (StateT.lift (access b) : StateT σ L.Task (L.Answer b)) := by
  intro s cs a t hs hrun
  obtain ⟨answer, cs', rfl, hlater⟩ := calls_access_iff.1 hrun
  obtain ⟨rfl, -, rfl⟩ := calls_end_iff.1 hlater
  exact ⟨hs, .inl (.clean (List.forall_mem_singleton.2 rfl) (.inl rfl))⟩

end Computations

/-! ## Operations -/

namespace Action

/-- The operation keeps to the rule, if its errors are read by `read`. -/
abbrev Obeys (R : Rules L σ) (read : ε → Verdict) (x : Action L σ ε α) : Prop :=
  ChipSupport.Obeys R (outcome read) x.run

variable {R : Rules L σ} {read : ε → Verdict} {x : Action L σ ε α}

theorem run_bind (f : α → Action L σ ε β) :
    (x >>= f).run = x.run >>= fun
      | .ok a => (f a).run
      | .error e => Pure.pure (.error e) := rfl

theorem run_lift (y : StateT σ L.Task α) :
    (liftM y : Action L σ ε α).run = y >>= fun a => Pure.pure (.ok a) := rfl

theorem run_adapt (g : ε → ε') :
    (x.adapt g).run = x.run >>= fun
      | .ok a => Pure.pure (.ok a)
      | .error e => Pure.pure (.error (g e)) := rfl

theorem run_tryCatch (handle : ε → Action L σ ε α) :
    (tryCatch x handle).run = x.run >>= fun
      | .ok a => Pure.pure (.ok a)
      | .error e => (handle e).run := rfl

theorem Obeys.pure (a : α) : Obeys R read (pure a : Action L σ ε α) :=
  ChipSupport.Obeys.pure (.inl rfl)

theorem Obeys.throw {e : ε} (h : read e ∈ R.allowed) : Obeys R read (throw e : Action L σ ε α) :=
  ChipSupport.Obeys.pure (.inr h)

/-- A result is taken apart: after success the computation is carried on, and an error is passed
on. -/
theorem Obeys.andThen {v₂ : β → Verdict} {f : Except ε α → StateT σ L.Task β}
    (hx : x.Obeys R read) (hok : ∀ a, ChipSupport.Obeys R v₂ (f (.ok a)))
    (herror : ∀ e, Silent R (fun b => v₂ b = read e) (f (.error e))) :
    ChipSupport.Obeys R v₂ (x.run >>= f) := by
  refine ChipSupport.Obeys.bind hx ?_ ?_
  · intro a ha
    cases a with
    | ok a => exact hok a
    | error e => exact (herror e).obeys (.inl ha)
  · intro a ha
    cases a with
    | ok a => exact absurd rfl ha
    | error e => exact herror e

theorem Obeys.bind {f : α → Action L σ ε β} (hx : x.Obeys R read)
    (hf : ∀ a, (f a).Obeys R read) : (x >>= f).Obeys R read := by
  refine hx.andThen (f := fun | .ok a => (f a).run | .error e => Pure.pure (.error e)) hf ?_
  intro e
  exact Silent.pure rfl

theorem Obeys.get : Obeys R read (get : Action L σ ε σ) := by
  intro s cs a t hs hrun
  obtain ⟨rfl, rfl, rfl⟩ := calls_end_iff.1 hrun
  exact ⟨hs, .silent (.inl rfl)⟩

theorem Obeys.modify {g : σ → σ} (h : ∀ s, R.Kept s → R.Kept (g s)) :
    Obeys R read (modify g : Action L σ ε PUnit) := by
  intro s cs a t hs hrun
  obtain ⟨rfl, rfl, rfl⟩ := calls_end_iff.1 hrun
  exact ⟨h s hs, .silent (.inl rfl)⟩

theorem Obeys.set {u : σ} (h : R.Kept u) : Obeys R read (set u : Action L σ ε PUnit) :=
  Obeys.modify (g := fun _ => u) fun _ _ => h

/-- Errors seen through `g` have to read as before. -/
theorem Obeys.adapt {g : ε → ε'} {read' : ε' → Verdict} (hx : x.Obeys R read)
    (hread : ∀ e, read' (g e) = read e) : (x.adapt g).Obeys R read' := by
  rw [Obeys, run_adapt]
  refine hx.andThen ?_ ?_
  · intro a
    exact ChipSupport.Obeys.pure (.inl rfl)
  · intro e
    exact Silent.pure (hread e)

theorem Obeys.lift {y : StateT σ L.Task α} (hy : ChipSupport.Obeys R (fun _ => .success) y) :
    Obeys R read (liftM y : Action L σ ε α) := by
  refine ChipSupport.Obeys.bind hy ?_ ?_
  · intro a _
    exact ChipSupport.Obeys.pure (.inl rfl)
  · intro a ha
    exact absurd rfl ha

theorem Obeys.thenAlways {after : StateT σ L.Task Unit} (hx : x.Obeys R read)
    (hafter : Silent R (fun _ => True) after) : (thenAlways x after).Obeys R read := by
  have hthen : ∀ r : Except ε α, Silent R (fun r' => outcome read r' = outcome read r)
      (after >>= fun _ => Pure.pure r) := fun r => hafter.bind fun _ _ => Silent.pure rfl
  refine hx.andThen (f := fun r => after >>= fun _ => Pure.pure r) ?_ ?_
  · intro a
    exact (hthen (.ok a)).obeys (.inl rfl)
  · intro e
    exact hthen (.error e)

end Action

section Requests

variable {r : L.Request} {s t : σ} {cs : List (LibraryCall L)} {result : Except Error (L.Value r)}

/-- A request is one call, and ends in what there is to see of its status. -/
theorem calls_run_request_iff :
    Calls ((request r : Action L σ Error (L.Value r)).run.run s) cs (result, t) ↔
      ∃ code value, cs = [.request r code value] ∧ result = reply code value ∧ t = s := by
  constructor
  · intro h
    obtain ⟨code, value, cs', rfl, later⟩ := calls_request_iff.1 h
    obtain ⟨rfl, hresult, ht⟩ := calls_end_iff.1 later
    exact ⟨code, value, rfl, hresult, ht⟩
  · rintro ⟨code, value, rfl, rfl, rfl⟩
    exact .request code value (.done _)

variable [Build]

theorem calls_run_report_iff {line : String} {e : ε} {result : Except ε α} :
    Calls ((report line e : Action L σ ε α).run.run s) cs (result, t) ↔
      cs = [] ∧ result = .error e ∧ t = s := by
  have hrun : (report line e : Action L σ ε α).run.run s =
      debugMessage line >>= fun _ => .done (.error e, s) := Action.program_report line e s
  rw [hrun, calls_debugMessage_bind_iff, calls_end_iff]

/-- A refusal hands a buffer back as it was. -/
theorem calls_run_refusal {line : String} {e : ε} {buffer : β} {answer : Except ε α × β}
    (h : Calls (((report line e : Action L σ ε α).run >>= fun refusal =>
      pure (refusal, buffer)).run s) cs (answer, t)) :
    cs = [] ∧ answer = (.error e, buffer) ∧ t = s := by
  obtain ⟨cs₁, refusal, u, cs₂, rfl, h₁, h₂⟩ := calls_run_bind_iff.1 h
  obtain ⟨rfl, rfl, rfl⟩ := calls_run_report_iff.1 h₁
  exact calls_end_iff.1 h₂

/-- The report of a failure is no call of the library, so an attempt is a request to it. -/
theorem calls_run_attempt_iff {line : String} :
    Calls ((attempt line r : Action L σ Error (L.Value r)).run.run s) cs (result, t) ↔
      ∃ code value, cs = [.request r code value] ∧ result = reply code value ∧ t = s := by
  rw [attempt, logFailure, Action.run_tryCatch, calls_run_bind_iff]
  constructor
  · rintro ⟨cs₁, a, u, cs₂, rfl, h₁, h₂⟩
    obtain ⟨code, value, rfl, rfl, rfl⟩ := calls_run_request_iff.1 h₁
    refine ⟨code, value, ?_⟩
    -- a failure is reported before it is passed on
    cases hseen : reply code value with
    | ok v =>
      rw [hseen] at h₂
      obtain ⟨rfl, hresult, ht⟩ := calls_end_iff.1 h₂
      exact ⟨rfl, hresult, ht⟩
    | error e =>
      rw [hseen] at h₂
      obtain ⟨rfl, hresult, ht⟩ := calls_run_report_iff.1 h₂
      exact ⟨rfl, hresult, ht⟩
  · rintro ⟨code, value, rfl, rfl, rfl⟩
    refine ⟨_, _, _, [], rfl, calls_run_request_iff.2 ⟨code, value, rfl, rfl, rfl⟩, ?_⟩
    cases reply code value with
    | ok v => exact .done _
    | error e => exact calls_run_report_iff.2 ⟨rfl, rfl, rfl⟩

/-- An attempt whose end is dropped still is its one call. -/
theorem calls_run_regardless {line : String}
    (h : Calls ((regardless (attempt line r : Action L σ Error (L.Value r))).run s) cs ((), t)) :
    t = s ∧ ∃ code value, cs = [.request r code value] := by
  have hrun : (regardless (attempt line r : Action L σ Error (L.Value r))).run s =
      (attempt line r : Action L σ Error (L.Value r)).run.run s >>= fun p => .done ((), p.2) := rfl
  rw [hrun, calls_bind_iff] at h
  obtain ⟨cs₁, ⟨a, u⟩, cs₂, rfl, h₁, h₂⟩ := h
  obtain ⟨code, value, rfl, -, rfl⟩ := calls_run_attempt_iff.1 h₁
  obtain ⟨rfl, -, rfl⟩ := calls_end_iff.1 h₂
  exact ⟨rfl, code, value, rfl⟩

end Requests

theorem obeys_request {R : Rules L σ} (r : L.Request) :
    Action.Obeys R Error.verdict (request r : Action L σ Error (L.Value r)) := by
  intro s cs a t hs hrun
  obtain ⟨code, value, rfl, rfl, rfl⟩ := calls_run_request_iff.1 hrun
  exact ⟨hs, .inl (failFast_request _ r code value)⟩

theorem obeys_attempt [Build] {R : Rules L σ} (line : String) (r : L.Request) :
    Action.Obeys R Error.verdict (attempt line r : Action L σ Error (L.Value r)) := by
  intro s cs a t hs hrun
  obtain ⟨code, value, rfl, rfl, rfl⟩ := calls_run_attempt_iff.1 hrun
  exact ⟨hs, .inl (failFast_request _ r code value)⟩

/-! ## Drivers -/

/-- What the commands of one driver are held to. -/
structure Contract (C : Interface) (σ : Type) (L : Library) where
  /-- The answer to a command that is refused, if it is. -/
  refusal : σ → (c : C.Call) → Option (C.Reply c)
  /-- How an answer reads. -/
  verdict : (c : C.Call) → C.Reply c → Verdict
  /-- The verdicts, besides success, in which a command may end without a failing call. -/
  allowed : C.Call → List Verdict
  /-- The exceptions to the rule: what else a command may answer, with the state it leaves and the
  calls it has made. -/
  Exception : σ → (c : C.Call) → C.Reply c × σ → List (LibraryCall L) → Prop

namespace Contract

/-- A command was performed by the contract. -/
structure Met (K : Contract C σ L) (s : σ) (c : C.Call) (result : C.Reply c × σ)
    (cs : List (LibraryCall L)) : Prop where
  /-- A refusal is answered without a call, and leaves the driver as it was. -/
  refused : ∀ answer, K.refusal s c = some answer → result = (answer, s) ∧ cs = []
  /-- Any other command follows the rule, unless it is an exception. -/
  performed : K.refusal s c = none →
    FailFast (K.allowed c) cs (K.verdict c result.1) ∨ K.Exception s c result cs

/-- Every command, in every state of the driver and with every library, meets the contract. -/
def Holds (K : Contract C σ L) (driver : Handler C (StateT σ L.Task)) : Prop :=
  ∀ {τ : Type} (lib : RawLibrary L τ) (t : τ) (s : σ) (c : C.Call),
    K.Met s c (lib.perform t ((driver c).run s)).1 (lib.perform t ((driver c).run s)).2

/-- The libraries do nothing that is not covered by `Calls`. -/
theorem holds_of_calls {K : Contract C σ L} {driver : Handler C (StateT σ L.Task)}
    (h : ∀ s c cs answer t, Calls ((driver c).run s) cs (answer, t) → K.Met s c (answer, t) cs) :
    K.Holds driver := by
  intro τ lib t s c
  exact h s c _ _ _ (lib.calls_perform t ((driver c).run s))

variable {K : Contract C σ L} {s t : σ} {c : C.Call} {answer : C.Reply c}
  {cs : List (LibraryCall L)}

/-- A command that is refused if something is missing, and follows the rule otherwise. -/
theorem met_of_guard {missing : Prop} [Decidable missing] {refusal : C.Reply c}
    (hrefusal : K.refusal s c = if missing then some refusal else none)
    (hclosed : missing → cs = [] ∧ answer = refusal ∧ t = s)
    (hopen : ¬ missing →
      FailFast (K.allowed c) cs (K.verdict c answer) ∨ K.Exception s c (answer, t) cs) :
    K.Met s c (answer, t) cs := by
  by_cases h : missing
  · obtain ⟨rfl, rfl, rfl⟩ := hclosed h
    rw [if_pos h] at hrefusal
    constructor
    · intro other hother
      obtain rfl := Option.some.inj (hrefusal.symm.trans hother)
      exact ⟨rfl, rfl⟩
    · intro hnone
      rw [hrefusal] at hnone
      cases hnone
  · rw [if_neg h] at hrefusal
    refine ⟨?_, fun _ => hopen h⟩
    intro other hother
    rw [hrefusal] at hother
    cases hother

theorem met_of_keeping {Kept : σ → Prop} {x : StateT σ L.Task (C.Reply c)}
    (hnone : K.refusal s c = none) (hs : Kept s)
    (hx : Obeys (Rules.keeping L Kept (K.allowed c)) (K.verdict c) x)
    (hrun : Calls (x.run s) cs (answer, t)) : K.Met s c (answer, t) cs := by
  refine ⟨?_, fun _ => .inl (hx s cs answer t hs hrun).2.failFast⟩
  intro other hother
  rw [hnone] at hother
  cases hother

/-- Without exceptions the plain rule is all there is to prove. -/
theorem met_of_obeys {x : StateT σ L.Task (C.Reply c)} (hnone : K.refusal s c = none)
    (hx : Obeys (Rules.plain L σ (K.allowed c)) (K.verdict c) x)
    (hrun : Calls (x.run s) cs (answer, t)) : K.Met s c (answer, t) cs :=
  met_of_keeping hnone trivial hx hrun

/-- A command that makes no call and succeeds. -/
theorem met_of_silent (hnone : K.refusal s c = none) (hv : K.verdict c answer = .success) :
    K.Met s c (answer, t) [] := by
  refine ⟨?_, fun _ => .inl (.nil (.inl hv))⟩
  intro other hother
  rw [hnone] at hother
  cases hother

theorem met_of_exception (hnone : K.refusal s c = none) (h : K.Exception s c (answer, t) cs) :
    K.Met s c (answer, t) cs := by
  refine ⟨?_, fun _ => .inr h⟩
  intro other hother
  rw [hnone] at hother
  cases hother

end Contract

end BoardSupport.ChipSupport
