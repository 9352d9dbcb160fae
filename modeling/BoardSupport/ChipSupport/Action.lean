import BoardSupport.ChipSupport.Library

/-!
# Driver operations

An `Action` is an operation of a driver: it has the driver's state, calls the chip support library,
and may end in an error.  The state survives the error, so whatever a driver noted down before a
call failed stays noted.

- `request`, `attempt`, `report`: the steps all drivers are built from.
- `logFailure`: an operation whose failure is reported.
- `thenAlways`, `regardless`: steps that are made however an operation ends.
- `Action.program` and its equations: an operation as a program, from a given state.
-/

namespace BoardSupport.ChipSupport

/-- A driver operation over `L` with driver state `σ`, that may end in an error of type `ε`. -/
structure Action (L : Library) (σ ε α : Type) where
  /-- The operation, with its result as a value. -/
  run : StateT σ L.Task (Except ε α)

variable {L : Library} {σ ε ε' α β : Type}

namespace Action

instance : Monad (Action L σ ε) where
  pure a := ⟨pure (.ok a)⟩
  bind x f := ⟨do
    match ← x.run with
    | .ok a => (f a).run
    | .error e => pure (.error e)⟩

instance : MonadExceptOf ε (Action L σ ε) where
  throw e := ⟨pure (.error e)⟩
  tryCatch x handle := ⟨do
    match ← x.run with
    | .ok a => pure (.ok a)
    | .error e => (handle e).run⟩

instance : MonadStateOf σ (Action L σ ε) where
  get := ⟨fun s => pure (.ok s, s)⟩
  set s := ⟨fun _ => pure (.ok (), s)⟩
  modifyGet f := ⟨fun s => let (a, s') := f s; pure (.ok a, s')⟩

instance : MonadLift (StateT σ L.Task) (Action L σ ε) where
  monadLift x := ⟨do
    let a ← x
    pure (.ok a)⟩

/-- The operation with its errors seen through `f`. -/
def adapt (f : ε → ε') (x : Action L σ ε α) : Action L σ ε' α := ⟨do
  match ← x.run with
  | .ok a => pure (.ok a)
  | .error e => pure (.error (f e))⟩

end Action

/-- Makes a call that may fail, and hands a failure back as an error without a report. -/
def request (r : L.Request) : Action L σ Error (L.Value r) :=
  ⟨StateT.lift (Program.send (I := L.interface) (.request r))⟩

/-- Reports `line` and ends in the error `e`. -/
def report [Build] (line : String) (e : ε) : Action L σ ε α := ⟨do
  StateT.lift (debugMessage line)
  pure (.error e)⟩

/-- Reports a failure of an operation as `line`, and ends as the operation does. -/
def logFailure [Build] (line : String) (act : Action L σ ε α) : Action L σ ε α :=
  tryCatch act (report line)

/-- Makes a call that may fail; a failure is reported as `line` and handed back as an error. -/
def attempt [Build] (line : String) (r : L.Request) : Action L σ Error (L.Value r) :=
  logFailure line (request r)

/-- Runs an action and then `after`, however the action ends. -/
def thenAlways (act : Action L σ ε α) (after : StateT σ L.Task Unit) : Action L σ ε α := ⟨do
  let r ← act.run
  after
  pure r⟩

/-- Runs an action for its effects; how it ends is dropped. -/
def regardless (act : Action L σ ε α) : StateT σ L.Task Unit := do
  discard act.run

/-! ## Operations as programs -/

namespace Action

/-- The operation as a program, from a given state of the driver. -/
def program (x : Action L σ ε α) (s : σ) : L.Task (Except ε α × σ) := x.run s

@[simp] theorem program_pure (a : α) (s : σ) :
    (pure a : Action L σ ε α).program s = .done (.ok a, s) := rfl

@[simp] theorem program_throw (e : ε) (s : σ) :
    (throw e : Action L σ ε α).program s = .done (.error e, s) := rfl

@[simp] theorem program_get (s : σ) :
    (get : Action L σ ε σ).program s = .done (.ok s, s) := rfl

@[simp] theorem program_set (s t : σ) :
    (set t : Action L σ ε PUnit).program s = .done (.ok (), t) := rfl

@[simp] theorem program_modify (f : σ → σ) (s : σ) :
    (modify f : Action L σ ε PUnit).program s = .done (.ok (), f s) := rfl

theorem program_bind (x : Action L σ ε α) (f : α → Action L σ ε β) (s : σ) :
    (x >>= f).program s = x.program s >>= fun r =>
      match r.1 with
      | .ok a => (f a).program r.2
      | .error e => .done (.error e, r.2) := by
  show x.run s >>= _ = x.run s >>= _
  congr 1
  funext r
  obtain ⟨r | r, s⟩ := r <;> rfl

theorem program_tryCatch (x : Action L σ ε α) (handle : ε → Action L σ ε α) (s : σ) :
    (tryCatch x handle).program s = x.program s >>= fun r =>
      match r.1 with
      | .ok a => .done (.ok a, r.2)
      | .error e => (handle e).program r.2 := by
  show x.run s >>= _ = x.run s >>= _
  congr 1
  funext r
  obtain ⟨r | r, s⟩ := r <;> rfl

theorem program_adapt (f : ε → ε') (x : Action L σ ε α) (s : σ) :
    (x.adapt f).program s = x.program s >>= fun r =>
      .done (match r.1 with | .ok a => .ok a | .error e => .error (f e), r.2) := by
  show x.run s >>= _ = x.run s >>= _
  congr 1
  funext r
  obtain ⟨r | r, s⟩ := r <;> rfl

theorem program_lift (x : StateT σ L.Task α) (s : σ) :
    (liftM x : Action L σ ε α).program s = x.run s >>= fun r => .done (.ok r.1, r.2) := rfl

theorem program_request (r : L.Request) (s : σ) :
    @program L σ Error (no_index (L.Value r)) (request r) s =
      .call (I := L.interface) (.request r) fun x => .done (x, s) := rfl

theorem program_report [Build] (line : String) (e : ε) (s : σ) :
    (report line e : Action L σ ε α).program s =
      debugMessage line >>= fun _ => .done (.error e, s) := by
  show (debugMessage line >>= fun u => .done (u, s)) >>= _ = _
  rw [Program.bind_assoc]
  rfl

theorem program_attempt [Build] (line : String) (r : L.Request) (s : σ) :
    @program L σ Error (no_index (L.Value r)) (attempt line r) s =
      .call (I := L.interface) (.request r) fun (x : Except Error (L.Value r)) =>
        match x with
        | .ok v => .done (.ok v, s)
        | .error e => debugMessage line >>= fun _ => .done (.error e, s) := by
  rw [attempt, logFailure, program_tryCatch, program_request]
  show Program.call _ _ = Program.call _ _
  congr 1
  funext x
  cases x with
  | ok v => rfl
  | error e => exact program_report line e s

theorem program_thenAlways (x : Action L σ ε α) (after : StateT σ L.Task Unit) (s : σ) :
    (thenAlways x after).program s = x.program s >>= fun r =>
      after.run r.2 >>= fun r' => .done (r.1, r'.2) := rfl

end Action

end BoardSupport.ChipSupport
