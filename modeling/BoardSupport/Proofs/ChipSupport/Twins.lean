import BoardSupport.ChipSupport.Action
import BoardSupport.Proofs.ChipSupport.Session

/-!
# Operations that are built twice

Of the same driver there are two builds, with and without messages.  Built either way an operation
does the same, but for what it tells the console; and whatever the sink says to a line, the operation
goes on as if nothing had been said.  That is a matter of every single place where a message is sent,
so there is one rule for each way in which operations are put together.

- `MayTell`: what is told to the console in a build.
- `Twins`: a computation of one build and one of another do the same but for that.
- `Action.Twins`: the same for operations that may end in an error.
-/

namespace BoardSupport.ChipSupport

variable {I : Interface} {L : Library} {σ ε ε' α β : Type}

/-- The call, if it is one of the console, is made in this build: lines are sent only with messages. -/
def MayTell (build : Build) (call : Option DebugCall) : Prop :=
  ∀ text, call = some (.line text) → build.debugMessages = true

theorem mayTell_attach (build : Build) (sink : Sink) : MayTell build (some (.attach sink)) := by
  rintro text ⟨⟩

theorem mayTell_line {build : Build} (h : build.debugMessages = true) (text : String) :
    MayTell build (some (.line text)) :=
  fun _ _ => h

/-- The programs, the one as it is in `build` and the other as it is in `build'`, are alike but for
what they tell the console. -/
abbrev AlikeBuilt (debug? : I.Call → Option DebugCall) (build build' : Build) :
    Program I α → Program I α → Prop :=
  Program.Alike (fun c => (debug? c).isSome) (fun c => MayTell build (debug? c))
    (fun c => MayTell build' (debug? c))

/-- From every state the computation of `build` and the one of `build'` do the same but for what they
tell the console. -/
def Twins (build build' : Build) (x y : StateT σ L.Task α) : Prop :=
  ∀ s, AlikeBuilt Library.Call.debug? build build' (x.run s) (y.run s)

namespace Twins

variable {build build' : Build} {x y : StateT σ L.Task α} {f g : α → StateT σ L.Task β}

theorem pure (a : α) : Twins build build' (pure a : StateT σ L.Task α) (pure a) :=
  fun s => .done (a, s)

theorem modify (f : σ → σ) : Twins build build' (modify f : StateT σ L.Task PUnit) (modify f) :=
  fun s => .done ((), f s)

theorem get : Twins build build' (get : StateT σ L.Task σ) get :=
  fun s => .done (s, s)

theorem bind (h : Twins build build' x y) (hfg : ∀ a, Twins build build' (f a) (g a)) :
    Twins build build' (x >>= f) (y >>= g) := by
  intro s
  rw [StateT.run_bind, StateT.run_bind]
  exact (h s).bind fun r => hfg r.1 r.2

theorem map (f : α → β) (h : Twins build build' x y) : Twins build build' (f <$> x) (f <$> y) := by
  rw [map_eq_pure_bind, map_eq_pure_bind]
  exact h.bind fun a => pure (f a)

theorem lift {p q : L.Task α} (h : AlikeBuilt Library.Call.debug? build build' p q) :
    Twins build build' (StateT.lift p : StateT σ L.Task α) (StateT.lift q) :=
  fun s => h.bind fun a => .done (a, s)

theorem access (a : L.Access) :
    Twins build build' (StateT.lift (access a) : StateT σ L.Task (L.Answer a))
      (StateT.lift (access a)) :=
  lift (Program.Alike.send rfl)

theorem leftover :
    Twins build build' (StateT.lift leftover : StateT σ L.Task (List UInt16))
      (StateT.lift leftover) :=
  lift (Program.Alike.send rfl)

/-- What the sink says to a line makes no difference, nor does it make one that no line is sent. -/
theorem debugMessage (line : String) :
    Twins build build' (StateT.lift (@ChipSupport.debugMessage L build line) : StateT σ L.Task Unit)
      (StateT.lift (@ChipSupport.debugMessage L build' line)) := by
  refine lift ?_
  unfold ChipSupport.debugMessage
  by_cases h : build.debugMessages = true <;> by_cases h' : build'.debugMessages = true
  · rw [if_pos h, if_pos h']
    exact .left rfl (mayTell_line h line) fun _ =>
      .right rfl (mayTell_line h' line) fun _ => .done ()
  · rw [if_pos h, if_neg h']
    exact .left rfl (mayTell_line h line) fun _ => .done ()
  · rw [if_neg h, if_pos h']
    exact .right rfl (mayTell_line h' line) fun _ => .done ()
  · rw [if_neg h, if_neg h']
    exact .done ()

/-- It makes no difference that another sink is attached. -/
theorem attach_left {next : Unit → StateT σ L.Task α} (sink : Sink)
    (h : Twins build build' (next ()) y) :
    Twins build build' (StateT.lift (debug (.attach sink)) >>= next) y :=
  fun s => .left rfl (mayTell_attach build sink) fun _ => h s

theorem attach {next next' : Unit → StateT σ L.Task α} (sink : Sink)
    (h : Twins build build' (next ()) (next' ())) :
    Twins build build' (StateT.lift (debug (.attach sink)) >>= next)
      (StateT.lift (debug (.attach sink)) >>= next') :=
  attach_left sink fun s => .right rfl (mayTell_attach build' sink) fun _ => h s

end Twins

/-- The operation of `build` and the one of `build'` do the same but for what they tell the console. -/
abbrev Action.Twins (build build' : Build) (x y : Action L σ ε α) : Prop :=
  ChipSupport.Twins build build' x.run y.run

namespace Action.Twins

variable {build build' : Build} {x y : Action L σ ε α} {f g : α → Action L σ ε β}

theorem pure (a : α) : Twins build build' (pure a : Action L σ ε α) (pure a) :=
  ChipSupport.Twins.pure _

theorem throw (e : ε) : Twins build build' (throw e : Action L σ ε α) (throw e) :=
  ChipSupport.Twins.pure _

theorem get : Twins build build' (get : Action L σ ε σ) get :=
  fun s => .done (Except.ok s, s)

theorem modify (f : σ → σ) : Twins build build' (modify f : Action L σ ε PUnit) (modify f) :=
  fun s => .done (Except.ok (), f s)

theorem bind (h : Twins build build' x y) (hfg : ∀ a, Twins build build' (f a) (g a)) :
    Twins build build' (x >>= f) (y >>= g) := by
  refine ChipSupport.Twins.bind h fun r => ?_
  cases r with
  | ok a => exact hfg a
  | error e => exact ChipSupport.Twins.pure _

theorem tryCatch {handle handle' : ε → Action L σ ε α} (h : Twins build build' x y)
    (hhandle : ∀ e, Twins build build' (handle e) (handle' e)) :
    Twins build build' (tryCatch x handle) (tryCatch y handle') := by
  refine ChipSupport.Twins.bind h fun r => ?_
  cases r with
  | ok a => exact ChipSupport.Twins.pure _
  | error e => exact hhandle e

theorem adapt (f : ε → ε') (h : Twins build build' x y) :
    Twins build build' (x.adapt f) (y.adapt f) := by
  refine ChipSupport.Twins.bind h fun r => ?_
  cases r with
  | ok a => exact ChipSupport.Twins.pure _
  | error e => exact ChipSupport.Twins.pure _

theorem lift {x y : StateT σ L.Task α} (h : ChipSupport.Twins build build' x y) :
    Twins build build' (liftM x : Action L σ ε α) (liftM y) :=
  h.bind fun _ => ChipSupport.Twins.pure _

theorem request (r : L.Request) :
    Twins build build' (request r : Action L σ Error (L.Value r)) (request r) :=
  ChipSupport.Twins.lift (Program.Alike.send rfl)

theorem report (line : String) (e : ε) :
    Twins build build' (@ChipSupport.report L σ ε α build line e)
      (@ChipSupport.report L σ ε α build' line e) :=
  (ChipSupport.Twins.debugMessage line).bind fun _ => ChipSupport.Twins.pure _

theorem logFailure (line : String) (h : Twins build build' x y) :
    Twins build build' (@ChipSupport.logFailure L σ ε α build line x)
      (@ChipSupport.logFailure L σ ε α build' line y) :=
  h.tryCatch fun e => report line e

theorem attempt (line : String) (r : L.Request) :
    Twins build build' (@ChipSupport.attempt L σ build line r)
      (@ChipSupport.attempt L σ build' line r) :=
  (request r).logFailure line

theorem thenAlways {after after' : StateT σ L.Task Unit} (h : Twins build build' x y)
    (hafter : ChipSupport.Twins build build' after after') :
    Twins build build' (thenAlways x after) (thenAlways y after') :=
  ChipSupport.Twins.bind h fun r => hafter.bind fun _ => ChipSupport.Twins.pure r

theorem regardless (h : Twins build build' x y) :
    ChipSupport.Twins build build' (regardless x) (regardless y) :=
  h.map _

end Action.Twins

end BoardSupport.ChipSupport
