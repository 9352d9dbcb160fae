import BoardSupport.ChipSupport.Bank
import BoardSupport.Proofs.ChipSupport.Inversion

/-!
# Custody of a handle

A driver gets a handle from the library when it opens its module, and gives it up when it closes the
module.  The drivers agree in the first and differ in the second: some give the handle up only if the
library lets them, others whatever the library says, and others half way.

- `Custody`: what one driver has to say about its handle, its policy on releases included.
- `Custody.handleAfter`: the handle as it follows from commands and calls of a run alone.
- `Custody.Fate`: all that a command can do about the handle.  Whether a command has a fate is a matter
  of its runs, and most commands have one because they leave the handle alone (`Fate.of_leaves`).
- `Custody.Holds`, `holds_of_fate`: over any commands and on any device the handle is what it has to
  be, and every turn keeps to the rules.
-/

namespace BoardSupport.ChipSupport

variable {C : Interface} {L : Library} {σ τ α : Type}

/-- A driver's handle, and what opens and releases it. -/
structure Custody (C : Interface) (L : Library) (σ : Type) where
  /-- The handle, as long as there is a driver. -/
  handle? : σ → Option Bank
  /-- The bank that a call of the library yields if it opens the module. -/
  opened? : Event L.interface → Option Bank
  /-- The commands that open the module. -/
  opening : C.Call → Bool
  /-- Whether a command that has made some calls releases the handle. -/
  releases : C.Call → List (Event L.interface) → Bool

namespace Custody

variable (K : Custody C L σ)

/-- The call does not open the module, whatever the library answers. -/
def Idle (call : L.Call) : Prop := ∀ reply, K.opened? ⟨call, reply⟩ = none

/-- What a turn does to the handle, in its order: it is set to a bank, or released. -/
def changes (turn : Turn C L.interface (Session σ τ)) : List (Option Bank) :=
  (turn.calls.filterMap K.opened?).map some ++
    if K.releases turn.command turn.calls then [none] else []

/-- The handle after some turns: the bank that was opened last, unless it was released since. -/
def handleAfter (turns : List (Turn C L.interface (Session σ τ))) : Bank :=
  ((turns.flatMap K.changes).getLast?.getD none).getD .unmapped

/-- What becomes of the handle in a turn. -/
structure Policy (turn : Turn C L.interface (Session σ τ)) : Prop where
  /-- If the module cannot be opened, the driver keeps the handle that it had. -/
  openFailed : K.opening turn.command = true → turn.calls.filterMap K.opened? = [] →
    ∀ bank ∈ K.handle? turn.after.driver, K.handle? turn.before.driver = some bank
  /-- Once the module is open the driver keeps its bank, whatever fails afterwards. -/
  opened : ∀ bank ∈ turn.calls.filterMap K.opened?, ∀ bank' ∈ K.handle? turn.after.driver,
    bank' = bank
  /-- A release leaves no handle. -/
  released : K.releases turn.command turn.calls = true →
    ∀ bank ∈ K.handle? turn.after.driver, bank = .unmapped
  /-- Nothing else touches the handle. -/
  kept : K.opening turn.command = false → K.releases turn.command turn.calls = false →
    K.handle? turn.after.driver = K.handle? turn.before.driver

/-- Over any commands and on any device, from a driver in state `start`: after every turn the handle,
if there still is a driver, is the bank that was opened last unless it was released since, and all
turns keep to the policy. -/
def Holds (driver : Handler C (StateT σ L.Task)) (start : σ) : Prop :=
  ∀ {τ : Type} (d : Device L τ) (t : τ) (k : Console) (cs : List C.Call),
    let turns := ((Session.performer d driver).play cs ⟨start, t, k⟩).1
    (∀ (before later : List (Turn C L.interface (Session σ τ))) turn,
        turns = before ++ turn :: later →
        ∀ bank ∈ K.handle? turn.after.driver, bank = K.handleAfter (before ++ [turn])) ∧
      ∀ turn ∈ turns, K.Policy turn

/-- What a command can do about the handle, by the calls that it makes. -/
inductive Fate (before : σ) (c : C.Call) (es : List (Event L.interface)) (after : σ) : Prop where
  /-- The handle stays as it is. -/
  | kept (hopened : es.filterMap K.opened? = []) (hreleases : K.releases c es = false)
      (hhandle : K.handle? after = K.handle? before)
  /-- The module is opened, and the driver keeps the bank if it lives on. -/
  | opened (bank : Bank) (hopening : K.opening c = true) (hopened : es.filterMap K.opened? = [bank])
      (hreleases : K.releases c es = false) (hhandle : ∀ bank' ∈ K.handle? after, bank' = bank)
  /-- The handle is released. -/
  | released (hopening : K.opening c = false) (hopened : es.filterMap K.opened? = [])
      (hreleases : K.releases c es = true) (hhandle : ∀ bank ∈ K.handle? after, bank = .unmapped)
  /-- The module cannot be opened, and there is no driver any more. -/
  | dropped (hopening : K.opening c = true) (hopened : es.filterMap K.opened? = [])
      (hreleases : K.releases c es = false) (hhandle : K.handle? after = none)

variable {K}

theorem handleAfter_concat (history : List (Turn C L.interface (Session σ τ)))
    (turn : Turn C L.interface (Session σ τ)) :
    K.handleAfter (history ++ [turn]) =
      ((K.changes turn).getLast?.map fun change => change.getD .unmapped).getD
        (K.handleAfter history) := by
  rw [handleAfter, List.flatMap_append, List.flatMap_singleton, List.getLast?_append]
  cases (K.changes turn).getLast? <;> rfl

namespace Fate

variable {s t : σ} {c : C.Call} {es : List (Event L.interface)}

/-- A command that opens nothing and leaves the handle alone. -/
theorem of_leaves {x : StateT σ L.Task α} {a : α} (hreleases : K.releases c es = false)
    (hx : Leaves K.Idle K.handle? x) (hrun : Program.Runs (x.run s) es (a, t)) :
    K.Fate s c es t := by
  obtain ⟨hidle, hhandle⟩ := hx s es a t hrun
  refine .kept (List.filterMap_eq_nil_iff.2 fun e he => ?_) hreleases hhandle
  exact hidle e he e.reply

/-- The handle afterwards follows from what the turn does to it, if it did so before. -/
theorem handle_eq {turn : Turn C L.interface (Session σ τ)} {bank : Bank}
    (h : K.Fate turn.before.driver turn.command turn.calls turn.after.driver)
    (hbefore : ∀ bank' ∈ K.handle? turn.before.driver, bank' = bank) :
    ∀ bank' ∈ K.handle? turn.after.driver, bank' =
      ((K.changes turn).getLast?.map fun change => change.getD .unmapped).getD bank := by
  intro bank' hbank'
  rw [changes]
  cases h with
  | kept hopened hreleases hhandle =>
    rw [hopened, hreleases]
    exact hbefore bank' (hhandle ▸ hbank')
  | opened opened hopening hopened hreleases hhandle =>
    rw [hopened, hreleases]
    exact hhandle bank' hbank'
  | released hopening hopened hreleases hhandle =>
    rw [hopened, hreleases]
    exact hhandle bank' hbank'
  | dropped hopening hopened hreleases hhandle =>
    rw [hhandle] at hbank'
    cases hbank'

theorem policy {turn : Turn C L.interface (Session σ τ)}
    (h : K.Fate turn.before.driver turn.command turn.calls turn.after.driver) : K.Policy turn := by
  cases h with
  | kept hopened hreleases hhandle =>
    exact
      { openFailed := fun _ _ bank hbank => hhandle ▸ hbank
        opened := by simp [hopened]
        released := by simp [hreleases]
        kept := fun _ _ => hhandle }
  | opened bank hopening hopened hreleases hhandle =>
    exact
      { openFailed := by simp [hopened]
        opened := by simpa [hopened] using hhandle
        released := by simp [hreleases]
        kept := by simp [hopening] }
  | released hopening hopened hreleases hhandle =>
    exact
      { openFailed := by simp [hopening]
        opened := by simp [hopened]
        released := fun _ => hhandle
        kept := by simp [hreleases] }
  | dropped hopening hopened hreleases hhandle =>
    exact
      { openFailed := by simp [hhandle]
        opened := by simp [hopened]
        released := by simp [hreleases]
        kept := by simp [hopening] }

end Fate

/-- If every command has a fate, in every state of the driver, then the handle is in custody. -/
theorem holds_of_fate {driver : Handler C (StateT σ L.Task)} {start : σ}
    (hstart : ∀ bank ∈ K.handle? start, bank = .unmapped)
    (hfate : ∀ s c es answer t, Program.Runs ((driver c).run s) es (answer, t) → K.Fate s c es t) :
    K.Holds driver start := by
  intro τ d t k cs turns
  have hturn : ∀ c (s : Session σ τ),
      let turn := (Session.performer d driver).turn c s
      K.Fate turn.before.driver turn.command turn.calls turn.after.driver := by
    intro c s
    exact hfate s.driver c _ _ _ (Session.runs_turn d driver c s)
  refine ⟨fun before later turn hsplit => ?_, ?_⟩
  · refine Performer.play_induction (P := fun history s =>
      ∀ bank ∈ K.handle? s.driver, bank = K.handleAfter history) ?_ cs [] hstart hsplit
    intro history c s hs
    rw [handleAfter_concat]
    exact (hturn c s).handle_eq hs
  · exact Performer.forall_turns (P := K.Policy) (fun c s => (hturn c s).policy) cs _

end Custody

end BoardSupport.ChipSupport
