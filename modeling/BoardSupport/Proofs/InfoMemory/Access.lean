import BoardSupport.Proofs.Flash.Operations
import BoardSupport.Proofs.InfoMemory.Store

/-!
# Accesses of information memory in a flash array

What one command of information memory does on a flash array, told once: `Access.Outcome` has one
case for each way in which a command can go, with the answer, the calls that are made and the state
they leave.  Every command has such an execution in every state of the array (`executes_perform`),
so no command ends in a fault.
-/

namespace BoardSupport.InfoMemory

open Flash (Routine)
open NorArray (handler address readHistory reprogramCalls reprogramOperations MaskedHistory)
open Program (Executes)

/-- A command of information memory that was performed on a flash array. -/
abbrev Access : Type := Transition commands Flash.interface NorArray

/-- The bytes of a section with `data` in place of those from `position` on. -/
def renewed (s : NorArray) (sect : Section) (position : UInt8) (data : List UInt8) : List UInt8 :=
  splice (window s.memory sect.offset sectionSize) position.toNat data

/-- The array once `data` is stored from `position` of a section on: the segment was erased and
programmed once, and the controller is locked and without a mode. -/
def stored (s : NorArray) (sect : Section) (position : UInt8) (data : List UInt8) : NorArray :=
  { s with
    memory := overwrite s.memory (sect.offset + position.toNat) data
    control1 := 0
    locked := true
    erased := s.erased ++ [sect.base]
    programmed := s.programmed + sectionSize }

section Stored

variable (s : NorArray) (sect : Section) (position : UInt8) (data : List UInt8)

@[simp] theorem stored_memory : (stored s sect position data).memory =
    overwrite s.memory (sect.offset + position.toNat) data := by
  rw [stored]

@[simp] theorem stored_control1 : (stored s sect position data).control1 = 0 := by
  rw [stored]

@[simp] theorem stored_locked : (stored s sect position data).locked = true := by
  rw [stored]

@[simp] theorem stored_erased :
    (stored s sect position data).erased = s.erased ++ [sect.base] := by
  rw [stored]

@[simp] theorem stored_programmed :
    (stored s sect position data).programmed = s.programmed + sectionSize := by
  rw [stored]

@[simp] theorem stored_unmasked : (stored s sect position data).unmasked = s.unmasked := by
  rw [stored]

@[simp] theorem stored_depth : (stored s sect position data).depth = s.depth := by
  rw [stored]

end Stored

/-- The history of storing bytes: the segment is read, and then interrupts are masked for `inner`. -/
def storeHistory (s : NorArray) (sect : Section) (inner : History Flash.interface NorArray)
    (t : NorArray) : History Flash.interface NorArray :=
  readHistory s sect.offset (window s.memory sect.offset sectionSize) ++
    (⟨.mask, ()⟩, s) :: (inner ++ [(⟨.unmask, ()⟩, { t with depth := s.depth + 1 })])

/-- The ways in which a command can go. -/
inductive Access.Outcome (d : Access) : Prop
  /-- The command is refused without a call. -/
  | refused (e : Error) (hgrant : d.command.grant = .error e)
      (hanswer : d.answer = d.command.answer (.error e) d.command.bytes)
      (hcalls : d.calls = []) (hafter : d.after = d.before)
  /-- A range is read. -/
  | fetched (sect : Section) (hgrant : d.command.grant = .ok sect)
      (hread : d.command.isWrite = false) (bytes : List UInt8)
      (hbytes : bytes = window d.before.memory (sect.offset + d.command.position.toNat)
        d.command.bytes.length)
      (hanswer : d.answer = d.command.answer (.ok d.command.bytes.length) bytes)
      (hcalls : d.calls =
        readHistory d.before (sect.offset + d.command.position.toNat) bytes)
      (hafter : d.after = d.before)
  /-- There is nothing to store. -/
  | idle (sect : Section) (hgrant : d.command.grant = .ok sect)
      (hwrite : d.command.isWrite = true) (hempty : d.command.bytes = [])
      (hanswer : d.answer = d.command.answer (.ok 0) [])
      (hcalls : d.calls = []) (hafter : d.after = d.before)
  /-- The segment is saved, and then erased and programmed with interrupts masked. -/
  | stored (sect : Section) (hstores : d.command.Stores sect)
      (hanswer : d.answer = d.command.answer (.ok d.command.bytes.length) [])
      (inner : History Flash.interface NorArray)
      (hcalls : d.calls = storeHistory d.before sect inner d.after)
      (hinner : MaskedHistory inner
        (reprogramCalls sect.offset
          (renewed d.before sect d.command.position d.command.bytes))
        (reprogramOperations sect.offset
          (renewed d.before sect d.command.position d.command.bytes)))
      (hafter : d.after = stored d.before sect d.command.position d.command.bytes)

/-! ## The routines -/

theorem base_add_position (sect : Section) (position : UInt8) :
    sect.base + position.toUInt16 = address (sect.offset + position.toNat) := by
  have hposition : position.toUInt16 = position.toNat.toUInt16 :=
    (UInt16.ofNat_uInt8ToNat position).symm
  rw [base_eq_address, hposition, NorArray.address_add]

theorem executes_read (s : NorArray) (sect : Section) {position : UInt8} {buffer : List UInt8}
    (h : Fits position buffer.length) :
    Executes handler s (InfoMemory.read sect position buffer)
      (readHistory s (sect.offset + position.toNat)
        (window s.memory (sect.offset + position.toNat) buffer.length))
      (.ok buffer.length, window s.memory (sect.offset + position.toNat) buffer.length) s := by
  have hsect := offset_add_le sect
  have hrange : sect.offset + position.toNat + buffer.length ≤ NorArray.size := by
    simp only [Fits] at h
    omega
  rw [InfoMemory.read, if_pos h, base_add_position]
  exact (NorArray.executes_readBytes s hrange).bind_done _

theorem length_renewed {s : NorArray} {sect : Section} {position : UInt8} {data : List UInt8}
    (h : Fits position data.length) : (renewed s sect position data).length = sectionSize := by
  have hsaved := @length_window _ s.memory _ _ (offset_add_le sect)
  rw [renewed, length_splice (by rw [hsaved]; exact h), hsaved]

theorem executes_write (s : NorArray) (sect : Section) {position : UInt8} {data : List UInt8}
    (h : Fits position data.length) (hdata : data ≠ []) :
    ∃ inner, MaskedHistory inner (reprogramCalls sect.offset (renewed s sect position data))
        (reprogramOperations sect.offset (renewed s sect position data)) ∧
      Executes handler s (InfoMemory.write sect position data)
        (storeHistory s sect inner (stored s sect position data)) (.ok data.length)
        (stored s sect position data) := by
  have hsect := offset_add_le sect
  have hlen : (renewed s sect position data).length = NorArray.segmentSize := length_renewed h
  -- the memory that the segment is programmed to
  obtain ⟨full, hfull⟩ : ∃ m, m = overwrite s.memory (sect.offset + position.toNat) data :=
    ⟨_, rfl⟩
  have hput : overwrite s.memory sect.offset (renewed s sect position data) = full := by
    rw [hfull]
    exact overwrite_splice h hsect
  -- the states after masking, after storing, and between storing and unmasking
  let s₁ : NorArray := { s with depth := s.depth + 1 }
  let t : NorArray :=
    { s with
      memory := full
      control1 := 0
      locked := true
      erased := s.erased ++ [sect.base]
      programmed := s.programmed + sectionSize }
  let t₁ : NorArray := { t with depth := s.depth + 1 }
  have hs₁ : s₁.isMasked = true := decide_eq_true (Nat.succ_pos s.depth)
  have hread := NorArray.executes_readBytes s hsect
  have hmask : Executes handler s Flash.mask [(⟨.mask, ()⟩, s)] () s₁ := .send rfl
  obtain ⟨inner, hreprogram, hinner⟩ :=
    NorArray.maskedRun_reprogram hs₁ (offset_aligned sect) hlen hsect
  have hreprogram' : Executes handler s₁
      (InfoMemory.reprogram (address sect.offset) (renewed s sect position data)) inner () t₁ := by
    have hmemory : overwrite s₁.memory sect.offset (renewed s sect position data) = full := hput
    rw [hmemory, ← base_eq_address] at hreprogram
    rw [← base_eq_address]
    exact hreprogram
  have hunmask : Executes handler t₁ Flash.unmask [(⟨.unmask, ()⟩, t₁)] () t := .send rfl
  have hempty : data.isEmpty = false := by
    cases data with
    | nil => exact absurd rfl hdata
    | cons byte bytes => rfl
  have ht : stored s sect position data = t := by
    rw [stored, ← hfull]
  have hmasked : Executes handler s
      (Flash.masked (InfoMemory.reprogram (address sect.offset) (renewed s sect position data)))
      ((⟨.mask, ()⟩, s) :: (inner ++ [(⟨.unmask, ()⟩, t₁)])) () t :=
    hmask.bind (hreprogram'.bind hunmask)
  refine ⟨inner, hinner, ?_⟩
  rw [ht, InfoMemory.write, if_neg (not_not_intro h), hempty, base_eq_address]
  exact hread.bind (hmasked.bind_done fun _ => Except.ok data.length)

/-! ## The commands -/

theorem target_tagged (tag : Char) (position : UInt8) (bytes : List UInt8) :
    (Command.readTagged tag position bytes).target = Section.ofTag tag ∧
      (Command.writeTagged tag position bytes).target = Section.ofTag tag := by
  rw [ofTag_eq_lookup]
  exact ⟨rfl, rfl⟩

theorem perform_eq_read {c : Command} {sect : Section} (h : c.target = .ok sect)
    (hread : c.isWrite = false) :
    perform c = InfoMemory.read sect c.position c.bytes >>= fun x => .done (c.answer x.1 x.2) := by
  cases c with
  | write | writeTagged => cases hread
  | read other position buffer =>
    cases h
    exact (bind_pure (InfoMemory.read sect position buffer)).symm
  | readTagged tag position buffer =>
    rw [(target_tagged tag position buffer).1] at h
    show InfoMemory.readTagged tag position buffer = _
    rw [readTagged, h]
    exact (bind_pure (InfoMemory.read sect position buffer)).symm

theorem perform_eq_write {c : Command} {sect : Section} (h : c.target = .ok sect)
    (hwrite : c.isWrite = true) :
    perform c = InfoMemory.write sect c.position c.bytes >>= fun x => .done (c.answer x []) := by
  cases c with
  | read | readTagged => cases hwrite
  | write other position data =>
    cases h
    exact (bind_pure (InfoMemory.write sect position data)).symm
  | writeTagged tag position data =>
    rw [(target_tagged tag position data).2] at h
    show InfoMemory.writeTagged tag position data = _
    rw [writeTagged, h]
    exact (bind_pure (InfoMemory.write sect position data)).symm

/-- A command that gets no section makes no calls at all. -/
theorem perform_refused {c : Command} {e : Error} (h : c.grant = .error e) :
    perform c = .done (c.answer (.error e) c.bytes) := by
  unfold Command.grant at h
  cases htarget : c.target with
  | error e' =>
    -- an unknown letter, which only a command by letter can have
    rw [htarget] at h
    cases h
    cases c with
    | read | write => cases htarget
    | readTagged tag position buffer =>
      rw [(target_tagged tag position buffer).1] at htarget
      show InfoMemory.readTagged tag position buffer = _
      rw [readTagged, htarget]
      rfl
    | writeTagged tag position data =>
      rw [(target_tagged tag position data).2] at htarget
      show InfoMemory.writeTagged tag position data = _
      rw [writeTagged, htarget]
      rfl
  | ok sect =>
    -- a range that ends behind the section
    rw [htarget] at h
    by_cases hfits : Fits c.position c.bytes.length
    · rw [Fits, sectionSize] at hfits
      simp only [if_pos hfits] at h
      cases h
    · have he : Error.outOfRange c.position c.bytes.length = e := by
        rw [Fits, sectionSize] at hfits
        simp only [if_neg hfits] at h
        exact Except.error.inj h
      cases hwrite : c.isWrite with
      | false =>
        rw [perform_eq_read htarget hwrite, InfoMemory.read, if_neg hfits, he]
        rfl
      | true =>
        rw [perform_eq_write htarget hwrite, InfoMemory.write, if_pos hfits, he]
        exact congrArg Program.done (Command.answer_of_isWrite hwrite _ c.bytes).symm

theorem perform_idle {c : Command} {sect : Section} (h : c.grant = .ok sect)
    (hwrite : c.isWrite = true) (hempty : c.bytes = []) : perform c = .done (c.answer (.ok 0) []) := by
  have ⟨htarget, hfits⟩ := Command.grant_eq_ok_iff.1 h
  rw [perform_eq_write htarget hwrite, InfoMemory.write, if_neg (not_not_intro hfits), hempty]
  rfl

/-- Every command, in every state of the array, comes to an end in one of the ways listed. -/
theorem executes_perform (c : Command) (s : NorArray) :
    ∃ r es t, Executes handler s (perform c) es r t ∧ Access.Outcome ⟨c, s, r, es, t⟩ := by
  cases hgrant : c.grant with
  | error e =>
    have hrun : Executes handler s (perform c) [] (c.answer (.error e) c.bytes) s := by
      rw [perform_refused hgrant]
      exact .done s _
    exact ⟨_, _, _, hrun, .refused e hgrant rfl rfl rfl⟩
  | ok sect =>
    have ⟨htarget, hfits⟩ := Command.grant_eq_ok_iff.1 hgrant
    cases hwrite : c.isWrite with
    | false =>
      have hrun := (executes_read s sect hfits).bind_done fun x => c.answer x.1 x.2
      rw [← perform_eq_read htarget hwrite] at hrun
      exact ⟨_, _, _, hrun, .fetched sect hgrant hwrite _ rfl rfl rfl rfl⟩
    | true =>
      by_cases hempty : c.bytes = []
      · have hrun : Executes handler s (perform c) [] (c.answer (.ok 0) []) s := by
          rw [perform_idle hgrant hwrite hempty]
          exact .done s _
        exact ⟨_, _, _, hrun, .idle sect hgrant hwrite hempty rfl rfl rfl⟩
      · obtain ⟨inner, hinner, hstored⟩ := executes_write s sect hfits hempty
        have hrun := hstored.bind_done fun x => c.answer x []
        rw [← perform_eq_write htarget hwrite] at hrun
        exact ⟨_, _, _, hrun, .stored sect ⟨hgrant, hwrite, hempty⟩ rfl inner rfl hinner rfl⟩

/-- Sessions come to their end too, and each of their accesses goes one of these ways. -/
theorem session_ok (cs : List Command) (s : NorArray) :
    ∃ ds t, Machine.session handler perform cs s = .ok (ds, t) ∧
      ds.map Transition.command = cs ∧ ∀ d ∈ ds, Access.Outcome d := by
  have each : ∀ (c : commands.Call) (s : NorArray), ∃ r es t,
      Executes handler s (perform c) es r t ∧ Access.Outcome ⟨c, s, r, es, t⟩ := executes_perform
  exact Machine.session_ok each cs s

end BoardSupport.InfoMemory
