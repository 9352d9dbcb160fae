import BoardSupport.Proofs.Flash.Range
import BoardSupport.Proofs.Program.Execution

/-!
# Operations on the flash array

What a call of the controller does depends on the state in which it is made: the same byte write
erases a segment, programs a byte or does nothing.  `NorArray.operations` reads off a history what
was done to the array.

- `executes_readBytes`: reading delivers a range of the memory and changes nothing.
- `MaskedRun`: a routine that does all it does with interrupts masked.
- `maskedRun_writeBytes`: programming a blank range stores the bytes in it.
- `maskedRun_reprogram`: the whole of erasing and programming a segment.
-/

namespace BoardSupport.NorArray

open Flash (Routine)
open Program (Executes)

/-- What can be done to the array and its controller. -/
inductive Operation where
  /-- The controller is unlocked. -/
  | unlock
  /-- The controller is locked. -/
  | lock
  /-- The mode is set. -/
  | setMode (value : BitVec 16)
  /-- The segment that holds an address is erased. -/
  | erase (address : UInt16)
  /-- A byte is programmed. -/
  | program (address : UInt16) (byte : UInt8)
  deriving DecidableEq, Repr

/-- What a call does to the array in the state in which it is made, if anything. -/
def operation? : Flash.Call → NorArray → Option Operation
  | .setControl1 value, _ => some (.setMode value)
  | .setControl3 value, _ => some (if contains value FlashControl3.lock then .lock else .unlock)
  | .write address byte, s =>
    if s.locked then
      none
    else if contains s.control1 FlashControl1.erase then
      some (.erase address)
    else if contains s.control1 FlashControl1.write then
      some (.program address byte)
    else
      none
  | .read _, _ | .mask, _ | .unmask, _ => none

/-- What the calls of a history do to the array, in order. -/
def operations (es : History Flash.interface NorArray) : List Operation :=
  es.filterMap fun e => operation? e.1.call e.2

theorem operations_append (es es' : History Flash.interface NorArray) :
    operations (es ++ es') = operations es ++ operations es' :=
  List.filterMap_append ..

/-! ## Reading -/

/-- The addresses of `bytes` from place `i` on. -/
def placed (i : Nat) : List UInt8 → List (UInt16 × UInt8)
  | [] => []
  | byte :: bytes => (address i, byte) :: placed (i + 1) bytes

theorem mem_placed {i : Nat} {bytes : List UInt8} {w : UInt16 × UInt8} (h : w ∈ placed i bytes) :
    ∃ k < bytes.length, w.1 = address (i + k) := by
  induction bytes generalizing i with
  | nil => cases h
  | cons byte bytes ih =>
    rcases List.mem_cons.1 h with rfl | h
    · exact ⟨0, Nat.succ_pos _, rfl⟩
    · obtain ⟨k, hk, hw⟩ := ih h
      refine ⟨k + 1, Nat.succ_lt_succ hk, ?_⟩
      rw [hw, Nat.add_right_comm, Nat.add_assoc]

theorem map_placed {β : Type} (f : UInt16 × UInt8 → β) (i : Nat) (bytes : List UInt8) :
    (placed i bytes).map f = bytes.mapIdx fun k byte => f (address i + k.toUInt16, byte) := by
  induction bytes generalizing i with
  | nil => rfl
  | cons byte bytes ih =>
    rw [placed, List.map_cons, ih, List.mapIdx_cons, address_add_zero]
    simp only [address_succ_add]

/-- The history of reading `bytes` from place `i` on, all in state `s`. -/
def readHistory (s : NorArray) (i : Nat) (bytes : List UInt8) : History Flash.interface NorArray :=
  (placed i bytes).map fun w => (⟨.read w.1, w.2⟩, s)

theorem mem_readHistory {s : NorArray} {i : Nat} {bytes : List UInt8}
    {e : Event Flash.interface × NorArray} (h : e ∈ readHistory s i bytes) :
    ∃ k < bytes.length, e.1.call = .read (address (i + k)) := by
  obtain ⟨w, hw, rfl⟩ := List.mem_map.1 h
  obtain ⟨k, hk, hplace⟩ := mem_placed hw
  refine ⟨k, hk, ?_⟩
  rw [← hplace]

theorem operations_readHistory (s : NorArray) (i : Nat) (bytes : List UInt8) :
    operations (readHistory s i bytes) = [] := by
  rw [operations, List.filterMap_eq_nil_iff]
  intro e he
  obtain ⟨k, -, hcall⟩ := mem_readHistory he
  rw [hcall]
  rfl

/-- A range is read address by address. -/
theorem calls_readHistory (s : NorArray) (i : Nat) (bytes : List UInt8) :
    (readHistory s i bytes).map (·.1.call) =
      (List.range bytes.length).map fun k => .read (address i + k.toUInt16) := by
  rw [readHistory, List.map_map, map_placed]
  refine List.ext_getElem ?_ fun k hk hk' => ?_
  · rw [List.length_mapIdx, List.length_map, List.length_range]
  · simp only [List.getElem_mapIdx, List.getElem_map, List.getElem_range, Function.comp]

theorem run_read (s : NorArray) {i : Nat} (h : i < size) :
    (handler (.read (address i))).run s = .ok (s.memory.get ⟨i, h⟩, s) := by
  simp only [handler, locate_address h]
  rfl

/-- In the programming mode a write clears the bits of one byte that are zero in the new one. -/
theorem store_of_programming {s : NorArray} (hs : s.isMasked = true) (hopen : s.locked = false)
    (hmode : s.control1 = FlashControl1.write) (i : Fin size) (byte : UInt8) :
    s.store i byte =
      { s with
        memory := s.memory.set i (s.memory.get i &&& byte) i.isLt
        programmed := s.programmed + 1 } := by
  have hno : contains s.control1 FlashControl1.erase = false := by
    rw [hmode]
    decide
  have hyes : contains s.control1 FlashControl1.write = true := by
    rw [hmode]
    decide
  simp [store, hopen, hs, hno, hyes]

theorem operation?_of_programming {s : NorArray} (hopen : s.locked = false)
    (hmode : s.control1 = FlashControl1.write) (a : UInt16) (byte : UInt8) :
    operation? (.write a byte) s = some (.program a byte) := by
  rw [operation?, hopen, hmode]
  rfl

/-- In the erase mode a write sets a segment to all ones. -/
theorem store_of_erasing {s : NorArray} (hs : s.isMasked = true) (hopen : s.locked = false)
    (hmode : s.control1 = FlashControl1.erase) (i : Fin size) (byte : UInt8) :
    s.store i byte =
      { s with memory := eraseSegment s.memory i, erased := s.erased ++ [segmentBase i] } := by
  have hyes : contains s.control1 FlashControl1.erase = true := by
    rw [hmode]
    decide
  simp [store, hopen, hs, hyes]

theorem operation?_of_erasing {s : NorArray} (hopen : s.locked = false)
    (hmode : s.control1 = FlashControl1.erase) (a : UInt16) (byte : UInt8) :
    operation? (.write a byte) s = some (.erase a) := by
  rw [operation?, hopen, hmode]
  rfl

theorem run_write (s : NorArray) {i : Nat} (h : i < size) (byte : UInt8) :
    (handler (.write (address i) byte)).run s = .ok ((), s.store ⟨i, h⟩ byte) := by
  simp only [handler, locate_address h]
  rfl

/-- Reading delivers a range of the memory and changes nothing. -/
theorem executes_readBytes (s : NorArray) {i count : Nat} (h : i + count ≤ size) :
    Executes handler s (Flash.readBytes (address i) count)
      (readHistory s i (window s.memory i count)) (window s.memory i count) s := by
  induction count generalizing i with
  | zero =>
    rw [window_zero]
    exact .done s []
  | succ count ih =>
    have hi : i < size := by omega
    have hrest := ih (i := i + 1) (by omega)
    rw [window_succ hi]
    refine .call (run_read s hi) ?_
    rw [address_succ]
    exact hrest.bind_done _

/-! ## Writing with interrupts masked -/

/-- A history consists of `calls`, all of them made with interrupts masked, and does `ops` to the
array by them. -/
structure MaskedHistory (es : History Flash.interface NorArray) (calls : List Flash.Call)
    (ops : List Operation) : Prop where
  calls : es.map (·.1.call) = calls
  masked : ∀ e ∈ es, e.2.isMasked = true
  operations : operations es = ops

theorem MaskedHistory.append {es es' : History Flash.interface NorArray}
    {calls calls' : List Flash.Call} {ops ops' : List Operation}
    (h : MaskedHistory es calls ops) (h' : MaskedHistory es' calls' ops') :
    MaskedHistory (es ++ es') (calls ++ calls') (ops ++ ops') := by
  refine ⟨?_, fun e he => ?_, ?_⟩
  · rw [List.map_append, h.calls, h'.calls]
  · rcases List.mem_append.1 he with he | he
    · exact h.masked e he
    · exact h'.masked e he
  · rw [operations_append, h.operations, h'.operations]

/-- From state `s` a routine makes `calls` with interrupts masked, does `ops` to the array by them,
and leaves state `t`. -/
def MaskedRun (s : NorArray) (p : Routine Unit) (calls : List Flash.Call) (ops : List Operation)
    (t : NorArray) : Prop :=
  ∃ es, Executes handler s p es () t ∧ MaskedHistory es calls ops

theorem MaskedRun.done (s : NorArray) : MaskedRun s (.done ()) [] [] s :=
  ⟨[], .done s (), rfl, by simp, rfl⟩

theorem MaskedRun.bind {s t u : NorArray} {p q : Routine Unit} {calls calls' : List Flash.Call}
    {ops ops' : List Operation} (first : MaskedRun s p calls ops t)
    (later : MaskedRun t q calls' ops' u) :
    MaskedRun s (p >>= fun _ => q) (calls ++ calls') (ops ++ ops') u := by
  obtain ⟨es, hex, h⟩ := first
  obtain ⟨es', hex', h'⟩ := later
  exact ⟨es ++ es', hex.bind hex', h.append h'⟩

theorem maskedRun_setControl1 {s : NorArray} (hs : s.isMasked = true) (value : BitVec 16) :
    MaskedRun s (Flash.setControl1 value) [.setControl1 value] [.setMode value]
      { s with control1 := value } :=
  ⟨_, .send rfl, rfl, by simpa using hs, rfl⟩

theorem maskedRun_setControl3 {s : NorArray} (hs : s.isMasked = true) (value : BitVec 16) :
    MaskedRun s (Flash.setControl3 value) [.setControl3 value]
      [if contains value FlashControl3.lock then .lock else .unlock]
      { s with locked := contains value FlashControl3.lock } :=
  ⟨_, .send rfl, rfl, by simpa using hs, rfl⟩

theorem maskedRun_write {s : NorArray} (hs : s.isMasked = true) {i : Nat} (h : i < size)
    {byte : UInt8} {op : Operation} (hop : operation? (.write (address i) byte) s = some op) :
    MaskedRun s (Program.send (I := Flash.interface) (.write (address i) byte))
      [.write (address i) byte] [op] (s.store ⟨i, h⟩ byte) := by
  refine ⟨_, .send (run_write s h byte), rfl, by simpa using hs, ?_⟩
  simp only [operations, List.filterMap_cons, List.filterMap_nil, hop]

/-- Programming a blank range stores the bytes in it.  The induction is on the bytes still to come;
their range stays blank because each write changes one place in front of it. -/
theorem maskedRun_writeBytes {s : NorArray} {i : Nat} {bytes : List UInt8}
    (hs : s.isMasked = true) (hopen : s.locked = false)
    (hmode : s.control1 = FlashControl1.write) (hrange : i + bytes.length ≤ size)
    (hblank : ∀ j : Fin size, i ≤ j → j.val < i + bytes.length → s.memory.get j = 0xFF) :
    MaskedRun s (Flash.writeBytes (address i) bytes)
      ((placed i bytes).map fun w => .write w.1 w.2)
      ((placed i bytes).map fun w => .program w.1 w.2)
      { s with
        memory := overwrite s.memory i bytes
        programmed := s.programmed + bytes.length } := by
  induction bytes generalizing s i with
  | nil =>
    rw [overwrite_nil]
    exact MaskedRun.done s
  | cons byte bytes ih =>
    rw [List.length_cons] at hrange hblank
    have hi : i < size := by omega
    have hbyte : s.memory.get ⟨i, hi⟩ &&& byte = byte := by
      rw [hblank ⟨i, hi⟩ (Nat.le_refl i) (by simp)]
      exact UInt8.neg_one_and
    have hstore := store_of_programming hs hopen hmode ⟨i, hi⟩ byte
    rw [hbyte] at hstore
    have hfirst := maskedRun_write hs hi (operation?_of_programming hopen hmode (address i) byte)
    rw [hstore] at hfirst
    -- the places ahead are still blank, since only place i has changed
    have hblank' : ∀ j : Fin size, i + 1 ≤ j → j.val < i + 1 + bytes.length →
        (s.memory.set i byte).get j = 0xFF := by
      intro j hj hj'
      have hne : ¬ (⟨i, hi⟩ : Fin size) = j := by
        rw [Fin.ext_iff]
        show ¬ i = j.val
        omega
      rw [get_set ⟨i, hi⟩ j byte, if_neg hne]
      exact hblank j (by omega) (by omega)
    let t : NorArray := { s with memory := s.memory.set i byte, programmed := s.programmed + 1 }
    have hrest := ih (s := t) (i := i + 1) hs hopen hmode (by omega) hblank'
    have hboth := hfirst.bind hrest
    have hcount : t.programmed + bytes.length = s.programmed + (bytes.length + 1) := by
      show s.programmed + 1 + bytes.length = _
      omega
    rw [hcount] at hboth
    rw [overwrite_cons hi, Flash.writeBytes, address_succ]
    exact hboth

/-- The calls that erase the segment at place `i` and program `bytes` into it. -/
def reprogramCalls (i : Nat) (bytes : List UInt8) : List Flash.Call :=
  .setControl3 0 :: .setControl1 FlashControl1.erase :: .write (address i) 0 ::
    .setControl1 FlashControl1.write ::
    ((placed i bytes).map (fun w => .write w.1 w.2) ++
      [.setControl1 0, .setControl3 FlashControl3.lock])

/-- What these calls do: unlock, erase once, program byte by byte, leave the mode, lock. -/
def reprogramOperations (i : Nat) (bytes : List UInt8) : List Operation :=
  .unlock :: .setMode FlashControl1.erase :: .erase (address i) ::
    .setMode FlashControl1.write ::
    ((placed i bytes).map (fun w => .program w.1 w.2) ++ [.setMode 0, .lock])

/-- Erasing and programming a segment puts `bytes` into it, whatever mode the controller was left
in, and leaves the controller locked and without a mode. -/
theorem maskedRun_reprogram {s : NorArray} {i : Nat} {bytes : List UInt8}
    (hs : s.isMasked = true) (hstart : i % segmentSize = 0) (hlen : bytes.length = segmentSize)
    (hrange : i + segmentSize ≤ size) :
    MaskedRun s (InfoMemory.reprogram (address i) bytes) (reprogramCalls i bytes)
      (reprogramOperations i bytes)
      { s with
        memory := overwrite s.memory i bytes
        control1 := 0
        locked := true
        erased := s.erased ++ [address i]
        programmed := s.programmed + segmentSize } := by
  have hsize : segmentSize = 128 := rfl
  have hi : i < size := by omega
  have hbase : segmentBase ⟨i, hi⟩ = address i := by
    have hdiv : segment ⟨i, hi⟩ * segmentSize = i := by
      simp only [segment, hsize] at hstart ⊢
      omega
    rw [segmentBase, hdiv, address]
  -- the memory once the segment is erased, and once it is programmed
  obtain ⟨blank, hblank⟩ : ∃ m, m = eraseSegment s.memory ⟨i, hi⟩ := ⟨_, rfl⟩
  obtain ⟨full, hfull⟩ : ∃ m, m = overwrite s.memory i bytes := ⟨_, rfl⟩
  have hones : ∀ j : Fin size, i ≤ j → j.val < i + bytes.length → blank.get j = 0xFF := by
    intro j hj hj'
    have hseg : segment j = segment ⟨i, hi⟩ := by
      simp only [segment, hsize] at hstart hlen ⊢
      omega
    rw [hblank, get_eraseSegment, if_pos hseg]
  have hput : overwrite blank i bytes = full := by
    rw [hblank, hfull]
    exact overwrite_eraseSegment (i := ⟨i, hi⟩) hstart hlen
  -- the states in which the calls are made
  let s₁ : NorArray := { s with locked := false }
  let s₂ : NorArray := { s₁ with control1 := FlashControl1.erase }
  let s₃ : NorArray := { s₂ with memory := blank, erased := s.erased ++ [address i] }
  let s₄ : NorArray := { s₃ with control1 := FlashControl1.write }
  let s₅ : NorArray := { s₄ with memory := full, programmed := s.programmed + segmentSize }
  let s₆ : NorArray := { s₅ with control1 := 0 }
  have hunlock := maskedRun_setControl3 hs 0
  have herase := maskedRun_setControl1 (s := s₁) hs FlashControl1.erase
  have hdummy := maskedRun_write (s := s₂) hs hi (operation?_of_erasing rfl rfl (address i) 0)
  rw [store_of_erasing (s := s₂) hs rfl rfl, hbase, ← hblank] at hdummy
  have hwrite := maskedRun_setControl1 (s := s₃) hs FlashControl1.write
  have hprogram := maskedRun_writeBytes (s := s₄) hs rfl rfl (by omega) hones
  rw [hput, hlen] at hprogram
  have hclear := maskedRun_setControl1 (s := s₅) hs 0
  have hlock := maskedRun_setControl3 (s := s₆) hs FlashControl3.lock
  rw [← hfull]
  exact hunlock.bind <| herase.bind <| (hdummy.bind (.done s₃)).bind <| hwrite.bind <|
    hprogram.bind <| hclear.bind hlock

end BoardSupport.NorArray
