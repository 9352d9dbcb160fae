import BoardSupport.Proofs.Flash.Calls

/-!
# Runs of calls to the flash array

What a run of calls comes to is read off the calls, whatever state the array and its controller are in
when it begins.  Erasing is the only way to set bits, so between two erases of its segment a byte can
only lose bits.

- `Account`: what some calls do to the bytes, the registers and the counters; `Fate.account` is the step
  and `Account.append` puts the steps together.
- `Access.Nor`: what a single call does to the bytes, by the lock and the mode.
- `foldl_onByte_and`: a byte whose segment is not erased only loses bits.
- `nor_semantics`: a run ends at the first access outside of the array, and otherwise every stretch of
  it has an account.
-/

namespace BoardSupport.NorArray

open Transition (reached Follow)

/-! ## What calls come to -/

theorem get_eraseSegment_address (memory : Vector UInt8 size) (i j : Fin size) :
    (eraseSegment memory i).get j =
      if segmentOf (address j) = segmentOf (address i) then 0xFF else memory.get j := by
  rw [get_eraseSegment, segmentOf_address, segmentOf_address]
  simp only [Nat.add_left_cancel_iff]

theorem get_program_address (memory : Vector UInt8 size) (i j : Fin size) (byte : UInt8) :
    (memory.set i (memory.get i &&& byte) i.isLt).get j =
      if address j = address i then memory.get j &&& byte else memory.get j := by
  rw [get_set]
  by_cases h : i = j
  · simp [h]
  · simp [h, address_inj, Ne.symm h]

/-- What an operation makes of the byte at place `i`. -/
def Operation.onByte (i : Fin size) (b : UInt8) : Operation → UInt8
  | .erase a => if segmentOf (address i) = segmentOf a then 0xFF else b
  | .program a byte => if address i = a then b &&& byte else b
  | .unlock | .lock | .setMode _ => b

/-- The first address of the segment that an operation erases. -/
def Operation.erased? : Operation → Option UInt16
  | .erase a => some (a - a % 128)
  | .unlock | .lock | .setMode _ | .program .. => none

/-- Whether an operation programs a byte. -/
def Operation.isProgram : Operation → Bool
  | .program .. => true
  | .unlock | .lock | .setMode _ | .erase _ => false

/-- What some calls do to the array, in order. -/
def performed (ds : List Access) : List Operation :=
  ds.filterMap fun d => operation? d.command d.before

theorem performed_singleton (d : Access) :
    performed [d] = (operation? d.command d.before).toList := by
  rw [performed, List.filterMap_cons, List.filterMap_nil]
  cases operation? d.command d.before <;> rfl

/-- Whether a call is a write that is not refused, made with interrupts open. -/
def Access.isExposed (d : Access) : Bool :=
  match d.command with
  | .write .. => !d.before.locked && d.before.depth == 0
  | .read _ | .mask | .unmask | .setControl1 _ | .setControl3 _ => false

/-- The mode after a call. -/
def modeAfter (mode : BitVec 16) : Flash.Call → BitVec 16
  | .setControl1 value => value
  | .setControl3 _ | .read _ | .write .. | .mask | .unmask => mode

/-- The lock after a call. -/
def lockAfter (locked : Bool) : Flash.Call → Bool
  | .setControl3 value => value.getLsbD 4
  | .setControl1 _ | .read _ | .write .. | .mask | .unmask => locked

/-- How deep interrupts are masked after a call. -/
def depthAfter (depth : Nat) : Flash.Call → Nat
  | .mask => depth + 1
  | .unmask => depth - 1
  | .setControl1 _ | .setControl3 _ | .read _ | .write .. => depth

/-- What the array comes to by some calls, from state `s` to state `t`. -/
structure Account (s : NorArray) (ds : List Access) (t : NorArray) : Prop where
  /-- A byte is what erasing and programming have made of it, one after another. -/
  memory : ∀ i, t.memory.get i = (performed ds).foldl (Operation.onByte i) (s.memory.get i)
  /-- The mode is the one that was written last. -/
  control1 : t.control1 = (ds.map Transition.command).foldl modeAfter s.control1
  /-- The lock is the one that was written last. -/
  locked : t.locked = (ds.map Transition.command).foldl lockAfter s.locked
  /-- Each masking deepens it, and each unmasking undoes one. -/
  depth : t.depth = (ds.map Transition.command).foldl depthAfter s.depth
  /-- Every erase is noted once, by its segment. -/
  erased : t.erased = s.erased ++ (performed ds).filterMap Operation.erased?
  /-- Every programmed byte is counted once. -/
  programmed : t.programmed = s.programmed + (performed ds).countP Operation.isProgram
  /-- Every write that is not refused is counted if it is made with interrupts open. -/
  unmasked : t.unmasked = s.unmasked + ds.countP Access.isExposed

theorem Account.refl (s : NorArray) : Account s [] s :=
  ⟨fun _ => rfl, rfl, rfl, rfl, (List.append_nil _).symm, rfl, rfl⟩

theorem Account.append {s t u : NorArray} {ds es : List Access} (first : Account s ds t)
    (later : Account t es u) : Account s (ds ++ es) u := by
  have hops : performed (ds ++ es) = performed ds ++ performed es := List.filterMap_append ..
  refine ⟨fun i => ?_, ?_, ?_, ?_, ?_, ?_, ?_⟩
  · rw [later.memory, first.memory, hops, List.foldl_append]
  · rw [later.control1, first.control1, List.map_append, List.foldl_append]
  · rw [later.locked, first.locked, List.map_append, List.foldl_append]
  · rw [later.depth, first.depth, List.map_append, List.foldl_append]
  · rw [later.erased, first.erased, hops, List.filterMap_append, List.append_assoc]
  · rw [later.programmed, first.programmed, hops, List.countP_append, Nat.add_assoc]
  · rw [later.unmasked, first.unmasked, List.countP_append, Nat.add_assoc]

/-- The account of a single call, which does one thing at most. -/
theorem Account.single {d : Access} {o : Option Operation}
    (hop : operation? d.command d.before = o)
    (hmemory : ∀ i, d.after.memory.get i =
      o.elim (d.before.memory.get i) (Operation.onByte i (d.before.memory.get i)))
    (hcontrol1 : d.after.control1 = modeAfter d.before.control1 d.command)
    (hlocked : d.after.locked = lockAfter d.before.locked d.command)
    (hdepth : d.after.depth = depthAfter d.before.depth d.command)
    (herased : d.after.erased = d.before.erased ++ (o.bind Operation.erased?).toList)
    (hprogrammed : d.after.programmed = d.before.programmed + o.toList.countP Operation.isProgram)
    (hunmasked : d.after.unmasked = d.before.unmasked + [d].countP Access.isExposed) :
    Account d.before [d] d.after := by
  have hops : performed [d] = o.toList := hop ▸ performed_singleton d
  refine ⟨fun i => ?_, hcontrol1, hlocked, hdepth, ?_, ?_, hunmasked⟩
  · rw [hops, hmemory]
    cases o <;> rfl
  · rw [hops, herased]
    cases o with
    | none => rfl
    | some op => cases hsegment : op.erased? <;> simp [hsegment]
  · rw [hops, hprogrammed]

/-- What a write does, by the lock and the bits of the mode. -/
theorem operation?_write (s : NorArray) (a : UInt16) (byte : UInt8) :
    operation? (.write a byte) s =
      if s.locked then none
      else if s.control1.getLsbD 1 then some (.erase a)
      else if s.control1.getLsbD 6 then some (.program a byte)
      else none := by
  rw [operation?, contains_erase, contains_write]

/-- A write that is not refused is exposed if interrupts are open. -/
theorem unmasked_noted {s : NorArray} (hopen : s.locked = false) (a : UInt16) (byte : UInt8)
    (es : History Flash.interface NorArray) (t : NorArray) :
    s.noted.unmasked =
      s.unmasked + [(⟨.write a byte, s, (), es, t⟩ : Access)].countP Access.isExposed := by
  by_cases h : s.depth = 0
  · simp [noted, Access.isExposed, hopen, h]
  · simp [noted, Access.isExposed, hopen, h]

theorem Fate.account {d : Access} (h : Fate d) : Account d.before [d] d.after := by
  cases h with
  | mask | unmask | read =>
    exact .single rfl (fun _ => rfl) rfl rfl rfl (List.append_nil _).symm rfl rfl
  | setMode =>
    exact .single rfl (fun _ => rfl) rfl rfl rfl (List.append_nil _).symm rfl rfl
  | setLock s value es =>
    have hop : operation? (.setControl3 value) s =
        some (if contains value FlashControl3.lock then .lock else .unlock) := rfl
    by_cases hlock : contains value FlashControl3.lock
    · rw [if_pos hlock] at hop
      exact .single hop (fun _ => rfl) rfl rfl rfl (List.append_nil _).symm rfl rfl
    · rw [if_neg hlock] at hop
      exact .single hop (fun _ => rfl) rfl rfl rfl (List.append_nil _).symm rfl rfl
  | refused s i byte es hlocked =>
    have hop := operation?_write s (address i) byte
    rw [hlocked, if_pos rfl] at hop
    refine .single hop (fun _ => rfl) rfl rfl rfl (List.append_nil _).symm rfl ?_
    simp [Access.isExposed, hlocked]
  | idle s i byte es hopen herase hwrite =>
    have hop := operation?_write s (address i) byte
    simp only [hopen, herase, hwrite, Bool.false_eq_true, if_false] at hop
    exact .single hop (fun _ => rfl) rfl rfl rfl (List.append_nil _).symm rfl
      (unmasked_noted hopen ..)
  | erased s i byte es hopen herase =>
    have hop := operation?_write s (address i) byte
    simp only [hopen, herase, Bool.false_eq_true, if_false, if_true] at hop
    refine .single hop (get_eraseSegment_address s.memory i) rfl rfl rfl ?_ rfl
      (unmasked_noted hopen ..)
    -- the segment is noted by its first place, and told by its first address
    rw [segmentBase_eq]
    rfl
  | programmed s i byte es hopen herase hwrite =>
    have hop := operation?_write s (address i) byte
    simp only [hopen, herase, hwrite, Bool.false_eq_true, if_false, if_true] at hop
    exact .single hop (fun j => get_program_address s.memory i j byte) rfl rfl rfl
      (List.append_nil _).symm rfl (unmasked_noted hopen ..)

/-- A byte after a call, by what the call does. -/
theorem Fate.get_after {d : Access} (h : Fate d) (j : Fin size) : d.after.memory.get j =
    (operation? d.command d.before).elim (d.before.memory.get j)
      (Operation.onByte j (d.before.memory.get j)) := by
  rw [h.account.memory, performed_singleton]
  cases operation? d.command d.before <;> rfl

/-! ## What a single call does to the bytes -/

/-- What a single call does to the bytes of the array. -/
structure Access.Nor (d : Access) : Prop where
  /-- A byte that is read is the one at its address, and reading changes nothing. -/
  read : ∀ i : Fin size, d.command = .read (address i) →
    (⟨d.command, d.answer⟩ : Event Flash.interface) = ⟨.read (address i), d.before.memory.get i⟩ ∧
      d.after = d.before
  /-- A write to a locked controller changes nothing. -/
  locked : ∀ a byte, d.command = .write a byte → d.before.locked = true → d.after = d.before
  /-- A write in neither mode changes no byte. -/
  idle : ∀ a byte, d.command = .write a byte → d.before.control1.getLsbD 1 = false →
    d.before.control1.getLsbD 6 = false → d.after.memory = d.before.memory
  /-- A write in the erase mode sets the bytes of the segment, and no others, to all ones. -/
  erase : ∀ a byte, d.command = .write a byte → d.before.locked = false →
    d.before.control1.getLsbD 1 = true → ∀ j : Fin size, d.after.memory.get j =
      if segmentOf (address j) = segmentOf a then 0xFF else d.before.memory.get j
  /-- A write in the programming mode alone changes one byte, by clearing bits. -/
  program : ∀ a byte, d.command = .write a byte → d.before.locked = false →
    d.before.control1.getLsbD 1 = false → d.before.control1.getLsbD 6 = true →
      ∀ j : Fin size, d.after.memory.get j =
        if address j = a then d.before.memory.get j &&& byte else d.before.memory.get j
  /-- Nothing else changes a byte. -/
  others : (∀ a byte, d.command ≠ .write a byte) → d.after.memory = d.before.memory

theorem Fate.nor {d : Access} (h : Fate d) : d.Nor where
  read i hi := by
    cases h with
    | read s j es =>
      obtain rfl : j = i := address_inj.1 (Flash.Call.read.inj hi)
      exact ⟨rfl, rfl⟩
    | _ => cases hi
  locked a byte hc hlocked := by
    cases h with
    | mask | unmask | setMode | setLock | read => cases hc
    | refused => rfl
    | idle _ _ _ _ hopen | erased _ _ _ _ hopen | programmed _ _ _ _ hopen =>
      exact absurd (hopen.symm.trans hlocked) Bool.false_ne_true
  idle a byte hc herase hwrite := by
    refine ext_get fun j => ?_
    rw [h.get_after, hc, operation?_write]
    simp only [herase, hwrite, Bool.false_eq_true, if_false, ite_self, Option.elim]
  erase a byte hc hopen herase j := by
    rw [h.get_after, hc, operation?_write]
    simp only [hopen, herase, Bool.false_eq_true, if_false, if_true, Option.elim, Operation.onByte]
  program a byte hc hopen herase hwrite j := by
    rw [h.get_after, hc, operation?_write]
    simp only [hopen, herase, hwrite, Bool.false_eq_true, if_false, if_true, Option.elim,
      Operation.onByte]
  others hnot := by
    cases h with
    | refused | idle | erased | programmed => exact absurd rfl (hnot _ _)
    | _ => rfl

/-! ## Bits that are lost -/

/-- The operation erases the segment of place `i`. -/
def Operation.Erases (i : Fin size) (op : Operation) : Prop :=
  ∃ a, op = .erase a ∧ segmentOf (address i) = segmentOf a

theorem Operation.onByte_and {i : Fin size} {op : Operation} (h : ¬ op.Erases i) (b : UInt8) :
    op.onByte i b &&& b = op.onByte i b := by
  cases op with
  | unlock | lock | setMode => exact UInt8.and_self
  | erase a =>
    have hother : ¬ segmentOf (address i) = segmentOf a := fun hsame => h ⟨a, rfl, hsame⟩
    rw [onByte, if_neg hother, UInt8.and_self]
  | program a byte =>
    rw [onByte]
    split
    · rw [UInt8.and_comm b, UInt8.and_assoc, UInt8.and_self]
    · exact UInt8.and_self

/-- As long as its segment is not erased, a byte keeps only bits that it had. -/
theorem foldl_onByte_and {i : Fin size} {ops : List Operation} (h : ∀ op ∈ ops, ¬ op.Erases i)
    (b : UInt8) : ops.foldl (Operation.onByte i) b &&& b = ops.foldl (Operation.onByte i) b := by
  induction ops generalizing b with
  | nil => exact UInt8.and_self
  | cons op ops ih =>
    obtain ⟨hop, hops⟩ := List.forall_mem_cons.1 h
    have hlater := ih hops (op.onByte i b)
    -- the later operations keep only bits of what the first one has left, and that keeps only bits of b
    rw [List.foldl_cons]
    calc ops.foldl (Operation.onByte i) (op.onByte i b) &&& b
        = ops.foldl (Operation.onByte i) (op.onByte i b) &&& (op.onByte i b &&& b) := by
          rw [← UInt8.and_assoc, hlater]
      _ = ops.foldl (Operation.onByte i) (op.onByte i b) := by
          rw [Operation.onByte_and hop, hlater]

/-! ## Runs -/

/-- A stretch of a run, from the state in which it finds the array to the one in which it leaves it. -/
structure Stretch (s : NorArray) (ds : List Access) (t : NorArray) : Prop extends Account s ds t where
  /-- A byte whose segment is not erased only loses bits. -/
  fading : ∀ i, (∀ op ∈ performed ds, ¬ op.Erases i) →
    t.memory.get i &&& s.memory.get i = t.memory.get i

theorem Account.stretch {s t : NorArray} {ds : List Access} (h : Account s ds t) :
    Stretch s ds t := by
  refine ⟨h, fun i hkept => ?_⟩
  rw [h.memory]
  exact foldl_onByte_and hkept _

/-- Calls that follow one another have an account over every stretch.  The induction is on the stretch,
and what is taken off its front is added to what was before it. -/
theorem Account.of_follow {s : NorArray} {ds : List Access} (hfollow : Follow s ds)
    (hall : ∀ d ∈ ds, Fate d) {front between later : List Access}
    (hsplit : ds = front ++ between ++ later) :
    Account (reached s front) between (reached s (front ++ between)) := by
  induction between generalizing front with
  | nil =>
    rw [List.append_nil]
    exact .refl _
  | cons d between ih =>
    have hd := (hall d (by simp [hsplit])).account
    have hbefore : d.before = reached s front := hfollow front d (between ++ later) (by simp [hsplit])
    have hrest : Account (reached s (front ++ [d])) between (reached s (front ++ [d] ++ between)) :=
      ih (by simp [hsplit])
    rw [Transition.reached_concat, List.append_assoc, List.singleton_append] at hrest
    rw [← hbefore]
    exact hd.append hrest

/-- How a run of calls ends. -/
inductive Ending (s : NorArray) (cs : List Flash.Call) : Except Fault (List Access × NorArray) → Prop
  /-- The first access outside of the array stops it. -/
  | stopped (front later : List Flash.Call) (c : Flash.Call) (a : UInt16)
    (hcalls : cs = front ++ c :: later) (hfront : ∀ x ∈ front, ∀ a, ¬ Strays x a)
    (hstrays : Strays c a) : Ending s cs (.error ⟨a⟩)
  /-- All calls are answered, one after another, and what they come to can be told of every stretch. -/
  | completed (ds : List Access) (hcalls : ds.map Transition.command = cs)
    (hcovered : ∀ c ∈ cs, ∀ a, ¬ Strays c a) (hnor : ∀ d ∈ ds, d.Nor) (hfollow : Follow s ds)
    (hstretch : ∀ front between later, ds = front ++ between ++ later →
      Stretch (reached s front) between (reached s (front ++ between))) :
    Ending s cs (.ok (ds, reached s ds))

theorem session_of_covered {cs : List Flash.Call} (h : ∀ c ∈ cs, ∀ a, ¬ Strays c a) (s : NorArray) :
    ∃ ds t, Machine.session handler Program.send cs s = .ok (ds, t) ∧
      ds.map Transition.command = cs ∧ ∀ d ∈ ds, Fate d := by
  induction cs generalizing s with
  | nil => exact ⟨[], s, rfl, rfl, by simp⟩
  | cons c cs ih =>
    obtain ⟨hc, hcs⟩ := List.forall_mem_cons.1 h
    obtain ⟨r, t, hrun, hfate⟩ := exists_fate s hc
    obtain ⟨ds, u, hlater, hcommands, hall⟩ := ih hcs t
    refine ⟨⟨c, s, r, [(⟨c, r⟩, s)], t⟩ :: ds, u, ?_, ?_, List.forall_mem_cons.2 ⟨hfate _, hall⟩⟩
    · rw [Machine.session_cons (.send hrun), hlater]
      rfl
    · rw [List.map_cons, hcommands]

theorem session_of_strays {front later : List Flash.Call} {c : Flash.Call} {a : UInt16}
    (hfront : ∀ x ∈ front, ∀ a, ¬ Strays x a) (hstrays : Strays c a) (s : NorArray) :
    Machine.session handler Program.send (front ++ c :: later) s = .error ⟨a⟩ := by
  induction front generalizing s with
  | nil => exact Machine.session_send_error (run_of_strays s hstrays)
  | cons x front ih =>
    obtain ⟨hx, hfront⟩ := List.forall_mem_cons.1 hfront
    obtain ⟨r, t, hrun, -⟩ := exists_fate s hx
    rw [List.cons_append, Machine.session_cons (.send hrun), ih hfront]
    rfl

/-- Either no call leaves the array, or one is the first to do so. -/
theorem covered_or_strays (cs : List Flash.Call) : (∀ c ∈ cs, ∀ a, ¬ Strays c a) ∨
    ∃ front later c a, cs = front ++ c :: later ∧ (∀ x ∈ front, ∀ a, ¬ Strays x a) ∧ Strays c a := by
  induction cs with
  | nil => exact .inl (by simp)
  | cons c cs ih =>
    by_cases hc : ∃ a, Strays c a
    · obtain ⟨a, ha⟩ := hc
      exact .inr ⟨[], cs, c, a, rfl, by simp, ha⟩
    · have hkept : ∀ a, ¬ Strays c a := fun a ha => hc ⟨a, ha⟩
      rcases ih with hcs | ⟨front, later, x, a, rfl, hfront, hx⟩
      · exact .inl (List.forall_mem_cons.2 ⟨hkept, hcs⟩)
      · exact .inr ⟨c :: front, later, x, a, rfl, List.forall_mem_cons.2 ⟨hkept, hfront⟩, hx⟩

/-- From every state of the array and its controller, a run of calls stops at the first access outside
of the array.  If there is none it comes to its end: every write does to the bytes what the lock and the
mode make of it, and over every stretch of the run the bytes, the registers and the counters are what its
calls come to. -/
theorem nor_semantics (s : NorArray) (cs : List Flash.Call) :
    Ending s cs (Machine.session handler Program.send cs s) := by
  rcases covered_or_strays cs with hcovered | ⟨front, later, c, a, rfl, hfront, hstrays⟩
  · obtain ⟨ds, t, hsession, hcalls, hall⟩ := session_of_covered hcovered s
    obtain ⟨hfollow, rfl⟩ := Machine.session_follows hsession
    rw [hsession]
    refine .completed ds hcalls hcovered (fun d hd => (hall d hd).nor) hfollow ?_
    intro front between later hsplit
    exact (Account.of_follow hfollow hall hsplit).stretch
  · rw [session_of_strays hfront hstrays]
    exact .stopped front later c a rfl hfront hstrays

/-- With both modes set a write erases. -/
example : operation? (.write 0x1805 0) { locked := false, control1 := 0x42 } = some (.erase 0x1805) := by
  decide

end BoardSupport.NorArray
