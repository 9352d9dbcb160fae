import BoardSupport.Proofs.Flash.Operations
import BoardSupport.Proofs.Registers.Bits

/-!
# Single calls to the flash array

Nothing is assumed here of who makes the calls of the controller and in what order: any values may be
written to the control registers, and bytes may be read and written at any address, with the controller
locked or not.

- `Covers`, `exists_place`, `segmentOf_address`: the addresses of the array and of its segments.
- `contains_erase`, `contains_write`, `contains_lock`: modes and lock are bits of the control registers.
- `Fate`: every way in which a call to the array can go.
- `exists_fate`, `run_of_strays`: what is asked of the array has a fate, and anything else is a fault.
-/

namespace BoardSupport.NorArray

/-- A call that is made by itself. -/
abbrev Access : Type := Transition Flash.interface Flash.interface NorArray

/-! ## Addresses -/

/-- The addresses of the array. -/
def Covers (a : UInt16) : Prop := 0x1800 ≤ a ∧ a ≤ 0x19FF

instance (a : UInt16) : Decidable (Covers a) := inferInstanceAs (Decidable (_ ∧ _))

/-- The call accesses a byte outside of the array. -/
def Strays (c : Flash.Call) (a : UInt16) : Prop := c.address? = some a ∧ ¬ Covers a

theorem exists_place {a : UInt16} (h : Covers a) : ∃ i : Fin size, a = address i := by
  have hfirst : 0x1800 ≤ a.toNat := UInt16.le_iff_toNat_le.1 h.1
  have hlast : a.toNat ≤ 0x19FF := UInt16.le_iff_toNat_le.1 h.2
  have hi : a.toNat - 0x1800 < size := by
    show _ < 512
    omega
  refine ⟨⟨a.toNat - 0x1800, hi⟩, UInt16.toNat_inj.1 ?_⟩
  rw [toNat_address hi]
  show _ = 0x1800 + _
  omega

theorem locate_outside {a : UInt16} (h : ¬ Covers a) : locate a = .error ⟨a⟩ := by
  have hout : ¬ (base ≤ a ∧ a.toNat - base.toNat < size) := by
    rintro ⟨hfirst, hlast⟩
    refine h ⟨hfirst, UInt16.le_iff_toNat_le.2 ?_⟩
    have hfirst' : 0x1800 ≤ a.toNat := UInt16.le_iff_toNat_le.1 hfirst
    have hlast' : a.toNat - 0x1800 < 512 := hlast
    show _ ≤ 0x19FF
    omega
  rw [locate, index?, dif_neg hout]

theorem address_inj {i j : Fin size} : address i = address j ↔ i = j := by
  refine ⟨fun h => ?_, fun h => h ▸ rfl⟩
  have hnat := congrArg UInt16.toNat h
  rw [toNat_address i.isLt, toNat_address j.isLt] at hnat
  exact Fin.ext (Nat.add_left_cancel hnat)

/-- The segment that an address lies in. -/
def segmentOf (a : UInt16) : Nat := a.toNat / 128

/-- Segments begin at multiples of their size, in the array as in the whole memory. -/
theorem segmentOf_address (i : Fin size) : segmentOf (address i) = 48 + segment i := by
  have hbase : base.toNat = 0x1800 := rfl
  rw [segmentOf, toNat_address i.isLt, segment, segmentSize, hbase]
  omega

/-- The first address of a segment. -/
theorem segmentBase_eq (i : Fin size) : segmentBase i = address i - address i % 128 := by
  have hi := i.isLt
  have hsize : size = 512 := rfl
  have hbase : base.toNat = 0x1800 := rfl
  have hstart : segment i * segmentSize < size := by
    rw [segment, segmentSize]
    omega
  have hmod : (address i % 128).toNat = i.val % 128 := by
    rw [UInt16.toNat_mod, toNat_address hi, hbase]
    show _ % 128 = _
    omega
  have hle : address i % 128 ≤ address i := by
    rw [UInt16.le_iff_toNat_le, hmod, toNat_address hi]
    omega
  show address (segment i * segmentSize) = _
  rw [← UInt16.toNat_inj, UInt16.toNat_sub_of_le _ _ hle, hmod, toNat_address hi,
    toNat_address hstart, segment, segmentSize]
  omega

/-! ## The bits of the control registers -/

theorem contains_erase (value : BitVec 16) :
    contains value FlashControl1.erase = value.getLsbD 1 :=
  contains_of_bits (by decide) value

theorem contains_write (value : BitVec 16) :
    contains value FlashControl1.write = value.getLsbD 6 :=
  contains_of_bits (by decide) value

theorem contains_lock (value : BitVec 16) :
    contains value FlashControl3.lock = value.getLsbD 4 :=
  contains_of_bits (by decide) value

/-! ## Single calls -/

/-- The state once a write was made in it: writes with interrupts open are counted. -/
def noted (s : NorArray) : NorArray :=
  { s with unmasked := s.unmasked + if s.depth = 0 then 1 else 0 }

theorem noted_eq (s : NorArray) :
    s.noted = if s.isMasked then s else { s with unmasked := s.unmasked + 1 } := by
  unfold noted isMasked
  by_cases h : s.depth = 0
  · simp [h]
  · simp [h, Nat.pos_of_ne_zero h]

/-- The ways in which a call can go, with the answer to it and the state that it leaves. -/
inductive Fate : Access → Prop
  | mask (s : NorArray) (es) : Fate ⟨.mask, s, (), es, { s with depth := s.depth + 1 }⟩
  | unmask (s : NorArray) (es) : Fate ⟨.unmask, s, (), es, { s with depth := s.depth - 1 }⟩
  | setMode (s : NorArray) (value es) :
    Fate ⟨.setControl1 value, s, (), es, { s with control1 := value }⟩
  | setLock (s : NorArray) (value es) :
    Fate ⟨.setControl3 value, s, (), es, { s with locked := value.getLsbD 4 }⟩
  /-- A byte is read. -/
  | read (s : NorArray) (i : Fin size) (es) :
    Fate ⟨.read (address i), s, s.memory.get i, es, s⟩
  /-- A write meets a locked controller. -/
  | refused (s : NorArray) (i : Fin size) (byte es) (hlocked : s.locked = true) :
    Fate ⟨.write (address i) byte, s, (), es, s⟩
  /-- A write is made in neither of the two modes. -/
  | idle (s : NorArray) (i : Fin size) (byte es) (hopen : s.locked = false)
    (herase : s.control1.getLsbD 1 = false) (hwrite : s.control1.getLsbD 6 = false) :
    Fate ⟨.write (address i) byte, s, (), es, s.noted⟩
  /-- A write erases a segment, whether the other mode is set or not. -/
  | erased (s : NorArray) (i : Fin size) (byte es) (hopen : s.locked = false)
    (herase : s.control1.getLsbD 1 = true) :
    Fate ⟨.write (address i) byte, s, (), es, { s.noted with
      memory := eraseSegment s.memory i
      erased := s.erased ++ [segmentBase i] }⟩
  /-- A write programs a byte. -/
  | programmed (s : NorArray) (i : Fin size) (byte es) (hopen : s.locked = false)
    (herase : s.control1.getLsbD 1 = false) (hwrite : s.control1.getLsbD 6 = true) :
    Fate ⟨.write (address i) byte, s, (), es, { s.noted with
      memory := s.memory.set i (s.memory.get i &&& byte) i.isLt
      programmed := s.programmed + 1 }⟩

theorem fate_write (s : NorArray) (i : Fin size) (byte : UInt8) (es : History Flash.interface NorArray) :
    Fate ⟨.write (address i) byte, s, (), es, s.store i byte⟩ := by
  unfold store
  rw [← noted_eq]
  cases hlocked : s.locked with
  | true => exact .refused s i byte es hlocked
  | false =>
    have hmode : s.noted.control1 = s.control1 := rfl
    simp only [Bool.false_eq_true, if_false, hmode, contains_erase, contains_write]
    cases herase : s.control1.getLsbD 1 with
    | true => exact .erased s i byte es hlocked herase
    | false =>
      cases hwrite : s.control1.getLsbD 6 with
      | true => exact .programmed s i byte es hlocked herase hwrite
      | false => exact .idle s i byte es hlocked herase hwrite

/-- A call that does not leave the array is answered, locked or not. -/
theorem exists_fate (s : NorArray) {c : Flash.Call} (h : ∀ a, ¬ Strays c a) :
    ∃ r t, (handler c).run s = .ok (r, t) ∧ ∀ es, Fate ⟨c, s, r, es, t⟩ := by
  have hplace : ∀ a, c.address? = some a → ∃ i : Fin size, a = address i := fun a ha =>
    exists_place (Decidable.not_not.1 fun hout => h a ⟨ha, hout⟩)
  cases c with
  | mask => exact ⟨(), _, rfl, .mask s⟩
  | unmask => exact ⟨(), _, rfl, .unmask s⟩
  | setControl1 value => exact ⟨(), _, rfl, .setMode s value⟩
  | setControl3 value =>
    have hfate := Fate.setLock s value
    rw [← contains_lock] at hfate
    exact ⟨(), _, rfl, hfate⟩
  | read a =>
    obtain ⟨i, rfl⟩ := hplace a rfl
    exact ⟨_, s, run_read s i.isLt, .read s i⟩
  | write a byte =>
    obtain ⟨i, rfl⟩ := hplace a rfl
    exact ⟨(), _, run_write s i.isLt byte, fate_write s i byte⟩

/-- One that does stops the array, locked or not. -/
theorem run_of_strays (s : NorArray) {c : Flash.Call} {a : UInt16} (h : Strays c a) :
    (handler c).run s = .error ⟨a⟩ := by
  obtain ⟨ha, hout⟩ := h
  cases c with
  | read | write =>
    cases ha
    simp only [handler, locate_outside hout]
    rfl
  | _ => cases ha

end BoardSupport.NorArray
