import BoardSupport.Flash.InfoMemory
import BoardSupport.Flash.NorArray

/-!
# Ranges of bytes in the flash array

A section of information memory is a range of places of the array, and a request concerns a range of
places of its section.

- `window` and `overwrite`: the bytes of a range, and a memory with a range replaced.
- `overwrite_splice`: saving a range, splicing new bytes into it and putting it back replaces just
  those bytes.
- `NorArray.address`: the address of a place, and `Section.offset`: the first place of a section.
-/

namespace BoardSupport

/-- The `count` bytes of a memory from `start` on. -/
def window {n : Nat} (memory : Vector UInt8 n) (start count : Nat) : List UInt8 :=
  (memory.toList.drop start).take count

/-- A memory with `bytes` in place of its own bytes from `start` on. -/
def overwrite {n : Nat} (memory : Vector UInt8 n) (start : Nat) (bytes : List UInt8) :
    Vector UInt8 n :=
  .ofFn fun i =>
    if start ≤ i then bytes[i.val - start]?.getD (memory.get i) else memory.get i

section Memory

variable {n : Nat} {memory : Vector UInt8 n} {start count : Nat} {bytes : List UInt8}

theorem ext_get {v w : Vector UInt8 n} (h : ∀ i, v.get i = w.get i) : v = w := by
  refine Vector.ext fun i hi => ?_
  exact h ⟨i, hi⟩

theorem get_overwrite (i : Fin n) :
    (overwrite memory start bytes).get i =
      if start ≤ i then bytes[i.val - start]?.getD (memory.get i) else memory.get i :=
  Vector.getElem_ofFn ..

theorem get_overwrite_inside {i : Fin n} (h : start ≤ i) (hi : i.val - start < bytes.length) :
    (overwrite memory start bytes).get i = bytes[i.val - start] := by
  rw [get_overwrite, if_pos h, List.getElem?_eq_getElem hi, Option.getD_some]

theorem get_overwrite_outside {i : Fin n} (h : i < start ∨ start + bytes.length ≤ i) :
    (overwrite memory start bytes).get i = memory.get i := by
  rw [get_overwrite]
  split
  · rw [List.getElem?_eq_none (by omega), Option.getD_none]
  · rfl

@[simp] theorem overwrite_nil : overwrite memory start [] = memory := by
  refine ext_get fun i => ?_
  rw [get_overwrite_outside]
  simp only [List.length_nil]
  omega

theorem get_set (i j : Fin n) (b : UInt8) :
    (memory.set i b).get j = if i = j then b else memory.get j := by
  show (memory.set i b)[j.val] = _
  rw [Vector.getElem_set]
  simp only [Fin.ext_iff]
  rfl

theorem overwrite_cons (h : start < n) (b : UInt8) :
    overwrite memory start (b :: bytes) = overwrite (memory.set start b) (start + 1) bytes := by
  refine ext_get fun i => ?_
  have hset : (memory.set start b).get i = if start = i then b else memory.get i := by
    rw [get_set ⟨start, h⟩ i b]
    simp only [Fin.ext_iff]
  rw [get_overwrite, get_overwrite, hset]
  rcases Nat.lt_trichotomy i start with hi | hi | hi
  · rw [if_neg (by omega), if_neg (by omega), if_neg (by omega)]
  · rw [if_pos (by omega), if_neg (by omega), if_pos hi.symm, hi, Nat.sub_self]
    rfl
  · obtain ⟨k, hk⟩ : ∃ k, i.val - start = k + 1 := ⟨i.val - start - 1, by omega⟩
    have hk' : i.val - (start + 1) = k := by omega
    rw [if_pos (by omega), if_pos (by omega), if_neg (by omega), hk, hk', List.getElem?_cons_succ]

@[simp] theorem window_zero : window memory start 0 = [] := by
  simp [window]

theorem window_succ (h : start < n) :
    window memory start (count + 1) = memory.get ⟨start, h⟩ :: window memory (start + 1) count := by
  have hdrop : start < memory.toList.length := by simpa using h
  rw [window, List.drop_eq_getElem_cons hdrop, List.take_succ_cons]
  rfl

theorem length_window (h : start + count ≤ n) : (window memory start count).length = count := by
  simp only [window, List.length_take, List.length_drop, Vector.length_toList]
  omega

theorem getElem?_window {i : Fin n} (h : start ≤ i) (hi : i < start + count) :
    (window memory start count)[i.val - start]? = some (memory.get i) := by
  rw [window, List.getElem?_take_of_lt (by omega), List.getElem?_drop]
  have hi' : start + (i.val - start) = i.val := by omega
  rw [hi', List.getElem?_eq_getElem (by simp)]
  rfl

theorem window_overwrite (h : start + bytes.length ≤ n) :
    window (overwrite memory start bytes) start bytes.length = bytes := by
  refine List.ext_getElem (length_window h) fun k hk hk' => ?_
  have hi : start + k < n := by omega
  have hplace : start + k - start = k := Nat.add_sub_cancel_left ..
  have hfound := @getElem?_window _ (overwrite memory start bytes) start bytes.length
    ⟨start + k, hi⟩ (Nat.le_add_right ..) (Nat.add_lt_add_left hk' _)
  rw [get_overwrite_inside (Nat.le_add_right ..) (by simp only [hplace, hk'])] at hfound
  simp only [hplace] at hfound
  exact Option.some.inj ((List.getElem?_eq_getElem hk).symm.trans hfound)

/-- Putting a saved range back with new bytes spliced in replaces just those bytes. -/
theorem overwrite_splice {position : Nat} (hfit : position + bytes.length ≤ count)
    (hrange : start + count ≤ n) :
    overwrite memory start (InfoMemory.splice (window memory start count) position bytes) =
      overwrite memory (start + position) bytes := by
  have hlen : (window memory start count).length = count := length_window hrange
  have hfit' : position + bytes.length ≤ (window memory start count).length := by omega
  refine ext_get fun i => ?_
  rw [get_overwrite]
  by_cases hin : start ≤ i ∧ i < start + count
  · rw [if_pos hin.1, InfoMemory.getElem?_splice hfit', getElem?_window hin.1 hin.2]
    by_cases hdata : start + position ≤ i ∧ i < start + position + bytes.length
    · rw [if_pos (by omega), get_overwrite, if_pos hdata.1]
      have hi : i.val - start - position = i.val - (start + position) := by omega
      rw [hi]
    · rw [if_neg (by omega), get_overwrite_outside (by omega), Option.getD_some]
  · have hout : i.val < start + position ∨ start + position + bytes.length ≤ i := by omega
    rw [get_overwrite_outside hout]
    by_cases hstart : start ≤ i
    · have hsplice := InfoMemory.length_splice hfit'
      rw [if_pos hstart, List.getElem?_eq_none (by omega), Option.getD_none]
    · rw [if_neg hstart]

end Memory

namespace NorArray

/-! ## Addresses of the array -/

/-- The address of a place. -/
def address (i : Nat) : UInt16 := base + i.toUInt16

theorem toNat_address {i : Nat} (h : i < size) : (address i).toNat = base.toNat + i := by
  have hbase : base.toNat = 0x1800 := rfl
  have hsize : size = 512 := rfl
  have hword : i < UInt16.size := Nat.lt_trans h (by decide)
  have hi : i.toUInt16.toNat = i := UInt16.toNat_ofNat_of_lt' hword
  rw [address, UInt16.toNat_add, hi]
  omega

theorem address_add (i k : Nat) : address i + k.toUInt16 = address (i + k) := by
  simp only [address, Nat.toUInt16_eq, UInt16.ofNat_add, UInt16.add_assoc]

theorem address_succ (i : Nat) : address i + 1 = address (i + 1) := address_add i 1

theorem address_add_zero (i : Nat) : address i + Nat.toUInt16 0 = address i := address_add i 0

theorem address_succ_add (i k : Nat) :
    address (i + 1) + k.toUInt16 = address i + (k + 1).toUInt16 := by
  rw [address_add, address_add, Nat.add_assoc, Nat.add_comm 1 k]

/-- Every place of the array is found by its address. -/
theorem locate_address {i : Nat} (h : i < size) : locate (address i) = .ok ⟨i, h⟩ := by
  have hi : (address i).toNat - base.toNat = i := by
    rw [toNat_address h, Nat.add_sub_cancel_left]
  have hin : base ≤ address i ∧ (address i).toNat - base.toNat < size := by
    rw [UInt16.le_iff_toNat_le, hi, toNat_address h]
    exact ⟨Nat.le_add_right .., h⟩
  have hfound : index? (address i) = some ⟨i, h⟩ := by
    rw [index?, dif_pos hin]
    simp only [hi]
  rw [locate, hfound]

/-- Erasing a segment leaves no trace of its bytes: nothing but what is put over all of it. -/
theorem overwrite_eraseSegment {memory : Vector UInt8 size} {i : Fin size} {bytes : List UInt8}
    (hi : i.val % segmentSize = 0) (hlen : bytes.length = segmentSize) :
    overwrite (eraseSegment memory i) i bytes = overwrite memory i bytes := by
  refine ext_get fun j => ?_
  by_cases hj : i.val ≤ j ∧ j.val < i + bytes.length
  · rw [get_overwrite_inside hj.1 (by omega), get_overwrite_inside hj.1 (by omega)]
  · rw [get_overwrite_outside (by omega), get_overwrite_outside (by omega), get_eraseSegment,
      if_neg]
    simp only [segment, segmentSize] at hi hlen ⊢
    omega

end NorArray

namespace InfoMemory

/-- The first place of a section in the array. -/
def Section.offset (sect : Section) : Nat := sect.base.toNat - NorArray.base.toNat

theorem base_eq_address (sect : Section) : sect.base = NorArray.address sect.offset := by
  cases sect <;> decide

end InfoMemory

end BoardSupport
