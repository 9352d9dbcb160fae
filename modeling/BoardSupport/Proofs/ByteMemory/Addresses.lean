import BoardSupport.ByteMemory.Basic

/-!
# Addresses in a row

The addresses of a byte memory are counted around the end: the highest is followed by zero.
-/

namespace BoardSupport.ByteMemory

/-- Consecutive addresses from `first` on, `count` of them; the highest is followed by zero. -/
def consecutive (first : UInt16) (count : Nat) : List UInt16 :=
  (List.range count).map fun i => first + i.toUInt16

@[simp] theorem consecutive_zero (first : UInt16) : consecutive first 0 = [] := rfl

theorem consecutive_succ (first : UInt16) (count : Nat) :
    consecutive first (count + 1) = first :: consecutive (first + 1) count := by
  simp [consecutive, List.range_succ_eq_map, UInt16.ofNat_add, UInt16.add_comm, UInt16.add_assoc]

@[simp] theorem length_consecutive (a : UInt16) (count : Nat) :
    (consecutive a count).length = count := by
  simp [consecutive]

theorem getElem?_consecutive {a : UInt16} {count i : Nat} (hi : i < count) :
    (consecutive a count)[i]? = some (a + i.toUInt16) := by
  simp [consecutive, hi]

theorem toNat_add_toUInt16 (a : UInt16) (i : Nat) :
    (a + i.toUInt16).toNat = (a.toNat + i) % 65536 := by
  rw [UInt16.toNat_add]
  exact Nat.add_mod_mod a.toNat i 65536

theorem add_succ_toUInt16 (a : UInt16) (i : Nat) :
    a + (i + 1).toUInt16 = a + 1 + i.toUInt16 := by
  refine UInt16.toNat_inj.1 ?_
  rw [toNat_add_toUInt16, toNat_add_toUInt16, UInt16.toNat_add]
  show (a.toNat + (i + 1)) % 65536 = ((a.toNat + 1) % 65536 + i) % 65536
  omega

/-- The distance between addresses is counted around the end. -/
theorem toNat_sub_eq_iff {a b : UInt16} {i : Nat} (hi : i < 65536) :
    (b - a).toNat = i ↔ b.toNat = (a.toNat + i) % 65536 := by
  have ha : a.toNat < 65536 := a.toNat_lt
  have hb : b.toNat < 65536 := b.toNat_lt
  rw [UInt16.toNat_sub]
  omega

end BoardSupport.ByteMemory
