import BoardSupport.Proofs.ByteMemory.Addresses
import Mathlib.Algebra.Group.Nat.Defs
import Mathlib.Logic.Function.Basic

/-!
# Blocks and numbers in a byte memory

Whoever can keep single bytes can keep blocks and little-endian numbers.  What is written last is what
is read, numbers of any size lie over one another byte by byte, and nothing else is touched.

- `LittleEndian.value_append` and `LittleEndian.value_drop`: a number is that of its low bytes, and that
  of the others times a power of 256.
- `Keeper`: single bytes that are kept, at each address by itself, in whatever state.
- `overlaid`: contents with some bytes laid over them, from an address on and around the end.
- `Reaches`: addresses that can be taken off a range; there `writeRange_eq`: writing a block is writing
  the bytes of a number.
- `contents_writeNumbered` and `readBlock_eq`: what writing and reading byte by byte come to.
- `Codec` and `codec_coherent`: blocks and numbers agree with one another, whatever was there before and
  whatever happens where addresses run over.
-/

namespace BoardSupport

/-! ## Numbers and their bytes -/

namespace LittleEndian

theorem value_bytes_eq_mod_pow (count v : Nat) : value (bytes count v) = v % 256 ^ count := by
  rw [value_bytes, Nat.shiftLeft_eq, Nat.one_mul, Nat.pow_mul]

theorem getElem?_bytes (count v i : Nat) :
    (bytes count v)[i]? = if i < count then some (v / 256 ^ i).toUInt8 else none := by
  induction count generalizing v i with
  | zero => rfl
  | succ n ih =>
    cases i with
    | zero => simp [bytes]
    | succ i =>
      rw [bytes, List.getElem?_cons_succ, ih, Nat.div_div_eq_div_mul, Nat.pow_succ', Nat.mul_comm]
      simp only [Nat.succ_lt_succ_iff]

theorem value_append (first later : List UInt8) :
    value (first ++ later) = value first + 256 ^ first.length * value later := by
  induction first with
  | nil => simp [value]
  | cons b bs ih =>
    rw [List.cons_append, value, value, ih, List.length_cons, Nat.pow_succ', Nat.mul_add,
      Nat.mul_assoc, Nat.add_assoc]

theorem value_lt (bs : List UInt8) : value bs < 256 ^ bs.length := by
  induction bs with
  | nil => simp [value]
  | cons b bs ih =>
    have hb : b.toNat < 256 := b.toNat_lt
    rw [value, List.length_cons, Nat.pow_succ']
    omega

/-- Dropping the low bytes divides. -/
theorem value_drop (count : Nat) (bs : List UInt8) :
    value (bs.drop count) = value bs / 256 ^ count := by
  induction count generalizing bs with
  | zero => simp
  | succ n ih =>
    cases bs with
    | nil => simp [value]
    | cons b bs =>
      have hb : b.toNat < 256 := b.toNat_lt
      have hrest : value (b :: bs) / 256 = value bs := by
        rw [value]
        omega
      rw [List.drop_succ_cons, ih, Nat.pow_succ', ← Nat.div_div_eq_div_mul, hrest]

end LittleEndian

namespace ByteMemory

variable {σ : Type}

/-! ## Single bytes -/

/-- Accesses to single bytes with a state in `σ`, by which every address keeps the byte that was written
there last. -/
structure Keeper (σ : Type) where
  readByte : UInt16 → StateM σ UInt8
  writeByte : UInt8 → UInt16 → StateM σ Unit
  /-- The byte that is kept at an address. -/
  contents : σ → UInt16 → UInt8
  read_reply : ∀ a s, (readByte a s).1 = contents s a
  read_contents : ∀ a s, contents (readByte a s).2 = contents s
  write_contents : ∀ byte a s,
    contents (writeByte byte a s).2 = Function.update (contents s) a byte

/-- The memory that has nothing but the accesses to single bytes, in a build that has `overflow` happen
where addresses run over. -/
def Keeper.memory (k : Keeper σ) (overflow : StateM σ Unit) : ByteMemory (StateM σ) :=
  .ofBytes overflow k.readByte k.writeByte

/-- Single cells keep bytes. -/
def cellKeeper : Keeper Cells where
  readByte address := Cells.handler (.read address)
  writeByte byte address := Cells.handler (.write address byte)
  contents := Cells.get
  read_reply _ _ := rfl
  read_contents _ _ := rfl
  write_contents byte a s := by
    funext b
    show (s.set a byte).get b = _
    rw [Cells.get_set, Function.update_apply]
    simp only [eq_comm]

/-! ## Bytes in a row -/

/-- Contents with some bytes laid over them from an address on; the highest address is followed by
zero. -/
def overlaid (m : UInt16 → UInt8) (a : UInt16) (bytes : List UInt8) : UInt16 → UInt8 := fun b =>
  bytes[(b - a).toNat]?.getD (m b)

/-- A byte may be written before those after it, as long as they do not get around to it. -/
theorem overlaid_cons (m : UInt16 → UInt8) (a : UInt16) {byte : UInt8} {bytes : List UInt8}
    (h : bytes.length < 65536) :
    overlaid (Function.update m a byte) (a + 1) bytes = overlaid m a (byte :: bytes) := by
  funext b
  have ha : a.toNat < 65536 := a.toNat_lt
  have hb : b.toNat < 65536 := b.toNat_lt
  rw [overlaid, overlaid, Function.update_apply]
  by_cases hab : b = a
  · have hlast : (b - (a + 1)).toNat = 65535 := by
      rw [toNat_sub_eq_iff (by omega), UInt16.toNat_add, hab]
      show a.toNat = ((a.toNat + 1) % 65536 + 65535) % 65536
      omega
    have hzero : (b - a).toNat = 0 := by
      rw [toNat_sub_eq_iff (by omega), hab]
      omega
    rw [hlast, hzero, List.getElem?_eq_none (by omega), if_pos hab]
    rfl
  · have hnext : (b - a).toNat = (b - (a + 1)).toNat + 1 := by
      have hne : b.toNat ≠ a.toNat := fun hsame => hab (UInt16.toNat_inj.1 hsame)
      rw [UInt16.toNat_sub, UInt16.toNat_sub, UInt16.toNat_add]
      show (65536 - a.toNat + b.toNat) % 65536 =
        (65536 - (a.toNat + 1) % 65536 + b.toNat) % 65536 + 1
      omega
    rw [hnext, List.getElem?_cons_succ, if_neg hab]

theorem overlaid_outside {m : UInt16 → UInt8} {a b : UInt16} {bytes : List UInt8}
    (h : ∀ i < bytes.length, b.toNat ≠ (a.toNat + i) % 65536) : overlaid m a bytes b = m b := by
  rw [overlaid, List.getElem?_eq_none]
  · rfl
  · refine Nat.not_lt.1 fun hinside => h _ hinside ?_
    exact (toNat_sub_eq_iff (b - a).toNat_lt).1 rfl

theorem overlaid_inside {m : UInt16 → UInt8} {a b : UInt16} {bytes : List UInt8} {i : Nat}
    (hi : i < 65536) (h : b.toNat = (a.toNat + i) % 65536) :
    overlaid m a bytes b = bytes[i]?.getD (m b) := by
  rw [overlaid, (toNat_sub_eq_iff hi).2 h]

/-- What is read where bytes were laid over: first those bytes, then what was there before. -/
theorem map_overlaid (m : UInt16 → UInt8) (a : UInt16) {bytes : List UInt8} {count : Nat}
    (hbytes : bytes.length ≤ count) (hcount : count ≤ 65536) :
    (consecutive a count).map (overlaid m a bytes) =
      bytes ++ ((consecutive a count).map m).drop bytes.length := by
  refine List.ext_getElem? fun i => ?_
  rw [List.getElem?_append, List.getElem?_drop, List.getElem?_map, List.getElem?_map]
  by_cases hi : i < count
  · rw [getElem?_consecutive hi, Option.map_some,
      overlaid_inside (Nat.lt_of_lt_of_le hi hcount) (toNat_add_toUInt16 a i)]
    by_cases hinside : i < bytes.length
    · rw [if_pos hinside, List.getElem?_eq_getElem hinside]
      rfl
    · rw [if_neg hinside, List.getElem?_eq_none (Nat.le_of_not_lt hinside),
        Nat.add_sub_cancel' (Nat.le_of_not_lt hinside), getElem?_consecutive hi]
      rfl
  · have houtside : bytes.length ≤ i := by omega
    have hnone : (consecutive a count)[i]? = none := by
      refine List.getElem?_eq_none ?_
      rw [length_consecutive]
      omega
    rw [if_neg (Nat.not_lt.2 houtside), Nat.add_sub_cancel' houtside, hnone]
    rfl

/-! ## Ranges -/

section Ranges

variable {m : Type → Type} [Monad m] [LawfulMonad m] {overflow : m Unit} {a : UInt16} {count : Nat}

/-- So many addresses can be taken off the range from `a` on, and another one, or else it makes no
difference that the range runs over. -/
def Reaches (overflow : m Unit) (a : UInt16) (count : Nat) : Prop :=
  overflow = pure () ∨ a.toNat + count < 65535

theorem Reaches.takeAddress_eq (h : Reaches overflow a count) :
    takeAddress overflow a = pure (a + 1) := by
  unfold takeAddress
  by_cases hlast : a = 0xFFFF
  · rcases h with rfl | hend
    · simp [hlast]
    · have htop : (0xFFFF : UInt16).toNat = 65535 := rfl
      rw [hlast, htop] at hend
      omega
  · simp [hlast]

omit [LawfulMonad m] in
theorem Reaches.next (h : Reaches overflow a (count + 1)) : Reaches overflow (a + 1) count := by
  refine h.imp_right fun hend => ?_
  rw [UInt16.toNat_add]
  show (a.toNat + 1) % 65536 + count < 65535
  omega

theorem writeNumbered_cons (writeByte : UInt8 → UInt16 → m Unit) (byte : UInt8) (bytes : List UInt8)
    (a : UInt16) :
    writeNumbered writeByte (byte :: bytes) a =
      writeByte byte a >>= fun _ => writeNumbered writeByte bytes (a + 1) := by
  have hzero : a + (0 : Nat).toUInt16 = a := UInt16.add_zero a
  unfold writeNumbered
  rw [List.zipIdx_cons, List.forM_eq_forM, List.forM_cons, List.zipIdx_succ, List.forM_map]
  simp only [hzero, add_succ_toUInt16]

/-- Short of the end, addresses from a range are those that are counted. -/
theorem writeRange_eq (writeByte : UInt8 → UInt16 → m Unit) {bytes : List UInt8}
    (h : Reaches overflow a bytes.length) :
    writeRange overflow writeByte bytes a = writeNumbered writeByte bytes a := by
  induction bytes generalizing a with
  | nil =>
    rw [writeRange, h.takeAddress_eq, pure_bind]
    rfl
  | cons byte bytes ih => rw [writeRange, h.takeAddress_eq, pure_bind, ih h.next, writeNumbered_cons]

end Ranges

/-! ## Byte by byte -/

variable (k : Keeper σ) {overflow : StateM σ Unit}

theorem contents_writeNumbered {bytes : List UInt8} (a : UInt16) (s : σ)
    (h : bytes.length ≤ 65536) :
    k.contents (writeNumbered k.writeByte bytes a s).2 = overlaid (k.contents s) a bytes := by
  induction bytes generalizing a s with
  | nil => rfl
  | cons byte bytes ih =>
    have hlength : bytes.length < 65536 := h
    rw [writeNumbered_cons]
    show k.contents (writeNumbered k.writeByte bytes (a + 1) (k.writeByte byte a s).2).2 = _
    rw [ih (a + 1) _ (Nat.le_of_lt hlength), k.write_contents, overlaid_cons _ _ hlength]

theorem readRange_eq (filled : List UInt8) {buffer : List UInt8} {a : UInt16}
    (h : Reaches overflow a buffer.length) (s : σ) :
    (readRange overflow k.readByte filled buffer a s).1 =
        filled.reverse ++ (consecutive a buffer.length).map (k.contents s) ∧
      k.contents (readRange overflow k.readByte filled buffer a s).2 = k.contents s := by
  induction buffer generalizing filled a s with
  | nil =>
    rw [readRange, h.takeAddress_eq, pure_bind]
    exact ⟨(List.append_nil _).symm, rfl⟩
  | cons slot buffer ih =>
    obtain ⟨hbytes, hcontents⟩ := ih (k.contents s a :: filled) h.next (k.readByte a s).2
    rw [k.read_contents] at hbytes hcontents
    rw [List.reverse_cons, List.append_assoc] at hbytes
    rw [readRange, h.takeAddress_eq, pure_bind, List.length_cons, consecutive_succ, List.map_cons]
    rw [← k.read_reply a s] at hbytes hcontents ⊢
    exact ⟨hbytes, hcontents⟩

theorem readBlock_eq {buffer : List UInt8} {a : UInt16} (h : Reaches overflow a buffer.length)
    (s : σ) :
    ((k.memory overflow).readBlock buffer a s).1 =
        (consecutive a buffer.length).map (k.contents s) ∧
      k.contents ((k.memory overflow).readBlock buffer a s).2 = k.contents s :=
  readRange_eq k [] h s

theorem contents_writeInteger (v : UInt32) (a : UInt16) (size : UInt8) (s : σ) :
    k.contents ((k.memory overflow).writeInteger v a size s).2 =
      overlaid (k.contents s) a (LittleEndian.bytes (min size.toNat 4) v.toNat) := by
  rw [← LittleEndian.take_bytes]
  refine contents_writeNumbered k a s ?_
  rw [List.length_take, LittleEndian.length_bytes]
  omega

theorem readLong_fst (memory : ByteMemory (StateM σ)) (a : UInt16) (s : σ) :
    (memory.readLong a s).1 =
      (LittleEndian.value (memory.readBlock [0, 0, 0, 0] a s).1).toUInt32 := rfl

theorem readLong_snd (memory : ByteMemory (StateM σ)) (a : UInt16) (s : σ) :
    (memory.readLong a s).2 = (memory.readBlock [0, 0, 0, 0] a s).2 := rfl

theorem readInteger_fst (memory : ByteMemory (StateM σ)) (a : UInt16) (s : σ) :
    (memory.readInteger a s).1 =
      (LittleEndian.value (memory.readBlock [0, 0] a s).1).toUInt16 := rfl

/-- A number is read from the bytes at its addresses. -/
theorem readLong_eq {a : UInt16} (h : Reaches overflow a 4) (s : σ) :
    ((k.memory overflow).readLong a s).1.toNat =
        LittleEndian.value ((consecutive a 4).map (k.contents s)) ∧
      k.contents ((k.memory overflow).readLong a s).2 = k.contents s := by
  have hread : Reaches overflow a ([0, 0, 0, 0] : List UInt8).length := h
  obtain ⟨hbytes, hcontents⟩ := readBlock_eq k hread s
  have hlt := LittleEndian.value_lt ((consecutive a 4).map (k.contents s))
  rw [List.length_map, length_consecutive] at hlt
  rw [readLong_fst, readLong_snd, hbytes]
  exact ⟨UInt32.toNat_ofNat_of_lt' hlt, hcontents⟩

theorem readInteger_eq {a : UInt16} (h : Reaches overflow a 2) (s : σ) :
    ((k.memory overflow).readInteger a s).1.toNat =
      LittleEndian.value ((consecutive a 2).map (k.contents s)) := by
  have hread : Reaches overflow a ([0, 0] : List UInt8).length := h
  have hbytes := (readBlock_eq k hread s).1
  have hlt := LittleEndian.value_lt ((consecutive a 2).map (k.contents s))
  rw [List.length_map, length_consecutive] at hlt
  rw [readInteger_fst, hbytes]
  exact UInt16.toNat_ofNat_of_lt' hlt

/-! ## Blocks and numbers -/

/-- Blocks and numbers at an address, from some state of the memory on. -/
structure Codec (overflow : StateM σ Unit) (a : UInt16) (s : σ) : Prop where
  /-- A block is read as it was written, and no other address is changed. -/
  block : ∀ data buffer : List UInt8, buffer.length = data.length →
    a.toNat + data.length < 65535 →
      let (_, t) := (k.memory overflow).writeBlock data a s
      let (read, u) := (k.memory overflow).readBlock buffer a t
      read = data ∧ ∀ b : UInt16, b.toNat < a.toNat ∨ a.toNat + data.length ≤ b.toNat →
        k.contents u b = k.contents s b
  /-- The low bytes of a number go to the addresses in a row, around the end, and no other address is
  changed. -/
  integer : ∀ (v : UInt32) (size : UInt8) (b : UInt16),
    let (_, t) := (k.memory overflow).writeInteger v a size s
    (∀ i < min size.toNat 4, b.toNat = (a.toNat + i) % 65536 →
        (k.contents t b).toNat = v.toNat / 256 ^ i % 256) ∧
      ((∀ i < min size.toNat 4, b.toNat ≠ (a.toNat + i) % 65536) →
        k.contents t b = k.contents s b)
  /-- Short of the end a number is a block. -/
  integerBlock : ∀ (v : UInt32) (size : UInt8), a.toNat + min size.toNat 4 < 65535 →
    (k.memory overflow).writeInteger v a size s =
      (k.memory overflow).writeBlock ((LittleEndian.bytes 4 v.toNat).take size.toNat) a s
  /-- The low bytes are those of the number that was written, the others those that were there. -/
  long : ∀ (v : UInt32) (size : UInt8), a.toNat + 4 < 65535 →
    let (old, t) := (k.memory overflow).readLong a s
    let (_, u) := (k.memory overflow).writeInteger v a size t
    let (new, _) := (k.memory overflow).readLong a u
    new.toNat = v.toNat % 256 ^ min size.toNat 4 +
      256 ^ min size.toNat 4 * (old.toNat / 256 ^ min size.toNat 4)
  /-- The short number is the low half of the long one, also around the end if nothing happens there. -/
  short : overflow = pure () ∨ a.toNat + 4 < 65535 →
    ((k.memory overflow).readInteger a s).1.toNat =
      ((k.memory overflow).readLong a s).1.toNat % 65536

/-- A number that is laid over another one takes the place of its low bytes. -/
theorem value_overlaid (m : UInt16 → UInt8) (a : UInt16) (v : Nat) {size : Nat} (hsize : size ≤ 4) :
    LittleEndian.value ((consecutive a 4).map (overlaid m a (LittleEndian.bytes size v))) =
      v % 256 ^ size + 256 ^ size * (LittleEndian.value ((consecutive a 4).map m) / 256 ^ size) := by
  have hlength := LittleEndian.length_bytes size v
  rw [map_overlaid m a (by omega) (by decide), LittleEndian.value_append, hlength,
    LittleEndian.value_bytes_eq_mod_pow, LittleEndian.value_drop]

theorem readBlock_writeBlock {a : UInt16} {s : σ} {data buffer : List UInt8}
    (hlength : buffer.length = data.length) (hend : a.toNat + data.length < 65535) :
    let t := ((k.memory overflow).writeBlock data a s).2
    ((k.memory overflow).readBlock buffer a t).1 = data ∧
      ∀ b : UInt16, b.toNat < a.toNat ∨ a.toNat + data.length ≤ b.toNat →
        k.contents ((k.memory overflow).readBlock buffer a t).2 b = k.contents s b := by
  intro t
  have hreaches : Reaches overflow a data.length := .inr hend
  have hwritten : k.contents t = overlaid (k.contents s) a data := by
    show k.contents (writeRange overflow k.writeByte data a s).2 = _
    rw [writeRange_eq k.writeByte hreaches]
    exact contents_writeNumbered k a s (by omega)
  rw [← hlength] at hreaches
  obtain ⟨hbytes, hcontents⟩ := readBlock_eq k hreaches t
  constructor
  · have hrest : ((consecutive a data.length).map (k.contents s)).drop data.length = [] :=
      List.drop_eq_nil_of_le (by simp)
    rw [hbytes, hwritten, hlength, map_overlaid _ _ (Nat.le_refl _) (by omega), hrest,
      List.append_nil]
  · intro b hb
    have hlt : b.toNat < 65536 := b.toNat_lt
    rw [hcontents, hwritten, overlaid_outside]
    intro i hi
    omega

theorem contents_writeInteger_apply (v : UInt32) (a : UInt16) (size : UInt8) (s : σ) (b : UInt16) :
    let t := ((k.memory overflow).writeInteger v a size s).2
    (∀ i < min size.toNat 4, b.toNat = (a.toNat + i) % 65536 →
        (k.contents t b).toNat = v.toNat / 256 ^ i % 256) ∧
      ((∀ i < min size.toNat 4, b.toNat ≠ (a.toNat + i) % 65536) →
        k.contents t b = k.contents s b) := by
  intro t
  have hwritten : k.contents t =
      overlaid (k.contents s) a (LittleEndian.bytes (min size.toNat 4) v.toNat) :=
    contents_writeInteger k v a size s
  rw [hwritten]
  constructor
  · intro i hi hb
    rw [overlaid_inside (by omega) hb, LittleEndian.getElem?_bytes, if_pos hi]
    rfl
  · intro hb
    refine overlaid_outside ?_
    rwa [LittleEndian.length_bytes]

theorem writeInteger_eq_writeBlock (v : UInt32) {a : UInt16} {size : UInt8}
    (hend : a.toNat + min size.toNat 4 < 65535) :
    (k.memory overflow).writeInteger v a size =
      (k.memory overflow).writeBlock ((LittleEndian.bytes 4 v.toNat).take size.toNat) a := by
  have hreaches : Reaches overflow a ((LittleEndian.bytes 4 v.toNat).take size.toNat).length := by
    rw [List.length_take, LittleEndian.length_bytes]
    exact .inr hend
  exact (writeRange_eq k.writeByte hreaches).symm

theorem readLong_writeInteger (v : UInt32) {a : UInt16} (size : UInt8) (s : σ)
    (h : Reaches overflow a 4) :
    let t := ((k.memory overflow).readLong a s).2
    let u := ((k.memory overflow).writeInteger v a size t).2
    ((k.memory overflow).readLong a u).1.toNat = v.toNat % 256 ^ min size.toNat 4 +
      256 ^ min size.toNat 4 *
        (((k.memory overflow).readLong a s).1.toNat / 256 ^ min size.toNat 4) := by
  intro t u
  obtain ⟨hold, hcontents⟩ := readLong_eq k h s
  rw [hold, (readLong_eq k h _).1, contents_writeInteger, hcontents,
    value_overlaid _ _ _ (Nat.min_le_right size.toNat 4)]

theorem readInteger_eq_readLong_mod {a : UInt16} (s : σ) (h : Reaches overflow a 4) :
    ((k.memory overflow).readInteger a s).1.toNat =
      ((k.memory overflow).readLong a s).1.toNat % 65536 := by
  have hfirst := (k.contents s a).toNat_lt
  have hsecond := (k.contents s (a + 1)).toNat_lt
  have hshort : Reaches overflow a 2 := h.imp_right fun hend => by omega
  rw [readInteger_eq k hshort, (readLong_eq k h s).1]
  simp only [consecutive_succ, consecutive_zero, List.map_cons, List.map_nil, LittleEndian.value]
  omega

/-- Whatever keeps single bytes, whatever they are, and whatever happens where addresses run over,
blocks and numbers agree at every address. -/
theorem codec_coherent (overflow : StateM σ Unit) (a : UInt16) (s : σ) : Codec k overflow a s where
  block _ _ hlength hend := readBlock_writeBlock k hlength hend
  integer v size b := contents_writeInteger_apply k v a size s b
  integerBlock v _ hend := congrFun (writeInteger_eq_writeBlock k v hend) s
  long v size hend := by
    have hreaches : Reaches overflow a 4 := .inr hend
    have hlong := readLong_writeInteger k v size s hreaches
    generalize k.memory overflow = memory at hlong ⊢
    exact hlong
  short hend := readInteger_eq_readLong_mod k s hend

/-- The last block that there may be, a number whose highest byte was there before, which is also written
as a block, and the numbers around the end. -/
theorem cells_coherent :
    let memory := cellKeeper.memory (pure ())
    let cells := Cells.ofList [(0xFFFC, 0x99)]
    let written := (memory.writeInteger 0xA1B2C3D4 0xFFF9 3 (memory.readLong 0xFFF9 cells).2).2
    ((0xFFF9 : UInt16).toNat + [1, 2, 3, 4, 5].length < 65535 ∧
        (memory.readBlock [0, 0, 0, 0, 0] 0xFFF9
          (memory.writeBlock [1, 2, 3, 4, 5] 0xFFF9 cells).2).1 = [1, 2, 3, 4, 5]) ∧
      (0xFFF9 : UInt16).toNat + 4 < 65535 ∧
      (memory.readLong 0xFFF9 written).1.toNat = 0xA1B2C3D4 % 256 ^ 3 +
        256 ^ 3 * ((memory.readLong 0xFFF9 cells).1.toNat / 256 ^ 3) ∧
      memory.writeInteger 0xA1B2C3D4 0xFFF9 3 cells =
        memory.writeBlock [0xD4, 0xC3, 0xB2] 0xFFF9 cells ∧
      (memory.readInteger 0xFFFF cells).1.toNat =
        (memory.readLong 0xFFFF cells).1.toNat % 65536 := by
  intro memory cells written
  have hcodec := codec_coherent cellKeeper (pure ()) 0xFFF9 cells
  have hblock : (0xFFF9 : UInt16).toNat + [1, 2, 3, 4, 5].length < 65535 := by decide
  have hlong : (0xFFF9 : UInt16).toNat + 4 < 65535 := by decide
  refine ⟨⟨hblock, ?_⟩, hlong, hcodec.long 0xA1B2C3D4 3 hlong, ?_, ?_⟩
  · exact (hcodec.block [1, 2, 3, 4, 5] [0, 0, 0, 0, 0] rfl hblock).1
  · exact hcodec.integerBlock 0xA1B2C3D4 3 (by decide)
  · exact (codec_coherent cellKeeper (pure ()) 0xFFFF cells).short (.inl rfl)

/-- Three bytes of a number are written around the end of the addresses. -/
example :
    let cells := ((cellKeeper.memory (pure ())).writeInteger 0xA1B2C3D4 0xFFFE 3 {}).2
    cells.toList = [(0x0000, 0xB2), (0xFFFE, 0xD4), (0xFFFF, 0xC3)] := by
  decide

end ByteMemory

end BoardSupport
