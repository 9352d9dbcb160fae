import BoardSupport.Flash.Controller

/-!
# A flash array

A model of the 512 bytes of information memory behind their controller.  Erasing sets a segment to
all ones, programming can only clear bits, and nothing changes while the controller is locked.

- `NorArray.store`: what a write does, by lock and mode.
- `NorArray.handler`: the array as a flash controller; an address outside it is a fault.
-/

namespace BoardSupport

/-- The number of bytes in the array. -/
abbrev NorArray.size : Nat := 512

/-- The flash array and its controller, with an account of what was done to it. -/
structure NorArray where
  /-- The bytes. -/
  memory : Vector UInt8 NorArray.size := .replicate _ 0xFF
  /-- The mode. -/
  control1 : BitVec 16 := 0
  /-- The controller is locked. -/
  locked : Bool := true
  /-- The first addresses of the segments erased so far, in order. -/
  erased : List UInt16 := []
  /-- The number of bytes programmed so far. -/
  programmed : Nat := 0
  /-- The number of writes made unlocked while interrupts were not masked. -/
  unmasked : Nat := 0
  /-- How deep interrupts are masked. -/
  depth : Nat := 0
  deriving DecidableEq, Repr, Inhabited

namespace NorArray

/-- The address of the first byte. -/
def base : UInt16 := 0x1800

/-- The number of bytes erased at once. -/
def segmentSize : Nat := 128

/-- An access to an address outside the array. -/
structure Fault where
  /-- The address. -/
  address : UInt16
  deriving DecidableEq, Repr

/-- The place of an address in the array. -/
def index? (address : UInt16) : Option (Fin size) :=
  if h : base ≤ address ∧ address.toNat - base.toNat < size then
    some ⟨address.toNat - base.toNat, h.2⟩
  else
    none

/-- The segment a place lies in. -/
def segment (i : Fin size) : Nat := i.val / segmentSize

/-- The address of the first byte of a place's segment. -/
def segmentBase (i : Fin size) : UInt16 := base + (segment i * segmentSize).toUInt16

/-- The bytes with the segment of `i` set to all ones. -/
def eraseSegment (memory : Vector UInt8 size) (i : Fin size) : Vector UInt8 size :=
  .ofFn fun j => if segment j = segment i then 0xFF else memory.get j

theorem get_eraseSegment (memory : Vector UInt8 size) (i j : Fin size) :
    (eraseSegment memory i).get j = if segment j = segment i then 0xFF else memory.get j :=
  Vector.getElem_ofFn ..

/-- Whether interrupts are masked. -/
def isMasked (s : NorArray) : Bool := 0 < s.depth

/-- Writes a byte to a place: nothing while locked; in erase mode the segment is erased; otherwise,
in write mode, the bits that are zero in `byte` are cleared. -/
def store (s : NorArray) (i : Fin size) (byte : UInt8) : NorArray :=
  if s.locked then
    s
  else
    let s := if s.isMasked then s else { s with unmasked := s.unmasked + 1 }
    if contains s.control1 FlashControl1.erase then
      { s with memory := eraseSegment s.memory i, erased := s.erased ++ [segmentBase i] }
    else if contains s.control1 FlashControl1.write then
      { s with
        memory := s.memory.set i (s.memory.get i &&& byte)
        programmed := s.programmed + 1 }
    else
      s

theorem store_of_locked {s : NorArray} (h : s.locked = true) (i : Fin size) (byte : UInt8) :
    s.store i byte = s := by
  simp [store, h]

/-- The place of an address, or a fault. -/
def locate (address : UInt16) : Except Fault (Fin size) :=
  match index? address with
  | some i => .ok i
  | none => .error ⟨address⟩

/-- The array as a flash controller. -/
def handler : Handler Flash.interface (StateT NorArray (Except Fault))
  | .mask => modify fun s => { s with depth := s.depth + 1 }
  | .unmask => modify fun s => { s with depth := s.depth - 1 }
  | .setControl1 value => modify fun s => { s with control1 := value }
  | .setControl3 value => modify fun s => { s with locked := contains value FlashControl3.lock }
  | .read address => do
    let i ← locate address
    return (← get).memory.get i
  | .write address byte => do
    let i ← locate address
    modify fun s => s.store i byte

/-- The array as a flash controller, with every call written down together with whether interrupts
were masked. -/
def observed : Handler Flash.interface
    (StateT (Array (Event Flash.interface × Bool)) (StateT NorArray (Except Fault))) :=
  handler.observed (isMasked <$> get)

/-- Puts bytes into the array by other means than its controller. -/
def load (start : UInt16) (bytes : List UInt8) (s : NorArray) : Except Fault NorArray := do
  let places ← (List.range bytes.length).mapM fun k => locate (start + k.toUInt16)
  let memory := (places.zip bytes).foldl (fun m (i, byte) => m.set i byte) s.memory
  pure { s with memory }

end NorArray

end BoardSupport
