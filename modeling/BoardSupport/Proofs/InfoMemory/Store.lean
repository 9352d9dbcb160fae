import BoardSupport.Proofs.Flash.Range

/-!
# Information memory as a plain store

Seen from the outside, information memory is four sections of 128 bytes: a request is refused or it
reads or replaces a range of one section.  Nothing here knows of segments that have to be erased.

- `Command.grant`: the section a command gets, or the error it is refused with.
- `Store.perform` and `Store.run`: what the plain store does with a command, and with many.
- `contents`: the plain store that the bytes of a flash array stand for.
-/

namespace BoardSupport.InfoMemory

/-- The sections by their letters. -/
def lettered : List (Char × Section) := [('A', .a), ('B', .b), ('C', .c), ('D', .d)]

theorem ofTag_eq_lookup (tag : Char) :
    Section.ofTag tag = (lettered.lookup tag).elim (.error (.unknownSection tag)) .ok := by
  unfold Section.ofTag
  split
  · rfl
  · rfl
  · rfl
  · rfl
  · next ha hb hc hd =>
    rw [lettered, List.lookup_cons, beq_false_of_ne ha, List.lookup_cons, beq_false_of_ne hb,
      List.lookup_cons, beq_false_of_ne hc, List.lookup_cons, beq_false_of_ne hd]
    rfl

namespace Command

/-- Whether the command stores bytes; otherwise it fetches them. -/
def isWrite : Command → Bool
  | write .. | writeTagged .. => true
  | read .. | readTagged .. => false

/-- The bytes handed over with the command: the data, or the buffer to be filled. -/
def bytes : Command → List UInt8
  | read _ _ buffer | readTagged _ _ buffer => buffer
  | write _ _ data | writeTagged _ _ data => data

/-- The first byte of the range, counted from the start of the section. -/
def position : Command → UInt8
  | read _ position _ | readTagged _ position _ => position
  | write _ position _ | writeTagged _ position _ => position

/-- The section that is asked for, if there is one of that letter. -/
def target : Command → Except Error Section
  | read sect .. | write sect .. => .ok sect
  | readTagged tag .. | writeTagged tag .. =>
    (lettered.lookup tag).elim (.error (.unknownSection tag)) .ok

/-- The section that the command gets, or the error it is refused with: first an unknown letter,
then a range that ends behind the section. -/
def grant (c : Command) : Except Error Section :=
  match c.target with
  | .error e => .error e
  | .ok sect =>
    if c.position.toNat + c.bytes.length ≤ 128 then
      .ok sect
    else
      .error (.outOfRange c.position c.bytes.length)

/-- The command stores bytes, and is granted a section for them. -/
def Stores (c : Command) (sect : Section) : Prop :=
  c.grant = .ok sect ∧ c.isWrite = true ∧ c.bytes ≠ []

/-- The answer to a command that ended in `outcome`; one that fetches hands a buffer back too. -/
def answer : (c : Command) → (outcome : Except Error Nat) → (buffer : List UInt8) → c.Answer
  | read .., outcome, buffer => (outcome, buffer)
  | readTagged .., outcome, buffer => (outcome, buffer)
  | write .., outcome, _ => outcome
  | writeTagged .., outcome, _ => outcome

theorem grant_eq_ok_iff {c : Command} {sect : Section} :
    c.grant = .ok sect ↔ c.target = .ok sect ∧ Fits c.position c.bytes.length := by
  unfold grant
  cases c.target with
  | error e => simp
  | ok other =>
    show (if Fits c.position c.bytes.length then _ else _) = _ ↔ _
    by_cases h : Fits c.position c.bytes.length
    · simp [h]
    · simp [h]

theorem range_of_grant {c : Command} {sect : Section} (h : c.grant = .ok sect) :
    c.position.toNat + c.bytes.length ≤ sectionSize :=
  (grant_eq_ok_iff.1 h).2

/-- A command that stores bytes hands no buffer back. -/
theorem answer_of_isWrite {c : Command} (h : c.isWrite = true) (outcome : Except Error Nat)
    (buffer : List UInt8) : c.answer outcome buffer = c.answer outcome [] := by
  cases c with
  | read | readTagged => cases h
  | write | writeTagged => rfl

end Command

/-! ## The plain store -/

/-- The bytes of each section. -/
abbrev Store : Type := Section → Vector UInt8 sectionSize

namespace Store

/-- The store with `data` in place of the bytes from `position` of one section on. -/
def put (m : Store) (sect : Section) (position : Nat) (data : List UInt8) : Store := fun other =>
  if other = sect then overwrite (m sect) position data else m other

/-- The answer of the plain store to a command, and the store afterwards. -/
def perform (m : Store) (c : Command) : c.Answer × Store :=
  match c.grant with
  | .error e => (c.answer (.error e) c.bytes, m)
  | .ok sect =>
    (c.answer (.ok c.bytes.length) (window (m sect) c.position.toNat c.bytes.length),
      if c.isWrite then m.put sect c.position.toNat c.bytes else m)

/-- The answers of the plain store to many commands, each beside its command, and the store after
all of them. -/
def run (m : Store) : List Command → List ((c : Command) × c.Answer) × Store
  | [] => ([], m)
  | c :: cs =>
    let (answer, m') := m.perform c
    let (later, m'') := run m' cs
    (⟨c, answer⟩ :: later, m'')

end Store

/-! ## Sections in the flash array -/

theorem offset_add_le (sect : Section) : sect.offset + sectionSize ≤ NorArray.size := by
  cases sect <;> decide

theorem offset_aligned (sect : Section) : sect.offset % NorArray.segmentSize = 0 := by
  cases sect <;> decide

/-- Two sections have no place in common. -/
theorem offset_disjoint {sect other : Section} (h : other ≠ sect) :
    other.offset + sectionSize ≤ sect.offset ∨ sect.offset + sectionSize ≤ other.offset := by
  revert h
  cases sect <;> cases other <;> decide

/-- Every place lies in a section. -/
theorem exists_section (i : Fin NorArray.size) :
    ∃ sect : Section, sect.offset ≤ i ∧ i.val < sect.offset + sectionSize := by
  have hi := i.isLt
  have ha : Section.offset .a = 384 := rfl
  have hb : Section.offset .b = 256 := rfl
  have hc : Section.offset .c = 128 := rfl
  have hd : Section.offset .d = 0 := rfl
  have hsize : sectionSize = 128 := rfl
  have hall : NorArray.size = 512 := rfl
  by_cases h₁ : i.val < 128
  · exact ⟨.d, by omega, by omega⟩
  by_cases h₂ : i.val < 256
  · exact ⟨.c, by omega, by omega⟩
  by_cases h₃ : i.val < 384
  · exact ⟨.b, by omega, by omega⟩
  · exact ⟨.a, by omega, by omega⟩

/-- The sections that the bytes of the array hold. -/
def contents (memory : Vector UInt8 NorArray.size) : Store := fun sect =>
  .ofFn fun i => memory.get ⟨sect.offset + i, by have := offset_add_le sect; omega⟩

theorem get_contents (memory : Vector UInt8 NorArray.size) (sect : Section)
    (i : Fin sectionSize) (h : sect.offset + i < NorArray.size) :
    (contents memory sect).get i = memory.get ⟨sect.offset + i, h⟩ :=
  Vector.getElem_ofFn ..

/-- Every byte of the array belongs to a section, so the sections are all there is. -/
theorem contents_injective {memory memory' : Vector UInt8 NorArray.size}
    (h : contents memory = contents memory') : memory = memory' := by
  refine ext_get fun i => ?_
  obtain ⟨sect, hfirst, hlast⟩ := exists_section i
  have hk : i.val - sect.offset < sectionSize := by omega
  have hfound : ∀ m : Vector UInt8 NorArray.size,
      m.get i = (contents m sect).get ⟨i.val - sect.offset, hk⟩ := by
    intro m
    have hi : sect.offset + (i.val - sect.offset) = i.val := by omega
    rw [get_contents m sect ⟨i.val - sect.offset, hk⟩ (by simp only [hi, i.isLt])]
    simp only [hi]
  rw [hfound memory, hfound memory', h]

theorem window_contents (memory : Vector UInt8 NorArray.size) (sect : Section)
    {position count : Nat} (h : position + count ≤ sectionSize) :
    window (contents memory sect) position count =
      window memory (sect.offset + position) count := by
  have hsect := offset_add_le sect
  induction count generalizing position with
  | zero => rw [window_zero, window_zero]
  | succ count ih =>
    have hplace : sect.offset + position < NorArray.size := by omega
    rw [window_succ (by omega), window_succ hplace, ih (by omega)]
    rw [get_contents memory sect ⟨position, by omega⟩ hplace, Nat.add_assoc]

/-- Replacing a range of the array that lies in a section changes that section alone. -/
theorem contents_overwrite (memory : Vector UInt8 NorArray.size) (sect : Section)
    {position : Nat} {data : List UInt8} (h : position + data.length ≤ sectionSize) :
    contents (overwrite memory (sect.offset + position) data) =
      (contents memory).put sect position data := by
  have hsect := offset_add_le sect
  funext other
  have hother := offset_add_le other
  refine ext_get fun i => ?_
  have hi := i.isLt
  have hplace : other.offset + i < NorArray.size := by omega
  rw [get_contents _ other i hplace, Store.put]
  by_cases hsame : other = sect
  · subst hsame
    rw [if_pos rfl, get_overwrite, get_overwrite, get_contents _ other i hplace]
    have hk : other.offset + i.val - (other.offset + position) = i.val - position := by omega
    have hle : other.offset + position ≤ other.offset + i.val ↔ position ≤ i := by omega
    simp only [hk, hle]
  · rw [if_neg hsame, get_contents _ other i hplace]
    refine get_overwrite_outside ?_
    have := offset_disjoint hsame
    show other.offset + i.val < _ ∨ _ ≤ other.offset + i.val
    omega

end BoardSupport.InfoMemory
