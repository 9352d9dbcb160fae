/-!
# Transcripts

A transcript is a trace in writing: one entry for each call, with its name and its arguments.
Entries that go on where the one before ended may be joined to it.

- `Item` and `Transcribe`: arguments, and the types whose values can be one.
- `Named`: enumerations, whose values are written by name.
- `Entry` and `Entry.collapse`: calls in writing, and joining them.
-/

namespace BoardSupport.Transcript

/-- An argument in writing. -/
inductive Item where
  /-- A number. -/
  | number (n : Nat)
  /-- A yes or no. -/
  | flag (b : Bool)
  /-- A word. -/
  | word (s : String)
  /-- A string of bytes. -/
  | bytes (l : List UInt8)
  /-- Several items. -/
  | items (l : List Item)
  deriving Repr, Inhabited

/-- An enumeration whose values have names. -/
class Named (α : Type) where
  /-- The values with their names. -/
  names : List (String × α)

namespace Named

variable {α : Type} [Named α]

/-- The name of a value. -/
def name [DecidableEq α] (a : α) : String :=
  ((names.find? fun n : String × α => n.2 = a).map Prod.fst).getD ""

/-- The value of a name, if there is one. -/
def ofName? (s : String) : Option α := names.lookup s

end Named

/-- A type whose values can be written. -/
class Transcribe (α : Type) where
  /-- The value in writing. -/
  item : α → Item

export Transcribe (item)

instance : Transcribe Nat := ⟨.number⟩
instance : Transcribe UInt8 := ⟨fun n => .number n.toNat⟩
instance : Transcribe UInt16 := ⟨fun n => .number n.toNat⟩
instance : Transcribe UInt32 := ⟨fun n => .number n.toNat⟩
instance {w : Nat} : Transcribe (BitVec w) := ⟨fun n => .number n.toNat⟩
instance : Transcribe Bool := ⟨.flag⟩
instance {α : Type} [Transcribe α] : Transcribe (List α) := ⟨fun l => .items (l.map item)⟩
instance {α : Type} [Named α] [DecidableEq α] : Transcribe α := ⟨fun a => .word (Named.name a)⟩

/-- A call in writing. -/
structure Entry where
  /-- The name of the call. -/
  name : String
  /-- Its arguments. -/
  args : List Item := []
  deriving Repr, Inhabited

namespace Entry

variable (join : Entry → Entry → Option Entry)

/-- Adds an entry to the joined ones, the latest of which comes first. -/
def push (done : List Entry) (e : Entry) : List Entry :=
  match done with
  | [] => [e]
  | last :: rest =>
    match join last e with
    | some joined => joined :: rest
    | none => e :: done

/-- Joins every entry to the one before it where `join` says how. -/
def collapse (entries : List Entry) : List Entry := (entries.foldl (push join) []).reverse

end Entry

end BoardSupport.Transcript
