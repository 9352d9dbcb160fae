/-!
# Status codes of the chip support library

Every entry point of the library returns a 16-bit status: zero for success, anything else for a
failure.  Nine negative codes have a meaning of their own; all others belong to one module.

- `Error.code` and `Error.ofCode?` go between failures and codes, `check` and `status` between
  results and codes.
- `Error.code_of_ofCode?`: what is read from a code gives that code back.
-/

namespace BoardSupport.ChipSupport

/-- The failures a call of the chip support library can report. -/
inductive Error where
  /-- Failure without further detail. -/
  | fail
  /-- The peripheral or resource is in use already. -/
  | inUse
  /-- Input or output error. -/
  | xio
  /-- A buffer or counter ran over. -/
  | overflow
  /-- The handle is null or was never opened. -/
  | badHandle
  /-- An argument is out of range. -/
  | invalidParams
  /-- The command is not supported. -/
  | invalidCommand
  /-- The query is not supported. -/
  | invalidQuery
  /-- The device lacks the feature. -/
  | notSupported
  /-- A failure of one module, by its code. -/
  | other (code : Int16)
  deriving DecidableEq, Repr, Inhabited

/-- The status of a call that succeeded. -/
def success : Int16 := 0

namespace Error

/-- The failures that have a code of their own, in the order of their codes `-1` to `-9`. -/
def named : List Error :=
  [fail, inUse, xio, overflow, badHandle, invalidParams, invalidCommand, invalidQuery, notSupported]

/-- The status code of a failure. -/
def code : Error → Int16
  | fail => -1
  | inUse => -2
  | xio => -3
  | overflow => -4
  | badHandle => -5
  | invalidParams => -6
  | invalidCommand => -7
  | invalidQuery => -8
  | notSupported => -9
  | other c => c

/-- The failure a status code stands for: none for success, the named failure if there is one. -/
def ofCode? (c : Int16) : Option Error :=
  if c = success then none else some ((named.find? (·.code = c)).getD (other c))

theorem code_of_ofCode? {c : Int16} {e : Error} (h : ofCode? c = some e) : e.code = c := by
  unfold ofCode? at h
  split at h
  · cases h
  · obtain rfl := Option.some.inj h
    cases hf : named.find? (·.code = c) with
    | none => rfl
    | some e => simpa using List.find?_some hf

theorem ofCode?_eq_none_iff {c : Int16} : ofCode? c = none ↔ c = success := by
  simp [ofCode?]

end Error

/-- The result that a raw status stands for. -/
def check (c : Int16) : Except Error Unit :=
  match Error.ofCode? c with
  | none => .ok ()
  | some e => .error e

/-- The raw status of a result. -/
def status {α : Type} : Except Error α → Int16
  | .ok _ => success
  | .error e => e.code

end BoardSupport.ChipSupport
