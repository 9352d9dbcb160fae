/-!
# Non-blocking operations

An operation that would have to wait says so instead, and is tried again later.
-/

namespace BoardSupport

/-- How a non-blocking operation can end without a result. -/
inductive NonBlocking (ε : Type) where
  /-- The operation would have to wait; nothing has happened. -/
  | wouldBlock
  /-- The operation failed. -/
  | failed (e : ε)
  deriving DecidableEq, Repr

end BoardSupport
