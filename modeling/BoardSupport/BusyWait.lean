/-!
# Busy waiting

A delay is spent in a loop of known length: the time asked for is turned into clock cycles, and the
cycles into rounds of the loop, each division dropping its remainder.  Every round executes one
idle instruction, so the number of rounds is all there is to see of a delay.

- `repeated`: the loops, each of which does something a number of times that is known before.
- `spin`: clock cycles spent in rounds.
- `delayNanoseconds`, `delayMicroseconds`, `delayMilliseconds`: the delays; cycles are computed in 64
  bits.
- `nanoseconds`, `microseconds`, `milliseconds`: the rounds that these make.
-/

namespace BoardSupport

/-- A source of delays on a core whose clock runs at `frequency` hertz. -/
structure BusyWait where
  /-- The frequency of the clock, in hertz. -/
  frequency : UInt32
  deriving DecidableEq, Repr

namespace BusyWait

/-- The clock cycles that a round of the loop takes. -/
def cyclesPerRound : Nat := 4

/-- What a core does; the state is the number of idle instructions that it has executed. -/
abbrev Work : Type := StateM Nat Unit

/-- Executes one idle instruction. -/
def idle : Work := modify (· + 1)

/-- Does something so many times, one time after another. -/
def repeated (work : Work) : (times : Nat) → Work
  | 0 => pure ()
  | times + 1 => do
    work
    repeated work times

/-- Spends so many clock cycles in the rounds that fit into them. -/
def spin (cycles : UInt64) : Work := repeated idle (cycles / cyclesPerRound.toUInt64).toNat

/-- Waits for so many nanoseconds. -/
def delayNanoseconds (w : BusyWait) (ns : UInt32) : Work :=
  spin (ns.toUInt64 * w.frequency.toUInt64 / 1000000000)

/-- Waits for so many microseconds. -/
def delayMicroseconds (w : BusyWait) (us : UInt32) : Work :=
  spin (us.toUInt64 * w.frequency.toUInt64 / 1000000)

/-- Waits for so many milliseconds, each spent as a thousand microseconds. -/
def delayMilliseconds (w : BusyWait) (ms : UInt32) : Work :=
  repeated (w.delayMicroseconds 1000) ms.toNat

/-- The rounds that are made, each of them an idle instruction. -/
def rounds (work : Work) : Nat := (work.run 0).2

/-- The rounds of a delay given in nanoseconds. -/
def nanoseconds (w : BusyWait) (ns : UInt32) : Nat := rounds (w.delayNanoseconds ns)

/-- The rounds of a delay given in microseconds. -/
def microseconds (w : BusyWait) (us : UInt32) : Nat := rounds (w.delayMicroseconds us)

/-- The rounds of a delay given in milliseconds. -/
def milliseconds (w : BusyWait) (ms : UInt32) : Nat := rounds (w.delayMilliseconds ms)

end BusyWait

end BoardSupport
