/-!
# Analog pins and converter channels

The converter has six input channels; the board's header brings out four of them as pins A0 to A3.
-/

namespace BoardSupport.Converter

/-- An input channel of the converter. -/
inductive Channel where
  /-- Channel 0. -/
  | ch0
  /-- Channel 1, not brought out. -/
  | ch1
  /-- Channel 2, not brought out. -/
  | ch2
  /-- Channel 3. -/
  | ch3
  /-- Channel 4. -/
  | ch4
  /-- Channel 5. -/
  | ch5
  deriving DecidableEq, Repr

namespace Channel

/-- The channels in the order of their numbers. -/
def all : List Channel := [ch0, ch1, ch2, ch3, ch4, ch5]

/-- The number of a channel. -/
def index : Channel → UInt8
  | ch0 => 0
  | ch1 => 1
  | ch2 => 2
  | ch3 => 3
  | ch4 => 4
  | ch5 => 5

/-- The channel of a number, if there is one. -/
def ofIndex? (i : UInt8) : Option Channel := all[i.toNat]?

theorem ofIndex?_index (c : Channel) : ofIndex? c.index = some c := by
  cases c <;> rfl

end Channel

/-- An analog pin of the board's header. -/
inductive Pin where
  /-- A0, wired to channel 0. -/
  | a0
  /-- A1, wired to channel 3. -/
  | a1
  /-- A2, wired to channel 4. -/
  | a2
  /-- A3, wired to channel 5. -/
  | a3
  deriving DecidableEq, Repr

namespace Pin

/-- The pins in the order of their numbers. -/
def all : List Pin := [a0, a1, a2, a3]

/-- The number of a pin. -/
def id : Pin → UInt8
  | a0 => 0
  | a1 => 1
  | a2 => 2
  | a3 => 3

/-- The pin of a number, if there is one. -/
def ofId? (i : UInt8) : Option Pin := all[i.toNat]?

/-- The channel a pin is wired to. -/
def channel : Pin → Channel
  | a0 => .ch0
  | a1 => .ch3
  | a2 => .ch4
  | a3 => .ch5

theorem ofId?_id (p : Pin) : ofId? p.id = some p := by
  cases p <;> rfl

/-- A0 is on channel 0; the channels 1 and 2 are not brought out, so the pin of any other number is on
the channel two further on. -/
theorem index_channel (p : Pin) : p.channel.index = if p.id = 0 then 0 else p.id + 2 := by
  cases p <;> rfl

/-- The numbers from 4 on name no pin, and only they. -/
theorem ofId?_eq_none_iff {i : UInt8} : ofId? i = none ↔ 3 < i := by
  simp [ofId?, all, UInt8.lt_iff_toNat_lt, Nat.succ_le_iff]

end Pin

end BoardSupport.Converter
