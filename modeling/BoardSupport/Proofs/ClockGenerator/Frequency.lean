import BoardSupport.ClockGenerator.Frequency
import BoardSupport.Proofs.Registers.Words
import Mathlib.Algebra.Order.Floor.Semifield
import Mathlib.Data.Nat.Cast.Order.Field
import Mathlib.Data.Rat.Floor
import Mathlib.Tactic.Linarith
import Mathlib.Tactic.Positivity
import Mathlib.Tactic.Ring

/-!
# The computed frequency and the exact one

The frequency is computed in words, by three divisions that each drop a fraction.  No word runs over on
the way, and the result is on one side of the exact frequency and follows the registers like it.  What
the last two divisions drop is less than one kilohertz, but what the first one drops is multiplied
afterwards.

- `words_toNat`: every word of the computation is the number that the formula has there.
- `kilohertz_loss`: how far the computed frequency is below the exact one, and when nothing is lost.
- `unity_gain_lost`: a setting that loses several kilohertz.
- `Sound`, `Agrees`, `Follows`: what holds of every single setting, and between settings;
  `frequency_sound` proves it.
-/

namespace BoardSupport.ClockGenerator

/-- The frequency of an input clock: 12 MHz outside, and 32 768 Hz from the oscillator. -/
def Input.frequency : Input → ℕ
  | external => 12000000
  | realTime => 32768

theorem Input.toNat_hertz (input : Input) : input.hertz.toNat = input.frequency := by
  cases input <;> rfl

theorem Input.frequency_le (input : Input) : input.frequency ≤ 12000000 := by
  cases input <;> decide

namespace Config

variable {c c' : Config} {input : Input}

/-! ## The fields of the registers -/

/-- The factor by which the multiplier multiplies: the low 12 bits of its register and four. -/
def multiplierFactor (c : Config) : ℕ := c.control1.toNat % 2 ^ 12 + 4

/-- The factor by which the input clock is divided: the low 12 bits of the register and four, unless bit
15 bypasses the divider. -/
def inputFactor (c : Config) : ℕ :=
  if c.inputControl.toNat.testBit 15 then 1 else c.inputControl.toNat % 2 ^ 12 + 4

/-- The factor by which the multiplied clock is divided: the low 9 bits of the register and one, if bit 9
turns the divider on. -/
def outputFactor (c : Config) : ℕ :=
  if c.outputControl.toNat.testBit 9 then c.outputControl.toNat % 2 ^ 9 + 1 else 1

theorem inputFactor_pos (c : Config) : 0 < c.inputFactor := by
  unfold inputFactor
  split <;> omega

theorem outputFactor_pos (c : Config) : 0 < c.outputFactor := by
  unfold outputFactor
  split <;> omega

theorem multiplierFactor_le (c : Config) : c.multiplierFactor ≤ 4099 := by
  unfold multiplierFactor
  omega

/-- The exact frequency in kilohertz, read off the bits of the registers: the low 12 bits of the first
are the multiplier, those of the second the input divider, with its bypass in bit 15, and the low 9 bits
of the last the output divider, with its enable in bit 9. -/
def exactKilohertz (c : Config) (input : Input) : ℚ :=
  input.frequency * (c.control1.toNat % 2 ^ 12 + 4 : ℕ) /
    ((if c.inputControl.toNat.testBit 15 then 1 else c.inputControl.toNat % 2 ^ 12 + 4 : ℕ) *
      (if c.outputControl.toNat.testBit 9 then c.outputControl.toNat % 2 ^ 9 + 1 else 1 : ℕ) * 1000)

/-- What the multiplier and the output divider make of one hertz, in kilohertz. -/
def gain (c : Config) : ℚ := c.multiplierFactor / (c.outputFactor * 1000)

theorem exactKilohertz_eq (c : Config) (input : Input) :
    c.exactKilohertz input = input.frequency / c.inputFactor * c.gain := by
  rw [exactKilohertz, gain, multiplierFactor, inputFactor, outputFactor]
  ring

theorem gain_pos (c : Config) : 0 < c.gain := by
  have hmultiplier : 0 < c.multiplierFactor := Nat.succ_pos _
  have houtput := c.outputFactor_pos
  rw [gain]
  positivity

theorem gain_le (c : Config) : c.gain ≤ 4.099 := by
  have hmultiplier : (c.multiplierFactor : ℚ) ≤ 4099 := by exact_mod_cast c.multiplierFactor_le
  have houtput : (1 : ℚ) ≤ c.outputFactor := by exact_mod_cast c.outputFactor_pos
  rw [gain, div_le_iff₀ (by linarith)]
  linarith

/-! ## The computation in words -/

theorem multiplied_le (c : Config) (input : Input) :
    input.frequency / c.inputFactor * c.multiplierFactor ≤ 12000000 * 4099 :=
  Nat.mul_le_mul ((Nat.div_le_self _ _).trans input.frequency_le) c.multiplierFactor_le

theorem toNat_inputDivider_add (c : Config) :
    (c.inputDivider + 4).toNat = c.inputControl.toNat % 2 ^ 12 + 4 :=
  toNat_field_add rfl (by decide)

theorem toNat_multiplier_add (c : Config) : (c.multiplier + 4).toNat = c.multiplierFactor :=
  toNat_field_add rfl (by decide)

theorem toNat_outputDivider_add (c : Config) :
    (c.outputDivider + 1).toNat = c.outputControl.toNat % 2 ^ 9 + 1 :=
  toNat_field_add rfl (by decide)

theorem toNat_dividedHertz (c : Config) (input : Input) :
    (c.dividedHertz input).toNat = input.frequency / c.inputFactor := by
  rw [dividedHertz, bypassesInputDivider, and_bit_ne_zero (i := 15) rfl, inputFactor]
  split
  · rw [Nat.div_one, Input.toNat_hertz]
  · rw [UInt64.toNat_div, toNat_inputDivider_add, Input.toNat_hertz]

theorem toNat_multipliedHertz (c : Config) (input : Input) :
    (c.multipliedHertz input).toNat =
      input.frequency / c.inputFactor * c.multiplierFactor := by
  have hmultiplied := c.multiplied_le input
  rw [← toNat_dividedHertz, ← toNat_multiplier_add] at hmultiplied ⊢
  exact toNat_mul_of_lt (hmultiplied.trans_lt (by decide))

theorem toNat_outputHertz (c : Config) (input : Input) :
    (c.outputHertz input).toNat =
      input.frequency / c.inputFactor * c.multiplierFactor / c.outputFactor := by
  rw [outputHertz, enablesOutputDivider, and_bit_ne_zero (i := 9) rfl, outputFactor,
    ← toNat_multipliedHertz]
  split
  · rw [UInt64.toNat_div, toNat_outputDivider_add]
  · exact (Nat.div_one _).symm

theorem outputHertz_le (c : Config) (input : Input) :
    (c.outputHertz input).toNat ≤ 12000000 * 4099 := by
  rw [toNat_outputHertz]
  exact (Nat.div_le_self _ _).trans (c.multiplied_le input)

/-- The result fits a word of 32 bits. -/
theorem toNat_outputKilohertz (c : Config) (input : Input) :
    (c.outputKilohertz input).toNat = (c.outputHertz input).toNat / 1000 := by
  have hle := c.outputHertz_le input
  rw [outputKilohertz, UInt64.toNat_toUInt32, UInt64.toNat_div]
  exact Nat.mod_eq_of_lt (show (c.outputHertz input).toNat / 1000 < 2 ^ 32 by omega)

/-! ## Accuracy -/

/-- The last two divisions are one. -/
theorem toNat_outputKilohertz_eq (c : Config) (input : Input) :
    (c.outputKilohertz input).toNat =
      input.frequency / c.inputFactor * c.multiplierFactor / (c.outputFactor * 1000) := by
  rw [toNat_outputKilohertz, toNat_outputHertz, Nat.div_div_eq_div_mul]

/-- What the first division drops of the frequency, in kilohertz: its rest goes through the multiplier
and the output divider like the clock. -/
def lostKilohertz (c : Config) (input : Input) : ℚ :=
  (input.frequency % c.inputFactor : ℕ) / c.inputFactor * c.gain

theorem lostKilohertz_nonneg (c : Config) (input : Input) : 0 ≤ c.lostKilohertz input :=
  mul_nonneg (by positivity) c.gain_pos.le

theorem lostKilohertz_lt (c : Config) (input : Input) : c.lostKilohertz input < 4.099 := by
  have hpos : (0 : ℚ) < c.inputFactor := Nat.cast_pos.2 c.inputFactor_pos
  have hrest : ((input.frequency % c.inputFactor : ℕ) : ℚ) / c.inputFactor < 1 := by
    rw [div_lt_one hpos]
    exact_mod_cast Nat.mod_lt input.frequency c.inputFactor_pos
  calc c.lostKilohertz input < 1 * c.gain := mul_lt_mul_of_pos_right hrest c.gain_pos
    _ = c.gain := one_mul _
    _ ≤ 4.099 := c.gain_le

theorem lostKilohertz_eq_zero_iff (c : Config) (input : Input) :
    c.lostKilohertz input = 0 ↔ c.inputFactor ∣ input.frequency := by
  have hpos : (c.inputFactor : ℚ) ≠ 0 := Nat.cast_ne_zero.2 c.inputFactor_pos.ne'
  rw [lostKilohertz, mul_eq_zero_iff_right c.gain_pos.ne', div_eq_zero_iff, or_iff_left hpos,
    Nat.cast_eq_zero, Nat.dvd_iff_mod_eq_zero]

/-- Without what is lost, the frequency is that of an input clock of whole hertz. -/
theorem exactKilohertz_sub_lost (c : Config) (input : Input) :
    c.exactKilohertz input - c.lostKilohertz input =
      (input.frequency / c.inputFactor * c.multiplierFactor : ℕ) / (c.outputFactor * 1000 : ℕ) := by
  have hpos : (c.inputFactor : ℚ) ≠ 0 := Nat.cast_ne_zero.2 c.inputFactor_pos.ne'
  have hdivided : (input.frequency : ℚ) / c.inputFactor =
      (input.frequency / c.inputFactor : ℕ) +
        (input.frequency % c.inputFactor : ℕ) / c.inputFactor := by
    rw [div_eq_iff hpos, add_mul, div_mul_cancel₀ _ hpos]
    exact_mod_cast (Nat.div_add_mod' input.frequency c.inputFactor).symm
  rw [exactKilohertz_eq, lostKilohertz, hdivided, ← sub_mul, add_sub_cancel_right, gain]
  push_cast
  ring

theorem toNat_outputKilohertz_eq_floor (c : Config) (input : Input) :
    (c.outputKilohertz input).toNat = ⌊c.exactKilohertz input - c.lostKilohertz input⌋₊ := by
  rw [exactKilohertz_sub_lost, Nat.floor_div_eq_div, toNat_outputKilohertz_eq]

theorem outputKilohertz_le_exact (c : Config) (input : Input) :
    ((c.outputKilohertz input).toNat : ℚ) ≤ c.exactKilohertz input := by
  have hkept : 0 ≤ c.exactKilohertz input - c.lostKilohertz input := by
    rw [exactKilohertz_sub_lost]
    positivity
  rw [toNat_outputKilohertz_eq_floor]
  linarith [Nat.floor_le hkept, c.lostKilohertz_nonneg input]

/-- The computed frequency is the exact one less what the first division drops, rounded down.  That is
up to four kilohertz, and nothing if and only if the input clock is divided without a rest. -/
theorem kilohertz_loss (c : Config) (input : Input) :
    (c.outputKilohertz input).toNat = ⌊c.exactKilohertz input - c.lostKilohertz input⌋₊ ∧
      0 ≤ c.lostKilohertz input ∧ c.lostKilohertz input < 4.099 ∧
      (c.lostKilohertz input = 0 ↔ c.inputFactor ∣ input.frequency) :=
  ⟨c.toNat_outputKilohertz_eq_floor input, c.lostKilohertz_nonneg input, c.lostKilohertz_lt input,
    c.lostKilohertz_eq_zero_iff input⟩

/-- The input clock is divided and multiplied by the same factor. -/
def unityGain : Config := ⟨0x0FFF, 0x0FFF, 0, 0⟩

/-- The frequency should be that of the input clock, and misses it by more than four kilohertz. -/
theorem unity_gain_lost :
    unityGain.exactKilohertz .realTime = 32.768 ∧
      (unityGain.outputKilohertz .realTime).toNat = 28 ∧
      (unityGain.outputKilohertz .realTime).toNat ≠ ⌊unityGain.exactKilohertz .realTime⌋₊ := by
  have hinput : unityGain.inputFactor = 4099 := rfl
  have hmultiplier : unityGain.multiplierFactor = 4099 := rfl
  have houtput : unityGain.outputFactor = 1 := rfl
  have hexact : unityGain.exactKilohertz .realTime = 32.768 := by
    rw [exactKilohertz_eq, gain, hinput, hmultiplier, houtput, Input.frequency]
    norm_num
  have hcomputed : (unityGain.outputKilohertz .realTime).toNat = 28 := rfl
  refine ⟨hexact, hcomputed, ?_⟩
  rw [hexact, hcomputed]
  norm_num

/-! ## Comparing settings -/

/-- The frequency follows the factors. -/
theorem outputKilohertz_le (hinput : c'.inputFactor ≤ c.inputFactor)
    (hmultiplier : c.multiplierFactor ≤ c'.multiplierFactor)
    (houtput : c'.outputFactor ≤ c.outputFactor) :
    c.outputKilohertz input ≤ c'.outputKilohertz input := by
  rw [UInt32.le_iff_toNat_le, toNat_outputKilohertz, toNat_outputKilohertz, toNat_outputHertz,
    toNat_outputHertz]
  refine Nat.div_le_div_right (Nat.div_le_div ?_ houtput c'.outputFactor_pos.ne')
  exact Nat.mul_le_mul (Nat.div_le_div_left hinput c'.inputFactor_pos) hmultiplier

/-- The settings agree in the bits that matter. -/
structure Agrees (c c' : Config) : Prop where
  multiplier : c.control1.toNat % 2 ^ 12 = c'.control1.toNat % 2 ^ 12
  bypass : c.inputControl.toNat.testBit 15 = c'.inputControl.toNat.testBit 15
  inputDivider : c.inputControl.toNat.testBit 15 = false →
    c.inputControl.toNat % 2 ^ 12 = c'.inputControl.toNat % 2 ^ 12
  enable : c.outputControl.toNat.testBit 9 = c'.outputControl.toNat.testBit 9
  outputDivider : c.outputControl.toNat.testBit 9 = true →
    c.outputControl.toNat % 2 ^ 9 = c'.outputControl.toNat % 2 ^ 9

theorem Agrees.outputKilohertz_eq (h : Agrees c c') (input : Input) :
    c.outputKilohertz input = c'.outputKilohertz input := by
  have hmultiplier : c.multiplierFactor = c'.multiplierFactor := by
    rw [multiplierFactor, multiplierFactor, h.multiplier]
  have hinput : c.inputFactor = c'.inputFactor := by
    rw [inputFactor, inputFactor, ← h.bypass]
    split
    · rfl
    · rw [h.inputDivider (Bool.eq_false_of_not_eq_true ‹_›)]
  have houtput : c.outputFactor = c'.outputFactor := by
    rw [outputFactor, outputFactor, ← h.enable]
    split
    · rw [h.outputDivider ‹_›]
    · rfl
  rw [← UInt32.toNat_inj, toNat_outputKilohertz, toNat_outputKilohertz, toNat_outputHertz,
    toNat_outputHertz, hmultiplier, hinput, houtput]

/-- Between settings that differ in one register, the frequency follows the fields: it rises with the
multiplier, falls with each divider, and does not fall if the input divider is bypassed or the output
divider is turned off. -/
structure Follows (c : Config) (input : Input) : Prop where
  multiplier : ∀ v : UInt16, c.control1.toNat % 2 ^ 12 ≤ v.toNat % 2 ^ 12 →
    c.outputKilohertz input ≤ outputKilohertz { c with control1 := v } input
  inputDivider : ∀ v : UInt16, c.inputControl.toNat.testBit 15 = v.toNat.testBit 15 →
    c.inputControl.toNat % 2 ^ 12 ≤ v.toNat % 2 ^ 12 →
      outputKilohertz { c with inputControl := v } input ≤ c.outputKilohertz input
  outputDivider : ∀ v : UInt16, c.outputControl.toNat.testBit 9 = v.toNat.testBit 9 →
    c.outputControl.toNat % 2 ^ 9 ≤ v.toNat % 2 ^ 9 →
      outputKilohertz { c with outputControl := v } input ≤ c.outputKilohertz input
  bypass : c.outputKilohertz input ≤
    outputKilohertz { c with inputControl := c.inputControl ||| 0x8000 } input
  disable : c.outputKilohertz input ≤
    outputKilohertz { c with outputControl := c.outputControl &&& ~~~0x0200 } input

theorem follows (c : Config) (input : Input) : Follows c input := by
  constructor
  · intro v hv
    refine outputKilohertz_le le_rfl ?_ le_rfl
    rw [multiplierFactor, multiplierFactor]
    exact Nat.add_le_add_right hv 4
  · intro v hbypass hv
    refine outputKilohertz_le ?_ le_rfl le_rfl
    rw [inputFactor, inputFactor, ← hbypass]
    split
    · exact le_rfl
    · exact Nat.add_le_add_right hv 4
  · intro v henable hv
    refine outputKilohertz_le le_rfl le_rfl ?_
    rw [outputFactor, outputFactor, ← henable]
    split
    · exact Nat.add_le_add_right hv 1
    · exact le_rfl
  · refine outputKilohertz_le ?_ le_rfl le_rfl
    have hbypass : (c.inputControl ||| 0x8000).toNat.testBit 15 = true := by
      rw [UInt16.toNat_or, Nat.testBit_or]
      exact Bool.or_true _
    have hone : inputFactor { c with inputControl := c.inputControl ||| 0x8000 } = 1 :=
      if_pos hbypass
    rw [hone]
    exact c.inputFactor_pos
  · refine outputKilohertz_le le_rfl le_rfl ?_
    have hdisable : (c.outputControl &&& ~~~0x0200).toNat.testBit 9 = false := by
      rw [UInt16.toNat_and, Nat.testBit_and]
      exact Bool.and_false _
    have hone : outputFactor { c with outputControl := c.outputControl &&& ~~~0x0200 } = 1 :=
      if_neg (Bool.eq_false_iff.1 hdisable)
    rw [hone]
    exact c.outputFactor_pos

/-! ## Safety -/

/-- The words that the computation goes through. -/
def words (c : Config) (input : Input) : List UInt64 :=
  [input.hertz, c.inputDivider + 4, c.dividedHertz input, c.multiplier + 4, c.multipliedHertz input,
    c.outputDivider + 1, c.outputHertz input, c.outputHertz input / 1000]

/-- The numbers that the formula for the frequency goes through. -/
def intermediates (c : Config) (input : Input) : List ℕ :=
  let divided := input.frequency / c.inputFactor
  let multiplied := divided * c.multiplierFactor
  let output := multiplied / c.outputFactor
  [input.frequency, c.inputControl.toNat % 2 ^ 12 + 4, divided, c.multiplierFactor, multiplied,
    c.outputControl.toNat % 2 ^ 9 + 1, output, output / 1000]

/-- No word runs over. -/
theorem words_toNat (c : Config) (input : Input) :
    (c.words input).map UInt64.toNat = c.intermediates input := by
  simp only [words, intermediates, List.map_cons, List.map_nil, toNat_inputDivider_add,
    toNat_dividedHertz, toNat_multiplier_add, toNat_multipliedHertz, toNat_outputDivider_add,
    UInt64.toNat_div, toNat_outputHertz, Input.toNat_hertz]
  rfl

/-- What the computation of a frequency comes to: nothing is divided by zero, every word is the number
that the formula has there, so that all of these fit a word of 64 bits, the last one fits a word of 32,
and the result is not above the exact frequency. -/
structure Sound (c : Config) (input : Input) : Prop where
  inputDivisor : c.inputDivider + 4 ≠ 0
  outputDivisor : c.outputDivider + 1 ≠ 0
  computed : (c.words input).map UInt64.toNat = c.intermediates input
  fits : ∀ n ∈ c.intermediates input, n < 2 ^ 64
  lossless : (c.outputKilohertz input).toNat = (c.outputHertz input).toNat / 1000
  bound : (c.outputKilohertz input).toNat ≤ 49188000
  below : ((c.outputKilohertz input).toNat : ℚ) ≤ c.exactKilohertz input

theorem sound (c : Config) (input : Input) : Sound c input := by
  have hwords := c.words_toNat input
  refine ⟨?_, ?_, hwords, ?_, c.toNat_outputKilohertz input, ?_, c.outputKilohertz_le_exact input⟩
  · intro hzero
    have hdivisor := c.toNat_inputDivider_add
    rw [hzero] at hdivisor
    exact absurd hdivisor.symm (Nat.succ_ne_zero _)
  · intro hzero
    have hdivisor := c.toNat_outputDivider_add
    rw [hzero] at hdivisor
    exact absurd hdivisor.symm (Nat.succ_ne_zero _)
  · rw [← hwords]
    intro n hn
    obtain ⟨word, -, rfl⟩ := List.mem_map.1 hn
    exact word.toNat_lt
  · have houtput := c.outputHertz_le input
    rw [toNat_outputKilohertz]
    omega

/-- The computation of a frequency is safe, and the frequency depends on the fields of the registers
alone, which it follows. -/
theorem frequency_sound (c : Config) (input : Input) :
    Sound c input ∧ (∀ c', Agrees c c' → c.outputKilohertz input = c'.outputKilohertz input) ∧
      Follows c input :=
  ⟨c.sound input, fun _ h => h.outputKilohertz_eq input, c.follows input⟩

/-- The bypassed divider and the bits outside the fields do not matter, and a greater multiplier gives no
lower frequency. -/
theorem realTime40_sound :
    (Agrees realTime40 ⟨0x0988, 0x8FFF, 0, 0xFE01⟩ ∧
        realTime40.control1.toNat % 2 ^ 12 ≤ (0x8BE8 : UInt16).toNat % 2 ^ 12) ∧
      Sound realTime40 .realTime ∧
      realTime40.outputKilohertz .realTime =
        outputKilohertz ⟨0x0988, 0x8FFF, 0, 0xFE01⟩ .realTime ∧
      realTime40.outputKilohertz .realTime ≤
        outputKilohertz { realTime40 with control1 := 0x8BE8 } .realTime := by
  have hagrees : Agrees realTime40 ⟨0x0988, 0x8FFF, 0, 0xFE01⟩ :=
    ⟨by decide, by decide, by decide, by decide, by decide⟩
  have hmultiplier : realTime40.control1.toNat % 2 ^ 12 ≤ (0x8BE8 : UInt16).toNat % 2 ^ 12 := by
    decide
  obtain ⟨hsound, hagree, hfollows⟩ := frequency_sound realTime40 .realTime
  exact ⟨⟨hagrees, hmultiplier⟩, hsound, hagree _ hagrees, hfollows.multiplier _ hmultiplier⟩

end Config

end BoardSupport.ClockGenerator
