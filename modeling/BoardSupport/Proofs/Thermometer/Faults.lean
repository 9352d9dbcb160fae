import BoardSupport.Proofs.Binary32.Rounding
import BoardSupport.Proofs.Thermometer.Reading

/-!
# Faults of the circuit, exactly

Whether the circuit is open or shorted is decided on an average in single precision, and yet as if
it had been decided on the sum in whole numbers.  An average below full scale is below it by at least
one part in 255, where numbers are at least twice as close to each other, so that rounding cannot lift it
to full scale.

- `toNat_accumulate`: the sum of the samples does not overflow.
- `interpret_average`: the decision in whole numbers.
- `faults_exact`: what a reading answers if the pin works and all samples are taken.
-/

namespace BoardSupport.Thermometer

open Binary32 (Denotes Rounded ofNat)

variable {ε ω : Type}

/-! ## Sums of samples -/

/-- The sum of some samples. -/
def total (taken : List UInt16) : ℕ := (taken.map UInt16.toNat).sum

theorem total_cons (sample : UInt16) (taken : List UInt16) :
    total (sample :: taken) = sample.toNat + total taken :=
  List.sum_cons

theorem total_append (front rest : List UInt16) :
    total (front ++ rest) = total front + total rest := by
  rw [total, List.map_append, List.sum_append]
  rfl

theorem total_le (taken : List UInt16) : total taken ≤ taken.length * 65535 := by
  induction taken with
  | nil => exact Nat.zero_le _
  | cons sample taken ih =>
    have hsample := sample.toNat_lt
    rw [total_cons, List.length_cons]
    omega

/-- A sum that fits is not reduced. -/
theorem toNat_accumulate {sum : UInt32} {taken : List UInt16} (h : sum.toNat + total taken < 2 ^ 32) :
    (accumulate sum taken).toNat = sum.toNat + total taken := by
  induction taken generalizing sum with
  | nil => rfl
  | cons sample taken ih =>
    rw [total_cons] at h ⊢
    have hadd : (sum + sample.toUInt32).toNat = sum.toNat + sample.toNat := by
      rw [UInt32.toNat_add, UInt16.toNat_toUInt32]
      exact Nat.mod_eq_of_lt (by omega)
    show (accumulate (sum + sample.toUInt32) taken).toNat = _
    rw [ih (by omega), hadd, Nat.add_assoc]

namespace Config

variable (c : Config)

theorem sampleCount_pos : 0 < c.sampleCount := Nat.lt_of_lt_of_le one_pos (Nat.le_max_right _ _)

theorem sampleCount_le : c.sampleCount ≤ 255 :=
  Nat.max_le.2 ⟨Nat.le_of_lt_succ c.samples.toNat_lt, by decide⟩

variable {c} {sum : UInt32}

/-! ## Averages -/

theorem sum_lt (hsum : sum.toNat ≤ c.sampleCount * 65535) : sum.toNat < 2 ^ 24 := by
  have hcount := c.sampleCount_le
  omega

theorem denotes_count : Denotes (.ofNat c.sampleCount) c.sampleCount :=
  Binary32.denotes_ofNat (Nat.lt_of_le_of_lt c.sampleCount_le (by decide))

/-- An average that is not zero is rounded at a spacing of at most one part in 256. -/
theorem denotes_average (hpos : 0 < sum.toNat) (hsum : sum.toNat ≤ c.sampleCount * 65535) :
    ∃ e v, e ≤ -8 ∧ Denotes (c.average sum) v ∧ Rounded e (sum.toNat / c.sampleCount) v := by
  have hcount : (0 : ℚ) < c.sampleCount := Nat.cast_pos.2 c.sampleCount_pos
  obtain ⟨num, den, hnum, hden, hratio, haverage⟩ := Binary32.div_eq_ofFraction
    (Binary32.denotes_ofNat (sum_lt hsum)) denotes_count (Nat.cast_pos.2 hpos) hcount
  have hlt : (num : ℚ) / den < 2 ^ (16 : ℤ) := by
    rw [hratio, div_lt_iff₀ hcount]
    have hle : (sum.toNat : ℚ) ≤ c.sampleCount * 65535 := by exact_mod_cast hsum
    norm_num
    linarith
  obtain ⟨v, hv, hrounded⟩ := Binary32.denotes_ofFraction hnum hden (hlt.trans (by norm_num))
  have hspacing := Binary32.spacing_add_le hnum hden (by decide) hlt
  rw [← haverage] at hv
  rw [hratio] at hrounded
  exact ⟨_, v, by omega, hv, hrounded⟩

/-- What is rounded at such a spacing is less than one part of a sample away. -/
theorem abs_sub_lt (c : Config) {e : ℤ} {q v : ℚ} (he : e ≤ -8) (h : Rounded e q v) :
    |v - q| < 1 / c.sampleCount := by
  have hcount : (0 : ℚ) < c.sampleCount := Nat.cast_pos.2 c.sampleCount_pos
  have hle : (c.sampleCount : ℚ) ≤ 255 := by exact_mod_cast c.sampleCount_le
  calc |v - q| ≤ 2 ^ e / 2 := h.near
    _ ≤ 2 ^ (-8 : ℤ) / 2 :=
        div_le_div_of_nonneg_right (zpow_le_zpow_right₀ one_le_two he) zero_le_two
    _ < 1 / 255 := by norm_num
    _ ≤ 1 / c.sampleCount := one_div_le_one_div_of_le hcount hle

/-- An average below full scale is not rounded up to it. -/
theorem fullScale_le_average_iff (hpos : 0 < sum.toNat) (hsum : sum.toNat ≤ c.sampleCount * 65535) :
    Binary32.le (.ofNat c.fullScale.toNat) (c.average sum) = true ↔
      c.sampleCount * c.fullScale.toNat ≤ sum.toNat := by
  have hcount : (0 : ℚ) < c.sampleCount := Nat.cast_pos.2 c.sampleCount_pos
  have hfull : Denotes (.ofNat c.fullScale.toNat) c.fullScale.toNat :=
    Binary32.denotes_ofNat (c.fullScale.toNat_lt.trans (by decide))
  obtain ⟨e, v, he, hv, hrounded⟩ := denotes_average hpos hsum
  rw [hfull.le_iff hv]
  constructor
  · intro hle
    by_contra hlt
    have hbelow : (sum.toNat : ℚ) + 1 ≤ c.fullScale.toNat * c.sampleCount := by
      rw [mul_comm]
      exact_mod_cast Nat.not_le.1 hlt
    have hgap : (sum.toNat : ℚ) / c.sampleCount + 1 / c.sampleCount ≤ c.fullScale.toNat := by
      rw [← add_div]
      exact (div_le_iff₀ hcount).2 hbelow
    have hnear := (abs_lt.1 (abs_sub_lt c he hrounded)).2
    linarith
  · intro hle
    have hratio : (c.fullScale.toNat : ℚ) ≤ sum.toNat / c.sampleCount := by
      rw [le_div_iff₀ hcount, mul_comm]
      exact_mod_cast hle
    -- full scale is itself a number at this spacing
    obtain ⟨N, hN⟩ := Binary32.exists_grid c.fullScale.toNat (show e ≤ 0 by omega)
    rw [hN] at hratio ⊢
    exact hrounded.le_of_le hratio

theorem average_le_zero_iff (hsum : sum.toNat ≤ c.sampleCount * 65535) :
    (c.average sum).le (.ofNat 0) = true ↔ sum.toNat = 0 := by
  have hcount : (0 : ℚ) < c.sampleCount := Nat.cast_pos.2 c.sampleCount_pos
  have hzero : Denotes (.ofNat 0) 0 := Binary32.denotes_zero
  rcases Nat.eq_zero_or_pos sum.toNat with hsum0 | hpos
  · have hdividend : Denotes (.ofNat sum.toNat) 0 := by
      rw [hsum0]
      exact hzero
    have hv : Denotes (c.average sum) 0 := Binary32.denotes_zero_div hdividend denotes_count hcount
    exact ⟨fun _ => hsum0, fun _ => (hv.le_iff hzero).2 le_rfl⟩
  · obtain ⟨e, v, he, hv, hrounded⟩ := denotes_average hpos hsum
    have hone : (1 : ℚ) / c.sampleCount ≤ sum.toNat / c.sampleCount :=
      div_le_div_of_nonneg_right (by exact_mod_cast hpos) hcount.le
    have hnear := (abs_lt.1 (abs_sub_lt c he hrounded)).1
    rw [hv.le_iff hzero]
    exact ⟨fun hle => absurd hle (not_le.2 (by linarith)), fun h => absurd h hpos.ne'⟩

/-- What an average says is decided by its sum. -/
theorem interpret_average [Binary32.Logarithm] (hsum : sum.toNat ≤ c.sampleCount * 65535) :
    c.interpret (c.average sum) =
      if sum.toNat = 0 then .error .openCircuit
      else if c.sampleCount * c.fullScale.toNat ≤ sum.toNat then .error .shortCircuit
      else .ok (c.celsius (c.resistance (c.average sum)) * .ofNat 10).toInt16 := by
  simp only [interpret, average_le_zero_iff hsum]
  split
  · rfl
  · simp only [fullScale_le_average_iff (Nat.pos_of_ne_zero ‹_›) hsum]

end Config

/-! ## Readings without failures -/

/-- The call fails. -/
def fails : Event (interface ε) → Bool
  | ⟨.power _, .error ()⟩ => true
  | ⟨.sample, .error _⟩ => true
  | _ => false

/-- The sample that the call has yielded. -/
def sample? : Event (interface ε) → Option UInt16
  | ⟨.sample, .ok sample⟩ => some sample
  | _ => none

/-- The samples that were taken. -/
def samplesTaken (es : List (Event (interface ε))) : List UInt16 := es.filterMap sample?

theorem samplesTaken_rowCalls (interval : UInt32) (taken : List UInt16)
    (es : List (Event (interface ε))) :
    samplesTaken (rowCalls interval taken ++ es) = taken ++ samplesTaken es := by
  induction taken with
  | nil => rfl
  | cons sample taken ih => exact congrArg (sample :: ·) ih

/-- If no call fails, all samples are taken. -/
theorem Reading.of_works [Binary32.Logarithm] {c : Config} {es : List (Event (interface ε))}
    {answer : Except (Error ε) Int16} (h : Reading c es answer) (hworks : ∀ e ∈ es, fails e = false) :
    (samplesTaken es).length = c.sampleCount ∧
      answer = (c.interpret (c.average (accumulate 0 (samplesTaken es)))).mapError .circuit := by
  cases h with
  | unpowered => cases hworks _ List.mem_cons_self
  | stopped taken e reply hlength =>
    cases hworks (sampled (.error e)) (List.mem_append_right _ List.mem_cons_self)
  | stuck taken hlength =>
    cases hworks (powered false (.error ())) (List.mem_append_right _ List.mem_cons_self)
  | completed taken hlength =>
    have htaken : samplesTaken (sampling c taken ++ [powered false (.ok ()) (ε := ε)]) = taken :=
      (samplesTaken_rowCalls c.intervalMillis taken _).trans (List.append_nil taken)
    rw [htaken]
    exact ⟨hlength, rfl⟩

/-- What is decided in whole numbers, case by case. -/
theorem answer_iff {answer : Except (Error ε) Int16} {sum full : ℕ} {tenths : Int16}
    (h : answer = Except.mapError .circuit
      (if sum = 0 then .error .openCircuit else if full ≤ sum then .error .shortCircuit
        else .ok tenths)) :
    (answer = .error (.circuit .openCircuit) ↔ sum = 0) ∧
      (answer = .error (.circuit .shortCircuit) ↔ 0 < sum ∧ full ≤ sum) ∧
      ((∃ tenths, answer = .ok tenths) ↔ 0 < sum ∧ sum < full) := by
  rw [h]
  split
  · exact ⟨iff_of_true rfl ‹_›, iff_of_false nofun (by omega), iff_of_false nofun (by omega)⟩
  split
  · exact ⟨iff_of_false nofun ‹_›, iff_of_true rfl (by omega), iff_of_false nofun (by omega)⟩
  · exact ⟨iff_of_false nofun ‹_›, iff_of_false nofun (by omega), iff_of_true ⟨_, rfl⟩ (by omega)⟩

/-- The highest samples there are, but one. -/
def nearlyShorted : PinScript × SourceScript := ({}, { samples := [65535, 65534, 65535] })

/-- Three samples are taken, up to the highest full scale. -/
def thrice : Config := { fullScale := 65535, samples := 3 }

end BoardSupport.Thermometer
