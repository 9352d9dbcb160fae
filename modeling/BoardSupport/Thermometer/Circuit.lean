import BoardSupport.Binary32.Arithmetic

/-!
# From readings to degrees

The thermistor forms a voltage divider with a fixed resistor.  Its resistance follows from the
averaged reading, and its temperature from the resistance by the equation of Steinhart and Hart in
its form with one parameter, all in single precision.  The logarithm that it takes is not fixed here.
-/

namespace BoardSupport.Thermometer

/-- The circuit and how it is sampled.  By default: 10 kΩ at 25 °C with `B = 3380`, a resistor of
10 kΩ, a 12-bit converter, five samples 10 ms apart. -/
structure Config where
  /-- The thermistor's resistance at the nominal temperature, in ohms. -/
  nominalResistance : Binary32 := .ofNat 10000
  /-- The nominal temperature, in degrees Celsius. -/
  nominalTemperature : Binary32 := .ofNat 25
  /-- The parameter `B`. -/
  bCoefficient : Binary32 := .ofNat 3380
  /-- The fixed resistor, in ohms. -/
  seriesResistor : Binary32 := .ofNat 10000
  /-- The reading at full scale. -/
  fullScale : UInt16 := 0xFFF
  /-- The number of samples in a reading; none counts as one. -/
  samples : UInt8 := 5
  /-- The delay between powering the divider and the first sample, in milliseconds. -/
  settleMillis : UInt32 := 10
  /-- The delay after each sample, in milliseconds. -/
  intervalMillis : UInt32 := 10
  deriving DecidableEq, Repr, Inhabited

/-- What is wrong with a circuit whose readings are at one of their ends. -/
inductive CircuitFault where
  /-- The average is zero: the thermistor is disconnected. -/
  | openCircuit
  /-- The average is at full scale: the thermistor is shorted. -/
  | shortCircuit
  deriving DecidableEq, Repr

/-- The zero of the Celsius scale, in kelvin. -/
def kelvinOffset : Binary32 := .ofFraction false 27315 100

namespace Config

variable (c : Config)

/-- The number of samples that are taken. -/
def sampleCount : Nat := max c.samples.toNat 1

/-- The average of so many samples with the given sum. -/
def average (sum : UInt32) : Binary32 := .ofNat sum.toNat / .ofNat c.sampleCount

/-- The thermistor's resistance at an average reading. -/
def resistance (average : Binary32) : Binary32 :=
  c.seriesResistor * (.ofNat c.fullScale.toNat / average - .ofNat 1)

variable [Binary32.Logarithm]

/-- The temperature of a resistance, in degrees Celsius. -/
def celsius (resistance : Binary32) : Binary32 :=
  let steinhart := Binary32.Logarithm.log (resistance / c.nominalResistance) / c.bCoefficient
  let steinhart := steinhart + .ofNat 1 / (c.nominalTemperature + kelvinOffset)
  .ofNat 1 / steinhart - kelvinOffset

/-- What an average reading says: a temperature in tenths of a degree, or a fault. -/
def interpret (average : Binary32) : Except CircuitFault Int16 :=
  if average.le (.ofNat 0) then .error .openCircuit
  else if Binary32.le (.ofNat c.fullScale.toNat) average then .error .shortCircuit
  else .ok (c.celsius (c.resistance average) * .ofNat 10).toInt16

end Config

end BoardSupport.Thermometer
