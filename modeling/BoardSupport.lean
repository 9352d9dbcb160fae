import BoardSupport.Binary32.Arithmetic
import BoardSupport.Binary32.Basic
import BoardSupport.Binary32.Log
import BoardSupport.BusyWait
import BoardSupport.ByteMemory.Basic
import BoardSupport.Bytes.LittleEndian
import BoardSupport.ChipSupport.Action
import BoardSupport.ChipSupport.Bank
import BoardSupport.ChipSupport.Console
import BoardSupport.ChipSupport.Error
import BoardSupport.ChipSupport.Library
import BoardSupport.ChipSupport.PinRouting
import BoardSupport.ChipSupport.Runs
import BoardSupport.ChipSupport.Session
import BoardSupport.ClockGenerator.Basic
import BoardSupport.ClockGenerator.Frequency
import BoardSupport.Converter.Basic
import BoardSupport.Converter.Command
import BoardSupport.Converter.Library
import BoardSupport.Converter.Pin
import BoardSupport.CountdownTimer.Basic
import BoardSupport.CountdownTimer.Config
import BoardSupport.Flash.Controller
import BoardSupport.Flash.InfoMemory
import BoardSupport.Flash.NorArray
import BoardSupport.HostInterface.Basic
import BoardSupport.MultichannelBus.Basic
import BoardSupport.MultichannelBus.Command
import BoardSupport.MultichannelBus.Library
import BoardSupport.NonBlocking
import BoardSupport.PeriodTimer.Basic
import BoardSupport.PeripheralBus.Backends
import BoardSupport.PeripheralBus.Basic
import BoardSupport.Program.Basic
import BoardSupport.Program.Handler
import BoardSupport.Program.Runs
import BoardSupport.Proofs.Flash.Range
import BoardSupport.Proofs.Program.Execution
import BoardSupport.Registers.Control
import BoardSupport.Registers.Flag
import BoardSupport.SerialBus.Basic
import BoardSupport.SerialBus.Command
import BoardSupport.SerialBus.Config
import BoardSupport.SerialBus.Library
import BoardSupport.SleepClock.Basic
import BoardSupport.StandIn.Basic
import BoardSupport.StandIn.Devices
import BoardSupport.StandIn.Fault
import BoardSupport.Thermometer.Basic
import BoardSupport.Thermometer.Circuit
import BoardSupport.Thermometer.Script
import BoardSupport.Transcript.Item
import BoardSupport.Transcript.Names
import BoardSupport.Transcript.Registers
import BoardSupport.Transcript.Requests
import BoardSupport.Transcript.Thermometer
import BoardSupport.Watchdog.Basic
import BoardSupport.Proofs.Flash.Operations
import BoardSupport.Proofs.InfoMemory.Store
import BoardSupport.Proofs.InfoMemory.Access
import BoardSupport.Proofs.InfoMemory.Refinement
import BoardSupport.Proofs.InfoMemory.Discipline
import BoardSupport.Proofs.InfoMemory.Bus
import BoardSupport.Proofs.ChipSupport.Calls
import BoardSupport.Proofs.ChipSupport.FailFast
import BoardSupport.Proofs.FailFast.Converter
import BoardSupport.Proofs.FailFast.Buses
import BoardSupport.Proofs.FailFast.Timers
import BoardSupport.Proofs.FailFast.Drivers
import BoardSupport.Proofs.Program.Alike
import BoardSupport.Proofs.Program.Course
import BoardSupport.Proofs.ChipSupport.Frame
import BoardSupport.Proofs.ChipSupport.Session
import BoardSupport.Proofs.ChipSupport.Exchange
import BoardSupport.Proofs.ChipSupport.Twins
import BoardSupport.Proofs.ChipSupport.DebugOutput
import BoardSupport.Proofs.Converter.Handle
import BoardSupport.Proofs.Converter.Stages
import BoardSupport.Proofs.Converter.Conversion
import BoardSupport.Proofs.StandIn.Converter
import BoardSupport.Proofs.Converter.Polling
import BoardSupport.Proofs.DebugOutput.Operations
import BoardSupport.Proofs.DebugOutput.Drivers
import BoardSupport.Proofs.ChipSupport.Inversion
import BoardSupport.Proofs.SerialBus.Management
import BoardSupport.Proofs.SerialBus.Configuration
import BoardSupport.Proofs.SerialBus.Transfers
import BoardSupport.Proofs.ChipSupport.Reporting
import BoardSupport.Proofs.Reporting.Drivers
import BoardSupport.Proofs.ChipSupport.Replay
import BoardSupport.Proofs.Converter.Readings
import BoardSupport.Proofs.Thermometer.Reading
import BoardSupport.Proofs.Thermometer.Sampling
import BoardSupport.Proofs.ChipSupport.Custody
import BoardSupport.Proofs.Custody.Drivers
import BoardSupport.Proofs.StandIn.MultichannelBus
import BoardSupport.Proofs.MultichannelBus.Streams
import BoardSupport.Proofs.Watchdog.Lifecycle
import BoardSupport.Proofs.StandIn.Calls
import BoardSupport.Proofs.StandIn.ClockGenerator
import BoardSupport.Proofs.ClockGenerator.Operation
import BoardSupport.Proofs.Program.Simulation
import BoardSupport.Proofs.Registers.Bits
import BoardSupport.Proofs.Registers.Words
import BoardSupport.Proofs.SleepClock.Wakeup
import BoardSupport.Proofs.PeripheralBus.Clocks
import BoardSupport.Proofs.Binary32.Rounding
import BoardSupport.Proofs.Thermometer.Faults
import BoardSupport.Proofs.ClockGenerator.Frequency
import BoardSupport.Proofs.PeriodTimer.Periods
import BoardSupport.Proofs.ByteMemory.Addresses
import BoardSupport.Proofs.ByteMemory.Codec
import BoardSupport.Proofs.CountdownTimer.Routing
import BoardSupport.Proofs.BusyWait.Granularity
import BoardSupport.Proofs.SleepClock.Registers
import BoardSupport.Proofs.SerialBus.BitOrder
import BoardSupport.Proofs.Converter.ByCommands
import BoardSupport.Proofs.StandIn.SerialBus
import BoardSupport.Proofs.BusyWait.Shortfall
import BoardSupport.Proofs.Flash.Calls
import BoardSupport.Proofs.Flash.Runs
