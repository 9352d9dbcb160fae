import BoardSupport.ClockGenerator.Frequency
import BoardSupport.Converter.Library
import BoardSupport.CountdownTimer.Config
import BoardSupport.Flash.InfoMemory
import BoardSupport.HostInterface.Basic
import BoardSupport.MultichannelBus.Library
import BoardSupport.SerialBus.Basic
import BoardSupport.SleepClock.Basic
import BoardSupport.Transcript.Item

/-!
# The names of settings

The names under which the values of the library's enumerations are written.
-/

namespace BoardSupport.Transcript

instance : Named ChipSupport.PinGroup where
  names := [("PpMode", .parallel), ("Sp1Mode", .serial1)]

instance : Named Converter.Completion where
  names := [("Polling", .polling), ("Interrupt", .interrupt), ("Dma", .dma)]

instance : Named Converter.Reference where
  names := [("Vin", .supply), ("Bandgap0V8", .bandgap800mV), ("Bandgap1V0", .bandgap1000mV)]

instance : Named Converter.Conversion where
  names := [("Continuous", .continuous), ("Single", .single)]

instance : Named Converter.Channel where
  names :=
    [("Ch0", .ch0), ("Ch1", .ch1), ("Ch2", .ch2), ("Ch3", .ch3), ("Ch4", .ch4), ("Ch5", .ch5)]

instance : Named Converter.Pin where
  names := [("A0", .a0), ("A1", .a1), ("A2", .a2), ("A3", .a3)]

instance : Named SerialBus.ChipSelect where
  names := [("Cs0", .cs0), ("Cs1", .cs1), ("Cs2", .cs2), ("Cs3", .cs3)]

instance : Named SerialBus.TransferMode where
  names := [("Polling", .polling), ("Interrupt", .interrupt)]

instance : Named SerialBus.WordLength where
  names := [("_8", .bits8), ("_16", .bits16), ("_32", .bits32)]

instance : Named SerialBus.Polarity where
  names := [("LowAtIdle", .lowAtIdle), ("HighAtIdle", .highAtIdle)]

instance : Named SerialBus.Phase where
  names := [("FallEdge", .fallEdge), ("RiseEdge", .riseEdge)]

instance : Named SerialBus.BitOrder where
  names := [("LsbFirst", .lsbFirst), ("MsbFirst", .msbFirst)]

instance : Named SerialBus.ErrorKind where
  names :=
    [("Overrun", .overrun), ("ModeFault", .modeFault), ("FrameFormat", .frameFormat),
      ("ChipSelectFault", .chipSelectFault), ("Other", .other)]

instance : Named MultichannelBus.TransferMode where
  names := [("Polling", .polling), ("Interrupt", .interrupt), ("Dma", .dma)]

instance : Named MultichannelBus.Channel where
  names := [("Ch0", .ch0), ("Ch1", .ch1), ("Ch2", .ch2), ("Ch3", .ch3)]

instance : Named MultichannelBus.ClockPhase where
  names := [("Odd", .odd), ("Even", .even)]

instance : Named MultichannelBus.DataLine where
  names := [("Dat0", .dat0), ("Dat1", .dat1)]

instance : Named HostInterface.BusMode where
  names :=
    [("Muxed8Bit", .multiplexed8), ("Muxed16BitDualHalfword", .multiplexed16Dual),
      ("Muxed16BitSingleFullword", .multiplexed16Single), ("NonMuxed16Bit", .separate16)]

instance : Named ClockGenerator.Input where
  names := [("ClkIn", .external), ("RtcIn", .realTime)]

instance : Named ClockGenerator.Speed where
  names := [("Mhz40", .mhz40), ("Mhz60", .mhz60), ("Mhz75", .mhz75), ("Mhz100", .mhz100)]

instance : Named CountdownTimer.Prescale where
  names := CountdownTimer.Prescale.all.map fun p => ("Div" ++ toString p.divisor.toNat, p)

instance : Named InfoMemory.Section where
  names := [("A", .a), ("B", .b), ("C", .c), ("D", .d)]

instance : Named SleepClock.Source where
  names := [("Xt1", .crystal), ("Vlo", .lowPower)]

end BoardSupport.Transcript
