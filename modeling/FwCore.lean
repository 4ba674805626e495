import FwCore.Core.Ticker
import FwCore.Bsp.Button
import FwCore.Proof.TickerLaw
import FwCore.Lib.CatchUp
import FwCore.Proof.Debounce
import FwCore.Lib.BoundedFifo
import FwCore.Lib.RingLog
import FwCore.Proof.RingRep
import FwCore.Proof.RingFifo
import FwCore.Proof.RingInterleave
import FwCore.Lib.Chain
import FwCore.Lib.Mem
import FwCore.Proof.SlistSpec
import FwCore.Proof.SlistRefine
import FwCore.Lib.Blocks
import FwCore.Shared.Pool
import FwCore.Proof.PoolAlloc
import FwCore.Bsp.Registry
import FwCore.Bsp.Led
import FwCore.Bsp.Output
import FwCore.Bsp.ButtonRegistry
import FwCore.Bsp.DeviceRun
import FwCore.Lib.CyclicSearch
import FwCore.Proof.DeviceInv
import FwCore.Proof.DeviceSteps
import FwCore.Proof.DeviceCalls
import FwCore.Proof.DeviceRegistries
import FwCore.Core.Fault
import FwCore.Proof.FaultMasks
import FwCore.Lib.History
import FwCore.Proof.FaultProtocol
import FwCore.Proof.SimpleTimerLaw
import FwCore.Proof.ButtonEvents
import FwCore.Bsp.LedRgb
import FwCore.Proof.ButtonFailedReads
import FwCore.Proof.LedRgbColor
import FwCore.Proof.PoolFree
import FwCore.Proof.UprintScan
import FwCore.Proof.FaultCooldown
import FwCore.Proof.FaultPoints
import FwCore.Proof.FaultKept
import FwCore.Proof.FaultRecord
import FwCore.Proof.FaultRecoverCall
import FwCore.Core.Cli
import FwCore.Proof.CliLines
import FwCore.Bsp.Rtc
import FwCore.Proof.RtcRoundTrip
import FwCore.Proof.RtcReading
import FwCore.Lib.Numeral
import FwCore.Proof.UprintRender
import FwCore.Proof.CliExact
import FwCore.Proof.DeviceUuidSearch
import FwCore.Proof.FaultPointers
import FwCore.Proof.CallerFormats
import FwCore.Proof.FaultOrder
import FwCore.Lib.Simulation
import FwCore.Lib.Layout
import FwCore.Proof.InventoryRefines
import FwCore.Lib.Component
import FwCore.Bsp.Alone
import FwCore.Proof.DeviceHistory
import FwCore.Proof.DevicePins
import FwCore.Proof.OutputPwm
import FwCore.Proof.ButtonReports
import FwCore.Proof.DeviceMessages
import FwCore.Core.Console
import FwCore.Proof.ConsoleTranscript
import FwCore.Lib.Linear
import FwCore.Proof.FaultCallbacks
import FwCore.Proof.FaultReentry
import FwCore.Proof.FaultStatus
import FwCore.Proof.RingLinear
import FwCore.Proof.RingAnySize
import FwCore.Proof.RtcDomain
import FwCore.Proof.TickerSchedule
import FwCore.Lib.Delimited
import FwCore.Proof.StatusReading
import FwCore.Core.ConsoleCommands
import FwCore.Proof.ConsoleReentry
