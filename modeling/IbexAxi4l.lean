import IbexAxi4l.AxiLite
import IbexAxi4l.Core2axi4l
import IbexAxi4l.Core2axi4lHistory
import IbexAxi4l.Core2axi4lContract
import IbexAxi4l.Axi4l2core
import IbexAxi4l.Axi4l2coreHistory
import IbexAxi4l.Axi4l2coreContract
import IbexAxi4l.SkidBuffer
import IbexAxi4l.ByteLanes
import IbexAxi4l.StrobedStore
import IbexAxi4l.WriteChannel
import IbexAxi4l.ReadChannel
import IbexAxi4l.Axi4lDpramx32
import IbexAxi4l.Axi4lDpramx32Contract
import IbexAxi4l.RegisterSlave
import IbexAxi4l.Axi4lGpio
import IbexAxi4l.Axi4lLed
import IbexAxi4l.Axi4lTimer
import IbexAxi4l.BridgeRoundTrip
import IbexAxi4l.RegisterSlavesContract
import IbexAxi4l.MemoryRefinement
import IbexAxi4l.Axi4lTimerContract
import IbexAxi4l.Axi4lTimerUpdate
import IbexAxi4l.Axi4lGpioContract
import IbexAxi4l.LedReadback
import IbexAxi4l.Axi4lLedContract
import IbexAxi4l.Axi4l2coreReads
import IbexAxi4l.AlignedRegion
import IbexAxi4l.MemoryMap
import IbexAxi4l.BusProgram
import IbexAxi4l.LedFirmware
import IbexAxi4l.TimeRead
import IbexAxi4l.TickFirmware
import IbexAxi4l.AsyncReset
import IbexAxi4l.ResetIsolation
import IbexAxi4l.Crt0
import IbexAxi4l.JtagDriver
import IbexAxi4l.JtagLockStep
import IbexAxi4l.Axi4l2coreBeats
import IbexAxi4l.BusDevice
import IbexAxi4l.RoutedLink
import IbexAxi4l.Core2axi4lBeats
import IbexAxi4l.Crossbar
import IbexAxi4l.SoleWriter
import IbexAxi4l.IbexSoc
import IbexAxi4l.SocFirmware
import IbexAxi4l.DelayedBridges
import IbexAxi4l.Core2axi4lLiveness
import IbexAxi4l.NetworkLiveness
import IbexAxi4l.AesTables
import IbexAxi4l.BeebsHeap
import IbexAxi4l.Beebsc
import IbexAxi4l.Crc32
import IbexAxi4l.Gf256
import IbexAxi4l.NettleAes
import IbexAxi4l.NettleAesCipher
import IbexAxi4l.NettleAesContract
import IbexAxi4l.Axi4l2coreLiveness
import IbexAxi4l.SocLiveness
