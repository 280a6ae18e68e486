import WncFirmware.Foundation.Bytes
import WncFirmware.Foundation.NorFlash
import WncFirmware.Foundation.Runs
import WncFirmware.Foundation.Scanf
import WncFirmware.Foundation.SectorRing
import WncFirmware.Foundation.Circle
import WncFirmware.Foundation.HandOver
import WncFirmware.Foundation.LatestRing
import WncFirmware.Foundation.Averages
import WncFirmware.FlashLayout
import WncFirmware.Config.WncCfg
import WncFirmware.Files.FileInfo
import WncFirmware.Log.Ring
import WncFirmware.Log.SystemLog
import WncFirmware.Log.History
import WncFirmware.Parking.Lists
import WncFirmware.Device
import WncFirmware.Parking.Files
import WncFirmware.Log.Recovery
import WncFirmware.Log.ReadBack
import WncFirmware.Log.Cuts
import WncFirmware.Config.Store
import WncFirmware.Config.PowerCut
import WncFirmware.Config.Setters
import WncFirmware.Files.Download
import WncFirmware.Files.Upload
import WncFirmware.Files.Packets
import WncFirmware.Files.UpgradeConfirm
import WncFirmware.Tcp.Reassembly
import WncFirmware.Tcp.Termination
import WncFirmware.Tcp.Splitting
import WncFirmware.Tcp.Server
import WncFirmware.Tcp.Isolation
import WncFirmware.Tcp.Commands
import WncFirmware.Tcp.Buffers
import WncFirmware.Tcp.Replies
import WncFirmware.Lora.Packets
import WncFirmware.Lora.State
import WncFirmware.Lora.TcpFrames
import WncFirmware.Lora.Detectors
import WncFirmware.Lora.Counters
import WncFirmware.Lora.Lights
import WncFirmware.Lora.DataProcess
import WncFirmware.Lora.Accounting
import WncFirmware.Lora.LightScan
import WncFirmware.Lora.Guidance
import WncFirmware.Config.Runs
import WncFirmware.Config.Agreement
import WncFirmware.Config.Reboot
import WncFirmware.Files.Containment
import WncFirmware.Files.Recovery
import WncFirmware.Files.Transfer
import WncFirmware.Files.Catalogue
import WncFirmware.Files.Completion
import WncFirmware.Files.WrapAround
import WncFirmware.Files.CatalogueRuns
import WncFirmware.Files.RoundTrip
import WncFirmware.Sysctrl.SoftDogs
import WncFirmware.Tcp.Connections
import WncFirmware.Lora.NodeConfig
import WncFirmware.Lora.Requests
import WncFirmware.Lora.NodeLists
import WncFirmware.Lora.NewNodes
import WncFirmware.Lora.Reports
import WncFirmware.Lora.Records
import WncFirmware.Lora.DataRate
import WncFirmware.Lora.Offline
import WncFirmware.Lora.SentPackets
import WncFirmware.Lora.Turns
import WncFirmware.Lora.Tries
import WncFirmware.Udp.Report
import WncFirmware.Udp.Encoding
import WncFirmware.Udp.Changes
import WncFirmware.Foundation.LatestRing
import WncFirmware.WorkState.Hourly
import WncFirmware.WorkState.LatestSample
import WncFirmware.WorkState.Restarts
import WncFirmware.Eth.TxBuffers
import WncFirmware.Drivers.SpiFlash
import WncFirmware.Log.ErasedWrites
import WncFirmware.Log.SerialOrder
import WncFirmware.Foundation.ShiftRegister
import WncFirmware.Lora.FrameCheck
import WncFirmware.Parking.LineReader
import WncFirmware.Tcp.CommandBuffer
import WncFirmware.Foundation.Calendar
import WncFirmware.Clock.DayOfWeek
import WncFirmware.Clock.Pcf8563
import WncFirmware.Foundation.BitRuns
import WncFirmware.Tcp.NetParams
import WncFirmware.Foundation.PointerLists
import WncFirmware.Foundation.Custody
import WncFirmware.Foundation.WrappingCounters
import WncFirmware.Kernel.Ipc
import WncFirmware.Kernel.MessageQueue
import WncFirmware.Kernel.MessagePool
import WncFirmware.Kernel.MessageDelivery
import WncFirmware.Kernel.MessageRuns
import WncFirmware.Kernel.MessageReceipts
import WncFirmware.Kernel.Mutex
import WncFirmware.Kernel.MutexExclusion
import WncFirmware.Kernel.MutexPriority
import WncFirmware.Kernel.Timer
import WncFirmware.Kernel.TimerRuns
import WncFirmware.Foundation.BitSearch
import WncFirmware.Kernel.ReadyTable
import WncFirmware.Kernel.Scheduler
import WncFirmware.Kernel.SchedulerRuns
import WncFirmware.Kernel.TimeSlices
import WncFirmware.Kernel.MutexEffects
import WncFirmware.Sysctrl.SystemControl
import WncFirmware.Sysctrl.Causes
import WncFirmware.Lora.RadioThreads
import WncFirmware.Lora.RadioAccess
import WncFirmware.Sysctrl.TransmitTest
import WncFirmware.Foundation.MemoryWords
import WncFirmware.Foundation.Tilings
import WncFirmware.Kernel.Heap
import WncFirmware.Kernel.HeapLayout
import WncFirmware.Kernel.HeapJoins
import WncFirmware.Kernel.HeapAllocation
import WncFirmware.Kernel.HeapRelease
import WncFirmware.Kernel.HeapRuns
import WncFirmware.Kernel.HeapRealloc
import WncFirmware.Config.EmbeddedFlash
import WncFirmware.Config.SavedParams
import WncFirmware.Led.Display
import WncFirmware.Eth.RxBuffers
