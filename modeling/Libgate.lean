import Libgate.Lib.Memory
import Libgate.Lib.Stuffing
import Libgate.Lib.Run
import Libgate.Lib.Pairing
import Libgate.Lib.Changes
import Libgate.Lib.HighMark
import Libgate.Lib.Ring
import Libgate.Lib.Framing
import Libgate.Lib.Latest
import Libgate.Basic
import Libgate.Util
import Libgate.DbLayer
import Libgate.Send
import Libgate.Target
import Libgate.Cmd
import Libgate.Processor
import Libgate.Receiver
import Libgate.Layer
import Libgate.EscapeRoundTrip
import Libgate.CardIndexes
import Libgate.HostFrame
import Libgate.CardDurability
import Libgate.AddressAllocator
import Libgate.Operations
import Libgate.LogEvents
import Libgate.TokenBound
import Libgate.LogDrain
import Libgate.ReceiverFrames
import Libgate.Resync
import Libgate.ReceiverChunks
import Libgate.SendFrame
import Libgate.Handlers
import Libgate.Transmit
import Libgate.Lib.Fifo
import Libgate.CommandQueues
import Libgate.TimeoutAccounting
import Libgate.Liveness
import Libgate.Arrivals
import Libgate.HalfDuplex
import Libgate.PortFailure
import Libgate.StaleBytes
import Libgate.Readings
import Libgate.ByteOrder
import Libgate.Attribution
import Libgate.LineErrors
import Libgate.ReplyTime
import Libgate.RoundRobin
import Libgate.Queueing
import Libgate.MemoryWrites
import Libgate.BankMirror
import Libgate.CardAtomicity
import Libgate.ReceiveBuffer
import Libgate.EventTimes
import Libgate.TokenMemory
import Libgate.CardNumbers
import Libgate.Reload
import Libgate.InPlaceUnescape
import Libgate.RtcClock
import Libgate.DeviceViews
import Libgate.Schedules
import Libgate.LineSteps
import Libgate.Calls
import Libgate.Conversations
import Libgate.Doors
import Libgate.Initialised
import Libgate.SilentControllers
import Libgate.NoStarvation
import Libgate.Wire
import Libgate.CardImage
import Libgate.Lib.Watch
import Libgate.CardReports
import Libgate.CardAdded
import Libgate.Statics
import Libgate.PollTurns
import Libgate.PortRetries
import Libgate.CardSlots
import Libgate.ScheduleImage
import Libgate.Lib.Coded
import Libgate.ParamStore
import Libgate.DeadControllers
import Libgate.LogAcks
import Libgate.CardShown
