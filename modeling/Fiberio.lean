import Fiberio.Foundation.Machine
import Fiberio.Scheduler.WakeUp
import Fiberio.Socket.Model
import Fiberio.Socket.Transition
import Fiberio.Socket.Ownership
import Fiberio.Socket.Reading
import Fiberio.Socket.HandleUse
import Fiberio.Socket.Closing
import Fiberio.Socket.Stream
import Fiberio.Socket.Admission
import Fiberio.Server.Model
import Fiberio.Server.Transition
import Fiberio.Server.Ownership
import Fiberio.Server.Counting
import Fiberio.Server.Accepting
import Fiberio.Foundation.Ledger
import Fiberio.Socket.Answers
import Fiberio.Server.Answers
import Fiberio.World.Model
import Fiberio.World.Requests
import Fiberio.Socket.PublicErrors
import Fiberio.Server.PublicErrors
import Fiberio.World.PublicErrors
import Fiberio.Foundation.Pipe
import Fiberio.Socket.EndOfStream
import Fiberio.Socket.GracefulClose
import Fiberio.Connection.Delivery
import Fiberio.Scheduler.Timer
import Fiberio.Server.Address
import Fiberio.Socket.ClosingOnce
import Fiberio.Socket.ReadSlot
import Fiberio.Socket.Span
import Fiberio.Socket.ReadOutcome
import Fiberio.Socket.ReadLoop
import Fiberio.Socket.Lockstep
import Fiberio.Socket.ReadExactly
import Fiberio.Socket.ReadString
import Fiberio.Socket.Device
import Fiberio.Socket.ReadProgress
import Fiberio.Foundation.Flow
import Fiberio.Scheduler.ReadyQueue
import Fiberio.Connection.Direction
import Fiberio.Echo.Delivery
import Fiberio.Foundation.Progress
import Fiberio.Foundation.Trace
import Fiberio.Server.Closing
import Fiberio.Server.HandleUse
import Fiberio.Server.Rest
import Fiberio.Socket.Lending
import Fiberio.Socket.Lifetime
import Fiberio.Socket.Rest
import Fiberio.Runtime.Model
import Fiberio.Device.Closing
import Fiberio.Echo.RoundTrip
import Fiberio.Runtime.Blocking
import Fiberio.Foundation.Pointers
import Fiberio.Handle.Sharing
