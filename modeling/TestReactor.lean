import TestReactor.CEvent.TryWait
import TestReactor.CEvent.Wakeup
import TestReactor.Buffer.Comparison
import TestReactor.Buffer.MemorySafety
import TestReactor.FifoBuffer.Edges
import TestReactor.FifoBuffer.Refinement
import TestReactor.FifoBuffer.Signals
import TestReactor.FifoBuffer.LockDiscipline
import TestReactor.FifoBuffer.Resizing
import TestReactor.FifoBuffer.StandardMutex
import TestReactor.ServerSocket.Ownership
import TestReactor.ServerSocket.Receive
import TestReactor.EchoServiceHandler.Stranded
import TestReactor.EchoServiceHandler.Lifetime
import TestReactor.SimpleEpoll.Echo
import TestReactor.SimpleEpoll.Dispatch
import TestReactor.SimpleEpoll.Leak
import TestReactor.SimpleEpoll.Terminator
import TestReactor.SimpleEpoll.StatusFlag
import TestReactor.SimpleEpoll.Isolation
import TestReactor.PollSet.Agreement
import TestReactor.SocketReactor.Accepts
import TestReactor.SocketReactor.AllOrNothing
import TestReactor.SocketReactor.Batch
import TestReactor.SocketReactor.Delivery
import TestReactor.SocketReactor.LostRegistration
import TestReactor.SocketReactor.Interest
import TestReactor.SocketReactor.RemovedObserver
import TestReactor.SocketReactor.SelfRemoval
import TestReactor.NotificationCenter.Removal
import TestReactor.NotificationCenter.Deadlock
import TestReactor.SocketReactor.Lookup
import TestReactor.EchoServer
import TestReactor.ServerApplication.Arguments
