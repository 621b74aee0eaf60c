import SocketApi.Locking.Waiting
import SocketApi.Readiness.Sends
import SocketApi.Descriptors.Exhaustion
import SocketApi.Address.RoundTrip
import SocketApi.Address.Packed
import SocketApi.Options.RoundTrip
import SocketApi.Options.InitTimeout
import SocketApi.Queue.Linked
import SocketApi.Receive.Peek
import SocketApi.Flush.Agreement
import SocketApi.AutoClose.Timing
import SocketApi.Associations.ByID
import SocketApi.Associations.ToAll
import SocketApi.Lib.Search
import SocketApi.Search.Destinations
import SocketApi.Select.Collect
import SocketApi.Select.Correct
import SocketApi.Select.Poll
import SocketApi.Timeouts.Defaults
import SocketApi.Reporting.Calls
import SocketApi.Lib.ByteOrder
import SocketApi.Lib.OnesComplement
import SocketApi.Lib.CString
import SocketApi.Address.Order
import SocketApi.Address.Checksum
import SocketApi.Address.Unix
import SocketApi.Address.Copies
import SocketApi.Address.Grammar
import SocketApi.Lib.Cmsg
import SocketApi.Control.Building
import SocketApi.Control.Walking
import SocketApi.Lib.Traced
import SocketApi.Control.Destinations
import SocketApi.Control.Objects
import SocketApi.Lib.Machine
import SocketApi.Timers.Thread
import SocketApi.Timers.CallLimit
import SocketApi.Timers.Correction
import SocketApi.Timeouts.Accesses
import SocketApi.Lib.Rearranged
import SocketApi.Sorting.QuickSort
import SocketApi.Sorting.Sorted
import SocketApi.Sorting.Groups
import SocketApi.Timers.Altered
import SocketApi.Timers.TakeOver
import SocketApi.Timers.Limit
import SocketApi.Lib.Tries
import SocketApi.Binding.Bind
import SocketApi.Binding.Pair
import SocketApi.Binding.Outcome
import SocketApi.Lib.Sliding
import SocketApi.History.Runs
import SocketApi.Lib.Monitor
import SocketApi.Conditions.Locking
import SocketApi.Conditions.Waking
import SocketApi.Conditions.Parents
import SocketApi.Mutexes.Synchronizable
import SocketApi.Mutexes.Sleeping
import SocketApi.Mutexes.Starting
import SocketApi.Lib.Duplex
import SocketApi.Tftp.Names
import SocketApi.Lib.Handles
import SocketApi.Sessions.Owners
