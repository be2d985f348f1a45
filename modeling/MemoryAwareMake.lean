import MemoryAwareMake.Shared.Region
import MemoryAwareMake.Shared.Reserve
import MemoryAwareMake.Shared.Invariant
import MemoryAwareMake.Shared.Interleave
import MemoryAwareMake.Shared.Alone
import MemoryAwareMake.Shared.Concurrent
import MemoryAwareMake.Shared.Lifecycle
import MemoryAwareMake.Classify.Common
import MemoryAwareMake.Classify.EntryPoints
import MemoryAwareMake.Monitor.Profiles
import MemoryAwareMake.Monitor.Table
import MemoryAwareMake.Monitor.Walker
import MemoryAwareMake.Monitor.Tick
import MemoryAwareMake.Monitor.Invariant
import MemoryAwareMake.Monitor.Region
import MemoryAwareMake.Monitor.Exit
import MemoryAwareMake.Monitor.Display
import MemoryAwareMake.Classify.Reference
import MemoryAwareMake.Shared.Postcondition
import MemoryAwareMake.Monitor.FullTable
import MemoryAwareMake.Monitor.WalkSum
import MemoryAwareMake.Flags.Makeflags
import MemoryAwareMake.Flags.Debug
import MemoryAwareMake.Flags.Decode
import MemoryAwareMake.Flags.DecodeRuns
import MemoryAwareMake.Monitor.Thread
import MemoryAwareMake.Shared.Access
import MemoryAwareMake.Monitor.Meminfo
import MemoryAwareMake.Monitor.Status
import MemoryAwareMake.Monitor.Bar
import MemoryAwareMake.Monitor.Teardown
import MemoryAwareMake.Monitor.Throttle
import MemoryAwareMake.Monitor.Output
