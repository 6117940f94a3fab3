import MetaFlux.Recovery.History
import MetaFlux.Recovery.Closing
import MetaFlux.Recovery.Progress
import MetaFlux.Recovery.Validation
import MetaFlux.Lifecycle.Rejection
import MetaFlux.Lifecycle.Resolve
import MetaFlux.Lifecycle.Replay
import MetaFlux.Transport.ClientRing
import MetaFlux.Transport.Msix
import MetaFlux.Registry.Layout
import MetaFlux.Registry.QueueRuns
import MetaFlux.Registry.Sequences
import MetaFlux.Registry.Attribution
import MetaFlux.Registry.Tokens
import MetaFlux.Registry.Failures
import MetaFlux.Client.Arguments
import MetaFlux.Cuda.HandleRuns
import MetaFlux.Cuda.Synchronize
import MetaFlux.Cuda.Waits
import MetaFlux.Cuda.Launches
import MetaFlux.Cuda.Memory
import MetaFlux.Cuda.Contexts
import MetaFlux.Ptx.Parser
import MetaFlux.Compiler.WorkerProtocol
import MetaFlux.Compiler.Cache
import MetaFlux.Cpu.Activity
import MetaFlux.Vulkan.Visibility
