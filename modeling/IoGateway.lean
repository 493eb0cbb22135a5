import IoGateway.Server.Release
import IoGateway.Server.Routing
import IoGateway.Server.LinkIds
import IoGateway.Server.Isolation
import IoGateway.Server.Opened
import IoGateway.Client.Epochs
import IoGateway.Client.Separation
import IoGateway.Client.Teardown
import IoGateway.Fidelity
import IoGateway.Teardown
import IoGateway.Agreement
import IoGateway.Server.StateFlag
import IoGateway.Server.Shutdown
import IoGateway.Multiplexing
import IoGateway.Locks
import IoGateway.HeaderCodec
import IoGateway.UnknownTypes
import IoGateway.BufferPool
import IoGateway.Accounting
import IoGateway.Client.Reconnection
import IoGateway.Server.Opening
import IoGateway.Server.Cleanup
import IoGateway.ActiveConnections
import IoGateway.Answering
import IoGateway.Client.PacketIds
import IoGateway.Server.PacketIds
import IoGateway.ClosedLinks
import IoGateway.PipeRefinement
import IoGateway.Server.Authenticated
import IoGateway.Client.Registry
import IoGateway.Client.Shutdown
import IoGateway.Server.Draining
import IoGateway.Conservation
import IoGateway.Settling
import IoGateway.OutgoingStreams
import IoGateway.Registries
import IoGateway.LockWaits
