import StaticServer.Config.Load
import StaticServer.Jobs.Flow
import StaticServer.Jobs.Semaphore
import StaticServer.Proofs.Answered
import StaticServer.Proofs.Calls
import StaticServer.Proofs.Confined
import StaticServer.Proofs.Cuts
import StaticServer.Proofs.Parted
import StaticServer.Service
import StaticServer.Service.Processes
import StaticServer.Service.Threads
import StaticServer.Dispatch.Flow
import StaticServer.Proofs.Queueing
import StaticServer.Proofs.Holding
import StaticServer.Proofs.Held
import StaticServer.Proofs.Telling
import StaticServer.Proofs.Rounds
import StaticServer.Proofs.Lifetime
import StaticServer.Proofs.Separators
import StaticServer.Proofs.Counted
import StaticServer.Proofs.Attended
import StaticServer.Proofs.Waking
import StaticServer.Proofs.Addressing
import StaticServer.Proofs.HeaderLines
import StaticServer.Proofs.Guarding
