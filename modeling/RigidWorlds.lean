import RigidWorlds.Message.Reply
import RigidWorlds.Shared
import RigidWorlds.Proofs.AdditionalMass
import RigidWorlds.Proofs.Arena
import RigidWorlds.Proofs.Atomicity
import RigidWorlds.Proofs.CanonicalKeys
import RigidWorlds.Proofs.Clock
import RigidWorlds.Proofs.Commutation
import RigidWorlds.Proofs.Coordinates
import RigidWorlds.Proofs.Correspondence
import RigidWorlds.Proofs.Encoding
import RigidWorlds.Proofs.Envelope
import RigidWorlds.Proofs.FlatLayout
import RigidWorlds.Proofs.Forces
import RigidWorlds.Proofs.Impulses
import RigidWorlds.Proofs.Integrity
import RigidWorlds.Proofs.Isolation
import RigidWorlds.Proofs.JointParameters
import RigidWorlds.Proofs.LifeCycle
import RigidWorlds.Proofs.Listings
import RigidWorlds.Proofs.MassCenters
import RigidWorlds.Proofs.Materials
import RigidWorlds.Proofs.MissingArguments
import RigidWorlds.Proofs.Neighbors
import RigidWorlds.Proofs.Readings
import RigidWorlds.Proofs.Registers
import RigidWorlds.Proofs.ShapeExtent
import RigidWorlds.Proofs.Stages
import RigidWorlds.Proofs.Teardown
import RigidWorlds.Proofs.Verdict
