import RigidWorlds.Engine.Manifold

/-!
Contacts: what two solids that meet do to each other.  A contact is taken from a manifold when the
solids are compared, and holds for the step that follows.
-/

namespace RigidWorlds.Engine

structure ContactPoint where
  index : Nat
  /-- Halfway between the two solids. -/
  place : Vec2
  distance : Float32
  load : Load
  deriving DecidableEq

/-- At a new point the solids have not pushed each other in the last step. -/
def ContactPoint.isNew (p : ContactPoint) : Bool := p.load.total == 0

structure Contact where
  /-- From the first solid to the second. -/
  normal : Vec2
  friction : Float32
  restitution : Float32
  points : List ContactPoint
  deriving DecidableEq

/-- Two colliders that are close, as far as it matters for motion: solid ones touch at the points
of a contact, and with a sensor it is only known whether there is an overlap. -/
inductive Meeting where
  | solid (manifold : Manifold) (contact : Contact)
  | sensor (overlap : Bool)
  deriving DecidableEq

namespace Meeting

def isSensor : Meeting → Bool
  | solid _ _ => false
  | sensor _ => true

def isContact : Meeting → Bool
  | solid _ contact => !contact.points.isEmpty
  | sensor _ => false

def touching : Meeting → Bool
  | solid _ contact => !contact.points.isEmpty
  | sensor overlap => overlap

def manifold : Meeting → Manifold
  | solid manifold _ => manifold
  | sensor _ => .empty

end Meeting

end RigidWorlds.Engine
