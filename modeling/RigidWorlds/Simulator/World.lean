import RigidWorlds.Simulator.Basic
import RigidWorlds.Snapshot

namespace RigidWorlds

inductive WorldChange where
  | gravity (gravity : Vec2)
  | continuous (enabled : Bool)
  | clearForces
  deriving DecidableEq

def WorldChange.apply : WorldChange → Engine.World → Engine.World
  | gravity g, w => { w with gravity := g }
  | continuous enabled, w => w.setContinuous enabled
  | clearForces, w => w.clearForces

namespace Snapshot

def capture (w : Engine.World) : Snapshot where
  poses := w.bodies.toList.filterMap fun (_, body) =>
    (Handle.ofTag? .body body.tag).map fun h =>
      ⟨h, body.position.x, body.position.y, body.angle⟩

end Snapshot

namespace Sim

def createWorld (gravity : Vec2) (allowSleep : Bool) : Sim (Handle .world) := do
  let s ← get
  inWorlds (HandleTable.insert (Engine.World.create gravity (s.config.newWorldSettings allowSleep)))

/-- Destroys a world with all that is in it. -/
def destroyWorld (w : Handle .world) : Sim Unit := do
  let _ ← inWorlds (HandleTable.release w)
  modifyRegistry (·.releaseWorldObjects w)

/-- The worlds in ascending order. -/
def worlds : Sim (List (Handle .world)) := look fun r => .ok r.worlds.handles

def setWorld (w : Handle .world) (change : WorldChange) : Sim Unit := changeWorld w change.apply

/-- The bodies of a world in ascending order. -/
def bodiesOf (w : Handle .world) : Sim (List (Handle .body)) := do
  let _ ← look (·.world w)
  look fun r => .ok (r.bodiesOf w)

def bodyCount (w : Handle .world) : Sim Nat := readWorld w (·.bodies.size)

/-- Lets time pass in a world and answers where its bodies are then.  No time at all changes
nothing. -/
def step (w : Handle .world) (dt : Float32) (velocityIterations positionIterations : UInt32) :
    Sim Snapshot := do
  let _ ← look (·.world w)
  let dt ← lift (checkNonNegative .timeStep dt)
  if 0 < dt then
    modifyRegistry (·.modifyWorld w (·.advance dt velocityIterations positionIterations))
  readWorld w Snapshot.capture

def stepDefault (w : Handle .world) (dt : Float32) : Sim Snapshot := do
  let s ← get
  step w dt s.config.velocityIterations s.config.positionIterations

end Sim

end RigidWorlds
