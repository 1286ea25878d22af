import RigidWorlds.Simulator.Basic

namespace RigidWorlds

inductive BodyChange where
  | pose (place : Vec2) (angle : Float32)
  | linearVelocity (v : Vec2)
  | angularVelocity (v : Float32)
  | impulse (impulse point : Vec2) (wake : Bool)
  | force (force : Vec2) (wake : Bool)
  | linearDamping (damping : Float32)
  | active (active : Bool)
  | awake (awake : Bool)
  deriving DecidableEq

def BodyChange.apply : BodyChange → Engine.Body → Engine.Body
  | pose place angle, b => b.setPose ⟨place, .ofAngle angle⟩
  | linearVelocity v, b => b.setLinearVelocity v
  | angularVelocity v, b => b.setAngularVelocity v
  | impulse j point wake, b => b.applyImpulseAt j point wake
  | force f wake, b => b.addForce f wake
  | linearDamping damping, b => b.setLinearDamping damping
  | active enabled, b => b.setEnabled enabled
  | awake on, b => b.setAwake on

namespace Sim

def createBody (w : Handle .world) (kind : BodyKind) (place : Vec2) : Sim (Handle .body) := do
  let world ← look (·.world w)
  let b ← inBodies HandleTable.allocate
  let (native, world) := world.insertBody kind place b.tag
  modifyRegistry (·.modifyWorld w fun _ => world)
  inBodies (HandleTable.bind b ⟨w, native⟩)
  resetMass w b
  return b

/-- Deletes a body with its fixtures and joints. -/
def deleteBody (w : Handle .world) (b : Handle .body) : Sim Unit := do
  let record ← look (·.body w b)
  let _ ← inBodies (HandleTable.release b)
  modifyRegistry (·.releaseBodyObjects b)
  changeWorld w (·.removeBody record.native)

def setBody (w : Handle .world) (b : Handle .body) (change : BodyChange) : Sim Unit :=
  changeBody w b change.apply

end Sim

end RigidWorlds
