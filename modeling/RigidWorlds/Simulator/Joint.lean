import RigidWorlds.Simulator.Basic

namespace RigidWorlds

structure JointDefinition where
  /-- The points that are joined, each relative to its body. -/
  firstAnchor : Vec2
  secondAnchor : Vec2
  /-- The distance to keep; without it, the distance at the time of joining. -/
  length : Option Float32
  stiffness : Float32
  damping : Float32
  deriving DecidableEq

namespace JointDefinition

/-- A joint between the origins of the bodies. -/
def central (stiffness damping : Float32) : JointDefinition :=
  ⟨.zero, .zero, none, stiffness, damping⟩

def check (d : JointDefinition) : Except Error Unit := do
  let _ ← checkNonNegative .jointStiffness d.stiffness
  let _ ← checkNonNegative .jointDamping d.damping
  match d.length with
  | some length => let _ ← checkNonNegative .jointLength length
  | none => return ()

def restLength (d : JointDefinition) (a b : Engine.Body) : Float32 :=
  match d.length with
  | some length => length
  | none => (b.motion.pose.apply d.secondAnchor - a.motion.pose.apply d.firstAnchor).norm

end JointDefinition

namespace Sim

def createJoint (w : Handle .world) (a b : Handle .body) (d : JointDefinition) :
    Sim (Handle .joint) := do
  let recordA ← look (·.body w a)
  let recordB ← look (·.body w b)
  if a = b then throw (.invalidParameter (.selfJoint a))
  lift d.check
  let (world, _, bodyA) ← locateBody w a
  let (_, _, bodyB) ← locateBody w b
  let j ← inJoints HandleTable.allocate
  let spring : Engine.Spring := {
    first := recordA.native
    second := recordB.native
    firstAnchor := d.firstAnchor
    secondAnchor := d.secondAnchor
    length := d.restLength bodyA bodyB
    stiffness := d.stiffness
    damping := d.damping
    enabled := true }
  let (native, world) := world.insertSpring spring
  modifyRegistry (·.modifyWorld w fun _ => world)
  inJoints (HandleTable.bind j ⟨w, a, b, native⟩)
  return j

/-- Joins the origins of two bodies with the configured stiffness and damping. -/
def createDefaultJoint (w : Handle .world) (a b : Handle .body) : Sim (Handle .joint) := do
  let s ← get
  createJoint w a b (.central s.config.jointStiffness s.config.jointDamping)

def deleteJoint (w : Handle .world) (j : Handle .joint) : Sim Unit := do
  let record ← look (·.joint w j)
  let _ ← inJoints (HandleTable.release j)
  changeWorld w (·.removeSpring record.native)

def jointBodies (w : Handle .world) (j : Handle .joint) : Sim (Handle .body × Handle .body) := do
  let record ← look (·.joint w j)
  return (record.first, record.second)

end Sim

end RigidWorlds
