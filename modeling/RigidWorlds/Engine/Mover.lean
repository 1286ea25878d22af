import RigidWorlds.Engine.World

/-!
Bodies in the course of a step.  Turning is kept weighted by the root of the angular inertia, so
that an impulse turns a body by its lever alone.
-/

namespace RigidWorlds.Engine

structure Mover where
  isDynamic : Bool
  /-- Where the body and its center of mass were at the start of the step. -/
  start : Pose
  center : Vec2
  velocity : Vec2
  turning : Float32
  /-- Where a body that is not dynamic will be at the end of the step. -/
  goal : Pose
  /-- Zero for a body that does not give way. -/
  mass : MassProperties
  thickness : Float32
  /-- The change of velocity by forces in every part of the step. -/
  gain : Vec2
  spinGain : Float32
  damping : Float32
  pose : Pose
  /-- The velocity, as far as the body gives way. -/
  linear : Vec2
  spin : Float32
  /-- The sums of the velocities with which the body moved in the parts of the step. -/
  linearSum : Vec2
  angularSum : Float32

namespace Mover

def damped (m : Mover) (time : Float32) : Vec2 := m.linear.scale (1 / (1 + time * m.damping))

def angular (m : Mover) : Float32 := m.mass.inverseInertiaRoot * m.spin

def accelerate (m : Mover) : Mover :=
  { m with linear := m.linear + m.gain, spin := m.spin + m.spinGain }

def travel (m : Mover) (time : Float32) : Mover :=
  let linear := m.damped time
  { m with
    pose := m.pose.integrate time linear m.angular
    linearSum := m.linearSum + linear
    angularSum := m.angularSum + m.angular }

def velocityAt (m : Mover) (place : Vec2) : Vec2 :=
  m.velocity + (place - m.center).turn m.turning

/-- Where the body is after some time, as contacts see it. -/
def poseAfter (m : Mover) (time : Float32) : Pose :=
  if m.isDynamic then m.pose else m.start.integrate time m.velocity m.turning

def lever (m : Mover) (arm : Float32) : Float32 := m.mass.inverseInertiaRoot * arm

/-- Changes the motion by an impulse along a direction and by one that turns. -/
def push (direction : Vec2) (impulse turn : Float32) (m : Mover) : Mover :=
  { m with
    linear := m.linear + (direction.scale m.mass.inverseMass).scale impulse
    spin := m.spin + turn }

end Mover

def Body.glide (dt : Float32) (b : Body) : Body :=
  if b.kind = .kinematic && b.enabled then
    let pose := b.motion.pose.integrate dt b.motion.linearVelocity b.motion.angularVelocity
    { b with motion := { b.motion with pose := pose } }
  else b

/-- A body at the start of a step that takes `dt` and has parts that take `time`. -/
def Body.mover (gravity : Vec2) (dt time : Float32) (b : Body) : Mover :=
  let still : Mover := {
    isDynamic := b.isDynamic
    start := b.motion.pose
    center := b.motion.center
    velocity := b.motion.linearVelocity
    turning := b.motion.angularVelocity
    goal := (b.glide dt).motion.pose
    mass := .zero
    thickness := 0
    gain := .zero
    spinGain := 0
    damping := 0
    pose := b.motion.pose
    linear := .zero
    spin := 0
    linearSum := .zero
    angularSum := 0 }
  if b.activation.simulated then
    let force := b.force + gravity.scale (boundedReciprocal b.mass.inverseMass)
    let root := b.mass.inverseInertiaRoot
    { still with
      center := b.motion.pose.apply .zero
      mass := b.mass
      thickness := b.thickness
      gain := (force.scale b.mass.inverseMass).scale time
      spinGain := root * b.torque * time
      damping := b.linearDamping
      linear := b.motion.linearVelocity
      spin := boundedReciprocal root * b.motion.angularVelocity }
  else still

/-- Changes two bodies at once; `f` also yields what became of the thing that changes them. -/
def Mover.meet (first second : Key) (f : α → Mover → Mover → α × Mover × Mover) (x : α) :
    StateM (Arena Mover) α := fun movers =>
  match movers.get? first, movers.get? second with
  | some a, some b =>
      let (x, a, b) := f x a b
      (x, (movers.modify first fun _ => a).modify second fun _ => b)
  | _, _ => (x, movers)

end RigidWorlds.Engine
