import RigidWorlds.BodyKind
import RigidWorlds.Engine.Arena
import RigidWorlds.Engine.Mass

/-!
Bodies.  A body holds what its owner sets, what a step derives (mass, motion), what decides whether
it is simulated at all (`Activation`) and what its owner changed since the last step
(`BodyChanges`).
-/

namespace RigidWorlds.Engine

/-- Whether a body sleeps, and what the next step has to know about it. -/
structure Activation where
  sleeping : Bool
  idleTime : Float32
  /-- The body is among the dynamic bodies that steps move. -/
  simulated : Bool
  /-- The next step wakes the body first. -/
  wakeRequested : Bool
  deriving DecidableEq

def unlimited : Float32 := Float32.ofBits 0x7f7fffff

def timeUntilSleep : Float32 := 2

namespace Activation

def initial : Activation := ⟨false, 0, false, false⟩

def wake (a : Activation) : Activation := { a with sleeping := false, idleTime := 0 }

def sleep (a : Activation) : Activation := { a with sleeping := true, idleTime := timeUntilSleep }

end Activation

/-- What the owner changed about a body since the last step. -/
structure BodyChanges where
  place : Bool
  colliders : Bool
  /-- The mass has to be computed again for another reason. -/
  mass : Bool
  /-- The body was woken, so the next step leaves its sleep alone. -/
  sleep : Bool
  enabled : Bool
  deriving DecidableEq

namespace BodyChanges

def nothing : BodyChanges := ⟨false, false, false, false, false⟩

def everything : BodyChanges := ⟨true, true, true, true, true⟩

def reachColliders (c : BodyChanges) : Bool := c.place || c.colliders || c.enabled

def reachMass (c : BodyChanges) : Bool := c.mass || c.colliders

end BodyChanges

structure Motion where
  pose : Pose
  linearVelocity : Vec2
  angularVelocity : Float32
  /-- The center of mass in the world, as last computed. -/
  center : Vec2
  deriving DecidableEq

namespace Motion

/-- Computes the center of mass again; it lies at the origin of the body. -/
def recenter (m : Motion) : Motion := { m with center := m.pose.apply .zero }

end Motion

structure Body where
  kind : BodyKind
  /-- The number its owner recognizes the body by. -/
  tag : Nat
  canSleep : Bool
  /-- Whether fast motion is checked for contacts between steps. -/
  continuous : Bool
  enabled : Bool
  linearDamping : Float32
  additionalMass : Option Float32
  force : Vec2
  torque : Float32
  /-- The colliders in the order they were attached. -/
  colliders : List Key
  mass : MassProperties
  /-- The least distance from the center of a collider to its outline, also of those detached again;
  unlimited without colliders. -/
  thickness : Float32
  /-- The greatest distance from the center to the outline of a collider. -/
  reach : Float32
  changes : BodyChanges
  activation : Activation
  motion : Motion
  deriving DecidableEq

namespace Body

/-- A new body at a place: awake, at rest, without mass, and with its center of mass not computed.
-/
def create (kind : BodyKind) (place : Vec2) (canSleep continuous : Bool) (tag : Nat) : Body where
  kind := kind
  tag := tag
  canSleep := canSleep
  continuous := continuous
  enabled := true
  linearDamping := 0
  additionalMass := none
  force := .zero
  torque := 0
  colliders := []
  mass := .zero
  thickness := unlimited
  reach := 0
  changes := .everything
  activation := .initial
  motion := ⟨.upright place, .zero, 0, .zero⟩

def isDynamic (b : Body) : Bool := b.kind = .dynamic

def position (b : Body) : Vec2 := b.motion.pose.translation

def angle (b : Body) : Float32 := b.motion.pose.rotation.angle

def localCenter (b : Body) : Vec2 := b.motion.pose.applyInverse b.motion.center

def isAwake (b : Body) : Bool := !b.activation.sleeping

def wake (b : Body) : Body :=
  { b with
    changes := { b.changes with sleep := b.changes.sleep || b.activation.sleeping }
    activation := b.activation.wake }

def wakeIf (condition : Bool) (b : Body) : Body := if condition then b.wake else b

/-- Moves the body.  The pose it has already changes nothing; any other wakes a dynamic body. -/
def setPose (pose : Pose) (b : Body) : Body :=
  if b.motion.pose.same pose then b
  else
    { b with
      changes := { b.changes with place := true }
      motion := { b.motion with pose := pose }.recenter }.wakeIf b.isDynamic

/-- Sets the velocity of a body that is not static.  The velocity it has already changes nothing;
any other wakes a dynamic body. -/
def setLinearVelocity (v : Vec2) (b : Body) : Body :=
  if b.motion.linearVelocity.same v || b.kind = .static then b
  else { b with motion := { b.motion with linearVelocity := v } }.wakeIf b.isDynamic

def setAngularVelocity (v : Float32) (b : Body) : Body :=
  if b.motion.angularVelocity == v || b.kind = .static then b
  else { b with motion := { b.motion with angularVelocity := v } }.wakeIf b.isDynamic

/-- Changes the velocity of a dynamic body at once.  No impulse, no change. -/
def applyImpulse (impulse : Vec2) (wake : Bool) (b : Body) : Body :=
  if impulse.isZero || !b.isDynamic then b
  else
    let v := b.motion.linearVelocity + impulse.scale b.mass.inverseMass
    { b with motion := { b.motion with linearVelocity := v } }.wakeIf wake

def applyTorqueImpulse (impulse : Float32) (wake : Bool) (b : Body) : Body :=
  if impulse == 0 || !b.isDynamic then b
  else
    let root := b.mass.inverseInertiaRoot
    let v := b.motion.angularVelocity + root * (root * impulse)
    { b with motion := { b.motion with angularVelocity := v } }.wakeIf wake

def applyImpulseAt (impulse point : Vec2) (wake : Bool) (b : Body) : Body :=
  let turning := (point - b.motion.center).cross impulse
  (b.applyImpulse impulse wake).applyTorqueImpulse turning wake

def addForce (force : Vec2) (wake : Bool) (b : Body) : Body :=
  if force.isZero || !b.isDynamic then b else { b with force := b.force + force }.wakeIf wake

def clearForces (b : Body) : Body := { b with force := .zero, torque := 0 }

def setLinearDamping (damping : Float32) (b : Body) : Body := { b with linearDamping := damping }

/-- Takes the body out of the simulation or puts it back; then it counts as new. -/
def setEnabled (enabled : Bool) (b : Body) : Body :=
  if b.enabled = enabled then b
  else if enabled then { b with enabled := true, changes := .everything }
  else { b with enabled := false, changes := { b.changes with enabled := true } }

/-- Puts the body to sleep, which stops it, or wakes it up. -/
def setAwake (awake : Bool) (b : Body) : Body :=
  if awake then b.wake
  else
    { b with
      activation := b.activation.sleep
      motion := { b.motion with linearVelocity := .zero, angularVelocity := 0 } }

/-- Equality of numbers for a mass that may not have been set. -/
def sameMass : Option Float32 → Option Float32 → Bool
  | some m, some n => m == n
  | none, none => true
  | _, _ => false

/-- Sets the mass beside that of the colliders; it counts from the next step on. -/
def setAdditionalMass (mass : Float32) (b : Body) : Body :=
  if sameMass b.additionalMass (some mass) then b
  else { b with additionalMass := some mass, changes := { b.changes with mass := true } }

/-- Attaches a collider, whose mass counts at once. -/
def attach (key : Key) (solid : Solid) (mass : MassProperties) (b : Body) : Body :=
  { b with
    colliders := b.colliders ++ [key]
    mass := b.mass.add mass
    thickness := min b.thickness solid.innerRadius
    reach := max b.reach solid.outerRadius
    changes := { b.changes with colliders := true }
    motion := b.motion.recenter }

/-- Detaches a collider; the last one takes its place. -/
def detach (key : Key) (b : Body) : Body :=
  if key ∈ b.colliders then
    { b with
      colliders := eraseSwapping b.colliders key
      changes := { b.changes with colliders := true } }
  else b

/-- What a step does on request: wakes a dynamic body unless its owner settled its sleep. -/
def rouse (b : Body) : Body :=
  if b.isDynamic && !b.changes.sleep then
    { b with
      activation := { b.activation.wake with simulated := b.activation.simulated || b.enabled } }
  else b

def requestWake (b : Body) : Body :=
  { b with activation := { b.activation with wakeRequested := true } }

end Body

end RigidWorlds.Engine
