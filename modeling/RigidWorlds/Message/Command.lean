import RigidWorlds.BodyKind
import RigidWorlds.Message.Arguments
import RigidWorlds.Message.Definition

/-!
Commands and how they are read from messages.  `Verb` names the commands and says how many arguments
each one needs; `Verb.read` takes its arguments in order.
-/

namespace RigidWorlds

inductive Verb where
  | createWorld
  | destroyWorld
  | setContinuous
  | setGravity
  | clearForces
  | step
  | getLastContacts
  | createBody
  | deleteBody
  | setBodyTransform
  | setLinearVelocity
  | getLinearVelocity
  | setAngularVelocity
  | getAngularVelocity
  | applyImpulse
  | applyForceToCenter
  | setLinearDamping
  | setActive
  | setAwake
  | isAwake
  | getWorldCenter
  | getLocalCenter
  | getObjectContacts
  | createFixture
  | deleteFixture
  | setSensor
  | setDensity
  | setFriction
  | setRestitution
  | createDistanceJoint
  | deleteJoint
  deriving DecidableEq

inductive Command where
  | createWorld (gravity : Vec2) (allowSleep : Bool)
  | destroyWorld (w : Handle .world)
  | setContinuous (w : Handle .world) (enabled : Bool)
  | setGravity (w : Handle .world) (gravity : Vec2)
  | clearForces (w : Handle .world)
  | step (w : Handle .world) (dt : Float32) (velocityIterations positionIterations : UInt32)
  | getLastContacts (w : Handle .world)
  | createBody (w : Handle .world) (kind : BodyKind) (place : Vec2)
  | deleteBody (w : Handle .world) (b : Handle .body)
  | setBodyTransform (w : Handle .world) (b : Handle .body) (place : Vec2) (angle : Float32)
  | setLinearVelocity (w : Handle .world) (b : Handle .body) (v : Vec2)
  | getLinearVelocity (w : Handle .world) (b : Handle .body)
  | setAngularVelocity (w : Handle .world) (b : Handle .body) (v : Float32)
  | getAngularVelocity (w : Handle .world) (b : Handle .body)
  | applyImpulse (w : Handle .world) (b : Handle .body) (impulse point : Vec2) (wake : Bool)
  | applyForceToCenter (w : Handle .world) (b : Handle .body) (force : Vec2) (wake : Bool)
  | setLinearDamping (w : Handle .world) (b : Handle .body) (damping : Float32)
  | setActive (w : Handle .world) (b : Handle .body) (active : Bool)
  | setAwake (w : Handle .world) (b : Handle .body) (awake : Bool)
  | isAwake (w : Handle .world) (b : Handle .body)
  | getWorldCenter (w : Handle .world) (b : Handle .body)
  | getLocalCenter (w : Handle .world) (b : Handle .body)
  | getObjectContacts (w : Handle .world) (b : Handle .body)
  | createFixture (w : Handle .world) (b : Handle .body) (fixture : FixtureDefinition)
  | deleteFixture (w : Handle .world) (f : Handle .fixture)
  | setSensor (w : Handle .world) (f : Handle .fixture) (isSensor : Bool)
  | setDensity (w : Handle .world) (f : Handle .fixture) (density : Float32)
  | setFriction (w : Handle .world) (f : Handle .fixture) (friction : Float32)
  | setRestitution (w : Handle .world) (f : Handle .fixture) (restitution : Float32)
  | createDistanceJoint (w : Handle .world) (a b : Handle .body)
  | deleteJoint (w : Handle .world) (j : Handle .joint)
  deriving DecidableEq

namespace Verb

def all : List Verb := [
  createWorld, destroyWorld, setContinuous, setGravity, clearForces, step, getLastContacts,
  createBody, deleteBody, setBodyTransform, setLinearVelocity, getLinearVelocity,
  setAngularVelocity, getAngularVelocity, applyImpulse, applyForceToCenter, setLinearDamping,
  setActive, setAwake, isAwake, getWorldCenter, getLocalCenter, getObjectContacts,
  createFixture, deleteFixture, setSensor, setDensity, setFriction, setRestitution,
  createDistanceJoint, deleteJoint]

def name : Verb → String
  | createWorld => "createWorld"
  | destroyWorld => "destroyWorld"
  | setContinuous => "setContinuous"
  | setGravity => "setGravity"
  | clearForces => "clearForces"
  | step => "step"
  | getLastContacts => "getLastContacts"
  | createBody => "createBody"
  | deleteBody => "deleteBody"
  | setBodyTransform => "setBodyTransform"
  | setLinearVelocity => "setLinearVelocity"
  | getLinearVelocity => "getLinearVelocity"
  | setAngularVelocity => "setAngularVelocity"
  | getAngularVelocity => "getAngularVelocity"
  | applyImpulse => "applyImpulse"
  | applyForceToCenter => "applyForceToCenter"
  | setLinearDamping => "setLinearDamping"
  | setActive => "setActive"
  | setAwake => "setAwake"
  | isAwake => "isAwake"
  | getWorldCenter => "getWorldCenter"
  | getLocalCenter => "getLocalCenter"
  | getObjectContacts => "getObjectContacts"
  | createFixture => "createFixture"
  | deleteFixture => "deleteFixture"
  | setSensor => "setSensor"
  | setDensity => "setDensity"
  | setFriction => "setFriction"
  | setRestitution => "setRestitution"
  | createDistanceJoint => "createDistanceJoint"
  | deleteJoint => "deleteJoint"

def ofName? (name : String) : Option Verb := all.find? fun v => v.name == name

def arity : Verb → Nat
  | destroyWorld | clearForces | getLastContacts => 1
  | setContinuous | createBody | deleteBody | getLinearVelocity | getAngularVelocity | isAwake
  | getWorldCenter | getLocalCenter | getObjectContacts | deleteFixture | deleteJoint => 2
  | createWorld | setGravity | setAngularVelocity | setLinearDamping | setActive | setAwake
  | createFixture | setSensor | setDensity | setFriction | setRestitution
  | createDistanceJoint => 3
  | step | setLinearVelocity => 4
  | setBodyTransform | applyForceToCenter => 5
  | applyImpulse => 7

/-- A command on a body, with what follows the two handles. -/
def readOnBody (a : Arguments) (make : Handle .world → Handle .body → α → Command)
    (rest : Except MessageError α) : Except MessageError Command := do
  let w ← a.handle .world 0
  let b ← a.handle .body 1
  let x ← rest
  return make w b x

def readAboutBody (a : Arguments) (make : Handle .world → Handle .body → Command) :
    Except MessageError Command :=
  readOnBody a (fun w b (_ : Unit) => make w b) (.ok ())

def readOnFixture (a : Arguments) (make : Handle .world → Handle .fixture → α → Command)
    (rest : Except MessageError α) : Except MessageError Command := do
  let w ← a.handle .world 0
  let f ← a.handle .fixture 1
  let x ← rest
  return make w f x

/-- An iteration count; negative ones count as zero. -/
def readCount (a : Arguments) (index : Nat) : Except MessageError UInt32 :=
  (a.int index).map fun n => if n < 0 then 0 else n.toUInt32

def readBoth {α β : Type} (first : Except MessageError α) (second : Except MessageError β) :
    Except MessageError (α × β) := do
  let x ← first
  let y ← second
  return (x, y)

def read (v : Verb) (a : Arguments) : Except MessageError Command :=
  match v with
  | createWorld => do
      let gravity ← a.point 0
      let allowSleep ← a.boolean 2
      return .createWorld gravity allowSleep
  | destroyWorld => (a.handle .world 0).map .destroyWorld
  | setContinuous => do
      let w ← a.handle .world 0
      let enabled ← a.boolean 1
      return .setContinuous w enabled
  | setGravity => do
      let w ← a.handle .world 0
      let gravity ← a.point 1
      return .setGravity w gravity
  | clearForces => (a.handle .world 0).map .clearForces
  | step => do
      let w ← a.handle .world 0
      let dt ← a.float 1
      let velocityIterations ← readCount a 2
      let positionIterations ← readCount a 3
      return .step w dt velocityIterations positionIterations
  | getLastContacts => (a.handle .world 0).map .getLastContacts
  | createBody => do
      let body : BodyDefinition ← a.object 1
      let w ← a.handle .world 0
      let kind ← (BodyKind.ofRaw body.kind).mapError .refused
      return .createBody w kind body.position.point
  | deleteBody => readAboutBody a .deleteBody
  | setBodyTransform =>
      readOnBody a (fun w b (place, angle) => .setBodyTransform w b place angle)
        (readBoth (a.point 2) (a.float 4))
  | setLinearVelocity => readOnBody a .setLinearVelocity (a.point 2)
  | getLinearVelocity => readAboutBody a .getLinearVelocity
  | setAngularVelocity => readOnBody a .setAngularVelocity (a.float 2)
  | getAngularVelocity => readAboutBody a .getAngularVelocity
  | applyImpulse =>
      readOnBody a (fun w b (impulse, point, wake) => .applyImpulse w b impulse point wake)
        (readBoth (a.point 2) (readBoth (a.point 4) (a.boolean 6)))
  | applyForceToCenter =>
      readOnBody a (fun w b (force, wake) => .applyForceToCenter w b force wake)
        (readBoth (a.point 2) (a.boolean 4))
  | setLinearDamping => readOnBody a .setLinearDamping (a.float 2)
  | setActive => readOnBody a .setActive (a.boolean 2)
  | setAwake => readOnBody a .setAwake (a.boolean 2)
  | isAwake => readAboutBody a .isAwake
  | getWorldCenter => readAboutBody a .getWorldCenter
  | getLocalCenter => readAboutBody a .getLocalCenter
  | getObjectContacts => readAboutBody a .getObjectContacts
  | createFixture => readOnBody a .createFixture (a.object 2)
  | deleteFixture => readOnFixture a (fun w f (_ : Unit) => .deleteFixture w f) (.ok ())
  | setSensor => readOnFixture a .setSensor (a.boolean 2)
  | setDensity => readOnFixture a .setDensity (a.float 2)
  | setFriction => readOnFixture a .setFriction (a.float 2)
  | setRestitution => readOnFixture a .setRestitution (a.float 2)
  | createDistanceJoint => readOnBody a .createDistanceJoint (a.handle .body 2)
  | deleteJoint => do
      let w ← a.handle .world 0
      let j ← a.handle .joint 1
      return .deleteJoint w j

end Verb

namespace Command

/-- The command that arguments ask for.  The name is looked at first, then whether enough arguments
are there. -/
def ofArguments (a : Arguments) : Except MessageError Command :=
  match Verb.ofName? a.command with
  | none => .error (.unknownCommand a.command)
  | some verb => do
      a.expect verb.arity
      verb.read a

def parse (message : String) : Except MessageError Command :=
  match Json.parseObject message with
  | .error e => .error (.malformed e)
  | .ok entries => (Arguments.ofEntries entries).bind ofArguments

end Command

end RigidWorlds
