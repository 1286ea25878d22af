import RigidWorlds.Simulator.Body
import RigidWorlds.Simulator.Contact
import RigidWorlds.Simulator.Fixture
import RigidWorlds.Simulator.Joint
import RigidWorlds.Simulator.World

/-!
Everything that can be asked of a simulator, as data, and the answers.  `Operation.run` is the one
place that says what each operation does.
-/

namespace RigidWorlds

inductive WorldProperty where
  | gravity
  | continuous
  | allowsSleep
  | bodyCount
  deriving DecidableEq

inductive BodyProperty where
  | kind
  | position
  | angle
  | linearVelocity
  | angularVelocity
  | linearDamping
  | active
  | awake
  | worldCenter
  | localCenter
  deriving DecidableEq

inductive Operation where
  | createWorld (gravity : Vec2) (allowSleep : Bool)
  | destroyWorld (w : Handle .world)
  | worlds
  | setWorld (w : Handle .world) (change : WorldChange)
  | readWorld (w : Handle .world) (property : WorldProperty)
  | bodiesOf (w : Handle .world)
  | step (w : Handle .world) (dt : Float32) (velocityIterations positionIterations : UInt32)
  | stepDefault (w : Handle .world) (dt : Float32)
  | lastContacts (w : Handle .world)
  | createBody (w : Handle .world) (kind : BodyKind) (place : Vec2)
  | deleteBody (w : Handle .world) (b : Handle .body)
  | setBody (w : Handle .world) (b : Handle .body) (change : BodyChange)
  | readBody (w : Handle .world) (b : Handle .body) (property : BodyProperty)
  | objectContacts (w : Handle .world) (b : Handle .body)
  | createFixture (w : Handle .world) (b : Handle .body) (shape : ShapeDescriptor)
      (material : Material)
  | deleteFixture (w : Handle .world) (f : Handle .fixture)
  | setFixture (w : Handle .world) (f : Handle .fixture) (change : FixtureChange)
  | fixtureBody (w : Handle .world) (f : Handle .fixture)
  | fixtureMaterial (w : Handle .world) (f : Handle .fixture)
  | fixtureShape (w : Handle .world) (f : Handle .fixture)
  | fixturesOf (w : Handle .world) (b : Handle .body)
  | createJoint (w : Handle .world) (a b : Handle .body) (definition : JointDefinition)
  | createDefaultJoint (w : Handle .world) (a b : Handle .body)
  | deleteJoint (w : Handle .world) (j : Handle .joint)
  | jointBodies (w : Handle .world) (j : Handle .joint)
  deriving DecidableEq

inductive Outcome where
  | done
  | handle {k : Kind} (h : Handle k)
  | handles {k : Kind} (hs : List (Handle k))
  | joined (a b : Handle .body)
  | number (x : Float32)
  | point (v : Vec2)
  | flag (b : Bool)
  | count (n : Nat)
  | kind (k : BodyKind)
  | material (m : Material)
  | solid (s : Solid)
  | snapshot (s : Snapshot)
  | contacts (l : ContactList)

def WorldProperty.value : WorldProperty → Engine.World → Outcome
  | gravity, w => .point w.gravity
  | continuous, w => .flag w.settings.continuous
  | allowsSleep, w => .flag w.settings.allowSleep
  | bodyCount, w => .count w.bodies.size

def BodyProperty.value : BodyProperty → Engine.Body → Outcome
  | kind, b => .kind b.kind
  | position, b => .point b.position
  | angle, b => .number b.angle
  | linearVelocity, b => .point b.motion.linearVelocity
  | angularVelocity, b => .number b.motion.angularVelocity
  | linearDamping, b => .number b.linearDamping
  | active, b => .flag b.enabled
  | awake, b => .flag b.isAwake
  | worldCenter, b => .point b.motion.center
  | localCenter, b => .point b.localCenter

namespace Operation

def run : Operation → Sim Outcome
  | createWorld gravity allowSleep => .handle <$> Sim.createWorld gravity allowSleep
  | destroyWorld w => (fun _ => .done) <$> Sim.destroyWorld w
  | worlds => .handles <$> Sim.worlds
  | setWorld w change => (fun _ => .done) <$> Sim.setWorld w change
  | readWorld w property => Sim.readWorld w property.value
  | bodiesOf w => .handles <$> Sim.bodiesOf w
  | step w dt velocityIterations positionIterations =>
      .snapshot <$> Sim.step w dt velocityIterations positionIterations
  | stepDefault w dt => .snapshot <$> Sim.stepDefault w dt
  | lastContacts w => .contacts <$> Sim.lastContacts w
  | createBody w kind place => .handle <$> Sim.createBody w kind place
  | deleteBody w b => (fun _ => .done) <$> Sim.deleteBody w b
  | setBody w b change => (fun _ => .done) <$> Sim.setBody w b change
  | readBody w b property => Sim.readBody w b property.value
  | objectContacts w b => .handles <$> Sim.objectContacts w b
  | createFixture w b shape material => .handle <$> Sim.createFixture w b shape material
  | deleteFixture w f => (fun _ => .done) <$> Sim.deleteFixture w f
  | setFixture w f change => (fun _ => .done) <$> Sim.setFixture w f change
  | fixtureBody w f => .handle <$> Sim.fixtureBody w f
  | fixtureMaterial w f => .material <$> Sim.fixtureMaterial w f
  | fixtureShape w f => .solid <$> Sim.fixtureShape w f
  | fixturesOf w b => .handles <$> Sim.fixturesOf w b
  | createJoint w a b definition => .handle <$> Sim.createJoint w a b definition
  | createDefaultJoint w a b => .handle <$> Sim.createDefaultJoint w a b
  | deleteJoint w j => (fun _ => .done) <$> Sim.deleteJoint w j
  | jointBodies w j => (fun (a, b) => .joined a b) <$> Sim.jointBodies w j

/-- What an operation answers and the simulator to go on with. -/
def perform (op : Operation) (s : Simulator) : Except Error Outcome × Simulator :=
  match op.run s with
  | .ok outcome s => (.ok outcome, s)
  | .error e s => (.error e, s)

end Operation

end RigidWorlds
