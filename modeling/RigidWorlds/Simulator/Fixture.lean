import RigidWorlds.Simulator.Basic

namespace RigidWorlds

inductive FixtureChange where
  | sensor (isSensor : Bool)
  | density (density : Float32)
  | friction (friction : Float32)
  | restitution (restitution : Float32)
  deriving DecidableEq

namespace FixtureChange

def check : FixtureChange → Except Error Unit
  | sensor _ => .ok ()
  | density x => (checkNonNegative .density x).map fun _ => ()
  | friction x => (checkNonNegative .friction x).map fun _ => ()
  | restitution x => (checkNonNegative .restitution x).map fun _ => ()

def apply : FixtureChange → Material → Material
  | sensor isSensor, m => { m with isSensor := isSensor }
  | density x, m => { m with density := x }
  | friction x, m => { m with friction := x }
  | restitution x, m => { m with restitution := x }

def changesMass : FixtureChange → Bool
  | density _ => true
  | _ => false

end FixtureChange

namespace Sim

/-- Attaches a fixture to a body.  The shape and the material are checked before the handles. -/
def createFixture (w : Handle .world) (b : Handle .body) (shape : ShapeDescriptor)
    (material : Material) : Sim (Handle .fixture) := do
  let solid ← lift shape.build
  lift material.check
  let record ← look (·.body w b)
  let world ← look (·.world w)
  let f ← inFixtures HandleTable.allocate
  let (native, world) := world.insertCollider solid material f.tag record.native
  modifyRegistry (·.modifyWorld w fun _ => world)
  inFixtures (HandleTable.bind f ⟨w, b, native, material⟩)
  resetMass w b
  return f

def deleteFixture (w : Handle .world) (f : Handle .fixture) : Sim Unit := do
  let record ← look (·.fixture w f)
  let _ ← inFixtures (HandleTable.release f)
  changeWorld w (·.removeCollider record.native)
  resetMass w record.body

def fixtureBody (w : Handle .world) (f : Handle .fixture) : Sim (Handle .body) := do
  let record ← look (·.fixture w f)
  return record.body

/-- The fixtures of a body in ascending order. -/
def fixturesOf (w : Handle .world) (b : Handle .body) : Sim (List (Handle .fixture)) := do
  let _ ← look (·.body w b)
  look fun r => .ok (r.fixturesOf b)

def fixtureMaterial (w : Handle .world) (f : Handle .fixture) : Sim Material := do
  let record ← look (·.fixture w f)
  return record.material

/-- The world of a fixture, its record and the collider itself. -/
def locateFixture (w : Handle .world) (f : Handle .fixture) :
    Sim (FixtureRecord × Engine.Collider) := do
  let record ← look (·.fixture w f)
  let world ← look (·.world w)
  match world.colliders.get? record.native with
  | some collider => return (record, collider)
  | none => throw (.notFound f)

def fixtureShape (w : Handle .world) (f : Handle .fixture) : Sim Solid := do
  let (_, collider) ← locateFixture w f
  return collider.solid

/-- Changes the material of a fixture, both of its record and of its collider. -/
def setFixture (w : Handle .world) (f : Handle .fixture) (change : FixtureChange) :
    Sim Unit := do
  lift change.check
  let (record, collider) ← locateFixture w f
  modifyRegistry (·.modifyWorld w (·.setMaterial record.native (change.apply collider.material)))
  inFixtures fun t => .ok () (t.modify f fun r => { r with material := change.apply r.material })
  if change.changesMass then resetMass w record.body

end Sim

end RigidWorlds
