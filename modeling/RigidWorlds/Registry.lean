import RigidWorlds.Engine.Step
import RigidWorlds.HandleTable

/-!
The registry: four tables that associate handles with worlds, bodies, fixtures and joints.  Worlds
are kept in their table; of the other objects it knows the world they belong to and the key under
which the engine of that world keeps them.
-/

namespace RigidWorlds

@[ext]
structure BodyRecord where
  world : Handle .world
  native : Engine.Key
  deriving DecidableEq

@[ext]
structure FixtureRecord where
  world : Handle .world
  body : Handle .body
  native : Engine.Key
  /-- As the fixture was created or last updated. -/
  material : Material
  deriving DecidableEq

@[ext]
structure JointRecord where
  world : Handle .world
  first : Handle .body
  second : Handle .body
  native : Engine.Key
  deriving DecidableEq

def JointRecord.involves (j : JointRecord) (body : Handle .body) : Bool :=
  j.first = body || j.second = body

structure Registry where
  worlds : HandleTable .world Engine.World
  bodies : HandleTable .body BodyRecord
  fixtures : HandleTable .fixture FixtureRecord
  joints : HandleTable .joint JointRecord

namespace Registry

def empty : Registry := ⟨.empty, .empty, .empty, .empty⟩

def world (r : Registry) (w : Handle .world) : Except Error Engine.World := r.worlds.find w

/-- The object of a handle in a world.  The world is checked first; an object of another world
counts as missing. -/
def owned (r : Registry) (table : HandleTable k α) (owner : α → Handle .world)
    (w : Handle .world) (h : Handle k) : Except Error α := do
  let _ ← r.world w
  match table.get? h with
  | some a => if owner a = w then .ok a else .error (.notFound h)
  | none => .error (.notFound h)

def body (r : Registry) (w : Handle .world) (b : Handle .body) : Except Error BodyRecord :=
  r.owned r.bodies (·.world) w b

def fixture (r : Registry) (w : Handle .world) (f : Handle .fixture) :
    Except Error FixtureRecord :=
  r.owned r.fixtures (·.world) w f

def joint (r : Registry) (w : Handle .world) (j : Handle .joint) : Except Error JointRecord :=
  r.owned r.joints (·.world) w j

def bodiesOf (r : Registry) (w : Handle .world) : List (Handle .body) :=
  r.bodies.handlesWhere fun b => b.world = w

def fixturesOf (r : Registry) (b : Handle .body) : List (Handle .fixture) :=
  r.fixtures.handlesWhere fun f => f.body = b

def jointsOf (r : Registry) (b : Handle .body) : List (Handle .joint) :=
  r.joints.handlesWhere fun j => j.involves b

def isDense (r : Registry) (b : Handle .body) : Bool :=
  r.fixtures.items.any fun (_, f) => f.body = b && 0 < f.material.density

def modifyWorld (r : Registry) (w : Handle .world) (f : Engine.World → Engine.World) : Registry :=
  { r with worlds := r.worlds.modify w f }

def releaseWorldObjects (r : Registry) (w : Handle .world) : Registry :=
  { r with
    fixtures := r.fixtures.eraseWhere fun f => f.world = w
    joints := r.joints.eraseWhere fun j => j.world = w
    bodies := r.bodies.eraseWhere fun b => b.world = w }

def releaseBodyObjects (r : Registry) (b : Handle .body) : Registry :=
  { r with
    fixtures := r.fixtures.eraseWhere fun f => f.body = b
    joints := r.joints.eraseWhere fun j => j.involves b }

end Registry

end RigidWorlds
