import RigidWorlds.Config
import RigidWorlds.Registry

/-!
A simulator keeps worlds and all that is in them behind handles.  Its operations run in `Sim`: an
operation answers or is refused, and there is a simulator to go on with in either case.
-/

namespace RigidWorlds

structure Simulator where
  registry : Registry
  config : Config

namespace Simulator

/-- A simulator that holds nothing. -/
def start (config : Config) : Simulator := ⟨.empty, config⟩

end Simulator

abbrev Sim := EStateM Error Simulator

namespace Sim

def lift (result : Except Error α) : Sim α := fun s =>
  match result with
  | .ok a => .ok a s
  | .error e => .error e s

def look (f : Registry → Except Error α) : Sim α := fun s => lift (f s.registry) s

def modifyRegistry (f : Registry → Registry) : Sim Unit := fun s =>
  .ok () { s with registry := f s.registry }

def inWorlds (act : HandleTable.Action .world Engine.World α) : Sim α := fun s =>
  match act s.registry.worlds with
  | .ok a t => .ok a { s with registry := { s.registry with worlds := t } }
  | .error e t => .error e { s with registry := { s.registry with worlds := t } }

def inBodies (act : HandleTable.Action .body BodyRecord α) : Sim α := fun s =>
  match act s.registry.bodies with
  | .ok a t => .ok a { s with registry := { s.registry with bodies := t } }
  | .error e t => .error e { s with registry := { s.registry with bodies := t } }

def inFixtures (act : HandleTable.Action .fixture FixtureRecord α) : Sim α := fun s =>
  match act s.registry.fixtures with
  | .ok a t => .ok a { s with registry := { s.registry with fixtures := t } }
  | .error e t => .error e { s with registry := { s.registry with fixtures := t } }

def inJoints (act : HandleTable.Action .joint JointRecord α) : Sim α := fun s =>
  match act s.registry.joints with
  | .ok a t => .ok a { s with registry := { s.registry with joints := t } }
  | .error e t => .error e { s with registry := { s.registry with joints := t } }

def changeWorld (w : Handle .world) (f : Engine.World → Engine.World) : Sim Unit := do
  let _ ← look (·.world w)
  modifyRegistry (·.modifyWorld w f)

def readWorld (w : Handle .world) (f : Engine.World → α) : Sim α := do
  let world ← look (·.world w)
  return f world

/-- The world of a body and the body itself. -/
def locateBody (w : Handle .world) (b : Handle .body) :
    Sim (Engine.World × Engine.Key × Engine.Body) := do
  let record ← look (·.body w b)
  let world ← look (·.world w)
  match world.bodies.get? record.native with
  | some body => return (world, record.native, body)
  | none => throw (.notFound b)

def readBody (w : Handle .world) (b : Handle .body) (f : Engine.Body → α) : Sim α := do
  let (_, _, body) ← locateBody w b
  return f body

def changeBody (w : Handle .world) (b : Handle .body) (f : Engine.Body → Engine.Body) :
    Sim Unit := do
  let (_, key, _) ← locateBody w b
  modifyRegistry (·.modifyWorld w (·.changeBody key f))

/-- Keeps a dynamic body movable: one without a dense fixture has a mass of one beside that of its
fixtures, and any other has none. -/
def resetMass (w : Handle .world) (b : Handle .body) : Sim Unit := do
  let dense ← look fun r => .ok (r.isDense b)
  changeBody w b fun body =>
    if body.isDynamic then body.setAdditionalMass (if dense then 0 else 1) else body

end Sim

end RigidWorlds
