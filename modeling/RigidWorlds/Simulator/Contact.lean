import RigidWorlds.ContactList
import RigidWorlds.Simulator.Basic

/-!
Questions about contacts.  The pairs found in the last step are reported as far as their fixtures
still exist.
-/

namespace RigidWorlds

namespace Engine.World

def fixtureOf? (w : World) (collider : Key) : Option (Handle .fixture) :=
  (w.colliders.get? collider).bind fun c => Handle.ofTag? .fixture c.tag

def bodyOf? (w : World) (collider : Key) : Option (Handle .body) := do
  let c ← w.colliders.get? collider
  let b ← w.bodies.get? c.parent
  Handle.ofTag? .body b.tag

def contactList (w : World) : ContactList where
  contacts := w.pairs.filterMap fun p => do
    let first ← w.fixtureOf? p.first
    let second ← w.fixtureOf? p.second
    return ⟨first, second, p.touching⟩

/-- The bodies on the other side of the contacts of a body, once for each contact. -/
def neighbors (w : World) (body : Body) : List (Handle .body) :=
  body.colliders.flatMap fun collider =>
    (w.pairs.filter (·.involves collider)).filterMap fun p => w.bodyOf? (p.other collider)

end Engine.World

namespace Sim

/-- The contacts that the engine of a world currently knows. -/
def lastContacts (w : Handle .world) : Sim ContactList := readWorld w (·.contactList)

/-- The bodies in contact with a body, once for each contact. -/
def objectContacts (w : Handle .world) (b : Handle .body) : Sim (List (Handle .body)) := do
  let (world, _, body) ← locateBody w b
  return world.neighbors body

end Sim

end RigidWorlds
