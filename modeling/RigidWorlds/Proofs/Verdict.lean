import RigidWorlds.Proofs.Confinement
import RigidWorlds.Proofs.History
import RigidWorlds.Proofs.Integrity

/-!
Verdicts: whether an operation is refused and why.  An operation first checks some of its values,
then finds its world and the objects that it names, from left to right, then checks the rest, and a
creation at last needs a handle to issue.  Nothing else is ever a reason to refuse it.
-/

namespace RigidWorlds

open Engine

namespace Registry

variable {r : Registry} {w : Handle .world} {k : Kind}

/-- A handle resolves, and its object belongs to a world.  A world belongs to itself. -/
def holds (r : Registry) (w : Handle .world) (h : Handle k) : Bool :=
  (r.origin? h).any fun o => o.home h = w

end Registry

namespace Operation

/-- The objects that an operation names beside its world, from left to right. -/
def objects : Operation → List ((k : Kind) × Handle k)
  | deleteBody _ b | setBody _ b _ | readBody _ b _ | objectContacts _ b | createFixture _ b _ _
  | fixturesOf _ b => [⟨.body, b⟩]
  | deleteFixture _ f | setFixture _ f _ | fixtureBody _ f | fixtureMaterial _ f
  | fixtureShape _ f => [⟨.fixture, f⟩]
  | createJoint _ a b _ | createDefaultJoint _ a b => [⟨.body, a⟩, ⟨.body, b⟩]
  | deleteJoint _ j | jointBodies _ j => [⟨.joint, j⟩]
  | _ => []

end Operation

section

variable {α β : Type}

end

namespace Registry

variable {r : Registry} {w : Handle .world} {k : Kind}

theorem Sound.locateFixture (hs : r.Sound) {f : Handle .fixture} {rec : FixtureRecord}
    (hrec : (r.slice w).fixtures f = some rec) :
    ∃ collider, r.locateFixture w f = .ok (rec, collider) := by
  obtain ⟨world, hw⟩ := hs.world_of_fixture hrec
  obtain ⟨identity, hidentity, -⟩ := (hs.mirrors hw).fixtures.present hrec
  obtain ⟨collider, hcollider, -⟩ :=
    Option.map_eq_some_iff.mp ((Arena.get?_map ..).symm.trans hidentity)
  exact ⟨collider, hs.locateFixture_eq hw hrec hcollider⟩

end Registry

namespace Operation

variable {s : Simulator}

end Operation

/-- Whether the error is about a handle that was given. -/
def Error.isLookup : Error → Bool
  | notFound _ | invalidHandle _ _ => true
  | _ => false

/-- Whatever is refused is not refused for a handle. -/
def ChecksValues {α : Type} (x : Except Error α) : Prop := ∀ e, x = .error e → e.isLookup = false

namespace ChecksValues

variable {α β : Type}

theorem ok (a : α) : ChecksValues (.ok a) := by
  intro e he
  cases he

theorem error {e : Error} (he : e.isLookup = false) : ChecksValues (.error e : Except Error α) := by
  intro e' he'
  cases he'
  exact he

theorem bind {x : Except Error α} {k : α → Except Error β} (hx : ChecksValues x)
    (hk : ∀ a, ChecksValues (k a)) : ChecksValues (x >>= k) := by
  cases x with
  | error e => exact error (hx e rfl)
  | ok a => exact hk a

theorem map {x : Except Error α} (hx : ChecksValues x) (f : α → β) : ChecksValues (x.map f) := by
  cases x with
  | error e => exact error (hx e rfl)
  | ok a => exact ok (f a)

theorem checkPositive (quantity : Quantity) (value : Float32) :
    ChecksValues (checkPositive quantity value) := by
  unfold RigidWorlds.checkPositive
  split
  · exact ok value
  · exact error rfl

theorem checkNonNegative (quantity : Quantity) (value : Float32) :
    ChecksValues (checkNonNegative quantity value) := by
  unfold RigidWorlds.checkNonNegative
  split
  · exact ok value
  · exact error rfl

theorem build (shape : ShapeDescriptor) : ChecksValues shape.build := by
  unfold ShapeDescriptor.build
  split
  · exact bind (checkPositive _ _) fun _ => ok _
  · exact bind (checkPositive _ _) fun _ => bind (checkPositive _ _) fun _ => ok _
  · exact error rfl
  · exact error rfl

end ChecksValues

end RigidWorlds
