import RigidWorlds.Proofs.Reachability

/-!
Operations are addressed to a world, and what they change is confined to it: of all other worlds
and of what belongs to those nothing is changed, whatever handles are given along with the world.
-/

namespace RigidWorlds

namespace Operation

/-- The world that an operation is addressed to. -/
def world? : Operation → Option (Handle .world)
  | createWorld _ _ | worlds => none
  | destroyWorld w | setWorld w _ | readWorld w _ | bodiesOf w | step w _ _ _ | stepDefault w _
  | lastContacts w => some w
  | createBody w _ _ | deleteBody w _ | setBody w _ _ | readBody w _ _
  | objectContacts w _ => some w
  | createFixture w _ _ _ | deleteFixture w _ | setFixture w _ _ | fixtureBody w _
  | fixtureMaterial w _ | fixtureShape w _ | fixturesOf w _ => some w
  | createJoint w _ _ _ | createDefaultJoint w _ _ | deleteJoint w _ | jointBodies w _ => some w

end Operation

namespace Registry

variable {r r' : Registry} {w : Handle .world}

theorem Confined.step {dt : Float32} {velocityIterations positionIterations : UInt32}
    {snapshot : Snapshot}
    (hok : step w dt velocityIterations positionIterations r = .ok (snapshot, r')) :
    Confined w r r' := by
  obtain ⟨-, -, -, rfl | rfl⟩ := step_eq_ok hok
  · exact Confined.refl w _
  · exact confined_modifyWorld _ _ _

theorem confined_resetMass (r : Registry) (b : Handle .body) (rec : BodyRecord) :
    Confined rec.world r (r.resetMass b rec) :=
  confined_modifyWorld _ _ _

theorem Sound.confined_createFixture (hs : r.Sound) {b : Handle .body} {shape : ShapeDescriptor}
    {material : Material} {f : Handle .fixture}
    (hok : createFixture w b shape material r = .ok (f, r')) : Confined w r r' := by
  obtain ⟨solid, rec, world, native, -, hrec, -, -, -, rfl⟩ := createFixture_eq_ok hok
  obtain ⟨-, rfl⟩ := slice_bodies_eq_some_iff.mp (hs.body_eq_ok_iff.mp hrec)
  exact (confined_addFixture hs.fixtures ⟨rec.world, b, native, material⟩ _).trans
    (confined_resetMass _ b rec)

theorem Sound.confined_deleteFixture (hs : r.Sound) {f : Handle .fixture} {u : Unit}
    (hok : deleteFixture w f r = .ok (u, r')) : Confined w r r' := by
  obtain ⟨rec, body, hrec, hbody, rfl⟩ := deleteFixture_eq_ok hok
  have hdrop := confined_dropFixture (hs.fixture_eq_ok_iff.mp hrec)
  obtain ⟨-, rfl⟩ := slice_bodies_eq_some_iff.mp (hs.body_eq_ok_iff.mp hbody)
  exact hdrop.trans (confined_resetMass _ rec.body body)

theorem Sound.confined_setFixture (hs : r.Sound) {f : Handle .fixture} {change : FixtureChange}
    {u : Unit} (hok : setFixture w f change r = .ok (u, r')) : Confined w r r' := by
  obtain ⟨rec, collider, body, changed, hlocate, hbody, rfl, rfl⟩ := setFixture_eq_ok hok
  obtain ⟨world, hrec, -, -⟩ := locateFixture_eq_ok hlocate
  obtain ⟨-, rfl⟩ := slice_bodies_eq_some_iff.mp (hs.body_eq_ok_iff.mp hbody)
  -- The fixture is found in the changed world as it was before.
  have hworld := confined_modifyWorld r body.world
    (·.setMaterial rec.native (change.apply collider.material))
  have hmaterial := confined_changeMaterial
    (r := r.modifyWorld body.world (·.setMaterial rec.native (change.apply collider.material)))
    (hs.fixture_eq_ok_iff.mp hrec) change.apply
  split
  · exact (hworld.trans hmaterial).trans (confined_resetMass _ rec.body body)
  · exact hworld.trans hmaterial

end Registry

namespace Operation

open Registry

variable {config : Config} {op : Operation} {w : Handle .world}

theorem confined_transact {r r' : Registry} {outcome : Outcome} (hs : r.Sound)
    (hw : op.world? = some w) (hok : op.transact config r = .ok (outcome, r')) :
    Confined w r r' := by
  cases transition_transact hok with
  | createWorld => cases hw
  | destroyWorld hdestroy =>
      obtain rfl := Option.some.inj hw
      obtain ⟨-, rfl⟩ := destroyWorld_eq_ok hdestroy
      exact hs.confined_dropWorld _
  | setWorld hset =>
      obtain rfl := Option.some.inj hw
      obtain ⟨-, rfl⟩ := changeWorld_eq_ok hset
      exact confined_modifyWorld _ _ _
  | step hstep | stepDefault hstep =>
      obtain rfl := Option.some.inj hw
      exact Confined.step hstep
  | @createBody w kind place b r' hcreate =>
      obtain rfl := Option.some.inj hw
      obtain ⟨world, native, -, -, -, rfl⟩ := createBody_eq_ok hcreate
      exact (confined_addBody hs.bodies ⟨w, native⟩ _).trans (confined_resetMass _ b ⟨w, native⟩)
  | deleteBody hdelete =>
      obtain rfl := Option.some.inj hw
      obtain ⟨rec, hrec, rfl⟩ := deleteBody_eq_ok hdelete
      exact hs.confined_dropBody (hs.body_eq_ok_iff.mp hrec)
  | setBody hset =>
      obtain rfl := Option.some.inj hw
      obtain ⟨rec, -, rfl⟩ := changeBody_eq_ok hset
      exact confined_modifyWorld _ _ _
  | createFixture hcreate =>
      obtain rfl := Option.some.inj hw
      exact hs.confined_createFixture hcreate
  | deleteFixture hdelete =>
      obtain rfl := Option.some.inj hw
      exact hs.confined_deleteFixture hdelete
  | setFixture hset =>
      obtain rfl := Option.some.inj hw
      exact hs.confined_setFixture hset
  | @createJoint w a b _ j r' hcreate | @createDefaultJoint w a b j r' hcreate =>
      obtain rfl := Option.some.inj hw
      obtain ⟨recA, recB, world, spring, -, -, -, -, -, -, -, rfl⟩ := createJoint_eq_ok hcreate
      exact confined_addJoint hs.joints ⟨w, a, b, _⟩ _
  | deleteJoint hdelete =>
      obtain rfl := Option.some.inj hw
      obtain ⟨rec, hrec, rfl⟩ := deleteJoint_eq_ok hdelete
      exact confined_dropJoint (hs.joint_eq_ok_iff.mp hrec)
  | question => exact Confined.refl w _

theorem confined_perform {s : Simulator} (hs : s.registry.Sound) (hw : op.world? = some w) :
    Confined w s.registry (op.perform s).2.registry :=
  Simulator.keep_perform hs op (Confined.refl w _) (confined_transact hs hw)

end Operation

end RigidWorlds
