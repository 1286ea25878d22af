import RigidWorlds.Proofs.Transaction

/-!
Running operations.  An operation takes its steps one after the other, and some of them could be
refused when others have changed the registry already.  In a sound registry none of the late steps
is, so the operation does the same as its transaction.
-/

namespace RigidWorlds

open Engine

namespace Sim

open Transaction

variable {α β : Type}

theorem look_bind (f : Registry → Except Error α) (k : α → Sim β) (s : Simulator) :
    (look f >>= k) s =
      match f s.registry with
      | .ok a => k a s
      | .error e => .error e s := by
  simp only [bind, EStateM.bind, look, lift]
  cases f s.registry <;> rfl

theorem lift_bind (x : Except Error α) (k : α → Sim β) (s : Simulator) :
    (lift x >>= k) s =
      match x with
      | .ok a => k a s
      | .error e => .error e s := by
  simp only [bind, EStateM.bind, lift]
  cases x <;> rfl

theorem modifyRegistry_bind (f : Registry → Registry) (k : Unit → Sim β) (s : Simulator) :
    (modifyRegistry f >>= k) s = k () { s with registry := f s.registry } := rfl

theorem inBodies_bind (act : HandleTable.Action .body BodyRecord α) (k : α → Sim β)
    (s : Simulator) :
    (inBodies act >>= k) s =
      match act s.registry.bodies with
      | .ok a t => k a { s with registry := { s.registry with bodies := t } }
      | .error e t => .error e { s with registry := { s.registry with bodies := t } } := by
  simp only [bind, EStateM.bind, inBodies]
  cases act s.registry.bodies <;> rfl

theorem inFixtures_bind (act : HandleTable.Action .fixture FixtureRecord α) (k : α → Sim β)
    (s : Simulator) :
    (inFixtures act >>= k) s =
      match act s.registry.fixtures with
      | .ok a t => k a { s with registry := { s.registry with fixtures := t } }
      | .error e t => .error e { s with registry := { s.registry with fixtures := t } } := by
  simp only [bind, EStateM.bind, inFixtures]
  cases act s.registry.fixtures <;> rfl

theorem inJoints_bind (act : HandleTable.Action .joint JointRecord α) (k : α → Sim β)
    (s : Simulator) :
    (inJoints act >>= k) s =
      match act s.registry.joints with
      | .ok a t => k a { s with registry := { s.registry with joints := t } }
      | .error e t => .error e { s with registry := { s.registry with joints := t } } := by
  simp only [bind, EStateM.bind, inJoints]
  cases act s.registry.joints <;> rfl

theorem lift_bind_eq {x : Except Error α} {k : α → Sim β} {t : α → Transaction β} {s : Simulator}
    (hrest : ∀ a, x = .ok a → k a s = (t a).run s) :
    (lift x >>= k) s = Transaction.run (fun r => x >>= fun a => t a r) s := by
  rw [lift_bind]
  cases hx : x with
  | error e => rfl
  | ok a => exact hrest a hx

theorem look_bind_eq {f : Registry → Except Error α} {k : α → Sim β} {t : α → Transaction β}
    {s : Simulator} (hrest : ∀ a, f s.registry = .ok a → k a s = (t a).run s) :
    (look f >>= k) s = Transaction.run (fun r => f r >>= fun a => t a r) s := by
  rw [look_bind, run]
  cases hf : f s.registry with
  | error e => rfl
  | ok a => exact hrest a hf

theorem allocateBody_bind_eq {k : Handle .body → Sim β} {t : Handle .body → Transaction β}
    {s : Simulator}
    (hrest : ∀ b, s.registry.bodies.issue = .ok b →
      k b { s with registry.bodies := s.registry.bodies.reserve } = (t b).run s) :
    (inBodies HandleTable.allocate >>= k) s =
      Transaction.run (fun r => r.bodies.issue >>= fun b => t b r) s := by
  rw [inBodies_bind, HandleTable.allocate_eq, run]
  cases hissue : s.registry.bodies.issue with
  | error e => rfl
  | ok b => exact hrest b hissue

theorem allocateFixture_bind_eq {k : Handle .fixture → Sim β}
    {t : Handle .fixture → Transaction β} {s : Simulator}
    (hrest : ∀ f, s.registry.fixtures.issue = .ok f →
      k f { s with registry.fixtures := s.registry.fixtures.reserve } = (t f).run s) :
    (inFixtures HandleTable.allocate >>= k) s =
      Transaction.run (fun r => r.fixtures.issue >>= fun f => t f r) s := by
  rw [inFixtures_bind, HandleTable.allocate_eq, run]
  cases hissue : s.registry.fixtures.issue with
  | error e => rfl
  | ok f => exact hrest f hissue

theorem allocateJoint_bind_eq {k : Handle .joint → Sim β} {t : Handle .joint → Transaction β}
    {s : Simulator}
    (hrest : ∀ j, s.registry.joints.issue = .ok j →
      k j { s with registry.joints := s.registry.joints.reserve } = (t j).run s) :
    (inJoints HandleTable.allocate >>= k) s =
      Transaction.run (fun r => r.joints.issue >>= fun j => t j r) s := by
  rw [inJoints_bind, HandleTable.allocate_eq, run]
  cases hissue : s.registry.joints.issue with
  | error e => rfl
  | ok j => exact hrest j hissue

theorem locateBody_eq (w : Handle .world) (b : Handle .body) :
    locateBody w b = look (·.locateBody w b) := by
  funext s
  simp only [locateBody, look_bind]
  simp only [look, lift, Registry.locateBody, bind, Except.bind]
  cases s.registry.body w b with
  | error e => rfl
  | ok record =>
      cases s.registry.world w with
      | error e => rfl
      | ok world =>
          dsimp only
          cases world.bodies.get? record.native <;> rfl

theorem locateFixture_eq (w : Handle .world) (f : Handle .fixture) :
    locateFixture w f = look (·.locateFixture w f) := by
  funext s
  simp only [locateFixture, look_bind]
  simp only [look, lift, Registry.locateFixture]
  cases s.registry.fixture w f with
  | error e => rfl
  | ok record =>
      rw [ok_bind]
      cases s.registry.world w with
      | error e => rfl
      | ok world =>
          dsimp only [ok_bind]
          cases world.colliders.get? record.native <;> rfl

theorem look_map_eq (f : Registry → Except Error α) (g : α → β) (s : Simulator) :
    (look f >>= fun a => pure (g a)) s = (Transaction.read fun r => (f r).map g).run s := by
  rw [look_bind]
  simp only [run, Transaction.read]
  cases f s.registry <;> rfl

theorem look_look_eq (f : Registry → Except Error α) (g : Registry → β) (s : Simulator) :
    (look f >>= fun _ => look fun r => .ok (g r)) s =
      (Transaction.read fun r => (f r).map fun _ => g r).run s := by
  rw [look_bind]
  simp only [run, Transaction.read]
  cases f s.registry <;> rfl

theorem readBody_eq (w : Handle .world) (b : Handle .body) (f : Body → α) (s : Simulator) :
    readBody w b f s = (Registry.readBody w b fun _ body => f body).run s := by
  rw [readBody, locateBody_eq]
  exact look_map_eq (·.locateBody w b) (fun found => f found.2.2) s

theorem objectContacts_eq (w : Handle .world) (b : Handle .body) (s : Simulator) :
    objectContacts w b s = (Registry.readBody w b World.neighbors).run s := by
  rw [objectContacts, locateBody_eq]
  exact look_map_eq (·.locateBody w b) (fun found => found.1.neighbors found.2.2) s

theorem fixtureShape_eq (w : Handle .world) (f : Handle .fixture) (s : Simulator) :
    fixtureShape w f s =
      (Transaction.read fun r => (r.locateFixture w f).map (·.2.solid)).run s := by
  rw [fixtureShape, locateFixture_eq]
  exact look_map_eq (·.locateFixture w f) (fun found => found.2.solid) s

theorem createWorld_eq {s : Simulator} (h : s.registry.Sound) (gravity : Vec2)
    (allowSleep : Bool) :
    createWorld gravity allowSleep s =
      (Registry.createWorld gravity (s.config.newWorldSettings allowSleep)).run s := by
  have hget : createWorld gravity allowSleep s =
      inWorlds (HandleTable.insert (World.create gravity (s.config.newWorldSettings allowSleep)))
        s := rfl
  simp only [hget, inWorlds, HandleTable.insert_eq h.worlds]
  simp only [run, Registry.createWorld, bind, Except.bind]
  cases s.registry.worlds.issue <;> rfl

theorem destroyWorld_eq (w : Handle .world) (s : Simulator) :
    destroyWorld w s = (Registry.destroyWorld w).run s := by
  have hrelease : (inWorlds (HandleTable.release w) : Sim World) s =
      match s.registry.world w with
      | .ok world =>
          .ok world { s with registry := { s.registry with worlds := s.registry.worlds.erase w } }
      | .error e => .error e s := by
    simp only [inWorlds, HandleTable.release, Registry.world]
    cases s.registry.worlds.find w <;> rfl
  simp only [destroyWorld, bind, EStateM.bind, hrelease]
  simp only [run, Registry.destroyWorld]
  cases s.registry.world w <;> rfl

theorem changeWorld_of_get? {w : Handle .world} {s : Simulator} {x : World}
    (hw : s.registry.worlds.get? w = some x) (f : World → World) :
    changeWorld w f s = .ok () { s with registry := s.registry.modifyWorld w f } := by
  rw [changeWorld, look_bind, Registry.world_eq_ok_iff.mpr hw]
  rfl

theorem changeWorld_bind {w : Handle .world} {s : Simulator} {x : World}
    (hw : s.registry.worlds.get? w = some x) (f : World → World) (k : Unit → Sim β) :
    (changeWorld w f >>= k) s = k () { s with registry := s.registry.modifyWorld w f } := by
  simp only [bind, EStateM.bind, changeWorld_of_get? hw]

theorem changeWorld_eq (w : Handle .world) (f : World → World) (s : Simulator) :
    changeWorld w f s = (Registry.changeWorld w f).run s := by
  exact look_bind_eq fun _ _ => rfl

theorem step_eq (w : Handle .world) (dt : Float32)
    (velocityIterations positionIterations : UInt32) (s : Simulator) :
    step w dt velocityIterations positionIterations s =
      (Registry.step w dt velocityIterations positionIterations).run s := by
  refine look_bind_eq fun world hw => ?_
  refine lift_bind_eq fun dt _ => ?_
  dsimp only
  split
  · rw [modifyRegistry_bind, readWorld, look_bind]
    have hadvanced := Registry.world_eq_ok_iff.mpr (Registry.get?_modifyWorld_self
      (Registry.world_eq_ok_iff.mp hw) (·.advance dt velocityIterations positionIterations))
    simp only [hadvanced]
    rfl
  · rw [readWorld, look_bind]
    simp only [hw]
    rfl

theorem stepDefault_eq (w : Handle .world) (dt : Float32) (s : Simulator) :
    stepDefault w dt s =
      step w dt s.config.velocityIterations s.config.positionIterations s := rfl

theorem changeBody_eq (w : Handle .world) (b : Handle .body) (f : Body → Body) (s : Simulator) :
    changeBody w b f s = (Registry.changeBody w b f).run s := by
  rw [changeBody, locateBody_eq]
  exact look_bind_eq fun _ _ => rfl

theorem resetMass_of_body {s : Simulator} (h : s.registry.Sound) {w : Handle .world}
    {b : Handle .body} {rec : BodyRecord} (hrec : (s.registry.slice w).bodies b = some rec) :
    resetMass w b s = .ok () { s with registry := s.registry.resetMass b rec } := by
  obtain ⟨world, body, hlocate⟩ := h.locateBody hrec
  obtain ⟨-, hworld⟩ := Registry.slice_bodies_eq_some_iff.mp hrec
  simp only [resetMass, changeBody, locateBody_eq, look_bind, hlocate]
  simp only [modifyRegistry, Registry.resetMass, hworld]

theorem resetMass_bind {s : Simulator} (h : s.registry.Sound) {w : Handle .world}
    {b : Handle .body} {rec : BodyRecord} (hrec : (s.registry.slice w).bodies b = some rec)
    (k : Unit → Sim β) :
    (resetMass w b >>= k) s = k () { s with registry := s.registry.resetMass b rec } := by
  simp only [bind, EStateM.bind, resetMass_of_body h hrec]

theorem body_addBody {r : Registry} (ht : r.bodies.Settled) (rec : BodyRecord) (world : World) :
    ((r.addBody rec world).slice rec.world).bodies r.bodies.next = some rec := by
  rw [Registry.slice_addBody ht]
  exact if_pos rfl

theorem createBody_eq {s : Simulator} (h : s.registry.Sound) (w : Handle .world) (kind : BodyKind)
    (place : Vec2) : createBody w kind place s = (Registry.createBody w kind place).run s := by
  refine look_bind_eq fun world hw => ?_
  refine allocateBody_bind_eq fun b hissue => ?_
  -- With the body in place the registry is sound, so nothing is refused any more.
  have hsound := h.addBody (Registry.world_eq_ok_iff.mp hw) hissue kind place
  obtain ⟨-, rfl⟩ := HandleTable.issue_eq_ok_iff.mp hissue
  dsimp only
  rw [modifyRegistry_bind, inBodies_bind]
  dsimp only [Registry.modifyWorld]
  rw [HandleTable.bind_reserve h.bodies]
  exact resetMass_bind hsound (body_addBody h.bodies _ _) _

theorem deleteBody_eq (w : Handle .world) (b : Handle .body) (s : Simulator) :
    deleteBody w b s = (Registry.deleteBody w b).run s := by
  refine look_bind_eq fun record hrec => ?_
  obtain ⟨⟨world, hw⟩, hslice⟩ := Registry.owned_eq_ok_iff.mp hrec
  obtain ⟨hget, rfl⟩ := HandleTable.within_eq_some_iff.mp hslice
  rw [inBodies_bind]
  simp only [HandleTable.release, HandleTable.find_of_get? hget]
  rw [modifyRegistry_bind]
  refine (changeWorld_of_get? (x := world) ?_ _).trans rfl
  exact hw

theorem createFixture_eq {s : Simulator} (h : s.registry.Sound) (w : Handle .world)
    (b : Handle .body) (shape : ShapeDescriptor) (material : Material) :
    createFixture w b shape material s =
      (Registry.createFixture w b shape material).run s := by
  refine lift_bind_eq fun solid _ => ?_
  refine lift_bind_eq fun _ _ => ?_
  refine look_bind_eq fun record hrec => ?_
  refine look_bind_eq fun world hw => ?_
  refine allocateFixture_bind_eq fun f hissue => ?_
  have hslice := h.body_eq_ok_iff.mp hrec
  have hsound := h.addFixture (Registry.world_eq_ok_iff.mp hw) ⟨record, hslice, rfl⟩ hissue solid
    material
  obtain ⟨-, rfl⟩ := HandleTable.issue_eq_ok_iff.mp hissue
  dsimp only
  rw [modifyRegistry_bind, inFixtures_bind]
  dsimp only [Registry.modifyWorld]
  rw [HandleTable.bind_reserve h.fixtures]
  refine resetMass_bind hsound ?_ _
  exact hslice

theorem deleteFixture_eq {s : Simulator} (h : s.registry.Sound) (w : Handle .world)
    (f : Handle .fixture) : deleteFixture w f s = (Registry.deleteFixture w f).run s := by
  refine look_bind_eq fun record hrec => ?_
  have hslice := h.fixture_eq_ok_iff.mp hrec
  obtain ⟨world, hw⟩ := h.world_of_fixture hslice
  obtain ⟨hget, rfl⟩ := Registry.slice_fixtures_eq_some_iff.mp hslice
  -- The body is found before and after the fixture is taken out.
  obtain ⟨-, -, -, body, hbody, -⟩ := (h.mirrors hw).fixtures.present hslice
  have hsound := h.dropFixture hw hslice
  simp only [run, h.body_eq_ok_iff.mpr hbody, ok_bind]
  rw [inFixtures_bind]
  simp only [HandleTable.release, HandleTable.find_of_get? hget]
  refine (changeWorld_bind (x := world) ?_ _ _).trans ?_
  · exact hw
  · refine (resetMass_of_body hsound ?_).trans rfl
    exact hbody

theorem setFixture_eq {s : Simulator} (h : s.registry.Sound) (w : Handle .world)
    (f : Handle .fixture) (change : FixtureChange) :
    setFixture w f change s = (Registry.setFixture w f change).run s := by
  rw [setFixture, locateFixture_eq]
  refine lift_bind_eq fun _ _ => ?_
  refine look_bind_eq fun located hlocate => ?_
  obtain ⟨record, collider⟩ := located
  obtain ⟨world, hrec, hw, -⟩ := Registry.locateFixture_eq_ok hlocate
  have hslice := h.fixture_eq_ok_iff.mp hrec
  obtain ⟨-, -, -, body, hbody, -⟩ := (h.mirrors hw).fixtures.present hslice
  -- Materials do not matter to soundness, so the body is still found.
  have hsound := (h.modifyWorld w fun world => world.census_setMaterial record.native
    (change.apply collider.material)).changeMaterial f change.apply
  simp only [run, h.body_eq_ok_iff.mpr hbody, ok_bind]
  rw [modifyRegistry_bind]
  refine (inFixtures_bind _ _ _).trans ?_
  dsimp only
  split
  · refine (resetMass_of_body hsound ?_).trans rfl
    exact hbody
  · rfl

theorem createJoint_eq {s : Simulator} (h : s.registry.Sound) (w : Handle .world)
    (a b : Handle .body) (d : JointDefinition) :
    createJoint w a b d s = (Registry.createJoint w a b d).run s := by
  simp only [createJoint, locateBody_eq]
  refine look_bind_eq fun recordA _ => ?_
  refine look_bind_eq fun recordB _ => ?_
  split
  · rfl
  · refine lift_bind_eq fun _ _ => ?_
    refine look_bind_eq fun locatedA _ => ?_
    refine look_bind_eq fun locatedB _ => ?_
    refine allocateJoint_bind_eq fun j hissue => ?_
    obtain ⟨-, rfl⟩ := HandleTable.issue_eq_ok_iff.mp hissue
    dsimp only
    rw [modifyRegistry_bind, inJoints_bind]
    dsimp only [Registry.modifyWorld]
    rw [HandleTable.bind_reserve h.joints]
    rfl

theorem deleteJoint_eq (w : Handle .world) (j : Handle .joint) (s : Simulator) :
    deleteJoint w j s = (Registry.deleteJoint w j).run s := by
  refine look_bind_eq fun record hrec => ?_
  obtain ⟨⟨world, hw⟩, hslice⟩ := Registry.owned_eq_ok_iff.mp hrec
  obtain ⟨hget, rfl⟩ := HandleTable.within_eq_some_iff.mp hslice
  rw [inJoints_bind]
  simp only [HandleTable.release, HandleTable.find_of_get? hget]
  refine (changeWorld_of_get? (x := world) ?_ _).trans rfl
  exact hw

end Sim

namespace Operation

theorem map_eq_run {α β : Type} {act : Sim α} {t : Transaction α} {s : Simulator}
    (h : act s = t.run s) (f : α → β) : (f <$> act) s = (t.map f).run s := by
  simp only [Functor.map, EStateM.map, h, Transaction.run, Transaction.map]
  cases t s.registry <;> rfl

/-- In a sound registry an operation does what its transaction says. -/
theorem run_eq_transact {s : Simulator} (h : s.registry.Sound) (op : Operation) :
    op.run s = (op.transact s.config).run s := by
  unfold transact
  cases op with
  | createWorld gravity allowSleep => exact map_eq_run (Sim.createWorld_eq h ..) _
  | destroyWorld w => exact map_eq_run (Sim.destroyWorld_eq ..) _
  | worlds => rfl
  | setWorld w change => exact map_eq_run (Sim.changeWorld_eq ..) _
  | readWorld w property => exact Sim.look_map_eq ..
  | bodiesOf w => exact map_eq_run (Sim.look_look_eq ..) _
  | step w dt velocityIterations positionIterations =>
      exact map_eq_run (Sim.step_eq w dt velocityIterations positionIterations s) _
  | stepDefault w dt =>
      exact map_eq_run ((Sim.stepDefault_eq w dt s).trans (Sim.step_eq w dt _ _ s)) _
  | lastContacts w => exact map_eq_run (Sim.look_map_eq ..) _
  | createBody w kind place => exact map_eq_run (Sim.createBody_eq h ..) _
  | deleteBody w b => exact map_eq_run (Sim.deleteBody_eq ..) _
  | setBody w b change => exact map_eq_run (Sim.changeBody_eq ..) _
  | readBody w b property => exact Sim.readBody_eq ..
  | objectContacts w b => exact map_eq_run (Sim.objectContacts_eq ..) _
  | createFixture w b shape material => exact map_eq_run (Sim.createFixture_eq h ..) _
  | deleteFixture w f => exact map_eq_run (Sim.deleteFixture_eq h ..) _
  | setFixture w f change => exact map_eq_run (Sim.setFixture_eq h ..) _
  | fixtureBody w f => exact map_eq_run (Sim.look_map_eq ..) _
  | fixtureMaterial w f => exact map_eq_run (Sim.look_map_eq ..) _
  | fixtureShape w f => exact map_eq_run (Sim.fixtureShape_eq ..) _
  | fixturesOf w b => exact map_eq_run (Sim.look_look_eq ..) _
  | createJoint w a b definition => exact map_eq_run (Sim.createJoint_eq h w a b definition) _
  | createDefaultJoint w a b =>
      have hdefault : Sim.createDefaultJoint w a b s =
          Sim.createJoint w a b (.central s.config.jointStiffness s.config.jointDamping) s := rfl
      exact map_eq_run (hdefault.trans (Sim.createJoint_eq h w a b _)) _
  | deleteJoint w j => exact map_eq_run (Sim.deleteJoint_eq ..) _
  | jointBodies w j => exact map_eq_run (Sim.look_map_eq ..) _

end Operation

end RigidWorlds
