import RigidWorlds.Proofs.Confinement
import RigidWorlds.Proofs.Integrity
import RigidWorlds.Proofs.Ledger

namespace RigidWorlds

open Engine

namespace Registry

variable {r r' : Registry} {w : Handle .world}

/-- Two registries do not differ in a world and what belongs to it, nor in the handles that they
issue next. -/
structure AgreeOn (w : Handle .world) (r r' : Registry) : Prop where
  same : SameWorld w r r'
  next : ∀ k, (r'.table k).nextIndex = (r.table k).nextIndex

theorem SameWorld.find (h : SameWorld w r r') : r'.world w = r.world w := by
  unfold Registry.world HandleTable.find
  rw [h.world]

theorem SameWorld.body (h : SameWorld w r r') (b : Handle .body) : r'.body w b = r.body w b := by
  have hwithin : r'.bodies.within (·.world) w b = r.bodies.within (·.world) w b :=
    congrFun (congrArg Slice.bodies h.slice) b
  simp only [Registry.body, owned_eq, h.find, hwithin]

theorem SameWorld.fixture (h : SameWorld w r r') (f : Handle .fixture) :
    r'.fixture w f = r.fixture w f := by
  have hwithin : r'.fixtures.within (·.world) w f = r.fixtures.within (·.world) w f :=
    congrFun (congrArg Slice.fixtures h.slice) f
  simp only [Registry.fixture, owned_eq, h.find, hwithin]

theorem SameWorld.joint (h : SameWorld w r r') (j : Handle .joint) :
    r'.joint w j = r.joint w j := by
  have hwithin : r'.joints.within (·.world) w j = r.joints.within (·.world) w j :=
    congrFun (congrArg Slice.joints h.slice) j
  simp only [Registry.joint, owned_eq, h.find, hwithin]

theorem SameWorld.locateBody (h : SameWorld w r r') (b : Handle .body) :
    r'.locateBody w b = r.locateBody w b := by
  simp only [Registry.locateBody, h.body, h.find]

theorem SameWorld.locateFixture (h : SameWorld w r r') (f : Handle .fixture) :
    r'.locateFixture w f = r.locateFixture w f := by
  simp only [Registry.locateFixture, h.fixture, h.find]

theorem AgreeOn.issue (h : AgreeOn w r r') (k : Kind) :
    (r'.table k).issue = (r.table k).issue := by
  simp only [HandleTable.issue, HandleTable.next, h.next]

theorem SameWorld.bodiesOf (h : SameWorld w r r') (hs : r.Sound) (hs' : r'.Sound) :
    r'.bodiesOf w = r.bodiesOf w := by
  refine HandleTable.handlesWhere_congr hs'.bodies hs.bodies ?_
  intro b
  simp only [decide_eq_true_eq, ← slice_bodies_eq_some_iff, h.slice]

theorem Sound.attached_iff (hs : r.Sound) {b : Handle .body} {rec : BodyRecord}
    (hb : (r.slice w).bodies b = some rec) {f : Handle .fixture} {fixture : FixtureRecord} :
    r.fixtures.get? f = some fixture ∧ fixture.body = b ↔
      (r.slice w).fixtures f = some fixture ∧ fixture.body = b := by
  rw [slice_fixtures_eq_some_iff]
  constructor
  · rintro ⟨hf, rfl⟩
    obtain ⟨body, hbody, hworld⟩ :=
      hs.intact.fixtureBody ((HandleTable.get?_eq_some_iff hs.fixtures).mp hf)
    obtain ⟨hget, rfl⟩ := slice_bodies_eq_some_iff.mp hb
    obtain rfl := Option.some.inj (hbody.symm.trans hget)
    exact ⟨⟨hf, hworld.symm⟩, rfl⟩
  · rintro ⟨⟨hf, -⟩, hbody⟩
    exact ⟨hf, hbody⟩

theorem SameWorld.fixturesOf (h : SameWorld w r r') (hs : r.Sound) (hs' : r'.Sound)
    {b : Handle .body} {rec : BodyRecord} (hb : (r.slice w).bodies b = some rec) :
    r'.fixturesOf b = r.fixturesOf b := by
  have hb' : (r'.slice w).bodies b = some rec := by rw [h.slice, hb]
  refine HandleTable.handlesWhere_congr hs'.fixtures hs.fixtures ?_
  intro f
  simp only [decide_eq_true_eq, hs'.attached_iff hb', hs.attached_iff hb, h.slice]

theorem isDense_iff (ht : r.fixtures.Settled) {b : Handle .body} :
    r.isDense b = true ↔
      ∃ f fixture, (r.fixtures.get? f = some fixture ∧ fixture.body = b) ∧
        0 < fixture.material.density := by
  simp only [isDense, List.any_eq_true, Bool.and_eq_true, decide_eq_true_eq, Prod.exists,
    ← HandleTable.get?_eq_some_iff ht, and_assoc]

theorem SameWorld.isDense (h : SameWorld w r r') (hs : r.Sound) (hs' : r'.Sound)
    {b : Handle .body} {rec : BodyRecord} (hb : (r.slice w).bodies b = some rec) :
    r'.isDense b = r.isDense b := by
  have hb' : (r'.slice w).bodies b = some rec := by rw [h.slice, hb]
  rw [Bool.eq_iff_iff, isDense_iff hs'.fixtures, isDense_iff hs.fixtures]
  simp only [hs'.attached_iff hb', hs.attached_iff hb, h.slice]

theorem AgreeOn.modifyWorld (h : AgreeOn w r r') (f : World → World) :
    AgreeOn w (r.modifyWorld w f) (r'.modifyWorld w f) := by
  refine ⟨⟨?_, h.same.slice⟩, ?_⟩
  · rw [get?_modifyWorld, get?_modifyWorld, h.same.world]
  · intro k
    cases k <;> exact h.next _

theorem AgreeOn.dropWorld (h : AgreeOn w r r') (hs : r.Sound) (hs' : r'.Sound) :
    AgreeOn w (r.dropWorld w) (r'.dropWorld w) := by
  refine ⟨⟨?_, ?_⟩, ?_⟩
  · rw [get?_dropWorld, get?_dropWorld, h.same.world]
  · rw [slice_dropWorld hs.bodies hs.fixtures hs.joints,
      slice_dropWorld hs'.bodies hs'.fixtures hs'.joints]
  · intro k
    cases k <;> exact h.next _

theorem AgreeOn.handle_eq (h : AgreeOn w r r') (k : Kind) : (r'.table k).next = (r.table k).next :=
  congrArg Handle.mk (h.next k)

theorem AgreeOn.addBody (rec : BodyRecord) (world : World) (hs : r.Sound) (hs' : r'.Sound)
    (h : AgreeOn rec.world r r') :
    AgreeOn rec.world (r.addBody rec world) (r'.addBody rec world) := by
  have hnext : r'.bodies.next = r.bodies.next := h.handle_eq .body
  refine ⟨⟨(h.modifyWorld fun _ => world).same.world, ?_⟩, ?_⟩
  · rw [slice_addBody hs.bodies, slice_addBody hs'.bodies, h.same.slice, hnext]
  · intro k
    cases k with
    | body => exact congrArg (· + 1) (h.next .body)
    | world | fixture | joint => exact h.next _

theorem AgreeOn.addFixture (rec : FixtureRecord) (world : World) (hs : r.Sound) (hs' : r'.Sound)
    (h : AgreeOn rec.world r r') :
    AgreeOn rec.world (r.addFixture rec world) (r'.addFixture rec world) := by
  have hnext : r'.fixtures.next = r.fixtures.next := h.handle_eq .fixture
  refine ⟨⟨(h.modifyWorld fun _ => world).same.world, ?_⟩, ?_⟩
  · rw [slice_addFixture hs.fixtures, slice_addFixture hs'.fixtures, h.same.slice, hnext]
  · intro k
    cases k with
    | fixture => exact congrArg (· + 1) (h.next .fixture)
    | world | body | joint => exact h.next _

theorem AgreeOn.addJoint (rec : JointRecord) (world : World) (hs : r.Sound) (hs' : r'.Sound)
    (h : AgreeOn rec.world r r') :
    AgreeOn rec.world (r.addJoint rec world) (r'.addJoint rec world) := by
  have hnext : r'.joints.next = r.joints.next := h.handle_eq .joint
  refine ⟨⟨(h.modifyWorld fun _ => world).same.world, ?_⟩, ?_⟩
  · rw [slice_addJoint hs.joints, slice_addJoint hs'.joints, h.same.slice, hnext]
  · intro k
    cases k with
    | joint => exact congrArg (· + 1) (h.next .joint)
    | world | body | fixture => exact h.next _

theorem AgreeOn.dropBody {rec : BodyRecord} (h : AgreeOn rec.world r r') (hs : r.Sound)
    (hs' : r'.Sound) (b : Handle .body) :
    AgreeOn rec.world (r.dropBody b rec) (r'.dropBody b rec) := by
  refine ⟨⟨(h.modifyWorld (·.removeBody rec.native)).same.world, ?_⟩, ?_⟩
  · rw [slice_dropBody hs.fixtures hs.joints, slice_dropBody hs'.fixtures hs'.joints,
      h.same.slice]
  · intro k
    cases k <;> exact h.next _

theorem AgreeOn.dropFixture {rec : FixtureRecord} (h : AgreeOn rec.world r r')
    (f : Handle .fixture) : AgreeOn rec.world (r.dropFixture f rec) (r'.dropFixture f rec) := by
  refine ⟨⟨(h.modifyWorld (·.removeCollider rec.native)).same.world, ?_⟩, ?_⟩
  · rw [slice_dropFixture, slice_dropFixture, h.same.slice]
  · intro k
    cases k <;> exact h.next _

theorem AgreeOn.dropJoint {rec : JointRecord} (h : AgreeOn rec.world r r') (j : Handle .joint) :
    AgreeOn rec.world (r.dropJoint j rec) (r'.dropJoint j rec) := by
  refine ⟨⟨(h.modifyWorld (·.removeSpring rec.native)).same.world, ?_⟩, ?_⟩
  · rw [slice_dropJoint, slice_dropJoint, h.same.slice]
  · intro k
    cases k <;> exact h.next _

theorem AgreeOn.changeMaterial (h : AgreeOn w r r') (f : Handle .fixture)
    (change : Material → Material) :
    AgreeOn w (r.changeMaterial f change) (r'.changeMaterial f change) := by
  refine ⟨⟨h.same.world, ?_⟩, ?_⟩
  · rw [slice_changeMaterial, slice_changeMaterial, h.same.slice]
  · intro k
    cases k <;> exact h.next _

theorem AgreeOn.resetMass {rec : BodyRecord} {b : Handle .body} (h : AgreeOn rec.world r r')
    (hs : r.Sound) (hs' : r'.Sound) (hb : (r.slice rec.world).bodies b = some rec) :
    AgreeOn rec.world (r.resetMass b rec) (r'.resetMass b rec) := by
  simp only [Registry.resetMass, h.same.isDense hs hs' hb]
  exact h.modifyWorld _

/-- Two results are the same refusal, or the same answer with registries that are related. -/
inductive Alike {α : Type} (R : Registry → Registry → Prop) :
    Except Error (α × Registry) → Except Error (α × Registry) → Prop
  | refused (e : Error) : Alike R (.error e) (.error e)
  | answered (a : α) {r r' : Registry} (h : R r r') : Alike R (.ok (a, r)) (.ok (a, r'))

section

variable {R : Registry → Registry → Prop}

theorem Alike.bind {α β : Type} {x x' : Except Error β} {k k' : β → Except Error (α × Registry)}
    (hx : x' = x) (hk : ∀ b, x = .ok b → Alike R (k b) (k' b)) :
    Alike R (x >>= k) (x' >>= k') := by
  subst hx
  cases x' with
  | error e => exact .refused e
  | ok b => exact hk b rfl

theorem Alike.map {α β : Type} {t : Transaction α} (h : Alike R (t r) (t r')) (f : α → β) :
    Alike R (t.map f r) (t.map f r') := by
  unfold Transaction.map
  generalize t r = x, t r' = x' at h
  cases h with
  | refused e => exact .refused e
  | answered a h => exact .answered (f a) h

theorem Alike.read {α : Type} {f : Registry → Except Error α} (h : R r r') (hf : f r' = f r) :
    Alike R (Transaction.read f r) (Transaction.read f r') :=
  Alike.bind hf fun a _ => .answered a h

end

theorem AgreeOn.destroyWorld (h : AgreeOn w r r') (hs : r.Sound) (hs' : r'.Sound) :
    Alike (AgreeOn w) (destroyWorld w r) (destroyWorld w r') :=
  Alike.bind h.same.find fun _ _ => .answered () (h.dropWorld hs hs')

theorem AgreeOn.changeWorld (h : AgreeOn w r r') (f : World → World) :
    Alike (AgreeOn w) (changeWorld w f r) (changeWorld w f r') :=
  Alike.bind h.same.find fun _ _ => .answered () (h.modifyWorld f)

theorem AgreeOn.step (h : AgreeOn w r r') (dt : Float32)
    (velocityIterations positionIterations : UInt32) :
    Alike (AgreeOn w) (step w dt velocityIterations positionIterations r)
      (step w dt velocityIterations positionIterations r') := by
  refine Alike.bind h.same.find fun world _ => ?_
  refine Alike.bind rfl fun dt _ => ?_
  split
  · exact .answered _ (h.modifyWorld _)
  · exact .answered _ h

theorem AgreeOn.changeBody (h : AgreeOn w r r') (b : Handle .body) (f : Body → Body) :
    Alike (AgreeOn w) (changeBody w b f r) (changeBody w b f r') :=
  Alike.bind (h.same.locateBody b) fun _ _ => .answered () (h.modifyWorld _)

theorem AgreeOn.createBody (h : AgreeOn w r r') (hs : r.Sound) (hs' : r'.Sound) (kind : BodyKind)
    (place : Vec2) :
    Alike (AgreeOn w) (createBody w kind place r) (createBody w kind place r') := by
  refine Alike.bind h.same.find fun world hw => ?_
  refine Alike.bind (h.issue .body) fun b hissue => ?_
  have hw' := h.same.find.trans hw
  have hissue' := (h.issue .body).trans hissue
  have hsound := hs.addBody (world_eq_ok_iff.mp hw) hissue kind place
  have hsound' := hs'.addBody (world_eq_ok_iff.mp hw') hissue' kind place
  have hadd := AgreeOn.addBody ⟨w, (world.insertBody kind place b.tag).1⟩
    (world.insertBody kind place b.tag).2 hs hs' h
  obtain ⟨-, rfl⟩ := HandleTable.issue_eq_ok_iff.mp hissue
  exact .answered _ (hadd.resetMass hsound hsound' (Sim.body_addBody hs.bodies _ _))

theorem AgreeOn.deleteBody (h : AgreeOn w r r') (hs : r.Sound) (hs' : r'.Sound)
    (b : Handle .body) : Alike (AgreeOn w) (deleteBody w b r) (deleteBody w b r') := by
  refine Alike.bind (h.same.body b) fun rec hrec => ?_
  obtain ⟨-, rfl⟩ := slice_bodies_eq_some_iff.mp (hs.body_eq_ok_iff.mp hrec)
  exact .answered () (h.dropBody hs hs' b)

theorem AgreeOn.createFixture (h : AgreeOn w r r') (hs : r.Sound) (hs' : r'.Sound)
    (b : Handle .body) (shape : ShapeDescriptor) (material : Material) :
    Alike (AgreeOn w) (createFixture w b shape material r)
      (createFixture w b shape material r') := by
  refine Alike.bind rfl fun solid _ => ?_
  refine Alike.bind rfl fun _ _ => ?_
  refine Alike.bind (h.same.body b) fun rec hrec => ?_
  refine Alike.bind h.same.find fun world hw => ?_
  refine Alike.bind (h.issue .fixture) fun f hissue => ?_
  have hw' := h.same.find.trans hw
  have hissue' := (h.issue .fixture).trans hissue
  have hslice := hs.body_eq_ok_iff.mp hrec
  have hslice' : (r'.slice w).bodies b = some rec := by rw [h.same.slice, hslice]
  have hsound := hs.addFixture (world_eq_ok_iff.mp hw) ⟨rec, hslice, rfl⟩ hissue solid material
  have hsound' :=
    hs'.addFixture (world_eq_ok_iff.mp hw') ⟨rec, hslice', rfl⟩ hissue' solid material
  obtain ⟨-, rfl⟩ := slice_bodies_eq_some_iff.mp hslice
  have hadd := AgreeOn.addFixture
    ⟨rec.world, b, (world.insertCollider solid material f.tag rec.native).1, material⟩
    (world.insertCollider solid material f.tag rec.native).2 hs hs' h
  exact .answered f (hadd.resetMass hsound hsound' hslice)

theorem AgreeOn.deleteFixture (h : AgreeOn w r r') (hs : r.Sound) (hs' : r'.Sound)
    (f : Handle .fixture) : Alike (AgreeOn w) (deleteFixture w f r) (deleteFixture w f r') := by
  refine Alike.bind (h.same.fixture f) fun rec hrec => ?_
  refine Alike.bind (h.same.body rec.body) fun body hbody => ?_
  have hslice := hs.fixture_eq_ok_iff.mp hrec
  have hslice' : (r'.slice w).fixtures f = some rec := by rw [h.same.slice, hslice]
  have hbody := hs.body_eq_ok_iff.mp hbody
  obtain ⟨world, hw⟩ := hs.world_of_fixture hslice
  obtain ⟨world', hw'⟩ := hs'.world_of_fixture hslice'
  have hsound := hs.dropFixture hw hslice
  have hsound' := hs'.dropFixture hw' hslice'
  obtain ⟨-, rfl⟩ := slice_fixtures_eq_some_iff.mp hslice
  have hdrop := h.dropFixture f
  obtain ⟨-, hworld⟩ := slice_bodies_eq_some_iff.mp hbody
  rw [← hworld] at hdrop hbody ⊢
  exact .answered () (hdrop.resetMass hsound hsound' hbody)

theorem AgreeOn.setFixture (h : AgreeOn w r r') (hs : r.Sound) (hs' : r'.Sound)
    (f : Handle .fixture) (change : FixtureChange) :
    Alike (AgreeOn w) (setFixture w f change r) (setFixture w f change r') := by
  refine Alike.bind rfl fun _ _ => ?_
  refine Alike.bind (h.same.locateFixture f) fun located _ => ?_
  obtain ⟨rec, collider⟩ := located
  refine Alike.bind (h.same.body rec.body) fun body hbody => ?_
  have hchanged := (h.modifyWorld (·.setMaterial rec.native
    (change.apply collider.material))).changeMaterial f change.apply
  have hcensus := fun world : World =>
    world.census_setMaterial rec.native (change.apply collider.material)
  have hsound := (hs.modifyWorld w hcensus).changeMaterial f change.apply
  have hsound' := (hs'.modifyWorld w hcensus).changeMaterial f change.apply
  have hbody := hs.body_eq_ok_iff.mp hbody
  refine .answered () ?_
  split
  · obtain ⟨-, rfl⟩ := slice_bodies_eq_some_iff.mp hbody
    exact hchanged.resetMass hsound hsound' hbody
  · exact hchanged

theorem AgreeOn.createJoint (h : AgreeOn w r r') (hs : r.Sound) (hs' : r'.Sound)
    (a b : Handle .body) (d : JointDefinition) :
    Alike (AgreeOn w) (createJoint w a b d r) (createJoint w a b d r') := by
  refine Alike.bind (h.same.body a) fun recA _ => ?_
  refine Alike.bind (h.same.body b) fun recB _ => ?_
  split
  · exact .refused _
  · refine Alike.bind rfl fun _ _ => ?_
    refine Alike.bind (h.same.locateBody a) fun _ _ => ?_
    refine Alike.bind (h.same.locateBody b) fun _ _ => ?_
    refine Alike.bind (h.issue .joint) fun j _ => ?_
    exact .answered j (AgreeOn.addJoint ⟨w, a, b, _⟩ _ hs hs' h)

theorem AgreeOn.deleteJoint (h : AgreeOn w r r') (hs : r.Sound) (j : Handle .joint) :
    Alike (AgreeOn w) (deleteJoint w j r) (deleteJoint w j r') := by
  refine Alike.bind (h.same.joint j) fun rec hrec => ?_
  obtain ⟨-, rfl⟩ := slice_joints_eq_some_iff.mp (hs.joint_eq_ok_iff.mp hrec)
  exact .answered () (h.dropJoint j)

end Registry

namespace Operation

open Registry

variable {config : Config} {op : Operation} {w : Handle .world}

theorem alike_transact {r r' : Registry} (h : AgreeOn w r r') (hs : r.Sound) (hs' : r'.Sound)
    (hw : op.world? = some w) :
    Alike (AgreeOn w) (op.transact config r) (op.transact config r') := by
  have hreads : ∀ {α : Type} (f : World → α),
      Alike (AgreeOn w) (Registry.readWorld w f r) (Registry.readWorld w f r') :=
    fun f => Alike.read h (by rw [h.same.find])
  unfold transact
  cases op with
  | createWorld | worlds => cases hw
  | destroyWorld =>
      cases hw
      exact (h.destroyWorld hs hs').map _
  | setWorld w change =>
      cases hw
      exact (h.changeWorld _).map _
  | readWorld w property =>
      cases hw
      exact hreads _
  | lastContacts =>
      cases hw
      exact (hreads _).map _
  | bodiesOf =>
      cases hw
      refine (Alike.read h ?_).map _
      rw [h.same.find, h.same.bodiesOf hs hs']
  | step | stepDefault =>
      cases hw
      exact (h.step ..).map _
  | createBody =>
      cases hw
      exact (h.createBody hs hs' ..).map _
  | deleteBody =>
      cases hw
      exact (h.deleteBody hs hs' _).map _
  | setBody =>
      cases hw
      exact (h.changeBody ..).map _
  | readBody =>
      cases hw
      refine Alike.read h ?_
      rw [h.same.locateBody]
  | objectContacts =>
      cases hw
      refine Alike.map (Alike.read h ?_) _
      rw [h.same.locateBody]
  | createFixture =>
      cases hw
      exact (h.createFixture hs hs' ..).map _
  | deleteFixture =>
      cases hw
      exact (h.deleteFixture hs hs' _).map _
  | setFixture =>
      cases hw
      exact (h.setFixture hs hs' ..).map _
  | fixtureBody | fixtureMaterial =>
      cases hw
      refine (Alike.read h ?_).map _
      rw [h.same.fixture]
  | fixtureShape =>
      cases hw
      refine (Alike.read h ?_).map _
      rw [h.same.locateFixture]
  | fixturesOf w b =>
      cases hw
      refine (Alike.read h ?_).map _
      rw [h.same.body]
      cases hb : r.body w b with
      | error e => rfl
      | ok rec => rw [h.same.fixturesOf hs hs' (hs.body_eq_ok_iff.mp hb)]
  | createJoint | createDefaultJoint =>
      cases hw
      exact (h.createJoint hs hs' ..).map _
  | deleteJoint =>
      cases hw
      exact (h.deleteJoint hs _).map _
  | jointBodies =>
      cases hw
      refine (Alike.read h ?_).map _
      rw [h.same.joint]

end Operation

namespace Simulator

/-- Two simulators are configured alike, and their registries agree on a world. -/
structure AgreeOn (w : Handle .world) (s t : Simulator) : Prop where
  config : t.config = s.config
  registry : Registry.AgreeOn w s.registry t.registry

theorem AgreeOn.perform {w : Handle .world} {s t : Simulator} (h : AgreeOn w s t)
    (hs : s.registry.Sound) (ht : t.registry.Sound) {op : Operation} (hw : op.world? = some w) :
    (op.perform t).1 = (op.perform s).1 ∧ AgreeOn w (op.perform s).2 (op.perform t).2 := by
  have halike : Registry.Alike (Registry.AgreeOn w) (op.transact s.config s.registry)
      (op.transact s.config t.registry) := Operation.alike_transact h.registry hs ht hw
  rw [Operation.perform_eq hs, Operation.perform_eq ht, h.config]
  generalize op.transact s.config s.registry = x at halike ⊢
  generalize op.transact s.config t.registry = y at halike ⊢
  cases halike with
  | refused e => exact ⟨rfl, h⟩
  | answered a hafter => exact ⟨rfl, rfl, hafter⟩

end Simulator

/-- In every simulator that operations lead to, an operation on a world leaves all other worlds and
what belongs to them alone; and of two such simulators that agree on a world, whatever else they
hold, both answer an operation on it alike and agree on it afterwards. -/
theorem isolated_of_reachable {s : Simulator} (h : s.Reachable) {op : Operation}
    {w : Handle .world} (hw : op.world? = some w) :
    Registry.Confined w s.registry (op.perform s).2.registry ∧
      ∀ t : Simulator, t.Reachable → Simulator.AgreeOn w s t →
        (op.perform t).1 = (op.perform s).1 ∧
          Simulator.AgreeOn w (op.perform s).2 (op.perform t).2 := by
  refine ⟨Operation.confined_perform h.sound hw, ?_⟩
  intro t ht hagree
  exact hagree.perform h.sound ht.sound hw

/-- Two worlds with a body in each of them. -/
def Simulator.pairOfWorlds : Simulator :=
  (start .initial).performAll [
    .createWorld ⟨0, -10⟩ true,
    .createWorld ⟨0, -10⟩ true,
    .createBody ⟨0⟩ .dynamic ⟨0, 0⟩,
    .createBody ⟨1⟩ .dynamic ⟨0, 0⟩]

/-- What is asked of the first world does not show whether the second one has been destroyed, not
even with the handle of a body in there. -/
theorem isolated_sample :
    let s := Simulator.pairOfWorlds
    let t := ((Operation.destroyWorld ⟨1⟩).perform s).2
    let op := Operation.deleteBody ⟨0⟩ ⟨1⟩
    (s.registry.worlds.contains ⟨1⟩ = true ∧ t.registry.worlds.contains ⟨1⟩ = false) ∧
      Registry.Confined ⟨0⟩ s.registry (op.perform s).2.registry ∧ Simulator.AgreeOn ⟨0⟩ s t ∧
        (op.perform t).1 = (op.perform s).1 ∧
          Simulator.AgreeOn ⟨0⟩ (op.perform s).2 (op.perform t).2 := by
  intro s t op
  have hs : s.Reachable := (Simulator.Reachable.start _).performAll _
  have ht : t.Reachable := hs.perform _
  have hdestroy : Registry.Confined ⟨1⟩ s.registry t.registry :=
    (isolated_of_reachable hs rfl).1
  have hagree : Simulator.AgreeOn ⟨0⟩ s t := by
    refine ⟨rfl, hdestroy ⟨0⟩ (by decide), ?_⟩
    intro k
    cases k <;> decide +kernel
  have hop : op.world? = some ⟨0⟩ := rfl
  obtain ⟨hconfined, halike⟩ := isolated_of_reachable hs hop
  exact ⟨by decide +kernel, hconfined, hagree, halike t ht hagree⟩

end RigidWorlds
