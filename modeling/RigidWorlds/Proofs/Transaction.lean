import RigidWorlds.Operation
import RigidWorlds.Proofs.Result
import RigidWorlds.Proofs.Soundness
import RigidWorlds.Proofs.Views

/-!
Operations as transactions: functions of a registry that answer with a new registry or are refused.
What an operation does step by step is, in a sound registry, one transaction, and every transaction
keeps a registry sound.
-/

namespace RigidWorlds

open Engine

/-- A change of a registry that is made as a whole or not at all. -/
abbrev Transaction (α : Type) := Registry → Except Error (α × Registry)

namespace Transaction

variable {α β : Type}

def read (f : Registry → Except Error α) : Transaction α := fun r => do
  let a ← f r
  return (a, r)

def map (f : α → β) (t : Transaction α) : Transaction β := fun r => do
  let (a, r) ← t r
  return (f a, r)

def run (t : Transaction α) : Sim α := fun s =>
  match t s.registry with
  | .ok (a, r) => .ok a { s with registry := r }
  | .error e => .error e s

end Transaction

theorem BodyChange.identity_apply (change : BodyChange) (b : Body) :
    (change.apply b).identity = b.identity :=
  view_apply (fun _ _ _ _ _ _ _ => rfl) change b

theorem WorldChange.census_apply (change : WorldChange) (world : World) :
    (change.apply world).census = world.census := by
  cases change with
  | gravity gravity => rfl
  | continuous enabled => exact World.census_setContinuous world enabled
  | clearForces => exact World.census_clearForces world

namespace Registry

def createWorld (gravity : Vec2) (settings : WorldSettings) : Transaction (Handle .world) :=
  fun r => do
    let w ← r.worlds.issue
    return (w, r.addWorld (World.create gravity settings))

def destroyWorld (w : Handle .world) : Transaction Unit := fun r => do
  let _ ← r.world w
  return ((), r.dropWorld w)

def changeWorld (w : Handle .world) (f : World → World) : Transaction Unit := fun r => do
  let _ ← r.world w
  return ((), r.modifyWorld w f)

def readWorld (w : Handle .world) (f : World → α) : Transaction α :=
  .read fun r => (r.world w).map f

def step (w : Handle .world) (dt : Float32) (velocityIterations positionIterations : UInt32) :
    Transaction Snapshot := fun r => do
  let world ← r.world w
  let dt ← checkNonNegative .timeStep dt
  if 0 < dt then
    let world := world.advance dt velocityIterations positionIterations
    return (.capture world, r.modifyWorld w (·.advance dt velocityIterations positionIterations))
  else
    return (.capture world, r)

/-- The world of a body, its key and the body itself. -/
def locateBody (r : Registry) (w : Handle .world) (b : Handle .body) :
    Except Error (World × Key × Body) := do
  let record ← r.body w b
  let world ← r.world w
  match world.bodies.get? record.native with
  | some body => return (world, record.native, body)
  | none => throw (.notFound b)

def locateFixture (r : Registry) (w : Handle .world) (f : Handle .fixture) :
    Except Error (FixtureRecord × Collider) := do
  let record ← r.fixture w f
  let world ← r.world w
  match world.colliders.get? record.native with
  | some collider => return (record, collider)
  | none => throw (.notFound f)

def readBody (w : Handle .world) (b : Handle .body) (f : World → Body → α) : Transaction α :=
  .read fun r => (r.locateBody w b).map fun (world, _, body) => f world body

def changeBody (w : Handle .world) (b : Handle .body) (f : Body → Body) : Transaction Unit :=
  fun r => do
    let (_, key, _) ← r.locateBody w b
    return ((), r.modifyWorld w (·.changeBody key f))

def resetMass (r : Registry) (b : Handle .body) (rec : BodyRecord) : Registry :=
  r.modifyWorld rec.world (·.changeBody rec.native fun body =>
    if body.isDynamic then body.setAdditionalMass (if r.isDense b then 0 else 1) else body)

def createBody (w : Handle .world) (kind : BodyKind) (place : Vec2) :
    Transaction (Handle .body) := fun r => do
  let world ← r.world w
  let b ← r.bodies.issue
  let (native, world) := world.insertBody kind place b.tag
  let rec' : BodyRecord := ⟨w, native⟩
  return (b, (r.addBody rec' world).resetMass b rec')

def deleteBody (w : Handle .world) (b : Handle .body) : Transaction Unit := fun r => do
  let record ← r.body w b
  return ((), r.dropBody b record)

def createFixture (w : Handle .world) (b : Handle .body) (shape : ShapeDescriptor)
    (material : Material) : Transaction (Handle .fixture) := fun r => do
  let solid ← shape.build
  material.check
  let record ← r.body w b
  let world ← r.world w
  let f ← r.fixtures.issue
  let (native, world) := world.insertCollider solid material f.tag record.native
  return (f, (r.addFixture ⟨w, b, native, material⟩ world).resetMass b record)

def deleteFixture (w : Handle .world) (f : Handle .fixture) : Transaction Unit := fun r => do
  let record ← r.fixture w f
  let body ← r.body w record.body
  return ((), (r.dropFixture f record).resetMass record.body body)

def setFixture (w : Handle .world) (f : Handle .fixture) (change : FixtureChange) :
    Transaction Unit := fun r => do
  change.check
  let (record, collider) ← r.locateFixture w f
  let body ← r.body w record.body
  let material := change.apply collider.material
  let changed := (r.modifyWorld w (·.setMaterial record.native material)).changeMaterial f
    change.apply
  return ((), if change.changesMass then changed.resetMass record.body body else changed)

def spring (d : JointDefinition) (recordA recordB : BodyRecord) (bodyA bodyB : Body) : Spring where
  first := recordA.native
  second := recordB.native
  firstAnchor := d.firstAnchor
  secondAnchor := d.secondAnchor
  length := d.restLength bodyA bodyB
  stiffness := d.stiffness
  damping := d.damping
  enabled := true

def createJoint (w : Handle .world) (a b : Handle .body) (d : JointDefinition) :
    Transaction (Handle .joint) := fun r => do
  let recordA ← r.body w a
  let recordB ← r.body w b
  if a = b then throw (.invalidParameter (.selfJoint a))
  else
    d.check
    let (world, _, bodyA) ← r.locateBody w a
    let (_, _, bodyB) ← r.locateBody w b
    let j ← r.joints.issue
    let (native, world) := world.insertSpring (spring d recordA recordB bodyA bodyB)
    return (j, r.addJoint ⟨w, a, b, native⟩ world)

def deleteJoint (w : Handle .world) (j : Handle .joint) : Transaction Unit := fun r => do
  let record ← r.joint w j
  return ((), r.dropJoint j record)

end Registry

def Operation.transact (config : Config) : Operation → Transaction Outcome
  | createWorld gravity allowSleep =>
      .map .handle (Registry.createWorld gravity (config.newWorldSettings allowSleep))
  | destroyWorld w => .map (fun _ => .done) (Registry.destroyWorld w)
  | worlds => .map .handles (.read fun r => .ok r.worlds.handles)
  | setWorld w change => .map (fun _ => .done) (Registry.changeWorld w change.apply)
  | readWorld w property => Registry.readWorld w property.value
  | bodiesOf w => .map .handles (.read fun r => (r.world w).map fun _ => r.bodiesOf w)
  | step w dt velocityIterations positionIterations =>
      .map .snapshot (Registry.step w dt velocityIterations positionIterations)
  | stepDefault w dt =>
      .map .snapshot (Registry.step w dt config.velocityIterations config.positionIterations)
  | lastContacts w => .map .contacts (Registry.readWorld w (·.contactList))
  | createBody w kind place => .map .handle (Registry.createBody w kind place)
  | deleteBody w b => .map (fun _ => .done) (Registry.deleteBody w b)
  | setBody w b change => .map (fun _ => .done) (Registry.changeBody w b change.apply)
  | readBody w b property => Registry.readBody w b fun _ body => property.value body
  | objectContacts w b => .map .handles (Registry.readBody w b World.neighbors)
  | createFixture w b shape material =>
      .map .handle (Registry.createFixture w b shape material)
  | deleteFixture w f => .map (fun _ => .done) (Registry.deleteFixture w f)
  | setFixture w f change => .map (fun _ => .done) (Registry.setFixture w f change)
  | fixtureBody w f => .map .handle (.read fun r => (r.fixture w f).map (·.body))
  | fixtureMaterial w f => .map .material (.read fun r => (r.fixture w f).map (·.material))
  | fixtureShape w f => .map .solid (.read fun r => (r.locateFixture w f).map (·.2.solid))
  | fixturesOf w b => .map .handles (.read fun r => (r.body w b).map fun _ => r.fixturesOf b)
  | createJoint w a b definition => .map .handle (Registry.createJoint w a b definition)
  | createDefaultJoint w a b =>
      .map .handle
        (Registry.createJoint w a b (.central config.jointStiffness config.jointDamping))
  | deleteJoint w j => .map (fun _ => .done) (Registry.deleteJoint w j)
  | jointBodies w j =>
      .map (fun (a, b) => .joined a b)
        (.read fun r => (r.joint w j).map fun j => (j.first, j.second))

theorem Transaction.map_eq_ok {α β : Type} {f : α → β} {t : Transaction α} {r r' : Registry}
    {b : β} (h : t.map f r = .ok (b, r')) : ∃ a, t r = .ok (a, r') ∧ b = f a := by
  simp only [Transaction.map, bind_eq_ok_iff, return_eq_ok_iff] at h
  obtain ⟨⟨a, r'⟩, ha, rfl, rfl⟩ := h
  exact ⟨a, ha, rfl⟩

namespace Registry

variable {r r' : Registry} {w : Handle .world}

theorem checkNonNegative_eq_ok {quantity : Quantity} {x y : Float32}
    (h : checkNonNegative quantity x = .ok y) : y = x := by
  unfold checkNonNegative at h
  split at h
  · exact (Except.ok.inj h).symm
  · cases h

theorem createWorld_eq_ok {gravity : Vec2} {settings : WorldSettings}
    (h : createWorld gravity settings r = .ok (w, r')) :
    r.worlds.issue = .ok w ∧ r' = r.addWorld (World.create gravity settings) := by
  simp only [createWorld, bind_eq_ok_iff, return_eq_ok_iff] at h
  obtain ⟨w, hissue, rfl, rfl⟩ := h
  exact ⟨hissue, rfl⟩

theorem destroyWorld_eq_ok {u : Unit} (h : destroyWorld w r = .ok (u, r')) :
    (∃ world, r.worlds.get? w = some world) ∧ r' = r.dropWorld w := by
  simp only [destroyWorld, bind_eq_ok_iff, return_eq_ok_iff] at h
  obtain ⟨world, hw, -, rfl⟩ := h
  exact ⟨⟨world, world_eq_ok_iff.mp hw⟩, rfl⟩

theorem changeWorld_eq_ok {f : World → World} {u : Unit}
    (h : changeWorld w f r = .ok (u, r')) :
    (∃ world, r.worlds.get? w = some world) ∧ r' = r.modifyWorld w f := by
  simp only [changeWorld, bind_eq_ok_iff, return_eq_ok_iff] at h
  obtain ⟨world, hw, -, rfl⟩ := h
  exact ⟨⟨world, world_eq_ok_iff.mp hw⟩, rfl⟩

theorem read_eq_ok {α : Type} {f : Registry → Except Error α} {a : α}
    (h : Transaction.read f r = .ok (a, r')) : f r = .ok a ∧ r' = r := by
  simp only [Transaction.read, bind_eq_ok_iff, return_eq_ok_iff] at h
  obtain ⟨a, ha, rfl, rfl⟩ := h
  exact ⟨ha, rfl⟩

theorem step_cases {dt : Float32} {velocityIterations positionIterations : UInt32}
    {snapshot : Snapshot}
    (h : step w dt velocityIterations positionIterations r = .ok (snapshot, r')) :
    ∃ world, r.worlds.get? w = some world ∧
      ((0 < dt ∧ snapshot = .capture (world.advance dt velocityIterations positionIterations) ∧
          r' = r.modifyWorld w (·.advance dt velocityIterations positionIterations)) ∨
        (¬ 0 < dt ∧ snapshot = .capture world ∧ r' = r)) := by
  simp only [step, bind_eq_ok_iff] at h
  obtain ⟨world, hw, dt', hdt, h⟩ := h
  obtain rfl := checkNonNegative_eq_ok hdt
  refine ⟨world, world_eq_ok_iff.mp hw, ?_⟩
  split at h
  · rename_i hlt
    obtain ⟨rfl, rfl⟩ := return_eq_ok_iff.mp h
    exact .inl ⟨hlt, rfl, rfl⟩
  · rename_i hidle
    obtain ⟨rfl, rfl⟩ := return_eq_ok_iff.mp h
    exact .inr ⟨hidle, rfl, rfl⟩

theorem step_eq_ok {dt : Float32} {velocityIterations positionIterations : UInt32}
    {snapshot : Snapshot}
    (h : step w dt velocityIterations positionIterations r = .ok (snapshot, r')) :
    ∃ world, r'.worlds.get? w = some world ∧ snapshot = .capture world ∧
      (r' = r ∨ r' = r.modifyWorld w (·.advance dt velocityIterations positionIterations)) := by
  obtain ⟨world, hw, ⟨-, rfl, rfl⟩ | ⟨-, rfl, rfl⟩⟩ := step_cases h
  · exact ⟨_, get?_modifyWorld_self hw _, rfl, .inr rfl⟩
  · exact ⟨world, hw, rfl, .inl rfl⟩

theorem locateBody_eq_ok {b : Handle .body} {world : World} {key : Key} {body : Body}
    (h : r.locateBody w b = .ok (world, key, body)) :
    ∃ rec, r.body w b = .ok rec ∧ r.worlds.get? w = some world ∧ rec.native = key ∧
      world.bodies.get? key = some body := by
  simp only [locateBody, bind_eq_ok_iff] at h
  obtain ⟨rec, hrec, found, hw, h⟩ := h
  split at h
  · rename_i hbody
    obtain ⟨rfl, rfl, rfl⟩ := by simpa [return_eq_ok_iff] using h
    exact ⟨rec, hrec, world_eq_ok_iff.mp hw, rfl, hbody⟩
  · cases h

theorem locateFixture_eq_ok {f : Handle .fixture} {rec : FixtureRecord} {collider : Collider}
    (h : r.locateFixture w f = .ok (rec, collider)) :
    ∃ world, r.fixture w f = .ok rec ∧ r.worlds.get? w = some world ∧
      world.colliders.get? rec.native = some collider := by
  simp only [locateFixture, bind_eq_ok_iff] at h
  obtain ⟨found, hrec, world, hw, h⟩ := h
  split at h
  · rename_i hcollider
    obtain ⟨rfl, rfl⟩ := return_eq_ok_iff.mp h
    exact ⟨world, hrec, world_eq_ok_iff.mp hw, hcollider⟩
  · cases h

theorem changeBody_eq_ok {b : Handle .body} {f : Body → Body} {u : Unit}
    (h : changeBody w b f r = .ok (u, r')) :
    ∃ rec, r.body w b = .ok rec ∧ r' = r.modifyWorld w (·.changeBody rec.native f) := by
  simp only [changeBody, bind_eq_ok_iff, return_eq_ok_iff] at h
  obtain ⟨⟨world, key, body⟩, hlocate, -, rfl⟩ := h
  obtain ⟨rec, hrec, -, rfl, -⟩ := locateBody_eq_ok hlocate
  exact ⟨rec, hrec, rfl⟩

theorem createBody_eq_ok {kind : BodyKind} {place : Vec2} {b : Handle .body}
    (h : createBody w kind place r = .ok (b, r')) :
    ∃ world native, r.worlds.get? w = some world ∧ r.bodies.issue = .ok b ∧
      native = (world.insertBody kind place b.tag).1 ∧
      r' = (r.addBody ⟨w, native⟩ (world.insertBody kind place b.tag).2).resetMass b
        ⟨w, native⟩ := by
  simp only [createBody, bind_eq_ok_iff, return_eq_ok_iff] at h
  obtain ⟨world, hw, b, hissue, rfl, rfl⟩ := h
  exact ⟨world, _, world_eq_ok_iff.mp hw, hissue, rfl, rfl⟩

theorem deleteBody_eq_ok {b : Handle .body} {u : Unit} (h : deleteBody w b r = .ok (u, r')) :
    ∃ rec, r.body w b = .ok rec ∧ r' = r.dropBody b rec := by
  simp only [deleteBody, bind_eq_ok_iff, return_eq_ok_iff] at h
  obtain ⟨rec, hrec, -, rfl⟩ := h
  exact ⟨rec, hrec, rfl⟩

theorem createFixture_eq_ok {b : Handle .body} {shape : ShapeDescriptor} {material : Material}
    {f : Handle .fixture} (h : createFixture w b shape material r = .ok (f, r')) :
    ∃ solid rec world native, shape.build = .ok solid ∧ r.body w b = .ok rec ∧
      r.worlds.get? w = some world ∧ r.fixtures.issue = .ok f ∧
      native = (world.insertCollider solid material f.tag rec.native).1 ∧
      r' = (r.addFixture ⟨w, b, native, material⟩
        (world.insertCollider solid material f.tag rec.native).2).resetMass b rec := by
  simp only [createFixture, bind_eq_ok_iff, return_eq_ok_iff] at h
  obtain ⟨solid, hsolid, -, -, rec, hrec, world, hw, f, hissue, rfl, rfl⟩ := h
  exact ⟨solid, rec, world, _, hsolid, hrec, world_eq_ok_iff.mp hw, hissue, rfl, rfl⟩

theorem deleteFixture_eq_ok {f : Handle .fixture} {u : Unit}
    (h : deleteFixture w f r = .ok (u, r')) :
    ∃ rec body, r.fixture w f = .ok rec ∧ r.body w rec.body = .ok body ∧
      r' = (r.dropFixture f rec).resetMass rec.body body := by
  simp only [deleteFixture, bind_eq_ok_iff, return_eq_ok_iff] at h
  obtain ⟨rec, hrec, body, hbody, -, rfl⟩ := h
  exact ⟨rec, body, hrec, hbody, rfl⟩

theorem setFixture_eq_ok {f : Handle .fixture} {change : FixtureChange} {u : Unit}
    (h : setFixture w f change r = .ok (u, r')) :
    ∃ rec collider body changed, r.locateFixture w f = .ok (rec, collider) ∧
      r.body w rec.body = .ok body ∧
      changed = (r.modifyWorld w (·.setMaterial rec.native (change.apply
        collider.material))).changeMaterial f change.apply ∧
      r' = if change.changesMass then changed.resetMass rec.body body else changed := by
  simp only [setFixture, bind_eq_ok_iff, return_eq_ok_iff] at h
  obtain ⟨-, -, ⟨rec, collider⟩, hlocate, body, hbody, -, rfl⟩ := h
  exact ⟨rec, collider, body, _, hlocate, hbody, rfl, rfl⟩

theorem createJoint_eq_ok {a b : Handle .body} {d : JointDefinition} {j : Handle .joint}
    (h : createJoint w a b d r = .ok (j, r')) :
    ∃ recA recB world spring, r.body w a = .ok recA ∧ r.body w b = .ok recB ∧
      r.worlds.get? w = some world ∧ r.joints.issue = .ok j ∧ a ≠ b ∧
      spring.first = recA.native ∧ spring.second = recB.native ∧
      r' = r.addJoint ⟨w, a, b, (world.insertSpring spring).1⟩ (world.insertSpring spring).2 := by
  simp only [createJoint, bind_eq_ok_iff] at h
  obtain ⟨recA, hrecA, recB, hrecB, h⟩ := h
  split at h
  · cases h
  · rename_i hne
    simp only [bind_eq_ok_iff, return_eq_ok_iff] at h
    obtain ⟨-, -, ⟨world, key, bodyA⟩, hlocate, ⟨_, _, bodyB⟩, -, j, hissue, rfl, rfl⟩ := h
    obtain ⟨-, -, hw, -, -⟩ := locateBody_eq_ok hlocate
    exact ⟨recA, recB, world, spring d recA recB bodyA bodyB, hrecA, hrecB, hw, hissue, hne, rfl,
      rfl, rfl⟩

theorem deleteJoint_eq_ok {j : Handle .joint} {u : Unit} (h : deleteJoint w j r = .ok (u, r')) :
    ∃ rec, r.joint w j = .ok rec ∧ r' = r.dropJoint j rec := by
  simp only [deleteJoint, bind_eq_ok_iff, return_eq_ok_iff] at h
  obtain ⟨rec, hrec, -, rfl⟩ := h
  exact ⟨rec, hrec, rfl⟩

theorem Sound.locateBody_eq (h : r.Sound) {b : Handle .body} {rec : BodyRecord} {world : World}
    {body : Body} (hw : r.worlds.get? w = some world) (hrec : (r.slice w).bodies b = some rec)
    (hbody : world.bodies.get? rec.native = some body) :
    r.locateBody w b = .ok (world, rec.native, body) := by
  simp only [Registry.locateBody, h.body_eq_ok_iff.mpr hrec, world_eq_ok_iff.mpr hw, ok_bind, hbody]
  rfl

theorem Sound.locateFixture_eq (h : r.Sound) {f : Handle .fixture} {rec : FixtureRecord}
    {world : World} {collider : Collider} (hw : r.worlds.get? w = some world)
    (hrec : (r.slice w).fixtures f = some rec)
    (hcollider : world.colliders.get? rec.native = some collider) :
    r.locateFixture w f = .ok (rec, collider) := by
  simp only [Registry.locateFixture, h.fixture_eq_ok_iff.mpr hrec, world_eq_ok_iff.mpr hw, ok_bind,
    hcollider]
  rfl

theorem Sound.locateBody (h : r.Sound) {b : Handle .body} {rec : BodyRecord}
    (hrec : (r.slice w).bodies b = some rec) :
    ∃ world body, r.locateBody w b = .ok (world, rec.native, body) := by
  obtain ⟨world, hw⟩ := h.world_of_body hrec
  obtain ⟨identity, hidentity, -⟩ := (h.mirrors hw).bodies.present hrec
  obtain ⟨body, hbody, -⟩ := Option.map_eq_some_iff.mp ((Arena.get?_map ..).symm.trans hidentity)
  exact ⟨world, body, h.locateBody_eq hw hrec hbody⟩

theorem Sound.resetMass (h : r.Sound) (b : Handle .body) (rec : BodyRecord) :
    (r.resetMass b rec).Sound := by
  apply h.modifyWorld
  intro world
  apply World.census_changeBody
  intro body
  split
  · exact Body.identity_setAdditionalMass ..
  · rfl

theorem sound_createWorld {gravity : Vec2} {settings : WorldSettings} (h : r.Sound)
    (hok : createWorld gravity settings r = .ok (w, r')) : r'.Sound := by
  obtain ⟨hissue, rfl⟩ := createWorld_eq_ok hok
  exact h.addWorld hissue (World.census_create gravity settings)

theorem sound_destroyWorld {u : Unit} (h : r.Sound) (hok : destroyWorld w r = .ok (u, r')) :
    r'.Sound := by
  obtain ⟨-, rfl⟩ := destroyWorld_eq_ok hok
  exact h.dropWorld w

theorem sound_changeWorld {f : World → World} {u : Unit} (h : r.Sound)
    (hf : ∀ world, (f world).census = world.census)
    (hok : changeWorld w f r = .ok (u, r')) : r'.Sound := by
  obtain ⟨-, rfl⟩ := changeWorld_eq_ok hok
  exact h.modifyWorld w hf

theorem sound_step {dt : Float32} {velocityIterations positionIterations : UInt32}
    {snapshot : Snapshot} (h : r.Sound)
    (hok : step w dt velocityIterations positionIterations r = .ok (snapshot, r')) :
    r'.Sound := by
  obtain ⟨-, -, -, rfl | rfl⟩ := step_eq_ok hok
  · exact h
  · exact h.modifyWorld w fun world => world.census_advance dt _ _

theorem sound_changeBody {b : Handle .body} {f : Body → Body} {u : Unit} (h : r.Sound)
    (hf : ∀ body, (f body).identity = body.identity)
    (hok : changeBody w b f r = .ok (u, r')) : r'.Sound := by
  obtain ⟨rec, -, rfl⟩ := changeBody_eq_ok hok
  exact h.modifyWorld w fun world => world.census_changeBody rec.native hf

theorem sound_createBody {kind : BodyKind} {place : Vec2} {b : Handle .body} (h : r.Sound)
    (hok : createBody w kind place r = .ok (b, r')) : r'.Sound := by
  obtain ⟨world, native, hw, hissue, rfl, rfl⟩ := createBody_eq_ok hok
  exact (h.addBody hw hissue kind place).resetMass b _

theorem sound_deleteBody {b : Handle .body} {u : Unit} (h : r.Sound)
    (hok : deleteBody w b r = .ok (u, r')) : r'.Sound := by
  obtain ⟨rec, hrec, rfl⟩ := deleteBody_eq_ok hok
  have hslice := h.body_eq_ok_iff.mp hrec
  obtain ⟨world, hw⟩ := h.world_of_body hslice
  exact h.dropBody hw hslice

theorem sound_createFixture {b : Handle .body} {shape : ShapeDescriptor} {material : Material}
    {f : Handle .fixture} (h : r.Sound)
    (hok : createFixture w b shape material r = .ok (f, r')) : r'.Sound := by
  obtain ⟨solid, rec, world, native, -, hrec, hw, hissue, rfl, rfl⟩ := createFixture_eq_ok hok
  have hb : (r.slice w).Locates b rec.native := ⟨rec, h.body_eq_ok_iff.mp hrec, rfl⟩
  exact (h.addFixture hw hb hissue solid material).resetMass b rec

theorem sound_deleteFixture {f : Handle .fixture} {u : Unit} (h : r.Sound)
    (hok : deleteFixture w f r = .ok (u, r')) : r'.Sound := by
  obtain ⟨rec, body, hrec, -, rfl⟩ := deleteFixture_eq_ok hok
  have hslice := h.fixture_eq_ok_iff.mp hrec
  obtain ⟨world, hw⟩ := h.world_of_fixture hslice
  exact (h.dropFixture hw hslice).resetMass rec.body body

theorem sound_setFixture {f : Handle .fixture} {change : FixtureChange} {u : Unit} (h : r.Sound)
    (hok : setFixture w f change r = .ok (u, r')) : r'.Sound := by
  obtain ⟨rec, collider, body, changed, -, -, rfl, rfl⟩ := setFixture_eq_ok hok
  have hchanged := (h.modifyWorld w fun world =>
    world.census_setMaterial rec.native (change.apply collider.material)).changeMaterial f
      change.apply
  split
  · exact hchanged.resetMass rec.body body
  · exact hchanged

theorem sound_createJoint {a b : Handle .body} {d : JointDefinition} {j : Handle .joint}
    (h : r.Sound) (hok : createJoint w a b d r = .ok (j, r')) : r'.Sound := by
  obtain ⟨recA, recB, world, spring, hrecA, hrecB, hw, hissue, hne, hfirst, hsecond, rfl⟩ :=
    createJoint_eq_ok hok
  have ha : (r.slice w).Locates a spring.first := ⟨recA, h.body_eq_ok_iff.mp hrecA, hfirst.symm⟩
  have hb : (r.slice w).Locates b spring.second :=
    ⟨recB, h.body_eq_ok_iff.mp hrecB, hsecond.symm⟩
  exact h.addJoint hw hne ha hb hissue

theorem sound_deleteJoint {j : Handle .joint} {u : Unit} (h : r.Sound)
    (hok : deleteJoint w j r = .ok (u, r')) : r'.Sound := by
  obtain ⟨rec, hrec, rfl⟩ := deleteJoint_eq_ok hok
  have hslice := h.joint_eq_ok_iff.mp hrec
  obtain ⟨world, hw⟩ := h.world_of_joint hslice
  exact h.dropJoint hw hslice

end Registry

namespace Operation

/-- The operation is a question: its transaction only reads. -/
def asks : Operation → Bool
  | worlds | readWorld .. | bodiesOf .. | lastContacts .. | readBody .. | objectContacts ..
  | fixtureBody .. | fixtureMaterial .. | fixtureShape .. | fixturesOf .. | jointBodies .. => true
  | _ => false

/-- The transaction by which an operation changes a registry, and its answer.  Questions answer
whatever they find and leave the registry alone. -/
inductive Transition (config : Config) (r : Registry) : Operation → Outcome → Registry → Prop
  | createWorld {gravity : Vec2} {allowSleep : Bool} {w : Handle .world} {r' : Registry}
      (h : Registry.createWorld gravity (config.newWorldSettings allowSleep) r = .ok (w, r')) :
      Transition config r (.createWorld gravity allowSleep) (.handle w) r'
  | destroyWorld {w : Handle .world} {u : Unit} {r' : Registry}
      (h : Registry.destroyWorld w r = .ok (u, r')) :
      Transition config r (.destroyWorld w) .done r'
  | setWorld {w : Handle .world} {change : WorldChange} {u : Unit} {r' : Registry}
      (h : Registry.changeWorld w change.apply r = .ok (u, r')) :
      Transition config r (.setWorld w change) .done r'
  | step {w : Handle .world} {dt : Float32} {velocityIterations positionIterations : UInt32}
      {snapshot : Snapshot} {r' : Registry}
      (h : Registry.step w dt velocityIterations positionIterations r = .ok (snapshot, r')) :
      Transition config r (.step w dt velocityIterations positionIterations)
        (.snapshot snapshot) r'
  | stepDefault {w : Handle .world} {dt : Float32} {snapshot : Snapshot} {r' : Registry}
      (h : Registry.step w dt config.velocityIterations config.positionIterations r =
        .ok (snapshot, r')) :
      Transition config r (.stepDefault w dt) (.snapshot snapshot) r'
  | createBody {w : Handle .world} {kind : BodyKind} {place : Vec2} {b : Handle .body}
      {r' : Registry} (h : Registry.createBody w kind place r = .ok (b, r')) :
      Transition config r (.createBody w kind place) (.handle b) r'
  | deleteBody {w : Handle .world} {b : Handle .body} {u : Unit} {r' : Registry}
      (h : Registry.deleteBody w b r = .ok (u, r')) :
      Transition config r (.deleteBody w b) .done r'
  | setBody {w : Handle .world} {b : Handle .body} {change : BodyChange} {u : Unit}
      {r' : Registry} (h : Registry.changeBody w b change.apply r = .ok (u, r')) :
      Transition config r (.setBody w b change) .done r'
  | createFixture {w : Handle .world} {b : Handle .body} {shape : ShapeDescriptor}
      {material : Material} {f : Handle .fixture} {r' : Registry}
      (h : Registry.createFixture w b shape material r = .ok (f, r')) :
      Transition config r (.createFixture w b shape material) (.handle f) r'
  | deleteFixture {w : Handle .world} {f : Handle .fixture} {u : Unit} {r' : Registry}
      (h : Registry.deleteFixture w f r = .ok (u, r')) :
      Transition config r (.deleteFixture w f) .done r'
  | setFixture {w : Handle .world} {f : Handle .fixture} {change : FixtureChange} {u : Unit}
      {r' : Registry} (h : Registry.setFixture w f change r = .ok (u, r')) :
      Transition config r (.setFixture w f change) .done r'
  | createJoint {w : Handle .world} {a b : Handle .body} {d : JointDefinition}
      {j : Handle .joint} {r' : Registry} (h : Registry.createJoint w a b d r = .ok (j, r')) :
      Transition config r (.createJoint w a b d) (.handle j) r'
  | createDefaultJoint {w : Handle .world} {a b : Handle .body} {j : Handle .joint}
      {r' : Registry}
      (h : Registry.createJoint w a b (.central config.jointStiffness config.jointDamping) r =
        .ok (j, r')) :
      Transition config r (.createDefaultJoint w a b) (.handle j) r'
  | deleteJoint {w : Handle .world} {j : Handle .joint} {u : Unit} {r' : Registry}
      (h : Registry.deleteJoint w j r = .ok (u, r')) :
      Transition config r (.deleteJoint w j) .done r'
  | question {op : Operation} {outcome : Outcome} (hasks : op.asks) :
      Transition config r op outcome r

/-- An operation that is not refused is the transaction of its kind, or a question. -/
theorem transition_transact {config : Config} {op : Operation} {r r' : Registry} {outcome : Outcome}
    (hok : op.transact config r = .ok (outcome, r')) : Transition config r op outcome r' := by
  unfold transact at hok
  cases op with
  | readWorld | readBody =>
      obtain ⟨-, rfl⟩ := Registry.read_eq_ok hok
      exact .question rfl
  | worlds | bodiesOf | lastContacts | objectContacts | fixtureBody | fixtureMaterial
  | fixtureShape | fixturesOf | jointBodies =>
      obtain ⟨_, hread, -⟩ := Transaction.map_eq_ok hok
      obtain ⟨-, rfl⟩ := Registry.read_eq_ok hread
      exact .question rfl
  | _ =>
      -- The constructor of the same name has the transaction whose answer is mapped.
      obtain ⟨_, hdone, rfl⟩ := Transaction.map_eq_ok hok
      constructor
      exact hdone

theorem sound_transact {config : Config} {op : Operation} {r r' : Registry} {outcome : Outcome}
    (h : r.Sound) (hok : op.transact config r = .ok (outcome, r')) : r'.Sound := by
  cases transition_transact hok with
  | createWorld hok => exact Registry.sound_createWorld h hok
  | destroyWorld hok => exact Registry.sound_destroyWorld h hok
  | @setWorld w change u r' hok => exact Registry.sound_changeWorld h change.census_apply hok
  | step hok | stepDefault hok => exact Registry.sound_step h hok
  | createBody hok => exact Registry.sound_createBody h hok
  | deleteBody hok => exact Registry.sound_deleteBody h hok
  | @setBody w b change u r' hok => exact Registry.sound_changeBody h change.identity_apply hok
  | createFixture hok => exact Registry.sound_createFixture h hok
  | deleteFixture hok => exact Registry.sound_deleteFixture h hok
  | setFixture hok => exact Registry.sound_setFixture h hok
  | createJoint hok | createDefaultJoint hok => exact Registry.sound_createJoint h hok
  | deleteJoint hok => exact Registry.sound_deleteJoint h hok
  | question => exact h

end Operation

end RigidWorlds
