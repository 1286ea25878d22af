import RigidWorlds.Proofs.Slice

/-!
What operations do to a registry, one change for each kind of object put in or taken out, and what
every such change does to the slices of the worlds.
-/

namespace RigidWorlds

namespace HandleTable

variable {k : Kind} {α : Type} {t : HandleTable k α} {owner : α → Handle .world}

def within (t : HandleTable k α) (owner : α → Handle .world) (w : Handle .world) (h : Handle k) :
    Option α :=
  (t.get? h).filter (owner · = w)

theorem within_eq_some_iff {w : Handle .world} {h : Handle k} {a : α} :
    t.within owner w h = some a ↔ t.get? h = some a ∧ owner a = w := by
  simp [within, Option.filter_eq_some_iff]

theorem within_append (owner : α → Handle .world) (ht : t.Settled) (a : α) :
    (t.append a).within owner (owner a) = fun h =>
      if h = t.next then some a else t.within owner (owner a) h := by
  funext h
  simp only [within, get?_append ht]
  split
  · simp
  · rfl

theorem within_append_of_ne (owner : α → Handle .world) (ht : t.Settled) {a : α}
    {w : Handle .world} (hw : owner a ≠ w) :
    (t.append a).within owner w = t.within owner w := by
  funext h
  simp only [within, get?_append ht]
  split
  · rename_i hnext
    simp [hnext, ht.get?_next, hw]
  · rfl

theorem within_erase (t : HandleTable k α) (owner : α → Handle .world) (g : Handle k)
    (w : Handle .world) :
    (t.erase g).within owner w = fun h => if h = g then none else t.within owner w h := by
  funext h
  simp only [within, get?_erase]
  split <;> rfl

theorem within_eraseWhere (ht : t.Settled) (p : α → Bool) (w : Handle .world) :
    (t.eraseWhere p).within owner w = fun h => (t.within owner w h).filter (!p ·) := by
  funext h
  simp only [within, get?_eraseWhere ht, Option.filter_filter]
  congr 1
  funext a
  exact Bool.and_comm ..

theorem within_eraseOwned (owner : α → Handle .world) (ht : t.Settled) (w : Handle .world) :
    (t.eraseWhere fun a => owner a = w).within owner w = fun _ => none := by
  rw [within_eraseWhere ht]
  funext h
  rw [Option.filter_eq_none_iff]
  intro a ha
  simp [(within_eq_some_iff.mp ha).2]

theorem within_eraseOwned_of_ne (owner : α → Handle .world) (ht : t.Settled)
    {v w : Handle .world} (hv : v ≠ w) :
    (t.eraseWhere fun a => owner a = w).within owner v = t.within owner v := by
  rw [within_eraseWhere ht]
  funext h
  cases ha : t.within owner v h with
  | none => rfl
  | some a => simp [Option.filter_some, (within_eq_some_iff.mp ha).2, hv]

theorem within_modify (owner : α → Handle .world) (t : HandleTable k α) (g : Handle k)
    {f : α → α} (hf : ∀ a, owner (f a) = owner a) (w : Handle .world) :
    (t.modify g f).within owner w = fun h =>
      (t.within owner w h).map fun a => if h = g then f a else a := by
  funext h
  simp only [within, get?_modify]
  split
  · cases t.get? h with
    | none => rfl
    | some a => by_cases hw : owner a = w <;> simp [Option.filter_some, hw, hf]
  · exact Option.map_id'.symm

end HandleTable

namespace Registry

variable {r : Registry} {w : Handle .world} {world : Engine.World}

theorem world_eq_ok_iff : r.world w = .ok world ↔ r.worlds.get? w = some world :=
  HandleTable.find_eq_ok_iff

theorem owned_eq_ok_iff {k : Kind} {α : Type} {table : HandleTable k α}
    {owner : α → Handle .world} {h : Handle k} {a : α} :
    r.owned table owner w h = .ok a ↔
      (∃ world, r.worlds.get? w = some world) ∧ table.within owner w h = some a := by
  rw [HandleTable.within_eq_some_iff]
  unfold owned
  cases hw : r.world w with
  | error e =>
      have hnone : ¬ ∃ world, r.worlds.get? w = some world := by
        rintro ⟨world, hworld⟩
        rw [world_eq_ok_iff.mpr hworld] at hw
        cases hw
      simp [hnone, bind, Except.bind]
  | ok world =>
      simp only [bind, Except.bind, world_eq_ok_iff.mp hw, Option.some.injEq, exists_eq', true_and]
      cases table.get? h with
      | none => simp
      | some found =>
          by_cases howner : owner found = w
          · simp only [if_pos howner, Except.ok.injEq, Option.some.injEq]
            exact ⟨fun heq => ⟨heq, heq ▸ howner⟩, fun hand => hand.1⟩
          · simp only [if_neg howner, Option.some.injEq, reduceCtorEq, false_iff]
            rintro ⟨rfl, heq⟩
            exact howner heq

theorem owned_eq {k : Kind} {α : Type} (table : HandleTable k α) (owner : α → Handle .world)
    (h : Handle k) :
    r.owned table owner w h =
      (r.world w).bind fun _ =>
        match table.within owner w h with
        | some a => .ok a
        | none => .error (.notFound h) := by
  unfold owned HandleTable.within
  cases r.world w with
  | error e => rfl
  | ok world =>
      cases table.get? h with
      | none => rfl
      | some a =>
          by_cases howner : owner a = w <;>
            simp [Except.bind, bind, Option.filter_some, howner]

/-- What the registry knows about a world. -/
def slice (r : Registry) (w : Handle .world) : Slice where
  bodies := r.bodies.within (·.world) w
  fixtures := r.fixtures.within (·.world) w
  joints := r.joints.within (·.world) w

def addWorld (r : Registry) (world : Engine.World) : Registry :=
  { r with worlds := r.worlds.append world }

def dropWorld (r : Registry) (w : Handle .world) : Registry :=
  { r with worlds := r.worlds.erase w }.releaseWorldObjects w

/-- Registers a body of a world and goes on with what has become of the world. -/
def addBody (r : Registry) (rec : BodyRecord) (world : Engine.World) : Registry :=
  { r.modifyWorld rec.world fun _ => world with bodies := r.bodies.append rec }

def addFixture (r : Registry) (rec : FixtureRecord) (world : Engine.World) : Registry :=
  { r.modifyWorld rec.world fun _ => world with fixtures := r.fixtures.append rec }

def addJoint (r : Registry) (rec : JointRecord) (world : Engine.World) : Registry :=
  { r.modifyWorld rec.world fun _ => world with joints := r.joints.append rec }

/-- Forgets a body with its fixtures and joints, also in its world. -/
def dropBody (r : Registry) (b : Handle .body) (rec : BodyRecord) : Registry :=
  ({ r with bodies := r.bodies.erase b }.releaseBodyObjects b).modifyWorld rec.world
    (·.removeBody rec.native)

def dropFixture (r : Registry) (f : Handle .fixture) (rec : FixtureRecord) : Registry :=
  { r with fixtures := r.fixtures.erase f }.modifyWorld rec.world (·.removeCollider rec.native)

def dropJoint (r : Registry) (j : Handle .joint) (rec : JointRecord) : Registry :=
  { r with joints := r.joints.erase j }.modifyWorld rec.world (·.removeSpring rec.native)

def changeMaterial (r : Registry) (f : Handle .fixture) (change : Material → Material) : Registry :=
  { r with
    fixtures := r.fixtures.modify f fun rec => { rec with material := change rec.material } }

theorem slice_bodies_eq_some_iff {b : Handle .body} {rec : BodyRecord} :
    (r.slice w).bodies b = some rec ↔ r.bodies.get? b = some rec ∧ rec.world = w :=
  HandleTable.within_eq_some_iff

theorem slice_fixtures_eq_some_iff {f : Handle .fixture} {rec : FixtureRecord} :
    (r.slice w).fixtures f = some rec ↔ r.fixtures.get? f = some rec ∧ rec.world = w :=
  HandleTable.within_eq_some_iff

theorem slice_joints_eq_some_iff {j : Handle .joint} {rec : JointRecord} :
    (r.slice w).joints j = some rec ↔ r.joints.get? j = some rec ∧ rec.world = w :=
  HandleTable.within_eq_some_iff

theorem slice_addWorld (r : Registry) (world : Engine.World) (v : Handle .world) :
    (r.addWorld world).slice v = r.slice v := rfl

theorem slice_dropWorld (hb : r.bodies.Settled) (hf : r.fixtures.Settled) (hj : r.joints.Settled)
    (w : Handle .world) : (r.dropWorld w).slice w = .empty := by
  simp only [slice, dropWorld, releaseWorldObjects, Slice.empty,
    HandleTable.within_eraseOwned BodyRecord.world hb,
    HandleTable.within_eraseOwned FixtureRecord.world hf,
    HandleTable.within_eraseOwned JointRecord.world hj]

theorem slice_dropWorld_of_ne (hb : r.bodies.Settled) (hf : r.fixtures.Settled)
    (hj : r.joints.Settled) {v w : Handle .world} (hv : v ≠ w) :
    (r.dropWorld w).slice v = r.slice v := by
  simp only [slice, dropWorld, releaseWorldObjects,
    HandleTable.within_eraseOwned_of_ne BodyRecord.world hb hv,
    HandleTable.within_eraseOwned_of_ne FixtureRecord.world hf hv,
    HandleTable.within_eraseOwned_of_ne JointRecord.world hj hv]

theorem slice_addBody (ht : r.bodies.Settled) (rec : BodyRecord) (world : Engine.World) :
    (r.addBody rec world).slice rec.world = (r.slice rec.world).addBody r.bodies.next rec := by
  simp only [slice, addBody, Slice.addBody, modifyWorld,
    HandleTable.within_append BodyRecord.world ht]

theorem slice_addBody_of_ne (ht : r.bodies.Settled) {rec : BodyRecord} (world : Engine.World)
    {v : Handle .world} (hv : rec.world ≠ v) : (r.addBody rec world).slice v = r.slice v := by
  simp only [slice, addBody, modifyWorld,
    HandleTable.within_append_of_ne BodyRecord.world ht hv]

theorem slice_addFixture (ht : r.fixtures.Settled) (rec : FixtureRecord) (world : Engine.World) :
    (r.addFixture rec world).slice rec.world =
      (r.slice rec.world).addFixture r.fixtures.next rec := by
  simp only [slice, addFixture, Slice.addFixture, modifyWorld,
    HandleTable.within_append FixtureRecord.world ht]

theorem slice_addFixture_of_ne (ht : r.fixtures.Settled) {rec : FixtureRecord}
    (world : Engine.World) {v : Handle .world} (hv : rec.world ≠ v) :
    (r.addFixture rec world).slice v = r.slice v := by
  simp only [slice, addFixture, modifyWorld,
    HandleTable.within_append_of_ne FixtureRecord.world ht hv]

theorem slice_addJoint (ht : r.joints.Settled) (rec : JointRecord) (world : Engine.World) :
    (r.addJoint rec world).slice rec.world = (r.slice rec.world).addJoint r.joints.next rec := by
  simp only [slice, addJoint, Slice.addJoint, modifyWorld,
    HandleTable.within_append JointRecord.world ht]

theorem slice_addJoint_of_ne (ht : r.joints.Settled) {rec : JointRecord} (world : Engine.World)
    {v : Handle .world} (hv : rec.world ≠ v) : (r.addJoint rec world).slice v = r.slice v := by
  simp only [slice, addJoint, modifyWorld,
    HandleTable.within_append_of_ne JointRecord.world ht hv]

theorem slice_dropFixture (r : Registry) (f : Handle .fixture) (rec : FixtureRecord)
    (v : Handle .world) : (r.dropFixture f rec).slice v = (r.slice v).dropFixture f := by
  simp only [slice, dropFixture, Slice.dropFixture, modifyWorld, HandleTable.within_erase]

theorem slice_dropJoint (r : Registry) (j : Handle .joint) (rec : JointRecord)
    (v : Handle .world) : (r.dropJoint j rec).slice v = (r.slice v).dropJoint j := by
  simp only [slice, dropJoint, Slice.dropJoint, modifyWorld, HandleTable.within_erase]

theorem slice_dropBody (hf : r.fixtures.Settled) (hj : r.joints.Settled) (b : Handle .body)
    (rec : BodyRecord) (v : Handle .world) :
    (r.dropBody b rec).slice v = (r.slice v).dropBody b := by
  simp only [slice, dropBody, Slice.dropBody, modifyWorld, releaseBodyObjects,
    HandleTable.within_erase, HandleTable.within_eraseWhere hf, HandleTable.within_eraseWhere hj,
    decide_not]

theorem slice_changeMaterial (r : Registry) (f : Handle .fixture) (change : Material → Material)
    (v : Handle .world) :
    (r.changeMaterial f change).slice v = (r.slice v).setMaterial f change := by
  have hmodify := HandleTable.within_modify FixtureRecord.world r.fixtures f
    (f := fun rec => { rec with material := change rec.material }) (fun _ => rfl) v
  simp only [slice, changeMaterial, Slice.setMaterial, hmodify]

end Registry

end RigidWorlds
