import RigidWorlds.Proofs.Registry

/-!
Soundness of registries: no handle is pending, and of every world the registry knows just what its
engine holds.  Every change that operations make is confined to one world and keeps a registry
sound.
-/

namespace RigidWorlds

namespace Slice

/-- Whether a slice fits what there is of its world. -/
def Faces (σ : Slice) : Option Engine.World → Prop
  | some world => σ.Mirrors world.census
  | none => σ = .empty

theorem Faces.of_census_eq {σ : Slice} {world : Engine.World} (h : σ.Faces (some world))
    {world' : Engine.World} (hcensus : world'.census = world.census) :
    σ.Faces (some world') := by
  change σ.Mirrors world'.census
  rw [hcensus]
  exact h

end Slice

namespace Registry

structure Sound (r : Registry) : Prop where
  worlds : r.worlds.Settled
  bodies : r.bodies.Settled
  fixtures : r.fixtures.Settled
  joints : r.joints.Settled
  faces : ∀ w, (r.slice w).Faces (r.worlds.get? w)

theorem sound_empty : empty.Sound :=
  ⟨HandleTable.settled_empty, HandleTable.settled_empty, HandleTable.settled_empty,
    HandleTable.settled_empty, fun _ => rfl⟩

variable {r r' : Registry} {w : Handle .world} {world : Engine.World}

theorem Sound.mirrors (h : r.Sound) (hw : r.worlds.get? w = some world) :
    (r.slice w).Mirrors world.census := by
  have hfaces := h.faces w
  rw [hw] at hfaces
  exact hfaces

theorem Sound.slice_of_none (h : r.Sound) (hw : r.worlds.get? w = none) :
    r.slice w = .empty := by
  have hfaces := h.faces w
  rw [hw] at hfaces
  exact hfaces

theorem Sound.exists_world (h : r.Sound) {α : Type} {f : Slice → Option α}
    (hempty : f .empty = none) {a : α} (ha : f (r.slice w) = some a) :
    ∃ world, r.worlds.get? w = some world := by
  cases hw : r.worlds.get? w with
  | none =>
      rw [h.slice_of_none hw, hempty] at ha
      cases ha
  | some world => exact ⟨world, rfl⟩

theorem Sound.world_of_body (h : r.Sound) {b : Handle .body} {rec : BodyRecord}
    (hb : (r.slice w).bodies b = some rec) : ∃ world, r.worlds.get? w = some world :=
  h.exists_world (f := (·.bodies b)) rfl hb

theorem Sound.world_of_fixture (h : r.Sound) {f : Handle .fixture} {rec : FixtureRecord}
    (hf : (r.slice w).fixtures f = some rec) : ∃ world, r.worlds.get? w = some world :=
  h.exists_world (f := (·.fixtures f)) rfl hf

theorem Sound.world_of_joint (h : r.Sound) {j : Handle .joint} {rec : JointRecord}
    (hj : (r.slice w).joints j = some rec) : ∃ world, r.worlds.get? w = some world :=
  h.exists_world (f := (·.joints j)) rfl hj

theorem Sound.body_eq_ok_iff (h : r.Sound) {b : Handle .body} {rec : BodyRecord} :
    r.body w b = .ok rec ↔ (r.slice w).bodies b = some rec :=
  owned_eq_ok_iff.trans (and_iff_right_of_imp h.world_of_body)

theorem Sound.fixture_eq_ok_iff (h : r.Sound) {f : Handle .fixture} {rec : FixtureRecord} :
    r.fixture w f = .ok rec ↔ (r.slice w).fixtures f = some rec :=
  owned_eq_ok_iff.trans (and_iff_right_of_imp h.world_of_fixture)

theorem Sound.joint_eq_ok_iff (h : r.Sound) {j : Handle .joint} {rec : JointRecord} :
    r.joint w j = .ok rec ↔ (r.slice w).joints j = some rec :=
  owned_eq_ok_iff.trans (and_iff_right_of_imp h.world_of_joint)

/-- A world and the records of all that belongs to it are the same in two registries. -/
structure SameWorld (v : Handle .world) (r r' : Registry) : Prop where
  world : r'.worlds.get? v = r.worlds.get? v
  slice : r'.slice v = r.slice v

theorem SameWorld.refl (v : Handle .world) (r : Registry) : SameWorld v r r := ⟨rfl, rfl⟩

theorem SameWorld.symm {v : Handle .world} (h : SameWorld v r r') : SameWorld v r' r :=
  ⟨h.world.symm, h.slice.symm⟩

theorem SameWorld.trans {v : Handle .world} {r'' : Registry} (h : SameWorld v r r')
    (h' : SameWorld v r' r'') : SameWorld v r r'' :=
  ⟨h'.world.trans h.world, h'.slice.trans h.slice⟩

/-- All worlds but one are the same. -/
def Confined (w : Handle .world) (r r' : Registry) : Prop := ∀ v, v ≠ w → SameWorld v r r'

theorem Confined.refl (w : Handle .world) (r : Registry) : Confined w r r :=
  fun v _ => SameWorld.refl v r

theorem Confined.trans {r'' : Registry} (h : Confined w r r') (h' : Confined w r' r'') :
    Confined w r r'' :=
  fun v hv => (h v hv).trans (h' v hv)

theorem Sound.of_others (h : r.Sound) (hworlds : r'.worlds.Settled) (hbodies : r'.bodies.Settled)
    (hfixtures : r'.fixtures.Settled) (hjoints : r'.joints.Settled) (hothers : Confined w r r')
    (hw : (r'.slice w).Faces (r'.worlds.get? w)) : r'.Sound := by
  refine ⟨hworlds, hbodies, hfixtures, hjoints, ?_⟩
  intro v
  by_cases hv : v = w
  · rw [hv]
    exact hw
  · rw [(hothers v hv).world, (hothers v hv).slice]
    exact h.faces v

theorem get?_modifyWorld (r : Registry) (w : Handle .world) (f : Engine.World → Engine.World)
    (v : Handle .world) :
    (r.modifyWorld w f).worlds.get? v =
      if v = w then (r.worlds.get? v).map f else r.worlds.get? v :=
  HandleTable.get?_modify ..

theorem confined_modifyWorld (r : Registry) (w : Handle .world)
    (f : Engine.World → Engine.World) : Confined w r (r.modifyWorld w f) := by
  intro v hv
  refine ⟨?_, rfl⟩
  rw [get?_modifyWorld, if_neg hv]

theorem confined_addWorld (ht : r.worlds.Settled) (world : Engine.World) :
    Confined r.worlds.next r (r.addWorld world) := by
  intro v hv
  refine ⟨?_, rfl⟩
  rw [addWorld, HandleTable.get?_append ht, if_neg hv]

theorem get?_dropWorld (r : Registry) (w v : Handle .world) :
    (r.dropWorld w).worlds.get? v = if v = w then none else r.worlds.get? v :=
  HandleTable.get?_erase r.worlds w v

theorem Sound.confined_dropWorld (h : r.Sound) (w : Handle .world) :
    Confined w r (r.dropWorld w) := by
  intro v hv
  refine ⟨?_, slice_dropWorld_of_ne h.bodies h.fixtures h.joints hv⟩
  rw [get?_dropWorld, if_neg hv]

theorem confined_addBody (ht : r.bodies.Settled) (rec : BodyRecord) (world : Engine.World) :
    Confined rec.world r (r.addBody rec world) := by
  intro v hv
  refine ⟨?_, slice_addBody_of_ne ht world (Ne.symm hv)⟩
  exact (confined_modifyWorld r rec.world (fun _ => world) v hv).world

theorem confined_addFixture (ht : r.fixtures.Settled) (rec : FixtureRecord)
    (world : Engine.World) : Confined rec.world r (r.addFixture rec world) := by
  intro v hv
  refine ⟨?_, slice_addFixture_of_ne ht world (Ne.symm hv)⟩
  exact (confined_modifyWorld r rec.world (fun _ => world) v hv).world

theorem confined_addJoint (ht : r.joints.Settled) (rec : JointRecord) (world : Engine.World) :
    Confined rec.world r (r.addJoint rec world) := by
  intro v hv
  refine ⟨?_, slice_addJoint_of_ne ht world (Ne.symm hv)⟩
  exact (confined_modifyWorld r rec.world (fun _ => world) v hv).world

theorem fixtures_eq_none {f : Handle .fixture} {rec : FixtureRecord}
    (hrec : (r.slice w).fixtures f = some rec) {v : Handle .world} (hv : v ≠ w) :
    (r.slice v).fixtures f = none := by
  obtain ⟨hget, rfl⟩ := slice_fixtures_eq_some_iff.mp hrec
  simp [slice, HandleTable.within, hget, Option.filter_some, Ne.symm hv]

theorem confined_dropFixture {f : Handle .fixture} {rec : FixtureRecord}
    (hrec : (r.slice w).fixtures f = some rec) : Confined w r (r.dropFixture f rec) := by
  obtain ⟨-, rfl⟩ := slice_fixtures_eq_some_iff.mp hrec
  intro v hv
  refine ⟨(confined_modifyWorld _ rec.world _ v hv).world, ?_⟩
  rw [slice_dropFixture, Slice.dropFixture_of_none (fixtures_eq_none hrec hv)]

theorem confined_dropJoint {j : Handle .joint} {rec : JointRecord}
    (hrec : (r.slice w).joints j = some rec) : Confined w r (r.dropJoint j rec) := by
  obtain ⟨hget, rfl⟩ := slice_joints_eq_some_iff.mp hrec
  intro v hv
  refine ⟨(confined_modifyWorld _ rec.world _ v hv).world, ?_⟩
  rw [slice_dropJoint, Slice.dropJoint_of_none]
  simp [slice, HandleTable.within, hget, Option.filter_some, Ne.symm hv]

theorem Sound.dropBody_of_ne (h : r.Sound) {b : Handle .body} {v : Handle .world}
    (hb : (r.slice v).bodies b = none) : (r.slice v).dropBody b = r.slice v := by
  cases hv : r.worlds.get? v with
  | none =>
      rw [h.slice_of_none hv]
      simp [Slice.dropBody, Slice.empty]
  | some world => exact (h.mirrors hv).dropBody_of_none hb

theorem Sound.confined_dropBody (h : r.Sound) {b : Handle .body} {rec : BodyRecord}
    (hrec : (r.slice w).bodies b = some rec) : Confined w r (r.dropBody b rec) := by
  obtain ⟨hget, rfl⟩ := slice_bodies_eq_some_iff.mp hrec
  intro v hv
  refine ⟨(confined_modifyWorld _ rec.world _ v hv).world, ?_⟩
  rw [slice_dropBody h.fixtures h.joints]
  apply h.dropBody_of_ne
  simp [slice, HandleTable.within, hget, Option.filter_some, Ne.symm hv]

theorem confined_changeMaterial {f : Handle .fixture} {rec : FixtureRecord}
    (hrec : (r.slice w).fixtures f = some rec) (change : Material → Material) :
    Confined w r (r.changeMaterial f change) := by
  intro v hv
  refine ⟨rfl, ?_⟩
  rw [slice_changeMaterial, Slice.setMaterial_of_none (fixtures_eq_none hrec hv)]

theorem Sound.modifyWorld (h : r.Sound) (w : Handle .world) {f : Engine.World → Engine.World}
    (hf : ∀ world, (f world).census = world.census) : (r.modifyWorld w f).Sound := by
  refine h.of_others (h.worlds.modify w f) h.bodies h.fixtures h.joints
    (confined_modifyWorld r w f) ?_
  rw [get?_modifyWorld, if_pos rfl]
  have hfaces := h.faces w
  cases hw : r.worlds.get? w with
  | none =>
      rw [hw] at hfaces
      exact hfaces
  | some world =>
      rw [hw] at hfaces
      exact hfaces.of_census_eq (hf world)

theorem Sound.addWorld (h : r.Sound) (hissue : r.worlds.issue = .ok w)
    (hcensus : world.census = .empty) : (r.addWorld world).Sound := by
  obtain ⟨-, rfl⟩ := HandleTable.issue_eq_ok_iff.mp hissue
  refine h.of_others (h.worlds.append hissue world) h.bodies h.fixtures h.joints
    (confined_addWorld h.worlds world) ?_
  rw [slice_addWorld, h.slice_of_none h.worlds.get?_next, addWorld,
    HandleTable.get?_append h.worlds, if_pos rfl]
  change Slice.empty.Mirrors world.census
  rw [hcensus]
  exact Slice.mirrors_empty

theorem Sound.dropWorld (h : r.Sound) (w : Handle .world) : (r.dropWorld w).Sound := by
  refine h.of_others (h.worlds.erase w) (h.bodies.eraseWhere fun b => b.world = w)
    (h.fixtures.eraseWhere fun f => f.world = w) (h.joints.eraseWhere fun j => j.world = w)
    (h.confined_dropWorld w) ?_
  rw [get?_dropWorld, if_pos rfl]
  exact slice_dropWorld h.bodies h.fixtures h.joints w

theorem get?_modifyWorld_self (hw : r.worlds.get? w = some world)
    (f : Engine.World → Engine.World) :
    (r.modifyWorld w f).worlds.get? w = some (f world) := by
  rw [get?_modifyWorld, if_pos rfl, hw, Option.map_some]

theorem Sound.of_change (h : r.Sound) (hw : r.worlds.get? w = some world)
    {f : Engine.World → Engine.World} (hworlds : r'.worlds = (r.modifyWorld w f).worlds)
    (hbodies : r'.bodies.Settled) (hfixtures : r'.fixtures.Settled) (hjoints : r'.joints.Settled)
    (hothers : Confined w r r') (hmirrors : (r'.slice w).Mirrors (f world).census) :
    r'.Sound := by
  refine h.of_others (hworlds ▸ h.worlds.modify w f) hbodies hfixtures hjoints hothers ?_
  rw [hworlds, get?_modifyWorld_self hw]
  exact hmirrors

theorem Sound.addBody (h : r.Sound) (hw : r.worlds.get? w = some world) {b : Handle .body}
    (hissue : r.bodies.issue = .ok b) (kind : BodyKind) (place : Vec2) :
    (r.addBody ⟨w, (world.insertBody kind place b.tag).1⟩
      (world.insertBody kind place b.tag).2).Sound := by
  obtain ⟨-, rfl⟩ := HandleTable.issue_eq_ok_iff.mp hissue
  refine h.of_change hw (f := fun _ => (world.insertBody kind place r.bodies.next.tag).2) rfl
    (h.bodies.append hissue _) h.fixtures h.joints (confined_addBody h.bodies ⟨w, _⟩ _) ?_
  have hfresh : (r.slice w).bodies r.bodies.next = none := by
    simp [slice, HandleTable.within, h.bodies.get?_next]
  have hmirrors := (h.mirrors hw).addBody hfresh w kind
  rw [world.census_insertBody kind place] at hmirrors
  rw [slice_addBody h.bodies]
  exact hmirrors

theorem Sound.addFixture (h : r.Sound) (hw : r.worlds.get? w = some world) {b : Handle .body}
    {parent : Engine.Key} (hb : (r.slice w).Locates b parent) {f : Handle .fixture}
    (hissue : r.fixtures.issue = .ok f) (solid : Solid) (material : Material) :
    (r.addFixture ⟨w, b, (world.insertCollider solid material f.tag parent).1, material⟩
      (world.insertCollider solid material f.tag parent).2).Sound := by
  obtain ⟨-, rfl⟩ := HandleTable.issue_eq_ok_iff.mp hissue
  refine h.of_change hw
    (f := fun _ => (world.insertCollider solid material r.fixtures.next.tag parent).2) rfl
    h.bodies (h.fixtures.append hissue _) h.joints
    (confined_addFixture h.fixtures ⟨w, b, _, material⟩ _) ?_
  have hfresh : (r.slice w).fixtures r.fixtures.next = none := by
    simp [slice, HandleTable.within, h.fixtures.get?_next]
  have hmirrors := (h.mirrors hw).addFixture hfresh w hb solid material
  rw [world.census_insertCollider solid material] at hmirrors
  rw [slice_addFixture h.fixtures]
  exact hmirrors

theorem Sound.addJoint (h : r.Sound) (hw : r.worlds.get? w = some world) {a b : Handle .body}
    (hne : a ≠ b) {spring : Engine.Spring} (ha : (r.slice w).Locates a spring.first)
    (hb : (r.slice w).Locates b spring.second) {j : Handle .joint}
    (hissue : r.joints.issue = .ok j) :
    (r.addJoint ⟨w, a, b, (world.insertSpring spring).1⟩ (world.insertSpring spring).2).Sound := by
  obtain ⟨-, rfl⟩ := HandleTable.issue_eq_ok_iff.mp hissue
  refine h.of_change hw (f := fun _ => (world.insertSpring spring).2) rfl h.bodies h.fixtures
    (h.joints.append hissue _) (confined_addJoint h.joints ⟨w, a, b, _⟩ _) ?_
  have hfresh : (r.slice w).joints r.joints.next = none := by
    simp [slice, HandleTable.within, h.joints.get?_next]
  have hmirrors := (h.mirrors hw).addJoint hfresh w hne ha hb
  rw [world.census_insertSpring] at hmirrors
  rw [slice_addJoint h.joints]
  exact hmirrors

theorem Sound.dropFixture (h : r.Sound) (hw : r.worlds.get? w = some world)
    {f : Handle .fixture} {rec : FixtureRecord} (hrec : (r.slice w).fixtures f = some rec) :
    (r.dropFixture f rec).Sound := by
  have hothers := confined_dropFixture hrec
  obtain ⟨-, rfl⟩ := slice_fixtures_eq_some_iff.mp hrec
  refine h.of_change hw rfl h.bodies (h.fixtures.erase f) h.joints hothers ?_
  rw [slice_dropFixture, Engine.World.census_removeCollider]
  exact (h.mirrors hw).dropFixture hrec

theorem Sound.dropJoint (h : r.Sound) (hw : r.worlds.get? w = some world)
    {j : Handle .joint} {rec : JointRecord} (hrec : (r.slice w).joints j = some rec) :
    (r.dropJoint j rec).Sound := by
  have hothers := confined_dropJoint hrec
  obtain ⟨-, rfl⟩ := slice_joints_eq_some_iff.mp hrec
  refine h.of_change hw rfl h.bodies h.fixtures (h.joints.erase j) hothers ?_
  rw [slice_dropJoint, Engine.World.census_removeSpring]
  exact (h.mirrors hw).dropJoint hrec

theorem Sound.dropBody (h : r.Sound) (hw : r.worlds.get? w = some world) {b : Handle .body}
    {rec : BodyRecord} (hrec : (r.slice w).bodies b = some rec) : (r.dropBody b rec).Sound := by
  have hothers := h.confined_dropBody hrec
  obtain ⟨-, rfl⟩ := slice_bodies_eq_some_iff.mp hrec
  refine h.of_change hw rfl (h.bodies.erase b) (h.fixtures.eraseWhere fun f => f.body = b)
    (h.joints.eraseWhere fun j => j.involves b) hothers ?_
  rw [slice_dropBody h.fixtures h.joints, Engine.World.census_removeBody]
  exact (h.mirrors hw).dropBody hrec

theorem Sound.changeMaterial (h : r.Sound) (f : Handle .fixture)
    (change : Material → Material) : (r.changeMaterial f change).Sound := by
  have hfixtures := h.fixtures.modify f fun rec => { rec with material := change rec.material }
  refine ⟨h.worlds, h.bodies, hfixtures, h.joints, ?_⟩
  intro v
  rw [slice_changeMaterial]
  change ((r.slice v).setMaterial f change).Faces (r.worlds.get? v)
  cases hv : r.worlds.get? v with
  | none =>
      rw [h.slice_of_none hv]
      rfl
  | some world => exact (h.mirrors hv).setMaterial f change

end Registry

end RigidWorlds
