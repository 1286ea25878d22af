import RigidWorlds.Proofs.History

namespace RigidWorlds

open Engine

theorem Engine.Arena.wellFormed_of_map {α β : Type} {f : Key → α → β} {a : Arena α}
    (h : (a.map f).WellFormed) : a.WellFormed := by
  refine ⟨?_, h.nodup⟩
  intro slot hslot
  have hvacant := h.vacant slot hslot
  rw [Arena.getElem?_slots_map, Option.map_eq_some_iff] at hvacant
  obtain ⟨entry, hentry, hnone⟩ := hvacant
  rw [hentry, Option.map_eq_none_iff.mp hnone]

namespace Engine.World

def material? (w : World) (key : Key) : Option Material := (w.colliders.get? key).map (·.material)

theorem material?_congr {v w : World} (h : v.colliders = w.colliders) (key : Key) :
    v.material? key = w.material? key := by
  rw [material?, h, material?]

theorem colliders_touch (w : World) (key : Key) : (w.touch key).colliders = w.colliders := by
  unfold touch
  split <;> rfl

theorem colliders_stir (w : World) (key : Key) : (w.stir key).colliders = w.colliders := by
  unfold stir
  split <;> rfl

theorem colliders_changeBody (w : World) (key : Key) (f : Body → Body) :
    (w.changeBody key f).colliders = w.colliders :=
  colliders_touch (w.modifyBody key f) key

theorem material?_create (gravity : Vec2) (settings : WorldSettings) (key : Key) :
    (create gravity settings).material? key = none := rfl

theorem material?_lasting (w : World) (key : Key) : w.lasting.material? key = w.material? key := by
  simp only [material?, lasting, Arena.get?_map, Option.map_map]
  rfl

theorem material?_advance (w : World) (dt : Float32)
    (velocityIterations positionIterations : UInt32) (key : Key) :
    (w.advance dt velocityIterations positionIterations).material? key = w.material? key := by
  rw [← material?_lasting, lasting_advance, material?_lasting]

theorem material?_insertBody (w : World) (kind : BodyKind) (place : Vec2) (tag : Nat) (key : Key) :
    (w.insertBody kind place tag).2.material? key = w.material? key :=
  material?_congr (colliders_touch ..) key

theorem colliders_insertCollider (w : World) (solid : Solid) (material : Material) (tag : Nat)
    (parent : Key) :
    (w.insertCollider solid material tag parent).2.colliders =
      (w.colliders.insert (Collider.create solid material tag parent)).2 := by
  unfold insertCollider
  rw [colliders_changeBody, colliders_stir]

theorem material?_insertCollider {w : World} (h : w.colliders.WellFormed) (solid : Solid)
    (material : Material) (tag : Nat) (parent key : Key) :
    (w.insertCollider solid material tag parent).2.material? key =
      if key = (w.insertCollider solid material tag parent).1 then some material
      else w.material? key := by
  rw [material?, colliders_insertCollider, Arena.get?_insert h]
  show Option.map _ (if key = (w.insertCollider solid material tag parent).1 then _ else _) = _
  split <;> rfl

theorem material?_removeCollider (w : World) (key k : Key) :
    (w.removeCollider key).material? k = if k = key then none else w.material? k := by
  unfold removeCollider
  split
  next hnone =>
    split
    next heq => rw [heq, material?, hnone, Option.map_none]
    next => rfl
  next collider _ =>
    rw [material?, colliders_changeBody, Arena.get?_remove]
    split <;> rfl

theorem colliders_removeSpring (w : World) (key : Key) :
    (w.removeSpring key).colliders = w.colliders := by
  unfold removeSpring
  split <;> rfl

theorem colliders_foldl_removeSpring (keys : List Key) (w : World) :
    (keys.foldl removeSpring w).colliders = w.colliders := by
  induction keys generalizing w with
  | nil => rfl
  | cons key keys ih => rw [List.foldl_cons, ih, colliders_removeSpring]

theorem material?_of_removeBody {w : World} {key k : Key} {material : Material}
    (h : (w.removeBody key).material? k = some material) : w.material? k = some material := by
  unfold removeBody at h
  split at h
  · exact h
  · rw [material?, colliders_foldl_removeSpring, Arena.get?_foldl_remove] at h
    split at h
    · cases h
    · exact h

theorem material?_setMaterial (w : World) (key : Key) (material : Material) (k : Key) :
    (w.setMaterial key material).material? k =
      if k = key then (w.material? k).map fun _ => material else w.material? k := by
  have hreplaced : ∀ f : Collider → Collider, (∀ c, (f c).material = material) →
      ((w.colliders.modify key f).get? k).map (·.material) =
        if k = key then (w.material? k).map fun _ => material else w.material? k := by
    intro f hf
    rw [Arena.get?_modify]
    split
    · simp only [material?, Option.map_map, Function.comp_def, hf]
    · rfl
  unfold setMaterial
  split
  next hnone =>
    split
    next heq => rw [heq, material?, hnone, Option.map_none, Option.map_none]
    next => rfl
  next collider _ =>
    dsimp only
    split
    · rw [material?, colliders_stir, hreplaced]
      intro c
      rfl
    · rw [material?, colliders_changeBody, colliders_stir, hreplaced]
      intro c
      rfl

end Engine.World

theorem WorldChange.material?_apply (change : WorldChange) (world : World) (key : Key) :
    (change.apply world).material? key = world.material? key := by
  cases change <;> rfl

inductive MaterialPart where
  | friction
  | restitution
  | density
  | isSensor
  deriving DecidableEq

def Material.part (m : Material) : MaterialPart → Float32 ⊕ Bool
  | .friction => .inl m.friction
  | .restitution => .inl m.restitution
  | .density => .inl m.density
  | .isSensor => .inr m.isSensor

/-- The coefficients of a material are finite and not negative. -/
structure Material.Admissible (m : Material) : Prop where
  friction : m.friction.isFinite = true ∧ 0 ≤ m.friction
  restitution : m.restitution.isFinite = true ∧ 0 ≤ m.restitution
  density : m.density.isFinite = true ∧ 0 ≤ m.density

namespace FixtureChange

/-- The part of a material that a change is about. -/
def part : FixtureChange → MaterialPart
  | sensor _ => .isSensor
  | density _ => .density
  | friction _ => .friction
  | restitution _ => .restitution

def value : FixtureChange → Float32 ⊕ Bool
  | sensor isSensor => .inr isSensor
  | density x | friction x | restitution x => .inl x

theorem part_apply (change : FixtureChange) (m : Material) (p : MaterialPart) :
    (change.apply m).part p = if p = change.part then change.value else m.part p := by
  cases change <;> cases p <;> rfl

end FixtureChange

theorem checkNonNegative_eq_ok_iff {quantity : Quantity} {x y : Float32} :
    checkNonNegative quantity x = .ok y ↔ (x.isFinite = true ∧ 0 ≤ x) ∧ y = x := by
  unfold checkNonNegative
  split
  · rename_i h
    obtain ⟨hfinite, hpositive⟩ := Bool.and_eq_true_iff.mp h
    simp only [hfinite, of_decide_eq_true hpositive, and_self, true_and, Except.ok.injEq, eq_comm]
  · rename_i h
    simp only [Bool.and_eq_true, decide_eq_true_eq] at h
    simp [h]

theorem Material.admissible_of_check {m : Material} (h : m.check = .ok ()) : m.Admissible := by
  simp only [Material.check, bind_eq_ok_iff, checkNonNegative_eq_ok_iff] at h
  obtain ⟨-, ⟨hfriction, -⟩, -, ⟨hrestitution, -⟩, -, ⟨hdensity, -⟩, -⟩ := h
  exact ⟨hfriction, hrestitution, hdensity⟩

theorem Material.Admissible.apply {m : Material} (h : m.Admissible) {change : FixtureChange}
    (hchange : change.check = .ok ()) : (change.apply m).Admissible := by
  have hvalue : ∀ {quantity : Quantity} {x : Float32},
      (checkNonNegative quantity x).map (fun _ => ()) = .ok () → x.isFinite = true ∧ 0 ≤ x := by
    intro quantity x hmap
    cases hcheck : checkNonNegative quantity x with
    | error e =>
        rw [hcheck] at hmap
        cases hmap
    | ok y => exact (checkNonNegative_eq_ok_iff.mp hcheck).1
  cases change with
  | sensor isSensor => exact ⟨h.friction, h.restitution, h.density⟩
  | density x => exact ⟨h.friction, h.restitution, hvalue hchange⟩
  | friction x => exact ⟨hvalue hchange, h.restitution, h.density⟩
  | restitution x => exact ⟨h.friction, hvalue hchange, h.density⟩

namespace Registry

variable {r r' r'' : Registry} {w : Handle .world} {world : World}

/-- The material that a collider has for the engine. -/
def colliderMaterial? (r : Registry) (w : Handle .world) (key : Key) : Option Material :=
  (r.worlds.get? w).bind (·.material? key)

theorem colliderMaterial?_eq_some_iff {key : Key} {m : Material} :
    r.colliderMaterial? w key = some m ↔ ∃ world collider, r.worlds.get? w = some world ∧
      world.colliders.get? key = some collider ∧ collider.material = m := by
  simp only [colliderMaterial?, Option.bind_eq_some_iff, World.material?, Option.map_eq_some_iff,
    exists_and_left]

theorem colliderMaterial?_of_get? (hw : r.worlds.get? w = some world) (key : Key) :
    r.colliderMaterial? w key = world.material? key := by
  rw [colliderMaterial?, hw, Option.bind_some]

/-- The records of fixtures agree with their colliders, and their materials are admissible. -/
structure Agreed (r : Registry) : Prop where
  collider : ∀ {f rec}, r.fixtures.get? f = some rec →
    r.colliderMaterial? rec.world rec.native = some rec.material
  admissible : ∀ {f rec}, r.fixtures.get? f = some rec → rec.material.Admissible

theorem agreed_empty : Agreed empty := by
  constructor <;> simp [empty, HandleTable.get?, HandleTable.empty]

/-- The fixtures that are left keep their records, and the colliders that are left keep their
materials. -/
structure Spares (r r' : Registry) : Prop where
  record : ∀ {f rec}, r'.fixtures.get? f = some rec → r.fixtures.get? f = some rec
  collider : ∀ {w key m}, r'.colliderMaterial? w key = some m → r.colliderMaterial? w key = some m

/-- One more fixture is attached. -/
structure Attaches (r r' : Registry) (f : Handle .fixture) (rec : FixtureRecord) : Prop where
  record : ∀ g, r'.fixtures.get? g = if g = f then some rec else r.fixtures.get? g
  collider : ∀ w key, r'.colliderMaterial? w key =
    if w = rec.world ∧ key = rec.native then some rec.material else r.colliderMaterial? w key

/-- The material of one fixture is changed in its record and in its collider. -/
structure Changes (r r' : Registry) (f : Handle .fixture) (rec : FixtureRecord)
    (change : FixtureChange) : Prop where
  found : r.fixtures.get? f = some rec
  record : ∀ g, r'.fixtures.get? g =
    if g = f then some { rec with material := change.apply rec.material } else r.fixtures.get? g
  collider : ∀ w key, r'.colliderMaterial? w key =
    if w = rec.world ∧ key = rec.native then (r.colliderMaterial? w key).map change.apply
    else r.colliderMaterial? w key

theorem Spares.refl (r : Registry) : Spares r r := ⟨id, id⟩

theorem Spares.trans (h : Spares r r') (h' : Spares r' r'') : Spares r r'' :=
  ⟨h.record ∘ h'.record, h.collider ∘ h'.collider⟩

theorem Sound.exists_colliderMaterial (hs : r.Sound) {f : Handle .fixture} {rec : FixtureRecord}
    (hrec : r.fixtures.get? f = some rec) :
    ∃ m, r.colliderMaterial? rec.world rec.native = some m := by
  have hslice : (r.slice rec.world).fixtures f = some rec :=
    slice_fixtures_eq_some_iff.mpr ⟨hrec, rfl⟩
  obtain ⟨world, hw⟩ := hs.world_of_fixture hslice
  obtain ⟨identity, hidentity, -⟩ := (hs.mirrors hw).fixtures.present hslice
  obtain ⟨collider, hcollider, -⟩ :=
    Option.map_eq_some_iff.mp ((Arena.get?_map ..).symm.trans hidentity)
  exact ⟨collider.material, colliderMaterial?_eq_some_iff.mpr ⟨world, collider, hw, hcollider, rfl⟩⟩

theorem Sound.fixture_eq_of_native_eq (hs : r.Sound) {f g : Handle .fixture}
    {rec rec' : FixtureRecord} (hf : r.fixtures.get? f = some rec)
    (hg : r.fixtures.get? g = some rec')
    (hsame : rec.world = rec'.world ∧ rec.native = rec'.native) : f = g := by
  obtain ⟨hworld, hnative⟩ := hsame
  have hslice : (r.slice rec'.world).fixtures f = some rec :=
    slice_fixtures_eq_some_iff.mpr ⟨hf, hworld⟩
  have hslice' : (r.slice rec'.world).fixtures g = some rec' :=
    slice_fixtures_eq_some_iff.mpr ⟨hg, rfl⟩
  obtain ⟨world, hw⟩ := hs.world_of_fixture hslice'
  exact (hs.mirrors hw).fixtures.injective hslice hslice' hnative

theorem Agreed.spare (h : r.Agreed) (hs' : r'.Sound) (hspares : Spares r r') : r'.Agreed where
  collider := by
    intro f rec hrec
    obtain ⟨m, hm⟩ := hs'.exists_colliderMaterial hrec
    have hbefore := h.collider (hspares.record hrec)
    rw [hspares.collider hm] at hbefore
    rw [hm, hbefore]
  admissible hrec := h.admissible (hspares.record hrec)

theorem Agreed.attach (h : r.Agreed) (hs' : r'.Sound) {f : Handle .fixture} {rec : FixtureRecord}
    (hattaches : Attaches r r' f rec) (hm : rec.material.Admissible) : r'.Agreed := by
  have hself : r'.fixtures.get? f = some rec := by rw [hattaches.record, if_pos rfl]
  have hcases : ∀ {g other}, r'.fixtures.get? g = some other →
      other = rec ∨ g ≠ f ∧ r.fixtures.get? g = some other := by
    intro g other hother
    by_cases hg : g = f
    · exact .inl (Option.some.inj ((hg ▸ hother).symm.trans hself))
    · rw [hattaches.record, if_neg hg] at hother
      exact .inr ⟨hg, hother⟩
  constructor
  · intro g other hother
    rw [hattaches.collider]
    rcases hcases hother with rfl | ⟨hg, hbefore⟩
    · rw [if_pos ⟨rfl, rfl⟩]
    · rw [if_neg fun hsame => hg (hs'.fixture_eq_of_native_eq hother hself hsame)]
      exact h.collider hbefore
  · intro g other hother
    rcases hcases hother with rfl | ⟨-, hbefore⟩
    · exact hm
    · exact h.admissible hbefore

theorem Agreed.change (h : r.Agreed) (hs : r.Sound) {f : Handle .fixture} {rec : FixtureRecord}
    {change : FixtureChange} (hchanges : Changes r r' f rec change)
    (hcheck : change.check = .ok ()) : r'.Agreed := by
  have hbefore := h.collider hchanges.found
  constructor
  · intro g other hother
    rw [hchanges.record] at hother
    rw [hchanges.collider]
    split at hother
    · obtain rfl := Option.some.inj hother
      rw [if_pos ⟨rfl, rfl⟩, hbefore, Option.map_some]
    · rename_i hg
      rw [if_neg fun hsame => hg (hs.fixture_eq_of_native_eq hother hchanges.found hsame)]
      exact h.collider hother
  · intro g other hother
    rw [hchanges.record] at hother
    split at hother
    · obtain rfl := Option.some.inj hother
      exact (h.admissible hchanges.found).apply hcheck
    · exact h.admissible hother

theorem colliderMaterial?_modifyWorld (r : Registry) (w : Handle .world) (f : World → World)
    (v : Handle .world) (key : Key) :
    (r.modifyWorld w f).colliderMaterial? v key =
      if v = w then (r.worlds.get? v).bind fun world => (f world).material? key
      else r.colliderMaterial? v key := by
  rw [colliderMaterial?, get?_modifyWorld]
  split
  · rw [Option.bind_map]
    rfl
  · rfl

theorem spares_modifyWorld (r : Registry) (w : Handle .world) {f : World → World}
    (hf : ∀ world key m, (f world).material? key = some m → world.material? key = some m) :
    Spares r (r.modifyWorld w f) := by
  refine ⟨id, ?_⟩
  intro v key m hm
  rw [colliderMaterial?_modifyWorld] at hm
  split at hm
  · obtain ⟨world, hw, hmaterial⟩ := Option.bind_eq_some_iff.mp hm
    exact Option.bind_eq_some_iff.mpr ⟨world, hw, hf world key m hmaterial⟩
  · exact hm

theorem spares_replaceWorld (hw : r.worlds.get? w = some world) {world' : World}
    (hmaterial : ∀ key m, world'.material? key = some m → world.material? key = some m) :
    Spares r (r.modifyWorld w fun _ => world') := by
  refine ⟨id, ?_⟩
  intro v key m hm
  rw [colliderMaterial?_modifyWorld] at hm
  split at hm
  · rename_i hv
    rw [hv, hw, Option.bind_some] at hm
    rw [hv, colliderMaterial?_of_get? hw]
    exact hmaterial key m hm
  · exact hm

theorem colliderMaterial?_resetMass (r : Registry) (b : Handle .body) (rec : BodyRecord)
    (w : Handle .world) (key : Key) :
    (r.resetMass b rec).colliderMaterial? w key = r.colliderMaterial? w key := by
  rw [resetMass, colliderMaterial?_modifyWorld]
  split
  · simp only [colliderMaterial?, World.material?, World.colliders_changeBody]
  · rfl

theorem spares_resetMass (r : Registry) (b : Handle .body) (rec : BodyRecord) :
    Spares r (r.resetMass b rec) := by
  refine ⟨id, ?_⟩
  intro w key m hm
  rwa [colliderMaterial?_resetMass] at hm

theorem spares_step {dt : Float32} {velocityIterations positionIterations : UInt32}
    {snapshot : Snapshot}
    (h : step w dt velocityIterations positionIterations r = .ok (snapshot, r')) :
    Spares r r' := by
  obtain ⟨-, -, -, rfl | rfl⟩ := step_eq_ok h
  · exact Spares.refl _
  · refine spares_modifyWorld r w ?_
    intro world key m hm
    rwa [World.material?_advance] at hm

theorem spares_addWorld (hs : r.Sound) (gravity : Vec2) (settings : WorldSettings) :
    Spares r (r.addWorld (World.create gravity settings)) := by
  refine ⟨id, ?_⟩
  intro w key m hm
  rw [colliderMaterial?, addWorld, HandleTable.get?_append hs.worlds] at hm
  split at hm
  · rw [Option.bind_some, World.material?_create] at hm
    cases hm
  · exact hm

theorem spares_dropWorld (hs : r.Sound) (w : Handle .world) : Spares r (r.dropWorld w) := by
  constructor
  · intro f rec hrec
    have hfilter := HandleTable.get?_eraseWhere hs.fixtures (fun f => f.world = w) f
    exact (Option.filter_eq_some_iff.mp (hfilter.symm.trans hrec)).1
  · intro v key m hm
    rw [colliderMaterial?, get?_dropWorld] at hm
    split at hm
    · cases hm
    · exact hm

theorem spares_dropBody (hs : r.Sound) (b : Handle .body) (rec : BodyRecord) :
    Spares r (r.dropBody b rec) := by
  refine Spares.trans ?_ (spares_modifyWorld _ rec.world fun _ _ _ => World.material?_of_removeBody)
  refine ⟨?_, id⟩
  intro f fixture hrec
  have hfilter := HandleTable.get?_eraseWhere hs.fixtures (fun f => f.body = b) f
  exact (Option.filter_eq_some_iff.mp (hfilter.symm.trans hrec)).1

theorem spares_dropFixture (r : Registry) (f : Handle .fixture) (rec : FixtureRecord) :
    Spares r (r.dropFixture f rec) := by
  have herase : Spares r { r with fixtures := r.fixtures.erase f } := by
    refine ⟨?_, id⟩
    intro g other hother
    rw [HandleTable.get?_erase] at hother
    split at hother
    · cases hother
    · exact hother
  refine herase.trans (spares_modifyWorld _ rec.world ?_)
  · intro world key m hm
    rw [World.material?_removeCollider] at hm
    split at hm
    · cases hm
    · exact hm

theorem spares_addBody (hw : r.worlds.get? w = some world) (native : Key) (kind : BodyKind)
    (place : Vec2) (tag : Nat) :
    Spares r (r.addBody ⟨w, native⟩ (world.insertBody kind place tag).2) := by
  have hworld : Spares r (r.modifyWorld w fun _ => (world.insertBody kind place tag).2) := by
    refine spares_replaceWorld hw ?_
    intro key m hm
    rwa [World.material?_insertBody] at hm
  exact ⟨hworld.record, hworld.collider⟩

theorem spares_addJoint (hw : r.worlds.get? w = some world) (a b : Handle .body) (native : Key)
    (spring : Spring) :
    Spares r (r.addJoint ⟨w, a, b, native⟩ (world.insertSpring spring).2) := by
  have hworld : Spares r (r.modifyWorld w fun _ => (world.insertSpring spring).2) :=
    spares_replaceWorld hw fun _ _ hm => hm
  exact ⟨hworld.record, hworld.collider⟩

theorem spares_dropJoint (r : Registry) (j : Handle .joint) (rec : JointRecord) :
    Spares r (r.dropJoint j rec) := by
  have herase : Spares r { r with joints := r.joints.erase j } := ⟨id, id⟩
  refine herase.trans (spares_modifyWorld _ rec.world ?_)
  intro world key m hm
  rwa [World.material?_congr (World.colliders_removeSpring ..)] at hm

theorem Sound.wellFormed_bodies (hs : r.Sound) (hw : r.worlds.get? w = some world) :
    world.bodies.WellFormed := by
  have hcensus : (world.bodies.map fun _ b => b.identity).WellFormed :=
    (hs.mirrors hw).coherent.bodies
  exact Arena.wellFormed_of_map hcensus

theorem Sound.wellFormed_colliders (hs : r.Sound) (hw : r.worlds.get? w = some world) :
    world.colliders.WellFormed := by
  have hcensus : (world.colliders.map fun _ c => c.identity).WellFormed :=
    (hs.mirrors hw).coherent.colliders
  exact Arena.wellFormed_of_map hcensus

theorem attaches_addFixture (hs : r.Sound) (hw : r.worlds.get? w = some world) (b : Handle .body)
    (solid : Solid) (material : Material) {f : Handle .fixture} (hissue : r.fixtures.issue = .ok f)
    (parent : Key) :
    let inserted := world.insertCollider solid material f.tag parent
    Attaches r (r.addFixture ⟨w, b, inserted.1, material⟩ inserted.2) f
      ⟨w, b, inserted.1, material⟩ := by
  intro inserted
  obtain ⟨-, rfl⟩ := HandleTable.issue_eq_ok_iff.mp hissue
  refine ⟨HandleTable.get?_append hs.fixtures _, ?_⟩
  intro v key
  show (r.modifyWorld w fun _ => inserted.2).colliderMaterial? v key = _
  rw [colliderMaterial?_modifyWorld]
  by_cases hv : v = w
  · subst hv
    rw [if_pos rfl, hw, Option.bind_some,
      World.material?_insertCollider (hs.wellFormed_colliders hw), colliderMaterial?_of_get? hw]
    by_cases hkey : key = inserted.1
    · rw [if_pos hkey, if_pos ⟨rfl, hkey⟩]
    · rw [if_neg hkey, if_neg fun hsame => hkey hsame.2]
  · rw [if_neg hv, if_neg fun hsame => hv hsame.1]

theorem Attaches.trans {f : Handle .fixture} {rec : FixtureRecord} (h : Attaches r r' f rec)
    (b : Handle .body) (body : BodyRecord) : Attaches r (r'.resetMass b body) f rec := by
  refine ⟨h.record, ?_⟩
  intro w key
  rw [colliderMaterial?_resetMass, h.collider]

theorem Changes.trans {f : Handle .fixture} {rec : FixtureRecord} {change : FixtureChange}
    (h : Changes r r' f rec change) (b : Handle .body) (body : BodyRecord) :
    Changes r (r'.resetMass b body) f rec change := by
  refine ⟨h.found, h.record, ?_⟩
  intro w key
  rw [colliderMaterial?_resetMass, h.collider]

theorem changes_changeMaterial {f : Handle .fixture} {rec : FixtureRecord} {collider : Collider}
    (hrec : r.fixtures.get? f = some rec) (hw : r.worlds.get? rec.world = some world)
    (hcollider : world.colliders.get? rec.native = some collider) (change : FixtureChange) :
    Changes r ((r.modifyWorld rec.world (·.setMaterial rec.native (change.apply
      collider.material))).changeMaterial f change.apply) f rec change := by
  refine ⟨hrec, ?_, ?_⟩
  · intro g
    refine (HandleTable.get?_modify r.fixtures f _ g).trans ?_
    by_cases hg : g = f
    · rw [if_pos hg, if_pos hg, hg, hrec, Option.map_some]
    · rw [if_neg hg, if_neg hg]
  · intro v key
    show (r.modifyWorld rec.world _).colliderMaterial? v key = _
    rw [colliderMaterial?_modifyWorld]
    by_cases hv : v = rec.world
    · rw [if_pos hv, hv, hw, Option.bind_some, World.material?_setMaterial,
        colliderMaterial?_of_get? hw]
      by_cases hkey : key = rec.native
      · rw [if_pos hkey, if_pos ⟨rfl, hkey⟩, hkey, World.material?, hcollider]
        rfl
      · rw [if_neg hkey, if_neg fun hsame => hkey hsame.2]
    · rw [if_neg hv, if_neg fun hsame => hv hsame.1]

theorem check_of_createFixture {b : Handle .body} {shape : ShapeDescriptor} {material : Material}
    {f : Handle .fixture} (h : createFixture w b shape material r = .ok (f, r')) :
    material.check = .ok () := by
  simp only [createFixture, bind_eq_ok_iff] at h
  obtain ⟨_, _, _, hcheck, -⟩ := h
  exact hcheck

theorem check_of_setFixture {f : Handle .fixture} {change : FixtureChange} {u : Unit}
    (h : setFixture w f change r = .ok (u, r')) : change.check = .ok () := by
  simp only [setFixture, bind_eq_ok_iff] at h
  obtain ⟨_, hcheck, -⟩ := h
  exact hcheck

end Registry

namespace Operation

open Registry

variable {config : Config} {op : Operation} {r r' : Registry} {outcome : Outcome}

/-- What an operation that is not refused does to the materials of fixtures. -/
inductive Deals (op : Operation) (outcome : Outcome) (r r' : Registry) : Prop
  | attaches {shape : ShapeDescriptor} {f : Handle .fixture} {rec : FixtureRecord}
      (hop : op = .createFixture rec.world rec.body shape rec.material)
      (hout : outcome = .handle f) (hm : rec.material.Admissible) (h : Attaches r r' f rec)
  | changes {f : Handle .fixture} {rec : FixtureRecord} {change : FixtureChange}
      (hop : op = .setFixture rec.world f change) (hcheck : change.check = .ok ())
      (h : Changes r r' f rec change)
  | spares (hset : ∀ w f change, op ≠ .setFixture w f change) (h : Spares r r')

theorem deals_transact (hs : r.Sound) (hok : op.transact config r = .ok (outcome, r')) :
    op.Deals outcome r r' := by
  cases transition_transact hok with
  | @createFixture w b shape material f r' hcreate =>
      have hm := Material.admissible_of_check (check_of_createFixture hcreate)
      obtain ⟨solid, rec, world, native, -, -, hw, hissue, rfl, rfl⟩ := createFixture_eq_ok hcreate
      exact .attaches rfl rfl hm
        ((attaches_addFixture hs hw b solid material hissue rec.native).trans b rec)
  | @setFixture w f change u r' hset =>
      have hcheck := check_of_setFixture hset
      obtain ⟨rec, collider, body, changed, hlocate, -, rfl, rfl⟩ := setFixture_eq_ok hset
      obtain ⟨world, hrec, hw, hcollider⟩ := locateFixture_eq_ok hlocate
      obtain ⟨hget, rfl⟩ := slice_fixtures_eq_some_iff.mp (hs.fixture_eq_ok_iff.mp hrec)
      have hchanges := changes_changeMaterial hget hw hcollider change
      refine .changes rfl hcheck ?_
      split
      · exact hchanges.trans rec.body body
      · exact hchanges
  | @createWorld gravity allowSleep w r' hcreate =>
      obtain ⟨-, rfl⟩ := createWorld_eq_ok hcreate
      exact .spares nofun (spares_addWorld hs gravity _)
  | destroyWorld hdestroy =>
      obtain ⟨-, rfl⟩ := destroyWorld_eq_ok hdestroy
      exact .spares nofun (spares_dropWorld hs _)
  | @setWorld w change u r' hset =>
      obtain ⟨-, rfl⟩ := changeWorld_eq_ok hset
      refine .spares nofun (spares_modifyWorld r w ?_)
      intro world key m hm
      rwa [change.material?_apply] at hm
  | step hstep | stepDefault hstep => exact .spares nofun (spares_step hstep)
  | @createBody w kind place b r' hcreate =>
      obtain ⟨world, native, hw, -, -, rfl⟩ := createBody_eq_ok hcreate
      exact .spares nofun
        ((spares_addBody hw native kind place b.tag).trans (spares_resetMass ..))
  | deleteBody hdelete =>
      obtain ⟨rec, -, rfl⟩ := deleteBody_eq_ok hdelete
      exact .spares nofun (spares_dropBody hs _ rec)
  | setBody hset =>
      obtain ⟨rec, -, rfl⟩ := changeBody_eq_ok hset
      refine .spares nofun (spares_modifyWorld r _ ?_)
      intro world key m hm
      rwa [World.material?_congr (World.colliders_changeBody ..)] at hm
  | deleteFixture hdelete =>
      obtain ⟨rec, body, -, -, rfl⟩ := deleteFixture_eq_ok hdelete
      exact .spares nofun ((spares_dropFixture r _ rec).trans (spares_resetMass ..))
  | @createJoint w a b _ j r' hcreate | @createDefaultJoint w a b j r' hcreate =>
      obtain ⟨recA, recB, world, spring, -, -, hw, -, -, -, -, rfl⟩ := createJoint_eq_ok hcreate
      exact .spares nofun (spares_addJoint hw a b _ spring)
  | deleteJoint hdelete =>
      obtain ⟨rec, -, rfl⟩ := deleteJoint_eq_ok hdelete
      exact .spares nofun (spares_dropJoint r _ rec)
  | question hasks =>
      refine .spares ?_ (Spares.refl _)
      rintro w f change rfl
      cases hasks

theorem agreed_transact (hs : r.Sound) (hagreed : r.Agreed)
    (hok : op.transact config r = .ok (outcome, r')) : r'.Agreed := by
  rcases deals_transact hs hok with ⟨-, -, hm, h⟩ | ⟨-, hcheck, h⟩ | ⟨-, h⟩
  · exact hagreed.attach (sound_transact hs hok) h hm
  · exact hagreed.change hs h hcheck
  · exact hagreed.spare (sound_transact hs hok) h

end Operation

namespace Event

/-- A fixture is attached with a material. -/
def Attaches (e : Event) (f : Handle .fixture) (w : Handle .world) (b : Handle .body)
    (material : Material) : Prop :=
  ∃ shape, e.op = .createFixture w b shape material ∧ e.result = .ok (.handle f)

/-- The change that is made to the material of a fixture, if there is one. -/
def change? (f : Handle .fixture) (e : Event) : Option FixtureChange :=
  match e.op with
  | .setFixture _ g change => if g = f ∧ e.result.isOk then some change else none
  | _ => none

theorem change?_of_refused (f : Handle .fixture) (op : Operation) (e : Error) :
    change? f ⟨op, .error e⟩ = none := by
  unfold change?
  split
  · exact if_neg fun hboth => Bool.false_ne_true hboth.2
  · rfl

end Event

/-- A material overwritten, in order, by the changes that are made to a fixture. -/
def Material.overwritten (f : Handle .fixture) (t : List Event) (m : Material) : Material :=
  (t.filterMap (Event.change? f)).foldl (fun m change => change.apply m) m

theorem Material.overwritten_append (f : Handle .fixture) (t t' : List Event) (m : Material) :
    m.overwritten f (t ++ t') = (m.overwritten f t).overwritten f t' := by
  simp only [overwritten, List.filterMap_append, List.foldl_append]

theorem Material.overwritten_singleton (f : Handle .fixture) (e : Event) (m : Material) :
    m.overwritten f [e] =
      match e.change? f with
      | some change => change.apply m
      | none => m := by
  unfold overwritten
  cases hchange : e.change? f with
  | none => rw [List.filterMap_cons_none hchange, List.filterMap_nil, List.foldl_nil]
  | some change =>
      rw [List.filterMap_cons_some hchange, List.filterMap_nil, List.foldl_cons, List.foldl_nil]

/-- A fixture is attached in a history, and has had its material overwritten since. -/
def Told (t : List Event) (f : Handle .fixture) (rec : FixtureRecord) : Prop :=
  ∃ before e after material, t = before ++ e :: after ∧
    e.Attaches f rec.world rec.body material ∧ rec.material = material.overwritten f after

namespace Simulator

open Registry

variable {s : Simulator}

theorem deals_perform (hs : s.registry.Sound) (op : Operation) :
    (∃ e, op.perform s = (.error e, s)) ∨
      ∃ outcome s', op.perform s = (.ok outcome, s') ∧
        op.Deals outcome s.registry s'.registry :=
  (perform_cases hs op).imp_right fun ⟨outcome, s', heq, hok⟩ =>
    ⟨outcome, s', heq, Operation.deals_transact hs hok⟩

theorem agreed_perform (hs : s.registry.Sound) (hagreed : s.registry.Agreed) (op : Operation) :
    (op.perform s).2.registry.Agreed :=
  keep_perform hs op hagreed (Operation.agreed_transact hs hagreed)

theorem agreed_performAll (hs : s.registry.Sound) (hagreed : s.registry.Agreed)
    (ops : List Operation) : (s.performAll ops).registry.Agreed := by
  induction ops generalizing s with
  | nil => exact hagreed
  | cons op ops ih => exact ih (Operation.sound_perform hs op) (agreed_perform hs hagreed op)

theorem fixture_perform (hs : s.registry.Sound) (op : Operation) {f : Handle .fixture}
    {rec : FixtureRecord} (hrec : (op.perform s).2.registry.fixtures.get? f = some rec) :
    (op.event s).Attaches f rec.world rec.body rec.material ∨
      ∃ rec', s.registry.fixtures.get? f = some rec' ∧
        rec = { rec' with material := rec'.material.overwritten f [op.event s] } := by
  unfold Operation.event
  rcases deals_perform hs op with ⟨e, heq⟩ | ⟨outcome, s', heq, hdeals⟩
  · rw [heq] at hrec ⊢
    refine .inr ⟨rec, hrec, ?_⟩
    rw [Material.overwritten_singleton, Event.change?_of_refused]
  · rw [heq] at hrec ⊢
    rcases hdeals with ⟨hop, rfl, -, h⟩ | ⟨rfl, -, h⟩ | ⟨hset, h⟩
    · rw [h.record] at hrec
      split at hrec
      · rename_i hf
        obtain rfl := Option.some.inj hrec
        exact .inl ⟨_, hop, by rw [hf]⟩
      · refine .inr ⟨rec, hrec, ?_⟩
        rw [hop]
        rfl
    · rw [h.record] at hrec
      split at hrec
      · rename_i hf
        obtain rfl := Option.some.inj hrec
        refine .inr ⟨_, hf ▸ h.found, ?_⟩
        rw [Material.overwritten_singleton]
        simp only [Event.change?, hf, Except.isOk, Except.toBool, and_self, if_true]
      · rename_i hf
        refine .inr ⟨rec, hrec, ?_⟩
        rw [Material.overwritten_singleton]
        simp only [Event.change?, Ne.symm hf, false_and, if_false]
    · refine .inr ⟨rec, h.record hrec, ?_⟩
      have hnone : Event.change? f ⟨op, .ok outcome⟩ = none := by
        unfold Event.change?
        split
        · rename_i hop
          exact absurd hop (hset _ _ _)
        · rfl
      rw [Material.overwritten_singleton, hnone]

theorem fixture_performAll (hs : s.registry.Sound) (ops : List Operation) {f : Handle .fixture}
    {rec : FixtureRecord} (hrec : (s.performAll ops).registry.fixtures.get? f = some rec) :
    Told (s.history ops) f rec ∨
      ∃ rec', s.registry.fixtures.get? f = some rec' ∧
        rec = { rec' with material := rec'.material.overwritten f (s.history ops) } := by
  induction ops generalizing s with
  | nil => exact .inr ⟨rec, hrec, rfl⟩
  | cons op ops ih =>
      rw [history]
      rcases ih (Operation.sound_perform hs op) hrec with htold | ⟨rec', hrec', rfl⟩
      · obtain ⟨before, e, after, material, hsplit, hrest⟩ := htold
        exact .inl ⟨op.event s :: before, e, after, material, by rw [hsplit]; rfl, hrest⟩
      · -- The rest of the run overwrites what the first operation left.
        rcases fixture_perform hs op hrec' with hattaches | ⟨first, hfirst, rfl⟩
        · exact .inl ⟨[], op.event s, _, _, rfl, hattaches, rfl⟩
        · refine .inr ⟨first, hfirst, ?_⟩
          exact congrArg (fun m => { first with material := m })
            (Material.overwritten_append f [op.event s] _ first.material).symm

end Simulator

/-- What is known of the materials of the fixtures in a simulator with a history. -/
structure MaterialsAgree (s : Simulator) (t : List Event) : Prop where
  collider : ∀ {f rec}, s.registry.fixtures.get? f = some rec →
    ∃ world collider, s.registry.worlds.get? rec.world = some world ∧
      world.colliders.get? rec.native = some collider ∧ collider.material = rec.material
  admissible : ∀ {f rec}, s.registry.fixtures.get? f = some rec → rec.material.Admissible
  told : ∀ {f rec}, s.registry.fixtures.get? f = some rec → Told t f rec
  changed : ∀ {w f change outcome s'},
    (Operation.setFixture w f change).perform s = (.ok outcome, s') →
      (∃ rec, s.registry.fixtures.get? f = some rec ∧ rec.world = w) ∧
        ∀ {g rec}, s.registry.fixtures.get? g = some rec →
          ∃ material, s'.registry.fixtures.get? g = some { rec with material := material } ∧
            ∀ p, material.part p =
              if g = f ∧ p = change.part then change.value else rec.material.part p

/-- In every simulator that a run leads to, fixtures and colliders agree on materials, and every
material is the one that its fixture was attached with, overwritten in order by the changes made to
that fixture, each of which changes one part of one material. -/
theorem materialsAgree_performAll (config : Config) (ops : List Operation) :
    MaterialsAgree ((Simulator.start config).performAll ops)
      ((Simulator.start config).history ops) := by
  have hstart := Simulator.sound_start config
  have hs := Simulator.sound_performAll hstart ops
  have hagreed := Simulator.agreed_performAll hstart Registry.agreed_empty ops
  refine ⟨?_, hagreed.admissible, ?_, ?_⟩
  · intro f rec hrec
    exact Registry.colliderMaterial?_eq_some_iff.mp (hagreed.collider hrec)
  · intro f rec hrec
    rcases Simulator.fixture_performAll hstart ops hrec with htold | ⟨rec', hrec', -⟩
    · exact htold
    · cases hrec'
  · intro w f change outcome s' hset
    rcases Simulator.deals_perform hs (.setFixture w f change) with ⟨e, heq⟩ | ⟨_, _, heq, hdeals⟩
    · cases heq.symm.trans hset
    · cases heq.symm.trans hset
      rcases hdeals with ⟨hop, -⟩ | ⟨hop, -, h⟩ | ⟨hset, -⟩
      · cases hop
      · cases hop
        refine ⟨⟨_, h.found, rfl⟩, ?_⟩
        intro g rec hrec
        rw [h.record]
        by_cases hg : g = f
        · obtain rfl := Option.some.inj ((hg ▸ h.found).symm.trans hrec)
          refine ⟨_, if_pos hg, fun p => ?_⟩
          simp only [hg, true_and, FixtureChange.part_apply]
        · refine ⟨rec.material, (if_neg hg).trans hrec, fun p => ?_⟩
          rw [if_neg fun hboth => hg hboth.1]
      · exact absurd rfl (hset w f change)

/-- The circle of the sample gets another friction and becomes a sensor; a negative density is
refused. -/
example :
    let s := Simulator.sample.performAll [
      .setFixture ⟨0⟩ ⟨0⟩ (.friction 0.5),
      .setFixture ⟨0⟩ ⟨0⟩ (.density (-1)),
      .setFixture ⟨0⟩ ⟨0⟩ (.sensor true)]
    (s.registry.fixtures.get? ⟨0⟩).map (·.material) = some ⟨0.5, 0, 0, true⟩ := by
  decide +kernel

end RigidWorlds
