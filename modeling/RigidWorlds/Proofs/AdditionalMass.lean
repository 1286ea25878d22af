import RigidWorlds.Proofs.Fate
import RigidWorlds.Proofs.Isolation

/-!
The mass that bodies have beside that of their fixtures.  It is derived from the fixtures on record:
a dynamic body has a mass of one unless one of its fixtures is dense, and then it has none.  The
engine never changes it, and operations set it again wherever the fixtures of a body change.
-/

namespace RigidWorlds

open Engine

/-- The kind of a body and the mass that was set for it beside that of its colliders, if any was. -/
structure Supplement where
  kind : BodyKind
  mass : Option Float32

namespace Supplement

/-- A mass of one, unless something dense makes up for it. -/
def ballast (dense : Bool) : Float32 := if dense then 0 else 1

/-- The mass to be set for a body of a kind whose fixtures are dense or not. -/
def due (kind : BodyKind) (dense : Bool) : Option Float32 :=
  if kind = .dynamic then some (ballast dense) else none

def Suits (s : Supplement) (dense : Bool) : Prop := s.mass = due s.kind dense

/-- No mass was set yet, or one that suited the fixtures of the body at some time. -/
def Renewable (s : Supplement) : Prop := s.mass = none ∨ ∃ dense, s.Suits dense

theorem Renewable.mass_dynamic {s : Supplement} (h : s.Renewable) (hkind : s.kind = .dynamic) :
    s.mass = none ∨ ∃ dense, s.mass = some (ballast dense) := by
  refine h.imp_right ?_
  rintro ⟨dense, hdense⟩
  exact ⟨dense, hdense.trans (if_pos hkind)⟩

theorem Renewable.mass_fixed {s : Supplement} (h : s.Renewable) (hkind : s.kind ≠ .dynamic) :
    s.mass = none := by
  rcases h with hnone | ⟨dense, hdense⟩
  · exact hnone
  · exact hdense.trans (if_neg hkind)

end Supplement

namespace Engine

namespace Body

open Supplement

def supplement (b : Body) : Supplement := ⟨b.kind, b.additionalMass⟩

theorem oblivious_supplement : Oblivious supplement := fun _ _ _ _ => rfl

theorem aloof_supplement : Aloof supplement := fun _ _ _ _ _ _ _ => rfl

/-- The body with the mass beside that of its colliders set again. -/
def reweigh (dense : Bool) (b : Body) : Body :=
  if b.isDynamic then b.setAdditionalMass (ballast dense) else b

theorem sameMass_iff {mass : Option Float32}
    (h : mass = none ∨ ∃ before, mass = some (ballast before)) (dense : Bool) :
    sameMass mass (some (ballast dense)) = true ↔ mass = some (ballast dense) := by
  rcases h with rfl | ⟨before, rfl⟩
  · simp [sameMass]
  · cases before <;> cases dense <;> decide

theorem supplement_setAdditionalMass {b : Body}
    (h : b.additionalMass = none ∨ ∃ before, b.additionalMass = some (ballast before))
    (dense : Bool) :
    (b.setAdditionalMass (ballast dense)).supplement = ⟨b.kind, some (ballast dense)⟩ := by
  unfold setAdditionalMass
  split
  · rename_i hsame
    rw [supplement, (sameMass_iff h dense).mp hsame]
  · rfl

theorem suits_reweigh {b : Body} (h : b.supplement.Renewable) (dense : Bool) :
    (b.reweigh dense).supplement.Suits dense := by
  unfold reweigh
  split
  · rename_i hdynamic
    have hkind : b.kind = .dynamic := of_decide_eq_true hdynamic
    rw [supplement_setAdditionalMass (h.mass_dynamic hkind)]
    exact (if_pos hkind).symm
  · rename_i hdynamic
    have hkind : b.kind ≠ .dynamic := fun heq => hdynamic (decide_eq_true heq)
    exact (h.mass_fixed hkind).trans (if_neg hkind).symm

end Body

namespace World

theorem retains_insertCollider (w : World) (solid : Solid) (material : Material) (tag : Nat)
    (parent : Key) :
    Retains Body.supplement w (w.insertCollider solid material tag parent).2 := by
  unfold insertCollider
  refine Retains.trans ?_ (retains_changeBody _ parent fun _ => rfl)
  exact retains_of_bodies_eq Body.supplement (bodies_stir ..)

end World

end Engine

namespace Registry

variable {r r' : Registry} {w : Handle .world} {world : World} {b : Handle .body}

/-- The density of a fixture, provided that it is attached to the body. -/
def densityOn? (r : Registry) (b : Handle .body) (f : Handle .fixture) : Option Float32 :=
  ((r.fixtures.get? f).filter (·.body = b)).map (·.material.density)

theorem isDense_iff_densityOn? (ht : r.fixtures.Settled) :
    r.isDense b = true ↔ ∃ f density, r.densityOn? b f = some density ∧ 0 < density := by
  rw [isDense_iff ht]
  constructor
  · rintro ⟨f, fixture, ⟨hf, hbody⟩, hdensity⟩
    have hon : r.densityOn? b f = some fixture.material.density := by
      rw [densityOn?, hf, Option.filter_some, if_pos (decide_eq_true hbody), Option.map_some]
    exact ⟨f, _, hon, hdensity⟩
  · rintro ⟨f, density, hf, hdensity⟩
    obtain ⟨fixture, hfixture, rfl⟩ := Option.map_eq_some_iff.mp hf
    obtain ⟨hget, hbody⟩ := Option.filter_eq_some_iff.mp hfixture
    exact ⟨f, fixture, ⟨hget, of_decide_eq_true hbody⟩, hdensity⟩

theorem isDense_congr (ht : r.fixtures.Settled) (ht' : r'.fixtures.Settled)
    (h : ∀ f, r'.densityOn? b f = r.densityOn? b f) : r'.isDense b = r.isDense b := by
  rw [Bool.eq_iff_iff, isDense_iff_densityOn? ht, isDense_iff_densityOn? ht']
  simp only [h]

def supplement? (r : Registry) (b : Handle .body) : Option Supplement := do
  let rec' ← r.bodies.get? b
  let world ← r.worlds.get? rec'.world
  let body ← world.bodies.get? rec'.native
  return body.supplement

theorem supplement?_eq_some_iff {s : Supplement} :
    r.supplement? b = some s ↔
      ∃ rec world body, r.Holds b rec world body ∧ body.supplement = s := by
  change (r.bodies.get? b).bind _ = some s ↔ _
  simp only [Option.bind_eq_bind, Option.bind_eq_some_iff, Option.pure_def, Option.some.injEq]
  constructor
  · rintro ⟨rec, hrec, world, hw, body, hbody, heq⟩
    exact ⟨rec, world, body, ⟨hrec, hw, hbody⟩, heq⟩
  · rintro ⟨rec, world, body, ⟨hrec, hw, hbody⟩, heq⟩
    exact ⟨rec, hrec, world, hw, body, hbody, heq⟩

theorem Holds.supplement?_eq {rec : BodyRecord} {body : Body} (h : r.Holds b rec world body) :
    r.supplement? b = some body.supplement :=
  supplement?_eq_some_iff.mpr ⟨rec, world, body, h, rfl⟩

/-- The mass set for a body suits its fixtures. -/
def Suited (r : Registry) (b : Handle .body) : Prop :=
  ∀ s, r.supplement? b = some s → s.Suits (r.isDense b)

/-- The mass of a body may be set again. -/
def Renewable (r : Registry) (b : Handle .body) : Prop :=
  ∀ s, r.supplement? b = some s → s.Renewable

/-- A body that is left has the mass it had. -/
def Lasts (b : Handle .body) (r r' : Registry) : Prop :=
  ∀ s, r'.supplement? b = some s → r.supplement? b = some s

/-- A body that is left has the mass it had, and dense fixtures if it had some. -/
def Leaves (b : Handle .body) (r r' : Registry) : Prop :=
  ∀ s, r'.supplement? b = some s → r.supplement? b = some s ∧ r'.isDense b = r.isDense b

theorem Lasts.leaves (h : Lasts b r r') (hdense : r'.isDense b = r.isDense b) : Leaves b r r' :=
  fun s hs => ⟨h s hs, hdense⟩

theorem Suited.renewable (hr : r.Suited b) (h : Lasts b r r') : r'.Renewable b :=
  fun s hs => .inr ⟨_, hr s (h s hs)⟩

theorem Leaves.trans {r'' : Registry} (h : Leaves b r r') (h' : Leaves b r' r'') :
    Leaves b r r'' := by
  intro s hs
  obtain ⟨hs', hdense'⟩ := h' s hs
  obtain ⟨hs, hdense⟩ := h s hs'
  exact ⟨hs, hdense'.trans hdense⟩

theorem Leaves.suited (h : Leaves b r r') (hr : r.Suited b) : r'.Suited b := by
  intro s hs
  obtain ⟨hs, hdense⟩ := h s hs
  rw [hdense]
  exact hr s hs

theorem lasts_of_evolves (h : Evolves (fun b b' => b'.supplement = b.supplement) r r')
    (b : Handle .body) : Lasts b r r' := by
  intro s hs
  obtain ⟨rec, world', body', hholds, rfl⟩ := supplement?_eq_some_iff.mp hs
  obtain ⟨world, body, hbefore, heq⟩ := h.body hholds
  rw [heq]
  exact hbefore.supplement?_eq

theorem leaves_of_none (h : r'.bodies.get? b = none) : Leaves b r r' := by
  intro s hs
  obtain ⟨rec, world, body, hholds, -⟩ := supplement?_eq_some_iff.mp hs
  cases h.symm.trans hholds.record

theorem leaves_of_densityOn? (hb : r'.bodies.get? b = r.bodies.get? b)
    (hw : r'.worlds = r.worlds) (ht : r.fixtures.Settled) (ht' : r'.fixtures.Settled)
    (h : ∀ f, r'.densityOn? b f = r.densityOn? b f) : Leaves b r r' := by
  intro s hs
  refine ⟨?_, isDense_congr ht ht' h⟩
  simpa only [supplement?, hb, hw] using hs

theorem leaves_modifyWorld (b : Handle .body) {f : World → World}
    (hf : ∀ world, r.worlds.get? w = some world →
      World.Retains Body.supplement world (f world)) :
    Leaves b r (r.modifyWorld w f) := by
  refine (lasts_of_evolves ?_ b).leaves rfl
  exact evolves_of_modifyWorld (fun _ => rfl) id rfl fun world hw =>
    World.retains_iff.mp (hf world hw)

theorem leaves_addWorld (hs : r.Sound) (added : World) (b : Handle .body) :
    Leaves b r (r.addWorld added) :=
  (lasts_of_evolves ⟨fun h => ⟨_, _, holds_addWorld hs h, rfl⟩⟩ b).leaves rfl

theorem leaves_dropWorld (hs : r.Sound) (w : Handle .world) (b : Handle .body) :
    Leaves b r (r.dropWorld w) := by
  intro s hsup
  obtain ⟨rec, world, body, hholds, rfl⟩ := supplement?_eq_some_iff.mp hsup
  have hw : rec.world ≠ w := by
    intro heq
    have hhome := hholds.home
    rw [get?_dropWorld, if_pos heq] at hhome
    cases hhome
  have hbefore := holds_dropWorld hs hholds
  have hslice : (r.slice rec.world).bodies b = some rec :=
    slice_bodies_eq_some_iff.mpr ⟨hbefore.record, rfl⟩
  exact ⟨hbefore.supplement?_eq,
    (hs.confined_dropWorld w rec.world hw).isDense hs (hs.dropWorld w) hslice⟩

theorem leaves_addBody (hs : r.Sound) (hw : r.worlds.get? w = some world) (kind : BodyKind)
    (place : Vec2) (tag : Nat) (hb : b ≠ r.bodies.next) :
    Leaves b r (r.addBody ⟨w, (world.insertBody kind place tag).1⟩
      (world.insertBody kind place tag).2) := by
  intro s hsup
  refine ⟨?_, rfl⟩
  obtain ⟨rec, world', body, hholds, rfl⟩ := supplement?_eq_some_iff.mp hsup
  rcases holds_addBody hs hw kind place tag hholds with ⟨hnext, -⟩ | ⟨found, hbefore⟩
  · exact absurd hnext hb
  · exact hbefore.supplement?_eq

theorem lasts_addFixture (hw : r.worlds.get? w = some world) (solid : Solid) (tag : Nat)
    (parent : Key) (rec : FixtureRecord) (hrec : rec.world = w) (b : Handle .body) :
    Lasts b r (r.addFixture rec (world.insertCollider solid rec.material tag parent).2) := by
  subst hrec
  have hworld : Leaves b r (r.modifyWorld rec.world fun _ =>
      (world.insertCollider solid rec.material tag parent).2) := by
    refine leaves_modifyWorld b fun found hfound => ?_
    obtain rfl := Option.some.inj (hfound.symm.trans hw)
    exact World.retains_insertCollider found solid rec.material tag parent
  exact fun s hs => (hworld s hs).1

theorem isDense_addFixture (hs : r.Sound) {f : Handle .fixture} (hissue : r.fixtures.issue = .ok f)
    {rec : FixtureRecord} (hb : rec.body ≠ b) (world : World) :
    (r.addFixture rec world).isDense b = r.isDense b := by
  refine isDense_congr hs.fixtures (hs.fixtures.append hissue rec) fun g => ?_
  have happend := HandleTable.get?_append hs.fixtures rec g
  simp only [densityOn?, addFixture, modifyWorld, happend]
  split
  · rename_i hnext
    rw [hnext, hs.fixtures.get?_next, Option.filter_some, if_neg (by simpa using hb),
      Option.filter_none]
  · rfl

theorem leaves_addJoint (hw : r.worlds.get? w = some world) (spring : Spring) (rec : JointRecord)
    (hrec : rec.world = w) (b : Handle .body) :
    Leaves b r (r.addJoint rec (world.insertSpring spring).2) := by
  subst hrec
  have hworld : Leaves b r (r.modifyWorld rec.world fun _ => (world.insertSpring spring).2) := by
    refine leaves_modifyWorld b fun found hfound => ?_
    obtain rfl := Option.some.inj (hfound.symm.trans hw)
    exact World.retains_insertSpring Body.oblivious_supplement found spring
  exact fun s hs => hworld s hs

theorem leaves_dropBody (hs : r.Sound) (a : Handle .body) (rec : BodyRecord) (b : Handle .body) :
    Leaves b r (r.dropBody a rec) := by
  by_cases hb : b = a
  · refine leaves_of_none ?_
    have herase := HandleTable.get?_erase r.bodies a b
    rwa [if_pos hb] at herase
  · have hrelease : Leaves b r ({ r with bodies := r.bodies.erase a }.releaseBodyObjects a) := by
      have herase := HandleTable.get?_erase r.bodies a b
      rw [if_neg hb] at herase
      refine leaves_of_densityOn? herase rfl hs.fixtures
        (hs.fixtures.eraseWhere fun f => f.body = a) ?_
      intro f
      have hfilter := HandleTable.get?_eraseWhere hs.fixtures (fun f => f.body = a) f
      simp only [densityOn?, releaseBodyObjects, hfilter]
      cases r.fixtures.get? f with
      | none => rfl
      | some fixture =>
          by_cases hbody : fixture.body = a
          · simp [Option.filter_some, hbody, Ne.symm hb]
          · simp [Option.filter_some, hbody]
    refine hrelease.trans (leaves_modifyWorld b fun world _ => ?_)
    exact World.retains_removeBody Body.oblivious_supplement world rec.native

theorem lasts_dropFixture (r : Registry) (f : Handle .fixture) (rec : FixtureRecord)
    (b : Handle .body) : Lasts b r (r.dropFixture f rec) := by
  have hworld : Leaves b r (r.modifyWorld rec.world (·.removeCollider rec.native)) :=
    leaves_modifyWorld b fun world _ =>
      World.retains_removeCollider Body.oblivious_supplement world rec.native
  exact fun s hs => (hworld s hs).1

theorem isDense_dropFixture (hs : r.Sound) {f : Handle .fixture} {rec : FixtureRecord}
    (hrec : r.fixtures.get? f = some rec) (hb : rec.body ≠ b) :
    (r.dropFixture f rec).isDense b = r.isDense b := by
  refine isDense_congr hs.fixtures (hs.fixtures.erase f) fun g => ?_
  simp only [densityOn?, dropFixture, modifyWorld, HandleTable.get?_erase]
  split
  · rename_i hg
    rw [hg, hrec, Option.filter_some, if_neg (by simpa using hb), Option.filter_none]
  · rfl

theorem leaves_dropJoint (r : Registry) (j : Handle .joint) (rec : JointRecord)
    (b : Handle .body) : Leaves b r (r.dropJoint j rec) := by
  have herase : Leaves b r { r with joints := r.joints.erase j } := fun _ hs => ⟨hs, rfl⟩
  refine herase.trans (leaves_modifyWorld b fun world _ => ?_)
  exact World.retains_removeSpring Body.oblivious_supplement world rec.native

theorem lasts_changeMaterial (r : Registry) (f : Handle .fixture) (change : Material → Material)
    (b : Handle .body) : Lasts b r (r.changeMaterial f change) := fun _ hs => hs

theorem isDense_changeMaterial (hs : r.Sound) {f : Handle .fixture} {change : Material → Material}
    (h : ∀ rec, r.fixtures.get? f = some rec → rec.body = b →
      (change rec.material).density = rec.material.density) :
    (r.changeMaterial f change).isDense b = r.isDense b := by
  refine isDense_congr hs.fixtures (hs.changeMaterial f change).fixtures fun g => ?_
  simp only [densityOn?, changeMaterial, HandleTable.get?_modify]
  split
  · rename_i hg
    subst hg
    cases hrec : r.fixtures.get? g with
    | none => rfl
    | some rec =>
        by_cases hb : rec.body = b
        · simp [Option.filter_some, hb, h rec hrec hb]
        · simp [Option.filter_some, hb]
  · rfl

theorem holds_resetMass (hs : r.Sound) {a : Handle .body} {rec : BodyRecord}
    (hrec : r.bodies.get? a = some rec) {other : BodyRecord} {world' : World} {body' : Body}
    (h : (r.resetMass a rec).Holds b other world' body') :
    ∃ world body, r.Holds b other world body ∧
      body' = if a = b then body.reweigh (r.isDense a) else body :=
  holds_modifyBody hs (slice_bodies_eq_some_iff.mpr ⟨hrec, rfl⟩)
    (fun world _ => world.bodies_changeBody rec.native _) h

theorem leaves_resetMass (hs : r.Sound) {a : Handle .body} {rec : BodyRecord}
    (hrec : r.bodies.get? a = some rec) (hb : b ≠ a) : Leaves b r (r.resetMass a rec) := by
  intro s hsup
  refine ⟨?_, rfl⟩
  obtain ⟨other, world', body', hholds, rfl⟩ := supplement?_eq_some_iff.mp hsup
  obtain ⟨world, body, hbefore, rfl⟩ := holds_resetMass hs hrec hholds
  rw [if_neg (Ne.symm hb)]
  exact hbefore.supplement?_eq

theorem suited_resetMass (hs : r.Sound) {a : Handle .body} {rec : BodyRecord}
    (hrec : r.bodies.get? a = some rec) (ha : r.Renewable a) : (r.resetMass a rec).Suited a := by
  intro s hsup
  obtain ⟨other, world', body', hholds, rfl⟩ := supplement?_eq_some_iff.mp hsup
  obtain ⟨world, body, hbefore, rfl⟩ := holds_resetMass hs hrec hholds
  rw [if_pos rfl]
  exact Body.suits_reweigh (ha _ hbefore.supplement?_eq) _

theorem Sound.suited_resetMass (hs : r.Sound) {a : Handle .body} {rec : BodyRecord}
    (hrec : r.bodies.get? a = some rec) (ha : r.Renewable a)
    (hothers : ∀ b, b ≠ a → r.Suited b) (b : Handle .body) : (r.resetMass a rec).Suited b := by
  by_cases hb : b = a
  · subst hb
    exact Registry.suited_resetMass hs hrec ha
  · exact (leaves_resetMass hs hrec hb).suited (hothers b hb)

theorem renewable_addBody (hs : r.Sound) (hw : r.worlds.get? w = some world) (kind : BodyKind)
    (place : Vec2) (tag : Nat) :
    (r.addBody ⟨w, (world.insertBody kind place tag).1⟩
      (world.insertBody kind place tag).2).Renewable r.bodies.next := by
  intro s hsup
  obtain ⟨rec, world', body, hholds, rfl⟩ := supplement?_eq_some_iff.mp hsup
  rcases holds_addBody hs hw kind place tag hholds with ⟨-, -, rfl⟩ | ⟨found, hbefore⟩
  · exact .inl rfl
  · cases hs.bodies.get?_next.symm.trans hbefore.record

/-- The masses set for all bodies suit their fixtures. -/
def Balanced (r : Registry) : Prop := ∀ b, r.Suited b

theorem balanced_empty : empty.Balanced := by
  intro b s hs
  obtain ⟨rec, world, body, hholds, -⟩ := supplement?_eq_some_iff.mp hs
  cases hholds.record

namespace Balanced

theorem leave (h : r.Balanced) (hleaves : ∀ b, Leaves b r r') : r'.Balanced :=
  fun b => (hleaves b).suited (h b)

theorem keep (h : r.Balanced) {f : World → World}
    (hf : ∀ world, World.Retains Body.supplement world (f world)) :
    (r.modifyWorld w f).Balanced :=
  h.leave fun b => leaves_modifyWorld b fun world _ => hf world

theorem createBody (h : r.Balanced) (hs : r.Sound) {kind : BodyKind} {place : Vec2}
    {b : Handle .body} (hok : createBody w kind place r = .ok (b, r')) : r'.Balanced := by
  obtain ⟨world, native, hw, hissue, rfl, rfl⟩ := createBody_eq_ok hok
  have hsound := hs.addBody hw hissue kind place
  obtain ⟨-, rfl⟩ := HandleTable.issue_eq_ok_iff.mp hissue
  refine hsound.suited_resetMass ?_ (renewable_addBody hs hw kind place _) ?_
  · rw [addBody, HandleTable.get?_append hs.bodies, if_pos rfl]
  · intro b hb
    exact (leaves_addBody hs hw kind place _ hb).suited (h b)

theorem createFixture (h : r.Balanced) (hs : r.Sound) {b : Handle .body} {shape : ShapeDescriptor}
    {material : Material} {f : Handle .fixture}
    (hok : createFixture w b shape material r = .ok (f, r')) : r'.Balanced := by
  obtain ⟨solid, rec, world, native, -, hrec, hw, hissue, rfl, rfl⟩ := createFixture_eq_ok hok
  have hslice := hs.body_eq_ok_iff.mp hrec
  have hsound := hs.addFixture hw ⟨rec, hslice, rfl⟩ hissue solid material
  have hlasts := lasts_addFixture hw solid f.tag rec.native
    ⟨w, b, (world.insertCollider solid material f.tag rec.native).1, material⟩ rfl
  refine hsound.suited_resetMass (slice_bodies_eq_some_iff.mp hslice).1
    ((h b).renewable (hlasts b)) ?_
  intro b' hb'
  exact ((hlasts b').leaves (isDense_addFixture hs hissue (Ne.symm hb') _)).suited (h b')

theorem deleteFixture (h : r.Balanced) (hs : r.Sound) {f : Handle .fixture} {u : Unit}
    (hok : deleteFixture w f r = .ok (u, r')) : r'.Balanced := by
  obtain ⟨rec, body, hrec, hbody, rfl⟩ := deleteFixture_eq_ok hok
  have hslice := hs.fixture_eq_ok_iff.mp hrec
  obtain ⟨world, hw⟩ := hs.world_of_fixture hslice
  have hget := (slice_fixtures_eq_some_iff.mp hslice).1
  refine (hs.dropFixture hw hslice).suited_resetMass
    (slice_bodies_eq_some_iff.mp (hs.body_eq_ok_iff.mp hbody)).1
    ((h _).renewable (lasts_dropFixture r f rec _)) ?_
  intro b hb
  exact ((lasts_dropFixture r f rec b).leaves
    (isDense_dropFixture hs hget (Ne.symm hb))).suited (h b)

theorem setFixture (h : r.Balanced) (hs : r.Sound) {f : Handle .fixture} {change : FixtureChange}
    {u : Unit} (hok : setFixture w f change r = .ok (u, r')) : r'.Balanced := by
  obtain ⟨rec, collider, body, changed, hlocate, hbody, rfl, rfl⟩ := setFixture_eq_ok hok
  obtain ⟨world, hrec, hw, -⟩ := locateFixture_eq_ok hlocate
  have hget := (slice_fixtures_eq_some_iff.mp (hs.fixture_eq_ok_iff.mp hrec)).1
  have hworld : (r.modifyWorld w (·.setMaterial rec.native
      (change.apply collider.material))).Balanced :=
    h.keep fun world => World.retains_setMaterial Body.oblivious_supplement world rec.native _
  have hsound := hs.modifyWorld w fun world =>
    world.census_setMaterial rec.native (change.apply collider.material)
  -- The material is on record only after the collider has it.
  split
  · refine (hsound.changeMaterial f change.apply).suited_resetMass
      (slice_bodies_eq_some_iff.mp (hs.body_eq_ok_iff.mp hbody)).1
      ((hworld _).renewable (lasts_changeMaterial _ f change.apply _)) ?_
    intro b hb
    refine ((lasts_changeMaterial _ f change.apply b).leaves
      (isDense_changeMaterial hsound ?_)).suited (hworld b)
    intro found hfound hattached
    obtain rfl := Option.some.inj (hget.symm.trans hfound)
    exact absurd hattached.symm hb
  · rename_i hmass
    refine hworld.leave fun b => (lasts_changeMaterial _ f change.apply b).leaves
      (isDense_changeMaterial hsound fun found _ _ => ?_)
    cases change with
    | density density => exact absurd rfl hmass
    | sensor | friction | restitution => rfl

end Balanced

end Registry

namespace Operation

open Registry

theorem balanced_transact {config : Config} {op : Operation} {r r' : Registry} {outcome : Outcome}
    (hs : r.Sound) (h : r.Balanced) (hok : op.transact config r = .ok (outcome, r')) :
    r'.Balanced := by
  cases transition_transact hok with
  | createWorld hcreate =>
      obtain ⟨-, rfl⟩ := createWorld_eq_ok hcreate
      exact h.leave (leaves_addWorld hs _)
  | destroyWorld hdestroy =>
      obtain ⟨-, rfl⟩ := destroyWorld_eq_ok hdestroy
      exact h.leave (leaves_dropWorld hs _)
  | @setWorld w change u r' hset =>
      obtain ⟨-, rfl⟩ := changeWorld_eq_ok hset
      exact h.keep (change.retains_apply (fun _ _ => rfl) fun _ => rfl)
  | step hstep | stepDefault hstep =>
      obtain ⟨-, -, -, rfl | rfl⟩ := step_eq_ok hstep
      · exact h
      · exact h.keep fun world => World.retains_advance (fun _ => rfl) world _ _ _
  | createBody hcreate => exact h.createBody hs hcreate
  | deleteBody hdelete =>
      obtain ⟨rec, -, rfl⟩ := deleteBody_eq_ok hdelete
      exact h.leave (leaves_dropBody hs _ rec)
  | @setBody w b change u r' hset =>
      obtain ⟨rec, -, rfl⟩ := changeBody_eq_ok hset
      exact h.keep fun world => World.retains_changeBody world rec.native
        (change.view_apply Body.aloof_supplement)
  | createFixture hcreate => exact h.createFixture hs hcreate
  | deleteFixture hdelete => exact h.deleteFixture hs hdelete
  | setFixture hset => exact h.setFixture hs hset
  | createJoint hcreate | createDefaultJoint hcreate =>
      obtain ⟨recA, recB, world, spring, -, -, hw, -, -, -, -, rfl⟩ := createJoint_eq_ok hcreate
      exact h.leave (leaves_addJoint hw spring _ rfl)
  | deleteJoint hdelete =>
      obtain ⟨rec, -, rfl⟩ := deleteJoint_eq_ok hdelete
      exact h.leave (leaves_dropJoint r _ rec)
  | question => exact h

end Operation

theorem Simulator.Reachable.balanced {s : Simulator} (h : s.Reachable) : s.registry.Balanced :=
  h.invariant Registry.balanced_empty Operation.balanced_transact

/-- A fixture on record is attached to the body and has a positive density. -/
def Registry.Laden (r : Registry) (b : Handle .body) : Prop :=
  ∃ f fixture, (r.fixtures.get? f = some fixture ∧ fixture.body = b) ∧
    0 < fixture.material.density

/-- In every simulator that operations lead to, the engine holds every body on record.  A dynamic
body has an additional mass of zero if one of its fixtures is dense and of one if none is, and for
any other body no additional mass was ever set. -/
theorem additionalMass_of_reachable {s : Simulator} (h : s.Reachable) {b : Handle .body}
    {rec : BodyRecord} (hrec : s.registry.bodies.get? b = some rec) :
    ∃ world body, s.registry.worlds.get? rec.world = some world ∧
      world.bodies.get? rec.native = some body ∧
      (body.kind = .dynamic → s.registry.Laden b → body.additionalMass = some 0) ∧
      (body.kind = .dynamic → ¬ s.registry.Laden b → body.additionalMass = some 1) ∧
      (body.kind ≠ .dynamic → body.additionalMass = none) := by
  have hslice : (s.registry.slice rec.world).bodies b = some rec :=
    Registry.slice_bodies_eq_some_iff.mpr ⟨hrec, rfl⟩
  obtain ⟨world, hw⟩ := h.sound.world_of_body hslice
  obtain ⟨body, hbody, -⟩ := (h.sound.corresponds hw).bodies.present hslice
  refine ⟨world, body, hw, hbody, ?_⟩
  have hsuits : body.supplement.Suits (s.registry.isDense b) :=
    h.balanced b _ (Registry.supplement?_eq_some_iff.mpr ⟨rec, world, body, ⟨hrec, hw, hbody⟩, rfl⟩)
  have hdense : s.registry.isDense b = true ↔ s.registry.Laden b :=
    Registry.isDense_iff h.sound.fixtures
  refine ⟨?_, ?_, ?_⟩
  · intro hkind hladen
    rw [hdense.mpr hladen] at hsuits
    exact hsuits.trans (if_pos hkind)
  · intro hkind hladen
    rw [Bool.eq_false_iff.mpr fun heq => hladen (hdense.mp heq)] at hsuits
    exact hsuits.trans (if_pos hkind)
  · intro hkind
    exact hsuits.trans (if_neg hkind)

/-- The sample with a fixture that was made dense. -/
def Simulator.weighted : Simulator := sample.performAll [.setFixture ⟨0⟩ ⟨0⟩ (.density 2)]

theorem additionalMass_weighted :
    (Simulator.weighted.registry.bodies.get? ⟨0⟩ = some ⟨⟨0⟩, ⟨0, 0⟩⟩ ∧
      Simulator.sample.registry.isDense ⟨0⟩ = false ∧
      Simulator.weighted.registry.isDense ⟨0⟩ = true) ∧
    ∃ world body, Simulator.weighted.registry.worlds.get? ⟨0⟩ = some world ∧
      world.bodies.get? ⟨0, 0⟩ = some body ∧
      (body.kind = .dynamic → Simulator.weighted.registry.Laden ⟨0⟩ →
        body.additionalMass = some 0) ∧
      (body.kind = .dynamic → ¬ Simulator.weighted.registry.Laden ⟨0⟩ →
        body.additionalMass = some 1) ∧
      (body.kind ≠ .dynamic → body.additionalMass = none) := by
  have hreachable : Simulator.weighted.Reachable := Simulator.reachable_sample.performAll _
  have hrec : Simulator.weighted.registry.bodies.get? ⟨0⟩ = some ⟨⟨0⟩, ⟨0, 0⟩⟩ := by decide +kernel
  exact ⟨⟨hrec, by decide +kernel⟩, additionalMass_of_reachable hreachable hrec⟩

end RigidWorlds
