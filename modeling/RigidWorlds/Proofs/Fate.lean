import RigidWorlds.Proofs.Correspondence
import RigidWorlds.Proofs.Materials

/-!
What becomes of one world and of one body.  Most operations leave both as they are, up to what
follows from fixtures and joints; the others change them in one way each.  From what a single
operation does follows what the history of a run tells.
-/

namespace RigidWorlds

open Engine

namespace Engine

/-- A body without what follows from its fixtures and joints and from what happened to it since the
last step. -/
def Body.core (b : Body) : Body :=
  { b with
    additionalMass := none
    colliders := []
    mass := .zero
    thickness := unlimited
    reach := 0
    changes := .nothing
    activation := .initial
    motion := b.motion.recenter }

theorem Body.oblivious_core : Oblivious core := fun _ _ _ _ => rfl

theorem Body.core_setAdditionalMass (mass : Float32) (b : Body) :
    (b.setAdditionalMass mass).core = b.core := by
  unfold setAdditionalMass
  split <;> rfl

namespace World

/-- A world without what is in it. -/
def bare (w : World) : World :=
  { w with
    bodies := .empty
    colliders := .empty
    springs := .empty
    springOrder := []
    pairs := []
    touched := []
    stirred := []
    ranks := .initial }

theorem bare_touch (w : World) (key : Key) : (w.touch key).bare = w.bare := by
  unfold touch
  split <;> rfl

theorem bare_stir (w : World) (key : Key) : (w.stir key).bare = w.bare := by
  unfold stir
  split <;> rfl

theorem bare_changeBody (w : World) (key : Key) (f : Body → Body) :
    (w.changeBody key f).bare = w.bare :=
  bare_touch ..

theorem bare_insertBody (w : World) (kind : BodyKind) (place : Vec2) (tag : Nat) :
    (w.insertBody kind place tag).2.bare = w.bare :=
  bare_touch ..

theorem bare_insertCollider (w : World) (solid : Solid) (material : Material) (tag : Nat)
    (parent : Key) : (w.insertCollider solid material tag parent).2.bare = w.bare :=
  (bare_changeBody ..).trans (bare_stir ..)

theorem bare_removeCollider (w : World) (key : Key) : (w.removeCollider key).bare = w.bare := by
  unfold removeCollider
  split
  · rfl
  · exact bare_changeBody ..

theorem bare_setMaterial (w : World) (key : Key) (material : Material) :
    (w.setMaterial key material).bare = w.bare := by
  unfold setMaterial
  split
  · rfl
  · dsimp only
    split
    · exact bare_stir ..
    · exact (bare_changeBody ..).trans (bare_stir ..)

theorem bare_removeSpring (w : World) (key : Key) : (w.removeSpring key).bare = w.bare := by
  unfold removeSpring
  split <;> rfl

theorem bare_removeBody (w : World) (key : Key) : (w.removeBody key).bare = w.bare := by
  have hsprings : ∀ (keys : List Key) (v : World), (keys.foldl removeSpring v).bare = v.bare := by
    intro keys
    induction keys with
    | nil => exact fun _ => rfl
    | cons key keys ih => exact fun v => (ih _).trans (bare_removeSpring v key)
  unfold removeBody
  split
  · rfl
  · exact hsprings ..

theorem bare_advance (w : World) (dt : Float32) (velocityIterations positionIterations : UInt32) :
    (w.advance dt velocityIterations positionIterations).bare =
      { w.bare with time := w.time + dt, stepCount := w.stepCount + 1 } := by
  have hlasting := lasting_advance w dt velocityIterations positionIterations
  have hgravity : (w.advance dt velocityIterations positionIterations).gravity = w.gravity :=
    (congrArg gravity hlasting :)
  have hsettings : (w.advance dt velocityIterations positionIterations).settings = w.settings :=
    (congrArg settings hlasting :)
  rw [bare, hgravity, hsettings]
  rfl

theorem retains_core_insertCollider (w : World) (solid : Solid) (material : Material) (tag : Nat)
    (parent : Key) : Retains Body.core w (w.insertCollider solid material tag parent).2 := by
  unfold insertCollider
  refine Retains.trans ?_ (retains_changeBody _ parent fun _ => rfl)
  exact retains_of_bodies_eq Body.core (bodies_stir ..)

end World

end Engine

namespace Registry

variable {r r' r'' : Registry} {w : Handle .world} {world : World} {b : Handle .body}

/-- The engine of its world holds a body on record. -/
structure Holds (r : Registry) (b : Handle .body) (rec : BodyRecord) (world : World)
    (body : Body) : Prop where
  record : r.bodies.get? b = some rec
  home : r.worlds.get? rec.world = some world
  item : world.bodies.get? rec.native = some body

theorem Holds.unique {rec rec' : BodyRecord} {world world' : World} {body body' : Body}
    (h : r.Holds b rec world body) (h' : r.Holds b rec' world' body') :
    rec' = rec ∧ world' = world ∧ body' = body := by
  obtain rfl := Option.some.inj (h.record.symm.trans h'.record)
  obtain rfl := Option.some.inj (h.home.symm.trans h'.home)
  obtain rfl := Option.some.inj (h.item.symm.trans h'.item)
  exact ⟨rfl, rfl, rfl⟩

theorem Sound.holds (hs : r.Sound) {rec : BodyRecord} (hrec : r.bodies.get? b = some rec) :
    ∃ world body, r.Holds b rec world body := by
  have hslice : (r.slice rec.world).bodies b = some rec :=
    slice_bodies_eq_some_iff.mpr ⟨hrec, rfl⟩
  obtain ⟨world, hw⟩ := hs.world_of_body hslice
  obtain ⟨body, hbody, -⟩ := (hs.corresponds hw).bodies.present hslice
  exact ⟨world, body, hrec, hw, hbody⟩

theorem exists_of_get?_modifyWorld {v : Handle .world} {f : World → World} {world' : World}
    (h : (r.modifyWorld v f).worlds.get? w = some world') :
    ∃ world, r.worlds.get? w = some world ∧ world' = if v = w then f world else world := by
  rw [get?_modifyWorld] at h
  split at h
  · rename_i hv
    obtain ⟨world, hw, rfl⟩ := Option.map_eq_some_iff.mp h
    exact ⟨world, hw, (if_pos hv.symm).symm⟩
  · rename_i hv
    exact ⟨world', h, (if_neg (Ne.symm hv)).symm⟩

/-- The bodies that are left come from bodies that were there. -/
structure Evolves (R : Body → Body → Prop) (r r' : Registry) : Prop where
  body : ∀ {b rec world' body'}, r'.Holds b rec world' body' →
    ∃ world body, r.Holds b rec world body ∧ R body body'

section

variable {R : Body → Body → Prop}

theorem Evolves.trans (htrans : ∀ b b' b'', R b b' → R b' b'' → R b b'') (h : Evolves R r r')
    (h' : Evolves R r' r'') : Evolves R r r'' := by
  constructor
  intro b rec world'' body'' hholds''
  obtain ⟨world', body', hholds', hlater⟩ := h'.body hholds''
  obtain ⟨world, body, hholds, hearlier⟩ := h.body hholds'
  exact ⟨world, body, hholds, htrans _ _ _ hearlier hlater⟩

theorem evolves_of_modifyWorld (hrefl : ∀ b, R b b) {f : World → World}
    (hbodies : ∀ {b rec}, r'.bodies.get? b = some rec → r.bodies.get? b = some rec)
    (hworlds : r'.worlds = (r.modifyWorld w f).worlds)
    (hf : ∀ world, r.worlds.get? w = some world → World.Evolves R world (f world)) :
    Evolves R r r' := by
  constructor
  rintro b rec world' body' ⟨hrec, hv', hbody'⟩
  rw [hworlds] at hv'
  obtain ⟨world, hv, rfl⟩ := exists_of_get?_modifyWorld hv'
  split at hbody'
  · rename_i hw
    obtain ⟨body, hbody, hlater⟩ := (hf world (hw ▸ hv)).body _ _ hbody'
    exact ⟨world, body, ⟨hbodies hrec, hv, hbody⟩, hlater⟩
  · exact ⟨world, body', ⟨hbodies hrec, hv, hbody'⟩, hrefl body'⟩

end

theorem get?_of_dropBody {a b : Handle .body} {rec other : BodyRecord}
    (h : (r.dropBody b rec).bodies.get? a = some other) : r.bodies.get? a = some other := by
  replace h := (HandleTable.get?_erase r.bodies b a).symm.trans h
  split at h
  · cases h
  · exact h

theorem get?_of_dropWorld {v w : Handle .world} (h : (r.dropWorld w).worlds.get? v = some world) :
    r.worlds.get? v = some world := by
  rw [get?_dropWorld] at h
  split at h
  · cases h
  · exact h

theorem holds_dropWorld (hs : r.Sound) {rec : BodyRecord} {body : Body}
    (h : (r.dropWorld w).Holds b rec world body) : r.Holds b rec world body := by
  obtain ⟨hrec, hv, hbody⟩ := h
  have hfilter := HandleTable.get?_eraseWhere hs.bodies (fun b => b.world = w) b
  have hbefore := (Option.filter_eq_some_iff.mp (hfilter.symm.trans hrec)).1
  exact ⟨hbefore, get?_of_dropWorld hv, hbody⟩

/-- The worlds and bodies that are left are as they were, up to what follows from fixtures and
joints. -/
structure Stays (r r' : Registry) : Prop where
  world : ∀ {w world'}, r'.worlds.get? w = some world' →
    ∃ world, r.worlds.get? w = some world ∧ world'.bare = world.bare
  body : ∀ {b rec world' body'}, r'.Holds b rec world' body' →
    ∃ world body, r.Holds b rec world body ∧ body'.core = body.core

theorem Stays.refl (r : Registry) : Stays r r :=
  ⟨fun hw => ⟨_, hw, rfl⟩, fun h => ⟨_, _, h, rfl⟩⟩

theorem Stays.trans (h : Stays r r') (h' : Stays r' r'') : Stays r r'' := by
  constructor
  · intro w world'' hw''
    obtain ⟨world', hw', hbare'⟩ := h'.world hw''
    obtain ⟨world, hw, hbare⟩ := h.world hw'
    exact ⟨world, hw, hbare'.trans hbare⟩
  · intro b rec world'' body'' hholds''
    obtain ⟨world', body', hholds', hcore'⟩ := h'.body hholds''
    obtain ⟨world, body, hholds, hcore⟩ := h.body hholds'
    exact ⟨world, body, hholds, hcore'.trans hcore⟩

theorem stays_of_modifyWorld {f : World → World}
    (hbodies : ∀ {b rec}, r'.bodies.get? b = some rec → r.bodies.get? b = some rec)
    (hworlds : r'.worlds = (r.modifyWorld w f).worlds)
    (hf : ∀ world, r.worlds.get? w = some world →
      (f world).bare = world.bare ∧ World.Retains Body.core world (f world)) :
    Stays r r' := by
  constructor
  · intro v world' hv'
    rw [hworlds] at hv'
    obtain ⟨world, hv, rfl⟩ := exists_of_get?_modifyWorld hv'
    refine ⟨world, hv, ?_⟩
    split
    · rename_i hw
      exact (hf world (hw ▸ hv)).1
    · rfl
  · have hbody : Evolves (fun b b' => b'.core = b.core) r r' :=
      evolves_of_modifyWorld (fun _ => rfl) hbodies hworlds fun world hw =>
        World.retains_iff.mp (hf world hw).2
    exact fun {_ _ _ _} h => hbody.body h

theorem stays_of_replaceWorld (hw : r.worlds.get? w = some world) {world' : World}
    (hbodies : ∀ {b rec}, r'.bodies.get? b = some rec → r.bodies.get? b = some rec)
    (hworlds : r'.worlds = (r.modifyWorld w fun _ => world').worlds)
    (hbare : world'.bare = world.bare) (hretains : World.Retains Body.core world world') :
    Stays r r' := by
  refine stays_of_modifyWorld hbodies hworlds ?_
  intro found hfound
  obtain rfl := Option.some.inj (hfound.symm.trans hw)
  exact ⟨hbare, hretains⟩

theorem stays_resetMass (r : Registry) (b : Handle .body) (rec : BodyRecord) :
    Stays r (r.resetMass b rec) := by
  refine stays_of_modifyWorld id rfl fun world _ => ⟨World.bare_changeBody .., ?_⟩
  refine World.retains_changeBody world rec.native ?_
  intro body
  split
  · exact Body.core_setAdditionalMass ..
  · rfl

theorem stays_dropBody (r : Registry) (b : Handle .body) (rec : BodyRecord) :
    Stays r (r.dropBody b rec) :=
  stays_of_modifyWorld (f := (·.removeBody rec.native)) get?_of_dropBody rfl fun _ _ =>
    ⟨World.bare_removeBody .., World.retains_removeBody Body.oblivious_core ..⟩

theorem stays_dropWorld (hs : r.Sound) (w : Handle .world) : Stays r (r.dropWorld w) :=
  ⟨fun hv => ⟨_, get?_of_dropWorld hv, rfl⟩, fun h => ⟨_, _, holds_dropWorld hs h, rfl⟩⟩

theorem holds_addBody (hs : r.Sound) (hw : r.worlds.get? w = some world) (kind : BodyKind)
    (place : Vec2) (tag : Nat) {rec : BodyRecord} {world' : World} {body : Body}
    (h : (r.addBody ⟨w, (world.insertBody kind place tag).1⟩
      (world.insertBody kind place tag).2).Holds b rec world' body) :
    (b = r.bodies.next ∧ rec.world = w ∧
      body = .create kind place world.settings.allowSleep world.settings.continuous tag) ∨
      ∃ world, r.Holds b rec world body := by
  obtain ⟨hrec, hworld', hbody⟩ := h
  have hwell := hs.wellFormed_bodies hw
  replace hworld' :
    (r.modifyWorld w fun _ => (world.insertBody kind place tag).2).worlds.get? rec.world =
      some world' := hworld'
  rw [addBody, HandleTable.get?_append hs.bodies] at hrec
  split at hrec
  · obtain rfl := Option.some.inj hrec
    obtain rfl := Option.some.inj (hworld'.symm.trans (get?_modifyWorld_self hw _))
    unfold World.insertBody at hbody
    rw [World.bodies_touch, Arena.get?_insert hwell, if_pos rfl] at hbody
    exact .inl ⟨‹_›, rfl, (Option.some.inj hbody).symm⟩
  · rw [get?_modifyWorld] at hworld'
    split at hworld'
    · rename_i hv
      rw [hv, hw, Option.map_some] at hworld'
      obtain rfl := Option.some.inj hworld'
      -- The new body has a key of its own.
      obtain ⟨old, hold, -⟩ := (hs.corresponds hw).bodies.present
        (slice_bodies_eq_some_iff.mpr ⟨hrec, hv⟩)
      unfold World.insertBody at hbody
      rw [World.bodies_touch, Arena.get?_insert hwell, if_neg] at hbody
      · exact .inr ⟨world, hrec, hv ▸ hw, hbody⟩
      · intro hnative
        rw [hnative, Arena.get?_insert_key hwell] at hold
        cases hold
    · exact .inr ⟨world', hrec, hworld', hbody⟩

end Registry

namespace Registry

variable {r r' : Registry} {w : Handle .world} {b : Handle .body}

theorem step_eq_ok_ite {dt : Float32} {velocityIterations positionIterations : UInt32}
    {snapshot : Snapshot}
    (h : step w dt velocityIterations positionIterations r = .ok (snapshot, r')) :
    r' = if 0 < dt then r.modifyWorld w (·.advance dt velocityIterations positionIterations)
      else r := by
  obtain ⟨world, -, ⟨hlt, -, rfl⟩ | ⟨hidle, -, rfl⟩⟩ := step_cases h
  · rw [if_pos hlt]
  · rw [if_neg hidle]

theorem world_step {v : Handle .world} {dt : Float32}
    {velocityIterations positionIterations : UInt32} {snapshot : Snapshot}
    (h : step v dt velocityIterations positionIterations r = .ok (snapshot, r')) {world' : World}
    (hw' : r'.worlds.get? w = some world') :
    ∃ world, r.worlds.get? w = some world ∧
      world' = if v = w ∧ 0 < dt then world.advance dt velocityIterations positionIterations
        else world := by
  obtain rfl := step_eq_ok_ite h
  by_cases hlt : 0 < dt
  · rw [if_pos hlt] at hw'
    simpa only [hlt, and_true] using exists_of_get?_modifyWorld hw'
  · rw [if_neg hlt] at hw'
    exact ⟨world', hw', (if_neg fun hboth => hlt hboth.2).symm⟩

theorem body_step (hs : r.Sound) {v : Handle .world} {dt : Float32}
    {velocityIterations positionIterations : UInt32} {snapshot : Snapshot}
    (h : step v dt velocityIterations positionIterations r = .ok (snapshot, r')) {rec : BodyRecord}
    {world' : World} {body' : Body} (hholds : r'.Holds b rec world' body') :
    ∃ world body, r.Holds b rec world body ∧
      if v = rec.world ∧ 0 < dt then
        (world.advance dt velocityIterations positionIterations).bodies.get? rec.native = some body'
      else body' = body := by
  have hrecords : r'.bodies = r.bodies := by
    rw [step_eq_ok_ite h]
    split <;> rfl
  obtain ⟨hrec, hw', hbody'⟩ := hholds
  rw [hrecords] at hrec
  obtain ⟨world, hw, rfl⟩ := world_step h hw'
  split at hbody'
  · rename_i hboth
    obtain ⟨found, body, hheld⟩ := hs.holds hrec
    obtain rfl := Option.some.inj (hheld.home.symm.trans hw)
    exact ⟨found, body, hheld, by rwa [if_pos hboth]⟩
  · rename_i hnot
    exact ⟨world, body', ⟨hrec, hw, hbody'⟩, by rw [if_neg hnot]⟩

theorem holds_modifyBody (hs : r.Sound) {a : Handle .body} {other : BodyRecord}
    (ha : (r.slice w).bodies a = some other) {f : Body → Body} {g : World → World}
    (hg : ∀ world, r.worlds.get? w = some world →
      (g world).bodies = world.bodies.modify other.native f)
    {rec : BodyRecord} {world' : World} {body' : Body}
    (hholds : (r.modifyWorld w g).Holds b rec world' body') :
    ∃ world body, r.Holds b rec world body ∧ body' = if a = b then f body else body := by
  obtain ⟨hget, hhome⟩ := slice_bodies_eq_some_iff.mp ha
  obtain ⟨hrec, hw', hbody'⟩ := hholds
  replace hrec : r.bodies.get? b = some rec := hrec
  obtain ⟨world, hw, rfl⟩ := exists_of_get?_modifyWorld hw'
  -- Bodies of one world are told apart by their keys.
  have hsame : a = b ↔ w = rec.world ∧ rec.native = other.native := by
    constructor
    · rintro rfl
      obtain rfl := Option.some.inj (hget.symm.trans hrec)
      exact ⟨hhome.symm, rfl⟩
    · rintro ⟨hv, hnative⟩
      exact (hs.corresponds hw).bodies.injective
        (slice_bodies_eq_some_iff.mpr ⟨hget, hhome.trans hv⟩)
        (slice_bodies_eq_some_iff.mpr ⟨hrec, rfl⟩) hnative.symm
  simp only [hsame]
  split at hbody'
  · rename_i hv
    rw [hg world (hv ▸ hw), Arena.get?_modify] at hbody'
    split at hbody'
    · rename_i hnative
      obtain ⟨body, hbody, rfl⟩ := Option.map_eq_some_iff.mp hbody'
      exact ⟨world, body, ⟨hrec, hw, hbody⟩, (if_pos ⟨hv, hnative⟩).symm⟩
    · rename_i hnative
      exact ⟨world, body', ⟨hrec, hw, hbody'⟩, (if_neg fun hboth => hnative hboth.2).symm⟩
  · rename_i hv
    exact ⟨world, body', ⟨hrec, hw, hbody'⟩, (if_neg fun hboth => hv hboth.1).symm⟩

theorem body_changeBody (hs : r.Sound) {a : Handle .body} {f : Body → Body} {u : Unit}
    (h : changeBody w a f r = .ok (u, r')) {rec : BodyRecord} {world' : World} {body' : Body}
    (hholds : r'.Holds b rec world' body') :
    ∃ world body, r.Holds b rec world body ∧ body' = if a = b then f body else body := by
  obtain ⟨other, hother, rfl⟩ := changeBody_eq_ok h
  exact holds_modifyBody hs (hs.body_eq_ok_iff.mp hother)
    (fun world _ => World.bodies_changeBody world other.native f) hholds

theorem holds_addWorld (hs : r.Sound) {added : World} {rec : BodyRecord} {world : World}
    {body : Body} (h : (r.addWorld added).Holds b rec world body) : r.Holds b rec world body := by
  obtain ⟨hrec, hw, hbody⟩ := h
  replace hrec : r.bodies.get? b = some rec := hrec
  obtain ⟨found, _, hholds⟩ := hs.holds hrec
  rw [addWorld, HandleTable.get?_append hs.worlds, if_neg] at hw
  · exact ⟨hrec, hw, hbody⟩
  · intro hnext
    have hhome := hholds.home
    rw [hnext, hs.worlds.get?_next] at hhome
    cases hhome

section

variable {R : Body → Body → Prop} (hR : Body.Lenient R)
  (hmass : ∀ (mass : Float32) (body : Body), R body (body.setAdditionalMass mass))

theorem evolves_addJoint (hR : Body.Lax R) {world : World} (hw : r.worlds.get? w = some world)
    (spring : Spring) (joint : JointRecord) (hjoint : joint.world = w) :
    Evolves R r (r.addJoint joint (world.insertSpring spring).2) := by
  subst hjoint
  refine evolves_of_modifyWorld (f := fun _ => (world.insertSpring spring).2) hR.refl id rfl ?_
  intro found hfound
  obtain rfl := Option.some.inj (hw.symm.trans hfound)
  exact World.evolves_insertSpring hR world spring

include hR hmass

theorem evolves_resetMass (r : Registry) (b : Handle .body) (rec : BodyRecord) :
    Evolves R r (r.resetMass b rec) := by
  refine evolves_of_modifyWorld hR.refl id rfl fun world _ => ?_
  refine World.evolves_changeBody hR.refl world rec.native fun body => ?_
  split
  · exact hmass _ body
  · exact hR.refl body

theorem holds_createBody (hs : r.Sound) {v : Handle .world} {kind : BodyKind} {place : Vec2}
    {a : Handle .body} (hok : createBody v kind place r = .ok (a, r')) {rec : BodyRecord}
    {world' : World} {body' : Body} (h : r'.Holds b rec world' body') :
    (b = a ∧ b = r.bodies.next ∧ rec.world = v ∧ ∃ world, r.worlds.get? v = some world ∧
      R (.create kind place world.settings.allowSleep world.settings.continuous b.tag) body') ∨
      ∃ world body, r.Holds b rec world body ∧ R body body' := by
  obtain ⟨world, native, hworld, hissue, rfl, rfl⟩ := createBody_eq_ok hok
  obtain ⟨-, rfl⟩ := HandleTable.issue_eq_ok_iff.mp hissue
  obtain ⟨added, body, hadded, hlater⟩ := (evolves_resetMass hR hmass ..).body h
  rcases holds_addBody hs hworld kind place _ hadded with ⟨rfl, rfl, rfl⟩ | ⟨found, hfound⟩
  · exact .inl ⟨rfl, rfl, rfl, world, hworld, hlater⟩
  · exact .inr ⟨found, body, hfound, hlater⟩

theorem holds_createFixture (hs : r.Sound) {v : Handle .world} {a : Handle .body}
    {shape : ShapeDescriptor} {material : Material} {f : Handle .fixture}
    (hok : createFixture v a shape material r = .ok (f, r')) {rec : BodyRecord} {world' : World}
    {body' : Body} (h : r'.Holds b rec world' body') :
    ∃ world body key solid, r.Holds b rec world body ∧
      R (if a = b then body.attach key solid (.ofSolid solid material.density) else body)
        body' := by
  obtain ⟨solid, other, found, native, -, hother, hv, -, rfl, rfl⟩ := createFixture_eq_ok hok
  obtain ⟨attached, between, hbetween, hlater⟩ := (evolves_resetMass hR hmass ..).body h
  have hadded : (r.modifyWorld v fun _ =>
      (found.insertCollider solid material f.tag other.native).2).Holds b rec attached between :=
    ⟨hbetween.record, hbetween.home, hbetween.item⟩
  obtain ⟨world, body, hbefore, rfl⟩ :=
    holds_modifyBody hs (hs.body_eq_ok_iff.mp hother) (fun found' hv' => by
      obtain rfl := Option.some.inj (hv.symm.trans hv')
      exact found.bodies_insertCollider solid material f.tag other.native) hadded
  exact ⟨world, body, _, solid, hbefore, hlater⟩

end

end Registry

def WorldChange.onBody : WorldChange → Body → Body
  | gravity _, b => b
  | continuous enabled, b => { b with continuous := enabled }
  | clearForces, b => b.clearForces

theorem WorldChange.get?_apply (change : WorldChange) (world : World) (key : Key) :
    (change.apply world).bodies.get? key = (world.bodies.get? key).map change.onBody := by
  cases change with
  | gravity gravity => exact Option.map_id'.symm
  | continuous enabled => exact Arena.get?_map ..
  | clearForces => exact Arena.get?_map ..

namespace Operation

open Registry

variable {config : Config} {op : Operation} {r r' : Registry} {outcome : Outcome}
  {w : Handle .world} {b : Handle .body}

/-- Whether the operation leaves all worlds and bodies as they are, up to what follows from fixtures
and joints. -/
def isQuiet : Operation → Bool
  | createWorld .. | setWorld .. | step .. | stepDefault .. | createBody .. | setBody .. => false
  | _ => true

/-- What the operation makes of a world that was there before. -/
def MakesWorld (config : Config) (w : Handle .world) (world world' : World) : Operation → Prop
  | setWorld v change => world' = if v = w then change.apply world else world
  | step v dt velocityIterations positionIterations =>
      world' = if v = w ∧ 0 < dt then world.advance dt velocityIterations positionIterations
        else world
  | stepDefault v dt =>
      world' = if v = w ∧ 0 < dt then
          world.advance dt config.velocityIterations config.positionIterations
        else world
  | _ => world'.bare = world.bare

/-- What the operation makes of a body that was there before. -/
def MakesBody (config : Config) (b : Handle .body) (rec : BodyRecord) (world : World)
    (body body' : Body) : Operation → Prop
  | setWorld w change => body' = if w = rec.world then change.onBody body else body
  | setBody _ a change => body' = if a = b then change.apply body else body
  | step w dt velocityIterations positionIterations =>
      if w = rec.world ∧ 0 < dt then
        (world.advance dt velocityIterations positionIterations).bodies.get? rec.native = some body'
      else body' = body
  | stepDefault w dt =>
      if w = rec.world ∧ 0 < dt then
        (world.advance dt config.velocityIterations config.positionIterations).bodies.get?
          rec.native = some body'
      else body' = body
  | _ => body'.core = body.core

theorem makesWorld_of_asks (hasks : op.asks) (world : World) :
    op.MakesWorld config w world world := by
  cases op <;> first | rfl | cases hasks

theorem makesBody_of_asks (hasks : op.asks) (rec : BodyRecord) (world : World) (body : Body) :
    op.MakesBody config b rec world body body := by
  cases op <;> first | rfl | cases hasks

theorem view_of_step {α : Type} {f : Body → α} (hf : ∀ body : Body, f body.lasting = f body)
    {p : Prop} [Decidable p] {dt : Float32} {velocityIterations positionIterations : UInt32}
    {world : World} {key : Key} {body body' : Body} (hbody : world.bodies.get? key = some body)
    (h : if p then
        (world.advance dt velocityIterations positionIterations).bodies.get? key = some body'
      else body' = body) :
    f body' = f body := by
  split at h
  · obtain ⟨found, hfound, hview⟩ := (World.retains_advance hf world _ _ _).body _ _ h
    rw [hview, Option.some.inj (hfound.symm.trans hbody)]
  · rw [h]

theorem stays_transact (hs : r.Sound) (hquiet : op.isQuiet)
    (hok : op.transact config r = .ok (outcome, r')) : Stays r r' := by
  cases transition_transact hok with
  | createWorld | setWorld | step | stepDefault | createBody | setBody => cases hquiet
  | destroyWorld hdestroy =>
      obtain ⟨-, rfl⟩ := destroyWorld_eq_ok hdestroy
      exact stays_dropWorld hs _
  | deleteBody hdelete =>
      obtain ⟨rec, -, rfl⟩ := deleteBody_eq_ok hdelete
      exact stays_dropBody r _ rec
  | createFixture hcreate =>
      obtain ⟨solid, rec, world, native, -, -, hw, -, -, rfl⟩ := createFixture_eq_ok hcreate
      refine Stays.trans ?_ (stays_resetMass ..)
      exact stays_of_replaceWorld hw id rfl (World.bare_insertCollider ..)
        (World.retains_core_insertCollider ..)
  | deleteFixture hdelete =>
      obtain ⟨rec, body, -, -, rfl⟩ := deleteFixture_eq_ok hdelete
      refine Stays.trans ?_ (stays_resetMass ..)
      exact stays_of_modifyWorld (f := (·.removeCollider rec.native)) id rfl fun world _ =>
        ⟨World.bare_removeCollider .., World.retains_removeCollider Body.oblivious_core ..⟩
  | @setFixture w f change u r' hset =>
      obtain ⟨rec, collider, body, changed, -, -, rfl, rfl⟩ := setFixture_eq_ok hset
      have hchanged : Stays r ((r.modifyWorld w (·.setMaterial rec.native (change.apply
          collider.material))).changeMaterial f change.apply) :=
        stays_of_modifyWorld id rfl fun world _ =>
          ⟨World.bare_setMaterial .., World.retains_setMaterial Body.oblivious_core ..⟩
      split
      · exact hchanged.trans (stays_resetMass ..)
      · exact hchanged
  | createJoint hcreate | createDefaultJoint hcreate =>
      obtain ⟨recA, recB, world, spring, -, -, hw, -, -, -, -, rfl⟩ := createJoint_eq_ok hcreate
      exact stays_of_replaceWorld hw id rfl rfl
        (World.retains_insertSpring Body.oblivious_core world spring)
  | deleteJoint hdelete =>
      obtain ⟨rec, -, rfl⟩ := deleteJoint_eq_ok hdelete
      exact stays_of_modifyWorld (f := (·.removeSpring rec.native)) id rfl fun world _ =>
        ⟨World.bare_removeSpring .., World.retains_removeSpring Body.oblivious_core ..⟩
  | question => exact Stays.refl _

theorem evolves_transact {R : Body → Body → Prop} (hR : Body.Lenient R)
    (hmass : ∀ (mass : Float32) (body : Body), R body (body.setAdditionalMass mass))
    (hs : r.Sound) (hquiet : op.isQuiet)
    (hattach : ∀ v a shape material, op ≠ .createFixture v a shape material)
    (hok : op.transact config r = .ok (outcome, r')) : Evolves R r r' := by
  have hlax := hR.toLax
  have hreset := evolves_resetMass hR hmass
  cases transition_transact hok with
  | createWorld | setWorld | step | stepDefault | createBody | setBody => cases hquiet
  | createFixture => exact absurd rfl (hattach _ _ _ _)
  | destroyWorld hdestroy =>
      obtain ⟨-, rfl⟩ := destroyWorld_eq_ok hdestroy
      exact ⟨fun h => ⟨_, _, holds_dropWorld hs h, hR.refl _⟩⟩
  | deleteBody hdelete =>
      obtain ⟨other, -, rfl⟩ := deleteBody_eq_ok hdelete
      exact evolves_of_modifyWorld hR.refl get?_of_dropBody rfl fun world _ =>
        World.evolves_removeBody hlax world other.native
  | @deleteFixture v f u r' hdelete =>
      obtain ⟨fixture, other, -, -, rfl⟩ := deleteFixture_eq_ok hdelete
      have hdropped : Evolves R r (r.dropFixture f fixture) :=
        evolves_of_modifyWorld hR.refl id rfl fun world _ =>
          World.evolves_removeCollider hR world fixture.native
      exact hdropped.trans hR.trans (hreset ..)
  | @setFixture v f change u r' hset =>
      obtain ⟨fixture, collider, other, changed, -, -, rfl, rfl⟩ := setFixture_eq_ok hset
      have hchanged : Evolves R r ((r.modifyWorld v (·.setMaterial fixture.native
          (change.apply collider.material))).changeMaterial f change.apply) :=
        evolves_of_modifyWorld hR.refl id rfl fun world _ => World.evolves_setMaterial hR world _ _
      split
      · exact hchanged.trans hR.trans (hreset ..)
      · exact hchanged
  | createJoint hcreate | createDefaultJoint hcreate =>
      obtain ⟨recA, recB, world, spring, -, -, hw, -, -, -, -, rfl⟩ := createJoint_eq_ok hcreate
      exact evolves_addJoint hlax hw spring _ rfl
  | deleteJoint hdelete =>
      obtain ⟨joint, -, rfl⟩ := deleteJoint_eq_ok hdelete
      exact evolves_of_modifyWorld hR.refl id rfl fun world _ =>
        World.evolves_removeSpring hlax world joint.native
  | question => exact ⟨fun h => ⟨_, _, h, hR.refl _⟩⟩

theorem world_transact (hs : r.Sound) (hok : op.transact config r = .ok (outcome, r'))
    {world' : World} (hw' : r'.worlds.get? w = some world') :
    (∃ gravity allowSleep, op = .createWorld gravity allowSleep ∧ outcome = .handle w ∧
      world' = .create gravity (config.newWorldSettings allowSleep)) ∨
      ∃ world, r.worlds.get? w = some world ∧ op.MakesWorld config w world world' := by
  cases transition_transact hok with
  | createWorld hcreate =>
      obtain ⟨hissue, rfl⟩ := createWorld_eq_ok hcreate
      obtain ⟨-, rfl⟩ := HandleTable.issue_eq_ok_iff.mp hissue
      rw [addWorld, HandleTable.get?_append hs.worlds] at hw'
      split at hw'
      · rename_i hnext
        exact .inl ⟨_, _, rfl, by rw [hnext], (Option.some.inj hw').symm⟩
      · exact .inr ⟨world', hw', rfl⟩
  | setWorld hset =>
      obtain ⟨-, rfl⟩ := changeWorld_eq_ok hset
      exact .inr (exists_of_get?_modifyWorld hw')
  | step hstep | stepDefault hstep => exact .inr (world_step hstep hw')
  | setBody hset =>
      obtain ⟨rec, -, rfl⟩ := changeBody_eq_ok hset
      obtain ⟨world, hw, rfl⟩ := exists_of_get?_modifyWorld hw'
      refine .inr ⟨world, hw, ?_⟩
      split
      · exact World.bare_changeBody ..
      · rfl
  | createBody hcreate =>
      obtain ⟨found, native, hfound, -, -, rfl⟩ := createBody_eq_ok hcreate
      obtain ⟨added, hadded, hbare⟩ := (stays_resetMass ..).world hw'
      obtain ⟨world, hw, rfl⟩ := exists_of_get?_modifyWorld hadded
      refine .inr ⟨world, hw, hbare.trans ?_⟩
      split
      · rename_i hv
        obtain rfl := Option.some.inj (hfound.symm.trans (hv ▸ hw))
        exact World.bare_insertBody ..
      · rfl
  | question hasks => exact .inr ⟨world', hw', makesWorld_of_asks hasks _⟩
  | _ => exact .inr ((stays_transact hs rfl hok).world hw')

theorem body_transact (hs : r.Sound) (hok : op.transact config r = .ok (outcome, r'))
    {rec : BodyRecord} {world' : World} {body' : Body} (h : r'.Holds b rec world' body') :
    (∃ kind place world, op = .createBody rec.world kind place ∧ outcome = .handle b ∧
      r.worlds.get? rec.world = some world ∧
      body'.core = (Body.create kind place world.settings.allowSleep world.settings.continuous
        b.tag).core) ∨
      ∃ world body, r.Holds b rec world body ∧ op.MakesBody config b rec world body body' := by
  cases transition_transact hok with
  | createWorld hcreate =>
      obtain ⟨-, rfl⟩ := createWorld_eq_ok hcreate
      exact .inr ⟨world', body', holds_addWorld hs h, rfl⟩
  | @createBody v kind place a r' hcreate =>
      rcases holds_createBody Body.oblivious_core.lenient Body.core_setAdditionalMass hs hcreate h
        with ⟨rfl, -, rfl, world, hworld, hcore⟩ | hbefore
      · exact .inl ⟨kind, place, world, rfl, rfl, hworld, hcore⟩
      · exact .inr hbefore
  | @setWorld v change u r' hset =>
      obtain ⟨-, rfl⟩ := changeWorld_eq_ok hset
      obtain ⟨hrec, hw', hbody'⟩ := h
      obtain ⟨world, hw, rfl⟩ := exists_of_get?_modifyWorld hw'
      split at hbody'
      · rename_i hv
        rw [change.get?_apply] at hbody'
        obtain ⟨body, hbody, rfl⟩ := Option.map_eq_some_iff.mp hbody'
        exact .inr ⟨world, body, ⟨hrec, hw, hbody⟩, (if_pos hv).symm⟩
      · rename_i hv
        exact .inr ⟨world, body', ⟨hrec, hw, hbody'⟩, (if_neg hv).symm⟩
  | step hstep | stepDefault hstep => exact .inr (body_step hs hstep h)
  | setBody hset => exact .inr (body_changeBody hs hset h)
  | question hasks => exact .inr ⟨world', body', h, makesBody_of_asks hasks ..⟩
  | _ => exact .inr ((stays_transact hs rfl hok).body h)

theorem index_of_bears {s : Simulator} (hs : s.registry.Sound) {op : Operation} {k : Kind}
    {h : Handle k} {o : Origin k} (hbears : (op.event s).Bears h o) :
    h.index.toNat = s.registry.issued k := by
  obtain ⟨h', o', hbears', hindex, -⟩ := exists_bears hs hbears.creates
  obtain ⟨rfl, -⟩ := hbears.unique hbears'
  exact hindex

theorem not_bears {s : Simulator} (hs : s.registry.Sound) {k : Kind} {h : Handle k}
    {rec : Record k} (hrec : (s.registry.table k).get? h = some rec) (op : Operation)
    (o : Origin k) : ¬ (op.event s).Bears h o := fun hbears =>
  absurd (index_of_bears hs hbears) (Nat.ne_of_lt ((hs.table k).index_lt hrec))

end Operation

namespace Event

/-- The operation, unless it is refused. -/
def granted (e : Event) : Option Operation :=
  match e.result with
  | .ok _ => some e.op
  | .error _ => none

def MakesWorld (config : Config) (w : Handle .world) (world world' : World) (e : Event) : Prop :=
  match e.granted with
  | some op => op.MakesWorld config w world world'
  | none => world' = world

def MakesBody (config : Config) (b : Handle .body) (rec : BodyRecord) (world : World)
    (body body' : Body) (e : Event) : Prop :=
  match e.granted with
  | some op => op.MakesBody config b rec world body body'
  | none => body' = body

theorem granted_of_ok {e : Event} {outcome : Outcome} (h : e.result = .ok outcome) :
    e.granted = some e.op := by
  rw [granted, h]

end Event

namespace Simulator

variable {s : Simulator} {op : Operation} {w : Handle .world} {b : Handle .body}

theorem world_perform (hs : s.registry.Sound) {world' : World}
    (hw' : (op.perform s).2.registry.worlds.get? w = some world') :
    (∃ gravity allowSleep, op = .createWorld gravity allowSleep ∧
      (op.event s).result = .ok (.handle w) ∧
      world' = .create gravity (s.config.newWorldSettings allowSleep)) ∨
      ∃ world, s.registry.worlds.get? w = some world ∧
        (op.event s).MakesWorld s.config w world world' := by
  unfold Operation.event
  rcases perform_cases hs op with ⟨e, heq⟩ | ⟨outcome, s', heq, hok⟩
  · rw [heq] at hw' ⊢
    exact .inr ⟨world', hw', rfl⟩
  · rw [heq] at hw' ⊢
    rcases Operation.world_transact hs hok hw' with ⟨gravity, allowSleep, rfl, rfl, rfl⟩ | hbefore
    · exact .inl ⟨gravity, allowSleep, rfl, rfl, rfl⟩
    · exact .inr hbefore

theorem body_perform (hs : s.registry.Sound) {rec : BodyRecord} {world' : World} {body' : Body}
    (h : (op.perform s).2.registry.Holds b rec world' body') :
    (∃ kind place world, op = .createBody rec.world kind place ∧
      (op.event s).result = .ok (.handle b) ∧ s.registry.worlds.get? rec.world = some world ∧
      body'.core = (Body.create kind place world.settings.allowSleep world.settings.continuous
        b.tag).core) ∨
      ∃ world body, s.registry.Holds b rec world body ∧
        (op.event s).MakesBody s.config b rec world body body' := by
  unfold Operation.event
  rcases perform_cases hs op with ⟨e, heq⟩ | ⟨outcome, s', heq, hok⟩
  · rw [heq] at h ⊢
    exact .inr ⟨world', body', h, rfl⟩
  · rw [heq] at h ⊢
    rcases Operation.body_transact hs hok h with ⟨kind, place, world, rfl, rfl, hbirth⟩ | hbefore
    · exact .inl ⟨kind, place, world, rfl, rfl, hbirth⟩
    · exact .inr hbefore

end Simulator

section

variable {α : Type} {opens : Event → α → Prop} {step : α → Event → α}

/-- Some event of a history opened what is so, no later one did, and the later ones made of it what
is so now. -/
def ToldSince (opens : Event → α → Prop) (step : α → Event → α) (t : List Event) (x : α) : Prop :=
  ∃ before e after y, t = before ++ e :: after ∧ opens e y ∧ (∀ e' ∈ after, ∀ z, ¬ opens e' z) ∧
    x = after.foldl step y

namespace Simulator

variable {config : Config} (has : Simulator → α → Prop) {s : Simulator}

/-- What is so after a run was opened by an event of the run, or the run made it of what was so
before. -/
theorem told_performAll
    (hperform : ∀ {s : Simulator} (op : Operation) {x : α}, s.registry.Sound → s.config = config →
      has (op.perform s).2 x → opens (op.event s) x ∨
        (∀ z, ¬ opens (op.event s) z) ∧ ∃ y, has s y ∧ x = step y (op.event s))
    (hs : s.registry.Sound) (hconfig : s.config = config) (ops : List Operation) {x : α}
    (hx : has (s.performAll ops) x) :
    ToldSince opens step (s.history ops) x ∨
      (∀ e ∈ s.history ops, ∀ z, ¬ opens e z) ∧
        ∃ y, has s y ∧ x = (s.history ops).foldl step y := by
  induction ops generalizing s with
  | nil =>
      rw [history]
      exact .inr ⟨List.forall_mem_nil _, x, hx, rfl⟩
  | cons op ops ih =>
      have hrest := ih (Operation.sound_perform hs op)
        ((Operation.config_perform hs op).trans hconfig) hx
      rw [history]
      rcases hrest with ⟨before, e, after, y, hsplit, htold⟩ | ⟨hnone, y, hy, rfl⟩
      · exact .inl ⟨op.event s :: before, e, after, y, by rw [hsplit]; rfl, htold⟩
      · rcases hperform op hs hconfig hy with hopens | ⟨hclosed, z, hz, rfl⟩
        · exact .inl ⟨[], op.event s, _, y, rfl, hopens, hnone, rfl⟩
        · exact .inr ⟨List.forall_mem_cons.mpr ⟨hclosed, hnone⟩, z, hz, rfl⟩

theorem told_of_start
    (hperform : ∀ {s : Simulator} (op : Operation) {x : α}, s.registry.Sound → s.config = config →
      has (op.perform s).2 x → opens (op.event s) x ∨
        (∀ z, ¬ opens (op.event s) z) ∧ ∃ y, has s y ∧ x = step y (op.event s))
    (hstart : ∀ x, ¬ has (start config) x) (ops : List Operation) {x : α}
    (hx : has ((start config).performAll ops) x) :
    ToldSince opens step ((start config).history ops) x := by
  rcases told_performAll has hperform (sound_start config) rfl ops hx with htold | ⟨-, y, hy, -⟩
  · exact htold
  · exact absurd hy (hstart y)

end Simulator

end

end RigidWorlds
