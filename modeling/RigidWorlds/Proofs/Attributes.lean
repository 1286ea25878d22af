import RigidWorlds.Proofs.Coordinates
import RigidWorlds.Proofs.Fate

namespace RigidWorlds

open Engine

/-- A circle is a ball; a box has half the width and half the height on either side. -/
def ShapeDescriptor.solid? (d : ShapeDescriptor) : Option Solid :=
  match d.kind with
  | .circle => some (.ball d.param1)
  | .box => some (.cuboid (d.param1 / 2) (d.param2 / 2))
  | .edge | .polygon => none

theorem ShapeDescriptor.build_eq_ok {d : ShapeDescriptor} {solid : Solid}
    (h : d.build = .ok solid) : d.solid? = some solid := by
  have hpositive : ∀ {quantity : Quantity} {x y : Float32},
      checkPositive quantity x = .ok y → y = x := by
    intro quantity x y hcheck
    unfold checkPositive at hcheck
    split at hcheck
    · exact (Except.ok.inj hcheck).symm
    · cases hcheck
  obtain ⟨kind, param1, param2⟩ := d
  cases kind with
  | circle =>
      obtain ⟨radius, hradius, hsolid⟩ := bind_eq_ok_iff.mp h
      obtain rfl := hpositive hradius
      exact congrArg some (Except.ok.inj hsolid)
  | box =>
      obtain ⟨width, hwidth, hrest⟩ := bind_eq_ok_iff.mp h
      obtain ⟨height, hheight, hsolid⟩ := bind_eq_ok_iff.mp hrest
      obtain rfl := hpositive hwidth
      obtain rfl := hpositive hheight
      exact congrArg some (Except.ok.inj hsolid)
  | edge | polygon => cases h

/-- A circle has the radius that is given, a box half the width and half the height. -/
def ShapeDefinition.solid? (s : ShapeDefinition) : Option Solid :=
  if s.kind = "circle" then some (.ball s.radius)
  else if s.kind = "box" then some (.cuboid (s.width / 2) (s.height / 2))
  else none

theorem ShapeKind.name_injective {a b : ShapeKind} (h : a.name = b.name) : a = b := by
  cases a <;> cases b <;> first | rfl | exact absurd h (by decide)

theorem ShapeKind.ofName_eq_ok {name : String} {kind : ShapeKind}
    (h : ofName name = .ok kind) : kind.name = name := by
  unfold ofName at h
  split at h
  · rename_i found hfound
    obtain rfl := Except.ok.inj h
    have hname := List.find?_some hfound
    exact eq_of_beq hname
  · cases h

theorem ShapeDefinition.solid?_of_descriptor {s : ShapeDefinition} {d : ShapeDescriptor}
    (h : s.descriptor = .ok d) {solid : Solid} (hsolid : d.solid? = some solid) :
    s.solid? = some solid := by
  have hname : ∀ {param1 param2 : Float32},
      ShapeDescriptor.ofName s.kind param1 param2 = .ok d →
        d.kind.name = s.kind ∧ d.param1 = param1 ∧ d.param2 = param2 := by
    intro param1 param2 hof
    obtain ⟨kind, hkind, hd⟩ := bind_eq_ok_iff.mp hof
    obtain rfl := Except.ok.inj hd
    exact ⟨ShapeKind.ofName_eq_ok hkind, rfl, rfl⟩
  obtain ⟨kind, param1, param2⟩ := d
  unfold descriptor at h
  split at h
  · rename_i hcircle
    obtain ⟨hkind, rfl, -⟩ := hname h
    obtain rfl : kind = .circle := ShapeKind.name_injective (hkind.trans hcircle)
    exact (if_pos hcircle).trans hsolid
  · rename_i hcircle
    obtain ⟨hkind, rfl, rfl⟩ := hname h
    cases kind with
    | circle => exact absurd hkind.symm hcircle
    | box => exact (if_neg hcircle).trans ((if_pos hkind.symm).trans hsolid)
    | edge | polygon => cases hsolid

namespace Engine

/-- The colliders that are left are attached as they were and have the shapes they had. -/
structure World.Inherits (w w' : World) : Prop where
  collider : ∀ {key collider'}, w'.colliders.get? key = some collider' →
    ∃ collider, w.colliders.get? key = some collider ∧ collider'.identity = collider.identity

namespace World

variable {w w' : World}

theorem inherits_of_census (h : ∀ {key identity}, w'.census.colliders.get? key = some identity →
    w.census.colliders.get? key = some identity) : Inherits w w' := by
  constructor
  intro key collider' hcollider'
  have hcensus : w'.census.colliders.get? key = some collider'.identity := by
    rw [census, Arena.get?_map, hcollider', Option.map_some]
  have hbefore := h hcensus
  rw [census, Arena.get?_map] at hbefore
  obtain ⟨collider, hcollider, hidentity⟩ := Option.map_eq_some_iff.mp hbefore
  exact ⟨collider, hcollider, hidentity.symm⟩

theorem inherits_of_census_eq (h : w'.census = w.census) : Inherits w w' :=
  inherits_of_census fun hidentity => h ▸ hidentity

theorem inherits_insertBody (w : World) (kind : BodyKind) (place : Vec2) (tag : Nat) :
    Inherits w (w.insertBody kind place tag).2 := by
  have hcensus : (w.insertBody kind place tag).2.census = (w.census.insertBody kind tag).2 :=
    (congrArg Prod.snd (census_insertBody ..)).symm
  refine inherits_of_census fun hidentity => ?_
  rwa [hcensus] at hidentity

theorem inherits_removeCollider (w : World) (key : Key) : Inherits w (w.removeCollider key) := by
  refine inherits_of_census fun hidentity => ?_
  rw [census_removeCollider, Census.removeCollider] at hidentity
  split at hidentity
  · exact hidentity
  · replace hidentity := (Arena.get?_remove ..).symm.trans hidentity
    split at hidentity
    · cases hidentity
    · exact hidentity

theorem inherits_removeBody (w : World) (key : Key) : Inherits w (w.removeBody key) := by
  refine inherits_of_census fun hidentity => ?_
  rw [census_removeBody, Census.removeBody] at hidentity
  split at hidentity
  · exact hidentity
  · replace hidentity := (Arena.get?_foldl_remove ..).symm.trans hidentity
    split at hidentity
    · cases hidentity
    · exact hidentity

theorem inherits_insertSpring (w : World) (spring : Spring) :
    Inherits w (w.insertSpring spring).2 := by
  have hcensus : (w.insertSpring spring).2.census =
      (w.census.insertSpring spring.first spring.second).2 :=
    (congrArg Prod.snd (census_insertSpring ..)).symm
  refine inherits_of_census fun hidentity => ?_
  rwa [hcensus] at hidentity

theorem inherits_removeSpring (w : World) (key : Key) : Inherits w (w.removeSpring key) := by
  refine inherits_of_census fun hidentity => ?_
  rwa [census_removeSpring] at hidentity

end World

end Engine

namespace Registry

variable {r r' r'' : Registry} {w : Handle .world} {world : World} {f : Handle .fixture}

/-- The engine of its world holds the collider of a fixture on record. -/
structure HoldsFixture (r : Registry) (f : Handle .fixture) (rec : FixtureRecord)
    (collider : Collider) : Prop where
  record : r.fixtures.get? f = some rec
  item : ∃ world, r.worlds.get? rec.world = some world ∧
    world.colliders.get? rec.native = some collider

theorem Sound.holdsFixture (hs : r.Sound) {rec : FixtureRecord}
    (hrec : r.fixtures.get? f = some rec) : ∃ collider, r.HoldsFixture f rec collider := by
  obtain ⟨m, hm⟩ := hs.exists_colliderMaterial hrec
  obtain ⟨world, collider, hw, hcollider, -⟩ := colliderMaterial?_eq_some_iff.mp hm
  exact ⟨collider, hrec, world, hw, hcollider⟩

/-- The colliders that are left are attached as they were and have the shapes they had. -/
structure Inherits (r r' : Registry) : Prop where
  collider : ∀ {w world' key collider'}, r'.worlds.get? w = some world' →
    world'.colliders.get? key = some collider' → ∃ world collider,
      r.worlds.get? w = some world ∧ world.colliders.get? key = some collider ∧
        collider'.identity = collider.identity

theorem Inherits.refl (r : Registry) : Inherits r r := ⟨fun hw h => ⟨_, _, hw, h, rfl⟩⟩

theorem Inherits.trans (h : Inherits r r') (h' : Inherits r' r'') : Inherits r r'' := by
  constructor
  intro w world'' key collider'' hw'' hcollider''
  obtain ⟨world', collider', hw', hcollider', hidentity'⟩ := h'.collider hw'' hcollider''
  obtain ⟨world, collider, hw, hcollider, hidentity⟩ := h.collider hw' hcollider'
  exact ⟨world, collider, hw, hcollider, hidentity'.trans hidentity⟩

theorem inherits_of_modifyWorld {g : World → World}
    (hworlds : r'.worlds = (r.modifyWorld w g).worlds)
    (hg : ∀ world, r.worlds.get? w = some world → world.Inherits (g world)) : Inherits r r' := by
  constructor
  intro v world' key collider' hv' hcollider'
  rw [hworlds] at hv'
  obtain ⟨world, hv, rfl⟩ := exists_of_get?_modifyWorld hv'
  split at hcollider'
  · rename_i hw
    obtain ⟨collider, hcollider, hidentity⟩ := (hg world (hw ▸ hv)).collider hcollider'
    exact ⟨world, collider, hv, hcollider, hidentity⟩
  · exact ⟨world, collider', hv, hcollider', rfl⟩

theorem inherits_of_replaceWorld (hw : r.worlds.get? w = some world) {world' : World}
    (hworlds : r'.worlds = (r.modifyWorld w fun _ => world').worlds)
    (hinherits : world.Inherits world') : Inherits r r' := by
  refine inherits_of_modifyWorld hworlds fun found hfound => ?_
  obtain rfl := Option.some.inj (hfound.symm.trans hw)
  exact hinherits

theorem inherits_resetMass (r : Registry) (b : Handle .body) (rec : BodyRecord) :
    Inherits r (r.resetMass b rec) := by
  refine inherits_of_modifyWorld rfl fun world _ => World.inherits_of_census_eq ?_
  apply World.census_changeBody
  intro body
  split
  · exact Body.identity_setAdditionalMass ..
  · rfl

theorem inherits_addWorld (hs : r.Sound) (gravity : Vec2) (settings : WorldSettings) :
    Inherits r (r.addWorld (World.create gravity settings)) := by
  constructor
  intro w world' key collider' hw' hcollider'
  rw [addWorld, HandleTable.get?_append hs.worlds] at hw'
  split at hw'
  · obtain rfl := Option.some.inj hw'
    cases (World.material?_create gravity settings key).symm.trans
      (congrArg (Option.map Collider.material) hcollider')
  · exact ⟨world', collider', hw', hcollider', rfl⟩

theorem inherits_dropWorld (r : Registry) (w : Handle .world) : Inherits r (r.dropWorld w) := by
  constructor
  intro v world' key collider' hv' hcollider'
  rw [get?_dropWorld] at hv'
  split at hv'
  · cases hv'
  · exact ⟨world', collider', hv', hcollider', rfl⟩

end Registry

namespace Operation

open Registry

variable {config : Config} {op : Operation} {r r' : Registry} {outcome : Outcome}

theorem inherits_transact (hs : r.Sound) (hok : op.transact config r = .ok (outcome, r'))
    (hop : ∀ w b shape material, op ≠ .createFixture w b shape material) : Inherits r r' := by
  cases transition_transact hok with
  | createFixture => exact absurd rfl (hop _ _ _ _)
  | @createWorld gravity allowSleep w r' hcreate =>
      obtain ⟨-, rfl⟩ := createWorld_eq_ok hcreate
      exact inherits_addWorld hs gravity _
  | destroyWorld hdestroy =>
      obtain ⟨-, rfl⟩ := destroyWorld_eq_ok hdestroy
      exact inherits_dropWorld r _
  | @setWorld w change u r' hset =>
      obtain ⟨-, rfl⟩ := changeWorld_eq_ok hset
      exact inherits_of_modifyWorld rfl fun world _ =>
        World.inherits_of_census_eq (change.census_apply world)
  | step hstep | stepDefault hstep =>
      obtain ⟨-, -, -, rfl | rfl⟩ := step_eq_ok hstep
      · exact Inherits.refl _
      · exact inherits_of_modifyWorld rfl fun world _ =>
          World.inherits_of_census_eq (world.census_advance ..)
  | createBody hcreate =>
      obtain ⟨world, native, hw, -, -, rfl⟩ := createBody_eq_ok hcreate
      refine Inherits.trans ?_ (inherits_resetMass ..)
      exact inherits_of_replaceWorld hw rfl (World.inherits_insertBody ..)
  | deleteBody hdelete =>
      obtain ⟨rec, -, rfl⟩ := deleteBody_eq_ok hdelete
      exact inherits_of_modifyWorld (g := (·.removeBody rec.native)) rfl fun world _ =>
        world.inherits_removeBody rec.native
  | @setBody w b change u r' hset =>
      obtain ⟨rec, -, rfl⟩ := changeBody_eq_ok hset
      exact inherits_of_modifyWorld rfl fun world _ =>
        World.inherits_of_census_eq (World.census_changeBody _ _ change.identity_apply)
  | deleteFixture hdelete =>
      obtain ⟨rec, body, -, -, rfl⟩ := deleteFixture_eq_ok hdelete
      refine Inherits.trans ?_ (inherits_resetMass ..)
      exact inherits_of_modifyWorld (g := (·.removeCollider rec.native)) rfl fun world _ =>
        world.inherits_removeCollider rec.native
  | @setFixture w f change u r' hset =>
      obtain ⟨rec, collider, body, changed, -, -, rfl, rfl⟩ := setFixture_eq_ok hset
      have hchanged : Inherits r ((r.modifyWorld w (·.setMaterial rec.native (change.apply
          collider.material))).changeMaterial f change.apply) :=
        inherits_of_modifyWorld rfl fun world _ =>
          World.inherits_of_census_eq (world.census_setMaterial ..)
      split
      · exact hchanged.trans (inherits_resetMass ..)
      · exact hchanged
  | createJoint hcreate | createDefaultJoint hcreate =>
      obtain ⟨recA, recB, world, spring, -, -, hw, -, -, -, -, rfl⟩ := createJoint_eq_ok hcreate
      exact inherits_of_replaceWorld hw rfl (world.inherits_insertSpring spring)
  | deleteJoint hdelete =>
      obtain ⟨rec, -, rfl⟩ := deleteJoint_eq_ok hdelete
      exact inherits_of_modifyWorld (g := (·.removeSpring rec.native)) rfl fun world _ =>
        world.inherits_removeSpring rec.native
  | question => exact Inherits.refl _

end Operation

namespace Registry

variable {r : Registry} {w : Handle .world} {world : World}

theorem holdsFixture_addFixture (hs : r.Sound) (hw : r.worlds.get? w = some world)
    (b : Handle .body) (solid : Solid) (material : Material) (tag : Nat) (parent : Key)
    {f : Handle .fixture} {rec : FixtureRecord} {collider : Collider}
    (h : (r.addFixture ⟨w, b, (world.insertCollider solid material tag parent).1, material⟩
      (world.insertCollider solid material tag parent).2).HoldsFixture f rec collider) :
    (f = r.fixtures.next ∧ collider.solid = solid) ∨ r.HoldsFixture f rec collider := by
  obtain ⟨hrec, world', hworld', hcollider⟩ := h
  have hwell := hs.wellFormed_colliders hw
  replace hworld' : (r.modifyWorld w fun _ =>
      (world.insertCollider solid material tag parent).2).worlds.get? rec.world = some world' :=
    hworld'
  rw [addFixture, HandleTable.get?_append hs.fixtures] at hrec
  split at hrec
  · obtain rfl := Option.some.inj hrec
    obtain rfl := Option.some.inj (hworld'.symm.trans (get?_modifyWorld_self hw _))
    rw [World.colliders_insertCollider] at hcollider
    have hnew := (Arena.get?_insert hwell ..).symm.trans hcollider
    replace hcollider := (if_pos rfl).symm.trans hnew
    exact .inl ⟨‹_›, congrArg Collider.solid (Option.some.inj hcollider).symm⟩
  · right
    obtain ⟨old, -, found, hfound, hold⟩ := hs.holdsFixture hrec
    obtain ⟨before, hbefore, rfl⟩ := exists_of_get?_modifyWorld hworld'
    obtain rfl := Option.some.inj (hbefore.symm.trans hfound)
    refine ⟨hrec, before, hbefore, ?_⟩
    split at hcollider
    · rename_i hv
      obtain rfl := Option.some.inj (hbefore.symm.trans (hv ▸ hw))
      -- The new collider has a key of its own.
      rw [World.colliders_insertCollider, Arena.get?_insert hwell, if_neg] at hcollider
      · exact hcollider
      · intro hnative
        rw [hnative, Arena.get?_insert_key hwell] at hold
        cases hold
    · exact hcollider

end Registry

theorem Operation.kind_of_makes {config : Config} {op : Operation} {b : Handle .body}
    {rec : BodyRecord} {world : World} {body body' : Body}
    (hbody : world.bodies.get? rec.native = some body)
    (h : op.MakesBody config b rec world body body') : body'.kind = body.kind := by
  cases op with
  | setWorld v change =>
      obtain rfl : body' = if v = rec.world then change.onBody body else body := h
      split
      · cases change <;> rfl
      · rfl
  | setBody v a change =>
      obtain rfl : body' = if a = b then change.apply body else body := h
      split
      · have hkind : Body.Aloof Body.kind := fun _ _ _ _ _ _ _ => rfl
        exact change.view_apply hkind body
      · rfl
  | step | stepDefault => exact view_of_step (f := Body.kind) (fun _ => rfl) hbody h
  | _ => exact (congrArg Body.kind h :)

theorem Event.kind_of_makes {config : Config} {e : Event} {b : Handle .body} {rec : BodyRecord}
    {world : World} {body body' : Body} (hbody : world.bodies.get? rec.native = some body)
    (h : e.MakesBody config b rec world body body') : body'.kind = body.kind := by
  unfold MakesBody at h
  split at h
  · exact Operation.kind_of_makes hbody h
  · rw [h]

namespace Simulator

open Registry

variable {s : Simulator}

theorem solid_perform (hs : s.registry.Sound) (op : Operation) {f : Handle .fixture}
    {rec : FixtureRecord} {collider : Collider}
    (h : (op.perform s).2.registry.HoldsFixture f rec collider) :
    (∃ w b shape material, op.event s = ⟨.createFixture w b shape material, .ok (.handle f)⟩ ∧
      shape.build = .ok collider.solid) ∨
      ∃ rec' collider', s.registry.HoldsFixture f rec' collider' ∧
        collider.solid = collider'.solid := by
  have hrecords := fixture_perform hs op h.record
  unfold Operation.event at hrecords ⊢
  rcases perform_cases hs op with ⟨e, heq⟩ | ⟨outcome, s', heq, hok⟩
  · rw [heq] at h
    exact .inr ⟨rec, collider, h, rfl⟩
  · rw [heq] at h hrecords ⊢
    by_cases hop : ∃ w b shape material, op = .createFixture w b shape material
    · obtain ⟨w, b, shape, material, rfl⟩ := hop
      obtain ⟨g, hcreate, rfl⟩ := Transaction.map_eq_ok hok
      obtain ⟨solid, parent, world, native, hbuild, -, hw, hissue, rfl, hr'⟩ :=
        createFixture_eq_ok hcreate
      obtain ⟨-, rfl⟩ := HandleTable.issue_eq_ok_iff.mp hissue
      obtain ⟨hrec, world', hw', hcollider⟩ := h
      rw [hr'] at hrec hw'
      obtain ⟨added, before, hadded, hbefore, hidentity⟩ :=
        (inherits_resetMass ..).collider hw' hcollider
      have hsolid : collider.solid = before.solid := (congrArg ColliderIdentity.solid hidentity :)
      rcases holdsFixture_addFixture hs hw b solid material _ _ ⟨hrec, added, hadded, hbefore⟩ with
        ⟨rfl, rfl⟩ | hholds
      · exact .inl ⟨w, b, shape, material, rfl, by rw [hsolid, hbuild]⟩
      · exact .inr ⟨rec, before, hholds, hsolid⟩
    · obtain ⟨hrec, world', hw', hcollider⟩ := h
      rcases hrecords with ⟨shape, rfl, -⟩ | ⟨rec', hrec', rfl⟩
      · exact absurd ⟨_, _, _, _, rfl⟩ hop
      · have hinherits := Operation.inherits_transact hs hok
          fun w b shape material h => hop ⟨w, b, shape, material, h⟩
        obtain ⟨world, before, hw, hbefore, hidentity⟩ := hinherits.collider hw' hcollider
        exact .inr ⟨rec', before, ⟨hrec', world, hw, hbefore⟩,
          (congrArg ColliderIdentity.solid hidentity :)⟩

section

variable {α : Type} {k : Kind} {h : Handle k} {config : Config}

theorem settled_of_start (settles : Operation → α → Prop) (has : Simulator → α → Prop)
    (hbirth : ∀ {op x}, settles op x → ∃ o, op.origin? = some ⟨k, o⟩)
    (hlive : ∀ {s : Simulator} {x}, has s x → ∃ rec, (s.registry.table k).get? h = some rec)
    (hperform : ∀ {s : Simulator} (op : Operation) {x : α}, s.registry.Sound →
      has (op.perform s).2 x →
        (settles op x ∧ (op.event s).result = .ok (.handle h)) ∨ has s x)
    (ops : List Operation) {x : α} (hx : has ((start config).performAll ops) x) {e : Event}
    {o : Origin k} (he : e ∈ (start config).history ops) (hbears : e.Bears h o) :
    settles e.op x := by
  have hstart : ∀ x, ¬ has (start config) x := by
    intro x hx
    obtain ⟨rec, hrec⟩ := hlive hx
    have hnone := origin?_start config h
    rw [Registry.origin?, hrec] at hnone
    cases hnone
  have htold : ToldSince (fun e x => settles e.op x ∧ e.result = .ok (.handle h)) (fun x _ => x)
      ((start config).history ops) x := by
    refine told_of_start has ?_ hstart ops hx
    intro s op x hs _ hx
    rcases hperform op hs hx with hsettles | hbefore
    · exact .inl hsettles
    · refine .inr ⟨?_, x, hbefore, rfl⟩
      rintro z ⟨hsettles, hresult⟩
      obtain ⟨rec, hrec⟩ := hlive hbefore
      obtain ⟨o, hop⟩ := hbirth hsettles
      exact Operation.not_bears hs hrec op o ⟨hop, hresult⟩
  obtain ⟨before, birth, after, y, hsplit, ⟨hsettles, hresult⟩, -, hxy⟩ := htold
  rw [List.foldl_fixed] at hxy
  obtain ⟨o', hop⟩ := hbirth hsettles
  have hmem : birth ∈ (start config).history ops := by simp [hsplit]
  obtain rfl := birth_unique (sound_start config) ops hmem he ⟨hop, hresult⟩ hbears
  rw [hxy]
  exact hsettles

end

variable {config : Config} {ops : List Operation}

theorem origin?_of_live {k : Kind} {h : Handle k} {o : Origin k} {e : Event}
    (he : e ∈ (start config).history ops) (hbears : e.Bears h o)
    (hlive : ((start config).performAll ops).registry.live h = true) :
    ((start config).performAll ops).registry.origin? h = some o := by
  obtain ⟨o', ho'⟩ := Registry.live_iff.mp hlive
  obtain ⟨e', he', hbears'⟩ := ((origin?_iff_standing config ops).mp ho').exists_bears
  rw [ho', origin_unique (sound_start config) ops he' he hbears' hbears]

theorem solid_performAll {f : Handle .fixture} {rec : FixtureRecord} {collider : Collider}
    (h : ((start config).performAll ops).registry.HoldsFixture f rec collider) {w : Handle .world}
    {b : Handle .body} {shape : ShapeDescriptor} {material : Material}
    (he : ⟨.createFixture w b shape material, .ok (.handle f)⟩ ∈ (start config).history ops) :
    shape.build = .ok collider.solid := by
  have hsettled := settled_of_start (k := .fixture) (h := f)
    (fun op solid => ∃ w b shape material, op = .createFixture w b shape material ∧
      shape.build = .ok solid)
    (fun s solid => ∃ rec collider, s.registry.HoldsFixture f rec collider ∧
      solid = collider.solid) ?_ ?_ ?_ ops ⟨rec, collider, h, rfl⟩ he ⟨rfl, rfl⟩
  · obtain ⟨_, _, _, _, hop, hbuild⟩ := hsettled
    cases hop
    exact hbuild
  · rintro op solid ⟨w, b, shape, material, rfl, -⟩
    exact ⟨_, rfl⟩
  · rintro s solid ⟨rec, collider, hholds, -⟩
    exact ⟨rec, hholds.record⟩
  · rintro s op solid hs ⟨rec, collider, hholds, rfl⟩
    rcases solid_perform hs op hholds with ⟨w, b, shape, material, hevent, hbuild⟩ |
      ⟨rec', collider', hbefore, hsolid⟩
    · have hop : op = _ := congrArg Event.op hevent
      exact .inl ⟨⟨w, b, shape, material, hop, hbuild⟩, congrArg Event.result hevent⟩
    · exact .inr ⟨rec', collider', hbefore, hsolid⟩

theorem kind_performAll {b : Handle .body} {rec : BodyRecord} {world : World} {body : Body}
    (h : ((start config).performAll ops).registry.Holds b rec world body) {w : Handle .world}
    {kind : BodyKind} {place : Vec2}
    (he : ⟨.createBody w kind place, .ok (.handle b)⟩ ∈ (start config).history ops) :
    body.kind = kind := by
  have hsettled := settled_of_start (k := .body) (h := b)
    (fun op kind => ∃ w place, op = .createBody w kind place)
    (fun s kind => ∃ rec world body, s.registry.Holds b rec world body ∧ kind = body.kind)
    ?_ ?_ ?_ ops ⟨rec, world, body, h, rfl⟩ he ⟨rfl, rfl⟩
  · obtain ⟨_, _, hop⟩ := hsettled
    cases hop
    rfl
  · rintro op kind ⟨w, place, rfl⟩
    exact ⟨_, rfl⟩
  · rintro s kind ⟨rec, world, body, hholds, -⟩
    exact ⟨rec, hholds.record⟩
  · rintro s op kind hs ⟨rec, world, body, hholds, rfl⟩
    rcases body_perform hs hholds with ⟨kind, place, found, rfl, hresult, -, hcore⟩ |
      ⟨found, before, hbefore, hmakes⟩
    · have hkind : body.kind = kind := (congrArg Body.kind hcore :)
      exact .inl ⟨⟨rec.world, place, by rw [hkind]⟩, hresult⟩
    · exact .inr ⟨rec, found, before, hbefore, Event.kind_of_makes hbefore.item hmakes⟩

end Simulator

section

variable {s : Simulator} {w : Handle .world}

theorem perform_fixtureBody (hs : s.registry.Sound) {f : Handle .fixture} {rec : FixtureRecord}
    (hrec : s.registry.fixtures.get? f = some rec) (hw : rec.world = w) :
    (Operation.fixtureBody w f).perform s = (.ok (.handle rec.body), s) := by
  have hfound : s.registry.fixture w f = .ok rec :=
    hs.fixture_eq_ok_iff.mpr (Registry.slice_fixtures_eq_some_iff.mpr ⟨hrec, hw⟩)
  simp only [Operation.perform_eq hs, Operation.transact, Transaction.map, Transaction.read, hfound,
    Except.map, ok_bind, pure, Except.pure]

theorem perform_fixtureShape (hs : s.registry.Sound) {f : Handle .fixture} {rec : FixtureRecord}
    {collider : Collider} (h : s.registry.HoldsFixture f rec collider) (hw : rec.world = w) :
    (Operation.fixtureShape w f).perform s = (.ok (.solid collider.solid), s) := by
  obtain ⟨hrec, world, hworld, hcollider⟩ := h
  have hlocate : s.registry.locateFixture w f = .ok (rec, collider) :=
    hs.locateFixture_eq (hw ▸ hworld) (Registry.slice_fixtures_eq_some_iff.mpr ⟨hrec, hw⟩)
      hcollider
  simp only [Operation.perform_eq hs, Operation.transact, Transaction.map, Transaction.read,
    hlocate, Except.map, ok_bind, pure, Except.pure]

theorem perform_jointBodies (hs : s.registry.Sound) {j : Handle .joint} {rec : JointRecord}
    (hrec : s.registry.joints.get? j = some rec) (hw : rec.world = w) :
    (Operation.jointBodies w j).perform s = (.ok (.joined rec.first rec.second), s) := by
  have hfound : s.registry.joint w j = .ok rec :=
    hs.joint_eq_ok_iff.mpr (Registry.slice_joints_eq_some_iff.mpr ⟨hrec, hw⟩)
  simp only [Operation.perform_eq hs, Operation.transact, Transaction.map, Transaction.read, hfound,
    Except.map, ok_bind, pure, Except.pure]

end

/-- A fixture is told to be attached to a body and to have a shape. -/
def Simulator.TellsFixture (s : Simulator) (w : Handle .world) (f : Handle .fixture)
    (b : Handle .body) (solid : Solid) : Prop :=
  (Operation.fixtureBody w f).perform s = (.ok (.handle b), s) ∧
    (Operation.fixtureShape w f).perform s = (.ok (.solid solid), s)

/-- What is told of the objects of a simulator with a history, for as long as they are there. -/
structure AttributesLast (s : Simulator) (t : List Event) : Prop where
  fixture : ∀ {w b shape material} {f : Handle .fixture},
    ⟨.createFixture w b shape material, .ok (.handle f)⟩ ∈ t → s.registry.live f = true →
      ∃ solid, shape.solid? = some solid ∧ s.TellsFixture w f b solid
  body : ∀ {w kind place} {b : Handle .body},
    ⟨.createBody w kind place, .ok (.handle b)⟩ ∈ t → s.registry.live b = true →
      (Operation.readBody w b .kind).perform s = (.ok (.kind kind), s)
  joint : ∀ {e w a b} {j : Handle .joint}, e ∈ t → e.Bears j (.joint w a b) →
    s.registry.live j = true → (Operation.jointBodies w j).perform s = (.ok (.joined a b), s)

theorem attributesLast_performAll (config : Config) (ops : List Operation) :
    AttributesLast ((Simulator.start config).performAll ops)
      ((Simulator.start config).history ops) := by
  have hs := Simulator.sound_performAll (Simulator.sound_start config) ops
  refine ⟨?_, ?_, ?_⟩
  · intro w b shape material f he hlive
    obtain ⟨rec, hrec, horigin⟩ :=
      Option.map_eq_some_iff.mp (Simulator.origin?_of_live he ⟨rfl, rfl⟩ hlive)
    obtain ⟨rfl, rfl⟩ : FixtureRecord.world rec = w ∧ FixtureRecord.body rec = b := by
      simpa [Registry.Record.origin] using horigin
    obtain ⟨collider, hholds⟩ := hs.holdsFixture hrec
    have hbuild := Simulator.solid_performAll hholds he
    exact ⟨collider.solid, ShapeDescriptor.build_eq_ok hbuild,
      perform_fixtureBody hs hrec rfl, perform_fixtureShape hs hholds rfl⟩
  · intro w kind place b he hlive
    obtain ⟨rec, hrec, horigin⟩ :=
      Option.map_eq_some_iff.mp (Simulator.origin?_of_live he ⟨rfl, rfl⟩ hlive)
    obtain rfl : BodyRecord.world rec = w := by simpa [Registry.Record.origin] using horigin
    obtain ⟨world, body, hholds⟩ := hs.holds hrec
    rw [perform_readBody hs hholds.home
      (Registry.slice_bodies_eq_some_iff.mpr ⟨hrec, rfl⟩) hholds.item]
    have hkind := Simulator.kind_performAll hholds he
    rw [BodyProperty.value, hkind]
  · intro e w a b j he hbears hlive
    obtain ⟨rec, hrec, horigin⟩ :=
      Option.map_eq_some_iff.mp (Simulator.origin?_of_live he hbears hlive)
    obtain ⟨rfl, rfl, rfl⟩ : JointRecord.world rec = w ∧ JointRecord.first rec = a ∧
        JointRecord.second rec = b := by
      simpa [Registry.Record.origin] using horigin
    exact perform_jointBodies hs hrec rfl

theorem Handle.data_injective {k : Kind} {f g : Handle k} (h : f.data = g.data) : f = g := by
  have hint : f.raw.toInt = g.raw.toInt := Json.Number.integer.inj (Json.Value.number.inj h)
  have hraw : f.index.toInt32 = g.index.toInt32 := Int32.toInt_inj.mp hint
  have hindex := congrArg Int32.toUInt32 hraw
  rw [UInt32.toUInt32_toInt32, UInt32.toUInt32_toInt32] at hindex
  cases f
  cases g
  exact congrArg _ hindex

namespace Message

theorem exists_performAll (s : Simulator) (messages : List String) :
    ∃ ops, handleAll s messages = s.performAll ops := by
  induction messages generalizing s with
  | nil => exact ⟨[], rfl⟩
  | cons message messages ih =>
      obtain ⟨ops, hops⟩ := ih (handle s message).2
      rcases orders_or_refused s message with ⟨op, horders⟩ | ⟨e, hanswer⟩
      · refine ⟨op :: ops, hops.trans ?_⟩
        rw [horders.handle_eq]
        rfl
      · refine ⟨ops, hops.trans ?_⟩
        show (answer s message).2.performAll ops = _
        rw [hanswer]

variable {s : Simulator} {message : String} {w : Handle .world} {b : Handle .body}
  {definition : FixtureDefinition} {f : Handle .fixture}

theorem orders_createFixture (hs : s.registry.Sound)
    (hparse : Command.parse message = .ok (.createFixture w b definition))
    (hanswer : (answer s message).1 = .ok f.data) :
    ∃ shape, definition.shape.descriptor = .ok shape ∧
      Orders message (.createFixture w b shape definition.material) ∧
      (Operation.createFixture w b shape definition.material).event s =
        ⟨.createFixture w b shape definition.material, .ok (.handle f)⟩ := by
  cases hshape : definition.shape.descriptor with
  | error e =>
      have hoperation : (Command.createFixture w b definition).operation = .error e := by
        rw [Command.operation, hshape]
        rfl
      have hrefused : (answer s message).1 = .error (.refused e) := by
        unfold answer
        simp only [hparse, Command.execute, hoperation]
        rfl
      rw [hrefused] at hanswer
      cases hanswer
  | ok shape =>
      have hoperation : (Command.createFixture w b definition).operation =
          .ok (.createFixture w b shape definition.material) := by
        rw [Command.operation, hshape]
        rfl
      have horders : Orders message (.createFixture w b shape definition.material) :=
        ⟨_, hparse, hoperation⟩
      refine ⟨shape, rfl, horders, ?_⟩
      rw [horders.answer_eq] at hanswer
      unfold Operation.event
      rcases Simulator.perform_cases hs (.createFixture w b shape definition.material) with
        ⟨e, heq⟩ | ⟨outcome, s', heq, hok⟩
      · rw [heq] at hanswer
        cases hanswer
      · obtain ⟨g, -, rfl⟩ := Transaction.map_eq_ok hok
        rw [heq] at hanswer ⊢
        obtain rfl : g = f := Handle.data_injective (Except.ok.inj hanswer)
        rfl

end Message

/-- As long as objects are there, a fixture is attached to the body and has the shape, a body is of
the kind and a joint joins the two bodies that they were created with, whatever else is done.  The
shape of a fixture that a message created is the one of the definition in that message. -/
theorem attributes_last (config : Config) :
    (∀ ops, AttributesLast ((Simulator.start config).performAll ops)
      ((Simulator.start config).history ops)) ∧
    ∀ {before message after w b definition} {f : Handle .fixture},
      Command.parse message = .ok (.createFixture w b definition) →
      (Message.answer (Message.handleAll (.start config) before) message).1 = .ok f.data →
      (Message.handleAll (.start config) (before ++ message :: after)).registry.live f = true →
        ∃ solid, definition.shape.solid? = some solid ∧
          (Message.handleAll (.start config) (before ++ message :: after)).TellsFixture w f b
            solid := by
  refine ⟨attributesLast_performAll config, ?_⟩
  intro before message after w b definition f hparse hanswer hlive
  obtain ⟨ops, hops⟩ := Message.exists_performAll (.start config) before
  have hs := Simulator.sound_performAll (Simulator.sound_start config) ops
  rw [hops] at hanswer
  obtain ⟨shape, hshape, horders, hevent⟩ := Message.orders_createFixture hs hparse hanswer
  obtain ⟨ops', hops'⟩ := Message.exists_performAll
    (((Operation.createFixture w b shape definition.material).perform
      ((Simulator.start config).performAll ops)).2) after
  have hrun : Message.handleAll (.start config) (before ++ message :: after) =
      (Simulator.start config).performAll
        (ops ++ .createFixture w b shape definition.material :: ops') := by
    have hsplit : Message.handleAll (.start config) (before ++ message :: after) =
        Message.handleAll (Message.handle (Message.handleAll (.start config) before) message).2
          after := List.foldl_append
    rw [hsplit, hops, horders.handle_eq, hops', Simulator.performAll_append]
    rfl
  have hmem : (⟨.createFixture w b shape definition.material, .ok (.handle f)⟩ : Event) ∈
      (Simulator.start config).history
        (ops ++ .createFixture w b shape definition.material :: ops') := by
    rw [Simulator.history_append, Simulator.history, hevent]
    exact List.mem_append_right _ List.mem_cons_self
  rw [hrun] at hlive ⊢
  obtain ⟨solid, hsolid, htells⟩ := (attributesLast_performAll config _).fixture hmem hlive
  exact ⟨solid, ShapeDefinition.solid?_of_descriptor hshape hsolid, htells⟩

/-- A circle takes the place of another one in the engine, and what is set of it leaves it alone. -/
example :
    let s := (Simulator.start .initial).performAll [
      .createWorld ⟨0, -10⟩ true,
      .createBody ⟨0⟩ .dynamic ⟨0, 0⟩,
      .createFixture ⟨0⟩ ⟨0⟩ ⟨.circle, 1, 0⟩ .initial,
      .deleteFixture ⟨0⟩ ⟨0⟩,
      .createFixture ⟨0⟩ ⟨0⟩ ⟨.circle, 2, 0⟩ .initial,
      .setFixture ⟨0⟩ ⟨1⟩ (.sensor true),
      .step ⟨0⟩ 0 8 3]
    ((Operation.fixtureShape ⟨0⟩ ⟨1⟩).perform s).1 = .ok (.solid (.ball 2)) ∧
      ((Operation.fixtureBody ⟨0⟩ ⟨1⟩).perform s).1 = .ok (.handle (⟨0⟩ : Handle .body)) :=
  ⟨rfl, rfl⟩

end RigidWorlds
