import RigidWorlds.Proofs.Isolation

/-!
A registry is settled by what belongs to its worlds and by the handles that are to be issued next.
Which handle of a kind comes next matters to nothing but the creation of an object of that kind:
with another one, all other operations go on alike, and so does a creation that is refused although
handles are left.
-/

namespace RigidWorlds

open Engine

namespace HandleTable

variable {k : Kind} {α : Type} {t t' : HandleTable k α}

theorem Settled.ext (ht : t.Settled) (ht' : t'.Settled) (hget : ∀ h, t'.get? h = t.get? h)
    (hnext : t'.nextIndex = t.nextIndex) : t' = t := by
  have hnodup : ∀ {u : HandleTable k α}, u.Settled → u.items.Nodup := by
    intro u hu
    rw [List.nodup_iff_pairwise_ne]
    refine hu.ascending.imp ?_
    intro p q hlt heq
    rw [heq] at hlt
    exact UInt32.lt_irrefl _ hlt
  have hperm : t'.items.Perm t.items := by
    rw [List.perm_ext_iff_of_nodup (hnodup ht') (hnodup ht)]
    rintro ⟨h, a⟩
    rw [← get?_eq_some_iff ht', ← get?_eq_some_iff ht, hget]
  have hitems : t'.items = t.items := by
    refine hperm.eq_of_pairwise ?_ ht'.ascending ht.ascending
    intro p q _ _ hlt hgt
    exact absurd hgt (UInt32.lt_asymm hlt)
  have hpending : t'.pending = t.pending := ht'.idle.trans ht.idle.symm
  cases t
  cases t'
  simp only [mk.injEq]
  exact ⟨hitems, hpending, hnext⟩

def renumber (t : HandleTable k α) (index : UInt32) : HandleTable k α :=
  { t with nextIndex := index }

theorem Settled.renumber (ht : t.Settled) {index : UInt32} (hle : t.nextIndex ≤ index)
    (hbound : index ≤ Handle.lastIndex + 1) : (t.renumber index).Settled :=
  ⟨ht.ascending, fun p hp => UInt32.lt_of_lt_of_le (ht.issued p hp) hle, ht.idle, hbound⟩

end HandleTable

namespace Registry

variable {r r' : Registry} {w : Handle .world}

theorem Sound.ext (hs : r.Sound) (hs' : r'.Sound) (hsame : ∀ v, SameWorld v r r')
    (hnext : ∀ k, (r'.table k).nextIndex = (r.table k).nextIndex) : r' = r := by
  have hworlds : r'.worlds = r.worlds :=
    hs.worlds.ext hs'.worlds (fun v => (hsame v).world) (hnext .world)
  have hbodies : r'.bodies = r.bodies := by
    refine hs.bodies.ext hs'.bodies (fun b => Option.ext fun rec => ?_) (hnext .body)
    have hslice := congrArg (fun σ => σ.bodies b = some rec) (hsame rec.world).slice
    simpa only [slice_bodies_eq_some_iff, and_true, eq_iff_iff] using hslice
  have hfixtures : r'.fixtures = r.fixtures := by
    refine hs.fixtures.ext hs'.fixtures (fun f => Option.ext fun rec => ?_) (hnext .fixture)
    have hslice := congrArg (fun σ => σ.fixtures f = some rec) (hsame rec.world).slice
    simpa only [slice_fixtures_eq_some_iff, and_true, eq_iff_iff] using hslice
  have hjoints : r'.joints = r.joints := by
    refine hs.joints.ext hs'.joints (fun j => Option.ext fun rec => ?_) (hnext .joint)
    have hslice := congrArg (fun σ => σ.joints j = some rec) (hsame rec.world).slice
    simpa only [slice_joints_eq_some_iff, and_true, eq_iff_iff] using hslice
  cases r
  cases r'
  simp only [mk.injEq]
  exact ⟨hworlds, hbodies, hfixtures, hjoints⟩

/-- The registry with another handle of a kind to be issued next. -/
def renumber (r : Registry) (k : Kind) (index : UInt32) : Registry :=
  match k with
  | .world => { r with worlds := r.worlds.renumber index }
  | .body => { r with bodies := r.bodies.renumber index }
  | .fixture => { r with fixtures := r.fixtures.renumber index }
  | .joint => { r with joints := r.joints.renumber index }

variable {k : Kind} {index : UInt32}

theorem sameWorld_renumber (v : Handle .world) (r : Registry) (k : Kind) (index : UInt32) :
    SameWorld v r (r.renumber k index) := by
  cases k <;> exact ⟨rfl, rfl⟩

theorem nextIndex_renumber (r : Registry) (k : Kind) (index : UInt32) (k' : Kind) :
    ((r.renumber k index).table k').nextIndex =
      if k' = k then index else (r.table k').nextIndex := by
  cases k <;> cases k' <;> rfl

theorem Sound.renumber (hs : r.Sound) (hle : (r.table k).nextIndex ≤ index)
    (hbound : index ≤ Handle.lastIndex + 1) : (r.renumber k index).Sound := by
  have hfaces : ∀ w, ((r.renumber k index).slice w).Faces ((r.renumber k index).worlds.get? w) := by
    intro w
    rw [(sameWorld_renumber w r k index).slice, (sameWorld_renumber w r k index).world]
    exact hs.faces w
  cases k with
  | world => exact ⟨hs.worlds.renumber hle hbound, hs.bodies, hs.fixtures, hs.joints, hfaces⟩
  | body => exact ⟨hs.worlds, hs.bodies.renumber hle hbound, hs.fixtures, hs.joints, hfaces⟩
  | fixture => exact ⟨hs.worlds, hs.bodies, hs.fixtures.renumber hle hbound, hs.joints, hfaces⟩
  | joint => exact ⟨hs.worlds, hs.bodies, hs.fixtures, hs.joints.renumber hle hbound, hfaces⟩

theorem world_renumber : (r.renumber k index).world w = r.world w :=
  (sameWorld_renumber w r k index).find

theorem issue_renumber {k' : Kind} (hk : k' ≠ k) :
    ((r.renumber k index).table k').issue = (r.table k').issue := by
  simp only [HandleTable.issue, HandleTable.next, nextIndex_renumber, if_neg hk]

theorem modifyWorld_renumber (f : World → World) :
    (r.renumber k index).modifyWorld w f = (r.modifyWorld w f).renumber k index := by
  cases k <;> rfl

theorem dropWorld_renumber :
    (r.renumber k index).dropWorld w = (r.dropWorld w).renumber k index := by
  cases k <;> rfl

theorem addBody_renumber (hk : .body ≠ k) (rec : BodyRecord) (world : World) :
    (r.renumber k index).addBody rec world = (r.addBody rec world).renumber k index := by
  cases k with
  | body => exact absurd rfl hk
  | world | fixture | joint => rfl

theorem addFixture_renumber (hk : .fixture ≠ k) (rec : FixtureRecord) (world : World) :
    (r.renumber k index).addFixture rec world = (r.addFixture rec world).renumber k index := by
  cases k with
  | fixture => exact absurd rfl hk
  | world | body | joint => rfl

theorem addJoint_renumber (hk : .joint ≠ k) (rec : JointRecord) (world : World) :
    (r.renumber k index).addJoint rec world = (r.addJoint rec world).renumber k index := by
  cases k with
  | joint => exact absurd rfl hk
  | world | body | fixture => rfl

theorem dropBody_renumber (b : Handle .body) (rec : BodyRecord) :
    (r.renumber k index).dropBody b rec = (r.dropBody b rec).renumber k index := by
  cases k <;> rfl

theorem dropFixture_renumber (f : Handle .fixture) (rec : FixtureRecord) :
    (r.renumber k index).dropFixture f rec = (r.dropFixture f rec).renumber k index := by
  cases k <;> rfl

theorem dropJoint_renumber (j : Handle .joint) (rec : JointRecord) :
    (r.renumber k index).dropJoint j rec = (r.dropJoint j rec).renumber k index := by
  cases k <;> rfl

theorem changeMaterial_renumber (f : Handle .fixture) (change : Material → Material) :
    (r.renumber k index).changeMaterial f change =
      (r.changeMaterial f change).renumber k index := by
  cases k <;> rfl

theorem resetMass_renumber (b : Handle .body) (rec : BodyRecord) :
    (r.renumber k index).resetMass b rec = (r.resetMass b rec).renumber k index := by
  cases k <;> rfl

/-- Two registries differ in nothing but the handle of a kind that is issued next. -/
def Renumbered (k : Kind) (index : UInt32) (r r' : Registry) : Prop := r' = r.renumber k index

/-- A transaction that would create an object of one kind does without the next handle of another:
the kinds differ, or the transaction is refused although handles are left. -/
def Forgoes {α : Type} (k k' : Kind) (t : Transaction α) (r : Registry) : Prop :=
  k' = k → (∃ h, (r.table k').issue = .ok h) ∧ ∃ e, t r = .error e

theorem renumbered_read {α : Type} {f : Registry → Except Error α}
    (hf : f (r.renumber k index) = f r) :
    Alike (Renumbered k index) (Transaction.read f r)
      (Transaction.read f (r.renumber k index)) :=
  Alike.read rfl hf

theorem renumbered_destroyWorld :
    Alike (Renumbered k index) (destroyWorld w r) (destroyWorld w (r.renumber k index)) :=
  Alike.bind world_renumber fun _ _ => .answered () dropWorld_renumber

theorem renumbered_changeWorld (f : World → World) :
    Alike (Renumbered k index) (changeWorld w f r) (changeWorld w f (r.renumber k index)) :=
  Alike.bind world_renumber fun _ _ => .answered () (modifyWorld_renumber f)

theorem renumbered_step (dt : Float32) (velocityIterations positionIterations : UInt32) :
    Alike (Renumbered k index) (step w dt velocityIterations positionIterations r)
      (step w dt velocityIterations positionIterations (r.renumber k index)) := by
  refine Alike.bind world_renumber fun world _ => ?_
  refine Alike.bind rfl fun dt _ => ?_
  split
  · exact .answered _ (modifyWorld_renumber _)
  · exact .answered _ rfl

theorem renumbered_changeBody (b : Handle .body) (f : Body → Body) :
    Alike (Renumbered k index) (changeBody w b f r) (changeBody w b f (r.renumber k index)) := by
  refine Alike.bind ((sameWorld_renumber w r k index).locateBody b) fun located _ => ?_
  exact .answered () (modifyWorld_renumber _)

theorem renumbered_createBody {kind : BodyKind} {place : Vec2}
    (hk : Forgoes k .body (createBody w kind place) r) :
    Alike (Renumbered k index) (createBody w kind place r)
      (createBody w kind place (r.renumber k index)) := by
  refine Alike.bind world_renumber fun world hworld => ?_
  -- Nothing is left that could be refused but the handle.
  have hne : .body ≠ k := by
    intro heq
    obtain ⟨⟨b, hissue⟩, e, hrefused⟩ := hk heq
    have hissue : r.bodies.issue = .ok b := hissue
    simp [createBody, hworld, hissue, pure, Except.pure] at hrefused
  refine Alike.bind (issue_renumber hne) fun b _ => .answered b ?_
  rw [Renumbered, addBody_renumber hne, resetMass_renumber]

theorem renumbered_deleteBody (b : Handle .body) :
    Alike (Renumbered k index) (deleteBody w b r) (deleteBody w b (r.renumber k index)) :=
  Alike.bind ((sameWorld_renumber w r k index).body b) fun rec _ =>
    .answered () (dropBody_renumber b rec)

theorem renumbered_createFixture {b : Handle .body} {shape : ShapeDescriptor}
    {material : Material} (hk : Forgoes k .fixture (createFixture w b shape material) r) :
    Alike (Renumbered k index) (createFixture w b shape material r)
      (createFixture w b shape material (r.renumber k index)) := by
  refine Alike.bind rfl fun solid hsolid => ?_
  refine Alike.bind rfl fun _ hmaterial => ?_
  refine Alike.bind ((sameWorld_renumber w r k index).body b) fun rec hrec => ?_
  refine Alike.bind world_renumber fun world hworld => ?_
  have hne : .fixture ≠ k := by
    intro heq
    obtain ⟨⟨f, hissue⟩, e, hrefused⟩ := hk heq
    have hissue : r.fixtures.issue = .ok f := hissue
    simp [createFixture, hsolid, hmaterial, hrec, hworld, hissue, pure, Except.pure] at hrefused
  refine Alike.bind (issue_renumber hne) fun f _ => .answered f ?_
  rw [Renumbered, addFixture_renumber hne, resetMass_renumber]

theorem renumbered_deleteFixture (f : Handle .fixture) :
    Alike (Renumbered k index) (deleteFixture w f r)
      (deleteFixture w f (r.renumber k index)) := by
  refine Alike.bind ((sameWorld_renumber w r k index).fixture f) fun rec _ => ?_
  refine Alike.bind ((sameWorld_renumber w r k index).body rec.body) fun body _ => ?_
  refine .answered () ?_
  rw [Renumbered, dropFixture_renumber, resetMass_renumber]

theorem renumbered_setFixture (f : Handle .fixture) (change : FixtureChange) :
    Alike (Renumbered k index) (setFixture w f change r)
      (setFixture w f change (r.renumber k index)) := by
  refine Alike.bind rfl fun _ _ => ?_
  refine Alike.bind ((sameWorld_renumber w r k index).locateFixture f) fun located _ => ?_
  refine Alike.bind ((sameWorld_renumber w r k index).body located.1.body) fun body _ => ?_
  refine .answered () ?_
  rw [Renumbered, modifyWorld_renumber, changeMaterial_renumber]
  split
  · exact resetMass_renumber ..
  · rfl

theorem renumbered_createJoint {a b : Handle .body} {d : JointDefinition}
    (hk : Forgoes k .joint (createJoint w a b d) r) :
    Alike (Renumbered k index) (createJoint w a b d r)
      (createJoint w a b d (r.renumber k index)) := by
  refine Alike.bind ((sameWorld_renumber w r k index).body a) fun recA hrecA => ?_
  refine Alike.bind ((sameWorld_renumber w r k index).body b) fun recB hrecB => ?_
  split
  · exact .refused _
  next hdistinct =>
    refine Alike.bind rfl fun _ hcheck => ?_
    refine Alike.bind ((sameWorld_renumber w r k index).locateBody a) fun _ hlocateA => ?_
    refine Alike.bind ((sameWorld_renumber w r k index).locateBody b) fun _ hlocateB => ?_
    have hne : .joint ≠ k := by
      intro heq
      obtain ⟨⟨j, hissue⟩, e, hrefused⟩ := hk heq
      have hissue : r.joints.issue = .ok j := hissue
      simp [createJoint, hrecA, hrecB, hdistinct, hcheck, hlocateA, hlocateB, hissue, pure,
        Except.pure] at hrefused
    exact Alike.bind (issue_renumber hne) fun j _ => .answered j (addJoint_renumber hne _ _)

theorem renumbered_deleteJoint (j : Handle .joint) :
    Alike (Renumbered k index) (deleteJoint w j r) (deleteJoint w j (r.renumber k index)) :=
  Alike.bind ((sameWorld_renumber w r k index).joint j) fun rec _ =>
    .answered () (dropJoint_renumber j rec)

theorem Forgoes.of_map {α β : Type} {k' : Kind} {f : α → β} {t : Transaction α}
    (h : Forgoes k k' (t.map f) r) : Forgoes k k' t r := by
  intro heq
  obtain ⟨hissue, e, hrefused⟩ := h heq
  refine ⟨hissue, e, ?_⟩
  unfold Transaction.map at hrefused
  cases ht : t r with
  | error e' =>
      rw [ht] at hrefused
      exact congrArg Except.error (Except.error.inj hrefused)
  | ok a =>
      rw [ht] at hrefused
      cases hrefused

end Registry

namespace Operation

open Registry

variable {config : Config} {op : Operation} {r : Registry} {k : Kind} {index : UInt32}
  {w : Handle .world}

/-- An operation that does not create an object of a kind goes on alike if another handle of that
kind is to be issued. -/
theorem renumbered_transact (hw : op.world? = some w)
    (hk : ∀ {k' : Kind} {o : Origin k'}, op.origin? = some ⟨k', o⟩ →
      Forgoes k k' (op.transact config) r) :
    Alike (Renumbered k index) (op.transact config r)
      (op.transact config (r.renumber k index)) := by
  have hsame : ∀ v, SameWorld v r (r.renumber k index) :=
    fun v => sameWorld_renumber v r k index
  unfold transact at hk ⊢
  cases op with
  | createWorld | worlds => cases hw
  | destroyWorld => exact renumbered_destroyWorld.map _
  | setWorld => exact (renumbered_changeWorld _).map _
  | readWorld w property =>
      refine renumbered_read ?_
      rw [(hsame w).find]
  | lastContacts w =>
      refine Alike.map (renumbered_read ?_) _
      rw [(hsame w).find]
  | bodiesOf w =>
      refine (renumbered_read ?_).map _
      cases k <;> rfl
  | step | stepDefault => exact (renumbered_step ..).map _
  | createBody => exact (renumbered_createBody (hk rfl).of_map).map _
  | deleteBody => exact (renumbered_deleteBody _).map _
  | setBody => exact (renumbered_changeBody ..).map _
  | readBody w b =>
      refine renumbered_read ?_
      rw [(hsame w).locateBody]
  | objectContacts w b =>
      refine Alike.map (renumbered_read ?_) _
      rw [(hsame w).locateBody]
  | createFixture => exact (renumbered_createFixture (hk rfl).of_map).map _
  | deleteFixture => exact (renumbered_deleteFixture _).map _
  | setFixture => exact (renumbered_setFixture ..).map _
  | fixtureBody w f | fixtureMaterial w f =>
      refine (renumbered_read ?_).map _
      rw [(hsame w).fixture]
  | fixtureShape w f =>
      refine (renumbered_read ?_).map _
      rw [(hsame w).locateFixture]
  | fixturesOf w b =>
      refine (renumbered_read ?_).map _
      cases k <;> rfl
  | createJoint | createDefaultJoint =>
      exact (renumbered_createJoint (hk rfl).of_map).map _
  | deleteJoint => exact (renumbered_deleteJoint _).map _
  | jointBodies w j =>
      refine (renumbered_read ?_).map _
      rw [(hsame w).joint]

end Operation

end RigidWorlds
