import Mathlib.Data.List.Nodup
import RigidWorlds.Proofs.Correspondence
import RigidWorlds.Proofs.History
import RigidWorlds.Proofs.Isolation

namespace RigidWorlds

open Engine

namespace HandleTable

variable {k : Kind} {α : Type} {t : HandleTable k α}

theorem handles_modify (t : HandleTable k α) (h : Handle k) (f : α → α) :
    (t.modify h f).handles = t.handles := by
  simp only [handles, modify, List.map_map]
  refine List.map_congr_left fun x _ => ?_
  by_cases hx : x.1 = h <;> simp [hx]

theorem erase_modify (t : HandleTable k α) (h : Handle k) (f : α → α) :
    (t.modify h f).erase h = t.erase h := by
  simp only [erase, modify, List.filter_map]
  congr 1
  induction t.items with
  | nil => rfl
  | cons x l ih => by_cases hx : x.1 = h <;> simpa [hx] using ih

theorem eraseWhere_erase (ht : t.Settled) {p : α → Bool} {h : Handle k} {a : α}
    (ha : t.get? h = some a) (hp : p a) : (t.erase h).eraseWhere p = t.eraseWhere p := by
  simp only [erase, eraseWhere, List.filter_filter]
  congr 1
  refine List.filter_congr fun x hx => ?_
  by_cases heq : x.1 = h
  · have hget := (get?_eq_some_iff ht).mpr hx
    rw [heq, ha] at hget
    simp [← Option.some.inj hget, hp]
  · simp [heq]

theorem eraseWhere_eraseWhere (ht : t.Settled) {p q : α → Bool}
    (hpq : ∀ {h a}, t.get? h = some a → p a → q a) :
    (t.eraseWhere p).eraseWhere q = t.eraseWhere q := by
  simp only [eraseWhere, List.filter_filter]
  congr 1
  refine List.filter_congr fun x hx => ?_
  have himp := hpq ((get?_eq_some_iff ht).mpr hx)
  cases hq : q x.2 with
  | true => rfl
  | false =>
      have hp : p x.2 = false := Bool.eq_false_iff.mpr fun hp => by simp [himp hp] at hq
      simp [hp]

end HandleTable

namespace Registry

variable {r r' r'' : Registry} {w : Handle .world} {b : Handle .body}

theorem Sound.involved (hs : r.Sound) {rec : BodyRecord} (hb : (r.slice w).bodies b = some rec)
    {j : Handle .joint} {joint : JointRecord} (hj : r.joints.get? j = some joint)
    (hinvolves : joint.involves b) : (r.slice w).joints j = some joint := by
  obtain ⟨hrec, hworld⟩ := slice_bodies_eq_some_iff.mp hb
  obtain ⟨-, ⟨first, hfirst, hhome⟩, second, hsecond, hhome'⟩ :=
    hs.intact.jointBodies ((HandleTable.get?_eq_some_iff hs.joints).mp hj)
  refine slice_joints_eq_some_iff.mpr ⟨hj, ?_⟩
  rcases (by simpa [JointRecord.involves] using hinvolves) with rfl | rfl
  · obtain rfl := Option.some.inj (hfirst.symm.trans hrec)
    exact hhome.symm.trans hworld
  · obtain rfl := Option.some.inj (hsecond.symm.trans hrec)
    exact hhome'.symm.trans hworld

theorem Sound.dropWorld_dropBody (hs : r.Sound) {rec : BodyRecord}
    (hb : (r.slice w).bodies b = some rec) : (r.dropBody b rec).dropWorld w = r.dropWorld w := by
  obtain ⟨hrec, rfl⟩ := slice_bodies_eq_some_iff.mp hb
  have hbodies : (r.bodies.erase b).eraseWhere (·.world = rec.world) =
      r.bodies.eraseWhere (·.world = rec.world) :=
    HandleTable.eraseWhere_erase hs.bodies hrec (by simp)
  have hfixtures : (r.fixtures.eraseWhere (·.body = b)).eraseWhere (·.world = rec.world) =
      r.fixtures.eraseWhere (·.world = rec.world) := by
    refine HandleTable.eraseWhere_eraseWhere hs.fixtures ?_
    intro f fixture hf hbody
    have hslice := ((hs.attached_iff hb).mp ⟨hf, of_decide_eq_true hbody⟩).1
    exact decide_eq_true (slice_fixtures_eq_some_iff.mp hslice).2
  have hjoints : (r.joints.eraseWhere (·.involves b)).eraseWhere (·.world = rec.world) =
      r.joints.eraseWhere (·.world = rec.world) := by
    refine HandleTable.eraseWhere_eraseWhere hs.joints ?_
    intro j joint hj hinvolves
    exact decide_eq_true (slice_joints_eq_some_iff.mp (hs.involved hb hj hinvolves)).2
  simp only [Registry.dropWorld, Registry.dropBody, Registry.modifyWorld, releaseWorldObjects,
    releaseBodyObjects, hbodies, hfixtures, hjoints, HandleTable.erase_modify]

/-- Two registries associate handles with the same objects, and they differ at most in what has
become of a single world. -/
structure EqualBut (w : Handle .world) (r r' : Registry) : Prop where
  bodies : r'.bodies = r.bodies
  fixtures : r'.fixtures = r.fixtures
  joints : r'.joints = r.joints
  worlds : r'.worlds.handles = r.worlds.handles
  others : ∀ v, v ≠ w → r'.worlds.get? v = r.worlds.get? v

namespace EqualBut

theorem refl (w : Handle .world) (r : Registry) : EqualBut w r r :=
  ⟨rfl, rfl, rfl, rfl, fun _ _ => rfl⟩

theorem trans (h : EqualBut w r r') (h' : EqualBut w r' r'') : EqualBut w r r'' where
  bodies := h'.bodies.trans h.bodies
  fixtures := h'.fixtures.trans h.fixtures
  joints := h'.joints.trans h.joints
  worlds := h'.worlds.trans h.worlds
  others v hv := (h'.others v hv).trans (h.others v hv)

theorem modifyWorld (w : Handle .world) (r : Registry) (f : World → World) :
    EqualBut w r (r.modifyWorld w f) where
  bodies := rfl
  fixtures := rfl
  joints := rfl
  worlds := HandleTable.handles_modify ..
  others v hv := by rw [get?_modifyWorld, if_neg hv]

theorem dropBody {rec : BodyRecord}
    (h : EqualBut rec.world (r.releaseBodyObjects b) (r'.releaseBodyObjects b)) :
    EqualBut rec.world (r.dropBody b rec) (r'.dropBody b rec) where
  bodies := congrArg (·.erase b) h.bodies
  fixtures := h.fixtures
  joints := h.joints
  worlds := by
    have hworlds : r'.worlds.handles = r.worlds.handles := h.worlds
    simpa only [Registry.dropBody, Registry.modifyWorld, releaseBodyObjects,
      HandleTable.handles_modify] using hworlds
  others v hv := by
    have hothers : r'.worlds.get? v = r.worlds.get? v := h.others v hv
    simpa only [Registry.dropBody, get?_modifyWorld, if_neg hv, releaseBodyObjects] using hothers

end EqualBut

theorem releaseBodyObjects_modifyWorld (r : Registry) (w : Handle .world) (f : World → World)
    (b : Handle .body) :
    (r.modifyWorld w f).releaseBodyObjects b = (r.releaseBodyObjects b).modifyWorld w f := rfl

theorem Sound.equalBut_dropFixture (hs : r.Sound) {f : Handle .fixture} {rec : FixtureRecord}
    {body : BodyRecord} (hf : r.fixtures.get? f = some rec) (hworld : body.world = rec.world) :
    EqualBut rec.world (r.releaseBodyObjects rec.body)
      (((r.dropFixture f rec).resetMass rec.body body).releaseBodyObjects rec.body) := by
  have hfixtures : (r.fixtures.erase f).eraseWhere (·.body = rec.body) =
      r.fixtures.eraseWhere (·.body = rec.body) :=
    HandleTable.eraseWhere_erase hs.fixtures hf (by simp)
  have hrelease : ({ r with fixtures := r.fixtures.erase f } : Registry).releaseBodyObjects
      rec.body = r.releaseBodyObjects rec.body := by
    simp only [releaseBodyObjects, hfixtures]
  rw [← hrelease, Registry.resetMass, hworld, Registry.dropFixture,
    releaseBodyObjects_modifyWorld, releaseBodyObjects_modifyWorld]
  exact (EqualBut.modifyWorld ..).trans (EqualBut.modifyWorld ..)

theorem Sound.equalBut_dropJoint (hs : r.Sound) {j : Handle .joint} {rec : JointRecord}
    (hj : r.joints.get? j = some rec) (hinvolves : rec.involves b) :
    EqualBut rec.world (r.releaseBodyObjects b)
      ((r.dropJoint j rec).releaseBodyObjects b) := by
  have hjoints : (r.joints.erase j).eraseWhere (·.involves b) =
      r.joints.eraseWhere (·.involves b) :=
    HandleTable.eraseWhere_erase hs.joints hj hinvolves
  have hrelease : ({ r with joints := r.joints.erase j } : Registry).releaseBodyObjects b =
      r.releaseBodyObjects b := by
    simp only [releaseBodyObjects, hjoints]
  rw [← hrelease, Registry.dropJoint, releaseBodyObjects_modifyWorld]
  exact EqualBut.modifyWorld ..

/-- The deletions of the fixtures and the joints that go with a body. -/
def stripping (r : Registry) (w : Handle .world) (b : Handle .body) : List Operation :=
  (r.fixturesOf b).map (.deleteFixture w) ++ (r.jointsOf b).map (.deleteJoint w)

theorem Sound.nodup_stripping (hs : r.Sound) (w : Handle .world) (b : Handle .body) :
    (r.stripping w b).Nodup := by
  refine List.nodup_append.mpr ⟨?_, ?_, ?_⟩
  · exact (HandleTable.nodup_handlesWhere hs.fixtures _).map fun _ _ heq => by cases heq; rfl
  · exact (HandleTable.nodup_handlesWhere hs.joints _).map fun _ _ heq => by cases heq; rfl
  · intro op hop op' hop'
    obtain ⟨f, -, rfl⟩ := List.mem_map.mp hop
    obtain ⟨j, -, rfl⟩ := List.mem_map.mp hop'
    simp

end Registry

namespace Operation

open Registry

variable {s : Simulator} {w : Handle .world}

theorem perform_destroyWorld (hs : s.registry.Sound) (hw : s.registry.worlds.contains w = true) :
    (destroyWorld w).perform s = (.ok .done, { s with registry := s.registry.dropWorld w }) := by
  obtain ⟨world, hworld⟩ := HandleTable.contains_iff.mp hw
  refine (perform_eq_ok_iff hs).mpr ⟨?_, rfl⟩
  simp only [transact, Transaction.map, Registry.destroyWorld, world_eq_ok_iff.mpr hworld, ok_bind]
  rfl

theorem perform_deleteBody (hs : s.registry.Sound) {b : Handle .body} {rec : BodyRecord}
    (hb : (s.registry.slice w).bodies b = some rec) :
    (deleteBody w b).perform s = (.ok .done, { s with registry := s.registry.dropBody b rec }) := by
  refine (perform_eq_ok_iff hs).mpr ⟨?_, rfl⟩
  simp only [transact, Transaction.map, Registry.deleteBody, hs.body_eq_ok_iff.mpr hb, ok_bind]
  rfl

theorem perform_deleteFixture (hs : s.registry.Sound) {f : Handle .fixture} {rec : FixtureRecord}
    (hf : (s.registry.slice w).fixtures f = some rec) :
    ∃ body, body.world = rec.world ∧ (deleteFixture w f).perform s =
      (.ok .done,
        { s with registry := (s.registry.dropFixture f rec).resetMass rec.body body }) := by
  obtain ⟨hrec, hworld⟩ := slice_fixtures_eq_some_iff.mp hf
  obtain ⟨body, hbody, hhome⟩ :=
    hs.intact.fixtureBody ((HandleTable.get?_eq_some_iff hs.fixtures).mp hrec)
  have hslice := slice_bodies_eq_some_iff.mpr ⟨hbody, hhome.trans hworld⟩
  refine ⟨body, hhome, ?_⟩
  refine (perform_eq_ok_iff hs).mpr ⟨?_, rfl⟩
  simp only [transact, Transaction.map, Registry.deleteFixture, hs.fixture_eq_ok_iff.mpr hf,
    hs.body_eq_ok_iff.mpr hslice, ok_bind]
  rfl

theorem perform_deleteJoint (hs : s.registry.Sound) {j : Handle .joint} {rec : JointRecord}
    (hj : (s.registry.slice w).joints j = some rec) :
    (deleteJoint w j).perform s =
      (.ok .done, { s with registry := s.registry.dropJoint j rec }) := by
  refine (perform_eq_ok_iff hs).mpr ⟨?_, rfl⟩
  simp only [transact, Transaction.map, Registry.deleteJoint, hs.joint_eq_ok_iff.mpr hj, ok_bind]
  rfl

end Operation

namespace Simulator

variable {s : Simulator} {w : Handle .world} {b : Handle .body}

/-- No operation of a run is refused, and none of them answers anything. -/
def AllDone (s : Simulator) (ops : List Operation) : Prop :=
  ∀ e ∈ s.history ops, e.result = .ok .done

theorem allDone_cons {op : Operation} {ops : List Operation} :
    s.AllDone (op :: ops) ↔ (op.perform s).1 = .ok .done ∧ (op.perform s).2.AllDone ops :=
  List.forall_mem_cons

theorem allDone_append {ops ops' : List Operation} :
    s.AllDone (ops ++ ops') ↔ s.AllDone ops ∧ (s.performAll ops).AllDone ops' := by
  induction ops generalizing s with
  | nil => exact ⟨fun h => ⟨List.forall_mem_nil _, h⟩, And.right⟩
  | cons op ops ih =>
      rw [List.cons_append, allDone_cons, allDone_cons, ih, and_assoc]
      rfl

/-- Operations that are due can be performed in any order, if each of them is done when it is due
and the others stay due. -/
theorem allDone_of_due {D : Simulator → Operation → Prop} {R : Simulator → Simulator → Prop}
    (hrefl : ∀ s, R s s) (htrans : ∀ {s t u}, R s t → R t u → R s u)
    (hstep : ∀ {s op}, D s op → (op.perform s).1 = .ok .done ∧ R s (op.perform s).2 ∧
      ∀ op', op' ≠ op → D s op' → D (op.perform s).2 op')
    {ops : List Operation} (hnodup : ops.Nodup) (hdue : ∀ op ∈ ops, D s op) :
    s.AllDone ops ∧ R s (s.performAll ops) := by
  induction ops generalizing s with
  | nil => exact ⟨List.forall_mem_nil _, hrefl s⟩
  | cons op ops ih =>
      obtain ⟨hnotin, hnodup⟩ := List.nodup_cons.mp hnodup
      obtain ⟨hop, hops⟩ := List.forall_mem_cons.mp hdue
      obtain ⟨hdone, hleads, hstay⟩ := hstep hop
      -- Only the first operation is no longer due, and it does not come again.
      have hrest : ∀ op' ∈ ops, D (op.perform s).2 op' := by
        intro op' hmem
        exact hstay op' (fun heq => hnotin (heq ▸ hmem)) (hops op' hmem)
      obtain ⟨hall, hafter⟩ := ih hnodup hrest
      exact ⟨allDone_cons.mpr ⟨hdone, hall⟩, htrans hleads hafter⟩

/-- An operation deletes a body that is in a world. -/
def Empties (w : Handle .world) (s : Simulator) (op : Operation) : Prop :=
  s.registry.Sound ∧ ∃ b rec, op = .deleteBody w b ∧ (s.registry.slice w).bodies b = some rec

/-- The destruction of a world goes as it would have gone before. -/
def SameDestruction (w : Handle .world) (s s' : Simulator) : Prop :=
  (Operation.destroyWorld w).perform s' = (Operation.destroyWorld w).perform s

theorem Empties.perform {op : Operation} (h : Empties w s op) :
    (op.perform s).1 = .ok .done ∧ SameDestruction w s (op.perform s).2 ∧
      ∀ op', op' ≠ op → Empties w s op' → Empties w (op.perform s).2 op' := by
  obtain ⟨hs, b, rec, rfl, hb⟩ := h
  have hsound := Operation.sound_perform hs (.deleteBody w b)
  rw [Operation.perform_deleteBody hs hb] at hsound ⊢
  refine ⟨rfl, ?_, ?_⟩
  · -- The world is still there, changed, but what is left of it goes with it.
    obtain ⟨world, hworld⟩ := hs.world_of_body hb
    obtain ⟨-, rfl⟩ := Registry.slice_bodies_eq_some_iff.mp hb
    have hafter : (s.registry.dropBody b rec).worlds.get? rec.world =
        some (world.removeBody rec.native) := Registry.get?_modifyWorld_self hworld _
    have hlive := HandleTable.contains_iff.mpr ⟨_, hworld⟩
    have hlive' := HandleTable.contains_iff.mpr ⟨_, hafter⟩
    rw [SameDestruction, Operation.perform_destroyWorld hs hlive,
      Operation.perform_destroyWorld hsound hlive', hs.dropWorld_dropBody hb]
  · rintro op' hne ⟨-, b', rec', rfl, hb'⟩
    have hother : b' ≠ b := fun heq => hne (heq ▸ rfl)
    refine ⟨hsound, b', rec', rfl, ?_⟩
    rw [Registry.slice_dropBody hs.fixtures hs.joints]
    simpa [Slice.dropBody, hother] using hb'

theorem allDone_deleteBodies (hs : s.registry.Sound) {bs : List (Handle .body)}
    (hbs : bs.Perm (s.registry.bodiesOf w)) :
    s.AllDone (bs.map (.deleteBody w)) ∧
      SameDestruction w s (s.performAll (bs.map (.deleteBody w))) := by
  have hnodup : bs.Nodup := hbs.nodup_iff.mpr (HandleTable.nodup_handlesWhere hs.bodies _)
  have hops : (bs.map (Operation.deleteBody w)).Nodup :=
    hnodup.map fun _ _ heq => by cases heq; rfl
  refine allDone_of_due (R := SameDestruction w) (fun _ => rfl) (fun h h' => Eq.trans h' h)
    Empties.perform hops ?_
  intro op hop
  obtain ⟨b, hb, rfl⟩ := List.mem_map.mp hop
  obtain ⟨rec, hrec⟩ := (Registry.mem_bodiesOf hs.bodies).mp (hbs.mem_iff.mp hb)
  exact ⟨hs, b, rec, rfl, hrec⟩

/-- An operation deletes a fixture of a body, or a joint that involves it. -/
inductive Strips (w : Handle .world) (b : Handle .body) (r : Registry) : Operation → Prop
  | fixture {f : Handle .fixture} {rec : FixtureRecord}
      (hf : (r.slice w).fixtures f = some rec) (hbody : rec.body = b) :
      Strips w b r (.deleteFixture w f)
  | joint {j : Handle .joint} {rec : JointRecord} (hj : (r.slice w).joints j = some rec)
      (hinvolves : rec.involves b) : Strips w b r (.deleteJoint w j)

/-- The same goes with a body as before. -/
def SameRelease (w : Handle .world) (b : Handle .body) (s s' : Simulator) : Prop :=
  Registry.EqualBut w (s.registry.releaseBodyObjects b) (s'.registry.releaseBodyObjects b)

theorem Strips.perform {op : Operation} (hs : s.registry.Sound) (h : Strips w b s.registry op) :
    (op.perform s).1 = .ok .done ∧ SameRelease w b s (op.perform s).2 ∧
      ∀ op', op' ≠ op → Strips w b s.registry op' → Strips w b (op.perform s).2.registry op' := by
  cases h with
  | @fixture f rec hf hbody =>
      obtain ⟨body, hhome, hperform⟩ := Operation.perform_deleteFixture hs hf
      obtain ⟨hget, hworld⟩ := Registry.slice_fixtures_eq_some_iff.mp hf
      rw [hperform]
      refine ⟨rfl, ?_, ?_⟩
      · have hrelease := hs.equalBut_dropFixture hget hhome
        rw [hworld] at hrelease
        exact hbody ▸ hrelease
      · have hslice : ((s.registry.dropFixture f rec).resetMass rec.body body).slice w =
            (s.registry.slice w).dropFixture f := Registry.slice_dropFixture s.registry f rec w
        intro op' hne hop'
        cases hop' with
        | @fixture f' rec' hf' hbody' =>
            have hother : f' ≠ f := fun heq => hne (heq ▸ rfl)
            refine .fixture ?_ hbody'
            simpa [hslice, Slice.dropFixture, hother] using hf'
        | joint hj' hinvolves' => exact .joint (by rwa [hslice]) hinvolves'
  | @joint j rec hj hinvolves =>
      obtain ⟨hget, hworld⟩ := Registry.slice_joints_eq_some_iff.mp hj
      rw [Operation.perform_deleteJoint hs hj]
      refine ⟨rfl, ?_, ?_⟩
      · have hrelease := hs.equalBut_dropJoint hget hinvolves
        rwa [hworld] at hrelease
      · have hslice : ((s.registry.dropJoint j rec).slice w) =
            (s.registry.slice w).dropJoint j := Registry.slice_dropJoint ..
        intro op' hne hop'
        cases hop' with
        | fixture hf' hbody' => exact .fixture (by rwa [hslice]) hbody'
        | @joint j' rec' hj' hinvolves' =>
            have hother : j' ≠ j := fun heq => hne (heq ▸ rfl)
            refine .joint ?_ hinvolves'
            simpa [hslice, Slice.dropJoint, hother] using hj'

theorem strips_of_mem (hs : s.registry.Sound) {rec : BodyRecord}
    (hb : (s.registry.slice w).bodies b = some rec) {op : Operation}
    (hop : op ∈ s.registry.stripping w b) : Strips w b s.registry op := by
  rcases List.mem_append.mp hop with hop | hop
  · obtain ⟨f, hf, rfl⟩ := List.mem_map.mp hop
    obtain ⟨fixture, hget, hbody⟩ := (HandleTable.mem_handlesWhere hs.fixtures).mp hf
    have hbody := of_decide_eq_true hbody
    exact .fixture ((hs.attached_iff hb).mp ⟨hget, hbody⟩).1 hbody
  · obtain ⟨j, hj, rfl⟩ := List.mem_map.mp hop
    obtain ⟨joint, hget, hinvolves⟩ := (HandleTable.mem_handlesWhere hs.joints).mp hj
    exact .joint (hs.involved hb hget hinvolves) hinvolves

theorem allDone_stripping (hs : s.registry.Sound) {rec : BodyRecord}
    (hb : (s.registry.slice w).bodies b = some rec) {ops : List Operation}
    (hops : ops.Perm (s.registry.stripping w b)) :
    s.AllDone ops ∧ SameRelease w b s (s.performAll ops) := by
  refine allDone_of_due (D := fun s op => s.registry.Sound ∧ Strips w b s.registry op)
    (R := SameRelease w b) (fun _ => .refl w _) (fun h h' => h.trans h') ?_
    (hops.nodup_iff.mpr (hs.nodup_stripping w b)) ?_
  · rintro s op ⟨hs, hop⟩
    obtain ⟨hdone, hsame, hstay⟩ := hop.perform hs
    refine ⟨hdone, hsame, ?_⟩
    rintro op' hne ⟨-, hop'⟩
    exact ⟨Operation.sound_perform hs op, hstay op' hne hop'⟩
  · intro op hop
    exact ⟨hs, strips_of_mem hs hb (hops.mem_iff.mp hop)⟩

theorem deleteBody_of_sameRelease {s' : Simulator} (hs : s.registry.Sound)
    (hs' : s'.registry.Sound) {rec : BodyRecord} (hb : (s.registry.slice w).bodies b = some rec)
    (h : SameRelease w b s s') :
    ((Operation.deleteBody w b).perform s').1 = .ok .done ∧
      Registry.EqualBut w ((Operation.deleteBody w b).perform s).2.registry
        ((Operation.deleteBody w b).perform s').2.registry := by
  have hbodies : s'.registry.bodies = s.registry.bodies := h.bodies
  have hb' : (s'.registry.slice w).bodies b = some rec := by
    rw [Registry.slice_bodies_eq_some_iff] at hb ⊢
    rwa [hbodies]
  obtain ⟨-, rfl⟩ := Registry.slice_bodies_eq_some_iff.mp hb
  rw [Operation.perform_deleteBody hs hb, Operation.perform_deleteBody hs' hb']
  exact ⟨rfl, h.dropBody⟩

end Simulator

/-- In every simulator that operations lead to, the bodies of a world can be deleted before it in
any order, and what goes with a body can be deleted before it in any order.  Every call is done.
Then the simulator is as if the world had been destroyed at once, and all but the world of the body
as if the body had been deleted at once. -/
theorem teardown_of_reachable {s : Simulator} (h : s.Reachable) {w : Handle .world}
    (hw : s.registry.worlds.contains w = true) :
    (∀ bs : List (Handle .body), bs.Perm (s.registry.bodiesOf w) →
        let ops := bs.map (.deleteBody w) ++ [.destroyWorld w]
        s.AllDone ops ∧ (Operation.destroyWorld w).perform s = (.ok .done, s.performAll ops)) ∧
      ∀ b ∈ s.registry.bodiesOf w, ((Operation.deleteBody w b).perform s).1 = .ok .done ∧
        ∀ ops : List Operation, ops.Perm (s.registry.stripping w b) →
          s.AllDone (ops ++ [.deleteBody w b]) ∧
            Registry.EqualBut w ((Operation.deleteBody w b).perform s).2.registry
              (s.performAll (ops ++ [.deleteBody w b])).registry := by
  refine ⟨?_, ?_⟩
  · intro bs hbs
    obtain ⟨hall, hsame⟩ := Simulator.allDone_deleteBodies h.sound hbs
    have hdone := congrArg Prod.fst (Operation.perform_destroyWorld h.sound hw)
    refine ⟨Simulator.allDone_append.mpr ⟨hall, ?_⟩, ?_⟩
    · exact Simulator.allDone_cons.mpr
        ⟨(congrArg Prod.fst hsame).trans hdone, List.forall_mem_nil _⟩
    · rw [Simulator.performAll_append]
      exact Prod.ext hdone (congrArg Prod.snd hsame.symm :)
  · intro b hb
    obtain ⟨rec, hrec⟩ := (Registry.mem_bodiesOf h.sound.bodies).mp hb
    refine ⟨congrArg Prod.fst (Operation.perform_deleteBody h.sound hrec), ?_⟩
    intro ops hops
    obtain ⟨hall, hsame⟩ := Simulator.allDone_stripping h.sound hrec hops
    obtain ⟨hdone, hequal⟩ := Simulator.deleteBody_of_sameRelease h.sound
      (Simulator.sound_performAll h.sound ops) hrec hsame
    refine ⟨Simulator.allDone_append.mpr ⟨hall, ?_⟩, ?_⟩
    · exact Simulator.allDone_cons.mpr ⟨hdone, List.forall_mem_nil _⟩
    · rw [Simulator.performAll_append]
      exact hequal

/-- Two bodies, one of which has a fixture, with a joint between them: the joint goes with the body
that is deleted first. -/
theorem teardown_sample :
    let s := Simulator.sample
    let bodies : List Operation := [.deleteBody ⟨0⟩ ⟨1⟩, .deleteBody ⟨0⟩ ⟨0⟩, .destroyWorld ⟨0⟩]
    let objects : List Operation :=
      [.deleteJoint ⟨0⟩ ⟨0⟩, .deleteFixture ⟨0⟩ ⟨0⟩, .deleteBody ⟨0⟩ ⟨0⟩]
    s.registry.worlds.contains ⟨0⟩ = true ∧
      (s.AllDone bodies ∧
        (Operation.destroyWorld ⟨0⟩).perform s = (.ok .done, s.performAll bodies)) ∧
      s.AllDone objects ∧
        Registry.EqualBut ⟨0⟩ ((Operation.deleteBody ⟨0⟩ ⟨0⟩).perform s).2.registry
          (s.performAll objects).registry := by
  intro s bodies objects
  have hw : s.registry.worlds.contains ⟨0⟩ = true := by decide +kernel
  have hbodies : s.registry.bodiesOf ⟨0⟩ = [⟨0⟩, ⟨1⟩] := by decide +kernel
  have hstripping : s.registry.stripping ⟨0⟩ ⟨0⟩ =
      [.deleteFixture ⟨0⟩ ⟨0⟩, .deleteJoint ⟨0⟩ ⟨0⟩] := by
    have hfixtures : s.registry.fixturesOf ⟨0⟩ = [⟨0⟩] := by decide +kernel
    have hjoints : s.registry.jointsOf ⟨0⟩ = [⟨0⟩] := by decide +kernel
    rw [Registry.stripping, hfixtures, hjoints]
    rfl
  obtain ⟨hworld, hbody⟩ := teardown_of_reachable Simulator.reachable_sample hw
  refine ⟨hw, hworld [⟨1⟩, ⟨0⟩] ?_, ?_⟩
  · rw [hbodies]
    exact .swap ..
  · refine (hbody ⟨0⟩ ?_).2 [.deleteJoint ⟨0⟩ ⟨0⟩, .deleteFixture ⟨0⟩ ⟨0⟩] ?_
    · rw [hbodies]
      exact List.mem_cons_self
    · rw [hstripping]
      exact .swap ..

end RigidWorlds
