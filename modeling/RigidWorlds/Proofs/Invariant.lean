import RigidWorlds.Proofs.Reachability

/-!
Invariants of engine worlds.  What holds of a new world and is kept by every change that the engine
makes to a world holds of all worlds in the simulators that operations lead to.
-/

namespace RigidWorlds

open Engine

/-- New worlds satisfy the predicate, and every change keeps it. -/
structure Engine.World.Invariant (P : World → Prop) : Prop where
  create : ∀ gravity settings, P (World.create gravity settings)
  change : ∀ (change : WorldChange) {w}, P w → P (change.apply w)
  advance : ∀ dt velocityIterations positionIterations {w}, P w →
    P (w.advance dt velocityIterations positionIterations)
  changeBody : ∀ key f {w}, P w → P (w.changeBody key f)
  insertBody : ∀ kind place tag {w}, P w → P (w.insertBody kind place tag).2
  removeBody : ∀ key {w}, P w → P (w.removeBody key)
  insertCollider : ∀ solid material tag parent {w}, P w →
    P (w.insertCollider solid material tag parent).2
  removeCollider : ∀ key {w}, P w → P (w.removeCollider key)
  setMaterial : ∀ key material {w}, P w → P (w.setMaterial key material)
  insertSpring : ∀ spring {w}, P w → P (w.insertSpring spring).2
  removeSpring : ∀ key {w}, P w → P (w.removeSpring key)

namespace Registry

/-- All worlds of the registry satisfy the predicate. -/
def Everywhere (P : World → Prop) (r : Registry) : Prop :=
  ∀ w world, r.worlds.get? w = some world → P world

variable {P : World → Prop} {r r' : Registry}

theorem everywhere_empty : Everywhere P empty := nofun

namespace Everywhere

theorem modifyWorld (h : Everywhere P r) {w : Handle .world} {f : World → World}
    (hf : ∀ world, r.worlds.get? w = some world → P (f world)) :
    Everywhere P (r.modifyWorld w f) := by
  intro v world hworld
  rw [get?_modifyWorld] at hworld
  split at hworld
  · rename_i hv
    obtain ⟨before, hbefore, rfl⟩ := Option.map_eq_some_iff.mp hworld
    exact hf before (hv ▸ hbefore)
  · exact h v world hworld

theorem keep (h : Everywhere P r) {w : Handle .world} {f : World → World}
    (hf : ∀ {world}, P world → P (f world)) : Everywhere P (r.modifyWorld w f) :=
  h.modifyWorld fun world hw => hf (h w world hw)

theorem addWorld (h : Everywhere P r) (hs : r.Sound) {added : World} (hadded : P added) :
    Everywhere P (r.addWorld added) := by
  intro v world hworld
  rw [Registry.addWorld, HandleTable.get?_append hs.worlds] at hworld
  split at hworld
  · exact Option.some.inj hworld ▸ hadded
  · exact h v world hworld

theorem dropWorld (h : Everywhere P r) (w : Handle .world) : Everywhere P (r.dropWorld w) := by
  intro v world hworld
  rw [get?_dropWorld] at hworld
  split at hworld
  · cases hworld
  · exact h v world hworld

end Everywhere

end Registry

namespace Operation

open Registry

variable {P : World → Prop}

theorem everywhere_step (hP : World.Invariant P) {w : Handle .world} {r r' : Registry}
    (h : Everywhere P r) {dt : Float32} {velocityIterations positionIterations : UInt32}
    {snapshot : Snapshot}
    (hstep : Registry.step w dt velocityIterations positionIterations r = .ok (snapshot, r')) :
    Everywhere P r' := by
  obtain ⟨-, -, -, rfl | rfl⟩ := step_eq_ok hstep
  · exact h
  · exact h.keep (hP.advance dt velocityIterations positionIterations)

theorem everywhere_transact (hP : World.Invariant P) {config : Config} {op : Operation}
    {r r' : Registry} {outcome : Outcome} (hs : r.Sound) (h : Everywhere P r)
    (hok : op.transact config r = .ok (outcome, r')) : Everywhere P r' := by
  have hmass : ∀ {r : Registry}, Everywhere P r → ∀ b rec, Everywhere P (r.resetMass b rec) :=
    fun hr _ rec => hr.keep (hP.changeBody rec.native _)
  cases transition_transact hok with
  | @createWorld gravity allowSleep w r' hcreate =>
      obtain ⟨-, rfl⟩ := createWorld_eq_ok hcreate
      exact h.addWorld hs (hP.create gravity _)
  | destroyWorld hdestroy =>
      obtain ⟨-, rfl⟩ := destroyWorld_eq_ok hdestroy
      exact h.dropWorld _
  | @setWorld w change u r' hset =>
      obtain ⟨-, rfl⟩ := changeWorld_eq_ok hset
      exact h.keep (hP.change change)
  | step hstep | stepDefault hstep => exact everywhere_step hP h hstep
  | @createBody w kind place b r' hcreate =>
      obtain ⟨world, native, hw, -, -, rfl⟩ := createBody_eq_ok hcreate
      refine hmass ?_ b _
      exact h.modifyWorld fun _ _ => hP.insertBody kind place b.tag (h w world hw)
  | @deleteBody w b u r' hdelete =>
      obtain ⟨rec, -, rfl⟩ := deleteBody_eq_ok hdelete
      exact Everywhere.keep (r := { r with bodies := r.bodies.erase b }.releaseBodyObjects b)
        h (hP.removeBody rec.native)
  | @setBody w b change u r' hset =>
      obtain ⟨rec, -, rfl⟩ := changeBody_eq_ok hset
      exact h.keep (hP.changeBody rec.native change.apply)
  | @createFixture w b shape material f r' hcreate =>
      obtain ⟨solid, rec, world, native, -, -, hw, -, -, rfl⟩ := createFixture_eq_ok hcreate
      refine hmass ?_ b rec
      exact h.modifyWorld fun _ _ =>
        hP.insertCollider solid material f.tag rec.native (h w world hw)
  | @deleteFixture w f u r' hdelete =>
      obtain ⟨rec, body, -, -, rfl⟩ := deleteFixture_eq_ok hdelete
      refine hmass ?_ rec.body body
      exact Everywhere.keep (r := { r with fixtures := r.fixtures.erase f })
        h (hP.removeCollider rec.native)
  | @setFixture w f change u r' hset =>
      obtain ⟨rec, collider, body, changed, -, -, rfl, rfl⟩ := setFixture_eq_ok hset
      have hchanged : Everywhere P ((r.modifyWorld w (·.setMaterial rec.native (change.apply
          collider.material))).changeMaterial f change.apply) :=
        h.keep (hP.setMaterial rec.native (change.apply collider.material))
      split
      · exact hmass hchanged rec.body body
      · exact hchanged
  | createJoint hcreate | createDefaultJoint hcreate =>
      obtain ⟨recA, recB, world, spring, -, -, hw, -, -, -, -, rfl⟩ := createJoint_eq_ok hcreate
      exact h.modifyWorld fun _ _ => hP.insertSpring spring (h _ world hw)
  | @deleteJoint w j u r' hdelete =>
      obtain ⟨rec, -, rfl⟩ := deleteJoint_eq_ok hdelete
      exact Everywhere.keep (r := { r with joints := r.joints.erase j })
        h (hP.removeSpring rec.native)
  | question => exact h

end Operation

theorem Simulator.Reachable.everywhere {P : World → Prop} (hP : World.Invariant P)
    {s : Simulator} (h : s.Reachable) : s.registry.Everywhere P :=
  h.invariant Registry.everywhere_empty (Operation.everywhere_transact hP)

end RigidWorlds
