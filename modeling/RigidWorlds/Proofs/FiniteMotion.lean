import RigidWorlds.Proofs.Invariant
import RigidWorlds.Proofs.Materials
import RigidWorlds.Proofs.SingleArithmetic
import RigidWorlds.Proofs.Views

/-!
Motions of finite numbers.  As long as no time passes and what is written to bodies is finite, the
places, rotations and velocities of all bodies stay finite.
-/

namespace RigidWorlds

open Engine Binary Json

def Vec2.Finite (v : Vec2) : Prop := v.x.isFinite = true ∧ v.y.isFinite = true

instance : DecidablePred Vec2.Finite := fun _ => inferInstanceAs (Decidable (_ ∧ _))

def Rotation.Finite (r : Rotation) : Prop := r.cos.isFinite = true ∧ r.sin.isFinite = true

def Vec2.Zero (v : Vec2) : Prop := IsZero v.x ∧ IsZero v.y

theorem Vec2.zero_zero : Vec2.zero.Zero := ⟨isZero_zero, isZero_zero⟩

theorem Vec2.Zero.finite {v : Vec2} (hv : v.Zero) : v.Finite := ⟨hv.1.isFinite, hv.2.isFinite⟩

theorem Rotation.finite_identity : Rotation.identity.Finite := ⟨rfl, rfl⟩

theorem Rotation.Finite.apply_zero {r : Rotation} (hr : r.Finite) {v : Vec2} (hv : v.Zero) :
    (r.apply v).Zero :=
  ⟨isZero_sub_zero (isZero_mul_zero hr.1 hv.1) (isZero_mul_zero hr.2 hv.2),
    isZero_add_zero (isZero_mul_zero hr.2 hv.1) (isZero_mul_zero hr.1 hv.2)⟩

theorem Rotation.Finite.inverse {r : Rotation} (hr : r.Finite) : r.inverse.Finite :=
  ⟨hr.1, isFinite_neg hr.2⟩

theorem Rotation.finite_apply_identity_inverse {v : Vec2} (hv : v.Finite) :
    (Rotation.identity.inverse.apply v).Finite := by
  have hnegative : IsZero (-(0 : Float32)) := ⟨.negative, rfl⟩
  have hx : (1 * v.x - -(0 : Float32) * v.y).isFinite = true := by
    rw [one_mul_single hv.1]
    exact isFinite_sub_zero hv.1 (isZero_zero_mul hnegative hv.2)
  have hy : (-(0 : Float32) * v.x + 1 * v.y).isFinite = true := by
    rw [one_mul_single hv.2]
    exact isFinite_zero_add (isZero_zero_mul hnegative hv.1) hv.2
  exact ⟨hx, hy⟩

namespace Engine

/-- A motion of which all numbers are finite.  The center of mass lies at the origin of the body,
unless it has never been computed; then the body has not been turned. -/
structure Motion.Finite (m : Motion) : Prop where
  place : m.pose.translation.Finite
  rotation : m.pose.rotation.Finite
  linear : m.linearVelocity.Finite
  angular : m.angularVelocity.isFinite = true
  center : m.center = m.pose.apply .zero ∨ m.center = .zero ∧ m.pose.rotation = .identity

namespace Motion.Finite

variable {m : Motion}

theorem recenter (h : m.Finite) : m.recenter.Finite :=
  ⟨h.place, h.rotation, h.linear, h.angular, .inl rfl⟩

theorem apply_zero (h : m.Finite) : (m.pose.apply .zero).Finite := by
  obtain ⟨hx, hy⟩ := h.rotation.apply_zero Vec2.zero_zero
  exact ⟨isFinite_zero_add hx h.place.1, isFinite_zero_add hy h.place.2⟩

theorem finite_center (h : m.Finite) : m.center.Finite := by
  rcases h.center with hcenter | ⟨hcenter, -⟩
  · rw [hcenter]
    exact h.apply_zero
  · rw [hcenter]
    exact Vec2.zero_zero.finite

theorem finite_localCenter (h : m.Finite) :
    (m.pose.applyInverse m.center).Finite := by
  rcases h.center with hcenter | ⟨hcenter, hrotation⟩
  · obtain ⟨hx, hy⟩ := h.rotation.apply_zero Vec2.zero_zero
    have hdifference : (m.pose.apply .zero - m.pose.translation).Zero :=
      ⟨isZero_add_sub hx h.place.1, isZero_add_sub hy h.place.2⟩
    rw [hcenter]
    exact (h.rotation.inverse.apply_zero hdifference).finite
  · rw [hcenter, Pose.applyInverse, hrotation]
    exact Rotation.finite_apply_identity_inverse
      ⟨isFinite_zero_sub isZero_zero h.place.1, isFinite_zero_sub isZero_zero h.place.2⟩

theorem create {place : Vec2} (h : place.Finite) :
    (⟨.upright place, .zero, 0, .zero⟩ : Motion).Finite :=
  ⟨h, Rotation.finite_identity, Vec2.zero_zero.finite, isZero_zero.isFinite, .inr ⟨rfl, rfl⟩⟩

end Motion.Finite

namespace Body

variable {b : Body}

theorem motion_wakeIf (condition : Bool) (b : Body) : (b.wakeIf condition).motion = b.motion := by
  unfold wakeIf
  split <;> rfl

theorem motion_setEnabled (enabled : Bool) (b : Body) :
    (b.setEnabled enabled).motion = b.motion := by
  unfold setEnabled
  split
  · rfl
  · split <;> rfl

theorem motion_addForce (force : Vec2) (wake : Bool) (b : Body) :
    (b.addForce force wake).motion = b.motion := by
  unfold addForce
  split
  · rfl
  · exact motion_wakeIf ..

theorem motion_setAdditionalMass (mass : Float32) (b : Body) :
    (b.setAdditionalMass mass).motion = b.motion := by
  unfold setAdditionalMass
  split <;> rfl

theorem oblivious_motion : Oblivious motion := fun _ _ _ _ => rfl

theorem finite_setPose (h : b.motion.Finite) {pose : Pose} (hplace : pose.translation.Finite)
    (hrotation : pose.rotation.Finite) : (b.setPose pose).motion.Finite := by
  unfold setPose
  split
  · exact h
  · rw [motion_wakeIf]
    exact ⟨hplace, hrotation, h.linear, h.angular, .inl rfl⟩

theorem finite_setLinearVelocity (h : b.motion.Finite) {v : Vec2} (hv : v.Finite) :
    (b.setLinearVelocity v).motion.Finite := by
  unfold setLinearVelocity
  split
  · exact h
  · rw [motion_wakeIf]
    exact ⟨h.place, h.rotation, hv, h.angular, h.center⟩

theorem finite_setAngularVelocity (h : b.motion.Finite) {v : Float32} (hv : v.isFinite = true) :
    (b.setAngularVelocity v).motion.Finite := by
  unfold setAngularVelocity
  split
  · exact h
  · rw [motion_wakeIf]
    exact ⟨h.place, h.rotation, h.linear, hv, h.center⟩

theorem finite_setAwake (h : b.motion.Finite) (awake : Bool) :
    (b.setAwake awake).motion.Finite := by
  unfold setAwake
  split
  · exact h
  · exact ⟨h.place, h.rotation, Vec2.zero_zero.finite, isZero_zero.isFinite, h.center⟩

theorem applyImpulseAt_motion (impulse point : Vec2) (wake : Bool) (b : Body) :
    (b.applyImpulseAt impulse point wake).motion.pose = b.motion.pose ∧
      (b.applyImpulseAt impulse point wake).motion.center = b.motion.center := by
  have hlinear : (b.applyImpulse impulse wake).motion.pose = b.motion.pose ∧
      (b.applyImpulse impulse wake).motion.center = b.motion.center := by
    unfold applyImpulse
    split
    · exact ⟨rfl, rfl⟩
    · dsimp only
      rw [motion_wakeIf]
      exact ⟨rfl, rfl⟩
  have hangular : ∀ (turning : Float32) (c : Body),
      (c.applyTorqueImpulse turning wake).motion.pose = c.motion.pose ∧
        (c.applyTorqueImpulse turning wake).motion.center = c.motion.center := by
    intro turning c
    unfold applyTorqueImpulse
    split
    · exact ⟨rfl, rfl⟩
    · dsimp only
      rw [motion_wakeIf]
      exact ⟨rfl, rfl⟩
  exact ⟨(hangular _ _).1.trans hlinear.1, (hangular _ _).2.trans hlinear.2⟩

theorem finite_applyImpulseAt (h : b.motion.Finite) {impulse point : Vec2} {wake : Bool}
    (hlinear : (b.applyImpulseAt impulse point wake).motion.linearVelocity.Finite)
    (hangular : (b.applyImpulseAt impulse point wake).motion.angularVelocity.isFinite = true) :
    (b.applyImpulseAt impulse point wake).motion.Finite := by
  obtain ⟨hpose, hcenter⟩ := applyImpulseAt_motion impulse point wake b
  refine ⟨?_, ?_, hlinear, hangular, ?_⟩
  · rw [hpose]
    exact h.place
  · rw [hpose]
    exact h.rotation
  · rw [hpose, hcenter]
    exact h.center

end Body

namespace World

/-- The motions of all bodies of a world are finite. -/
def Finite (w : World) : Prop :=
  ∀ key body, w.bodies.get? key = some body → body.motion.Finite

/-- The bodies of `w'` are bodies of `w` and move as they did. -/
structure Keeps (w w' : World) : Prop where
  body : ∀ key body', w'.bodies.get? key = some body' →
    ∃ body, w.bodies.get? key = some body ∧ body'.motion = body.motion

variable {w w' : World}

theorem Retains.keeps (h : Retains Body.motion w w') : Keeps w w' := ⟨h.body⟩

theorem Keeps.finite (hkeeps : Keeps w w') (h : w.Finite) : w'.Finite := by
  intro key body' hbody'
  obtain ⟨body, hbody, hmotion⟩ := hkeeps.body key body' hbody'
  rw [hmotion]
  exact h key body hbody

theorem Finite.changeBody (h : w.Finite) {key : Key} {f : Body → Body}
    (hf : ∀ body, w.bodies.get? key = some body → (f body).motion.Finite) :
    (w.changeBody key f).Finite := by
  intro k body' hbody'
  rw [bodies_changeBody, Arena.get?_modify] at hbody'
  split at hbody'
  · rename_i hk
    subst hk
    obtain ⟨body, hbody, rfl⟩ := Option.map_eq_some_iff.mp hbody'
    exact hf body hbody
  · exact h k body' hbody'

theorem finite_create (gravity : Vec2) (settings : WorldSettings) :
    (create gravity settings).Finite := by
  intro key body hbody
  have hempty : (create gravity settings).bodies.get? key = none := Arena.get?_empty key
  rw [hempty] at hbody
  cases hbody

theorem Finite.insertBody (h : w.Finite) (hwell : w.bodies.WellFormed) {place : Vec2}
    (hplace : place.Finite) (kind : BodyKind) (tag : Nat) :
    (w.insertBody kind place tag).2.Finite := by
  intro key body hbody
  unfold World.insertBody at hbody
  rw [bodies_touch, Arena.get?_insert hwell] at hbody
  split at hbody
  · rw [← Option.some.inj hbody]
    exact .create hplace
  · exact h key body hbody

theorem Finite.insertCollider (h : w.Finite) (solid : Solid) (material : Material) (tag : Nat)
    (parent : Key) : (w.insertCollider solid material tag parent).2.Finite := by
  have hstirred : ∀ colliders key, World.Finite ({ w with colliders := colliders }.stir key) := by
    intro colliders key
    exact (retains_of_bodies_eq Body.motion (bodies_stir ..)).keeps.finite h
  refine (hstirred _ _).changeBody ?_
  intro body hbody
  exact (hstirred _ _ parent body hbody).recenter

end World

end Engine

namespace BodyChange

/-- What a change writes to a body is finite, and so is what an impulse makes of its velocities. -/
def WithinRange (b : Body) : BodyChange → Prop
  | pose place angle => place.Finite ∧ (Rotation.ofAngle angle).Finite
  | linearVelocity v => v.Finite
  | angularVelocity v => v.isFinite = true
  | impulse j point wake =>
      (b.applyImpulseAt j point wake).motion.linearVelocity.Finite ∧
        (b.applyImpulseAt j point wake).motion.angularVelocity.isFinite = true
  | force .. | linearDamping _ | active _ | awake _ => True

theorem finite_apply {change : BodyChange} {b : Body} (h : b.motion.Finite)
    (hchange : WithinRange b change) : (change.apply b).motion.Finite := by
  cases change with
  | pose place angle => exact Body.finite_setPose h hchange.1 hchange.2
  | linearVelocity v => exact Body.finite_setLinearVelocity h hchange
  | angularVelocity v => exact Body.finite_setAngularVelocity h hchange
  | impulse impulse point wake => exact Body.finite_applyImpulseAt h hchange.1 hchange.2
  | force force wake =>
      rw [apply, Body.motion_addForce]
      exact h
  | linearDamping damping => exact h
  | active active =>
      rw [apply, Body.motion_setEnabled]
      exact h
  | awake awake => exact Body.finite_setAwake h awake

end BodyChange

namespace Registry

/-- The motions of all bodies of all worlds are finite. -/
def Finite (r : Registry) : Prop := ∀ w world, r.worlds.get? w = some world → world.Finite

variable {r r' : Registry} {w : Handle .world} {world : World}

theorem finite_empty : empty.Finite := nofun

namespace Finite

theorem everywhere (h : r.Finite) : r.Everywhere World.Finite := h

theorem keep (h : r.Finite) {f : World → World}
    (hf : ∀ world, World.Retains Body.motion world (f world)) :
    (r.modifyWorld w f).Finite :=
  h.everywhere.keep fun {world} hworld => (hf world).keeps.finite hworld

theorem resetMass (h : r.Finite) (b : Handle .body) (rec : BodyRecord) :
    (r.resetMass b rec).Finite := by
  refine h.keep fun world => World.retains_changeBody world rec.native ?_
  intro body
  split
  · exact Body.motion_setAdditionalMass ..
  · rfl

end Finite

theorem step_idle_eq_ok {dt : Float32} {velocityIterations positionIterations : UInt32}
    {snapshot : Snapshot} (hidle : ¬ 0 < dt)
    (h : step w dt velocityIterations positionIterations r = .ok (snapshot, r')) :
    ∃ world, r.worlds.get? w = some world ∧ snapshot = .capture world ∧ r' = r := by
  obtain ⟨world, hw, ⟨hlt, -, -⟩ | ⟨-, hsnapshot, hsame⟩⟩ := step_cases h
  · exact absurd hlt hidle
  · exact ⟨world, hw, hsnapshot, hsame⟩

end Registry

namespace Operation

open Registry

/-- The operation lets time pass. -/
def LetsTimePass : Operation → Prop
  | step _ dt _ _ | stepDefault _ dt => 0 < dt
  | _ => False

/-- What the operation writes to bodies is finite. -/
def WithinRange (r : Registry) : Operation → Prop
  | createBody _ _ place => place.Finite
  | setBody w b change =>
      ∀ world key body, r.locateBody w b = .ok (world, key, body) → change.WithinRange body
  | _ => True

theorem finite_transact {config : Config} {op : Operation} {r r' : Registry} {outcome : Outcome}
    (hs : r.Sound) (h : r.Finite) (hidle : ¬ op.LetsTimePass) (hrange : op.WithinRange r)
    (hok : op.transact config r = .ok (outcome, r')) : r'.Finite := by
  cases transition_transact hok with
  | @createWorld gravity allowSleep w r' hcreate =>
      obtain ⟨-, rfl⟩ := createWorld_eq_ok hcreate
      exact h.everywhere.addWorld hs (World.finite_create gravity _)
  | destroyWorld hdestroy =>
      obtain ⟨-, rfl⟩ := destroyWorld_eq_ok hdestroy
      exact h.everywhere.dropWorld _
  | @setWorld w change u r' hset =>
      obtain ⟨-, rfl⟩ := changeWorld_eq_ok hset
      exact h.keep (change.retains_apply (fun _ _ => rfl) fun _ => rfl)
  | step hstep | stepDefault hstep =>
      obtain ⟨-, -, -, rfl⟩ := step_idle_eq_ok hidle hstep
      exact h
  | @createBody w kind place b r' hcreate =>
      obtain ⟨world, native, hw, -, -, rfl⟩ := createBody_eq_ok hcreate
      refine Registry.Finite.resetMass ?_ b _
      exact h.everywhere.modifyWorld fun _ _ =>
        (h w world hw).insertBody (hs.wellFormed_bodies hw) hrange kind b.tag
  | @deleteBody w b u r' hdelete =>
      obtain ⟨rec, -, rfl⟩ := deleteBody_eq_ok hdelete
      exact Registry.Finite.keep (r := { r with bodies := r.bodies.erase b }.releaseBodyObjects b)
        h fun world => World.retains_removeBody Body.oblivious_motion world rec.native
  | setBody hset =>
      obtain ⟨⟨world, key, body⟩, hlocate, hset⟩ := bind_eq_ok_iff.mp hset
      obtain ⟨-, rfl⟩ := return_eq_ok_iff.mp hset
      obtain ⟨rec, -, hw, -, hbody⟩ := locateBody_eq_ok hlocate
      refine h.everywhere.modifyWorld fun found hfound => (h _ found hfound).changeBody ?_
      intro foundBody hfoundBody
      obtain rfl := Option.some.inj (hfound.symm.trans hw)
      obtain rfl := Option.some.inj (hfoundBody.symm.trans hbody)
      exact BodyChange.finite_apply (h _ found hw key foundBody hbody)
        (hrange found key foundBody hlocate)
  | @createFixture w b shape material f r' hcreate =>
      obtain ⟨solid, rec, world, native, -, -, hw, -, -, rfl⟩ := createFixture_eq_ok hcreate
      refine Registry.Finite.resetMass ?_ b rec
      exact h.everywhere.modifyWorld fun _ _ =>
        (h w world hw).insertCollider solid material f.tag rec.native
  | @deleteFixture w f u r' hdelete =>
      obtain ⟨rec, body, -, -, rfl⟩ := deleteFixture_eq_ok hdelete
      refine Registry.Finite.resetMass ?_ rec.body body
      exact Registry.Finite.keep (r := { r with fixtures := r.fixtures.erase f })
        h fun world => World.retains_removeCollider Body.oblivious_motion world rec.native
  | @setFixture w f change u r' hset =>
      obtain ⟨rec, collider, body, changed, -, -, rfl, rfl⟩ := setFixture_eq_ok hset
      have hchanged : ((r.modifyWorld w (·.setMaterial rec.native (change.apply
          collider.material))).changeMaterial f change.apply).Finite :=
        h.keep fun world =>
          World.retains_setMaterial Body.oblivious_motion world rec.native
            (change.apply collider.material)
      split
      · exact Registry.Finite.resetMass hchanged rec.body body
      · exact hchanged
  | createJoint hcreate | createDefaultJoint hcreate =>
      obtain ⟨recA, recB, world, spring, -, -, hw, -, -, -, -, rfl⟩ := createJoint_eq_ok hcreate
      exact h.everywhere.modifyWorld fun _ _ =>
        (World.retains_insertSpring Body.oblivious_motion world spring).keeps.finite (h _ world hw)
  | @deleteJoint w j u r' hdelete =>
      obtain ⟨rec, -, rfl⟩ := deleteJoint_eq_ok hdelete
      exact Registry.Finite.keep (r := { r with joints := r.joints.erase j })
        h fun world => World.retains_removeSpring Body.oblivious_motion world rec.native
  | question => exact h

end Operation

namespace Simulator

variable {s : Simulator}

theorem finite_perform (hs : s.registry.Sound) (h : s.registry.Finite) {op : Operation}
    (hidle : ¬ op.LetsTimePass) (hrange : op.WithinRange s.registry) :
    (op.perform s).2.registry.Finite :=
  keep_perform hs op h (Operation.finite_transact hs h hidle hrange)

end Simulator

end RigidWorlds
