import RigidWorlds.Proofs.Lasting
import RigidWorlds.Simulator.Body
import RigidWorlds.Simulator.World

/-!
Views of bodies.  Most of what happens in a world leaves most of a body alone; which part of a body
is looked at decides which changes of the world go by unnoticed.
-/

namespace RigidWorlds

variable {α : Type}

namespace Engine

/-- A view that neither sees which colliders are attached to a body, nor whether it sleeps, nor what
the next step has to take notice of. -/
def Body.Oblivious (view : Body → α) : Prop :=
  ∀ (b : Body) (colliders : List Key) (changes : BodyChanges) (activation : Activation),
    view { b with colliders := colliders, changes := changes, activation := activation } = view b

namespace Body.Oblivious

variable {view : Body → α}

theorem detach (h : Oblivious view) (key : Key) (b : Body) : view (b.detach key) = view b := by
  unfold Body.detach
  split
  · exact h b _ _ _
  · rfl

theorem rouse (h : Oblivious view) (b : Body) : view b.rouse = view b := by
  unfold Body.rouse
  split
  · exact h b _ _ _
  · rfl

end Body.Oblivious

/-- A view that sees nothing of what the owner of a body may change: how it moves, whether it takes
part in steps, and what pushes it or slows it down. -/
def Body.Aloof (view : Body → α) : Prop :=
  ∀ (b : Body) (motion : Motion) (enabled : Bool) (linearDamping : Float32) (force : Vec2)
    (changes : BodyChanges) (activation : Activation),
    view { b with
      motion := motion, enabled := enabled, linearDamping := linearDamping, force := force,
      changes := changes, activation := activation } = view b

namespace Body.Aloof

variable {view : Body → α}

theorem wakeIf (h : Aloof view) (condition : Bool) (b : Body) :
    view (b.wakeIf condition) = view b := by
  cases condition
  · rfl
  · exact h b _ _ _ _ _ _

theorem setPose (h : Aloof view) (pose : Pose) (b : Body) : view (b.setPose pose) = view b := by
  unfold Body.setPose
  split
  · rfl
  · rw [h.wakeIf]
    exact h b _ _ _ _ _ _

theorem setLinearVelocity (h : Aloof view) (v : Vec2) (b : Body) :
    view (b.setLinearVelocity v) = view b := by
  unfold Body.setLinearVelocity
  split
  · rfl
  · rw [h.wakeIf]
    exact h b _ _ _ _ _ _

theorem setAngularVelocity (h : Aloof view) (v : Float32) (b : Body) :
    view (b.setAngularVelocity v) = view b := by
  unfold Body.setAngularVelocity
  split
  · rfl
  · rw [h.wakeIf]
    exact h b _ _ _ _ _ _

theorem applyImpulse (h : Aloof view) (impulse : Vec2) (wake : Bool) (b : Body) :
    view (b.applyImpulse impulse wake) = view b := by
  unfold Body.applyImpulse
  split
  · rfl
  · dsimp only
    rw [h.wakeIf]
    exact h b _ _ _ _ _ _

theorem applyTorqueImpulse (h : Aloof view) (impulse : Float32) (wake : Bool) (b : Body) :
    view (b.applyTorqueImpulse impulse wake) = view b := by
  unfold Body.applyTorqueImpulse
  split
  · rfl
  · dsimp only
    rw [h.wakeIf]
    exact h b _ _ _ _ _ _

theorem addForce (h : Aloof view) (force : Vec2) (wake : Bool) (b : Body) :
    view (b.addForce force wake) = view b := by
  unfold Body.addForce
  split
  · rfl
  · rw [h.wakeIf]
    exact h b _ _ _ _ _ _

theorem setEnabled (h : Aloof view) (enabled : Bool) (b : Body) :
    view (b.setEnabled enabled) = view b := by
  unfold Body.setEnabled
  split
  · rfl
  · split <;> exact h b _ _ _ _ _ _

theorem setAwake (h : Aloof view) (awake : Bool) (b : Body) : view (b.setAwake awake) = view b := by
  unfold Body.setAwake
  split <;> exact h b _ _ _ _ _ _

end Body.Aloof

/-- A view that sees nothing of how a body moves, whether it sleeps and what pushes it. -/
def Body.Unmoved (view : Body → α) : Prop :=
  ∀ (b : Body) (motion : Motion) (activation : Activation) (force : Vec2) (torque : Float32),
    view { b with motion := motion, activation := activation, force := force, torque := torque } =
      view b

namespace Body.Unmoved

variable {view : Body → α}

theorem rouse (h : Unmoved view) (b : Body) : view b.rouse = view b := by
  unfold Body.rouse
  split
  · exact h b _ _ _ _
  · rfl

theorem answerWake (h : Unmoved view) (b : Body) : view b.answerWake = view b := by
  unfold Body.answerWake
  split
  · exact (h b.rouse _ _ _ _).trans (h.rouse b)
  · rfl

theorem countIdle (h : Unmoved view) (dt : Float32) (b : Body) :
    view (b.countIdle dt) = view b := by
  unfold Body.countIdle
  split
  · exact h b _ _ _ _
  · rfl

theorem settleBody (h : Unmoved view) (dt : Float32) (b : Body) (m : Mover) :
    view (World.settleBody dt b m) = view b := by
  unfold World.settleBody
  split
  · exact h b _ _ _ _
  · rfl

theorem glide (h : Unmoved view) (dt : Float32) (b : Body) : view (b.glide dt) = view b := by
  unfold Body.glide
  split
  · exact h b _ _ _ _
  · rfl

end Body.Unmoved

/-- A relation between what a body was and what it is that holds whatever happens to it by its
joints: the next step is told to wake it. -/
structure Body.Lax (R : Body → Body → Prop) : Prop where
  refl : ∀ b, R b b
  trans : ∀ b b' b'', R b b' → R b' b'' → R b b''
  requestWake : ∀ b, R b b.requestWake

/-- The same for its fixtures as well: colliders are detached from it, it is woken, and the next
step is told to compute its mass again. -/
structure Body.Lenient (R : Body → Body → Prop) : Prop extends Lax R where
  detach : ∀ key b, R b (b.detach key)
  rouse : ∀ b, R b b.rouse
  requestMass : ∀ b : Body, R b { b with changes := { b.changes with mass := true } }

theorem Body.Oblivious.lenient {view : Body → α} (h : Oblivious view) :
    Lenient fun b b' => view b' = view b where
  refl _ := rfl
  trans _ _ _ h h' := h'.trans h
  detach := h.detach
  rouse := h.rouse
  requestWake b := h b _ _ _
  requestMass b := h b _ _ _

namespace World

/-- The bodies that are left come from bodies that were there. -/
structure Evolves (R : Body → Body → Prop) (w w' : World) : Prop where
  body : ∀ key body', w'.bodies.get? key = some body' →
    ∃ body, w.bodies.get? key = some body ∧ R body body'

/-- The bodies that are left look as they did. -/
structure Retains (view : Body → α) (w w' : World) : Prop where
  body : ∀ key body', w'.bodies.get? key = some body' →
    ∃ body, w.bodies.get? key = some body ∧ view body' = view body

variable {w w' : World}

theorem bodies_touch (w : World) (key : Key) : (w.touch key).bodies = w.bodies := by
  unfold touch
  split <;> rfl

theorem bodies_stir (w : World) (key : Key) : (w.stir key).bodies = w.bodies := by
  unfold stir
  split <;> rfl

theorem bodies_changeBody (w : World) (key : Key) (f : Body → Body) :
    (w.changeBody key f).bodies = w.bodies.modify key f := bodies_touch ..

theorem bodies_insertCollider (w : World) (solid : Solid) (material : Material) (tag : Nat)
    (parent : Key) :
    (w.insertCollider solid material tag parent).2.bodies =
      w.bodies.modify parent (·.attach (w.insertCollider solid material tag parent).1 solid
        (.ofSolid solid material.density)) := by
  unfold insertCollider
  rw [bodies_changeBody, bodies_stir]
  rfl

section

variable {R : Body → Body → Prop}

theorem Evolves.trans (htrans : ∀ b b' b'', R b b' → R b' b'' → R b b'') {w'' : World}
    (h : Evolves R w w') (h' : Evolves R w' w'') : Evolves R w w'' := by
  constructor
  intro key body'' hbody''
  obtain ⟨body', hbody', hlater⟩ := h'.body key body'' hbody''
  obtain ⟨body, hbody, hearlier⟩ := h.body key body' hbody'
  exact ⟨body, hbody, htrans _ _ _ hearlier hlater⟩

theorem evolves_map {f : Key → Body → Body} (hf : ∀ key body, R body (f key body))
    (h : w'.bodies = w.bodies.map f) : Evolves R w w' := by
  constructor
  intro key body' hbody'
  rw [h, Arena.get?_map] at hbody'
  obtain ⟨body, hbody, rfl⟩ := Option.map_eq_some_iff.mp hbody'
  exact ⟨body, hbody, hf key body⟩

theorem evolves_of_bodies_eq (hrefl : ∀ b, R b b) (h : w'.bodies = w.bodies) :
    Evolves R w w' := by
  constructor
  intro key body hbody
  rw [h] at hbody
  exact ⟨body, hbody, hrefl body⟩

theorem evolves_changeBody (hrefl : ∀ b, R b b) (w : World) (key : Key) {f : Body → Body}
    (hf : ∀ body, R body (f body)) : Evolves R w (w.changeBody key f) := by
  refine evolves_map ?_ (bodies_changeBody w key f)
  intro k body
  split
  · exact hf body
  · exact hrefl body

section

variable (hR : Body.Lax R)

include hR

theorem evolves_requestWake (w : World) (keys : List Key) :
    Evolves R w (w.requestWake keys) := by
  refine evolves_map (f := fun key body => if key ∈ keys then body.requestWake else body) ?_ rfl
  intro key body
  split
  · exact hR.requestWake body
  · exact hR.refl body

theorem evolves_insertSpring (w : World) (spring : Spring) :
    Evolves R w (w.insertSpring spring).2 := by
  refine Evolves.trans hR.trans ?_ (evolves_requestWake hR ..)
  exact evolves_of_bodies_eq hR.refl rfl

theorem evolves_removeSpring (w : World) (key : Key) : Evolves R w (w.removeSpring key) := by
  unfold removeSpring
  split
  · exact evolves_of_bodies_eq hR.refl rfl
  · refine Evolves.trans hR.trans ?_ (evolves_requestWake hR ..)
    exact evolves_of_bodies_eq hR.refl rfl

theorem evolves_foldl_removeSpring (keys : List Key) (w : World) :
    Evolves R w (keys.foldl removeSpring w) := by
  induction keys generalizing w with
  | nil => exact evolves_of_bodies_eq hR.refl rfl
  | cons key keys ih => exact (evolves_removeSpring hR w key).trans hR.trans (ih _)

theorem evolves_removeBody (w : World) (key : Key) : Evolves R w (w.removeBody key) := by
  unfold removeBody
  split
  · exact evolves_of_bodies_eq hR.refl rfl
  · refine Evolves.trans hR.trans ?_ (evolves_foldl_removeSpring hR ..)
    constructor
    intro k body hbody
    have hbody' : (w.bodies.remove key).get? k = some body := hbody
    rw [Arena.get?_remove] at hbody'
    split at hbody'
    · cases hbody'
    · exact ⟨body, hbody', hR.refl body⟩

end

variable (hR : Body.Lenient R)

include hR

theorem evolves_removeCollider (w : World) (key : Key) : Evolves R w (w.removeCollider key) := by
  unfold removeCollider
  split
  · exact evolves_of_bodies_eq hR.refl rfl
  · rename_i collider _
    refine Evolves.trans hR.trans ?_ (evolves_changeBody hR.refl _ collider.parent ?_)
    · exact evolves_of_bodies_eq hR.refl rfl
    · exact fun body => hR.trans _ _ _ (hR.detach key body) (hR.rouse _)

theorem evolves_setMaterial (w : World) (key : Key) (material : Material) :
    Evolves R w (w.setMaterial key material) := by
  unfold setMaterial
  split
  · exact evolves_of_bodies_eq hR.refl rfl
  · dsimp only
    split
    · exact evolves_of_bodies_eq hR.refl (bodies_stir ..)
    · refine Evolves.trans hR.trans ?_ (evolves_changeBody hR.refl _ _ hR.requestMass)
      exact evolves_of_bodies_eq hR.refl (bodies_stir ..)

end

variable {view : Body → α}

theorem retains_iff : Retains view w w' ↔ Evolves (fun b b' => view b' = view b) w w' :=
  ⟨fun h => ⟨h.body⟩, fun h => ⟨h.body⟩⟩

theorem Retains.refl (view : Body → α) (w : World) : Retains view w w :=
  ⟨fun _ body hbody => ⟨body, hbody, rfl⟩⟩

theorem Retains.trans {w'' : World} (h : Retains view w w') (h' : Retains view w' w'') :
    Retains view w w'' :=
  retains_iff.mpr
    ((retains_iff.mp h).trans (fun _ _ _ hb hb' => hb'.trans hb) (retains_iff.mp h'))

theorem retains_of_bodies_eq (view : Body → α) (h : w'.bodies = w.bodies) :
    Retains view w w' :=
  retains_iff.mpr (evolves_of_bodies_eq (fun _ => rfl) h)

theorem retains_map {f : Key → Body → Body} (hf : ∀ key body, view (f key body) = view body)
    (h : w'.bodies = w.bodies.map f) : Retains view w w' :=
  retains_iff.mpr (evolves_map hf h)

theorem retains_changeBody (w : World) (key : Key) {f : Body → Body}
    (hf : ∀ body, view (f body) = view body) : Retains view w (w.changeBody key f) :=
  retains_iff.mpr
    (evolves_changeBody (R := fun b b' => view b' = view b) (fun _ => rfl) w key hf)

theorem retains_advance (hview : ∀ b : Body, view b.lasting = view b) (w : World) (dt : Float32)
    (velocityIterations positionIterations : UInt32) :
    Retains view w (w.advance dt velocityIterations positionIterations) := by
  constructor
  intro key body' hbody'
  have hlasting :=
    congrArg World.bodies (lasting_advance w dt velocityIterations positionIterations)
  have hget := congrArg (Arena.get? · key) hlasting
  simp only [lasting, Arena.get?_map, hbody', Option.map_some] at hget
  obtain ⟨body, hbody, heq⟩ := Option.map_eq_some_iff.mp hget.symm
  exact ⟨body, hbody, by rw [← hview body', ← heq, hview]⟩

section

variable (hview : Body.Oblivious view)

include hview

theorem retains_removeCollider (w : World) (key : Key) : Retains view w (w.removeCollider key) :=
  retains_iff.mpr (evolves_removeCollider hview.lenient w key)

theorem retains_setMaterial (w : World) (key : Key) (material : Material) :
    Retains view w (w.setMaterial key material) :=
  retains_iff.mpr (evolves_setMaterial hview.lenient w key material)

theorem retains_insertSpring (w : World) (spring : Spring) :
    Retains view w (w.insertSpring spring).2 :=
  retains_iff.mpr (evolves_insertSpring hview.lenient.toLax w spring)

theorem retains_removeSpring (w : World) (key : Key) : Retains view w (w.removeSpring key) :=
  retains_iff.mpr (evolves_removeSpring hview.lenient.toLax w key)

theorem retains_removeBody (w : World) (key : Key) : Retains view w (w.removeBody key) :=
  retains_iff.mpr (evolves_removeBody hview.lenient.toLax w key)

end

theorem bodies_foldl {f : World → Key → World} (hf : ∀ w key, (f w key).bodies = w.bodies)
    (keys : List Key) (w : World) : (keys.foldl f w).bodies = w.bodies := by
  induction keys generalizing w with
  | nil => rfl
  | cons key keys ih => rw [List.foldl_cons, ih, hf]

theorem bodies_enter (w : World) (key : Key) : (w.enter key).bodies = w.bodies := by
  unfold enter
  split
  · split
    · split <;> rfl
    · rfl
  · rfl

section

variable {view : Body → α}

theorem retains_mapBodies (w : World) {f : Key → Body → Body}
    (hf : ∀ key b, view (f key b) = view b) : Retains view w (w.mapBodies f) :=
  retains_map hf rfl

variable (hview : Body.Unmoved view)

include hview

theorem retains_rouse (w : World) (keys : List Key) : Retains view w (w.rouse keys) := by
  apply retains_mapBodies
  intro key b
  split
  · exact hview.rouse b
  · rfl

theorem retains_findPairs (w : World) (dt : Float32) (fresh : Placed → Bool) :
    Retains view w (w.findPairs dt fresh) := by
  refine Retains.trans ?_ (retains_rouse hview _ _)
  exact retains_of_bodies_eq view (bodies_foldl bodies_enter w.stirred w)

theorem retains_updateRest (w : World) (dt : Float32) : Retains view w (w.updateRest dt) := by
  refine Retains.trans (retains_mapBodies w fun _ => hview.countIdle dt) (retains_mapBodies _ ?_)
  intro key b
  split
  · exact hview b _ _ _ _
  · split
    · exact hview b _ _ _ _
    · rfl

theorem retains_settle (w : World) (dt : Float32) (course : Course) :
    Retains view w (w.settle dt course) := by
  constructor
  intro key body' hbody'
  obtain ⟨body, hbody, rfl⟩ := Option.map_eq_some_iff.mp ((Arena.get?_map ..).symm.trans hbody')
  refine ⟨body, hbody, ?_⟩
  split
  · exact hview.settleBody dt body _
  · rfl

theorem retains_recenter (w : World) : Retains view w w.recenter := by
  apply retains_mapBodies
  intro key b
  split
  · exact hview b _ _ _ _
  · rfl

theorem retains_move (w : World) (dt : Float32) (velocityIterations positionIterations : UInt32) :
    Retains view (w.prepare dt) (w.advance dt velocityIterations positionIterations) := by
  have hmoved : ∀ (v : World) (course : Course), Retains view v
      (((v.settle dt course).mapBodies fun _ b => b.glide dt).findPairs dt Placed.isMoved) :=
    fun v course => (retains_settle hview v dt course).trans
      ((retains_mapBodies _ fun _ => hview.glide dt).trans (retains_findPairs hview _ dt _))
  have hcleared : ∀ v : World,
      Retains view v (if w.settings.autoClearForces then v.clearForces else v).recenter := by
    intro v
    refine Retains.trans ?_ (retains_recenter hview _)
    split
    · exact retains_map (f := fun _ b => b.clearForces) (fun _ b => hview b _ _ _ _) rfl
    · exact Retains.refl view v
  have hclock : ∀ (v : World) (time : Float32) (stepCount : UInt64),
      Retains view v { v with time := time, stepCount := stepCount } :=
    fun _ _ _ => retains_of_bodies_eq view rfl
  exact (retains_updateRest hview _ dt).trans
    ((hmoved _ _).trans ((hcleared _).trans (hclock _ _ _)))

end

end World

end Engine

open Engine

theorem BodyChange.view_apply {view : Body → α} (h : Body.Aloof view) (change : BodyChange)
    (b : Body) : view (change.apply b) = view b := by
  cases change with
  | pose place angle => exact h.setPose ⟨place, .ofAngle angle⟩ b
  | linearVelocity v => exact h.setLinearVelocity v b
  | angularVelocity v => exact h.setAngularVelocity v b
  | impulse impulse point wake =>
      exact (h.applyTorqueImpulse ..).trans (h.applyImpulse impulse wake b)
  | force force wake => exact h.addForce force wake b
  | linearDamping damping => exact h b _ _ _ _ _ _
  | active active => exact h.setEnabled active b
  | awake awake => exact h.setAwake awake b

theorem WorldChange.retains_apply {view : Body → α}
    (hcontinuous : ∀ (b : Body) (continuous : Bool),
      view { b with continuous := continuous } = view b)
    (hforces : ∀ b : Body, view b.clearForces = view b) (change : WorldChange) (w : World) :
    World.Retains view w (change.apply w) := by
  cases change with
  | gravity gravity => exact World.retains_of_bodies_eq view rfl
  | continuous enabled =>
      exact World.retains_map (f := fun _ body => { body with continuous := enabled })
        (fun _ body => hcontinuous body enabled) rfl
  | clearForces =>
      exact World.retains_map (f := fun _ body => body.clearForces) (fun _ => hforces) rfl

end RigidWorlds
