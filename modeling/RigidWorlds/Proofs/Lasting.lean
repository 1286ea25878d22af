import RigidWorlds.Engine.Step
import RigidWorlds.Proofs.Arena

/-!
What steps leave alone.  A step moves, wakes and weighs the bodies of a world and finds the pairs
of colliders that meet; which bodies, colliders and springs there are, how they hang together and
all that only their owner sets stays the same.
-/

namespace RigidWorlds.Engine

namespace Body

/-- A body without what the motion of a step changes about it. -/
def enduring (b : Body) : Body :=
  { b with
    mass := .zero
    changes := .nothing
    activation := .initial
    motion := ⟨.upright .zero, .zero, 0, .zero⟩ }

/-- A body without what steps change about it; they may clear forces. -/
def lasting (b : Body) : Body :=
  { b with
    force := .zero
    torque := 0
    mass := .zero
    changes := .nothing
    activation := .initial
    motion := ⟨.upright .zero, .zero, 0, .zero⟩ }

@[simp]
theorem enduring_rouse (b : Body) : b.rouse.enduring = b.enduring := by
  unfold rouse
  split <;> rfl

@[simp]
theorem enduring_answerWake (b : Body) : b.answerWake.enduring = b.enduring := by
  unfold answerWake
  split
  · exact enduring_rouse b
  · rfl

@[simp]
theorem enduring_enroll (b : Body) : b.enroll.enduring = b.enduring := rfl

@[simp]
theorem enduring_weigh (attached : MassProperties) (b : Body) :
    (b.weigh attached).enduring = b.enduring := by
  unfold weigh
  split <;> rfl

@[simp]
theorem enduring_countIdle (dt : Float32) (b : Body) : (b.countIdle dt).enduring = b.enduring := by
  unfold countIdle
  split <;> rfl

@[simp]
theorem enduring_fallAsleep (b : Body) : b.fallAsleep.enduring = b.enduring := rfl

@[simp]
theorem enduring_stayAwake (b : Body) : b.stayAwake.enduring = b.enduring := rfl

@[simp]
theorem enduring_settleBody (dt : Float32) (b : Body) (m : Mover) :
    (World.settleBody dt b m).enduring = b.enduring := by
  unfold World.settleBody
  split <;> rfl

@[simp]
theorem enduring_glide (dt : Float32) (b : Body) : (b.glide dt).enduring = b.enduring := by
  unfold glide
  split <;> rfl

end Body

def Collider.lasting (c : Collider) : Collider :=
  { c with enabled := true, acquainted := false, changed := false, entry := none }

def Spring.lasting (s : Spring) : Spring := { s with enabled := true }

theorem Spring.lasting_follow (body : Body) (s : Spring) : (s.follow body).lasting = s.lasting := by
  unfold follow
  split <;> rfl

namespace World

/-- A world without what the motion of a step changes about it. -/
def enduring (w : World) : World :=
  { w with
    bodies := w.bodies.map fun _ b => b.enduring
    colliders := w.colliders.map fun _ c => c.lasting
    springs := w.springs.map fun _ s => s.lasting
    pairs := []
    touched := []
    stirred := []
    ranks := .initial
    time := 0
    stepCount := 0 }

/-- A world without what steps change about it. -/
def lasting (w : World) : World :=
  { w with
    bodies := w.bodies.map fun _ b => b.lasting
    colliders := w.colliders.map fun _ c => c.lasting
    springs := w.springs.map fun _ s => s.lasting
    pairs := []
    touched := []
    stirred := []
    ranks := .initial
    time := 0
    stepCount := 0 }

theorem lasting_enduring (w : World) : w.enduring.lasting = w.lasting := by
  simp only [lasting, enduring, Arena.map_map]
  rfl

theorem exists_of_enduring_eq {v w : World} (h : v.enduring = w.enduring) {key : Key} {body : Body}
    (hbody : w.bodies.get? key = some body) :
    ∃ body', v.bodies.get? key = some body' ∧ body'.enduring = body.enduring := by
  have hget := congrArg (Arena.get? · key) (congrArg World.bodies h)
  simp only [enduring, Arena.get?_map, hbody, Option.map_some] at hget
  exact Option.map_eq_some_iff.mp hget

theorem lasting_eq_of_enduring_eq {v w : World} (h : v.enduring = w.enduring) :
    v.lasting = w.lasting := by
  rw [← lasting_enduring, h, lasting_enduring]

theorem enduring_mapBodies (w : World) {f : Key → Body → Body}
    (hf : ∀ key b, (f key b).enduring = b.enduring) : (w.mapBodies f).enduring = w.enduring := by
  simp only [enduring, mapBodies, Arena.map_map, hf]

theorem enduring_mapColliders (w : World) {f : Key → Collider → Collider}
    (hf : ∀ key c, (f key c).lasting = c.lasting) :
    { w with colliders := w.colliders.map f }.enduring = w.enduring := by
  simp only [enduring, Arena.map_map, hf]

theorem enduring_mapAttached (w : World) {f : Collider → Collider} {g : Spring → Spring}
    (hf : ∀ c, (f c).lasting = c.lasting) (hg : ∀ s, (g s).lasting = s.lasting) :
    { w with
      colliders := w.colliders.map fun _ => f
      springs := w.springs.map fun _ => g }.enduring = w.enduring := by
  simp only [enduring, Arena.map_map, hf, hg]

theorem enduring_modifyBody (w : World) (key : Key) {f : Body → Body}
    (hf : ∀ b, (f b).enduring = b.enduring) : (w.modifyBody key f).enduring = w.enduring := by
  apply enduring_mapBodies
  intro k b
  split
  · exact hf b
  · rfl

theorem enduring_rouse (w : World) (keys : List Key) : (w.rouse keys).enduring = w.enduring := by
  apply enduring_mapBodies
  intro key b
  split <;> simp

theorem enduring_stir (w : World) (key : Key) : (w.stir key).enduring = w.enduring := by
  unfold stir
  split <;> rfl

theorem enduring_foldl {α : Type} {f : World → α → World}
    (hf : ∀ w a, (f w a).enduring = w.enduring) (l : List α) (w : World) :
    (l.foldl f w).enduring = w.enduring := by
  induction l generalizing w with
  | nil => rfl
  | cons a l ih => rw [List.foldl_cons, ih, hf]

theorem enduring_follow (w : World) (key : Key) (body : Body) :
    let toCollider (c : Collider) : Collider := if c.parent = key then c.follow body else c
    let toSpring (s : Spring) : Spring := if s.involves key then s.follow body else s
    { w with
      colliders := w.colliders.map fun _ => toCollider
      springs := w.springs.map fun _ => toSpring }.enduring = w.enduring := by
  apply enduring_mapAttached
  · intro c
    split <;> rfl
  · intro s
    split <;> simp [Spring.lasting_follow]

theorem enduring_takeChange (w : World) (key : Key) : (w.takeChange key).enduring = w.enduring := by
  unfold takeChange
  split
  · rfl
  · rename_i body _
    have hpassed := enduring_follow w key body
    have hweigh : ∀ (v : World) (attached : Body → MassProperties),
        (v.modifyBody key fun b => b.enroll.weigh (attached b)).enduring = v.enduring := by
      intro v attached
      apply enduring_modifyBody
      simp
    dsimp only
    split
    · rw [enduring_foldl enduring_stir, hweigh, hpassed]
    · rw [hweigh, hpassed]

theorem enduring_takeChanges (w : World) : w.takeChanges.enduring = w.enduring := by
  rw [takeChanges, enduring_foldl enduring_takeChange]
  exact enduring_mapBodies w (by simp)

theorem enduring_forgetChanges (w : World) : w.forgetChanges.enduring = w.enduring := by
  simp only [enduring, forgetChanges, Arena.map_map]
  rfl

theorem enduring_enter (w : World) (key : Key) : (w.enter key).enduring = w.enduring := by
  unfold enter
  split
  · split
    · split
      · simp only [enduring, Arena.modify, Arena.map_map]
        congr 1
        apply Arena.map_congr
        intro k c
        split <;> rfl
      · rfl
    · rfl
  · rfl

theorem enduring_concludeSearch (w : World) (placed : List Placed) :
    (w.concludeSearch placed).enduring = w.enduring := by
  apply (enduring_mapColliders w (f := _) ?_)
  intro key c
  split
  · rfl
  · split <;> rfl

theorem enduring_findPairs (w : World) (dt : Float32) (fresh : Placed → Bool) :
    (w.findPairs dt fresh).enduring = w.enduring := by
  unfold findPairs
  dsimp only
  rw [enduring_rouse]
  refine (enduring_mapColliders (World.concludeSearch _ _) ?_).trans ?_
  · intro key c
    split <;> rfl
  · rw [enduring_concludeSearch, enduring_foldl enduring_enter]

theorem enduring_prepare (w : World) (dt : Float32) : (w.prepare dt).enduring = w.enduring := by
  rw [prepare, enduring_forgetChanges, enduring_findPairs, enduring_rouse, enduring_takeChanges]

theorem enduring_updateRest (w : World) (dt : Float32) :
    (w.updateRest dt).enduring = w.enduring := by
  unfold updateRest
  dsimp only
  rw [enduring_mapBodies, enduring_mapBodies]
  · simp
  · intro key b
    split
    · simp
    · split <;> simp

theorem enduring_settle (w : World) (dt : Float32) (course : Course) :
    (w.settle dt course).enduring = w.enduring := by
  change (w.mapBodies _).enduring = w.enduring
  apply enduring_mapBodies
  intro key b
  split <;> simp

theorem enduring_recenter (w : World) : w.recenter.enduring = w.enduring := by
  apply enduring_mapBodies
  intro key b
  split <;> rfl

theorem enduring_clearForces {v w : World} (h : v.enduring = w.enduring) :
    v.clearForces.enduring = w.clearForces.enduring := by
  have hclear : ∀ u : World,
      u.clearForces.enduring = u.enduring.mapBodies fun _ b => b.clearForces := by
    intro u
    simp only [enduring, clearForces, touchAll, mapBodies, Arena.map_map]
    rfl
  rw [hclear, h, hclear]

theorem enduring_advance (w : World) (dt : Float32)
    (velocityIterations positionIterations : UInt32) :
    (w.advance dt velocityIterations positionIterations).enduring =
      (if w.settings.autoClearForces then w.clearForces else w).enduring := by
  have hmoved : ∀ (v : World) (course : Course),
      (((v.settle dt course).mapBodies fun _ b => b.glide dt).findPairs dt
        Placed.isMoved).enduring = v.enduring := by
    intro v course
    rw [enduring_findPairs, enduring_mapBodies _ (by simp), enduring_settle]
  have hcleared : ∀ {v : World}, v.enduring = w.enduring →
      (if w.settings.autoClearForces then v.clearForces else v).enduring =
        (if w.settings.autoClearForces then w.clearForces else w).enduring := by
    intro v hv
    split
    · exact enduring_clearForces hv
    · exact hv
  have hclock : ∀ (v : World) (time : Float32) (stepCount : UInt64),
      { v with time := time, stepCount := stepCount }.enduring = v.enduring :=
    fun _ _ _ => rfl
  unfold advance
  dsimp only
  rw [hclock (World.recenter _), enduring_recenter]
  refine hcleared ?_
  rw [hmoved, enduring_updateRest, enduring_prepare]

theorem lasting_clearForces (w : World) : w.clearForces.lasting = w.lasting := by
  simp only [lasting, clearForces, touchAll, mapBodies, Arena.map_map]
  rfl

theorem lasting_advance (w : World) (dt : Float32)
    (velocityIterations positionIterations : UInt32) :
    (w.advance dt velocityIterations positionIterations).lasting = w.lasting := by
  rw [lasting_eq_of_enduring_eq (enduring_advance ..)]
  split
  · exact lasting_clearForces w
  · rfl

end World

end RigidWorlds.Engine
