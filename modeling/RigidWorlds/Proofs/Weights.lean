import RigidWorlds.Proofs.AdditionalMass
import RigidWorlds.Proofs.Fate
import RigidWorlds.Proofs.Neighbors
import RigidWorlds.Proofs.Registers
import RigidWorlds.Proofs.SingleNorms

/-!
What bodies weigh.  The engine weighs a body in a step in which time passes, provided that something
that bears on its mass has changed since the last one.  So a dynamic body without dense fixtures
weighs one after every such step; a new one weighs nothing before its first, and one that has lost
its last dense fixture weighs what it did.
-/

namespace RigidWorlds

open Engine Binary

namespace Engine

namespace MassProperties

theorem isZero_zero : zero.isZero = true := by decide +kernel

theorem ofSolid_of_isZero (solid : Solid) {density : Float32} (h : IsZero density) :
    ofSolid solid density = zero :=
  if_pos (h.beq Binary.isZero_zero)

theorem inverseMass_addMass_one : (zero.addMass 1).inverseMass = 1 := by decide +kernel

/-- The same, or no mass before and after. -/
def Alike (m n : MassProperties) : Prop := n = m ∨ m.isZero = true ∧ n = zero

theorem alike_refl (m : MassProperties) : m.Alike m := .inl rfl

theorem Alike.trans {l m n : MassProperties} (h : l.Alike m) (h' : m.Alike n) : l.Alike n := by
  rcases h with rfl | ⟨hl, rfl⟩
  · exact h'
  · rcases h' with rfl | ⟨-, rfl⟩
    · exact .inr ⟨hl, rfl⟩
    · exact .inr ⟨hl, rfl⟩

theorem alike_add_zero (m : MassProperties) : m.Alike (m.add zero) := by
  unfold add
  split
  · rename_i hm
    exact .inr ⟨hm, rfl⟩
  · rw [if_pos isZero_zero]
    exact .inl rfl

theorem Alike.inverseMass_eq_one {m n : MassProperties} (h : m.Alike n) (hm : m.inverseMass = 1) :
    n.inverseMass = 1 := by
  rcases h with rfl | ⟨hzero, -⟩
  · exact hm
  · rw [isZero, hm] at hzero
    cases (Bool.and_eq_true_iff.mp hzero).1

end MassProperties

namespace Body

/-- What becomes of a body as long as no time passes and nothing that has a mass is attached to it:
it weighs what it did.  Unless it is to be weighed in the next step, it was not to be weighed before
either, and no other additional mass was set. -/
structure Steady (b b' : Body) : Prop where
  kind : b'.kind = b.kind
  mass : b.mass.Alike b'.mass
  settled : b'.changes.reachMass = false →
    b.changes.reachMass = false ∧ b'.additionalMass = b.additionalMass

theorem steady_refl (b : Body) : b.Steady b := ⟨rfl, .inl rfl, fun h => ⟨h, rfl⟩⟩

theorem Steady.trans {b b' b'' : Body} (h : b.Steady b') (h' : b'.Steady b'') : b.Steady b'' where
  kind := h'.kind.trans h.kind
  mass := h.mass.trans h'.mass
  settled hsettled := by
    obtain ⟨hbetween, hadditional'⟩ := h'.settled hsettled
    obtain ⟨hbefore, hadditional⟩ := h.settled hbetween
    exact ⟨hbefore, hadditional'.trans hadditional⟩

theorem steady_of_due {b b' : Body} (hkind : b'.kind = b.kind) (hmass : b.mass.Alike b'.mass)
    (hdue : b'.changes.reachMass = true) : b.Steady b' :=
  ⟨hkind, hmass, fun h => absurd (h.symm.trans hdue) Bool.false_ne_true⟩

theorem steady_of_changes {b b' : Body} (h : b'.supplement = b.supplement)
    (hmass : b'.mass = b.mass) (hchanges : b'.changes.reachMass = b.changes.reachMass) :
    b.Steady b' where
  kind := (congrArg Supplement.kind h :)
  mass := .inl hmass
  settled hsettled := ⟨hchanges ▸ hsettled, (congrArg Supplement.mass h :)⟩

theorem lenient_steady : Lenient Steady where
  refl := steady_refl
  trans _ _ _ := Steady.trans
  detach key b := by
    unfold detach
    split
    · exact steady_of_due rfl (.inl rfl) (Bool.or_true _)
    · exact steady_refl b
  rouse b := by
    unfold rouse
    split
    · exact steady_of_changes rfl rfl rfl
    · exact steady_refl b
  requestWake _ := steady_of_changes rfl rfl rfl
  requestMass b := steady_of_due rfl (.inl rfl) rfl

theorem steady_setAdditionalMass (mass : Float32) (b : Body) :
    b.Steady (b.setAdditionalMass mass) := by
  unfold setAdditionalMass
  split
  · exact steady_refl b
  · exact steady_of_due rfl (.inl rfl) rfl

theorem steady_attach (key : Key) (solid : Solid) (b : Body) :
    b.Steady (b.attach key solid .zero) :=
  steady_of_due rfl (MassProperties.alike_add_zero b.mass) (Bool.or_true _)

theorem steady_wakeIf {b b' : Body} (condition : Bool) (h : b.Steady b') :
    b.Steady (b'.wakeIf condition) := by
  cases condition
  · exact h
  · exact h.trans (steady_of_changes rfl rfl rfl)

theorem steady_applyImpulse (impulse : Vec2) (wake : Bool) (b : Body) :
    b.Steady (b.applyImpulse impulse wake) := by
  unfold applyImpulse
  split
  · exact steady_refl b
  · exact steady_wakeIf _ (steady_of_changes rfl rfl rfl)

theorem steady_applyTorqueImpulse (impulse : Float32) (wake : Bool) (b : Body) :
    b.Steady (b.applyTorqueImpulse impulse wake) := by
  unfold applyTorqueImpulse
  split
  · exact steady_refl b
  · exact steady_wakeIf _ (steady_of_changes rfl rfl rfl)

end Body

end Engine

theorem BodyChange.steady_apply (change : BodyChange) (b : Body) : b.Steady (change.apply b) := by
  cases change with
  | pose place angle =>
      change b.Steady (b.setPose _)
      unfold Body.setPose
      split
      · exact Body.steady_refl b
      · exact Body.steady_wakeIf _ (Body.steady_of_changes rfl rfl rfl)
  | linearVelocity v =>
      change b.Steady (b.setLinearVelocity v)
      unfold Body.setLinearVelocity
      split
      · exact Body.steady_refl b
      · exact Body.steady_wakeIf _ (Body.steady_of_changes rfl rfl rfl)
  | angularVelocity v =>
      change b.Steady (b.setAngularVelocity v)
      unfold Body.setAngularVelocity
      split
      · exact Body.steady_refl b
      · exact Body.steady_wakeIf _ (Body.steady_of_changes rfl rfl rfl)
  | impulse j point wake =>
      exact (Body.steady_applyImpulse j wake b).trans (Body.steady_applyTorqueImpulse ..)
  | force f wake =>
      change b.Steady (b.addForce f wake)
      unfold Body.addForce
      split
      · exact Body.steady_refl b
      · exact Body.steady_wakeIf _ (Body.steady_of_changes rfl rfl rfl)
  | linearDamping damping => exact Body.steady_of_changes rfl rfl rfl
  | active active =>
      change b.Steady (b.setEnabled active)
      unfold Body.setEnabled
      split
      · exact Body.steady_refl b
      · split
        · exact Body.steady_of_due rfl (.inl rfl) rfl
        · exact Body.steady_of_changes rfl rfl rfl
  | awake awake =>
      change b.Steady (b.setAwake awake)
      unfold Body.setAwake
      split <;> exact Body.steady_of_changes rfl rfl rfl

theorem WorldChange.steady_onBody (change : WorldChange) (b : Body) :
    b.Steady (change.onBody b) := by
  cases change <;> exact Body.steady_of_changes rfl rfl rfl

namespace Engine

variable {α : Type}

namespace Body

theorem unmoved_changes : Unmoved changes := fun _ _ _ _ _ => rfl

theorem changes_weigh_enroll (attached : MassProperties) (b : Body) :
    (b.enroll.weigh attached).changes = b.changes := by
  unfold weigh
  split <;> rfl

theorem mass_weigh_zero {b : Body} {m : Float32} (hm : b.additionalMass = some m) :
    (b.enroll.weigh .zero).mass =
      if b.changes.reachMass = true then .addMass .zero m else b.mass := by
  have hchanges : b.enroll.changes = b.changes := rfl
  have hadditional : b.enroll.additionalMass = some m := hm
  unfold weigh
  rw [hchanges]
  split
  · rw [hadditional]
  · rfl

end Body

namespace World

/-- Nothing that is attached to the body has a mass. -/
def Massless (w : World) (b : Body) : Prop :=
  ∀ key ∈ b.colliders, ∀ c, w.colliders.get? key = some c → c.mass = .zero

theorem Massless.congr {v w : World} {b b' : Body} (h : w.Massless b)
    (hw : v.enduring = w.enduring) (hb : b'.colliders = b.colliders) : v.Massless b' := by
  intro key hkey c hc
  have hget := congrArg (Arena.get? · key) (congrArg World.colliders hw)
  simp only [enduring, Arena.get?_map, hc, Option.map_some] at hget
  obtain ⟨c', hc', hsame⟩ := Option.map_eq_some_iff.mp hget.symm
  have hmass : c.mass = c'.mass := (congrArg Collider.mass hsame.symm :)
  rw [hmass]
  exact h key (hb ▸ hkey) c' hc'

theorem attachedMass_of_massless {w : World} {b : Body} (h : w.Massless b) :
    w.attachedMass b = .zero := by
  have hsum : ∀ l : List Collider, (∀ c ∈ l, c.mass = .zero) →
      l.foldl (fun mass c => mass.add c.mass) .zero = MassProperties.zero := by
    intro l hl
    induction l with
    | nil => rfl
    | cons c l ih =>
        obtain ⟨hc, hrest⟩ := List.forall_mem_cons.mp hl
        rw [List.foldl_cons, hc]
        exact ih hrest
  apply hsum
  intro c hc
  obtain ⟨key, hkey, hget⟩ := List.mem_filterMap.mp (List.mem_filter.mp hc).1
  exact h key hkey c hget

theorem takeChange_of_massless {w : World} {k : Key} {body : Body}
    (hbody : w.bodies.get? k = some body) (hmassless : w.Massless body) {m : Float32}
    (hm : body.additionalMass = some m) (key : Key) :
    ∃ body', (w.takeChange key).bodies.get? k = some body' ∧ body'.enduring = body.enduring ∧
      body'.changes = body.changes ∧
        body'.mass =
          if k = key ∧ body.changes.reachMass = true then .addMass .zero m else body.mass := by
  unfold takeChange
  split
  · rename_i hnone
    refine ⟨body, hbody, rfl, rfl, (if_neg ?_).symm⟩
    rintro ⟨rfl, -⟩
    cases hnone.symm.trans hbody
  · rename_i found _
    have hstirred : ∀ v : World,
        (if found.changes.reachColliders then found.colliders.foldl stir v else v).bodies =
          v.bodies := by
      intro v
      split
      · exact bodies_foldl bodies_stir _ v
      · rfl
    have hpassed : Massless _ body := hmassless.congr (enduring_follow w key found) rfl
    have hattached := attachedMass_of_massless hpassed
    dsimp only
    rw [hstirred, modifyBody, Arena.get?_modify]
    split
    · rename_i hkey
      refine ⟨body.enroll.weigh .zero, ?_, by simp, Body.changes_weigh_enroll .., ?_⟩
      · rw [hbody, Option.map_some, hattached]
      · rw [Body.mass_weigh_zero hm]
        simp only [hkey, true_and]
    · rename_i hkey
      exact ⟨body, hbody, rfl, rfl, (if_neg fun h => hkey h.1).symm⟩

theorem foldl_takeChange_of_massless (keys : List Key) {w : World} {k : Key} {body : Body}
    (hbody : w.bodies.get? k = some body) (hmassless : w.Massless body) {m : Float32}
    (hm : body.additionalMass = some m) :
    ∃ body', (keys.foldl takeChange w).bodies.get? k = some body' ∧
      body'.mass =
        if k ∈ keys ∧ body.changes.reachMass = true then .addMass .zero m else body.mass := by
  induction keys generalizing w body with
  | nil => exact ⟨body, hbody, by simp⟩
  | cons key keys ih =>
      obtain ⟨between, hbetween, henduring, hchanges, hmass⟩ :=
        takeChange_of_massless hbody hmassless hm key
      have hcolliders : between.colliders = body.colliders :=
        (congrArg Body.colliders henduring :)
      have hadditional : between.additionalMass = body.additionalMass :=
        (congrArg Body.additionalMass henduring :)
      obtain ⟨body', hbody', hmass'⟩ := ih hbetween
        (hmassless.congr (enduring_takeChange w key) hcolliders) (hadditional.trans hm)
      refine ⟨body', hbody', ?_⟩
      rw [hmass', hmass, hchanges]
      by_cases hmem : k ∈ keys <;> cases hdue : body.changes.reachMass <;> simp [hmem]

/-- All bodies that are to be weighed in the next step are among those that may have changed. -/
structure Noted (w : World) : Prop where
  wellFormed : w.bodies.WellFormed
  touched : ∀ key body, w.bodies.get? key = some body → body.changes.reachMass = true →
    key ∈ w.touched

theorem mem_touched_touch {w : World} {key k : Key} :
    k ∈ (w.touch key).touched ↔ k = key ∨ k ∈ w.touched := by
  unfold touch
  split
  · rename_i hkey
    exact ⟨.inr, fun h => h.elim (fun heq => heq ▸ hkey) id⟩
  · simp [or_comm]

theorem noted_create (gravity : Vec2) (settings : WorldSettings) :
    (create gravity settings).Noted := by
  refine ⟨Arena.wellFormed_empty, ?_⟩
  intro key body hbody
  cases (Arena.get?_empty key).symm.trans hbody

namespace Noted

variable {w w' : World}

theorem congr (h : w.Noted) (hbodies : w'.bodies = w.bodies) (htouched : w'.touched = w.touched) :
    w'.Noted := by
  refine ⟨hbodies ▸ h.wellFormed, ?_⟩
  rw [hbodies, htouched]
  exact h.touched

theorem evolve (h : w.Noted) (hwellFormed : w'.bodies.WellFormed)
    (htouched : w'.touched = w.touched)
    (hevolves : Evolves (fun b b' => b'.changes = b.changes) w w') : w'.Noted := by
  refine ⟨hwellFormed, ?_⟩
  intro key body' hbody' hdue
  obtain ⟨body, hbody, hchanges⟩ := hevolves.body key body' hbody'
  rw [htouched]
  exact h.touched key body hbody (hchanges ▸ hdue)

theorem touchAll (h : w.Noted) (f : Key → Body → Body) : (w.mapBodies f).touchAll.Noted := by
  refine ⟨h.wellFormed.map f, ?_⟩
  intro key body hbody _
  exact List.mem_map_of_mem (f := (·.1)) (Arena.mem_toList.mpr hbody)

theorem changeBody (h : w.Noted) (key : Key) (f : Body → Body) : (w.changeBody key f).Noted := by
  refine ⟨bodies_changeBody w key f ▸ h.wellFormed.modify key f, ?_⟩
  intro k body hbody hdue
  rw [bodies_changeBody, Arena.get?_modify] at hbody
  refine mem_touched_touch.mpr ?_
  split at hbody
  · exact .inl ‹_›
  · exact .inr (h.touched k body hbody hdue)

theorem insertBody (h : w.Noted) (kind : BodyKind) (place : Vec2) (tag : Nat) :
    (w.insertBody kind place tag).2.Noted := by
  have hbodies : (w.insertBody kind place tag).2.bodies =
      (w.bodies.insert (.create kind place w.settings.allowSleep w.settings.continuous tag)).2 :=
    bodies_touch ..
  refine ⟨hbodies ▸ h.wellFormed.insert _, ?_⟩
  intro k body hbody hdue
  rw [hbodies, Arena.get?_insert h.wellFormed] at hbody
  refine mem_touched_touch.mpr ?_
  split at hbody
  · exact .inl ‹_›
  · exact .inr (h.touched k body hbody hdue)

theorem stir (h : w.Noted) (key : Key) : (w.stir key).Noted := by
  refine h.congr (bodies_stir w key) ?_
  unfold World.stir
  split <;> rfl

theorem requestWake (h : w.Noted) (keys : List Key) : (w.requestWake keys).Noted := by
  have hbodies : (w.requestWake keys).bodies =
      w.bodies.map fun key body => if key ∈ keys then body.requestWake else body := rfl
  refine h.evolve (hbodies ▸ h.wellFormed.map _) rfl (evolves_map ?_ hbodies)
  intro key body
  split <;> rfl

theorem insertCollider (h : w.Noted) (solid : Solid) (material : Material) (tag : Nat)
    (parent : Key) : (w.insertCollider solid material tag parent).2.Noted := by
  unfold World.insertCollider
  apply changeBody
  apply stir
  exact h.congr rfl rfl

theorem removeCollider (h : w.Noted) (key : Key) : (w.removeCollider key).Noted := by
  unfold World.removeCollider
  split
  · exact h
  · apply changeBody
    exact h.congr rfl rfl

theorem setMaterial (h : w.Noted) (key : Key) (material : Material) :
    (w.setMaterial key material).Noted := by
  unfold World.setMaterial
  split
  · exact h
  · rename_i collider _
    have hstirred : ∀ colliders, ({ w with colliders := colliders }.stir key).Noted := by
      intro colliders
      apply stir
      exact h.congr rfl rfl
    dsimp only
    split
    · exact hstirred _
    · exact (hstirred _).changeBody _ _

theorem insertSpring (h : w.Noted) (spring : Spring) : (w.insertSpring spring).2.Noted := by
  apply requestWake
  exact h.congr rfl rfl

theorem removeSpring (h : w.Noted) (key : Key) : (w.removeSpring key).Noted := by
  unfold World.removeSpring
  split
  · exact h
  · apply requestWake
    exact h.congr rfl rfl

theorem removeBody (h : w.Noted) (key : Key) : (w.removeBody key).Noted := by
  have hsprings : ∀ (keys : List Key) (v : World), v.Noted →
      (keys.foldl World.removeSpring v).Noted := by
    intro keys
    induction keys with
    | nil => exact fun _ hv => hv
    | cons key keys ih => exact fun v hv => ih _ (hv.removeSpring key)
  unfold World.removeBody
  split
  · exact h
  · apply hsprings
    refine h.evolve (h.wellFormed.remove key) rfl ⟨fun k body hbody => ⟨body, ?_, rfl⟩⟩
    rw [Arena.get?_remove] at hbody
    split at hbody
    · cases hbody
    · exact hbody

theorem advance (h : w.Noted) (dt : Float32) (velocityIterations positionIterations : UInt32) :
    (w.advance dt velocityIterations positionIterations).Noted := by
  have hbodies : ((w.advance dt velocityIterations positionIterations).bodies.map
      fun _ b => b.lasting) = w.bodies.map fun _ b => b.lasting :=
    congrArg World.bodies (lasting_advance w dt velocityIterations positionIterations)
  refine ⟨Arena.wellFormed_of_map (hbodies ▸ h.wellFormed.map _), ?_⟩
  intro key body' hbody' hdue
  obtain ⟨body, hbody, hchanges⟩ :=
    (retains_move Body.unmoved_changes w dt velocityIterations positionIterations).body key body'
      hbody'
  -- What has taken effect is forgotten.
  obtain ⟨before, -, rfl⟩ := Option.map_eq_some_iff.mp ((Arena.get?_map ..).symm.trans hbody)
  rw [hchanges] at hdue
  cases hdue

end Noted

theorem invariant_noted : Invariant Noted where
  create := noted_create
  change change w h := by
    cases change with
    | gravity gravity => exact h.congr rfl rfl
    | continuous enabled =>
        exact (h.touchAll fun _ body => { body with continuous := enabled }).congr rfl rfl
    | clearForces => exact h.touchAll fun _ body => body.clearForces
  advance dt velocityIterations positionIterations _ h :=
    h.advance dt velocityIterations positionIterations
  changeBody key f _ h := h.changeBody key f
  insertBody kind place tag _ h := h.insertBody kind place tag
  removeBody key _ h := h.removeBody key
  insertCollider solid material tag parent _ h := h.insertCollider solid material tag parent
  removeCollider key _ h := h.removeCollider key
  setMaterial key material _ h := h.setMaterial key material
  insertSpring spring _ h := h.insertSpring spring
  removeSpring key _ h := h.removeSpring key

/-- In a step a body that nothing with a mass is attached to is given the mass that was set for it,
if it is to be weighed, and keeps the mass it has otherwise. -/
theorem mass_advance {w : World} (hnoted : w.Noted) {key : Key} {body body' : Body} {dt : Float32}
    {velocityIterations positionIterations : UInt32} (hbody : w.bodies.get? key = some body)
    (hbody' : (w.advance dt velocityIterations positionIterations).bodies.get? key = some body')
    (hmassless : w.Massless body) {m : Float32} (hm : body.additionalMass = some m) :
    body'.mass = if body.changes.reachMass = true then .addMass .zero m else body.mass := by
  have hview : Body.Unmoved Body.mass := fun _ _ _ _ _ => rfl
  have hanswered : (w.mapBodies fun _ b => b.answerWake).bodies.get? key =
      some body.answerWake := by
    rw [mapBodies, Arena.get?_map, hbody, Option.map_some]
  have henduring := Body.enduring_answerWake body
  have hchanges : body.answerWake.changes = body.changes :=
    Body.unmoved_changes.answerWake body
  obtain ⟨weighed, hweighed, hmass⟩ := foldl_takeChange_of_massless w.touched hanswered
    (hmassless.congr (enduring_mapBodies w (by simp)) (congrArg Body.colliders henduring :))
    ((congrArg Body.additionalMass henduring :).trans hm)
  -- From then on the step changes no mass.
  have hforgotten : ∀ v : World, Retains Body.mass v v.forgetChanges := fun v =>
    retains_map (f := fun _ b => { b with changes := .nothing }) (fun _ _ => rfl) rfl
  have hprepared : Retains Body.mass w.takeChanges (w.prepare dt) :=
    (retains_rouse hview _ _).trans ((retains_findPairs hview _ dt _).trans (hforgotten _))
  obtain ⟨found, hfound, hsame⟩ :=
    (hprepared.trans (retains_move hview w dt velocityIterations positionIterations)).body key
      body' hbody'
  obtain rfl := Option.some.inj (hweighed.symm.trans hfound)
  rw [hsame, hmass, hchanges, hview.answerWake]
  by_cases hdue : body.changes.reachMass = true
  · rw [if_pos hdue, if_pos ⟨hnoted.touched key body hbody hdue, hdue⟩]
  · rw [if_neg hdue, if_neg fun h => hdue h.2]

end World

end Engine

end RigidWorlds
