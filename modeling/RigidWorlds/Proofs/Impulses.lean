import RigidWorlds.Proofs.FiniteMotion
import RigidWorlds.Proofs.LightBodies

namespace RigidWorlds

open Engine Binary

namespace Binary

variable {x y z : Float32}

theorem agree_add_zero (hz : IsZero z) (x : Float32) : Agree (x + z) x := by
  rcases add_zero_cases hz x with heq | ⟨hx, hsum⟩
  · exact .inl heq
  · exact .inr (hsum.beq hx)

theorem add_zero_agree (hz : IsZero z) (x : Float32) : Agree x (x + z) := by
  rcases add_zero_cases hz x with heq | ⟨hx, hsum⟩
  · exact .inl heq.symm
  · exact .inr (hx.beq hsum)

theorem agree_zero_add (hz : IsZero z) (hx : x.isFinite = true) : Agree (z + x) x := by
  rcases zero_add_cases hz hx with heq | ⟨hx, hsum⟩
  · exact .inl heq
  · exact .inr (hsum.beq hx)

theorem agree_add_add (hy : IsZero y) (hz : IsZero z) (x : Float32) : Agree (x + y) (x + z) := by
  rcases add_zero_cases hz x with heq | ⟨hx, hsum⟩
  · rw [heq]
    exact agree_add_zero hy x
  · exact .inr ((isZero_add_zero hx hy).beq hsum)

end Binary

namespace Vec2

variable {v J : Vec2}

theorem zero_of_isZero (h : J.isZero = true) : J.Zero := by
  obtain ⟨hx, hy⟩ := Bool.and_eq_true_iff.mp h
  exact ⟨isZero_of_beq hx, isZero_of_beq hy⟩

theorem Finite.scale_one (h : J.Finite) : J.scale 1 = J :=
  Vec2.ext (mul_one_single h.1) (mul_one_single h.2)

theorem Finite.scale_zero (h : J.Finite) {z : Float32} (hz : IsZero z) : (J.scale z).Zero :=
  ⟨isZero_mul_zero h.1 hz, isZero_mul_zero h.2 hz⟩

/-- The velocity that a body has after an impulse if it has an inverse mass. -/
def pushed (v J : Vec2) (inverseMass : Float32) : Vec2 :=
  if J.isZero then v else v + J.scale inverseMass

theorem agree_pushed_one (h : J.Finite) (v : Vec2) : (v.pushed J 1).Agree (v + J) := by
  unfold pushed
  split
  · rename_i hzero
    have hJ := zero_of_isZero hzero
    exact ⟨add_zero_agree hJ.1 v.x, add_zero_agree hJ.2 v.y⟩
  · rw [h.scale_one]
    exact agree_refl _

theorem agree_pushed_zero (h : J.Finite) (v : Vec2) : (v.pushed J 0).Agree v := by
  unfold pushed
  split
  · exact agree_refl v
  · have hJ := h.scale_zero isZero_zero
    exact ⟨agree_add_zero hJ.1 v.x, agree_add_zero hJ.2 v.y⟩

theorem agree_pushed_of_alike (h : J.Finite) (v : Vec2) {m n : MassProperties} (hmn : m.Alike n) :
    (v.pushed J n.inverseMass).Agree (v.pushed J m.inverseMass) := by
  rcases hmn with rfl | ⟨hm, rfl⟩
  · exact agree_refl _
  · unfold pushed
    split
    · exact agree_refl v
    · have hinverse : IsZero m.inverseMass := isZero_of_beq (Bool.and_eq_true_iff.mp hm).1
      have hbefore := h.scale_zero hinverse
      have hnow := h.scale_zero (z := MassProperties.zero.inverseMass) isZero_zero
      exact ⟨agree_add_add hnow.1 hbefore.1 v.x, agree_add_add hnow.2 hbefore.2 v.y⟩

end Vec2

theorem Engine.Body.linearVelocity_applyImpulseAt {b : Body} (hkind : b.kind = .dynamic)
    (J point : Vec2) (wake : Bool) :
    (b.applyImpulseAt J point wake).motion.linearVelocity =
      b.motion.linearVelocity.pushed J b.mass.inverseMass := by
  have hturned : ∀ (c : Body) (impulse : Float32),
      (c.applyTorqueImpulse impulse wake).motion.linearVelocity = c.motion.linearVelocity := by
    intro c impulse
    unfold applyTorqueImpulse
    split
    · rfl
    · exact congrArg Owned.linearVelocity (owned_wakeIf wake _)
  have hdynamic : b.isDynamic = true := decide_eq_true hkind
  rw [applyImpulseAt, hturned, applyImpulse, Vec2.pushed, hdynamic, Bool.not_true, Bool.or_false]
  split
  · rfl
  · exact congrArg Owned.linearVelocity (owned_wakeIf wake _)

namespace Simulator

variable {config : Config} {s : Simulator} {w : Handle .world} {b : Handle .body}

/-- An impulse is applied to a body, and its velocity is read before and after that. -/
structure Pushes (s : Simulator) (w : Handle .world) (b : Handle .body) (J point : Vec2)
    (wake : Bool) (v v' : Vec2) : Prop where
  before : ((Operation.readBody w b .linearVelocity).perform s).1 = .ok (.point v)
  done : ((Operation.setBody w b (.impulse J point wake)).perform s).1 = .ok .done
  after : ((Operation.readBody w b .linearVelocity).perform
    ((Operation.setBody w b (.impulse J point wake)).perform s).2).1 = .ok (.point v')

theorem pushes_of_holds (hs : s.registry.Sound) {rec : BodyRecord} {world : World} {body : Body}
    (h : s.registry.Holds b rec world body) (hkind : body.kind = .dynamic) (J point : Vec2)
    (wake : Bool) :
    s.Pushes rec.world b J point wake body.motion.linearVelocity
      (body.motion.linearVelocity.pushed J body.mass.inverseMass) := by
  have hslice : (s.registry.slice rec.world).bodies b = some rec :=
    Registry.slice_bodies_eq_some_iff.mpr ⟨h.record, rfl⟩
  obtain ⟨_, _, hlocate⟩ := hs.locateBody hslice
  have hperform : (Operation.setBody rec.world b (.impulse J point wake)).perform s =
      (.ok .done, { s with
        registry := s.registry.modifyWorld rec.world fun world =>
          world.changeBody rec.native (BodyChange.impulse J point wake).apply }) := by
    simp only [Operation.perform_eq hs, Operation.transact, Transaction.map, Registry.changeBody,
      hlocate, ok_bind, pure, Except.pure]
  have hsound := Operation.sound_perform hs (.setBody rec.world b (.impulse J point wake))
  rw [hperform] at hsound
  refine ⟨?_, ?_, ?_⟩
  · rw [perform_readBody hs h.home hslice h.item]
    rfl
  · rw [hperform]
  · have hrec : (s.registry.modifyWorld rec.world fun world =>
        world.changeBody rec.native (BodyChange.impulse J point wake).apply).bodies.get? b =
        some rec := h.record
    obtain ⟨world', body', h'⟩ := hsound.holds hrec
    obtain ⟨found, before, hbefore, rfl⟩ := Registry.holds_modifyBody hs hslice
      (fun world _ => World.bodies_changeBody world rec.native _) h'
    obtain ⟨-, rfl, rfl⟩ := h.unique hbefore
    rw [hperform, perform_readBody hsound h'.home
      (Registry.slice_bodies_eq_some_iff.mpr ⟨h'.record, rfl⟩) h'.item, if_pos rfl]
    exact congrArg (Except.ok ∘ Outcome.point)
      (Body.linearVelocity_applyImpulseAt hkind J point wake)

/-- Whether time passes in a world during a run. -/
def timePasses (s : Simulator) (w : Handle .world) (ops : List Operation) : Bool :=
  (s.history ops).any (·.advances w)

/-- In a run that leaves a body light, some operation made it light for good.  After the run no
impulse on the body is refused.  If time has passed in the world of the body since that operation,
then the velocity changes by the impulse.  Otherwise it changes by what the impulse is for the mass
that the body had before the operation, and not at all if the operation created the body. -/
theorem pushed_of_light {ops : List Operation} {rec : BodyRecord}
    (hrec : ((start config).performAll ops).registry.bodies.get? b = some rec)
    (hlight : ((start config).performAll ops).registry.Light b) {J : Vec2} (hJ : J.Finite)
    (point : Vec2) (wake : Bool) :
    ∃ before op after v v', ops = before ++ op :: after ∧ LightSince config b before op after ∧
      ((start config).performAll ops).Pushes rec.world b J point wake v v' ∧
      if ((start config).performAll (before ++ [op])).timePasses rec.world after then
        v'.Agree (v + J)
      else match ((start config).performAll before).registry.mass? b with
        | some m => v'.Agree (v.pushed J m.inverseMass)
        | none => v'.Agree v := by
  obtain ⟨before, op, after, rfl, hsince⟩ := exists_lightSince hlight
  obtain ⟨found, world, body, hholds, hkind, -⟩ := hlight
  obtain rfl := Option.some.inj (hrec.symm.trans hholds.record)
  obtain ⟨hweighs, hkeeps⟩ := weighs_of_lightSince hsince hholds
  have hpushes := pushes_of_holds (reachable_performAll config _).sound hholds hkind J point wake
  refine ⟨before, op, after, _, _, rfl, hsince, hpushes, ?_⟩
  split
  · rename_i hpasses
    rw [hweighs (List.any_eq_true.mp hpasses)]
    exact Vec2.agree_pushed_one hJ _
  · rename_i hidle
    have hkept := hkeeps (by simpa [timePasses] using hidle)
    cases hmass : ((start config).performAll before).registry.mass? b with
    | some m =>
        rw [hmass] at hkept
        exact Vec2.agree_pushed_of_alike hJ _ hkept
    | none =>
        rw [hmass] at hkept
        have hzero : body.mass = .zero := by rcases hkept with heq | ⟨-, heq⟩ <;> exact heq
        rw [hzero]
        exact Vec2.agree_pushed_zero hJ _

/-- A dense fixture is attached to a body, weighed in a step and detached again. -/
def unloaded : List Operation := [
  .createWorld .zero true,
  .createBody ⟨0⟩ .dynamic .zero,
  .createFixture ⟨0⟩ ⟨0⟩ ⟨.box, 2, 1⟩ { Material.initial with density := 2 },
  .step ⟨0⟩ 1 8 3,
  .deleteFixture ⟨0⟩ ⟨0⟩]

theorem light_unloaded : ((start .initial).performAll unloaded).registry.Light ⟨0⟩ := by
  rw [(reachable_performAll .initial unloaded).sound.light_iff]
  decide +kernel

theorem pushed_unloaded :
    (((start .initial).performAll unloaded).registry.bodies.get? ⟨0⟩ = some ⟨⟨0⟩, ⟨0, 0⟩⟩ ∧
      ((start .initial).performAll unloaded).registry.Light ⟨0⟩ ∧ (⟨1, 0⟩ : Vec2).Finite) ∧
    ∃ before op after v v', unloaded = before ++ op :: after ∧
      LightSince .initial ⟨0⟩ before op after ∧
      ((start .initial).performAll unloaded).Pushes ⟨0⟩ ⟨0⟩ ⟨1, 0⟩ .zero true v v' ∧
      if ((start .initial).performAll (before ++ [op])).timePasses ⟨0⟩ after then
        v'.Agree (v + ⟨1, 0⟩)
      else match ((start .initial).performAll before).registry.mass? ⟨0⟩ with
        | some m => v'.Agree (v.pushed ⟨1, 0⟩ m.inverseMass)
        | none => v'.Agree v := by
  have hrec : ((start .initial).performAll unloaded).registry.bodies.get? ⟨0⟩ =
      some ⟨⟨0⟩, ⟨0, 0⟩⟩ := by decide +kernel
  have hfinite : (⟨1, 0⟩ : Vec2).Finite := by decide +kernel
  exact ⟨⟨hrec, light_unloaded, hfinite⟩,
    pushed_of_light hrec light_unloaded hfinite .zero true⟩

/-- The body has the mass of the fixture that it no longer has. -/
example : (((start .initial).performAll unloaded).registry.mass? ⟨0⟩).map (·.inverseMass) =
    some 0.25 := by
  decide +kernel

/-- A dynamic body in a world through which no time has passed. -/
def newborn : Simulator :=
  (start .initial).performAll [.createWorld .zero true, .createBody ⟨0⟩ .dynamic .zero]

/-- The body is light and active, but an impulse on its center of mass does not move it. -/
theorem newborn_unmoved :
    newborn.Reachable ∧ newborn.registry.Light ⟨0⟩ ∧
    ((Operation.readBody ⟨0⟩ ⟨0⟩ .active).perform newborn).1 = .ok (.flag true) ∧
    ((Operation.readBody ⟨0⟩ ⟨0⟩ .worldCenter).perform newborn).1 = .ok (.point .zero) ∧
    newborn.Pushes ⟨0⟩ ⟨0⟩ ⟨1, 0⟩ .zero true .zero .zero ∧
    (⟨1, 0⟩ : Vec2).Finite ∧ ¬ Vec2.zero.Agree (.zero + ⟨1, 0⟩) := by
  have hreachable : newborn.Reachable := reachable_performAll .initial _
  have hlight : newborn.registry.Light ⟨0⟩ := by
    rw [hreachable.sound.light_iff]
    decide +kernel
  have hmoved : ¬ Agree 0 ((0 : Float32) + 1) := by
    rintro (h | h) <;> revert h <;> decide +kernel
  exact ⟨hreachable, hlight, rfl, rfl, ⟨rfl, rfl, rfl⟩, by decide +kernel, fun h => hmoved h.1⟩

end Simulator

end RigidWorlds
