import RigidWorlds.Proofs.Settings

namespace RigidWorlds

open Engine

namespace Operation

/-- The force that is applied to a body, if one is.  No force is none. -/
def force? (b : Handle .body) : Operation → Option Vec2
  | setBody _ a (.force f _) => if a = b ∧ f.isZero = false then some f else none
  | _ => none

/-- Whether the forces on the bodies of a world are cleared. -/
def clearsForces (config : Config) (w : Handle .world) : Operation → Bool
  | setWorld v .clearForces => v = w
  | step v dt _ _ | stepDefault v dt => config.autoClearForces && (v = w && 0 < dt)
  | _ => false

end Operation

namespace Event

def force? (b : Handle .body) (e : Event) : Option Vec2 := e.granted.bind (·.force? b)

def clearsForces (config : Config) (w : Handle .world) (e : Event) : Bool :=
  e.granted.any (·.clearsForces config w)

end Event

/-- The kind of a body and what acts on it. -/
structure Thrust where
  kind : BodyKind
  force : Vec2
  torque : Float32

namespace Thrust

/-- Only dynamic bodies take forces. -/
def take (l : Thrust) : Option Vec2 → Thrust
  | some f => if l.kind = .dynamic then { l with force := l.force + f } else l
  | none => l

theorem kind_take (l : Thrust) (f : Option Vec2) : (l.take f).kind = l.kind := by
  unfold take
  split
  · split <;> rfl
  · rfl

theorem torque_take (l : Thrust) (f : Option Vec2) : (l.take f).torque = l.torque := by
  unfold take
  split
  · split <;> rfl
  · rfl

theorem force_take (l : Thrust) (f : Option Vec2) :
    (l.take f).force =
      match f with
      | some f => if l.kind = .dynamic then l.force + f else l.force
      | none => l.force := by
  unfold take
  split
  · split <;> rfl
  · rfl

def cleared (l : Thrust) : Thrust := { l with force := .zero, torque := 0 }

theorem foldl_take (b : Handle .body) (t : List Event) (l : Thrust) :
    t.foldl (fun l e => l.take (e.force? b)) l =
      { l with
        force := (if l.kind = .dynamic then t.filterMap (Event.force? b) else []).foldl (· + ·)
          l.force } := by
  induction t generalizing l with
  | nil => simp
  | cons e t ih =>
      rw [List.foldl_cons, ih]
      cases hforce : e.force? b with
      | none => rw [List.filterMap_cons_none hforce, take]
      | some f =>
          rw [List.filterMap_cons_some hforce]
          by_cases hkind : l.kind = .dynamic
          · simp [take, hkind]
          · simp [take, hkind]

end Thrust

namespace Engine.Body

def thrust (b : Body) : Thrust := ⟨b.kind, b.force, b.torque⟩

theorem thrust_wakeIf (condition : Bool) (b : Body) : (b.wakeIf condition).thrust = b.thrust := by
  cases condition <;> rfl

theorem thrust_applyImpulse (impulse : Vec2) (wake : Bool) (b : Body) :
    (b.applyImpulse impulse wake).thrust = b.thrust := by
  unfold applyImpulse
  split
  · rfl
  · exact thrust_wakeIf ..

theorem thrust_applyTorqueImpulse (impulse : Float32) (wake : Bool) (b : Body) :
    (b.applyTorqueImpulse impulse wake).thrust = b.thrust := by
  unfold applyTorqueImpulse
  split
  · rfl
  · exact thrust_wakeIf ..

theorem thrust_addForce (f : Vec2) (wake : Bool) (b : Body) :
    (b.addForce f wake).thrust = b.thrust.take (if f.isZero = false then some f else none) := by
  unfold addForce
  cases hzero : f.isZero with
  | true => rfl
  | false =>
      by_cases hkind : b.kind = .dynamic
      · have hdynamic : b.isDynamic = true := decide_eq_true hkind
        rw [hdynamic]
        exact (thrust_wakeIf ..).trans (if_pos hkind).symm
      · have hdynamic : b.isDynamic = false := decide_eq_false hkind
        rw [hdynamic]
        exact (if_neg hkind).symm

end Engine.Body

theorem BodyChange.thrust_apply (change : BodyChange) (w : Handle .world) (b : Handle .body)
    (body : Body) :
    (change.apply body).thrust = body.thrust.take ((Operation.setBody w b change).force? b) := by
  cases change with
  | pose place angle =>
      change (body.setPose _).thrust = body.thrust
      unfold Body.setPose
      split
      · rfl
      · exact Body.thrust_wakeIf ..
  | linearVelocity v =>
      change (body.setLinearVelocity v).thrust = body.thrust
      unfold Body.setLinearVelocity
      split
      · rfl
      · exact Body.thrust_wakeIf ..
  | angularVelocity v =>
      change (body.setAngularVelocity v).thrust = body.thrust
      unfold Body.setAngularVelocity
      split
      · rfl
      · exact Body.thrust_wakeIf ..
  | impulse impulse point wake =>
      exact (Body.thrust_applyTorqueImpulse ..).trans (Body.thrust_applyImpulse ..)
  | force f wake =>
      have hforce : (Operation.setBody w b (.force f wake)).force? b =
          if f.isZero = false then some f else none := by
        simp [Operation.force?]
      rw [hforce]
      exact Body.thrust_addForce f wake body
  | linearDamping damping => rfl
  | active active =>
      change (body.setEnabled active).thrust = body.thrust
      unfold Body.setEnabled
      split
      · rfl
      · split <;> rfl
  | awake awake =>
      change (body.setAwake awake).thrust = body.thrust
      unfold Body.setAwake
      split <;> rfl

theorem Engine.World.thrust_advance {w : World} {dt : Float32}
    {velocityIterations positionIterations : UInt32} {key : Key} {body body' : Body}
    (hbody : w.bodies.get? key = some body)
    (hbody' : (w.advance dt velocityIterations positionIterations).bodies.get? key = some body') :
    body'.thrust = if w.settings.autoClearForces then body.thrust.cleared else body.thrust := by
  obtain ⟨found, hfound, hsame⟩ :=
    exists_of_enduring_eq (enduring_advance w dt velocityIterations positionIterations).symm hbody'
  have hthrust : found.thrust = body'.thrust := (congrArg Body.thrust hsame :)
  rw [← hthrust]
  split at hfound
  · rename_i hauto
    have hmap : w.clearForces.bodies.get? key = (w.bodies.get? key).map (·.clearForces) :=
      Arena.get?_map ..
    rw [hmap, hbody, Option.map_some] at hfound
    rw [if_pos hauto, ← Option.some.inj hfound]
    rfl
  · rename_i hauto
    rw [if_neg hauto, Option.some.inj (hfound.symm.trans hbody)]

theorem Operation.thrust_of_makes {config : Config} {op : Operation} {b : Handle .body}
    {rec : BodyRecord} {world : World} {body body' : Body}
    (hauto : world.settings.autoClearForces = config.autoClearForces)
    (hbody : world.bodies.get? rec.native = some body)
    (h : op.MakesBody config b rec world body body') :
    body'.thrust =
      if op.clearsForces config rec.world then body.thrust.cleared
      else body.thrust.take (op.force? b) := by
  cases op with
  | setWorld v change =>
      obtain rfl : body' = if v = rec.world then change.onBody body else body := h
      cases change with
      | clearForces =>
          by_cases hv : v = rec.world
          · simp only [clearsForces, hv, if_true, decide_true]
            rfl
          · simp only [clearsForces, hv, if_false, decide_false, Bool.false_eq_true]
            rfl
      | gravity | continuous => split <;> rfl
  | setBody v a change =>
      obtain rfl : body' = if a = b then change.apply body else body := h
      by_cases ha : a = b
      · rw [if_pos ha, ha]
        exact change.thrust_apply v b body
      · rw [if_neg ha]
        have hnone : (setBody v a change).force? b = none := by
          cases change <;> simp [force?, ha]
        rw [hnone]
        rfl
  | step v dt | stepDefault v dt =>
      rw [MakesBody] at h
      rw [clearsForces]
      split at h
      · rename_i hboth
        rw [World.thrust_advance hbody h, hauto]
        simp [hboth.1, hboth.2, force?, Thrust.take]
      · rename_i hnot
        rw [h, if_neg]
        · rfl
        · simpa using fun _ hv => fun hlt => hnot ⟨hv, hlt⟩
  | _ => exact (congrArg Body.thrust h :)

theorem Event.thrust_of_makes {config : Config} {e : Event} {b : Handle .body}
    {rec : BodyRecord} {world : World} {body body' : Body}
    (hauto : world.settings.autoClearForces = config.autoClearForces)
    (hbody : world.bodies.get? rec.native = some body)
    (h : e.MakesBody config b rec world body body') :
    body'.thrust =
      if e.clearsForces config rec.world then body.thrust.cleared
      else body.thrust.take (e.force? b) := by
  unfold MakesBody at h
  unfold clearsForces force?
  cases hgranted : e.granted with
  | none =>
      rw [hgranted] at h
      rw [h]
      rfl
  | some op =>
      rw [hgranted] at h
      exact Operation.thrust_of_makes hauto hbody h

namespace Simulator

variable {s : Simulator}

theorem thrust_perform (hs : s.registry.Sound) {b : Handle .body} {rec rec' : BodyRecord}
    {world world' : World} {body body' : Body} (h : s.registry.Holds b rec world body)
    (hauto : world.settings.autoClearForces = s.config.autoClearForces) (op : Operation)
    (h' : (op.perform s).2.registry.Holds b rec' world' body') :
    body'.thrust =
      if (op.event s).clearsForces s.config rec.world then body.thrust.cleared
      else body.thrust.take ((op.event s).force? b) := by
  rcases body_perform hs h' with ⟨_, _, _, rfl, hnew, -⟩ | ⟨found, body₀, hbefore, hmakes⟩
  · exact absurd ⟨rfl, hnew⟩ (Operation.not_bears hs h.record _ (.body rec'.world))
  · obtain ⟨rfl, rfl, rfl⟩ := h.unique hbefore
    exact Event.thrust_of_makes hauto h.item hmakes

theorem autoClear_performAll (config : Config) (ops : List Operation) {w : Handle .world}
    {world : World} (hw : ((start config).performAll ops).registry.worlds.get? w = some world) :
    world.settings.autoClearForces = config.autoClearForces := by
  obtain ⟨_, _, _, _, -, ⟨_, _, -, -, rfl⟩, -, htold⟩ := settings_performAll config ops hw
  rw [htold, WorldSettings.foldl_overwrite]
  rfl

theorem thrust_performAll (config : Config) (ops : List Operation) {b : Handle .body}
    {rec : BodyRecord} {world : World} {body : Body}
    (h : ((start config).performAll ops).registry.Holds b rec world body) :
    ToldSince
      (fun e l => (e.Bears b (.body rec.world) ∨ e.clearsForces config rec.world = true) ∧
        l.force = .zero ∧ l.torque = 0)
      (fun l e => l.take (e.force? b)) ((start config).history ops) body.thrust := by
  have hstart : ∀ l, ¬ ∃ other world body, (start config).registry.Holds b other world body ∧
      other.world = rec.world ∧ world.settings.autoClearForces = config.autoClearForces ∧
        body.thrust = l := by
    rintro l ⟨other, world, body, ⟨hother, -, -⟩, -⟩
    cases hother
  refine told_of_start
    (fun s l => ∃ other world body, s.registry.Holds b other world body ∧
      other.world = rec.world ∧ world.settings.autoClearForces = config.autoClearForces ∧
        body.thrust = l)
    ?_ hstart ops ⟨rec, world, body, h, rfl, autoClear_performAll config ops h.home, rfl⟩
  rintro s op l hs rfl ⟨other, world', body', hholds', hhome, hauto', rfl⟩
  rw [← hhome]
  rcases body_perform hs hholds' with ⟨kind, _, _, rfl, hnew, -, hcore⟩ | ⟨world, body, hholds, -⟩
  · have hcreated : body'.thrust = ⟨kind, .zero, 0⟩ := (congrArg Body.thrust hcore :)
    rw [hcreated]
    exact .inl ⟨.inl ⟨rfl, hnew⟩, rfl, rfl⟩
  · -- The world keeps what its settings say about forces.
    have hauto : world.settings.autoClearForces = s.config.autoClearForces := by
      rcases world_perform hs hholds'.home with ⟨_, _, rfl, hnew, -⟩ | ⟨found, hfound, hmakes⟩
      · exact absurd ⟨rfl, hnew⟩ (Operation.not_bears hs hholds.home _ .world)
      · obtain rfl := Option.some.inj (hfound.symm.trans hholds.home)
        rwa [hmakes.settings, WorldSettings.autoClearForces_overwrite] at hauto'
    have hthrust := thrust_perform hs hholds hauto op hholds'
    cases hclears : (op.event s).clearsForces s.config other.world with
    | true =>
        rw [hthrust, if_pos hclears]
        exact .inl ⟨.inr rfl, rfl, rfl⟩
    | false =>
        rw [if_neg (Bool.eq_false_iff.mp hclears)] at hthrust
        refine .inr ⟨?_, body.thrust, ⟨other, world, body, hholds, rfl, hauto, rfl⟩, hthrust⟩
        rintro l ⟨hbears | hcleared, -⟩
        · exact Operation.not_bears hs hholds.record op _ hbears
        · cases hcleared

end Simulator

/-- What is known of the forces on the bodies in a simulator with a history. -/
structure ForcesTold (config : Config) (s : Simulator) (t : List Event) : Prop where
  told : ∀ {b rec}, s.registry.bodies.get? b = some rec → ∃ world body,
    s.registry.Holds b rec world body ∧ body.torque = 0 ∧
      ∃ before e after, t = before ++ e :: after ∧
        (e.Bears b (.body rec.world) ∨ e.clearsForces config rec.world = true) ∧
        (∀ e' ∈ after,
          ¬ e'.Bears b (.body rec.world) ∧ e'.clearsForces config rec.world = false) ∧
        body.force =
          (if body.kind = .dynamic then after.filterMap (Event.force? b) else []).foldl (· + ·)
            .zero
  next : ∀ {b rec world body op world' body'}, s.registry.Holds b rec world body →
    (Operation.perform op s).2.registry.Holds b rec world' body' →
      body'.torque = 0 ∧ body'.kind = body.kind ∧
        body'.force =
          if (op.event s).clearsForces config rec.world then .zero
          else
            match (op.event s).force? b with
            | some f => if body.kind = .dynamic then body.force + f else body.force
            | none => body.force
  acts : ∀ {w world key body} (dt : Float32), s.registry.worlds.get? w = some world →
    world.bodies.get? key = some body → ∃ rested,
      ((world.prepare dt).updateRest dt).bodies.get? key = some rested ∧
        rested.force = body.force

/-- In every simulator that a run leads to, the force on a body is the sum, in their order, of the
forces that were applied to it while it was dynamic since it was created or, if that was later, the
forces in its world were cleared; there is no torque on it.  No operation changes the force on a
body but by adding to it or clearing it, and every step starts with the force that is there. -/
theorem forcesTold_performAll (config : Config) (ops : List Operation) :
    ForcesTold config ((Simulator.start config).performAll ops)
      ((Simulator.start config).history ops) := by
  have hstart := Simulator.sound_start config
  have hs := Simulator.sound_performAll hstart ops
  have htorque : ∀ {b rec world body},
      ((Simulator.start config).performAll ops).registry.Holds b rec world body →
        body.torque = 0 := by
    intro b rec world body hholds
    obtain ⟨_, _, _, l, -, ⟨-, -, htorque⟩, -, htold⟩ :=
      Simulator.thrust_performAll config ops hholds
    rw [Thrust.foldl_take] at htold
    exact (congrArg Thrust.torque htold).trans htorque
  refine ⟨?_, ?_, ?_⟩
  · intro b rec hrec
    obtain ⟨world, body, hholds⟩ := hs.holds hrec
    obtain ⟨before, e, after, l, hsplit, ⟨hopens, hforce, -⟩, hlast, htold⟩ :=
      Simulator.thrust_performAll config ops hholds
    rw [Thrust.foldl_take, hforce] at htold
    have hkind : body.kind = l.kind := (congrArg Thrust.kind htold :)
    refine ⟨world, body, hholds, htorque hholds, before, e, after, hsplit, hopens, ?_, ?_⟩
    · intro e' he'
      have hnot := hlast e' he' ⟨l.kind, .zero, 0⟩
      refine ⟨fun hbears => hnot ⟨.inl hbears, rfl, rfl⟩, Bool.eq_false_iff.mpr fun hclears => ?_⟩
      exact hnot ⟨.inr hclears, rfl, rfl⟩
    · rw [hkind]
      exact (congrArg Thrust.force htold :)
  · intro b rec world body op world' body' hholds hholds'
    have hconfig : ((Simulator.start config).performAll ops).config = config :=
      Simulator.config_performAll hstart ops
    have hauto := Simulator.autoClear_performAll config ops hholds.home
    have hthrust := Simulator.thrust_perform hs hholds (hauto.trans (by rw [hconfig])) op hholds'
    rw [hconfig] at hthrust
    split at hthrust
    · rename_i hclears
      rw [if_pos hclears]
      exact ⟨(congrArg Thrust.torque hthrust :), (congrArg Thrust.kind hthrust :),
        (congrArg Thrust.force hthrust :)⟩
    · rename_i hclears
      rw [if_neg hclears]
      refine ⟨?_, ?_, ?_⟩
      · exact ((congrArg Thrust.torque hthrust).trans (Thrust.torque_take ..)).trans
          (htorque hholds)
      · exact (congrArg Thrust.kind hthrust).trans (Thrust.kind_take ..)
      · exact (congrArg Thrust.force hthrust).trans (Thrust.force_take ..)
  · intro w world key body dt hw hbody
    have hrested : ((world.prepare dt).updateRest dt).enduring = world.enduring := by
      rw [World.enduring_updateRest, World.enduring_prepare]
    obtain ⟨rested, hget, hsame⟩ := World.exists_of_enduring_eq hrested hbody
    exact ⟨rested, hget, (congrArg Body.force hsame :)⟩

/-- Two forces add up; that no time passes does not clear them, and a static body takes none. -/
example :
    let s := (Simulator.start .initial).performAll [
      .createWorld ⟨0, -10⟩ true,
      .createBody ⟨0⟩ .dynamic ⟨0, 0⟩,
      .createBody ⟨0⟩ .static ⟨5, 0⟩,
      .setBody ⟨0⟩ ⟨0⟩ (.force ⟨1, 0⟩ true),
      .setBody ⟨0⟩ ⟨1⟩ (.force ⟨1, 0⟩ true),
      .stepDefault ⟨0⟩ 0,
      .setBody ⟨0⟩ ⟨0⟩ (.force ⟨2, 0.5⟩ true)]
    (s.registry.worlds.get? ⟨0⟩).map (·.bodies.toList.map (·.2.force)) =
      some [⟨3, 0.5⟩, ⟨0, 0⟩] := by
  decide +kernel

end RigidWorlds
