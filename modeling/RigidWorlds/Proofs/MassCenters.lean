import RigidWorlds.Proofs.Impulses

/-!
Centers of mass.  The engine keeps the center of mass of a body as it was last computed.  It
computes it again when a fixture is attached to the body, when the body is given another pose and in
steps, but not when the body is created.  So as long as no time passes, the center of mass of a body
is at the origin of the world until one of the former happens, and at the position of the body from
then on.
-/

namespace RigidWorlds

open Engine Binary

theorem Pose.agree_apply_zero {p : Pose} (hplace : p.translation.Finite)
    (hrotation : p.rotation.Finite) : (p.apply .zero).Agree p.translation := by
  obtain ⟨hx, hy⟩ := hrotation.apply_zero Vec2.zero_zero
  exact ⟨agree_zero_add hx hplace.1, agree_zero_add hy hplace.2⟩

/-- Where a body is, and where its center of mass was when it was last computed. -/
@[ext]
structure Anchor where
  pose : Pose
  center : Vec2

namespace Anchor

/-- The center of mass of a new body is at the origin of the world, wherever the body is. -/
def initial (place : Vec2) : Anchor := ⟨.upright place, .zero⟩

/-- The center of mass is where the pose puts the origin of the body. -/
def Centered (a : Anchor) : Prop := a.center = a.pose.apply .zero

/-- Either the center of mass is computed again, in whatever pose, or nothing changes. -/
structure Becomes (again : Bool) (a a' : Anchor) : Prop where
  centered : again = true → a'.Centered
  kept : again = false → a' = a

theorem becomes_of_eq {a a' : Anchor} (h : a' = a) : Becomes false a a' := ⟨nofun, fun _ => h⟩

theorem Centered.becomes {a' : Anchor} (h : a'.Centered) (a : Anchor) : Becomes true a a' :=
  ⟨fun _ => h, nofun⟩

/-- What is computed again in one pose may be kept in another.  But until the center of mass is
computed for the first time, the pose is the initial one, and afterwards it does not matter. -/
theorem Becomes.trans {again : Bool} {a a' a'' : Anchor} (h : Becomes again a a')
    (later : Pose → Bool) (h' : Becomes (later a'.pose) a' a'') :
    Becomes (again || later a.pose) a a'' := by
  cases again with
  | false =>
      obtain rfl := h.kept rfl
      exact h'
  | true =>
      refine Centered.becomes ?_ a
      cases hlater : later a'.pose with
      | false => exact h'.kept hlater ▸ h.centered rfl
      | true => exact h'.centered hlater

end Anchor

namespace Engine.Body

def anchor (b : Body) : Anchor := ⟨b.motion.pose, b.motion.center⟩

theorem oblivious_anchor : Oblivious anchor := fun _ _ _ _ => rfl

theorem anchor_of_motion {b b' : Body} (h : b'.motion = b.motion) : b'.anchor = b.anchor := by
  rw [anchor, h, anchor]

theorem anchor_setAdditionalMass (mass : Float32) (b : Body) :
    (b.setAdditionalMass mass).anchor = b.anchor :=
  anchor_of_motion (motion_setAdditionalMass mass b)

theorem anchor_wakeIf (condition : Bool) (b : Body) : (b.wakeIf condition).anchor = b.anchor :=
  anchor_of_motion (motion_wakeIf condition b)

theorem centered_attach (key : Key) (solid : Solid) (mass : MassProperties) (b : Body) :
    (b.attach key solid mass).anchor.Centered := rfl

end Engine.Body

/-- Whether the change gives a body another pose than it has. -/
def BodyChange.moves (pose : Pose) : BodyChange → Bool
  | .pose place angle => !pose.same ⟨place, .ofAngle angle⟩
  | _ => false

theorem BodyChange.becomes_apply (change : BodyChange) (b : Body) :
    Anchor.Becomes (change.moves b.motion.pose) b.anchor (change.apply b).anchor := by
  cases change with
  | pose place angle =>
      rw [moves, apply, Body.setPose]
      cases hsame : b.motion.pose.same ⟨place, .ofAngle angle⟩ with
      | true => exact Anchor.becomes_of_eq rfl
      | false =>
          refine Anchor.Centered.becomes ?_ b.anchor
          rw [if_neg Bool.false_ne_true, Body.anchor_wakeIf]
          rfl
  | linearVelocity v =>
      refine Anchor.becomes_of_eq ?_
      rw [apply, Body.setLinearVelocity]
      split
      · rfl
      · exact Body.anchor_wakeIf ..
  | angularVelocity v =>
      refine Anchor.becomes_of_eq ?_
      rw [apply, Body.setAngularVelocity]
      split
      · rfl
      · exact Body.anchor_wakeIf ..
  | impulse impulse point wake =>
      obtain ⟨hpose, hcenter⟩ := b.applyImpulseAt_motion impulse point wake
      exact Anchor.becomes_of_eq (Anchor.ext hpose hcenter)
  | force force wake =>
      exact Anchor.becomes_of_eq (Body.anchor_of_motion (b.motion_addForce force wake))
  | linearDamping damping => exact Anchor.becomes_of_eq rfl
  | active active =>
      exact Anchor.becomes_of_eq (Body.anchor_of_motion (b.motion_setEnabled active))
  | awake awake =>
      refine Anchor.becomes_of_eq ?_
      rw [apply, Body.setAwake]
      split <;> rfl

theorem WorldChange.anchor_onBody (change : WorldChange) (b : Body) :
    (change.onBody b).anchor = b.anchor := by
  cases change <;> rfl

namespace Operation

open Registry

/-- Whether the operation makes the engine compute the center of mass of a body in a pose again: it
attaches a fixture to the body, or gives it another pose. -/
def recenters (b : Handle .body) (pose : Pose) : Operation → Bool
  | createFixture _ a _ _ => a = b
  | setBody _ a change => a = b && change.moves pose
  | _ => false

theorem becomes_transact {config : Config} {op : Operation} {r r' : Registry} {outcome : Outcome}
    {b : Handle .body} {rec : BodyRecord} {world' : World} {body' : Body} (hs : r.Sound)
    (hok : op.transact config r = .ok (outcome, r')) (h : r'.Holds b rec world' body') :
    (∃ kind place, op = .createBody rec.world kind place ∧ outcome = .handle b ∧
      body'.anchor = .initial place) ∨
      ∃ world body, r.Holds b rec world body ∧ (op.advances rec.world = false →
        Anchor.Becomes (op.recenters b body.motion.pose) body.anchor body'.anchor) := by
  rcases altersBody_transact Body.oblivious_anchor.lenient Body.anchor_setAdditionalMass hs hok h
    with ⟨kind, place, world, hop, houtcome, -, hanchor⟩ | ⟨world, body, hbefore, halters⟩
  · exact .inl ⟨kind, place, hop, houtcome, hanchor⟩
  · refine .inr ⟨world, body, hbefore, fun hidle => ?_⟩
    have halters := halters hidle
    cases op with
    | setWorld v change =>
        obtain rfl := halters
        refine Anchor.becomes_of_eq ?_
        split
        · exact change.anchor_onBody body
        · rfl
    | setBody v a change =>
        obtain rfl := halters
        by_cases ha : a = b
        · simpa [recenters, ha] using change.becomes_apply body
        · simpa [recenters, ha] using Anchor.becomes_of_eq rfl
    | createFixture v a shape material =>
        obtain ⟨key, solid, hanchor⟩ := halters
        rw [hanchor]
        by_cases ha : a = b
        · simpa [recenters, ha] using (body.centered_attach key solid _).becomes body.anchor
        · simpa [recenters, ha] using Anchor.becomes_of_eq rfl
    | _ => exact Anchor.becomes_of_eq halters

end Operation

def Event.recenters (b : Handle .body) (pose : Pose) (e : Event) : Bool :=
  e.granted.any (·.recenters b pose)

namespace Simulator

variable {config : Config} {s : Simulator} {op : Operation} {b : Handle .body} {rec : BodyRecord}
  {world' : World} {body' : Body}

theorem becomes_perform (hs : s.registry.Sound)
    (h : (op.perform s).2.registry.Holds b rec world' body') :
    (∃ kind place, op = .createBody rec.world kind place ∧ (op.event s).result = .ok (.handle b) ∧
      body'.anchor = .initial place) ∨
      ∃ world body, s.registry.Holds b rec world body ∧ ((op.event s).advances rec.world = false →
        Anchor.Becomes ((op.event s).recenters b body.motion.pose) body.anchor body'.anchor) := by
  unfold Operation.event
  rcases perform_cases hs op with ⟨e, heq⟩ | ⟨outcome, s', heq, hok⟩
  · rw [heq] at h ⊢
    exact .inr ⟨world', body', h, fun _ => Anchor.becomes_of_eq rfl⟩
  · rw [heq] at h ⊢
    rcases Operation.becomes_transact hs hok h with ⟨kind, place, rfl, rfl, hanchor⟩ | hbefore
    · exact .inl ⟨kind, place, rfl, rfl, hanchor⟩
    · exact .inr hbefore

/-- Whether the center of mass of a body in a pose is computed again in a run, apart from steps. -/
def recenters (s : Simulator) (b : Handle .body) (pose : Pose) (ops : List Operation) : Bool :=
  (s.history ops).any (·.recenters b pose)

theorem becomes_performAll {ops : List Operation}
    (h : ((start config).performAll ops).registry.Holds b rec world' body') :
    ∃ before kind place after, ops = before ++ .createBody rec.world kind place :: after ∧
      ((Operation.createBody rec.world kind place).event
        ((start config).performAll before)).result = .ok (.handle b) ∧
      (((start config).performAll (before ++ [.createBody rec.world kind place])).timePasses
          rec.world after = false →
        Anchor.Becomes (((start config).performAll
          (before ++ [.createBody rec.world kind place])).recenters b (.upright place) after)
          (.initial place) body'.anchor) := by
  induction ops using List.reverseRecOn generalizing world' body' with
  | nil => cases h.record
  | append_singleton ops last ih =>
      rw [performAll_concat] at h
      rcases becomes_perform (reachable_performAll config ops).sound h with
        ⟨kind, place, rfl, hresult, hanchor⟩ | ⟨world, body, hbefore, hbecomes⟩
      · exact ⟨ops, kind, place, [], rfl, hresult, fun _ => Anchor.becomes_of_eq hanchor⟩
      · obtain ⟨before, kind, place, after, rfl, hresult, hsofar⟩ := ih hbefore
        refine ⟨before, kind, place, after ++ [last], by simp, hresult, fun hidle => ?_⟩
        simp only [timePasses, history_concat, List.any_append, List.any_cons, List.any_nil,
          Bool.or_false, Bool.or_eq_false_iff] at hidle
        simp only [recenters, history_concat, List.any_append, List.any_cons, List.any_nil,
          Bool.or_false]
        exact (hsofar hidle.1).trans (Event.recenters b · (last.event _)) (hbecomes hidle.2)

/-- In every run, a body that is there was created in some operation, and neither its center of mass
nor its position is refused.  Suppose no time has passed in its world since it was created.  If a
fixture has been attached to it since or another pose was given to it, then its center of mass is at
its position, provided that the pose it has is finite.  Otherwise the body is where it was created,
and its center of mass is at the origin of the world. -/
theorem center_of_idle {ops : List Operation}
    (hrec : ((start config).performAll ops).registry.bodies.get? b = some rec) :
    ∃ before kind place after world body,
      ops = before ++ .createBody rec.world kind place :: after ∧
      ((Operation.createBody rec.world kind place).event
        ((start config).performAll before)).result = .ok (.handle b) ∧
      ((start config).performAll ops).registry.Holds b rec world body ∧
      ((Operation.readBody rec.world b .position).perform ((start config).performAll ops)).1 =
        .ok (.point body.motion.pose.translation) ∧
      ((Operation.readBody rec.world b .worldCenter).perform ((start config).performAll ops)).1 =
        .ok (.point body.motion.center) ∧
      (((start config).performAll (before ++ [.createBody rec.world kind place])).timePasses
          rec.world after = false →
        if ((start config).performAll (before ++ [.createBody rec.world kind place])).recenters b
            (.upright place) after then
          body.motion.pose.translation.Finite → body.motion.pose.rotation.Finite →
            body.motion.center.Agree body.motion.pose.translation
        else body.motion.pose = .upright place ∧ body.motion.center = .zero) := by
  have hs := (reachable_performAll config ops).sound
  obtain ⟨world, body, hholds⟩ := hs.holds hrec
  obtain ⟨before, kind, place, after, hops, hresult, hbecomes⟩ := becomes_performAll hholds
  have hread := perform_readBody hs hholds.home
    (Registry.slice_bodies_eq_some_iff.mpr ⟨hrec, rfl⟩) hholds.item
  refine ⟨before, kind, place, after, world, body, hops, hresult, hholds,
    congrArg Prod.fst (hread .position), congrArg Prod.fst (hread .worldCenter), fun hidle => ?_⟩
  have hanchor := hbecomes hidle
  split
  · rename_i hagain
    intro hplace hrotation
    have hcentered : body.motion.center = body.motion.pose.apply .zero := hanchor.centered hagain
    rw [hcentered]
    exact Pose.agree_apply_zero hplace hrotation
  · rename_i hnever
    have hkept := hanchor.kept (Bool.eq_false_of_not_eq_true hnever)
    exact ⟨congrArg Anchor.pose hkept, congrArg Anchor.center hkept⟩

/-- A fixture is attached to a body that was created off the origin. -/
def fitted : List Operation := [
  .createWorld .zero true,
  .createBody ⟨0⟩ .dynamic ⟨1, 2⟩,
  .createFixture ⟨0⟩ ⟨0⟩ ⟨.box, 2, 1⟩ .initial]

theorem center_fitted :
    ((start .initial).performAll fitted).registry.bodies.get? ⟨0⟩ = some ⟨⟨0⟩, ⟨0, 0⟩⟩ ∧
    ∃ before kind place after world body,
      fitted = before ++ .createBody ⟨0⟩ kind place :: after ∧
      ((Operation.createBody ⟨0⟩ kind place).event
        ((start .initial).performAll before)).result = .ok (.handle (⟨0⟩ : Handle .body)) ∧
      ((start .initial).performAll fitted).registry.Holds ⟨0⟩ ⟨⟨0⟩, ⟨0, 0⟩⟩ world body ∧
      ((Operation.readBody ⟨0⟩ ⟨0⟩ .position).perform ((start .initial).performAll fitted)).1 =
        .ok (.point body.motion.pose.translation) ∧
      ((Operation.readBody ⟨0⟩ ⟨0⟩ .worldCenter).perform
        ((start .initial).performAll fitted)).1 = .ok (.point body.motion.center) ∧
      (((start .initial).performAll (before ++ [.createBody ⟨0⟩ kind place])).timePasses
          ⟨0⟩ after = false →
        if ((start .initial).performAll (before ++ [.createBody ⟨0⟩ kind place])).recenters ⟨0⟩
            (.upright place) after then
          body.motion.pose.translation.Finite → body.motion.pose.rotation.Finite →
            body.motion.center.Agree body.motion.pose.translation
        else body.motion.pose = .upright place ∧ body.motion.center = .zero) := by
  have hrec : ((start .initial).performAll fitted).registry.bodies.get? ⟨0⟩ =
      some ⟨⟨0⟩, ⟨0, 0⟩⟩ := by decide +kernel
  exact ⟨hrec, center_of_idle hrec⟩

/-- A body off the origin, in a world through which no time has passed. -/
def misplaced : Simulator :=
  (start .initial).performAll [.createWorld .zero true, .createBody ⟨0⟩ .dynamic ⟨1, 2⟩]

/-- The body is in a finite pose, but its center of mass is not at its position. -/
theorem misplaced_center :
    misplaced.Reachable ∧ (∀ w, (start .initial).timePasses w
      [.createWorld .zero true, .createBody ⟨0⟩ .dynamic ⟨1, 2⟩] = false) ∧
    ((Operation.readBody ⟨0⟩ ⟨0⟩ .position).perform misplaced).1 = .ok (.point ⟨1, 2⟩) ∧
    ((Operation.readBody ⟨0⟩ ⟨0⟩ .worldCenter).perform misplaced).1 = .ok (.point .zero) ∧
    (∃ world body, misplaced.registry.Holds ⟨0⟩ ⟨⟨0⟩, ⟨0, 0⟩⟩ world body ∧
      body.motion.pose.translation.Finite ∧ body.motion.pose.rotation.Finite) ∧
    ¬ Vec2.zero.Agree ⟨1, 2⟩ := by
  have hapart : ¬ Agree 0 (1 : Float32) := by
    rintro (h | h) <;> revert h <;> decide +kernel
  have hfinite : (⟨1, 2⟩ : Vec2).Finite := by decide +kernel
  exact ⟨reachable_performAll .initial _, fun _ => rfl, rfl, rfl,
    ⟨_, _, ⟨rfl, rfl, rfl⟩, hfinite, Rotation.finite_identity⟩, fun h => hapart h.1⟩

end Simulator

end RigidWorlds
