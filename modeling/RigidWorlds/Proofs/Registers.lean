import RigidWorlds.Proofs.Attributes

namespace RigidWorlds

open Engine

/-- The same number, where the two zeros count as one. -/
def Agree (x y : Float32) : Prop := x = y ∨ (x == y) = true

namespace Vec2

def Agree (a b : Vec2) : Prop := RigidWorlds.Agree a.x b.x ∧ RigidWorlds.Agree a.y b.y

theorem agree_refl (a : Vec2) : a.Agree a := ⟨.inl rfl, .inl rfl⟩

theorem agree_of_same {a b : Vec2} (h : a.same b = true) : a.Agree b := by
  obtain ⟨hx, hy⟩ := Bool.and_eq_true_iff.mp h
  exact ⟨.inr hx, .inr hy⟩

end Vec2

/-- What the owner of a body writes to. -/
structure Engine.Owned where
  pose : Pose
  linearVelocity : Vec2
  angularVelocity : Float32
  linearDamping : Float32
  enabled : Bool

def Engine.Body.owned (b : Body) : Owned where
  pose := b.motion.pose
  linearVelocity := b.motion.linearVelocity
  angularVelocity := b.motion.angularVelocity
  linearDamping := b.linearDamping
  enabled := b.enabled

theorem Engine.Body.owned_wakeIf (condition : Bool) (b : Body) :
    (b.wakeIf condition).owned = b.owned := by
  cases condition <;> rfl

namespace BodyChange

/-- Takes from one what a change writes to, and the rest from the other.  A body that is put to
sleep is stopped. -/
def overwrite (o' o : Owned) : BodyChange → Owned
  | pose .. => { o with pose := o'.pose }
  | linearVelocity _ => { o with linearVelocity := o'.linearVelocity }
  | angularVelocity _ => { o with angularVelocity := o'.angularVelocity }
  | impulse .. =>
      { o with linearVelocity := o'.linearVelocity, angularVelocity := o'.angularVelocity }
  | force .. => o
  | linearDamping damping => { o with linearDamping := damping }
  | .active enabled => { o with enabled := enabled }
  | awake true => o
  | awake false => { o with linearVelocity := .zero, angularVelocity := 0 }

/-- What was to be written to a body of a kind is what is there. -/
def Written (kind : BodyKind) (o' : Owned) : BodyChange → Prop
  | pose place _ => o'.pose.translation.Agree place
  | linearVelocity v => kind ≠ .static → o'.linearVelocity.Agree v
  | angularVelocity v => kind ≠ .static → Agree o'.angularVelocity v
  | _ => True

/-- What a change makes of what the owner of a body writes to. -/
structure Makes (change : BodyChange) (kind : BodyKind) (o o' : Owned) : Prop where
  rest : change.overwrite o' o = o'
  written : change.Written kind o'

theorem makes_pose (place : Vec2) (angle : Float32) (b : Body) :
    (pose place angle).Makes b.kind b.owned ((pose place angle).apply b).owned := by
  show Makes _ _ _ (b.setPose ⟨place, .ofAngle angle⟩).owned
  unfold Body.setPose
  split
  · rename_i hsame
    obtain ⟨hplace, -⟩ := Bool.and_eq_true_iff.mp hsame
    exact ⟨rfl, Vec2.agree_of_same hplace⟩
  · rw [Body.owned_wakeIf]
    exact ⟨rfl, Vec2.agree_refl place⟩

theorem makes_linearVelocity (v : Vec2) (b : Body) :
    (linearVelocity v).Makes b.kind b.owned ((linearVelocity v).apply b).owned := by
  show Makes _ _ _ (b.setLinearVelocity v).owned
  unfold Body.setLinearVelocity
  split
  · rename_i hskip
    refine ⟨rfl, fun hkind => ?_⟩
    rcases Bool.or_eq_true_iff.mp hskip with hsame | hstatic
    · exact Vec2.agree_of_same hsame
    · exact absurd (of_decide_eq_true hstatic) hkind
  · rw [Body.owned_wakeIf]
    exact ⟨rfl, fun _ => Vec2.agree_refl v⟩

theorem makes_angularVelocity (v : Float32) (b : Body) :
    (angularVelocity v).Makes b.kind b.owned ((angularVelocity v).apply b).owned := by
  show Makes _ _ _ (b.setAngularVelocity v).owned
  unfold Body.setAngularVelocity
  split
  · rename_i hskip
    refine ⟨rfl, fun hkind => ?_⟩
    rcases Bool.or_eq_true_iff.mp hskip with hsame | hstatic
    · exact .inr hsame
    · exact absurd (of_decide_eq_true hstatic) hkind
  · rw [Body.owned_wakeIf]
    exact ⟨rfl, fun _ => .inl rfl⟩

theorem makes_impulse (j point : Vec2) (wake : Bool) (b : Body) :
    (impulse j point wake).Makes b.kind b.owned ((impulse j point wake).apply b).owned := by
  have hlinear : ∃ u, (b.applyImpulse j wake).owned = { b.owned with linearVelocity := u } := by
    unfold Body.applyImpulse
    split
    · exact ⟨_, rfl⟩
    · exact ⟨_, Body.owned_wakeIf ..⟩
  have hangular : ∀ (turning : Float32) (b : Body), ∃ v,
      (b.applyTorqueImpulse turning wake).owned = { b.owned with angularVelocity := v } := by
    intro turning b
    unfold Body.applyTorqueImpulse
    split
    · exact ⟨_, rfl⟩
    · exact ⟨_, Body.owned_wakeIf ..⟩
  obtain ⟨u, hu⟩ := hlinear
  obtain ⟨v, hv⟩ := hangular ((point - b.motion.center).cross j) (b.applyImpulse j wake)
  have howned : ((impulse j point wake).apply b).owned =
      { b.owned with linearVelocity := u, angularVelocity := v } := by
    rw [hu] at hv
    exact hv
  rw [howned]
  exact ⟨rfl, trivial⟩

theorem makes_apply (change : BodyChange) (b : Body) :
    change.Makes b.kind b.owned (change.apply b).owned := by
  cases change with
  | pose place angle => exact makes_pose place angle b
  | linearVelocity v => exact makes_linearVelocity v b
  | angularVelocity v => exact makes_angularVelocity v b
  | impulse j point wake => exact makes_impulse j point wake b
  | force f wake =>
      show Makes _ _ _ (b.addForce f wake).owned
      unfold Body.addForce
      split
      · exact ⟨rfl, trivial⟩
      · rw [Body.owned_wakeIf]
        exact ⟨rfl, trivial⟩
  | linearDamping damping => exact ⟨rfl, trivial⟩
  | active enabled =>
      show Makes _ _ _ (b.setEnabled enabled).owned
      unfold Body.setEnabled
      split
      · rename_i hsame
        exact ⟨by rw [← hsame]; rfl, trivial⟩
      · cases enabled <;> exact ⟨rfl, trivial⟩
  | awake awake => cases awake <;> exact ⟨rfl, trivial⟩

end BodyChange

/-- What is done to an attribute: nothing, a value is written to it, or it changes in some other
way. -/
inductive Effect (α : Type) where
  | keeps
  | sets (x : α)
  | alters

/-- What is known of a value after an effect, if anything is. -/
def Effect.follow {α : Type} (known : Option α) : Effect α → Option α
  | keeps => known
  | sets x => some x
  | alters => none

/-- An attribute of a body that its owner writes to. -/
structure Register (α : Type) where
  get : Engine.Owned → α
  /-- Equality of values, as far as it is kept. -/
  agree : α → α → Prop
  effect : BodyChange → Effect α

namespace Register

def position : Register Vec2 where
  get o := o.pose.translation
  agree := Vec2.Agree
  effect
    | .pose place _ => .sets place
    | _ => .keeps

def linearVelocity : Register Vec2 where
  get := Engine.Owned.linearVelocity
  agree := Vec2.Agree
  effect
    | .linearVelocity v => .sets v
    | .impulse .. => .alters
    | .awake false => .sets .zero
    | _ => .keeps

def angularVelocity : Register Float32 where
  get := Engine.Owned.angularVelocity
  agree := Agree
  effect
    | .angularVelocity v => .sets v
    | .impulse .. => .alters
    | .awake false => .sets 0
    | _ => .keeps

def linearDamping : Register Float32 where
  get := Engine.Owned.linearDamping
  agree := (· = ·)
  effect
    | .linearDamping damping => .sets damping
    | _ => .keeps

def active : Register Bool where
  get := Engine.Owned.enabled
  agree := (· = ·)
  effect
    | .active active => .sets active
    | _ => .keeps

variable {α : Type}

/-- An effect makes one value of the other. -/
def Follows (r : Register α) (x x' : α) : Effect α → Prop
  | .keeps => x' = x
  | .sets v => r.agree x' v
  | .alters => True

/-- The value is what is known of it. -/
def Knows (r : Register α) (x : α) (known : Option α) : Prop := ∀ v, known = some v → r.agree x v

theorem Knows.follow {r : Register α} {x x' : α} {known : Option α} {effect : Effect α}
    (hknows : r.Knows x known) (hfollows : r.Follows x x' effect) :
    r.Knows x' (effect.follow known) := by
  cases effect with
  | keeps =>
      obtain rfl : x' = x := hfollows
      exact hknows
  | sets v =>
      rintro _ ⟨⟩
      exact hfollows
  | alters => exact nofun

/-- Changes have their effects on the register of a body of the kind. -/
def Obeys (r : Register α) (kind : BodyKind) : Prop :=
  ∀ {change : BodyChange} {o o' : Engine.Owned}, change.Makes kind o o' →
    r.Follows (r.get o) (r.get o') (r.effect change)

theorem obeys_position (kind : BodyKind) : position.Obeys kind := by
  intro change o o' h
  have hrest := congrArg position.get h.rest
  cases change with
  | pose place angle => exact h.written
  | awake awake => cases awake <;> exact hrest.symm
  | _ => exact hrest.symm

theorem obeys_linearVelocity {kind : BodyKind} (hkind : kind ≠ .static) :
    linearVelocity.Obeys kind := by
  intro change o o' h
  have hrest := congrArg linearVelocity.get h.rest
  cases change with
  | linearVelocity v => exact h.written hkind
  | impulse j point wake => exact trivial
  | awake awake =>
      cases awake with
      | true => exact hrest.symm
      | false =>
          show Vec2.Agree (linearVelocity.get o') .zero
          rw [← hrest]
          exact Vec2.agree_refl .zero
  | _ => exact hrest.symm

theorem obeys_angularVelocity {kind : BodyKind} (hkind : kind ≠ .static) :
    angularVelocity.Obeys kind := by
  intro change o o' h
  have hrest := congrArg angularVelocity.get h.rest
  cases change with
  | angularVelocity v => exact h.written hkind
  | impulse j point wake => exact trivial
  | awake awake =>
      cases awake with
      | true => exact hrest.symm
      | false => exact .inl hrest.symm
  | _ => exact hrest.symm

theorem obeys_linearDamping (kind : BodyKind) : linearDamping.Obeys kind := by
  intro change o o' h
  have hrest := congrArg linearDamping.get h.rest
  cases change with
  | awake awake => cases awake <;> exact hrest.symm
  | _ => exact hrest.symm

theorem obeys_active (kind : BodyKind) : active.Obeys kind := by
  intro change o o' h
  have hrest := congrArg active.get h.rest
  cases change with
  | awake awake => cases awake <;> exact hrest.symm
  | _ => exact hrest.symm

end Register

section

variable {α : Type}

namespace Operation

/-- What the operation does to an attribute of a body. -/
def effect (r : Register α) (b : Handle .body) : Operation → Effect α
  | setBody _ a change => if a = b then r.effect change else .keeps
  | _ => .keeps

/-- Whether time passes in a world. -/
def advances (w : Handle .world) : Operation → Bool
  | step v dt _ _ | stepDefault v dt => v = w && 0 < dt
  | _ => false

end Operation

namespace Event

def effect (r : Register α) (b : Handle .body) (e : Event) : Effect α :=
  match e.granted with
  | some op => op.effect r b
  | none => .keeps

def advances (w : Handle .world) (e : Event) : Bool := e.granted.any (·.advances w)

end Event

/-- What is known of an attribute of a body after some events. -/
def Register.follow (r : Register α) (b : Handle .body) (known : Option α) (t : List Event) :
    Option α :=
  t.foldl (fun known e => (e.effect r b).follow known) known

/-- The last value that was written to an attribute of a body, or the one it had at first, unless
it has changed in some other way since. -/
def Register.known (r : Register α) (b : Handle .body) (initial : α) (t : List Event) : Option α :=
  r.follow b (some initial) t

/-- The attribute never changes but by being written to. -/
def Register.Written (r : Register α) : Prop := ∀ change, r.effect change ≠ .alters

theorem Register.Written.exists_known {r : Register α} (h : r.Written) (b : Handle .body)
    (initial : α) (t : List Event) : ∃ v, r.known b initial t = some v := by
  unfold known
  induction t generalizing initial with
  | nil => exact ⟨initial, rfl⟩
  | cons e t ih =>
      have heffect : e.effect r b ≠ .alters := by
        unfold Event.effect
        split
        · unfold Operation.effect
          split
          · split
            · exact h _
            · nofun
          · nofun
        · nofun
      show ∃ v, r.follow b ((e.effect r b).follow (some initial)) t = some v
      cases heq : e.effect r b with
      | keeps => exact ih initial
      | sets x => exact ih x
      | alters => exact absurd heq heffect

/-- The attribute is not changed by steps. -/
def Register.Rests (r : Register α) : Prop :=
  ∀ body : Body, r.get body.lasting.owned = r.get body.owned

namespace Register

theorem written_position : position.Written := by
  intro change
  cases change <;> nofun

theorem written_linearDamping : linearDamping.Written := by
  intro change
  cases change <;> nofun

theorem written_active : active.Written := by
  intro change
  cases change <;> nofun

theorem rests_linearDamping : linearDamping.Rests := fun _ => rfl

theorem rests_active : active.Rests := fun _ => rfl

end Register

theorem Operation.effect_of_makes {r : Register α} {config : Config} {op : Operation}
    {b : Handle .body} {rec : BodyRecord} {world : World} {body body' : Body}
    (hobeys : r.Obeys body.kind) (hbody : world.bodies.get? rec.native = some body)
    (hidle : op.advances rec.world = false ∨ r.Rests)
    (h : op.MakesBody config b rec world body body') :
    r.Follows (r.get body.owned) (r.get body'.owned) (op.effect r b) := by
  cases op with
  | setWorld v change =>
      obtain rfl : body' = if v = rec.world then change.onBody body else body := h
      split
      · cases change <;> rfl
      · rfl
  | setBody v a change =>
      obtain rfl : body' = if a = b then change.apply body else body := h
      show r.Follows _ _ (if a = b then r.effect change else .keeps)
      split
      · exact hobeys (change.makes_apply body)
      · rfl
  | step | stepDefault =>
      rcases hidle with hidle | hrests
      · rw [MakesBody, if_neg (by simpa [advances] using hidle)] at h
        exact congrArg (fun b : Body => r.get b.owned) h
      · exact view_of_step (f := fun b : Body => r.get b.owned) hrests hbody h
  | _ =>
      -- The core of a body has what its owner wrote.
      have howned : body'.owned = body.owned := (congrArg Body.owned h :)
      exact congrArg r.get howned

theorem Event.effect_of_makes {r : Register α} {config : Config} {e : Event}
    {b : Handle .body} {rec : BodyRecord} {world : World} {body body' : Body}
    (hobeys : r.Obeys body.kind) (hbody : world.bodies.get? rec.native = some body)
    (hidle : e.advances rec.world = false ∨ r.Rests)
    (h : e.MakesBody config b rec world body body') :
    r.Follows (r.get body.owned) (r.get body'.owned) (e.effect r b) := by
  unfold MakesBody at h
  unfold effect
  unfold advances at hidle
  cases hgranted : e.granted with
  | none =>
      rw [hgranted] at h
      exact congrArg (fun b : Body => r.get b.owned) h
  | some op =>
      rw [hgranted] at h hidle
      exact Operation.effect_of_makes hobeys hbody hidle h

namespace Simulator

variable {s : Simulator} {b : Handle .body} {rec : BodyRecord} {world : World} {body : Body}

theorem register_perform {r : Register α} (hs : s.registry.Sound)
    (h : s.registry.Holds b rec world body) (hobeys : r.Obeys body.kind) {op : Operation}
    (hidle : (op.event s).advances rec.world = false ∨ r.Rests) {rec' : BodyRecord}
    {world' : World} {body' : Body} (h' : (op.perform s).2.registry.Holds b rec' world' body') :
    rec' = rec ∧ body'.kind = body.kind ∧
      r.Follows (r.get body.owned) (r.get body'.owned) ((op.event s).effect r b) := by
  rcases body_perform hs h' with ⟨_, _, _, rfl, hnew, -⟩ | ⟨found, body₀, hbefore, hmakes⟩
  · exact absurd ⟨rfl, hnew⟩ (Operation.not_bears hs h.record _ (.body rec'.world))
  · obtain ⟨rfl, rfl, rfl⟩ := h.unique hbefore
    exact ⟨rfl, Event.kind_of_makes h.item hmakes,
      Event.effect_of_makes hobeys h.item hidle hmakes⟩

theorem live_of_performAll (hs : s.registry.Sound) {k : Kind} {h : Handle k}
    (hissued : h.index.toNat < s.registry.issued k) {ops : List Operation}
    (hlive : (s.performAll ops).registry.live h = true) : s.registry.live h = true := by
  rw [Registry.live_iff] at hlive ⊢
  obtain ⟨o, ho⟩ := hlive
  cases hbefore : s.registry.origin? h with
  | some o' => exact ⟨o', rfl⟩
  | none => exact absurd ((origin?_performAll_of_issued hs hissued hbefore ops).symm.trans ho) nofun

theorem exists_holds (hs : s.registry.Sound) (hlive : s.registry.live b = true) :
    ∃ rec world body, s.registry.Holds b rec world body := by
  obtain ⟨o, ho⟩ := Registry.live_iff.mp hlive
  obtain ⟨rec, hrec, -⟩ := Option.map_eq_some_iff.mp ho
  exact ⟨rec, hs.holds hrec⟩

theorem knows_performAll {r : Register α} {kind : BodyKind} (hobeys : r.Obeys kind) :
    ∀ (ops : List Operation) {s : Simulator} {rec : BodyRecord} {world : World} {body : Body}
      {known : Option α}, s.registry.Sound → s.registry.Holds b rec world body →
      body.kind = kind → r.Knows (r.get body.owned) known →
      ((∀ e ∈ s.history ops, e.advances rec.world = false) ∨ r.Rests) →
      ∀ {rec' : BodyRecord} {world' : World} {body' : Body},
        (s.performAll ops).registry.Holds b rec' world' body' →
          rec' = rec ∧ r.Knows (r.get body'.owned) (r.follow b known (s.history ops)) := by
  intro ops
  induction ops with
  | nil =>
      intro s rec world body known hs h hkind hknows hidle rec' world' body' h'
      obtain ⟨rfl, rfl, rfl⟩ := h.unique h'
      exact ⟨rfl, hknows⟩
  | cons op ops ih =>
      intro s rec world body known hs h hkind hknows hidle rec' world' body' h'
      have hs' := Operation.sound_perform hs op
      have hissued : b.index.toNat < (op.perform s).2.registry.issued .body := by
        have hbefore := (hs.table .body).index_lt h.record
        rw [Operation.issued_perform hs op]
        exact Nat.lt_add_right _ hbefore
      have hlive : ((op.perform s).2.performAll ops).registry.live b = true :=
        Registry.live_iff.mpr ⟨_, Option.map_eq_some_iff.mpr ⟨rec', h'.record, rfl⟩⟩
      obtain ⟨recBetween, worldBetween, between, hbetween⟩ :=
        exists_holds hs' (live_of_performAll hs' hissued hlive)
      have hidleFirst : (op.event s).advances rec.world = false ∨ r.Rests :=
        hidle.imp_left fun hidle => hidle _ List.mem_cons_self
      obtain ⟨rfl, hkindBetween, hfollows⟩ :=
        register_perform hs h (hkind ▸ hobeys) hidleFirst hbetween
      refine ih hs' hbetween (hkindBetween.trans hkind) (hknows.follow hfollows) ?_ h'
      exact hidle.imp_left fun hidle e he => hidle e (List.mem_cons_of_mem _ he)

end Simulator

end

namespace Simulator

variable {s : Simulator} {b : Handle .body}

theorem owned_createBody (hs : s.registry.Sound) {w : Handle .world} {kind : BodyKind}
    {place : Vec2}
    (hcreate : ((Operation.createBody w kind place).event s).result = .ok (.handle b))
    {rec : BodyRecord} {world : World} {body : Body}
    (h : ((Operation.createBody w kind place).perform s).2.registry.Holds b rec world body) :
    rec.world = w ∧ body.kind = kind ∧ body.owned = ⟨.upright place, .zero, 0, 0, true⟩ := by
  rcases body_perform hs h with ⟨_, _, found, hop, -, -, hcore⟩ | ⟨_, _, hbefore, -⟩
  · cases hop
    exact ⟨rfl, (congrArg Body.kind hcore :), (congrArg Body.owned hcore :)⟩
  · exact absurd ⟨rfl, hcreate⟩
      (Operation.not_bears hs hbefore.record (.createBody w kind place) (.body w))

/-- What is answered about a body in a world that was created at a place and to which some events
have happened since. -/
structure Recalls (s : Simulator) (w : Handle .world) (b : Handle .body) (kind : BodyKind)
    (place : Vec2) (t : List Event) : Prop where
  linearDamping : ∃ x, Register.linearDamping.known b 0 t = some x ∧
    (Operation.readBody w b .linearDamping).perform s = (.ok (.number x), s)
  active : ∃ on, Register.active.known b true t = some on ∧
    (Operation.readBody w b .active).perform s = (.ok (.flag on), s)
  position : (∀ e ∈ t, e.advances w = false) → ∃ x v, Register.position.known b place t = some v ∧
    (Operation.readBody w b .position).perform s = (.ok (.point x), s) ∧ x.Agree v
  linearVelocity : (∀ e ∈ t, e.advances w = false) → kind ≠ .static → ∃ x,
    (Operation.readBody w b .linearVelocity).perform s = (.ok (.point x), s) ∧
      ∀ v, Register.linearVelocity.known b .zero t = some v → x.Agree v
  angularVelocity : (∀ e ∈ t, e.advances w = false) → kind ≠ .static → ∃ x,
    (Operation.readBody w b .angularVelocity).perform s = (.ok (.number x), s) ∧
      ∀ v, Register.angularVelocity.known b 0 t = some v → Agree x v

/-- As long as a body is there, its damping is the one that was last set and it is active unless it
was last deactivated.  As long as no time passes in its world either, it is where it was last put,
and has, unless it is static, the velocities that were last set, those of a body at rest when it was
put to sleep, and possibly others once an impulse was applied.  Nothing else that is done matters.
-/
theorem recalls_of_reachable (hreachable : s.Reachable) {w : Handle .world} {kind : BodyKind}
    {place : Vec2} {s' : Simulator}
    (hcreate : (Operation.createBody w kind place).perform s = (.ok (.handle b), s'))
    {ops : List Operation} (hlive : (s'.performAll ops).registry.live b = true) :
    (s'.performAll ops).Recalls w b kind place (s'.history ops) := by
  have hs := hreachable.sound
  have hevent : (Operation.createBody w kind place).event s =
      ⟨.createBody w kind place, .ok (.handle b)⟩ := by
    rw [Operation.event, hcreate]
  obtain rfl : ((Operation.createBody w kind place).perform s).2 = s' := congrArg Prod.snd hcreate
  have hs' := Operation.sound_perform hs (.createBody w kind place)
  have hissued : b.index.toNat <
      ((Operation.createBody w kind place).perform s).2.registry.issued .body :=
    index_lt_issued_of_bears hs [.createBody w kind place] (List.mem_singleton.mpr rfl)
      (show Event.Bears _ b (.body w) from ⟨rfl, congrArg Event.result hevent⟩)
  obtain ⟨rec, world, body, hholds⟩ := exists_holds hs' (live_of_performAll hs' hissued hlive)
  obtain ⟨rfl, hkind, howned⟩ := owned_createBody hs (congrArg Event.result hevent) hholds
  have hsound := sound_performAll hs' ops
  obtain ⟨rec', world', body', hholds'⟩ := exists_holds hsound hlive
  -- What a register that was known at the creation is known to be now.
  have hknows : ∀ {α : Type} {r : Register α} (initial : α), r.Obeys body.kind →
      r.agree (r.get body.owned) initial →
      ((∀ e ∈ ((Operation.createBody rec.world kind place).perform s).2.history ops,
        e.advances rec.world = false) ∨ r.Rests) →
      rec' = rec ∧ r.Knows (r.get body'.owned) (r.known b initial
        (((Operation.createBody rec.world kind place).perform s).2.history ops)) := by
    intro α r initial hobeys hinitial hidle
    refine knows_performAll hobeys ops hs' hholds rfl ?_ hidle hholds'
    rintro _ ⟨⟩
    exact hinitial
  obtain ⟨rfl, hdamping⟩ := hknows 0 (Register.obeys_linearDamping _)
    (congrArg Engine.Owned.linearDamping howned) (.inr Register.rests_linearDamping)
  have hread := perform_readBody hsound hholds'.home
    (Registry.slice_bodies_eq_some_iff.mpr ⟨hholds'.record, rfl⟩) hholds'.item
  refine ⟨?_, ?_, ?_, ?_, ?_⟩
  · obtain ⟨x, hx⟩ := Register.written_linearDamping.exists_known b 0 _
    refine ⟨x, hx, ?_⟩
    rw [hread, ← hdamping x hx]
    rfl
  · obtain ⟨-, hactive⟩ := hknows true (Register.obeys_active _)
      (congrArg Engine.Owned.enabled howned) (.inr Register.rests_active)
    obtain ⟨on, hon⟩ := Register.written_active.exists_known b true _
    refine ⟨on, hon, ?_⟩
    rw [hread, ← hactive on hon]
    rfl
  · intro hidle
    have hplace : Vec2.Agree (Register.position.get body.owned) place := by
      rw [howned]
      exact Vec2.agree_refl place
    obtain ⟨-, hposition⟩ := hknows place (Register.obeys_position _) hplace (.inl hidle)
    obtain ⟨v, hv⟩ := Register.written_position.exists_known b place _
    exact ⟨body'.position, v, hv, hread .position, hposition v hv⟩
  · intro hidle hstatic
    have hzero : Vec2.Agree (Register.linearVelocity.get body.owned) .zero := by
      rw [howned]
      exact Vec2.agree_refl .zero
    obtain ⟨-, hvelocity⟩ :=
      hknows Vec2.zero (Register.obeys_linearVelocity (hkind ▸ hstatic)) hzero (.inl hidle)
    exact ⟨_, hread .linearVelocity, hvelocity⟩
  · intro hidle hstatic
    have hzero : Agree (Register.angularVelocity.get body.owned) 0 := by
      rw [howned]
      exact .inl rfl
    obtain ⟨-, hvelocity⟩ :=
      hknows 0 (Register.obeys_angularVelocity (hkind ▸ hstatic)) hzero (.inl hidle)
    exact ⟨_, hread .angularVelocity, hvelocity⟩

/-- A body is set in motion, gets a fixture, is put in a place and stopped, and survives another. -/
def errands : List Operation := [
  .setBody ⟨0⟩ ⟨2⟩ (.linearVelocity ⟨1, 2⟩),
  .createFixture ⟨0⟩ ⟨2⟩ ⟨.circle, 1, 0⟩ .initial,
  .setBody ⟨0⟩ ⟨2⟩ (.pose ⟨3, 4⟩ 0),
  .setBody ⟨0⟩ ⟨2⟩ (.impulse ⟨1, 0⟩ ⟨3, 5⟩ true),
  .deleteBody ⟨0⟩ ⟨0⟩,
  .step ⟨0⟩ 0 8 3,
  .setBody ⟨0⟩ ⟨2⟩ (.awake false),
  .setBody ⟨7⟩ ⟨2⟩ (.pose ⟨5, 6⟩ 0)]

theorem recalls_errands :
    let s := ((Operation.createBody ⟨0⟩ .dynamic ⟨-1, 0⟩).perform .sample).2
    (Operation.createBody ⟨0⟩ .dynamic ⟨-1, 0⟩).perform .sample =
        (.ok (.handle (⟨2⟩ : Handle .body)), s) ∧
      (s.performAll errands).registry.live (⟨2⟩ : Handle .body) = true ∧
      (s.performAll errands).Recalls ⟨0⟩ ⟨2⟩ .dynamic ⟨-1, 0⟩ (s.history errands) :=
  ⟨rfl, rfl, recalls_of_reachable reachable_sample rfl rfl⟩

example :
    let s := ((Operation.createBody ⟨0⟩ .dynamic ⟨-1, 0⟩).perform .sample).2
    Register.position.known ⟨2⟩ ⟨-1, 0⟩ (s.history errands) = some ⟨3, 4⟩ ∧
      Register.linearVelocity.known ⟨2⟩ .zero (s.history errands) = some .zero ∧
      Register.linearVelocity.known ⟨2⟩ .zero (s.history (errands.take 4)) = none := by
  decide +kernel

end Simulator

end RigidWorlds
