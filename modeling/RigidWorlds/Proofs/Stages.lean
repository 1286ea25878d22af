import RigidWorlds.Proofs.Encoding
import RigidWorlds.Proofs.Grammar

/-!
The order in which a message is found wanting.  First it must be an object, then it must name a
command, then the arguments of the command must all be there, and then each must be what the command
demands of it.
-/

namespace RigidWorlds

open Json

variable {a a' : Arguments} {i : Nat}

/-- What a command demands of an argument. -/
inductive Demand where
  | integer
  | number
  | boolean
  | handle (k : Kind)
  | body
  | fixture

namespace Demand

/-- What is wrong with the argument number `i`, if it is not of the kind it should be. -/
def mistyped (command : String) (i : Nat) (kind : String) (v : Value) : MessageError :=
  .invalidArgument command
    ("param" ++ toString (i + 1) ++ ": " ++ ("expected " ++ kind ++ ", got " ++ v.compact))

/-- What is wrong with a record. -/
def recordComplaint? {α : Type} (command : String) (i : Nat) :
    Except Cause α → Option MessageError
  | .ok _ => none
  | .error cause =>
      some (.invalidArgument command ("param" ++ toString (i + 1) ++ ": " ++ cause.message))

/-- What is wrong with a value as the argument number `i` of a command. -/
def complaint? (command : String) (i : Nat) (v : Value) : Demand → Option MessageError
  | integer =>
      if (Arguments.integer? v).isSome then none else some (mistyped command i "an integer" v)
  | number => if (Arguments.single? v).isSome then none else some (mistyped command i "a number" v)
  | boolean =>
      if (Arguments.boolean? v).isSome then none else some (mistyped command i "a boolean" v)
  | handle k =>
      match Arguments.integer? v with
      | none => some (mistyped command i "an integer" v)
      | some raw => if raw < 0 then some (.refused (.invalidHandle k raw.toInt)) else none
  | body => recordComplaint? command i (Decode.ofValue v : Except Cause BodyDefinition)
  | fixture => recordComplaint? command i (Decode.ofValue v : Except Cause FixtureDefinition)

end Demand

namespace Verb

/-- What a command demands of its arguments. -/
def demands : Verb → List Demand
  | createWorld => [.number, .number, .boolean]
  | destroyWorld | clearForces | getLastContacts => [.handle .world]
  | setContinuous => [.handle .world, .boolean]
  | setGravity => [.handle .world, .number, .number]
  | step => [.handle .world, .number, .integer, .integer]
  | createBody => [.handle .world, .body]
  | deleteBody | getLinearVelocity | getAngularVelocity | isAwake | getWorldCenter
  | getLocalCenter | getObjectContacts => [.handle .world, .handle .body]
  | setBodyTransform => [.handle .world, .handle .body, .number, .number, .number]
  | setLinearVelocity => [.handle .world, .handle .body, .number, .number]
  | setAngularVelocity | setLinearDamping => [.handle .world, .handle .body, .number]
  | applyImpulse =>
      [.handle .world, .handle .body, .number, .number, .number, .number, .boolean]
  | applyForceToCenter => [.handle .world, .handle .body, .number, .number, .boolean]
  | setActive | setAwake => [.handle .world, .handle .body, .boolean]
  | createFixture => [.handle .world, .handle .body, .fixture]
  | deleteFixture => [.handle .world, .handle .fixture]
  | setSensor => [.handle .world, .handle .fixture, .boolean]
  | setDensity | setFriction | setRestitution => [.handle .world, .handle .fixture, .number]
  | createDistanceJoint => [.handle .world, .handle .body, .handle .body]
  | deleteJoint => [.handle .world, .handle .joint]

theorem length_demands (v : Verb) : v.demands.length = v.arity := by
  cases v <;> rfl

end Verb

namespace Arguments

/-- What stands in the slot of an argument. -/
def slot (a : Arguments) (i : Nat) : Option Value := a.values[i]?.join

/-- What is wrong with an argument of which something is demanded. -/
def complaint? (a : Arguments) (i : Nat) (d : Demand) : Option MessageError :=
  (a.slot i).bind fun v => d.complaint? a.command i v

/-- Beside that, the kind of a new body must be one there is. -/
def kindComplaint? (a : Arguments) : Option MessageError :=
  (a.slot 1).bind fun v =>
    match (Decode.ofValue v : Except Cause BodyDefinition) with
    | .error _ => none
    | .ok body =>
        match BodyKind.ofRaw body.kind with
        | .ok _ => none
        | .error e => some (.refused e)

/-- The first complaint about the arguments from the number `i` on. -/
def firstComplaint? (a : Arguments) (i : Nat) : List Demand → Option MessageError
  | [] => none
  | d :: ds => (a.complaint? i d).or (firstComplaint? a (i + 1) ds)

end Arguments

/-- What is wrong with the arguments of a command.  They are looked at from the left; only the
record of a new body comes before its world, and its kind last. -/
def Verb.complaint? (a : Arguments) : Verb → Option MessageError
  | createBody =>
      (a.complaint? 1 .body).or ((a.complaint? 0 (.handle .world)).or a.kindComplaint?)
  | v => a.firstComplaint? 0 v.demands

/-- A computation fails with the given fault, or succeeds if there is none. -/
def FailsWith {ε α : Type} (x : Except ε α) (fault : Option ε) : Prop :=
  match fault with
  | none => ∃ a, x = .ok a
  | some e => x = .error e

theorem FailsWith.bind {ε α β : Type} {x : Except ε α} {f : α → Except ε β} {e e' : Option ε}
    (hx : FailsWith x e) (hf : ∀ a, x = .ok a → FailsWith (f a) e') :
    FailsWith (x >>= f) (e.or e') := by
  rcases e with _ | e
  · obtain ⟨a, rfl⟩ := hx
    exact hf a rfl
  · obtain rfl := show x = .error e from hx
    exact rfl

theorem FailsWith.map {ε α β : Type} {x : Except ε α} {e : Option ε} (hx : FailsWith x e)
    (f : α → β) : FailsWith (x.map f) e := by
  rcases e with _ | e
  · obtain ⟨a, rfl⟩ := hx
    exact ⟨f a, rfl⟩
  · obtain rfl := show x = .error e from hx
    exact rfl

theorem failsWith_ok {ε α : Type} (a : α) : FailsWith (.ok a : Except ε α) none := ⟨a, rfl⟩

theorem FailsWith.bind_map {ε α β γ : Type} {x : Except ε α} {y : Except ε β} {e e' : Option ε}
    (hx : FailsWith x e) (hy : FailsWith y e') (f : α → β → γ) :
    FailsWith (x >>= fun a => y >>= fun b => .ok (f a b)) (e.or e') := by
  refine hx.bind fun a _ => ?_
  have hrest : FailsWith (y >>= fun b => .ok (f a b)) (e'.or none) :=
    hy.bind fun b _ => failsWith_ok (f a b)
  rwa [Option.or_none] at hrest

namespace Arguments

theorem firstComplaint?_append (i : Nat) (ds ds' : List Demand) :
    a.firstComplaint? i (ds ++ ds') =
      (a.firstComplaint? i ds).or (a.firstComplaint? (i + ds.length) ds') := by
  induction ds generalizing i with
  | nil => exact Option.none_or.symm
  | cons d ds ih =>
      rw [List.cons_append, firstComplaint?, firstComplaint?, ih, Option.or_assoc,
        List.length_cons, Nat.add_assoc, Nat.add_comm 1]

theorem failsWith_single {α : Type} {x : Except MessageError α} {d : Demand}
    (hx : FailsWith x (a.complaint? i d)) : FailsWith x (a.firstComplaint? i [d]) := by
  rwa [firstComplaint?, firstComplaint?, Option.or_none]

theorem failsWith_append {α β γ : Type} {x : Except MessageError α} {y : Except MessageError β}
    {ds ds' : List Demand} (hx : FailsWith x (a.firstComplaint? i ds))
    (hy : FailsWith y (a.firstComplaint? (i + ds.length) ds')) (f : α → β → γ) :
    FailsWith (x >>= fun v => y >>= fun w => .ok (f v w)) (a.firstComplaint? i (ds ++ ds')) := by
  rw [firstComplaint?_append]
  exact hx.bind_map hy f

theorem value_of_slot {v : Value} (hv : a.slot i = some v) : a.value i = .ok v := by
  rw [slot, Option.join_eq_some_iff] at hv
  rw [value, hv]

theorem failsWith_read {α : Type} {v : Value} (hv : a.slot i = some v) (kind : String)
    (f : Value → Option α) :
    FailsWith (a.read i kind f)
      (if (f v).isSome then none else some (Demand.mistyped a.command i kind v)) := by
  rw [read, value_of_slot hv, ok_bind]
  rcases f v with _ | x
  · rfl
  · exact failsWith_ok x

theorem failsWith_int (hi : (a.slot i).isSome) :
    FailsWith (a.int i) (a.complaint? i .integer) := by
  obtain ⟨v, hv⟩ := Option.isSome_iff_exists.mp hi
  rw [complaint?, hv]
  exact failsWith_read hv _ _

theorem failsWith_float (hi : (a.slot i).isSome) :
    FailsWith (a.float i) (a.complaint? i .number) := by
  obtain ⟨v, hv⟩ := Option.isSome_iff_exists.mp hi
  rw [complaint?, hv]
  exact failsWith_read hv _ _

theorem failsWith_boolean (hi : (a.slot i).isSome) :
    FailsWith (a.boolean i) (a.complaint? i .boolean) := by
  obtain ⟨v, hv⟩ := Option.isSome_iff_exists.mp hi
  rw [complaint?, hv]
  exact failsWith_read hv _ _

theorem failsWith_handle (hi : (a.slot i).isSome) (k : Kind) :
    FailsWith (a.handle k i) (a.complaint? i (.handle k)) := by
  obtain ⟨v, hv⟩ := Option.isSome_iff_exists.mp hi
  have hint : a.int i = a.read i "an integer" integer? := rfl
  rw [complaint?, hv]
  show FailsWith _ (match integer? v with
    | none => some (Demand.mistyped a.command i "an integer" v)
    | some raw => if raw < 0 then some (.refused (.invalidHandle k raw.toInt)) else none)
  rw [handle, hint, read, value_of_slot hv, ok_bind]
  rcases integer? v with _ | raw
  · rfl
  · show FailsWith ((Handle.ofRaw k raw).mapError MessageError.refused) _
    rw [Handle.ofRaw]
    by_cases hraw : raw < 0
    · simp only [if_pos hraw]
      rfl
    · simp only [if_neg hraw]
      exact failsWith_ok _

theorem failsWith_object {α : Type} [Decode α] {v : Value} (hv : a.slot i = some v) :
    FailsWith (a.object i : Except MessageError α)
      (Demand.recordComplaint? a.command i (Decode.ofValue v : Except Cause α)) := by
  rw [object, value_of_slot hv, ok_bind]
  rcases (Decode.ofValue v : Except Cause α) with cause | x
  · rfl
  · exact failsWith_ok x

theorem failsWith_body (hi : (a.slot i).isSome) :
    FailsWith (a.object i : Except MessageError BodyDefinition) (a.complaint? i .body) := by
  obtain ⟨v, hv⟩ := Option.isSome_iff_exists.mp hi
  rw [complaint?, hv]
  exact failsWith_object hv

theorem failsWith_fixture (hi : (a.slot i).isSome) :
    FailsWith (a.object i : Except MessageError FixtureDefinition) (a.complaint? i .fixture) := by
  obtain ⟨v, hv⟩ := Option.isSome_iff_exists.mp hi
  rw [complaint?, hv]
  exact failsWith_object hv

theorem failsWith_point (hi : (a.slot i).isSome) (hi' : (a.slot (i + 1)).isSome) :
    FailsWith (a.point i) (a.firstComplaint? i [.number, .number]) :=
  failsWith_append (failsWith_single (failsWith_float hi))
    (failsWith_single (failsWith_float hi')) _

theorem failsWith_count (hi : (a.slot i).isSome) :
    FailsWith (Verb.readCount a i) (a.complaint? i .integer) :=
  (failsWith_int hi).map _

theorem failsWith_kind {body : BodyDefinition} (hbody : a.object 1 = .ok body) :
    FailsWith ((BodyKind.ofRaw body.kind).mapError MessageError.refused) a.kindComplaint? := by
  rcases hv : a.slot 1 with _ | v
  · have hvalue : a.value 1 = .error (.missingArguments a.command) := by
      rw [slot, Option.join_eq_none_iff] at hv
      rw [value]
      rcases hv with hv | hv <;> rw [hv]
    rw [object, hvalue] at hbody
    cases hbody
  · rw [object, value_of_slot hv, ok_bind] at hbody
    rw [kindComplaint?, hv, Option.bind_some]
    rcases hfound : (Decode.ofValue v : Except Cause BodyDefinition) with cause | found
    · rw [hfound] at hbody
      cases hbody
    · rw [hfound] at hbody
      obtain rfl := Except.ok.inj hbody
      dsimp only
      rcases BodyKind.ofRaw found.kind with e | kind
      · rfl
      · exact failsWith_ok _

end Arguments

namespace Verb

section

variable {α β : Type} {ds ds' : List Demand} {rest : Except MessageError α}

theorem failsWith_readOnBody (make : Handle .world → Handle .body → α → Command)
    (hw : (a.slot 0).isSome) (hb : (a.slot 1).isSome)
    (hrest : FailsWith rest (a.firstComplaint? 2 ds)) :
    FailsWith (readOnBody a make rest)
      (a.firstComplaint? 0 (.handle .world :: .handle .body :: ds)) :=
  (a.failsWith_handle hw _).bind fun _ _ => (a.failsWith_handle hb _).bind_map hrest _

theorem failsWith_readOnFixture (make : Handle .world → Handle .fixture → α → Command)
    (hw : (a.slot 0).isSome) (hf : (a.slot 1).isSome)
    (hrest : FailsWith rest (a.firstComplaint? 2 ds)) :
    FailsWith (readOnFixture a make rest)
      (a.firstComplaint? 0 (.handle .world :: .handle .fixture :: ds)) :=
  (a.failsWith_handle hw _).bind fun _ _ => (a.failsWith_handle hf _).bind_map hrest _

theorem failsWith_readBoth {y : Except MessageError β}
    (hx : FailsWith rest (a.firstComplaint? i ds))
    (hy : FailsWith y (a.firstComplaint? (i + ds.length) ds')) :
    FailsWith (readBoth rest y) (a.firstComplaint? i (ds ++ ds')) :=
  Arguments.failsWith_append hx hy _

end

open Arguments in
/-- A command whose arguments are all there fails with the first complaint about them. -/
theorem failsWith_read {v : Verb} (hfull : ∀ i < v.arity, (a.slot i).isSome) :
    FailsWith (v.read a) (v.complaint? a) := by
  cases v with
  | createWorld =>
      exact failsWith_append (failsWith_point (hfull 0 (by decide)) (hfull 1 (by decide)))
        (failsWith_single (failsWith_boolean (hfull 2 (by decide)))) Command.createWorld
  | destroyWorld | clearForces | getLastContacts =>
      exact failsWith_single ((failsWith_handle (hfull 0 (by decide)) .world).map _)
  | setContinuous =>
      exact failsWith_append (failsWith_single (failsWith_handle (hfull 0 (by decide)) .world))
        (failsWith_single (failsWith_boolean (hfull 1 (by decide)))) Command.setContinuous
  | setGravity =>
      exact failsWith_append (failsWith_single (failsWith_handle (hfull 0 (by decide)) .world))
        (failsWith_point (hfull 1 (by decide)) (hfull 2 (by decide))) Command.setGravity
  | deleteJoint =>
      exact failsWith_append (failsWith_single (failsWith_handle (hfull 0 (by decide)) .world))
        (failsWith_single (failsWith_handle (hfull 1 (by decide)) .joint)) Command.deleteJoint
  | step =>
      exact (failsWith_handle (hfull 0 (by decide)) .world).bind fun w _ =>
        (failsWith_float (hfull 1 (by decide))).bind fun dt _ =>
          failsWith_append (failsWith_single (failsWith_count (hfull 2 (by decide))))
            (failsWith_single (failsWith_count (hfull 3 (by decide)))) (Command.step w dt)
  | createBody =>
      have h := (failsWith_body (hfull 1 (by decide))).bind fun body hbody =>
        (failsWith_handle (hfull 0 (by decide)) .world).bind_map (failsWith_kind hbody)
          fun w kind => Command.createBody w kind body.position.point
      exact h
  | deleteBody | getLinearVelocity | getAngularVelocity | isAwake | getWorldCenter
  | getLocalCenter | getObjectContacts =>
      exact failsWith_readOnBody _ (hfull 0 (by decide)) (hfull 1 (by decide)) (failsWith_ok ())
  | deleteFixture =>
      exact failsWith_readOnFixture _ (hfull 0 (by decide)) (hfull 1 (by decide)) (failsWith_ok ())
  | setLinearVelocity =>
      exact failsWith_readOnBody _ (hfull 0 (by decide)) (hfull 1 (by decide))
        (failsWith_point (hfull 2 (by decide)) (hfull 3 (by decide)))
  | setAngularVelocity | setLinearDamping =>
      exact failsWith_readOnBody _ (hfull 0 (by decide)) (hfull 1 (by decide))
        (failsWith_single (failsWith_float (hfull 2 (by decide))))
  | setActive | setAwake =>
      exact failsWith_readOnBody _ (hfull 0 (by decide)) (hfull 1 (by decide))
        (failsWith_single (failsWith_boolean (hfull 2 (by decide))))
  | createFixture =>
      exact failsWith_readOnBody _ (hfull 0 (by decide)) (hfull 1 (by decide))
        (failsWith_single (failsWith_fixture (hfull 2 (by decide))))
  | createDistanceJoint =>
      exact failsWith_readOnBody _ (hfull 0 (by decide)) (hfull 1 (by decide))
        (failsWith_single (failsWith_handle (hfull 2 (by decide)) .body))
  | setSensor =>
      exact failsWith_readOnFixture _ (hfull 0 (by decide)) (hfull 1 (by decide))
        (failsWith_single (failsWith_boolean (hfull 2 (by decide))))
  | setDensity | setFriction | setRestitution =>
      exact failsWith_readOnFixture _ (hfull 0 (by decide)) (hfull 1 (by decide))
        (failsWith_single (failsWith_float (hfull 2 (by decide))))
  | setBodyTransform =>
      have hpose := failsWith_readBoth (failsWith_point (hfull 2 (by decide)) (hfull 3 (by decide)))
        (failsWith_single (failsWith_float (hfull 4 (by decide))))
      exact failsWith_readOnBody _ (hfull 0 (by decide)) (hfull 1 (by decide)) hpose
  | applyForceToCenter =>
      have hforce := failsWith_readBoth
        (failsWith_point (hfull 2 (by decide)) (hfull 3 (by decide)))
        (failsWith_single (failsWith_boolean (hfull 4 (by decide))))
      exact failsWith_readOnBody _ (hfull 0 (by decide)) (hfull 1 (by decide)) hforce
  | applyImpulse =>
      have himpulse := failsWith_readBoth
        (failsWith_point (hfull 2 (by decide)) (hfull 3 (by decide)))
        (failsWith_readBoth (failsWith_point (hfull 4 (by decide)) (hfull 5 (by decide)))
          (failsWith_single (failsWith_boolean (hfull 6 (by decide)))))
      exact failsWith_readOnBody _ (hfull 0 (by decide)) (hfull 1 (by decide)) himpulse

end Verb

namespace Demand

theorem recordComplaint?_shape {α : Type} {command : String} {x : Except Cause α} {e : MessageError}
    (h : recordComplaint? command i x = some e) :
    ∃ reason, e = .invalidArgument command ("param" ++ toString (i + 1) ++ ": " ++ reason) := by
  rcases x with cause | x
  · exact ⟨_, (Option.some.inj h).symm⟩
  · cases h

theorem complaint?_shape {d : Demand} {command : String} {v : Value} {e : MessageError}
    (h : d.complaint? command i v = some e) :
    (∃ reason, e = .invalidArgument command ("param" ++ toString (i + 1) ++ ": " ++ reason)) ∨
      ∃ k raw, raw < (0 : Int32) ∧ e = .refused (.invalidHandle k raw.toInt) := by
  cases d with
  | integer | number | boolean =>
      simp only [complaint?] at h
      split at h
      · cases h
      · exact .inl ⟨_, (Option.some.inj h).symm⟩
  | handle k =>
      simp only [complaint?] at h
      split at h
      · exact .inl ⟨_, (Option.some.inj h).symm⟩
      · rename_i raw hraw
        split at h
        · rename_i hnegative
          exact .inr ⟨k, raw, hnegative, (Option.some.inj h).symm⟩
        · cases h
  | body | fixture => exact .inl (recordComplaint?_shape h)

end Demand

namespace Arguments

theorem complaint?_shape {d : Demand} {e : MessageError} (h : a.complaint? i d = some e) :
    (∃ reason, e = .invalidArgument a.command ("param" ++ toString (i + 1) ++ ": " ++ reason)) ∨
      ∃ k raw, raw < (0 : Int32) ∧ e = .refused (.invalidHandle k raw.toInt) := by
  obtain ⟨v, -, hv⟩ := Option.bind_eq_some_iff.mp h
  exact Demand.complaint?_shape hv

theorem kindComplaint?_shape {e : MessageError} (h : a.kindComplaint? = some e) :
    ∃ raw, e = .refused (.invalidParameter (.unknownBodyKind raw)) := by
  obtain ⟨v, -, hv⟩ := Option.bind_eq_some_iff.mp h
  split at hv
  · cases hv
  · rename_i body _
    split at hv
    · cases hv
    · rename_i e' hkind
      refine ⟨body.kind, ?_⟩
      rw [← Option.some.inj hv]
      unfold BodyKind.ofRaw at hkind
      split_ifs at hkind
      rw [Except.error.inj hkind]

theorem firstComplaint?_eq_some_iff {start : Nat} {ds : List Demand} {e : MessageError} :
    a.firstComplaint? start ds = some e ↔
      ∃ i d, ds[i]? = some d ∧ a.complaint? (start + i) d = some e ∧
        ∀ j < i, ∀ d', ds[j]? = some d' → a.complaint? (start + j) d' = none := by
  induction ds generalizing start with
  | nil => simp [firstComplaint?]
  | cons d ds ih =>
      rw [firstComplaint?]
      rcases hd : a.complaint? start d with _ | first
      · rw [Option.none_or, ih]
        constructor
        · rintro ⟨i, d', hd', he, hbefore⟩
          refine ⟨i + 1, d', hd', by rwa [← Nat.add_assoc, Nat.add_right_comm], ?_⟩
          rintro (_ | j) hj d'' hd''
          · rwa [← Option.some.inj hd'']
          · rw [← Nat.add_assoc, Nat.add_right_comm]
            exact hbefore j (Nat.lt_of_succ_lt_succ hj) d'' hd''
        · rintro ⟨_ | i, d', hd', he, hbefore⟩
          · rw [← Option.some.inj hd', Nat.add_zero, hd] at he
            cases he
          · refine ⟨i, d', hd', by rwa [← Nat.add_assoc, Nat.add_right_comm] at he, ?_⟩
            intro j hj d'' hd''
            have := hbefore (j + 1) (Nat.succ_lt_succ hj) d'' hd''
            rwa [← Nat.add_assoc, Nat.add_right_comm] at this
      · rw [Option.some_or]
        constructor
        · intro he
          exact ⟨0, d, rfl, by rw [Nat.add_zero, hd, he], nofun⟩
        · rintro ⟨_ | i, d', hd', he, hbefore⟩
          · rw [← Option.some.inj hd', Nat.add_zero, hd] at he
            exact he
          · have := hbefore 0 (Nat.succ_pos i) d rfl
            rw [Nat.add_zero, hd] at this
            cases this

theorem value_eq (a : Arguments) (i : Nat) :
    a.value i = (a.slot i).elim (.error (.missingArguments a.command)) .ok := by
  rw [value, slot]
  rcases a.values[i]? with _ | _ | v <;> rfl

variable (hcommand : a.command = a'.command)
include hcommand

theorem value_congr (h : a.slot i = a'.slot i) : a.value i = a'.value i := by
  rw [value_eq, value_eq, h, hcommand]

theorem read_congr {α : Type} {kind : String} {f : Value → Option α} (h : a.slot i = a'.slot i) :
    a.read i kind f = a'.read i kind f := by
  unfold read invalid
  rw [value_congr hcommand h, hcommand]

theorem handle_congr {k : Kind} (h : a.slot i = a'.slot i) : a.handle k i = a'.handle k i := by
  unfold handle int
  rw [read_congr hcommand h]

theorem object_congr {α : Type} [Decode α] (h : a.slot i = a'.slot i) :
    (a.object i : Except MessageError α) = a'.object i := by
  unfold object invalid
  rw [value_congr hcommand h, hcommand]

theorem point_congr (h : a.slot i = a'.slot i) (h' : a.slot (i + 1) = a'.slot (i + 1)) :
    a.point i = a'.point i := by
  unfold point float
  rw [read_congr hcommand h, read_congr hcommand h']

end Arguments

namespace Verb

theorem read_congr {v : Verb} (hcommand : a.command = a'.command)
    (hslots : ∀ i < v.arity, a.slot i = a'.slot i) : v.read a = v.read a' := by
  have hint : ∀ i < v.arity, a.int i = a'.int i := fun i hi =>
    Arguments.read_congr hcommand (hslots i hi)
  have hfloat : ∀ i < v.arity, a.float i = a'.float i := fun i hi =>
    Arguments.read_congr hcommand (hslots i hi)
  have hboolean : ∀ i < v.arity, a.boolean i = a'.boolean i := fun i hi =>
    Arguments.read_congr hcommand (hslots i hi)
  have hhandle : ∀ k, ∀ i < v.arity, a.handle k i = a'.handle k i := fun k i hi =>
    Arguments.handle_congr hcommand (hslots i hi)
  have hbody : ∀ i < v.arity, (a.object i : Except MessageError BodyDefinition) = a'.object i :=
    fun i hi => Arguments.object_congr hcommand (hslots i hi)
  have hfixture : ∀ i < v.arity,
      (a.object i : Except MessageError FixtureDefinition) = a'.object i :=
    fun i hi => Arguments.object_congr hcommand (hslots i hi)
  have hpoint : ∀ i, i + 1 < v.arity → a.point i = a'.point i := fun i hi =>
    Arguments.point_congr hcommand (hslots i (Nat.lt_of_succ_lt hi)) (hslots (i + 1) hi)
  cases v <;>
    simp (disch := decide) only [read, readAboutBody, readOnBody, readOnFixture, readCount, hint,
      hfloat, hboolean, hhandle, hbody, hfixture, hpoint]

theorem verb_of_readOnBody {v : Verb} {α : Type} {make : Handle .world → Handle .body → α → Command}
    {rest : Except MessageError α} {c : Command} (hmake : ∀ w b x, (make w b x).verb = v)
    (h : readOnBody a make rest = .ok c) : c.verb = v := by
  obtain ⟨w, -, hw⟩ := bind_eq_ok_iff.mp h
  obtain ⟨b, -, hb⟩ := bind_eq_ok_iff.mp hw
  obtain ⟨x, -, hx⟩ := bind_eq_ok_iff.mp hb
  rw [← Except.ok.inj hx]
  exact hmake w b x

theorem verb_of_readOnFixture {v : Verb} {α : Type}
    {make : Handle .world → Handle .fixture → α → Command} {rest : Except MessageError α}
    {c : Command} (hmake : ∀ w f x, (make w f x).verb = v)
    (h : readOnFixture a make rest = .ok c) : c.verb = v := by
  obtain ⟨w, -, hw⟩ := bind_eq_ok_iff.mp h
  obtain ⟨f, -, hf⟩ := bind_eq_ok_iff.mp hw
  obtain ⟨x, -, hx⟩ := bind_eq_ok_iff.mp hf
  rw [← Except.ok.inj hx]
  exact hmake w f x

theorem verb_of_map {v : Verb} {α : Type} {make : α → Command} {x : Except MessageError α}
    {c : Command} (hmake : ∀ y, (make y).verb = v) (h : x.map make = .ok c) : c.verb = v := by
  rcases x with e | y
  · cases h
  · rw [← Except.ok.inj h]
    exact hmake y

theorem verb_of_read {v : Verb} {c : Command} (h : v.read a = .ok c) : c.verb = v := by
  cases v with
  | destroyWorld | clearForces | getLastContacts => exact verb_of_map (fun _ => rfl) h
  | createWorld | setContinuous | setGravity | deleteJoint =>
      obtain ⟨x, -, hx⟩ := bind_eq_ok_iff.mp h
      obtain ⟨y, -, hy⟩ := bind_eq_ok_iff.mp hx
      rw [← Except.ok.inj hy]
      rfl
  | createBody =>
      obtain ⟨body, -, hbody⟩ := bind_eq_ok_iff.mp h
      obtain ⟨w, -, hw⟩ := bind_eq_ok_iff.mp hbody
      obtain ⟨kind, -, hkind⟩ := bind_eq_ok_iff.mp hw
      rw [← Except.ok.inj hkind]
      rfl
  | step =>
      obtain ⟨w, -, hw⟩ := bind_eq_ok_iff.mp h
      obtain ⟨dt, -, hdt⟩ := bind_eq_ok_iff.mp hw
      obtain ⟨velocity, -, hvelocity⟩ := bind_eq_ok_iff.mp hdt
      obtain ⟨position, -, hposition⟩ := bind_eq_ok_iff.mp hvelocity
      rw [← Except.ok.inj hposition]
      rfl
  | deleteFixture | setSensor | setDensity | setFriction | setRestitution =>
      exact verb_of_readOnFixture (fun _ _ _ => rfl) h
  | _ => exact verb_of_readOnBody (fun _ _ _ => rfl) h

theorem arity_le (v : Verb) : v.arity ≤ maxArguments := by
  cases v <;> decide

theorem ofName?_eq_some_iff {name : String} {v : Verb} : ofName? name = some v ↔ v.name = name := by
  constructor
  · intro h
    have hfound := List.find?_some h
    exact beq_iff_eq.mp hfound
  · rintro rfl
    exact ofName?_name v

theorem ofName?_eq_none_iff {name : String} : ofName? name = none ↔ name ∉ all.map Verb.name := by
  rw [List.mem_map, ofName?, List.find?_eq_none]
  constructor
  · rintro h ⟨v, hv, hname⟩
    exact h v hv (beq_iff_eq.mpr hname)
  · intro h v hv hname
    exact h ⟨v, hv, beq_iff_eq.mp hname⟩

end Verb

namespace Arguments

theorem all_slots_iff (a : Arguments) {count : Nat} (hcount : count ≤ maxArguments) :
    ((a.values.take count).all (·.isSome) = true) ↔ ∀ i < count, (a.slot i).isSome := by
  have hlength := a.length_values
  rw [List.all_eq_true]
  constructor
  · intro h i hi
    have hlt : i < (a.values.take count).length := by
      rw [List.length_take]
      omega
    have hsome := h _ (List.getElem_mem hlt)
    rw [List.getElem_take] at hsome
    rw [slot, List.getElem?_eq_getElem (by omega)]
    exact hsome
  · intro h v hv
    obtain ⟨i, hi, rfl⟩ := List.mem_iff_getElem.mp hv
    rw [List.length_take] at hi
    have hsome := h i (by omega)
    rw [slot, List.getElem?_eq_getElem (by omega)] at hsome
    rw [List.getElem_take]
    exact hsome

theorem expect_of_filled {count : Nat} (hcount : count ≤ maxArguments)
    (h : ∀ i < count, (a.slot i).isSome) : a.expect count = .ok () := by
  rw [expect, if_pos ((a.all_slots_iff hcount).mpr h)]

theorem expect_of_empty {count : Nat} (hcount : count ≤ maxArguments) (hi : i < count)
    (h : a.slot i = none) : a.expect count = .error (.missingArguments a.command) := by
  rw [expect, if_neg]
  rw [a.all_slots_iff hcount]
  intro hall
  have hsome := hall i hi
  rw [h] at hsome
  cases hsome

theorem ofEntries_eq_ok_iff {entries : List (String × Value)} :
    ofEntries entries = .ok a ↔
      entries.lookup "command" = some (.text a.command) ∧
        a.values = entries.foldl store noValues := by
  unfold ofEntries
  split
  · rename_i command hlookup
    rw [hlookup]
    constructor
    · intro h
      rw [← Except.ok.inj h]
      exact ⟨rfl, rfl⟩
    · rintro ⟨hcommand, hvalues⟩
      obtain rfl := Value.text.inj (Option.some.inj hcommand)
      exact congrArg Except.ok (Arguments.ext rfl hvalues.symm)
  · rename_i hlookup
    exact ⟨nofun, fun h => absurd h.1 (hlookup a.command)⟩

theorem ofEntries_eq_error_iff {entries : List (String × Value)} {e : MessageError} :
    ofEntries entries = .error e ↔
      e = .missingCommand ∧ ∀ name, entries.lookup "command" ≠ some (.text name) := by
  unfold ofEntries
  split
  · rename_i command hlookup
    exact ⟨nofun, fun h => absurd hlookup (h.2 command)⟩
  · rename_i hlookup
    exact ⟨fun h => ⟨(Except.error.inj h).symm, hlookup⟩, fun h => by rw [h.1]⟩

end Arguments

theorem Verb.complaint?_shape {v : Verb} {e : MessageError} (h : v.complaint? a = some e) :
    (∃ i < v.arity, ∃ reason,
        e = .invalidArgument a.command ("param" ++ toString (i + 1) ++ ": " ++ reason)) ∨
      (∃ k raw, raw < (0 : Int32) ∧ e = .refused (.invalidHandle k raw.toInt)) ∨
      (v = .createBody ∧ ∃ raw, e = .refused (.invalidParameter (.unknownBodyKind raw))) := by
  by_cases hv : v = .createBody
  · subst hv
    rcases Option.or_eq_some_iff.mp h with hbody | ⟨-, hrest⟩
    · rcases Arguments.complaint?_shape hbody with ⟨reason, he⟩ | hhandle
      · exact .inl ⟨1, by decide, reason, he⟩
      · exact .inr (.inl hhandle)
    rcases Option.or_eq_some_iff.mp hrest with hworld | ⟨-, hkind⟩
    · rcases Arguments.complaint?_shape hworld with ⟨reason, he⟩ | hhandle
      · exact .inl ⟨0, by decide, reason, he⟩
      · exact .inr (.inl hhandle)
    · exact .inr (.inr ⟨rfl, Arguments.kindComplaint?_shape hkind⟩)
  · rw [Verb.complaint?] at h
    · obtain ⟨i, d, hd, he, -⟩ := Arguments.firstComplaint?_eq_some_iff.mp h
      rw [Nat.zero_add] at he
      have hi : i < v.arity := by
        rw [← v.length_demands]
        exact (List.getElem?_eq_some_iff.mp hd).1
      rcases Arguments.complaint?_shape he with ⟨reason, he⟩ | hhandle
      · exact .inl ⟨i, hi, reason, he⟩
      · exact .inr (.inl hhandle)
    · exact hv

namespace Command

/-- A message is an object that names a command, and has these arguments. -/
def Asks (message : String) (a : Arguments) : Prop :=
  ∃ entries, Denotes message (.object entries) ∧
    entries.lookup "command" = some (.text a.command) ∧
      a.values = entries.foldl Arguments.store Arguments.noValues

variable {message : String}

theorem parse_of_denotes {entries : List (String × Value)}
    (h : Denotes message (.object entries)) :
    parse message = (Arguments.ofEntries entries).bind ofArguments := by
  rw [parse, parseObject_eq_ok_iff.mpr h]

theorem parse_of_asks (h : Asks message a) : parse message = ofArguments a := by
  obtain ⟨entries, hdenotes, hentries⟩ := h
  rw [parse_of_denotes hdenotes, Arguments.ofEntries_eq_ok_iff.mpr hentries]
  rfl

theorem parse_of_unknown (h : Asks message a) (hname : a.command ∉ Verb.all.map Verb.name) :
    parse message = .error (.unknownCommand a.command) := by
  rw [parse_of_asks h, ofArguments, Verb.ofName?_eq_none_iff.mpr hname]

theorem ofArguments_of_name {v : Verb} (hname : a.command = v.name) :
    ofArguments a = a.expect v.arity >>= fun _ => v.read a := by
  rw [ofArguments, Verb.ofName?_eq_some_iff.mpr hname.symm]

theorem parse_of_empty {v : Verb} (h : Asks message a) (hname : a.command = v.name)
    (hi : i < v.arity) (hslot : a.slot i = none) :
    parse message = .error (.missingArguments v.name) := by
  rw [parse_of_asks h, ofArguments_of_name hname, Arguments.expect_of_empty v.arity_le hi hslot,
    error_bind, hname]

theorem parse_of_filled {v : Verb} (h : Asks message a) (hname : a.command = v.name)
    (hfull : ∀ i < v.arity, (a.slot i).isSome) : parse message = v.read a := by
  rw [parse_of_asks h, ofArguments_of_name hname, Arguments.expect_of_filled v.arity_le hfull,
    ok_bind]

theorem parse_of_malformed (h : ∀ entries, ¬ Denotes message (.object entries)) :
    ∃ e, parse message = .error (.malformed e) := by
  rcases hobject : parseObject message with e | entries
  · exact ⟨e, by rw [parse, hobject]⟩
  · exact absurd (parseObject_eq_ok_iff.mp hobject) (h entries)

theorem parse_of_nameless {entries : List (String × Value)}
    (h : Denotes message (.object entries))
    (hname : ∀ name, entries.lookup "command" ≠ some (.text name)) :
    parse message = .error .missingCommand := by
  rw [parse_of_denotes h, Arguments.ofEntries_eq_error_iff.mpr ⟨rfl, hname⟩]
  rfl

/-- How far the reading of a message gets. -/
inductive Stage (message : String) : Prop
  | malformed (h : ∀ entries, ¬ Denotes message (.object entries))
  | nameless {entries : List (String × Value)} (h : Denotes message (.object entries))
      (hname : ∀ name, entries.lookup "command" ≠ some (.text name))
  | unknown {a : Arguments} (h : Asks message a) (hname : a.command ∉ Verb.all.map Verb.name)
  | short {a : Arguments} {v : Verb} {i : Nat} (h : Asks message a) (hname : a.command = v.name)
      (hi : i < v.arity) (hslot : a.slot i = none)
  | filled {a : Arguments} {v : Verb} (h : Asks message a) (hname : a.command = v.name)
      (hfull : ∀ i < v.arity, (a.slot i).isSome)

theorem stage (message : String) : Stage message := by
  by_cases hobject : ∃ entries, Denotes message (.object entries)
  · obtain ⟨entries, hdenotes⟩ := hobject
    by_cases hcommand : ∃ name, entries.lookup "command" = some (.text name)
    · obtain ⟨name, hlookup⟩ := hcommand
      obtain ⟨a, ha⟩ : ∃ a, Arguments.ofEntries entries = .ok a := by
        unfold Arguments.ofEntries
        rw [hlookup]
        exact ⟨_, rfl⟩
      have hasks : Asks message a := ⟨entries, hdenotes, Arguments.ofEntries_eq_ok_iff.mp ha⟩
      by_cases hname : a.command ∈ Verb.all.map Verb.name
      · obtain ⟨v, -, hv⟩ := List.mem_map.mp hname
        by_cases hfull : ∀ i < v.arity, (a.slot i).isSome
        · exact .filled hasks hv.symm hfull
        · push Not at hfull
          obtain ⟨i, hi, hslot⟩ := hfull
          exact .short hasks hv.symm hi (Option.not_isSome_iff_eq_none.mp hslot)
      · exact .unknown hasks hname
    · exact .nameless hdenotes fun name hlookup => hcommand ⟨name, hlookup⟩
  · exact .malformed fun entries hdenotes => hobject ⟨entries, hdenotes⟩

theorem Asks.unique (h : Asks message a) (h' : Asks message a') : a = a' := by
  obtain ⟨entries, hdenotes, hcommand, hvalues⟩ := h
  obtain ⟨entries', hdenotes', hcommand', hvalues'⟩ := h'
  obtain rfl := Value.object.inj (hdenotes.unique hdenotes')
  refine Arguments.ext ?_ (hvalues.trans hvalues'.symm)
  rw [hcommand] at hcommand'
  exact Value.text.inj (Option.some.inj hcommand')

theorem parse_eq_error_iff_of_filled {v : Verb} {e : MessageError} (h : Asks message a)
    (hname : a.command = v.name) (hfull : ∀ i < v.arity, (a.slot i).isSome) :
    parse message = .error e ↔ v.complaint? a = some e := by
  have hfails := Verb.failsWith_read hfull
  rw [parse_of_filled h hname hfull]
  rcases hcomplaint : v.complaint? a with _ | e'
  · rw [hcomplaint] at hfails
    obtain ⟨c, hc⟩ := hfails
    rw [hc]
    exact ⟨nofun, nofun⟩
  · rw [hcomplaint] at hfails
    obtain hfails : v.read a = .error e' := hfails
    rw [hfails]
    constructor
    · intro he
      rw [Except.error.inj he]
    · intro he
      rw [Option.some.inj he]

/-- What a message must look like for an error that concerns it as a whole. -/
def Occasion (message : String) : MessageError → Prop
  | .malformed _ => ∀ entries, ¬ Denotes message (.object entries)
  | .missingCommand => ∃ entries, Denotes message (.object entries) ∧
      ∀ name, entries.lookup "command" ≠ some (.text name)
  | .unknownCommand name =>
      (∃ a, Asks message a ∧ a.command = name) ∧ name ∉ Verb.all.map Verb.name
  | .missingArguments name => ∃ a, ∃ v : Verb, Asks message a ∧ a.command = v.name ∧
      v.name = name ∧ ∃ i < v.arity, a.slot i = none
  | .invalidArgument _ _ => True
  | .refused _ => True

theorem occasion_of_error {e : MessageError} (h : parse message = .error e) :
    Occasion message e := by
  rcases stage message with hobject | ⟨hdenotes, hname⟩ | ⟨hasks, hname⟩ |
    ⟨hasks, hname, hi, hslot⟩ | ⟨hasks, hname, hfull⟩
  · obtain ⟨e', he'⟩ := parse_of_malformed hobject
    rw [he'] at h
    rw [← Except.error.inj h]
    exact hobject
  · rw [parse_of_nameless hdenotes hname] at h
    rw [← Except.error.inj h]
    exact ⟨_, hdenotes, hname⟩
  · rw [parse_of_unknown hasks hname] at h
    rw [← Except.error.inj h]
    exact ⟨⟨_, hasks, rfl⟩, hname⟩
  · rw [parse_of_empty hasks hname hi hslot] at h
    rw [← Except.error.inj h]
    exact ⟨_, _, hasks, hname, rfl, _, hi, hslot⟩
  · have hcomplaint := (parse_eq_error_iff_of_filled hasks hname hfull).mp h
    rcases Verb.complaint?_shape hcomplaint with ⟨_, _, _, rfl⟩ | ⟨_, _, _, rfl⟩ | ⟨_, _, rfl⟩
    · trivial
    · trivial
    · trivial

/-- What the stages of reading a message come to. -/
structure Staged (message : String) : Prop where
  malformed : (∃ e, parse message = .error (.malformed e)) ↔
    ∀ entries, ¬ Denotes message (.object entries)
  missingCommand : parse message = .error .missingCommand ↔
    ∃ entries, Denotes message (.object entries) ∧
      ∀ name, entries.lookup "command" ≠ some (.text name)
  unknownCommand : ∀ name, parse message = .error (.unknownCommand name) ↔
    (∃ a, Asks message a ∧ a.command = name) ∧ name ∉ Verb.all.map Verb.name
  missingArguments : ∀ name, parse message = .error (.missingArguments name) ↔
    ∃ a, ∃ v : Verb, Asks message a ∧ a.command = v.name ∧ v.name = name ∧
      ∃ i < v.arity, a.slot i = none
  /-- Otherwise an argument is to blame, or the handle in it, or the kind of a new body. -/
  blame : ∀ (a : Arguments) (v : Verb) (e : MessageError), Asks message a → a.command = v.name →
    (∀ i < v.arity, (a.slot i).isSome) → parse message = .error e →
    (∃ i < v.arity, ∃ reason,
      e = .invalidArgument v.name ("param" ++ toString (i + 1) ++ ": " ++ reason)) ∨
    (∃ k raw, raw < (0 : Int32) ∧ e = .refused (.invalidHandle k raw.toInt)) ∨
    (v = .createBody ∧ ∃ raw, e = .refused (.invalidParameter (.unknownBodyKind raw)))
  /-- The first argument from the left that is not as it should be decides. -/
  leftmost : ∀ (a : Arguments) (v : Verb) (e : MessageError), Asks message a → a.command = v.name →
    (∀ i < v.arity, (a.slot i).isSome) → v ≠ .createBody →
    (parse message = .error e ↔ ∃ i d, v.demands[i]? = some d ∧ a.complaint? i d = some e ∧
      ∀ j < i, ∀ d', v.demands[j]? = some d' → a.complaint? j d' = none)
  /-- A new body's record is looked at before its world, and its kind last. -/
  newBody : ∀ (a : Arguments) (e : MessageError), Asks message a →
    a.command = Verb.createBody.name → (a.slot 0).isSome → (a.slot 1).isSome →
    (parse message = .error e ↔ a.complaint? 1 .body = some e ∨
      a.complaint? 1 .body = none ∧ (a.complaint? 0 (.handle .world) = some e ∨
        a.complaint? 0 (.handle .world) = none ∧ a.kindComplaint? = some e))
  accepted : ∀ (a : Arguments) (v : Verb), Asks message a → a.command = v.name →
    (∀ i < v.arity, (a.slot i).isSome) → v.complaint? a = none →
    ∃ c, parse message = .ok c ∧ c.verb = v
  /-- Further arguments change nothing. -/
  further : ∀ (message' : String) (a a' : Arguments) (v : Verb), Asks message a →
    Asks message' a' → a.command = v.name → a'.command = v.name →
    (∀ i < v.arity, a.slot i = a'.slot i) → parse message' = parse message

theorem leftmost_iff {v : Verb} {e : MessageError} (hv : v ≠ .createBody) :
    v.complaint? a = some e ↔ ∃ i d, v.demands[i]? = some d ∧ a.complaint? i d = some e ∧
      ∀ j < i, ∀ d', v.demands[j]? = some d' → a.complaint? j d' = none := by
  rw [Verb.complaint?]
  · rw [Arguments.firstComplaint?_eq_some_iff]
    simp only [Nat.zero_add]
  · exact hv

/-- The reading of a message ends at the first stage it does not pass. -/
theorem staged_parse (message : String) : Staged message where
  malformed := by
    constructor
    · rintro ⟨e, he⟩
      exact occasion_of_error he
    · exact parse_of_malformed
  missingCommand := by
    constructor
    · exact occasion_of_error
    · rintro ⟨entries, hdenotes, hname⟩
      exact parse_of_nameless hdenotes hname
  unknownCommand := by
    intro name
    constructor
    · exact occasion_of_error
    · rintro ⟨⟨a, hasks, rfl⟩, hname⟩
      exact parse_of_unknown hasks hname
  missingArguments := by
    intro name
    constructor
    · exact occasion_of_error
    · rintro ⟨a, v, hasks, hname, rfl, i, hi, hslot⟩
      exact parse_of_empty hasks hname hi hslot
  blame := by
    intro a v e hasks hname hfull he
    have hcomplaint := (parse_eq_error_iff_of_filled hasks hname hfull).mp he
    rw [← hname]
    exact Verb.complaint?_shape hcomplaint
  leftmost := by
    intro a v e hasks hname hfull hv
    rw [parse_eq_error_iff_of_filled hasks hname hfull, leftmost_iff hv]
  newBody := by
    intro a e hasks hname hworld hbody
    have hfull : ∀ i < Verb.createBody.arity, (a.slot i).isSome := by
      rintro (_ | _ | i) hi
      · exact hworld
      · exact hbody
      · exact absurd hi (by simp [Verb.arity])
    rw [parse_eq_error_iff_of_filled hasks hname hfull, Verb.complaint?, Option.or_eq_some_iff,
      Option.or_eq_some_iff]
  accepted := by
    intro a v hasks hname hfull hcomplaint
    have hfails := Verb.failsWith_read hfull
    rw [hcomplaint] at hfails
    obtain ⟨c, hc⟩ := hfails
    exact ⟨c, (parse_of_filled hasks hname hfull).trans hc, Verb.verb_of_read hc⟩
  further := by
    intro message' a a' v hasks hasks' hname hname' hslots
    by_cases hfull : ∀ i < v.arity, (a.slot i).isSome
    · have hfull' : ∀ i < v.arity, (a'.slot i).isSome := by
        intro i hi
        rw [← hslots i hi]
        exact hfull i hi
      rw [parse_of_filled hasks' hname' hfull', parse_of_filled hasks hname hfull]
      exact (Verb.read_congr (hname.trans hname'.symm) hslots).symm
    · push Not at hfull
      obtain ⟨i, hi, hslot⟩ := hfull
      have hempty : a.slot i = none := Option.not_isSome_iff_eq_none.mp hslot
      rw [parse_of_empty hasks' hname' hi ((hslots i hi).symm.trans hempty),
        parse_of_empty hasks hname hi hempty]

/-- An object is refused as a whole for a number that no double can hold. -/
theorem object_beyond_range :
    (∃ entries, Document "\x7b\"command\":\"clearForces\",\"param1\":0,\"x\":1e999\x7d"
      (.object entries)) ∧
    ∃ e, parse "\x7b\"command\":\"clearForces\",\"param1\":0,\"x\":1e999\x7d" =
      .error (.malformed e) := by
  constructor
  · have hquoted : ∀ s : String, ∀ p ∈ piecesOf s.toList, p.WellFormed :=
      fun s => (says_piecesOf s.toList).wellFormed
    have hcomma : ∀ cs : List Char, Separates false (',' :: cs) cs :=
      fun cs => ⟨cs, blanks_refl _, blanks_refl _⟩
    have hzero : Literal.WellFormed ⟨false, ['0'], [], none⟩ :=
      ⟨.cons rfl nofun, nofun, fun _ => rfl, nofun, nofun⟩
    have hlarge : Literal.WellFormed ⟨false, ['1'], [], some ⟨'e', [], ['9', '9', '9']⟩⟩ := by
      refine ⟨.cons rfl nofun, nofun, fun h => absurd h (by decide), nofun, ?_⟩
      intro e he
      rw [← Option.mem_some_iff.mp he]
      exact ⟨.inl rfl, .inl rfl, .cons rfl (.cons rfl (.cons rfl nofun)), nofun⟩
    have hend : SpellsEntries false [] ['\x7d'] [] := .done (blanks_refl _)
    have hx := SpellsEntries.entry (hcomma _) (hquoted "x") (blanks_refl _) (blanks_refl _)
      (.number hlarge) hend
    have hparam := SpellsEntries.entry (hcomma _) (hquoted "param1") (blanks_refl _)
      (blanks_refl _) (.number hzero) hx
    have hstart : ∀ cs, Separates true cs cs := blanks_refl
    have hcommand := SpellsEntries.entry (hstart _) (hquoted "command") (blanks_refl _)
      (blanks_refl _) (.text (hquoted "clearForces")) hparam
    exact ⟨_, _, [], blanks_refl _, .object hcommand, blanks_refl []⟩
  · have hparse : (match parse "\x7b\"command\":\"clearForces\",\"param1\":0,\"x\":1e999\x7d" with
        | .error (.malformed _) => true
        | _ => false) = true := by decide +kernel
    split at hparse
    · rename_i e he
      exact ⟨e, he⟩
    · cases hparse

end Command

end RigidWorlds
