import RigidWorlds.Proofs.ArgumentKeys
import RigidWorlds.Proofs.History
import RigidWorlds.Proofs.MachineFloat

namespace RigidWorlds

open Json

namespace PositionDefinition

def value (p : PositionDefinition) : Value := .object [("x", .ofSingle p.x), ("y", .ofSingle p.y)]

def Finite (p : PositionDefinition) : Prop := p.x.isFinite = true ∧ p.y.isFinite = true

instance : DecidablePred Finite := fun _ => inferInstanceAs (Decidable (_ ∧ _))

end PositionDefinition

namespace BodyDefinition

def value (d : BodyDefinition) : Value :=
  .object [("position", d.position.value), ("type", .integer d.kind.toInt)]

end BodyDefinition

namespace ShapeDefinition

def value (s : ShapeDefinition) : Value :=
  .object [("height", .ofSingle s.height), ("radius", .ofSingle s.radius), ("type", .text s.kind),
    ("width", .ofSingle s.width)]

def Finite (s : ShapeDefinition) : Prop :=
  s.radius.isFinite = true ∧ s.width.isFinite = true ∧ s.height.isFinite = true

instance : DecidablePred Finite := fun _ => inferInstanceAs (Decidable (_ ∧ _ ∧ _))

end ShapeDefinition

namespace FixtureDefinition

def value (d : FixtureDefinition) : Value :=
  .object [("density", .ofSingle d.density), ("friction", .ofSingle d.friction),
    ("isSensor", .boolean d.isSensor), ("restitution", .ofSingle d.restitution),
    ("shape", d.shape.value)]

def Finite (d : FixtureDefinition) : Prop :=
  d.friction.isFinite = true ∧ d.restitution.isFinite = true ∧ d.density.isFinite = true ∧
    d.shape.Finite

instance : DecidablePred Finite := fun _ => inferInstanceAs (Decidable (_ ∧ _ ∧ _ ∧ _))

end FixtureDefinition

/-- What an argument carries. -/
inductive Datum where
  | handle {k : Kind} (h : Handle k)
  | single (x : Float32)
  | boolean (b : Bool)
  | count (n : UInt32)
  | body (d : BodyDefinition)
  | fixture (d : FixtureDefinition)

namespace Datum

def value : Datum → Value
  | handle h => .integer h.raw.toInt
  | single x => .ofSingle x
  | boolean b => .boolean b
  | count n => .integer n.toNat
  | body d => d.value
  | fixture d => d.value

/-- Handles and counts are signed words and singles are finite. -/
def Fits : Datum → Prop
  | handle h => h.index.toNat < 2 ^ 31
  | single x => x.isFinite = true
  | boolean _ => True
  | count n => n.toNat < 2 ^ 31
  | body d => d.position.Finite
  | fixture d => d.Finite

instance : DecidablePred Fits
  | handle h => inferInstanceAs (Decidable (h.index.toNat < 2 ^ 31))
  | single x => inferInstanceAs (Decidable (x.isFinite = true))
  | boolean _ => inferInstanceAs (Decidable True)
  | count n => inferInstanceAs (Decidable (n.toNat < 2 ^ 31))
  | body d => inferInstanceAs (Decidable d.position.Finite)
  | fixture d => inferInstanceAs (Decidable d.Finite)

end Datum

namespace Command

def verb : Command → Verb
  | createWorld _ _ => .createWorld
  | destroyWorld _ => .destroyWorld
  | setContinuous _ _ => .setContinuous
  | setGravity _ _ => .setGravity
  | clearForces _ => .clearForces
  | step _ _ _ _ => .step
  | getLastContacts _ => .getLastContacts
  | createBody _ _ _ => .createBody
  | deleteBody _ _ => .deleteBody
  | setBodyTransform _ _ _ _ => .setBodyTransform
  | setLinearVelocity _ _ _ => .setLinearVelocity
  | getLinearVelocity _ _ => .getLinearVelocity
  | setAngularVelocity _ _ _ => .setAngularVelocity
  | getAngularVelocity _ _ => .getAngularVelocity
  | applyImpulse _ _ _ _ _ => .applyImpulse
  | applyForceToCenter _ _ _ _ => .applyForceToCenter
  | setLinearDamping _ _ _ => .setLinearDamping
  | setActive _ _ _ => .setActive
  | setAwake _ _ _ => .setAwake
  | isAwake _ _ => .isAwake
  | getWorldCenter _ _ => .getWorldCenter
  | getLocalCenter _ _ => .getLocalCenter
  | getObjectContacts _ _ => .getObjectContacts
  | createFixture _ _ _ => .createFixture
  | deleteFixture _ _ => .deleteFixture
  | setSensor _ _ _ => .setSensor
  | setDensity _ _ _ => .setDensity
  | setFriction _ _ _ => .setFriction
  | setRestitution _ _ _ => .setRestitution
  | createDistanceJoint _ _ _ => .createDistanceJoint
  | deleteJoint _ _ => .deleteJoint

/-- The data of a command in the order of its arguments. -/
def data : Command → List Datum
  | createWorld gravity allowSleep => [.single gravity.x, .single gravity.y, .boolean allowSleep]
  | destroyWorld w | clearForces w | getLastContacts w => [.handle w]
  | setContinuous w enabled => [.handle w, .boolean enabled]
  | setGravity w gravity => [.handle w, .single gravity.x, .single gravity.y]
  | step w dt velocityIterations positionIterations =>
      [.handle w, .single dt, .count velocityIterations, .count positionIterations]
  | createBody w kind place => [.handle w, .body ⟨kind.raw, ⟨place.x, place.y⟩⟩]
  | deleteBody w b | getLinearVelocity w b | getAngularVelocity w b | isAwake w b
  | getWorldCenter w b | getLocalCenter w b | getObjectContacts w b => [.handle w, .handle b]
  | setBodyTransform w b place angle =>
      [.handle w, .handle b, .single place.x, .single place.y, .single angle]
  | setLinearVelocity w b v => [.handle w, .handle b, .single v.x, .single v.y]
  | setAngularVelocity w b v => [.handle w, .handle b, .single v]
  | applyImpulse w b impulse point wake =>
      [.handle w, .handle b, .single impulse.x, .single impulse.y, .single point.x,
        .single point.y, .boolean wake]
  | applyForceToCenter w b force wake =>
      [.handle w, .handle b, .single force.x, .single force.y, .boolean wake]
  | setLinearDamping w b damping => [.handle w, .handle b, .single damping]
  | setActive w b active => [.handle w, .handle b, .boolean active]
  | setAwake w b awake => [.handle w, .handle b, .boolean awake]
  | createFixture w b fixture => [.handle w, .handle b, .fixture fixture]
  | deleteFixture w f => [.handle w, .handle f]
  | setSensor w f isSensor => [.handle w, .handle f, .boolean isSensor]
  | setDensity w f x | setFriction w f x | setRestitution w f x =>
      [.handle w, .handle f, .single x]
  | createDistanceJoint w a b => [.handle w, .handle a, .handle b]
  | deleteJoint w j => [.handle w, .handle j]

end Command

/-- The entries of arguments whose places follow on a number of others. -/
def argumentEntries (start : Nat) : List Value → List (String × Value)
  | [] => []
  | v :: rest => ("param" ++ toString (start + 1), v) :: argumentEntries (start + 1) rest

namespace Command

/-- The entries of the message of a command, in ascending order of their keys. -/
def entries (c : Command) : List (String × Value) :=
  ("command", .text c.verb.name) :: argumentEntries 0 (c.data.map Datum.value)

/-- A command that can be written without loss. -/
def Encodable (c : Command) : Prop := ∀ d ∈ c.data, d.Fits

instance : DecidablePred Encodable := fun c => inferInstanceAs (Decidable (∀ d ∈ c.data, d.Fits))

end Command

namespace Json

theorem Value.ofSingle_of_isFinite {x : Float32} (hx : x.isFinite = true) :
    Value.ofSingle x = .number (.real (Binary.widen x)) := by
  rw [Value.ofSingle, Value.ofDouble, if_pos (Binary.isFinite_widen hx)]

theorem Decode.ofValue_number (n : Number) :
    (Decode.ofValue (.number n) : Except Cause Float32) = .ok n.toSingle := rfl

theorem Decode.ofValue_ofSingle {x : Float32} (hx : x.isFinite = true) :
    Decode.ofValue (Value.ofSingle x) = .ok x := by
  rw [Value.ofSingle_of_isFinite hx, ofValue_number, Number.toSingle, Binary.narrow_widen hx]

theorem Decode.ofValue_integer (n : Int) :
    (Decode.ofValue (Value.integer n) : Except Cause Int32) =
      (acceptInteger "i32" (-0x80000000) 0x7fffffff (.integer n)).map Int32.ofInt := rfl

theorem Decode.ofValue_signed (n : Int32) :
    Decode.ofValue (Value.integer n.toInt) = .ok n := by
  have hrange : -0x80000000 ≤ n.toInt ∧ n.toInt ≤ 0x7fffffff := ⟨n.le_toInt, n.toInt_le⟩
  rw [ofValue_integer, acceptInteger, if_pos hrange, Except.map, Int32.ofInt_toInt]

namespace Record

variable {α β : Type} {r : Record α}

theorem ofValue_object {entries : List (String × Value)} {d : Draft α} {a : α}
    (hd : entries.foldlM r.addEntry r.start = .ok d) (ha : r.finishObject d = .ok a) :
    r.ofValue (.object entries) = .ok a := by
  rw [ofValue, hd]
  exact ha

theorem foldlM_addEntry_cons {name : String} {v : Value} {rest : List (String × Value)}
    {f : Field α} {change : α → α} {a : α} {filled : List String}
    (hf : r.field? name = some f) (hv : f.ofValue v = .ok change)
    (hnew : filled.contains f.name = false) :
    ((name, v) :: rest).foldlM r.addEntry ⟨a, filled⟩ =
      rest.foldlM r.addEntry ⟨change a, f.name :: filled⟩ := by
  have hentry : r.addEntry ⟨a, filled⟩ (name, v) = .ok ⟨change a, f.name :: filled⟩ := by
    simp only [addEntry, hf, hnew, hv]
    rfl
  rw [List.foldlM_cons, hentry]
  rfl

end Record

theorem Field.ofValue_optional {α β : Type} [Decode β] {name : String} {put : β → α → α} {v : Value}
    {b : β} (hv : Decode.ofValue v = .ok b) :
    (Field.optional name put).ofValue v = .ok (put b) := by
  change (Decode.ofValue v).map put = _
  rw [hv]
  rfl

theorem Field.ofValue_needed {α β : Type} [Decode β] {name : String} {put : β → α → α} {v : Value}
    {b : β} (hv : Decode.ofValue v = .ok b) :
    (Field.needed name put).ofValue v = .ok (put b) := by
  have hread : (Field.optional name put).ofValue v = .ok (put b) := ofValue_optional hv
  exact hread

end Json

section

open Json.Record (ofValue_object foldlM_addEntry_cons)
open Json.Field (ofValue_optional ofValue_needed)
open Json.Decode (ofValue_ofSingle ofValue_signed)

theorem PositionDefinition.ofValue_value {p : PositionDefinition} (hp : p.Finite) :
    Decode.ofValue p.value = .ok p := by
  obtain ⟨hx, hy⟩ := hp
  refine ofValue_object (d := ⟨p, ["y", "x"]⟩) ?_ rfl
  unfold Record.start
  rw [foldlM_addEntry_cons rfl (ofValue_optional (ofValue_ofSingle hx)) rfl,
    foldlM_addEntry_cons rfl (ofValue_optional (ofValue_ofSingle hy)) rfl]
  rfl

theorem BodyDefinition.ofValue_value {b : BodyDefinition} (hb : b.position.Finite) :
    Decode.ofValue b.value = .ok b := by
  refine ofValue_object (d := ⟨b, ["type", "position"]⟩) ?_ rfl
  unfold Record.start
  rw [foldlM_addEntry_cons rfl (ofValue_optional (PositionDefinition.ofValue_value hb)) rfl,
    foldlM_addEntry_cons rfl (ofValue_needed (ofValue_signed b.kind)) rfl]
  rfl

theorem ShapeDefinition.ofValue_value {s : ShapeDefinition} (hs : s.Finite) :
    Decode.ofValue s.value = .ok s := by
  obtain ⟨hradius, hwidth, hheight⟩ := hs
  have hkind : Decode.ofValue (Value.text s.kind) = .ok s.kind := rfl
  refine ofValue_object (d := ⟨s, ["width", "type", "radius", "height"]⟩) ?_ rfl
  unfold Record.start
  rw [foldlM_addEntry_cons rfl (ofValue_optional (ofValue_ofSingle hheight)) rfl,
    foldlM_addEntry_cons rfl (ofValue_optional (ofValue_ofSingle hradius)) rfl,
    foldlM_addEntry_cons rfl (ofValue_needed hkind) rfl,
    foldlM_addEntry_cons rfl (ofValue_optional (ofValue_ofSingle hwidth)) rfl]
  rfl

theorem FixtureDefinition.ofValue_value {f : FixtureDefinition} (hf : f.Finite) :
    Decode.ofValue f.value = .ok f := by
  obtain ⟨hfriction, hrestitution, hdensity, hshape⟩ := hf
  have hsensor : Decode.ofValue (Value.boolean f.isSensor) = .ok f.isSensor := rfl
  refine ofValue_object
    (d := ⟨f, ["shape", "restitution", "isSensor", "friction", "density"]⟩) ?_ rfl
  unfold Record.start
  rw [foldlM_addEntry_cons rfl (ofValue_optional (ofValue_ofSingle hdensity)) rfl,
    foldlM_addEntry_cons rfl (ofValue_optional (ofValue_ofSingle hfriction)) rfl,
    foldlM_addEntry_cons rfl (ofValue_optional hsensor) rfl,
    foldlM_addEntry_cons rfl (ofValue_optional (ofValue_ofSingle hrestitution)) rfl,
    foldlM_addEntry_cons rfl (ofValue_needed (ShapeDefinition.ofValue_value hshape)) rfl]
  rfl

end

namespace Arguments

variable {a : Arguments} {i : Nat}

/-- What reading an argument in the way of a datum comes to. -/
def Reads (a : Arguments) (i : Nat) : Datum → Prop
  | .handle (k := k) h => a.handle k i = .ok h
  | .single x => a.float i = .ok x
  | .boolean b => a.boolean i = .ok b
  | .count n => Verb.readCount a i = .ok n
  | .body d => a.object i = .ok d
  | .fixture d => a.object i = .ok d

theorem read_of_value {α : Type} {kind : String} {f : Value → Option α} {v : Value} {x : α}
    (hv : a.value i = .ok v) (hf : f v = some x) : a.read i kind f = .ok x := by
  simp only [read, hv, ok_bind, hf]
  rfl

theorem int_of_value {n : Int32} (hv : a.value i = .ok (.integer n.toInt)) :
    a.int i = .ok n := by
  apply read_of_value hv
  change (if _ then some (Int32.ofInt n.toInt) else none) = some n
  rw [if_pos ⟨n.minValue_le_toInt, n.toInt_le⟩, Int32.ofInt_toInt]

theorem object_of_value {α : Type} [Decode α] {v : Value} {x : α} (hv : a.value i = .ok v)
    (hx : Decode.ofValue v = .ok x) : a.object i = .ok x := by
  simp only [object, hv, ok_bind, hx]
  rfl

theorem toInt32_nonnegative {n : UInt32} (hn : n.toNat < 2 ^ 31) : ¬ n.toInt32 < 0 := by
  rw [Int32.lt_iff_toInt_lt, Handle.toInt_toInt32 hn]
  exact Int.not_lt.mpr (Int.natCast_nonneg _)

theorem handle_of_value {k : Kind} {h : Handle k} (hbounded : h.index.toNat < 2 ^ 31)
    (hv : a.value i = .ok (.integer h.raw.toInt)) : a.handle k i = .ok h := by
  have hnonnegative : ¬ h.raw < 0 := toInt32_nonnegative hbounded
  have hword : h.raw.toUInt32 = h.index := rfl
  simp only [handle, int_of_value hv, ok_bind, Handle.ofRaw, if_neg hnonnegative, hword]
  rfl

theorem count_of_value {n : UInt32} (hbounded : n.toNat < 2 ^ 31)
    (hv : a.value i = .ok (.integer n.toNat)) : Verb.readCount a i = .ok n := by
  rw [← Handle.toInt_toInt32 hbounded] at hv
  rw [Verb.readCount, int_of_value hv, Except.map, if_neg (toInt32_nonnegative hbounded)]
  rfl

theorem reads_of_value {d : Datum} (hd : d.Fits) (hv : a.value i = .ok d.value) : a.Reads i d := by
  cases d with
  | handle h => exact handle_of_value hd hv
  | single x =>
      apply read_of_value hv
      rw [Datum.value, Value.ofSingle_of_isFinite hd, single?, Binary.narrow_widen hd]
  | boolean b => exact read_of_value hv rfl
  | count n => exact count_of_value hd hv
  | body d => exact object_of_value hv (BodyDefinition.ofValue_value hd)
  | fixture d => exact object_of_value hv (FixtureDefinition.ofValue_value hd)

end Arguments

namespace Arguments

variable {a : Arguments} {i : Nat}

theorem place?_param (hi : i < maxArguments) : place? ("param" ++ toString (i + 1)) = some i := by
  have hdigits : (toString (i + 1)).toList = Nat.toDigits 10 (i + 1) := by
    rw [Nat.toString_eq_ofList_toDigits, String.toList_ofList]
  refine place?_eq_some_iff.mpr ⟨hi, [], 0, .inl rfl, ?_⟩
  rw [String.toList_append, hdigits]
  rfl

theorem store_param (hi : i < maxArguments) {v : Value} (hv : v ≠ .null)
    (values : List (Option Value)) :
    store values ("param" ++ toString (i + 1), v) = values.set i (some v) := by
  unfold store
  rw [place?_param hi]
  cases v with
  | null => exact absurd rfl hv
  | _ => rfl

theorem foldl_store_argumentEntries (done : List (Option Value)) (free : Nat) (vs : List Value)
    (hnull : ∀ v ∈ vs, v ≠ .null) (hfree : vs.length ≤ free)
    (hlength : done.length + free ≤ maxArguments) :
    (argumentEntries done.length vs).foldl store (done ++ List.replicate free none) =
      done ++ (vs.map some ++ List.replicate (free - vs.length) none) := by
  induction vs generalizing done free with
  | nil => rfl
  | cons v rest ih =>
      obtain ⟨left, rfl⟩ : ∃ left, free = left + 1 :=
        Nat.exists_eq_add_one.mpr (Nat.lt_of_lt_of_le (Nat.succ_pos _) hfree)
      have hstored : store (done ++ List.replicate (left + 1) none)
          ("param" ++ toString (done.length + 1), v) =
            (done ++ [some v]) ++ List.replicate left none := by
        rw [store_param (by omega) (hnull v List.mem_cons_self), List.replicate_succ]
        simp
      have hrest := ih (done ++ [some v]) left
        (fun u hu => hnull u (List.mem_cons_of_mem v hu))
        (Nat.le_of_succ_le_succ hfree) (by simp; omega)
      rw [List.length_append] at hrest
      rw [argumentEntries, List.foldl_cons, hstored]
      refine hrest.trans ?_
      simp

theorem ofEntries_argumentEntries (command : String) {vs : List Value}
    (hnull : ∀ v ∈ vs, v ≠ .null) (hlength : vs.length ≤ maxArguments) :
    ∃ a, ofEntries (("command", .text command) :: argumentEntries 0 vs) = .ok a ∧
      a.command = command ∧
        a.values = vs.map some ++ List.replicate (maxArguments - vs.length) none := by
  have hplace : place? "command" = none := rfl
  have hcommand : store noValues ("command", .text command) = noValues := by
    simp only [store, hplace]
  refine ⟨_, rfl, rfl, ?_⟩
  change (argumentEntries 0 vs).foldl store (store noValues ("command", .text command)) = _
  rw [hcommand]
  exact foldl_store_argumentEntries [] maxArguments vs hnull hlength (by simp)

theorem value_of_values {vs : List Value} {free : Nat}
    (ha : a.values = vs.map some ++ List.replicate free none) {v : Value}
    (hv : vs[i]? = some v) : a.value i = .ok v := by
  obtain ⟨hi, -⟩ := List.getElem?_eq_some_iff.mp hv
  have hvalue : a.values[i]? = some (some v) := by
    rw [ha, List.getElem?_append_left (by simpa using hi), List.getElem?_map, hv]
    rfl
  rw [value, hvalue]

theorem expect_of_values {vs : List Value} {free : Nat}
    (ha : a.values = vs.map some ++ List.replicate free none) :
    a.expect vs.length = .ok () := by
  have htake : a.values.take vs.length = vs.map some := by
    have hlength : (vs.map some).length = vs.length := List.length_map some
    rw [ha, ← hlength, List.take_left]
  rw [expect, htake, if_pos]
  simp

/-- The data stand one after the other. -/
def ReadsAll (a : Arguments) (start : Nat) : List Datum → Prop
  | [] => True
  | d :: rest => a.Reads start d ∧ ReadsAll a (start + 1) rest

theorem readsAll_of_values {data : List Datum} {start : Nat} (hfits : ∀ d ∈ data, d.Fits)
    (hvalues : ∀ i d, data[i]? = some d → a.value (start + i) = .ok d.value) :
    a.ReadsAll start data := by
  induction data generalizing start with
  | nil => trivial
  | cons d rest ih =>
      constructor
      · exact reads_of_value (hfits d List.mem_cons_self) (hvalues 0 d rfl)
      · apply ih
        · exact fun e he => hfits e (List.mem_cons_of_mem d he)
        · intro i e he
          have hvalue := hvalues (i + 1) e he
          rwa [← Nat.add_assoc, Nat.add_right_comm] at hvalue

end Arguments

namespace BodyKind

theorem ofRaw_raw (kind : BodyKind) : ofRaw kind.raw = .ok kind := by
  cases kind <;> rfl

end BodyKind

namespace Verb

theorem ofName?_name (v : Verb) : ofName? v.name = some v := by
  cases v <;> decide

end Verb

namespace Command

theorem length_data (c : Command) : c.data.length = c.verb.arity := by
  cases c <;> rfl

theorem read_verb {a : Arguments} {c : Command} (h : a.ReadsAll 0 c.data) :
    c.verb.read a = .ok c := by
  cases c <;>
    simp only [data, Arguments.ReadsAll, Arguments.Reads, and_true] at h <;>
    simp [verb, Verb.read, Verb.readOnBody, Verb.readAboutBody, Verb.readOnFixture, Verb.readBoth,
      Arguments.point, h, BodyKind.ofRaw_raw, Except.map, Except.mapError, PositionDefinition.point]

theorem value_ne_null {d : Datum} (hd : d.Fits) : d.value ≠ .null := by
  cases d with
  | single x =>
      rw [Datum.value, Value.ofSingle_of_isFinite hd]
      exact Value.noConfusion
  | _ => exact Value.noConfusion

theorem ofArguments_entries {c : Command} (hc : c.Encodable) :
    (Arguments.ofEntries c.entries).bind ofArguments = .ok c := by
  have hnull : ∀ v ∈ c.data.map Datum.value, v ≠ .null := by
    intro v hv
    obtain ⟨d, hd, rfl⟩ := List.mem_map.mp hv
    exact value_ne_null (hc d hd)
  have hlength : (c.data.map Datum.value).length = c.verb.arity := by
    rw [List.length_map, length_data]
  have harity : c.verb.arity ≤ maxArguments := by
    cases c.verb <;> decide
  obtain ⟨a, ha, hcommand, hvalues⟩ :=
    Arguments.ofEntries_argumentEntries c.verb.name hnull (hlength ▸ harity)
  have hexpect := Arguments.expect_of_values hvalues
  have hreads : a.ReadsAll 0 c.data := by
    apply Arguments.readsAll_of_values hc
    intro i d hd
    rw [Nat.zero_add]
    apply Arguments.value_of_values hvalues
    rw [List.getElem?_map, hd]
    rfl
  rw [hlength] at hexpect
  rw [entries, ha]
  simp only [Except.bind, ofArguments, hcommand, Verb.ofName?_name, hexpect, ok_bind]
  exact read_verb hreads

theorem entries_injective {c c' : Command} (hc : c.Encodable) (hc' : c'.Encodable)
    (h : c.entries = c'.entries) : c = c' := by
  have hread := ofArguments_entries hc
  rw [h, ofArguments_entries hc'] at hread
  exact (Except.ok.inj hread).symm

end Command

theorem keys_argumentEntries (start : Nat) (vs : List Value) :
    (argumentEntries start vs).map (·.1) =
      (List.range' start vs.length).map fun i => "param" ++ toString (i + 1) := by
  induction vs generalizing start with
  | nil => rfl
  | cons v rest ih =>
      rw [List.length_cons, List.range'_succ, List.map_cons, ← ih]
      rfl

theorem Command.ascending_entries (c : Command) :
    (c.entries.map (·.1)).Pairwise (· < ·) := by
  have harity : c.verb.arity ≤ 7 := by
    cases c.verb <;> decide
  have hkeys : c.entries.map (·.1) =
      "command" :: (List.range' 0 c.verb.arity).map fun i => "param" ++ toString (i + 1) := by
    rw [entries, List.map_cons, keys_argumentEntries, List.length_map, length_data]
  have hall : ("command" :: (List.range' 0 7).map fun i => "param" ++ toString (i + 1)).Pairwise
      (· < ·) := by
    decide
  have hsublist : (List.range' 0 c.verb.arity).Sublist (List.range' 0 7) :=
    List.range'_sublist_right.mpr harity
  rw [hkeys]
  exact hall.sublist ((hsublist.map _).cons_cons _)

/-- Every command whose handles and counts are signed words and whose singles are finite can be
written as a message, an object with ascending keys, that is read as this command in every bit and
that no other such command has. -/
theorem read_of_written {c : Command} (hc : c.Encodable) :
    (c.entries.map (·.1)).Pairwise (· < ·) ∧
      (Arguments.ofEntries c.entries).bind Command.ofArguments = .ok c ∧
        ∀ c' : Command, c'.Encodable → c'.entries = c.entries → c' = c :=
  ⟨c.ascending_entries, Command.ofArguments_entries hc,
    fun _ hc' h => Command.entries_injective hc' hc h⟩

/-- A sensor of 2 by 4 with a negative zero among its numbers. -/
def Command.sample : Command :=
  .createFixture ⟨0⟩ ⟨3⟩ ⟨0.1, 0.5, 1, true, ⟨"box", -0.0, 2, 4⟩⟩

theorem read_sample :
    (Arguments.ofEntries Command.sample.entries).bind Command.ofArguments = .ok Command.sample := by
  have hencodable : Command.sample.Encodable := by
    decide +kernel
  exact (read_of_written hencodable).2.1

end RigidWorlds
