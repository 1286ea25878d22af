import RigidWorlds.Proofs.DoubleRounding
import RigidWorlds.Proofs.Encoding

/-!
One number, read in two places of a message.  An argument of its own is read as a double first, a
number in a definition is read as a single at once.
-/

namespace RigidWorlds

open Json

namespace Json

/-- The single that a number is read as when it is an argument. -/
def Number.argument : Number → Float32
  | .integer n => Binary.narrow (Binary.doubleOfInt n)
  | .real x => Binary.narrow x

def Number.RoundsTwice : Number → Prop
  | .integer n => Binary.RoundsTwice n.natAbs
  | .real _ => False

instance : DecidablePred Number.RoundsTwice
  | .integer n => inferInstanceAs (Decidable (Binary.RoundsTwice n.natAbs))
  | .real _ => inferInstanceAs (Decidable False)

theorem Number.argument_eq_iff (n : Number) : n.argument = n.toSingle ↔ ¬ n.RoundsTwice := by
  cases n with
  | integer n => exact Binary.narrow_doubleOfInt_iff n
  | real x => exact iff_of_true rfl id

namespace Field

variable {α β γ : Type}

@[simp]
theorem name_optional [Decode γ] (name : String) (put : γ → α → α) :
    (optional name put).name = name := rfl

@[simp]
theorem name_needed [Decode γ] (name : String) (put : γ → α → α) :
    (needed name put).name = name := rfl

/-- Reading the field leaves an attribute alone. -/
def Spares (f : Field α) (get : α → β) : Prop :=
  ∀ (v : Value) (change : α → α), f.ofValue v = .ok change → ∀ a, get (change a) = get a

@[simp]
theorem spares_optional [Decode γ] {name : String} {put : γ → α → α} {get : α → β}
    (h : ∀ c a, get (put c a) = get a) : (optional name put).Spares get := by
  intro v change hchange a
  obtain ⟨c, -, rfl⟩ := map_eq_ok_iff.mp hchange
  exact h c a

@[simp]
theorem spares_needed [Decode γ] {name : String} {put : γ → α → α} {get : α → β}
    (h : ∀ c a, get (put c a) = get a) : (needed name put).Spares get := by
  have hoptional : (optional name put).Spares get := spares_optional h
  exact hoptional

end Field

namespace Record

variable {α β : Type} [Decode β] {r : Record α} {name : String} {get : α → β}

/-- An attribute of records is what is read for the field of a name. -/
structure Slot (r : Record α) (name : String) (get : α → β) : Prop where
  field : ∃ f put, r.field? name = some f ∧ (∀ v, f.ofValue v = (Decode.ofValue v).map put) ∧
    ∀ b a, get (put b a) = b
  others : ∀ f ∈ r.fields, f.name ≠ name → f.Spares get

theorem name_of_field? {f : Field α} (h : r.field? name = some f) : f.name = name := by
  have hname := List.find?_some h
  exact eq_of_beq hname

namespace Slot

variable (h : r.Slot name get)

include h

theorem addEntry {d d' : Draft α} {key : String} {v : Value}
    (hadd : r.addEntry d (key, v) = .ok d') :
    (key = name ∧ name ∉ d.filled ∧ name ∈ d'.filled ∧ Decode.ofValue v = .ok (get d'.record)) ∨
      (key ≠ name ∧ get d'.record = get d.record ∧ (name ∈ d.filled → name ∈ d'.filled)) := by
  unfold Record.addEntry at hadd
  by_cases hkey : key = name
  · subst hkey
    obtain ⟨f, put, hf, hread, hget⟩ := h.field
    have hname := name_of_field? hf
    simp only [hf] at hadd
    split at hadd
    · cases hadd
    · rename_i hnew
      obtain ⟨change, hchange, rfl⟩ := map_eq_ok_iff.mp hadd
      rw [hread] at hchange
      obtain ⟨b, hb, rfl⟩ := map_eq_ok_iff.mp hchange
      rw [hname] at hnew
      refine .inl ⟨rfl, fun hmem => hnew (List.contains_iff_mem.mpr hmem), ?_, ?_⟩
      · exact hname ▸ List.mem_cons_self
      · exact hb.trans (congrArg _ (hget b d.record).symm)
  · refine .inr ⟨hkey, ?_⟩
    split at hadd
    · obtain rfl := Except.ok.inj hadd
      exact ⟨rfl, id⟩
    · rename_i f hf
      split at hadd
      · cases hadd
      · obtain ⟨change, hchange, rfl⟩ := map_eq_ok_iff.mp hadd
        have hname : f.name ≠ name := name_of_field? hf ▸ hkey
        exact ⟨h.others f (List.mem_of_find?_eq_some hf) hname v change hchange d.record,
          List.mem_cons_of_mem _⟩

theorem foldlM_addEntry (entries : List (String × Value)) {d d' : Draft α}
    (hfold : entries.foldlM r.addEntry d = .ok d') :
    (name ∈ d.filled → get d'.record = get d.record) ∧
      ∀ {v}, (name, v) ∈ entries → Decode.ofValue v = .ok (get d'.record) := by
  induction entries generalizing d with
  | nil =>
      obtain rfl := Except.ok.inj hfold
      exact ⟨fun _ => rfl, nofun⟩
  | cons entry entries ih =>
      obtain ⟨key, v⟩ := entry
      rw [List.foldlM_cons] at hfold
      obtain ⟨first, hadd, hrest⟩ := bind_eq_ok_iff.mp hfold
      obtain ⟨hkept, hread⟩ := ih hrest
      rcases h.addEntry hadd with ⟨rfl, hnew, hfilled, hv⟩ | ⟨hkey, hsame, hfilled⟩
      · refine ⟨fun hmem => absurd hmem hnew, fun hmem => ?_⟩
        rcases List.mem_cons.mp hmem with heq | hmem
        · cases heq
          rw [hkept hfilled]
          exact hv
        · exact hread hmem
      · refine ⟨fun hmem => (hkept (hfilled hmem)).trans hsame, fun hmem => ?_⟩
        rcases List.mem_cons.mp hmem with heq | hmem
        · cases heq
          exact absurd rfl hkey
        · exact hread hmem

theorem ofValue {entries : List (String × Value)} {a : α}
    (hread : r.ofValue (.object entries) = .ok a) {v : Value} (hmem : (name, v) ∈ entries) :
    Decode.ofValue v = .ok (get a) := by
  obtain ⟨d, hfold, hfinish⟩ := bind_eq_ok_iff.mp hread
  have hrecord : d.record = a := by
    unfold finishObject finish at hfinish
    split at hfinish
    · cases hfinish
    · exact Except.ok.inj hfinish
  rw [← hrecord]
  exact (h.foldlM_addEntry entries hfold).2 hmem

end Slot

end Record

end Json

namespace PositionDefinition

theorem slot_x : description.Slot "x" x where
  field := ⟨_, _, rfl, fun _ => rfl, fun _ _ => rfl⟩
  others := by simp [description]

theorem slot_y : description.Slot "y" y where
  field := ⟨_, _, rfl, fun _ => rfl, fun _ _ => rfl⟩
  others := by simp [description]

end PositionDefinition

namespace BodyDefinition

theorem slot_position : description.Slot "position" position where
  field := ⟨_, _, rfl, fun _ => rfl, fun _ _ => rfl⟩
  others := by simp [description]

end BodyDefinition

namespace ShapeDefinition

theorem slot_radius : description.Slot "radius" radius where
  field := ⟨_, _, rfl, fun _ => rfl, fun _ _ => rfl⟩
  others := by simp [description]

theorem slot_width : description.Slot "width" width where
  field := ⟨_, _, rfl, fun _ => rfl, fun _ _ => rfl⟩
  others := by simp [description]

theorem slot_height : description.Slot "height" height where
  field := ⟨_, _, rfl, fun _ => rfl, fun _ _ => rfl⟩
  others := by simp [description]

end ShapeDefinition

namespace FixtureDefinition

theorem slot_friction : description.Slot "friction" friction where
  field := ⟨_, _, rfl, fun _ => rfl, fun _ _ => rfl⟩
  others := by simp [description]

theorem slot_restitution : description.Slot "restitution" restitution where
  field := ⟨_, _, rfl, fun _ => rfl, fun _ _ => rfl⟩
  others := by simp [description]

theorem slot_density : description.Slot "density" density where
  field := ⟨_, _, rfl, fun _ => rfl, fun _ _ => rfl⟩
  others := by simp [description]

end FixtureDefinition

/-- An object that holds a number is read as a definition, which has the single in its place. -/
inductive ReadInDefinition (n : Number) : Float32 → Prop
  | x {entries : List (String × Value)} {p : PositionDefinition}
      (hread : Decode.ofValue (.object entries) = .ok p) (hmem : ("x", .number n) ∈ entries) :
      ReadInDefinition n p.x
  | y {entries : List (String × Value)} {p : PositionDefinition}
      (hread : Decode.ofValue (.object entries) = .ok p) (hmem : ("y", .number n) ∈ entries) :
      ReadInDefinition n p.y
  | radius {entries : List (String × Value)} {s : ShapeDefinition}
      (hread : Decode.ofValue (.object entries) = .ok s) (hmem : ("radius", .number n) ∈ entries) :
      ReadInDefinition n s.radius
  | width {entries : List (String × Value)} {s : ShapeDefinition}
      (hread : Decode.ofValue (.object entries) = .ok s) (hmem : ("width", .number n) ∈ entries) :
      ReadInDefinition n s.width
  | height {entries : List (String × Value)} {s : ShapeDefinition}
      (hread : Decode.ofValue (.object entries) = .ok s) (hmem : ("height", .number n) ∈ entries) :
      ReadInDefinition n s.height
  | friction {entries : List (String × Value)} {f : FixtureDefinition}
      (hread : Decode.ofValue (.object entries) = .ok f)
      (hmem : ("friction", .number n) ∈ entries) : ReadInDefinition n f.friction
  | restitution {entries : List (String × Value)} {f : FixtureDefinition}
      (hread : Decode.ofValue (.object entries) = .ok f)
      (hmem : ("restitution", .number n) ∈ entries) : ReadInDefinition n f.restitution
  | density {entries : List (String × Value)} {f : FixtureDefinition}
      (hread : Decode.ofValue (.object entries) = .ok f)
      (hmem : ("density", .number n) ∈ entries) : ReadInDefinition n f.density

theorem Json.Record.Slot.toSingle {α : Type} {r : Record α} {name : String} {get : α → Float32}
    (h : r.Slot name get) {entries : List (String × Value)} {a : α} {n : Number}
    (hread : r.ofValue (.object entries) = .ok a) (hmem : (name, .number n) ∈ entries) :
    get a = n.toSingle := by
  have hsingle := h.ofValue hread hmem
  rw [Decode.ofValue_number] at hsingle
  exact (Except.ok.inj hsingle).symm

theorem ReadInDefinition.eq_toSingle {n : Number} {x : Float32} (h : ReadInDefinition n x) :
    x = n.toSingle := by
  cases h with
  | x hread hmem => exact PositionDefinition.slot_x.toSingle hread hmem
  | y hread hmem => exact PositionDefinition.slot_y.toSingle hread hmem
  | radius hread hmem => exact ShapeDefinition.slot_radius.toSingle hread hmem
  | width hread hmem => exact ShapeDefinition.slot_width.toSingle hread hmem
  | height hread hmem => exact ShapeDefinition.slot_height.toSingle hread hmem
  | friction hread hmem => exact FixtureDefinition.slot_friction.toSingle hread hmem
  | restitution hread hmem => exact FixtureDefinition.slot_restitution.toSingle hread hmem
  | density hread hmem => exact FixtureDefinition.slot_density.toSingle hread hmem

namespace Arguments

variable {a : Arguments} {i : Nat}

theorem float_of_number {n : Number} (hv : a.value i = .ok (.number n)) :
    a.float i = .ok n.argument := by
  cases n with
  | integer n => exact read_of_value hv rfl
  | real x => exact read_of_value hv rfl

theorem point_of_numbers {n m : Number} (hx : a.value i = .ok (.number n))
    (hy : a.value (i + 1) = .ok (.number m)) : a.point i = .ok ⟨n.argument, m.argument⟩ := by
  simp only [point, float_of_number hx, float_of_number hy, ok_bind]
  rfl

theorem ofValue_of_object {α : Type} [Decode α] {v : Value} {x : α} (hv : a.value i = .ok v)
    (h : a.object i = .ok x) : Decode.ofValue v = .ok x := by
  simp only [object, hv, ok_bind] at h
  cases hread : (Decode.ofValue v : Except Cause α) with
  | ok y =>
      rw [hread] at h
      exact congrArg _ (Except.ok.inj h)
  | error cause =>
      rw [hread] at h
      cases h

end Arguments

/-- The message that creates a body at a place and the one that moves a body to it give the same two
numbers. -/
structure SamePlace (n m : Number) (creation move : Arguments) : Prop where
  position : ∃ entries coordinates, creation.value 1 = .ok (.object entries) ∧
    ("position", .object coordinates) ∈ entries ∧ ("x", .number n) ∈ coordinates ∧
      ("y", .number m) ∈ coordinates
  x : move.value 2 = .ok (.number n)
  y : move.value 3 = .ok (.number m)

theorem place_of_createBody {creation : Arguments} {n m : Number}
    (hposition : ∃ entries coordinates, creation.value 1 = .ok (.object entries) ∧
      ("position", .object coordinates) ∈ entries ∧ ("x", .number n) ∈ coordinates ∧
        ("y", .number m) ∈ coordinates)
    {w : Handle .world} {kind : BodyKind} {place : Vec2}
    (hread : Verb.createBody.read creation = .ok (.createBody w kind place)) :
    place = ⟨n.toSingle, m.toSingle⟩ := by
  obtain ⟨entries, coordinates, hvalue, hentry, hx, hy⟩ := hposition
  obtain ⟨body, hbody, hrest⟩ := bind_eq_ok_iff.mp hread
  obtain ⟨_, -, hrest⟩ := bind_eq_ok_iff.mp hrest
  obtain ⟨_, -, hcommand⟩ := bind_eq_ok_iff.mp hrest
  obtain rfl : body.position.point = place := by
    cases hcommand
    rfl
  have hplace :=
    BodyDefinition.slot_position.ofValue (Arguments.ofValue_of_object hvalue hbody) hentry
  exact congrArg₂ Vec2.mk (PositionDefinition.slot_x.toSingle hplace hx)
    (PositionDefinition.slot_y.toSingle hplace hy)

theorem place_of_setBodyTransform {move : Arguments} {n m : Number}
    (hx : move.value 2 = .ok (.number n)) (hy : move.value 3 = .ok (.number m))
    {w : Handle .world} {b : Handle .body} {place : Vec2} {angle : Float32}
    (hread : Verb.setBodyTransform.read move = .ok (.setBodyTransform w b place angle)) :
    place = ⟨n.argument, m.argument⟩ := by
  obtain ⟨_, -, hrest⟩ := bind_eq_ok_iff.mp hread
  obtain ⟨_, -, hrest⟩ := bind_eq_ok_iff.mp hrest
  obtain ⟨_, hboth, hcommand⟩ := bind_eq_ok_iff.mp hrest
  obtain ⟨_, hpoint, hrest⟩ := bind_eq_ok_iff.mp hboth
  obtain ⟨_, -, hpair⟩ := bind_eq_ok_iff.mp hrest
  rw [Arguments.point_of_numbers hx hy] at hpoint
  cases hpoint
  cases hpair
  cases hcommand
  rfl

/-- A number is read as one single wherever it stands, unless it is an integer that rounds twice:
then an argument of its own becomes another single than a number in a definition.  So a body that is
created at a place is where a body is that is moved to the same place unless a coordinate is such an
integer. -/
theorem readings_agree_iff (n m : Number) :
    (∀ {a : Arguments} {i : Nat}, a.value i = .ok (.number n) →
      ∃ x, a.float i = .ok x ∧ ∀ y, ReadInDefinition n y → (x = y ↔ ¬ n.RoundsTwice)) ∧
    ∀ {creation move : Arguments} {w v : Handle .world} {b : Handle .body} {kind : BodyKind}
      {place place' : Vec2} {angle : Float32}, SamePlace n m creation move →
      Verb.createBody.read creation = .ok (.createBody w kind place) →
      Verb.setBodyTransform.read move = .ok (.setBodyTransform v b place' angle) →
        (place' = place ↔ ¬ n.RoundsTwice ∧ ¬ m.RoundsTwice) := by
  constructor
  · intro a i hv
    refine ⟨_, Arguments.float_of_number hv, fun y hy => ?_⟩
    rw [hy.eq_toSingle]
    exact n.argument_eq_iff
  · intro creation move w v b kind place place' angle hsame hcreation hmove
    rw [place_of_createBody hsame.position hcreation,
      place_of_setBodyTransform hsame.x hsame.y hmove, ← n.argument_eq_iff, ← m.argument_eq_iff,
      Vec2.mk.injEq]

namespace Message

def createAt (x : String) : String :=
  "\x7b\"command\":\"createBody\",\"param1\":0,\"param2\":\x7b\"type\":2," ++
    "\"position\":\x7b\"x\":" ++ x ++ "\x7d\x7d\x7d"

def moveTo (x : String) : String :=
  "\x7b\"command\":\"setBodyTransform\",\"param1\":0,\"param2\":0," ++
    "\"param3\":" ++ x ++ ",\"param4\":0,\"param5\":0\x7d"

end Message

/-- A body is created at a place and moved to the same place, and yet it is not where it was. -/
theorem moved_from_its_place :
    (Number.integer 4611686293305294849).RoundsTwice ∧
      Command.parse (Message.createAt "4611686293305294849") =
        .ok (.createBody ⟨0⟩ .dynamic ⟨4611686568183201792, 0⟩) ∧
      Command.parse (Message.moveTo "4611686293305294849") =
        .ok (.setBodyTransform ⟨0⟩ ⟨0⟩ ⟨4611686018427387904, 0⟩ 0) ∧
      (4611686568183201792 : Float32) ≠ 4611686018427387904 := by
  refine ⟨?_, toOption_eq_some_iff.mp ?_, toOption_eq_some_iff.mp ?_, ?_⟩ <;> decide +kernel

end RigidWorlds
