import RigidWorlds.Message.Reply
import RigidWorlds.Proofs.DoubleRounding
import RigidWorlds.Proofs.SingleArithmetic

namespace RigidWorlds

open Json

namespace Binary

open Float.Model Float.Model.UnpackedFloat

theorem narrow_widen_self (x : Float32) : narrow (widen x) = x := by
  cases hx : x.isFinite with
  | true => exact narrow_widen hx
  | false =>
      rcases eq_of_not_finite hx with rfl | rfl | rfl <;> decide +kernel

/-- The integer that a double stands for; what lies beyond the point is cut off. -/
def integerOf (x : Float) : Int :=
  let magnitude := (double.value (doubleBits x)).floor
  if doubleNegative x then -magnitude else magnitude

theorem floor_value_round {n : Nat} (hn : n < 2 ^ 53) :
    (double.value (double.round n 1)).floor = n := by
  rcases Nat.eq_zero_or_pos n with rfl | hpos
  · decide +kernel
  · have hshort : n.log2 ≤ 52 := Nat.le_of_lt_succ ((Nat.log2_lt hpos.ne').mpr hn)
    obtain ⟨-, hvalue⟩ := value_double_round hpos (show n.log2 < 1023 by omega)
    rw [hvalue, unitOf_double_of_short hshort, divNearestEven_one, Nat.mul_one]
    exact Rat.floor_intCast n

theorem integerOf_doubleOfInt {n : Int} (hn : n.natAbs < 2 ^ 53) :
    integerOf (doubleOfInt n) = n := by
  have hsignBit : double.signBit = 9223372036854775808 := rfl
  obtain ⟨hsign, hmagnitude⟩ := ofInt_parts double (by decide) n
  have hbits : doubleBits (doubleOfInt n) = double.round n.natAbs 1 := by
    rw [doubleBits, toNat_toBits_doubleOfInt, hmagnitude]
  have hnegative : doubleNegative (doubleOfInt n) = decide (n < 0) := by
    rw [doubleNegative, toNat_toBits_doubleOfInt, decide_eq_decide]
    rw [hsignBit] at hsign ⊢
    split at hsign <;> omega
  simp only [integerOf, hbits, hnegative, floor_value_round hn, decide_eq_true_eq]
  split <;> omega

end Binary

/-- The length up to which a count has a signed integer of its own. -/
def countLimit : Nat := 2147483647

/-- How lists are flattened: the count, the fields of an entry, and how they are read back.  A
caller is told the count as the integer that it is, and of the fields of an entry the items that
belong to their places. -/
structure Layout (α β : Type) where
  count : Nat → α
  integer : α → Int
  fields : β → List α
  entry? : List α → Option β
  items : List (α → Value)
  integer_count : ∀ {n}, n ≤ countLimit → integer (count n) = n
  length_fields : ∀ b, (fields b).length = items.length
  entry?_fields : ∀ b, entry? (fields b) = some b

namespace Layout

variable {α β : Type} (layout : Layout α β)

def flatten (entries : List β) : List α :=
  layout.count entries.length :: entries.flatMap layout.fields

/-- Reads as many rows as are counted; nothing may be left over. -/
def rows? : Nat → List α → Option (List β)
  | 0, flat => if flat.isEmpty then some [] else none
  | n + 1, flat => do
      let b ← layout.entry? (flat.take layout.items.length)
      let entries ← rows? n (flat.drop layout.items.length)
      return b :: entries

def entries? : List α → Option (List β)
  | [] => none
  | count :: flat => layout.rows? (layout.integer count).toNat flat

/-- The items for the fields of one row. -/
def itemsOfRow (row : List α) : List Value := List.zipWith (fun item x => item x) layout.items row

/-- The items for all fields, in their order. -/
def itemsOf : List α → List Value
  | [] => []
  | count :: flat =>
      .integer (layout.integer count) ::
        List.zipWith (fun item x => item x)
          (List.replicate (layout.integer count).toNat layout.items).flatten flat

theorem rows?_flatMap (entries : List β) :
    layout.rows? entries.length (entries.flatMap layout.fields) = some entries := by
  induction entries with
  | nil => rfl
  | cons b entries ih =>
      rw [List.length_cons, rows?, List.flatMap_cons, List.take_left' (layout.length_fields b),
        List.drop_left' (layout.length_fields b), layout.entry?_fields, ih]
      rfl

theorem length_flatMap (entries : List β) :
    (entries.flatMap layout.fields).length = layout.items.length * entries.length := by
  induction entries with
  | nil => rfl
  | cons b entries ih =>
      rw [List.flatMap_cons, List.length_append, ih, layout.length_fields, List.length_cons,
        Nat.mul_succ, Nat.add_comm]

theorem zipWith_flatMap {row : β → List Value}
    (hrow : ∀ b, layout.itemsOfRow (layout.fields b) = row b) (entries : List β) :
    List.zipWith (fun item x => item x) (List.replicate entries.length layout.items).flatten
        (entries.flatMap layout.fields) = entries.flatMap row := by
  induction entries with
  | nil => rfl
  | cons b entries ih =>
      rw [List.length_cons, List.replicate_succ, List.flatten_cons, List.flatMap_cons,
        List.zipWith_append (layout.length_fields b).symm, ih, List.flatMap_cons,
        ← hrow, itemsOfRow]

/-- A flat list and the data of a reply lay out the same entries: the flat list begins with their
number, has one row for each of them and is read back, and the data has an item for each field. -/
structure Lays (entries : List β) (flat : List α) (data : Value) : Prop where
  counted : flat.head?.map layout.integer = some (entries.length : Int)
  length : flat.length = layout.items.length * entries.length + 1
  decoded : layout.entries? flat = some entries
  told : data = .array (layout.itemsOf flat)

theorem lays_flatten {entries : List β} (h : entries.length ≤ countLimit)
    {row : β → List Value} (hrow : ∀ b, layout.itemsOfRow (layout.fields b) = row b) :
    layout.Lays entries (layout.flatten entries)
      (.array (.integer entries.length :: entries.flatMap row)) := by
  have hcount := layout.integer_count h
  refine ⟨congrArg some hcount, ?_, ?_, ?_⟩
  · rw [flatten, List.length_cons, length_flatMap]
  · rw [flatten, entries?, hcount, Int.toNat_natCast, rows?_flatMap]
  · rw [flatten, itemsOf, hcount, Int.toNat_natCast, layout.zipWith_flatMap hrow]

end Layout

namespace Handle

variable {k : Kind}

/-- The handle with a raw value, whatever its sign. -/
def ofRawBits (raw : Int32) : Handle k := ⟨raw.toUInt32⟩

theorem ofRawBits_raw (h : Handle k) : ofRawBits h.raw = h :=
  congrArg Handle.mk (UInt32.toUInt32_toInt32 h.index)

theorem integerOf_raw (h : Handle k) :
    Binary.integerOf (Binary.doubleOfInt h.raw.toInt) = h.raw.toInt := by
  apply Binary.integerOf_doubleOfInt
  have hlow := h.raw.le_toInt
  have hhigh := h.raw.toInt_lt
  omega

end Handle

open Binary

namespace BodyPose

/-- A handle whose raw value is an integer, two coordinates and an angle. -/
def ofFlat? : List Float → Option BodyPose
  | [body, x, y, angle] =>
      some ⟨.ofRawBits (.ofInt (integerOf body)), narrow x, narrow y, narrow angle⟩
  | _ => none

theorem ofFlat?_flat (p : BodyPose) : ofFlat? p.flat = some p := by
  simp only [flat, ofFlat?, Handle.integerOf_raw, Int32.ofInt_toInt, Handle.ofRawBits_raw,
    narrow_widen_self]

def layout : Layout Float BodyPose where
  count n := doubleOfInt n
  integer := integerOf
  fields := flat
  entry? := ofFlat?
  items := [fun body => .integer (integerOf body), .ofDouble, .ofDouble, .ofDouble]
  integer_count hn := integerOf_doubleOfInt (hn.trans_lt (by decide))
  length_fields _ := rfl
  entry?_fields := ofFlat?_flat

theorem itemsOfRow_flat (p : BodyPose) :
    layout.itemsOfRow p.flat =
      [p.body.data, .ofSingle p.x, .ofSingle p.y, .ofSingle p.angle] := by
  simp only [Layout.itemsOfRow, layout, flat, List.zipWith, Handle.integerOf_raw, Handle.data,
    Value.ofSingle]

end BodyPose

namespace FixtureContact

/-- The raw values of two handles, and zero or one. -/
def ofFlat? : List Int32 → Option FixtureContact
  | [first, second, touching] =>
      if touching = 0 ∨ touching = 1 then
        some ⟨.ofRawBits first, .ofRawBits second, touching = 1⟩
      else none
  | _ => none

theorem ofFlat?_flat (c : FixtureContact) : ofFlat? c.flat = some c := by
  obtain ⟨first, second, touching⟩ := c
  cases touching <;> simp [flat, ofFlat?, Handle.ofRawBits_raw]

def layout : Layout Int32 FixtureContact where
  count := .ofNat
  integer := Int32.toInt
  fields := flat
  entry? := ofFlat?
  items := [fun first => .integer first.toInt, fun second => .integer second.toInt,
    fun touching => .boolean (touching = 1)]
  integer_count hn := Int32.toInt_ofNat_of_lt (hn.trans_lt (by decide))
  length_fields _ := rfl
  entry?_fields := ofFlat?_flat

theorem itemsOfRow_flat (c : FixtureContact) :
    layout.itemsOfRow c.flat = [c.first.data, c.second.data, .boolean c.touching] := by
  obtain ⟨first, second, touching⟩ := c
  cases touching <;> rfl

end FixtureContact

/-- The flat list of a snapshot or of contacts is read back to just what it was made of, and the
data of the reply has the same fields in the same order. -/
theorem flat_layouts (s : Snapshot) (l : ContactList) (hs : s.size ≤ countLimit)
    (hl : l.size ≤ countLimit) :
    BodyPose.layout.Lays s.poses s.flat s.data ∧
      FixtureContact.layout.Lays l.contacts l.flat l.data :=
  ⟨BodyPose.layout.lays_flatten hs BodyPose.itemsOfRow_flat,
    FixtureContact.layout.lays_flatten hl FixtureContact.itemsOfRow_flat⟩

/-- Two bodies, one of which is at no number. -/
def Snapshot.sample : Snapshot := ⟨[⟨⟨3⟩, 1, -0, 0.5⟩, ⟨⟨7⟩, 0 / 0, 1 / 0, 2⟩]⟩

/-- Two fixtures that touch. -/
def ContactList.sample : ContactList := ⟨[⟨⟨0⟩, ⟨4⟩, true⟩]⟩

theorem flat_layouts_sample :
    Snapshot.sample.size ≤ countLimit ∧ ContactList.sample.size ≤ countLimit ∧
      BodyPose.layout.Lays Snapshot.sample.poses Snapshot.sample.flat Snapshot.sample.data ∧
      FixtureContact.layout.Lays ContactList.sample.contacts [1, 0, 4, 1]
        ContactList.sample.data := by
  have hs : Snapshot.sample.size ≤ countLimit := by decide
  have hl : ContactList.sample.size ≤ countLimit := by decide
  exact ⟨hs, hl, flat_layouts Snapshot.sample ContactList.sample hs hl⟩

end RigidWorlds
