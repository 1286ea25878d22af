import RigidWorlds.Proofs.Stages

namespace RigidWorlds

open Json

namespace Arguments

variable {α β : Type} {a : Arguments} {i : Nat}

/-- Reading comes to the conclusion that an argument is missing. -/
def Misses (a : Arguments) (x : Except MessageError α) : Prop :=
  x = .error (.missingArguments a.command)

theorem misses_bind_iff {x : Except MessageError α} {f : α → Except MessageError β}
    (hf : ∀ v, ¬ a.Misses (f v)) : a.Misses (x >>= f) ↔ a.Misses x := by
  cases x with
  | error e =>
      rw [error_bind]
      exact ⟨fun h => congrArg Except.error (Except.error.inj h),
        fun h => congrArg Except.error (Except.error.inj h)⟩
  | ok v =>
      rw [ok_bind]
      exact ⟨fun h => absurd h (hf v), nofun⟩

theorem misses_value_iff : a.Misses (a.value i) ↔ a.slot i = none := by
  rw [Misses, value_eq]
  cases a.slot i with
  | none => exact ⟨fun _ => rfl, fun _ => rfl⟩
  | some v => exact ⟨nofun, nofun⟩

theorem misses_read_iff {kind : String} {f : Value → Option α} :
    a.Misses (a.read i kind f) ↔ a.slot i = none := by
  refine (misses_bind_iff fun v => ?_).trans misses_value_iff
  cases f v <;> exact nofun

theorem misses_int_iff : a.Misses (a.int i) ↔ a.slot i = none := misses_read_iff

theorem misses_float_iff : a.Misses (a.float i) ↔ a.slot i = none := misses_read_iff

theorem misses_boolean_iff : a.Misses (a.boolean i) ↔ a.slot i = none := misses_read_iff

theorem misses_handle_iff (k : Kind) : a.Misses (a.handle k i) ↔ a.slot i = none := by
  refine (misses_bind_iff fun raw => ?_).trans misses_int_iff
  cases Handle.ofRaw k raw <;> exact nofun

theorem misses_object_iff [Decode α] :
    a.Misses (a.object i : Except MessageError α) ↔ a.slot i = none := by
  refine (misses_bind_iff fun v => ?_).trans misses_value_iff
  cases (Decode.ofValue v : Except Cause α) <;> exact nofun

/-- Some way of reading an argument finds it missing. -/
inductive Missing (a : Arguments) (i : Nat) : Prop
  | int (h : a.Misses (a.int i))
  | float (h : a.Misses (a.float i))
  | boolean (h : a.Misses (a.boolean i))
  | handle (k : Kind) (h : a.Misses (a.handle k i))
  | object {α : Type} [Decode α] (h : a.Misses (a.object i : Except MessageError α))

theorem missing_iff : a.Missing i ↔ a.slot i = none := by
  constructor
  · rintro (h | h | h | ⟨k, h⟩ | h)
    · exact misses_int_iff.mp h
    · exact misses_float_iff.mp h
    · exact misses_boolean_iff.mp h
    · exact (misses_handle_iff k).mp h
    · exact misses_object_iff.mp h
  · exact fun h => .int (misses_int_iff.mpr h)

theorem slot_eq_none_of_le (h : maxArguments ≤ i) : a.slot i = none := by
  rw [slot, List.getElem?_eq_none (a.length_values.trans_le h)]
  rfl

theorem expect_min (a : Arguments) (count : Nat) :
    a.expect (min count maxArguments) = a.expect count := by
  rw [expect, ← a.length_values, ← List.take_eq_take_min, expect]

theorem expect_eq_ok_iff (a : Arguments) (count : Nat) :
    a.expect count = .ok () ↔ ∀ i < min count maxArguments, (a.slot i).isSome := by
  have hcount : min count maxArguments ≤ maxArguments := Nat.min_le_right ..
  rw [← expect_min]
  constructor
  · intro hgranted i hi
    refine Option.isSome_iff_ne_none.mpr fun hempty => ?_
    rw [expect_of_empty hcount hi hempty] at hgranted
    cases hgranted
  · exact expect_of_filled hcount

/-- What a request for the first arguments tells about reading them. -/
structure Foretells (a : Arguments) (count : Nat) : Prop where
  granted : a.expect count = .ok () ↔ ∀ i < min count maxArguments, (a.slot i).isSome
  /-- Nothing that was granted is found missing, and what is refused would be. -/
  present : a.expect count = .ok () ↔ ∀ i < min count maxArguments, ¬ a.Missing i
  refused : a.expect count ≠ .ok () → a.Misses (a.expect count)
  int : ∀ i, a.Misses (a.int i) ↔ a.slot i = none
  float : ∀ i, a.Misses (a.float i) ↔ a.slot i = none
  boolean : ∀ i, a.Misses (a.boolean i) ↔ a.slot i = none
  handle : ∀ k i, a.Misses (a.handle k i) ↔ a.slot i = none
  object : ∀ (α : Type) [Decode α] i,
    a.Misses (a.object i : Except MessageError α) ↔ a.slot i = none
  beyond : ∀ i, maxArguments ≤ i → a.Missing i

/-- A request for the first arguments is granted if and only if all of them are there as far as
there are slots, and so if and only if none of the ways of reading these would find one missing.  An
argument beyond the slots is always found missing, however many have been granted. -/
theorem foretells_expect (a : Arguments) (count : Nat) : a.Foretells count where
  granted := a.expect_eq_ok_iff count
  present := by
    rw [expect_eq_ok_iff]
    simp only [missing_iff, Option.isSome_iff_ne_none, ne_eq]
  refused h := by
    rw [expect] at h ⊢
    split at h
    · exact absurd rfl h
    · rw [if_neg ‹_›]
      rfl
  int _ := misses_int_iff
  float _ := misses_float_iff
  boolean _ := misses_boolean_iff
  handle k _ := misses_handle_iff k
  object _ _ _ := misses_object_iff
  beyond _ h := missing_iff.mpr (slot_eq_none_of_le h)

/-- All slots are filled. -/
def full : Arguments := ⟨"x", List.replicate maxArguments (some (.integer 0)), rfl⟩

/-- With all slots filled eleven arguments are granted, and the eleventh is missing. -/
theorem eleven_granted :
    ofEntries [("command", .text "x"), ("param1", .integer 0), ("param10", .integer 0),
        ("param2", .integer 0), ("param3", .integer 0), ("param4", .integer 0),
        ("param5", .integer 0), ("param6", .integer 0), ("param7", .integer 0),
        ("param8", .integer 0), ("param9", .integer 0)] = .ok full ∧
      full.expect 11 = .ok () ∧ full.Misses (full.int 10) ∧ full.Missing 10 :=
  ⟨rfl, rfl, rfl, .int rfl⟩

end Arguments

end RigidWorlds
