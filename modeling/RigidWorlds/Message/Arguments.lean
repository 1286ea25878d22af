import RigidWorlds.Geometry.Vector
import RigidWorlds.HandleText

/-!
Messages are objects with a command name and positional arguments.  The arguments stand under the
keys `param1` to `param10`; all other keys but `command` are ignored, and so is null.
-/

namespace RigidWorlds

open Json

inductive MessageError where
  | malformed (e : ReadError)
  | missingCommand
  | unknownCommand (name : String)
  | missingArguments (command : String)
  | invalidArgument (command : String) (reason : String)
  | refused (e : Error)

def MessageError.message : MessageError → String
  | malformed e => "Malformed message: " ++ e.message
  | missingCommand => "command not specified"
  | unknownCommand name => "invalid command: " ++ name
  | missingArguments command => "invalid params count for command: " ++ command
  | invalidArgument command reason =>
      "invalid params for command: " ++ command ++ " (" ++ reason ++ ")"
  | refused e => e.message

def maxArguments : Nat := 10

@[ext]
structure Arguments where
  command : String
  values : List (Option Value)
  length_values : values.length = maxArguments

namespace Arguments

/-- The number that a text of decimal digits stands for, after a plus sign or none. -/
def naturalNumber? (text : List Char) : Option Nat :=
  let digits :=
    match text with
    | '+' :: rest => rest
    | text => text
  if digits.isEmpty || !digits.all isDigit then none
  else some (digits.foldl (fun n c => 10 * n + (c.toNat - '0'.toNat)) 0)

def dropStart? : List Char → List Char → Option (List Char)
  | [], text => some text
  | c :: start, d :: text => if c = d then dropStart? start text else none
  | _ :: _, [] => none

/-- The place among the arguments that a key stands for, counted from zero. -/
def place? (key : String) : Option Nat := do
  let digits ← dropStart? ['p', 'a', 'r', 'a', 'm'] key.toList
  let n ← naturalNumber? digits
  if 1 ≤ n ∧ n ≤ maxArguments then some (n - 1) else none

def store (values : List (Option Value)) (entry : String × Value) : List (Option Value) :=
  match place? entry.1, entry.2 with
  | _, .null => values
  | some i, v => values.set i (some v)
  | none, _ => values

theorem length_store (values : List (Option Value)) (entry : String × Value) :
    (store values entry).length = values.length := by
  unfold store
  split <;> simp

theorem length_foldl_store (entries : List (String × Value)) (values : List (Option Value)) :
    (entries.foldl store values).length = values.length := by
  induction entries generalizing values with
  | nil => rfl
  | cons entry rest ih => rw [List.foldl_cons, ih, length_store]

def noValues : List (Option Value) := List.replicate maxArguments none

/-- The arguments of a message, given its entries in ascending order of their keys. -/
def ofEntries (entries : List (String × Value)) : Except MessageError Arguments :=
  match entries.lookup "command" with
  | some (.text command) =>
      .ok {
        command := command
        values := entries.foldl store noValues
        length_values := by simp [length_foldl_store, noValues] }
  | _ => .error .missingCommand

def expect (a : Arguments) (count : Nat) : Except MessageError Unit :=
  if (a.values.take count).all (·.isSome) then .ok () else .error (.missingArguments a.command)

def value (a : Arguments) (index : Nat) : Except MessageError Value :=
  match a.values[index]? with
  | some (some v) => .ok v
  | _ => .error (.missingArguments a.command)

def invalid (a : Arguments) (index : Nat) (reason : String) : MessageError :=
  .invalidArgument a.command ("param" ++ toString (index + 1) ++ ": " ++ reason)

/-- An argument of a kind, read by `f`. -/
def read (a : Arguments) (index : Nat) (kind : String) (f : Value → Option α) :
    Except MessageError α := do
  let v ← a.value index
  match f v with
  | some x => return x
  | none => throw (a.invalid index ("expected " ++ kind ++ ", got " ++ v.compact))

def integer? : Value → Option Int32
  | .number (.integer n) =>
      if Int32.minValue.toInt ≤ n ∧ n ≤ Int32.maxValue.toInt then some (Int32.ofInt n) else none
  | _ => none

/-- The single nearest to the double nearest to a number. -/
def single? : Value → Option Float32
  | .number (.integer n) => some (Binary.narrow (Binary.doubleOfInt n))
  | .number (.real x) => some (Binary.narrow x)
  | _ => none

def boolean? : Value → Option Bool
  | .boolean b => some b
  | _ => none

def int (a : Arguments) (index : Nat) : Except MessageError Int32 :=
  a.read index "an integer" integer?

/-- A number; integers count as numbers. -/
def float (a : Arguments) (index : Nat) : Except MessageError Float32 :=
  a.read index "a number" single?

def boolean (a : Arguments) (index : Nat) : Except MessageError Bool :=
  a.read index "a boolean" boolean?

def handle (a : Arguments) (k : Kind) (index : Nat) : Except MessageError (Handle k) := do
  let raw ← a.int index
  (Handle.ofRaw k raw).mapError .refused

def point (a : Arguments) (index : Nat) : Except MessageError Vec2 := do
  let x ← a.float index
  let y ← a.float (index + 1)
  return ⟨x, y⟩

def object [Decode α] (a : Arguments) (index : Nat) : Except MessageError α := do
  let v ← a.value index
  (Decode.ofValue v).mapError fun cause => a.invalid index cause.message

end Arguments

end RigidWorlds
