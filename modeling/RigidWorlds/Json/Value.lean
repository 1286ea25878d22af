import RigidWorlds.Decimal.Layout

/-!
Values of structured text and their compact form.  The entries of an object are kept in ascending
order of their keys, one per key, so that equal objects are written alike.
-/

namespace RigidWorlds.Json

/-- Integers keep every digit; all other numbers are doubles. -/
inductive Number where
  | integer (n : Int)
  | real (x : Float)

inductive Value where
  | null
  | boolean (b : Bool)
  | number (n : Number)
  | text (s : String)
  | array (items : List Value)
  | object (entries : List (String × Value))

instance : Inhabited Value := ⟨.null⟩

/-- Puts an entry in its place among ascending keys; an equal key takes the new value. -/
def insertEntry (key : String) (value : α) : List (String × α) → List (String × α)
  | [] => [(key, value)]
  | (k, v) :: rest =>
      if key < k then (key, value) :: (k, v) :: rest
      else if key = k then (key, value) :: rest
      else (k, v) :: insertEntry key value rest

namespace Value

/-- The object with the given entries, later ones winning. -/
def ofEntries (entries : List (String × Value)) : Value :=
  .object (entries.foldl (fun sorted (k, v) => insertEntry k v sorted) [])

def integer (n : Int) : Value := .number (.integer n)

/-- A double, or null where it is no finite number. -/
def ofDouble (x : Float) : Value := if x.isFinite then .number (.real x) else .null

/-- A single widened to a double, or null where it is no finite number. -/
def ofSingle (x : Float32) : Value := ofDouble (Binary.widen x)

def get? (key : String) : Value → Option Value
  | .object entries => entries.lookup key
  | _ => none

end Value

def integerText (n : Int) : List Char :=
  (if n < 0 then ['-'] else []) ++ Nat.toDigits 10 n.natAbs

def Number.render : Number → List Char
  | .integer n => integerText n
  | .real x => Decimal.doubleText x

def hexDigit (n : Nat) : Char := Nat.digitChar n

def escapeChar (c : Char) : List Char :=
  if c = '"' then ['\\', '"']
  else if c = '\\' then ['\\', '\\']
  else if c = '\x08' then ['\\', 'b']
  else if c = '\x0c' then ['\\', 'f']
  else if c = '\n' then ['\\', 'n']
  else if c = '\r' then ['\\', 'r']
  else if c = '\t' then ['\\', 't']
  else if c < ' ' then ['\\', 'u', '0', '0', hexDigit (c.toNat / 16), hexDigit (c.toNat % 16)]
  else [c]

def renderText (s : String) : List Char := '"' :: s.toList.flatMap escapeChar ++ ['"']

mutual

/-- The compact form of a value: no blanks. -/
def Value.render : Value → List Char
  | .null => ['n', 'u', 'l', 'l']
  | .boolean true => ['t', 'r', 'u', 'e']
  | .boolean false => ['f', 'a', 'l', 's', 'e']
  | .number n => n.render
  | .text s => renderText s
  | .array [] => ['[', ']']
  | .array (v :: rest) => '[' :: v.render ++ renderItems rest
  | .object [] => ['\x7b', '\x7d']
  | .object ((k, v) :: rest) => '\x7b' :: renderText k ++ ':' :: v.render ++ renderEntries rest

/-- The items after the first one, up to the closing bracket. -/
def renderItems : List Value → List Char
  | [] => [']']
  | v :: rest => ',' :: v.render ++ renderItems rest

def renderEntries : List (String × Value) → List Char
  | [] => ['\x7d']
  | (k, v) :: rest => ',' :: renderText k ++ ':' :: v.render ++ renderEntries rest

end

def Value.compact (v : Value) : String := String.ofList v.render

end RigidWorlds.Json
