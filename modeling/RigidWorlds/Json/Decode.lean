import RigidWorlds.Json.Reader

/-!
Decoding into the types of the library, either straight from text, where every fault has a place, or
from a value that was read before.  Encoding writes singles with their own shortest digits.
-/

namespace RigidWorlds.Json

open Binary

class Decode (α : Type) where
  ofText : List Char → Except Fault (Parsed α)
  ofValue : Value → Except Cause α

class Encode (α : Type) where
  render : α → List Char

def encode [Encode α] (a : α) : String := String.ofList (Encode.render a)

def decode [Decode α] (text : String) : Except ReadError α := readAll Decode.ofText text

def numberOfText (expected : String) (accept : Number → Except Cause α) (rest : List Char) :
    Except Fault (Parsed α) :=
  let accepted (read : Except Fault (Parsed Number)) : Except Fault (Parsed α) := do
    let (n, rest) ← read
    match accept n with
    | .ok a => return (a, rest)
    | .error cause => throw (.here cause rest)
  match skipBlanks rest with
  | [] => .error (.next .endInValue [])
  | c :: rest =>
      if c = '-' then accepted (readNumber true rest)
      else if isDigit c then accepted (readNumber false (c :: rest))
      else .error (mismatch expected (c :: rest))

def numberOfValue (expected : String) (accept : Number → Except Cause α) (v : Value) :
    Except Cause α :=
  match v with
  | .number n => accept n
  | v => .error (.invalidType v.found expected)

def acceptInteger (expected : String) (low high : Int) : Number → Except Cause Int
  | .integer n => if low ≤ n ∧ n ≤ high then .ok n else .error (.outOfRange n expected)
  | .real x => .error (.invalidType (.number (.real x)) expected)

def Number.toSingle : Number → Float32
  | .integer n => singleOfInt n
  | .real x => narrow x

def acceptWord (n : Number) : Except Cause UInt32 :=
  (acceptInteger "u32" 0 0xffffffff n).map (fun n => .ofNat n.toNat)

def acceptSigned (n : Number) : Except Cause Int32 :=
  (acceptInteger "i32" (-0x80000000) 0x7fffffff n).map Int32.ofInt

instance : Decode Float32 where
  ofText := numberOfText "f32" fun n => .ok n.toSingle
  ofValue := numberOfValue "f32" fun n => .ok n.toSingle

instance : Encode Float32 where
  render x := if x.isFinite then Decimal.singleText x else ['n', 'u', 'l', 'l']

instance : Decode UInt32 where
  ofText := numberOfText "u32" acceptWord
  ofValue := numberOfValue "u32" acceptWord

instance : Encode UInt32 where
  render n := integerText n.toNat

instance : Decode Int32 where
  ofText := numberOfText "i32" acceptSigned
  ofValue := numberOfValue "i32" acceptSigned

instance : Encode Int32 where
  render n := integerText n.toInt

instance : Decode Bool where
  ofText rest :=
    match skipBlanks rest with
    | [] => .error (.next .endInValue [])
    | 't' :: rest => (readWord ['r', 'u', 'e'] rest).map fun (_, rest) => (true, rest)
    | 'f' :: rest => (readWord ['a', 'l', 's', 'e'] rest).map fun (_, rest) => (false, rest)
    | rest => .error (mismatch "a boolean" rest)
  ofValue
    | .boolean b => .ok b
    | v => .error (.invalidType v.found "a boolean")

instance : Encode Bool where
  render b := (Value.boolean b).render

instance : Decode String where
  ofText rest :=
    match skipBlanks rest with
    | [] => .error (.next .endInValue [])
    | '"' :: rest => readText rest
    | rest => .error (mismatch "a string" rest)
  ofValue
    | .text s => .ok s
    | v => .error (.invalidType v.found "a string")

instance : Encode String where
  render := renderText

/-- Ends a container.  A fault inside it that has no place yet gets the one reached by reading on to
the end of the container. -/
def endContainer (close : List Char → Option Fault × List Char)
    (inside : Except Fault (Parsed α)) : Except Fault (Parsed α) :=
  match inside with
  | .ok (a, rest) =>
      match close rest with
      | (none, rest) => .ok (a, rest)
      | (some fault, _) => .error fault
  | .error (.placed cause bytesLeft) => .error (.placed cause bytesLeft)
  | .error (.unplaced cause rest) => .error (.here cause (close rest).2)

/-- The items of a list up to its bracket; the fuel bounds their number. -/
def itemsOfText [Decode α] : Nat → Bool → List Char → Except Fault (Parsed (List α))
  | 0, _, rest => .error (.here .endInList rest)
  | fuel + 1, first, rest => do
      let (more, rest) ← nextItem first rest
      if more then
        let (a, rest) ← Decode.ofText rest
        let (as, rest) ← itemsOfText fuel false rest
        return (a :: as, rest)
      else return ([], rest)

instance [Decode α] : Decode (List α) where
  ofText rest :=
    match skipBlanks rest with
    | [] => .error (.next .endInValue [])
    | '[' :: rest => endContainer closeList (itemsOfText (rest.length + 1) true rest)
    | rest => .error (mismatch "a sequence" rest)
  ofValue
    | .array items => items.mapM Decode.ofValue
    | v => .error (.invalidType v.found "a sequence")

def commaSeparated : List (List Char) → List Char
  | [] => []
  | [item] => item
  | item :: rest => item ++ ',' :: commaSeparated rest

instance [Encode α] : Encode (List α) where
  render items := '[' :: commaSeparated (items.map Encode.render) ++ [']']

def renderRecord (fields : List (String × List Char)) : List Char :=
  let entry (field : String × List Char) : List Char := renderText field.1 ++ ':' :: field.2
  '\x7b' :: commaSeparated (fields.map entry) ++ ['\x7d']

end RigidWorlds.Json
