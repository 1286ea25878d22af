import RigidWorlds.Json.Decode
import RigidWorlds.Json.Skip

/-!
Records are written as objects or as the lists of their fields.  An object may hold unknown keys,
and a list may be shorter than the record; a field that is left out keeps the value of the blank
record unless it is required.
-/

namespace RigidWorlds.Json

/-- A field of records of type `α`: how it is read and put into a record. -/
structure Field (α : Type) where
  name : String
  required : Bool
  ofText : List Char → Except Fault (Parsed (α → α))
  ofValue : Value → Except Cause (α → α)

namespace Field

/-- A field that keeps its blank value when it is left out. -/
def optional [Decode β] (name : String) (put : β → α → α) : Field α where
  name := name
  required := false
  ofText rest := (Decode.ofText rest).map fun (b, rest) => (put b, rest)
  ofValue v := (Decode.ofValue v).map put

def needed [Decode β] (name : String) (put : β → α → α) : Field α :=
  { optional name put with required := true }

end Field

structure Record (α : Type) where
  name : String
  /-- The fields in the order of a list. -/
  fields : List (Field α)
  blank : α

/-- A record under construction and the names of the fields it has got. -/
structure Draft (α : Type) where
  record : α
  filled : List String

namespace Record

def kind (r : Record α) : String := "struct " ++ r.name

def extent (r : Record α) : String :=
  r.kind ++ " with " ++ toString r.fields.length ++
    if r.fields.length = 1 then " element" else " elements"

def start (r : Record α) : Draft α := ⟨r.blank, []⟩

def field? (r : Record α) (name : String) : Option (Field α) :=
  r.fields.find? fun f => f.name == name

def finish (r : Record α) (missing : Nat → Field α → Cause) (d : Draft α) : Except Cause α :=
  match r.fields.zipIdx.find? fun (f, _) => f.required && !d.filled.contains f.name with
  | some (f, i) => .error (missing i f)
  | none => .ok d.record

def finishObject (r : Record α) (d : Draft α) : Except Cause α :=
  r.finish (fun _ f => .missingField f.name) d

def finishList (r : Record α) (d : Draft α) : Except Cause α :=
  r.finish (fun i _ => .invalidLength i r.extent) d

def put (f : Field α) (change : α → α) (d : Draft α) : Draft α :=
  ⟨change d.record, f.name :: d.filled⟩

def addEntry (r : Record α) (d : Draft α) (entry : String × Value) : Except Cause (Draft α) :=
  match r.field? entry.1 with
  | none => .ok d
  | some f =>
      if d.filled.contains f.name then .error (.duplicateField f.name)
      else (f.ofValue entry.2).map fun change => put f change d

/-- Fills the fields with the items of a list, as far as both go. -/
def addItems : List (Field α) → List Value → Draft α → Except Cause (Draft α)
  | f :: fields, v :: items, d =>
      (f.ofValue v).bind fun change => addItems fields items (put f change d)
  | _, _, d => .ok d

def ofValue (r : Record α) : Value → Except Cause α
  | .object entries => (entries.foldlM r.addEntry r.start).bind r.finishObject
  | .array items => do
      let a ← (addItems r.fields items r.start).bind r.finishList
      if r.fields.length < items.length then
        throw (.invalidLength items.length "fewer elements in array")
      else return a
  | v => .error (.invalidType v.found r.kind)

/-- Gives a cause that arises between two readings the text not read yet. -/
def unread (rest : List Char) : Except Cause α → Except Fault (Parsed α)
  | .ok a => .ok (a, rest)
  | .error cause => .error (.unplaced cause rest)

/-- The entries of an object up to its brace; the fuel bounds their number. -/
def entriesOfText (r : Record α) :
    Nat → Bool → Draft α → List Char → Except Fault (Parsed (Draft α))
  | 0, _, _, rest => .error (.here .endInObject rest)
  | fuel + 1, first, d, rest => do
      let (more, rest) ← nextKey first rest
      if more then
        let (key, rest) ← readText rest
        match r.field? key with
        | none =>
            let (_, rest) ← readColon rest
            let rest ← skipValue (stepsFor rest) rest
            entriesOfText r fuel false d rest
        | some f =>
            if d.filled.contains f.name then throw (.unplaced (.duplicateField f.name) rest)
            else
              let (_, rest) ← readColon rest
              let (change, rest) ← f.ofText rest
              entriesOfText r fuel false (put f change d) rest
      else return (d, rest)

/-- Fills the fields with the items of a list up to its bracket, as far as both go. -/
def itemsOfText : List (Field α) → Bool → Draft α → List Char → Except Fault (Parsed (Draft α))
  | [], _, d, rest => .ok (d, rest)
  | f :: fields, first, d, rest => do
      let (more, rest) ← nextItem first rest
      if more then
        let (change, rest) ← f.ofText rest
        itemsOfText fields false (put f change d) rest
      else return (d, rest)

def ofText (r : Record α) (rest : List Char) : Except Fault (Parsed α) :=
  match skipBlanks rest with
  | [] => .error (.next .endInValue [])
  | '[' :: rest =>
      endContainer closeList do
        let (d, rest) ← itemsOfText r.fields true r.start rest
        unread rest (r.finishList d)
  | '\x7b' :: rest =>
      endContainer closeObject do
        let (d, rest) ← r.entriesOfText (rest.length + 1) true r.start rest
        unread rest (r.finishObject d)
  | rest => .error (mismatch r.kind rest)

@[reducible]
def decode (r : Record α) : Decode α := ⟨r.ofText, r.ofValue⟩

end Record

end RigidWorlds.Json
