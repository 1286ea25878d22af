/-!
Arenas.  An item is kept in a slot and found again by a key, the slot together with the generation
it was put in; the slot of a removed item is used again, first the one freed last, under a new
generation, so an old key never finds a new item.
-/

namespace RigidWorlds.Engine

@[ext]
structure Key where
  slot : Nat
  generation : Nat
  deriving DecidableEq

/-- The list without an item; the last one takes its place. -/
def eraseSwapping [DecidableEq α] (l : List α) (x : α) : List α :=
  match l.idxOf? x, l.getLast? with
  | some i, some last => (l.set i last).dropLast
  | _, _ => l

structure Entry (α : Type) where
  generation : Nat
  item : α

structure Arena (α : Type) where
  slots : List (Option (Entry α))
  free : List Nat
  generation : Nat

namespace Arena

def empty : Arena α := ⟨[], [], 0⟩

def occupant? (a : Arena α) (slot : Nat) : Option (Entry α) := (a.slots[slot]?).join

def get? (a : Arena α) (key : Key) : Option α :=
  match a.occupant? key.slot with
  | some e => if e.generation = key.generation then some e.item else none
  | none => none

def contains (a : Arena α) (key : Key) : Bool := (a.get? key).isSome

/-- Puts an item in the slot freed last, or behind all others. -/
def insert (a : Arena α) (item : α) : Key × Arena α :=
  let entry : Option (Entry α) := some ⟨a.generation, item⟩
  match a.free with
  | slot :: free => (⟨slot, a.generation⟩, { a with slots := a.slots.set slot entry, free := free })
  | [] => (⟨a.slots.length, a.generation⟩, { a with slots := a.slots ++ [entry] })

/-- Frees the slot of a key that still finds its item. -/
def remove (a : Arena α) (key : Key) : Arena α :=
  if a.contains key then
    { slots := a.slots.set key.slot none
      free := key.slot :: a.free
      generation := a.generation + 1 }
  else a

def map (f : Key → α → β) (a : Arena α) : Arena β where
  slots := a.slots.zipIdx.map fun (entry, slot) =>
    entry.map fun e => ⟨e.generation, f ⟨slot, e.generation⟩ e.item⟩
  free := a.free
  generation := a.generation

def modify (a : Arena α) (key : Key) (f : α → α) : Arena α :=
  a.map fun k item => if k = key then f item else item

def toList (a : Arena α) : List (Key × α) :=
  a.slots.zipIdx.filterMap fun (entry, slot) =>
    entry.map fun e => (⟨slot, e.generation⟩, e.item)

def size (a : Arena α) : Nat := a.toList.length

end Arena

end RigidWorlds.Engine
