import RigidWorlds.Error

/-!
Tables of registered objects.  Handles are issued in ascending order and never twice.  An issued
handle is pending until an object is bound to it or it is abandoned; it resolves from then until it
is released.
-/

namespace RigidWorlds

/-- `items` ascend by handle; `pending` are the handles issued but not bound yet. -/
structure HandleTable (k : Kind) (α : Type) where
  items : List (Handle k × α)
  pending : List (Handle k)
  nextIndex : UInt32

namespace HandleTable

variable {k : Kind} {α : Type}

def empty : HandleTable k α := ⟨[], [], 0⟩

/-- Puts an item in its place among items that ascend by handle. -/
def place (h : Handle k) (a : α) : List (Handle k × α) → List (Handle k × α)
  | [] => [(h, a)]
  | (g, b) :: rest =>
      if h.index < g.index then (h, a) :: (g, b) :: rest
      else if h = g then (h, a) :: rest
      else (g, b) :: place h a rest

def get? (t : HandleTable k α) (h : Handle k) : Option α := t.items.lookup h

def contains (t : HandleTable k α) (h : Handle k) : Bool := (t.get? h).isSome

def find (t : HandleTable k α) (h : Handle k) : Except Error α :=
  match t.get? h with
  | some a => .ok a
  | none => .error (.notFound h)

def size (t : HandleTable k α) : Nat := t.items.length

def isEmpty (t : HandleTable k α) : Bool := t.items.isEmpty

def handles (t : HandleTable k α) : List (Handle k) := t.items.map (·.1)

/-- The handles whose objects satisfy the predicate, in ascending order. -/
def handlesWhere (t : HandleTable k α) (p : α → Bool) : List (Handle k) :=
  (t.items.filter fun (_, a) => p a).map (·.1)

def modify (t : HandleTable k α) (h : Handle k) (f : α → α) : HandleTable k α :=
  { t with items := t.items.map fun (g, a) => if g = h then (g, f a) else (g, a) }

/-- Takes the object of a handle out of the table, if there is one. -/
def erase (t : HandleTable k α) (h : Handle k) : HandleTable k α :=
  { t with items := t.items.filter fun (g, _) => g ≠ h }

/-- Keeps the objects that do not satisfy the predicate. -/
def eraseWhere (t : HandleTable k α) (p : α → Bool) : HandleTable k α :=
  { t with items := t.items.filter fun (_, a) => !p a }

/-- What an operation on a table does: it may be refused, and the table goes on either way. -/
abbrev Action (k : Kind) (α : Type) := EStateM Error (HandleTable k α)

def allocate : Action k α (Handle k) := fun t =>
  if Handle.lastIndex < t.nextIndex then .error (.handlesExhausted k) t
  else
    let h : Handle k := ⟨t.nextIndex⟩
    .ok h { t with pending := t.pending ++ [h], nextIndex := t.nextIndex + 1 }

def bind (h : Handle k) (a : α) : Action k α Unit := fun t =>
  if h ∈ t.pending then
    .ok () { t with items := place h a t.items, pending := t.pending.erase h }
  else .error (.invalidHandle k h.index.toNat) t

def insert (a : α) : Action k α (Handle k) := do
  let h ← allocate
  bind h a
  return h

/-- Gives a pending handle back; its index stays used.  Answers whether it was pending. -/
def abandon (h : Handle k) : Action k α Bool := fun t =>
  .ok (decide (h ∈ t.pending)) { t with pending := t.pending.erase h }

def replace (h : Handle k) (a : α) : Action k α α := fun t =>
  match t.find h with
  | .ok old => .ok old (t.modify h fun _ => a)
  | .error e => .error e t

def release (h : Handle k) : Action k α α := fun t =>
  match t.find h with
  | .ok a => .ok a (t.erase h)
  | .error e => .error e t

end HandleTable

end RigidWorlds
