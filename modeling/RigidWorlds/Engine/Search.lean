import RigidWorlds.Geometry.Bounds

/-!
The search for colliders that are close to each other, as far as it remembers something.  Every
collider has a rank.  Colliders are compared in the cells that their bounds reach into: those that
come into a cell by a sweep from left to right, in which what came first comes first at equal
places, and after that only those whose bounds begin to overlap along some axis.  So bounds that
just meet may or may not be found, depending on who came first.
-/

namespace RigidWorlds.Engine

/-- What is known about a collider since it takes part in the search. -/
structure SearchEntry where
  rank : Nat
  /-- The width of its cells, as a power of eight. -/
  scale : Int
  /-- Its bounds when they were last compared. -/
  bounds : Bounds
  deriving DecidableEq

structure Ranks where
  next : Nat
  /-- Ranks that became free, the last one first. -/
  free : List Nat
  /-- Ranks that become free after the next search. -/
  leaving : List Nat
  deriving DecidableEq

namespace Ranks

def initial : Ranks := ⟨0, [], []⟩

/-- Gives away the rank that became free last, or a new one. -/
def take (r : Ranks) : Nat × Ranks :=
  match r.free with
  | rank :: free => (rank, { r with free := free })
  | [] => (r.next, { r with next := r.next + 1 })

/-- Takes down that the rank of a collider, if it had one, becomes free. -/
def leave (r : Ranks) (entry : Option SearchEntry) : Ranks :=
  { r with leaving := r.leaving ++ (entry.map (·.rank)).toList }

def release (r : Ranks) : Ranks := { r with free := r.leaving.reverse ++ r.free, leaving := [] }

end Ranks

/-- The bounds of a collider in a search and in the one before it; `order` says in which order the
colliders are looked at. -/
structure Bounded where
  order : Nat
  scale : Int
  before : Option Bounds
  now : Bounds

namespace Bounded

def wasIn (scale : Int) (c : Cell) (b : Bounded) : Bool := b.before.any (·.reach scale c)

def joinAlong (axis : Vec2 → Float32) (a b : Bounded) : Bool :=
  let before : Bool :=
    match a.before, b.before with
    | some x, some y => x.overlapAlong axis y
    | _, _ => false
  !before && a.now.overlapAlong axis b.now

/-- Whether the first of two colliders is the first one to come into a cell. -/
def comesBefore (a b : Bounded) : Bool :=
  a.scale < b.scale || (a.scale = b.scale && a.order < b.order)

/-- Whether two colliders whose bounds meet find each other in a cell. -/
def findIn (scale : Int) (a b : Bounded) (c : Cell) : Bool :=
  match a.wasIn scale c, b.wasIn scale c with
  | true, true => joinAlong (·.x) a b || joinAlong (·.y) a b
  | false, true => a.now.sweepFinds false b.now
  | true, false => b.now.sweepFinds false a.now
  | false, false =>
      let first := a.comesBefore b
      a.now.sweepFinds first b.now || b.now.sweepFinds (!first) a.now

/-- Whether two colliders are close: a pair that was found lasts while the bounds meet. -/
def close (found : Bool) (a b : Bounded) : Bool :=
  let scale := min a.scale b.scale
  a.now.meet b.now && (found || (a.now.sharedCells scale b.now).any (findIn scale a b))

end Bounded

end RigidWorlds.Engine
