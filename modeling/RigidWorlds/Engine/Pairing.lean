import RigidWorlds.Engine.World

namespace RigidWorlds.Engine

/-- How far the bounds of a solid are moved out before they are compared. -/
def boundsMargin : Float32 := 0.001

/-- Solids closer than this push each other. -/
def touchMargin : Float32 := 0.002

/-- A collider with its key, the body it is attached to and what is known about it in a search. -/
structure Placed where
  key : Key
  collider : Collider
  body : Body
  rank : Nat
  bounded : Bounded

def Body.velocityAt (b : Body) (place : Vec2) : Vec2 :=
  b.motion.linearVelocity + (place - b.motion.center).turn b.motion.angularVelocity

def Collider.bounds (body : Body) (c : Collider) : Bounds :=
  ((Bounds.ofSolid c.solid body.motion.pose).widen boundsMargin).limit

namespace Placed

def pose (p : Placed) : Pose := p.body.motion.pose

def sense (p q : Placed) : Bool := p.collider.material.isSensor || q.collider.material.isSensor

def watched (p q : Placed) : Bool := p.body.isDynamic || q.body.isDynamic

/-- A point at which two solids are close, as a point at which they push each other in a step of
the given time: if they are closer than the margin, or will be. -/
def contactPoint? (dt : Float32) (p q : Placed) (normal : Vec2) (index : Nat) (t : Touch) :
    Option ContactPoint :=
  let first := p.pose.apply t.first
  let second := q.pose.apply t.second
  let speed := (q.body.velocityAt second - p.body.velocityAt first).dot normal
  if t.distance < touchMargin ∨ t.distance + speed * dt < touchMargin then
    some ⟨index, first.midpoint second, t.distance, t.load⟩
  else none

def meeting (dt : Float32) (p q : Placed) (before : Option Meeting) : Meeting :=
  let pose := p.pose.toward q.pose
  let a := p.collider
  let b := q.collider
  if p.sense q then .sensor (p.watched q && a.solid.overlap b.solid pose)
  else
    let known := (before.map (·.manifold)).getD .empty
    let manifold :=
      if p.watched q then Manifold.between touchMargin a.solid b.solid pose known else .empty
    let normal := p.pose.rotation.apply manifold.firstNormal
    let points := manifold.points.zipIdx.filterMap fun (t, i) => p.contactPoint? dt q normal i t
    .solid manifold
      { normal := normal
        friction := (a.material.friction + b.material.friction) / 2
        restitution := max a.material.restitution b.material.restitution
        points := points }

/-- The pair of two colliders if they are close and on different bodies; pairs of which neither
collider is `fresh` stay as they are. -/
def pair? (dt : Float32) (before : List Pair) (fresh : Placed → Bool) (p q : Placed) :
    Option Pair :=
  let known := before.find? (·.joins p.key q.key)
  if p.collider.parent ≠ q.collider.parent ∧ p.bounded.close known.isSome q.bounded then
    match known with
    | some pair =>
        if fresh p || fresh q then
          some { pair with meeting := p.meeting dt q (some pair.meeting) }
        else known
    | none => some ⟨p.key, q.key, p.meeting dt q none⟩
  else none

def pairs (f : Placed → Placed → Option Pair) : List Placed → List Pair
  | [] => []
  | p :: rest => rest.filterMap (f p) ++ pairs f rest

end Placed

namespace World

/-- Gives a rank to a collider that has to take part in the search but does not yet. -/
def enter (w : World) (key : Key) : World :=
  match w.colliders.get? key with
  | some collider =>
      match w.bodies.get? collider.parent with
      | some body =>
          if collider.enabled ∧ collider.entry = none then
            let bounds := collider.bounds body
            let (rank, ranks) := w.ranks.take
            let entry : SearchEntry := ⟨rank, bounds.scale, bounds⟩
            let enter (c : Collider) : Collider := { c with entry := some entry }
            { w with ranks := ranks, colliders := w.colliders.modify key enter }
          else w
      | none => w
  | none => w

/-- The colliders that steps take notice of, by rank.  Those that were not `known` before are new
to the search. -/
def placed (w : World) (known : Key → Bool) : List Placed :=
  let all := w.colliders.toList.filterMap fun (key, collider) =>
    match w.bodies.get? collider.parent, collider.entry with
    | some body, some entry =>
        if collider.enabled then
          some
            { key := key
              collider := collider
              body := body
              rank := entry.rank
              bounded :=
                { order := (w.stirred.idxOf? key).getD (w.stirred.length + entry.rank)
                  scale := entry.scale
                  before := if known key then some entry.bounds else none
                  now := collider.bounds body } }
        else none
    | _, _ => none
  all.mergeSort fun p q => p.rank ≤ q.rank

/-- Ends the search: bounds are kept, and colliders that steps no longer take notice of leave. -/
def concludeSearch (w : World) (placed : List Placed) : World :=
  let retired := w.stirred.filterMap fun key =>
    (w.colliders.get? key).bind fun c => if c.enabled then none else c.entry
  let keep (key : Key) (c : Collider) : Collider :=
    match placed.find? (·.key = key) with
    | some p => { c with entry := c.entry.map fun e => { e with bounds := p.bounded.now } }
    | none => if c.enabled then c else { c with entry := none }
  { w with
    colliders := w.colliders.map keep
    ranks := (retired.foldl (fun ranks e => ranks.leave (some e)) w.ranks).release }

/-- Finds all pairs again, those that push first, and compares those of `fresh` colliders.  Bodies
in contact that are apart now wake up. -/
def findPairs (w : World) (dt : Float32) (fresh : Placed → Bool) : World :=
  let known (key : Key) : Bool := (w.colliders.get? key).any (·.entry.isSome)
  let entered := w.stirred.foldl enter w
  let placed := entered.placed known
  let found := Placed.pairs (Placed.pair? dt w.pairs fresh) placed
  let was (p : Pair) : Bool := w.pairs.any (·.joins p.first p.second)
  let lasting := w.pairs.filterMap fun p => found.find? (·.joins p.first p.second)
  let (sensing, pushing) :=
    (lasting ++ found.filter (!was ·)).partition (·.meeting.isSensor)
  let parted := w.pairs.filter fun p => p.isContact && !found.any (·.joins p.first p.second)
  let acquaint (key : Key) (c : Collider) : Collider :=
    if found.any (·.involves key) then { c with acquainted := true } else c
  let concluded := entered.concludeSearch placed
  { concluded with
    pairs := pushing ++ sensing
    colliders := concluded.colliders.map acquaint }.rouse (w.parents parted)

end World

end RigidWorlds.Engine
