import RigidWorlds.Geometry.Vector

/-!
Straight lines between two points.  `Segment.clip` finds the stretch along which two segments face
each other.
-/

namespace RigidWorlds

structure Segment where
  start : Vec2
  finish : Vec2
  deriving DecidableEq

/-- A recognizable part of the outline of a polygon. -/
inductive Feature where
  | corner (place : Vec2)
  | side (line : Segment)
  deriving DecidableEq

/-- A point of an outline and the part it lies on. -/
structure Spot where
  place : Vec2
  feature : Feature

namespace Segment

def tangent (s : Segment) : Vec2 := s.finish - s.start

/-- The ends of a segment whose corners are named by `t`. -/
def startSpot (s t : Segment) : Spot := ⟨s.start, .corner t.start⟩

def finishSpot (s t : Segment) : Spot := ⟨s.finish, .corner t.finish⟩

/-- The point between `low` and `high` that lies `part` of the way along. -/
def between (low high : Vec2) (part : Float32) (t : Segment) : Spot :=
  ⟨low + (high - low).scale part, .side t⟩

/-- Where the stretch along which two segments face each other begins and ends, on the first
segment and on the second.  The second is placed beside the first; `name` is the same segment as its
own outline knows it. -/
def clip (s t name : Segment) : Option ((Spot × Spot) × (Spot × Spot)) :=
  let along (p : Vec2) : Float32 := (p - s.start).dot s.tangent
  let size := s.tangent.normSquared
  let ends := (t.startSpot name, t.finishSpot name)
  let (low, high) := if along t.finish < along t.start then ends.swap else ends
  let a := along low.place
  let b := along high.place
  if size < a ∨ b < 0 then none
  else
    let onFirst (x : Float32) : Spot := ⟨s.start + s.tangent.scale (x / size), .side s⟩
    let onSecond (x : Float32) : Spot := between low.place high.place ((x - a) / (b - a)) name
    some
      (if 0 < a then (onFirst a, low) else (s.startSpot s, onSecond 0),
        if b < size then (onFirst b, high) else (s.finishSpot s, onSecond size))

end Segment

end RigidWorlds
