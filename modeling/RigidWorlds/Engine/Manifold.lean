import RigidWorlds.Geometry.Separation

/-!
Where two solids meet.  A manifold holds the points at which two solids touch, each in the frame of
both, and what the solids pushed there in the last step, so that the next step can start from it:
while the solids hardly move against each other the points are kept, and points that are found again
on the same parts of both outlines keep what was pushed.
-/

namespace RigidWorlds.Engine

/-- What two solids pushed at a point in the last step. -/
structure Load where
  /-- Along the normal and across it in the last part of the step. -/
  push : Float32
  rub : Float32
  /-- Along the normal in the whole step. -/
  total : Float32
  deriving DecidableEq

def Load.none : Load := ⟨0, 0, 0⟩

/-- A point at which two solids meet, or almost meet. -/
structure Touch where
  /-- The points of the two solids, each in its own frame. -/
  first : Vec2
  second : Vec2
  /-- From the one to the other along the normal. -/
  distance : Float32
  /-- The parts of the outlines of polygons that the points lie on. -/
  features : Option (Feature × Feature)
  load : Load
  deriving DecidableEq

structure Manifold where
  /-- From the first solid to the second, in the frame of the first. -/
  firstNormal : Vec2
  /-- From the second solid to the first, in the frame of the second. -/
  secondNormal : Vec2
  points : List Touch
  deriving DecidableEq

/-- The cosine of the angle by which solids may turn against each other while points are kept. -/
def keepingCosine : Float32 := 0.9998477

/-- The square of the way that a point that is kept may slide. -/
def keepingSlide : Float32 := 1e-6

namespace Touch

/-- The same point after the second solid has moved to another pose, unless it slid too far or the
solids went from overlapping to apart or back. -/
def follow (pose : Pose) (normal : Vec2) (t : Touch) : Option Touch :=
  let second := pose.apply t.second
  let distance := (second - t.first).dot normal
  let first := second - normal.scale distance
  if distance * t.distance < 0 ∨ keepingSlide < (t.first - first).normSquared then none
  else some { t with first := first, distance := distance }

/-- Takes over what was pushed at the same parts of the outlines. -/
def inherit (before : List Touch) (t : Touch) : Touch :=
  let same := before.filter fun b => b.features == t.features
  { t with load := (same.getLast?.map (·.load)).getD t.load }

end Touch

namespace Manifold

def empty : Manifold := ⟨.zero, .zero, []⟩

/-- The same points after the second solid has moved to another pose, if the move was small. -/
def follow (pose : Pose) (m : Manifold) : Option Manifold :=
  let cosine := -(m.firstNormal.dot (pose.rotation.apply m.secondNormal))
  if m.points.isEmpty ∨ cosine < keepingCosine then none
  else
    (m.points.mapM (Touch.follow pose m.firstNormal)).map fun points => { m with points := points }

def flip (m : Manifold) : Manifold where
  firstNormal := m.secondNormal
  secondNormal := m.firstNormal
  points := m.points.map fun t =>
    { t with
      first := t.second
      second := t.first
      features := t.features.map (·.swap) }

/-- A single point, which takes over what was pushed before. -/
def single (before : Manifold) (firstNormal secondNormal first second : Vec2)
    (distance : Float32) : Manifold where
  firstNormal := firstNormal
  secondNormal := secondNormal
  points := [⟨first, second, distance, none, (before.points.head?.map (·.load)).getD .none⟩]

def ballBall (reach r s : Float32) (pose : Pose) (before : Manifold) : Manifold :=
  let centers := Separation.ofOffset pose.translation
  let distance := centers.distance - r - s
  if distance < reach then
    let normal := pose.rotation.inverse.apply (-centers.normal)
    single before centers.normal normal (centers.normal.scale r) (normal.scale s) distance
  else empty

def cuboidBall (reach w h r : Float32) (pose : Pose) (before : Manifold) : Manifold :=
  let center := pose.translation
  let side := Separation.cuboidPoint w h center
  if side.distance ≤ r + reach then
    let near := Rectangle.nearest w h center
    let normal := pose.rotation.inverse.apply (-side.normal)
    single before side.normal normal near (normal.scale r) (side.distance - r)
  else empty

/-- The points of two facing sides that lie opposite to each other, the second side seen from the
first solid. -/
def facingPoints (pose : Pose) (normal : Vec2) (own other : Segment) : List Touch :=
  let placed : Segment := ⟨pose.apply other.start, pose.apply other.finish⟩
  let touch (s t : Spot) : Touch :=
    { first := s.place
      second := pose.applyInverse t.place
      distance := (t.place - s.place).dot normal
      features := some (s.feature, t.feature)
      load := .none }
  match own.clip placed other with
  | some (low, high) => [touch low.1 low.2, touch high.1 high.2]
  | none => []

def cuboidCuboid (reach w h u v : Float32) (pose : Pose) (before : Manifold) : Manifold :=
  match before.follow pose with
  | some kept => kept
  | none =>
      match Rectangle.widestGap w h pose u v reach with
      | none => empty
      | some gap =>
          let normal := pose.rotation.inverse.apply (-gap.normal)
          let own := Rectangle.facing w h gap.normal
          let other := Rectangle.facing u v normal
          { firstNormal := gap.normal
            secondNormal := normal
            points := (facingPoints pose gap.normal own other).map (·.inherit before.points) }

/-- The points at which two solids meet, given those before and the pose of the second solid seen
from the first. -/
def between (reach : Float32) (a b : Solid) (pose : Pose) (before : Manifold) : Manifold :=
  match a, b with
  | .ball r, .ball s => ballBall reach r s pose before
  | .cuboid w h, .ball r => cuboidBall reach w h r pose before
  | .ball r, .cuboid w h => (cuboidBall reach w h r pose.inverse before.flip).flip
  | .cuboid w h, .cuboid u v => cuboidCuboid reach w h u v pose before

def depth (m : Manifold) : Option Float32 :=
  (m.points.map (·.distance)).min?

end Manifold

end RigidWorlds.Engine
