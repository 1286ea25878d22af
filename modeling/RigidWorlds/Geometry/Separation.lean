import RigidWorlds.Geometry.Rectangle
import RigidWorlds.Geometry.Shape

/-!
How far two solids are apart, and whether they have a point in common.  Both look at the second
solid from the first.
-/

namespace RigidWorlds

namespace Separation

def ofOffset (offset : Vec2) : Separation :=
  let length := offset.norm
  if length == 0 then ⟨⟨0, 1⟩, 0⟩ else ⟨⟨offset.x / length, offset.y / length⟩, length⟩

/-- Offsets not longer than this have no direction. -/
def shortest : Float32 := 1.1920929e-7

def ofOffset? (offset : Vec2) : Option Separation :=
  if shortest * shortest < offset.normSquared then some (ofOffset offset) else none

/-- The center of a disc seen from a rectangle: from the point of its outline that is nearest.  On
the outline the direction is the one from the center of the rectangle, or its opposite for a point
that counts as inside. -/
def cuboidPoint (w h : Float32) (center : Vec2) : Separation :=
  let inside := (Rectangle.shiftInto w h center).isZero
  let side :=
    match ofOffset? (center - Rectangle.nearest w h center) with
    | some side => side
    | none => ⟨((ofOffset? center).map (·.normal)).getD ⟨1, 0⟩, 0⟩
  if inside then ⟨-side.normal, -side.distance⟩ else side

end Separation

/-- Where two solids come near each other. -/
structure Approach where
  /-- A point of each solid, in its own frame. -/
  first : Vec2
  second : Vec2
  /-- From the first solid to the second, in the frame of the first. -/
  normal : Vec2
  /-- Along the normal; negative if the solids overlap. -/
  distance : Float32

namespace Approach

/-- The same seen from the second solid, whose pose is given. -/
def flip (pose : Pose) (a : Approach) : Approach where
  first := a.second
  second := a.first
  normal := pose.rotation.inverse.apply (-a.normal)
  distance := a.distance

def ballBall (r s : Float32) (pose : Pose) : Approach :=
  let offset := pose.translation
  let length := offset.norm
  let normal : Vec2 := if length == 0 then ⟨1, 0⟩ else ⟨offset.x / length, offset.y / length⟩
  { first := normal.scale r
    second := (pose.rotation.inverse.apply (-normal)).scale s
    normal := normal
    distance := length - (r + s) }

def cuboidBall (w h r : Float32) (pose : Pose) : Approach :=
  let side := Separation.cuboidPoint w h pose.translation
  { first := Rectangle.nearest w h pose.translation
    second := (pose.rotation.inverse.apply (-side.normal)).scale r
    normal := side.normal
    distance := side.distance - r }

/-- Two rectangles, along the side of the first that keeps the second farthest away: the points are
the corner of the second farthest back in that direction and what is nearest to it. -/
def beyondSide (side : Separation) (w h : Float32) (pose : Pose) (u v : Float32) : Approach :=
  let corner := Rectangle.farthestFrom u v pose (-side.normal)
  { first := Rectangle.nearest w h corner
    second := pose.applyInverse corner
    normal := side.normal
    distance := side.distance }

/-- Two rectangles, along the side of either that keeps the other farthest away. -/
def cuboidCuboid (w h : Float32) (pose : Pose) (u v : Float32) : Approach :=
  let own := Rectangle.sideGap w h pose u v
  let other := Rectangle.sideGap u v pose.inverse w h
  if other.distance ≤ own.distance then beyondSide own w h pose u v
  else (beyondSide other u v pose.inverse w h).flip pose.inverse

def between (a b : Solid) (pose : Pose) : Approach :=
  match a, b with
  | .ball r, .ball s => ballBall r s pose
  | .cuboid w h, .ball r => cuboidBall w h r pose
  | .ball r, .cuboid w h => (cuboidBall w h r pose.inverse).flip pose.inverse
  | .cuboid w h, .cuboid u v => cuboidCuboid w h pose u v

end Approach

/-- Whether a disc around a point has a point in common with a rectangle. -/
def Rectangle.overlapsBall (w h : Float32) (center : Vec2) (radius : Float32) : Bool :=
  let shift := shiftInto w h center
  shift.isZero || (center - (center + shift)).normSquared ≤ radius * radius

def Solid.overlap (a b : Solid) (pose : Pose) : Bool :=
  match a, b with
  | .ball r, .ball s => pose.translation.normSquared ≤ (r + s) * (r + s)
  | .cuboid w h, .ball r => Rectangle.overlapsBall w h pose.translation r
  | .ball r, .cuboid w h => Rectangle.overlapsBall w h pose.inverse.translation r
  | .cuboid w h, .cuboid u v =>
      (Rectangle.sideGap w h pose u v).distance ≤ 0 &&
        (Rectangle.sideGap u v pose.inverse w h).distance ≤ 0

def Solid.farthest (solid : Solid) (direction : Vec2) : Vec2 :=
  match solid with
  | .ball r => direction.scale r
  | .cuboid w h => Rectangle.farthest w h direction

def Solid.farthestFrom (solid : Solid) (pose : Pose) (direction : Vec2) : Vec2 :=
  match solid with
  | .ball r => pose.translation + direction.scale r
  | .cuboid w h => Rectangle.farthestFrom w h pose direction

end RigidWorlds
