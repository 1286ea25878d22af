import RigidWorlds.Geometry.Pose
import RigidWorlds.Geometry.Segment

/-!
Rectangles around the origin, given by their half-widths: nearest and farthest points, sides, and
how far the sides of one keep another away.
-/

namespace RigidWorlds

def positivePart (x : Float32) : Float32 := if x < 0 then 0 else x

/-- A length with the sign of a number; the two zeros have different signs. -/
def signed (length x : Float32) : Float32 := if x.toBits < 0x80000000 then length else -length

/-- A direction and how far something lies along it, negative if it lies behind. -/
structure Separation where
  normal : Vec2
  distance : Float32

namespace Rectangle

/-- The shift that takes a point to the nearest point of the rectangle; none if the point is
inside. -/
def shiftInto (w h : Float32) (point : Vec2) : Vec2 :=
  ⟨positivePart (-w - point.x) - positivePart (point.x - w),
    positivePart (-h - point.y) - positivePart (point.y - h)⟩

/-- The side nearest to a point inside, and how far the point is beyond it. -/
def nearestSide (w h : Float32) (point : Vec2) : Separation :=
  let beyond (half x : Float32) : Float32 := x.abs - half
  let x := beyond w point.x
  let y := beyond h point.y
  if x < y then ⟨⟨0, if 0 < point.y then 1 else -1⟩, y⟩
  else ⟨⟨if 0 < point.x then 1 else -1, 0⟩, x⟩

def nearest (w h : Float32) (point : Vec2) : Vec2 :=
  let shift := shiftInto w h point
  if shift.isZero then
    let side := nearestSide w h point
    point - side.normal.scale side.distance
  else point + shift

def farthest (w h : Float32) (direction : Vec2) : Vec2 :=
  ⟨signed w direction.x, signed h direction.y⟩

def facing (w h : Float32) (direction : Vec2) : Segment :=
  if direction.y.abs < direction.x.abs then
    let x := signed w direction.x
    ⟨⟨x, h⟩, ⟨x, -h⟩⟩
  else
    let y := signed h direction.y
    ⟨⟨w, y⟩, ⟨-w, y⟩⟩

def farthestFrom (w h : Float32) (pose : Pose) (direction : Vec2) : Vec2 :=
  pose.apply (farthest w h (pose.rotation.inverse.apply direction))

/-- How far the sides of one rectangle keep another one, seen from the first, away: the side with
the widest gap, by its direction. -/
def sideGap (w h : Float32) (pose : Pose) (u v : Float32) : Separation :=
  let nearest (axis : Vec2) : Vec2 := farthestFrom u v pose (-axis)
  let signX := signed 1 pose.translation.x
  let signY := signed 1 pose.translation.y
  let gapX := (nearest ⟨signX, 0⟩).x * signX - w
  let gapY := (nearest ⟨0, signY⟩).y * signY - h
  if gapX < gapY then ⟨⟨0, signY⟩, gapY⟩ else ⟨⟨signX, 0⟩, gapX⟩

/-- The direction in which two rectangles are farthest apart, among those of the sides of both;
none if either keeps the other farther away than `reach`. -/
def widestGap (w h : Float32) (pose : Pose) (u v reach : Float32) : Option Separation :=
  let own := sideGap w h pose u v
  let other := sideGap u v pose.inverse w h
  if reach < own.distance || reach < other.distance then none
  else if own.distance < other.distance then
    some ⟨pose.rotation.apply (-other.normal), other.distance⟩
  else some own

end Rectangle

end RigidWorlds
