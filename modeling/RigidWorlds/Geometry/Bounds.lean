import RigidWorlds.Geometry.Shape

/-!
Bounds: upright rectangles around placed solids, rough and quick to compare.  For a search among
many of them the plane is cut into square cells, the smallest of which are still larger than the
bounds they are made for.
-/

namespace RigidWorlds

structure Bounds where
  low : Vec2
  high : Vec2
  deriving DecidableEq

structure Cell where
  column : Int
  row : Int

namespace Bounds

def ofSolid (solid : Solid) (pose : Pose) : Bounds :=
  let extent : Vec2 :=
    match solid with
    | .ball r => ⟨r, r⟩
    | .cuboid w h =>
        let r := pose.rotation
        ⟨r.cos.abs * w + r.sin.abs * h, r.sin.abs * w + r.cos.abs * h⟩
  ⟨pose.translation - extent, pose.translation + extent⟩

def widen (margin : Float32) (b : Bounds) : Bounds :=
  ⟨⟨b.low.x - margin, b.low.y - margin⟩, ⟨b.high.x + margin, b.high.y + margin⟩⟩

/-- The greatest scale of cells, and the width of its cells. -/
def greatestScale : Int := 42

def greatestWidth : Float32 := Float32.scaleB 1 (3 * greatestScale)

/-- The rectangle without what lies too far out for any cell. -/
def limit (b : Bounds) : Bounds :=
  let limit (x : Float32) : Float32 :=
    if -greatestWidth < x then if x < greatestWidth then x else greatestWidth else -greatestWidth
  ⟨⟨limit b.low.x, limit b.low.y⟩, ⟨limit b.high.x, limit b.high.y⟩⟩

def join (a b : Bounds) : Bounds where
  low := ⟨min a.low.x b.low.x, min a.low.y b.low.y⟩
  high := ⟨max a.high.x b.high.x, max a.high.y b.high.y⟩

def meet (a b : Bounds) : Bool :=
  a.low.x ≤ b.high.x && b.low.x ≤ a.high.x && a.low.y ≤ b.high.y && b.low.y ≤ a.high.y

/-- Whether two rectangles share more than an edge as seen along one axis. -/
def overlapAlong (axis : Vec2 → Float32) (a b : Bounds) : Bool :=
  axis a.low < axis b.high && axis b.low < axis a.high

/-- Whether a sweep from left to right that passes the left edge of the first rectangle finds the
second one: by its left edge before the right one of the first, or by its right edge if it began
before.  At equal places the second comes before or `after` the first. -/
def sweepFinds (after : Bool) (a b : Bounds) : Bool :=
  let passed (x : Float32) : Bool := a.low.x < x || (after && a.low.x == x)
  (passed b.low.x && b.low.x < a.high.x) || (passed b.high.x && b.low.x ≤ a.low.x)

/-- How many of the bounds a cell made for them has room for side by side. -/
def perCell : Float32 := 10

/-- The width of the cells made for the bounds, as a power of eight. -/
def scale (b : Bounds) : Int :=
  let diagonal := 2 * ((b.high - b.low).scale 0.5).norm
  min greatestScale ((diagonal * perCell).log / Float32.log 8).round.toInt32.toInt

def cell (scale : Int) (point : Vec2) : Cell :=
  let count (x : Float32) : Int := (x.scaleB (-3 * scale)).floor.toInt32.toInt
  ⟨count point.x, count point.y⟩

def reach (scale : Int) (b : Bounds) (c : Cell) : Bool :=
  let low := cell scale b.low
  let high := cell scale b.high
  low.column ≤ c.column && c.column ≤ high.column && low.row ≤ c.row && c.row ≤ high.row

def sharedCells (scale : Int) (a b : Bounds) : List Cell :=
  let span (low high : Int) : List Int :=
    (List.range (high - low + 1).toNat).map fun i => low + Int.ofNat i
  let along (f : Cell → Int) : List Int :=
    span (max (f (cell scale a.low)) (f (cell scale b.low)))
      (min (f (cell scale a.high)) (f (cell scale b.high)))
  (along (·.column)).flatMap fun x => (along (·.row)).map fun y => ⟨x, y⟩

end Bounds

end RigidWorlds
