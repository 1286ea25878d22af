import RigidWorlds.Engine.Mover

/-!
Springs in the course of a step.  A spring asks for a speed at which its two ends part; in a short
time it acts like a soft constraint on that speed.
-/

namespace RigidWorlds.Engine

structure SpringConstraint where
  first : Key
  second : Key
  /-- From the first end to the second. -/
  direction : Vec2
  firstLever : Float32
  secondLever : Float32
  /-- Added to the speed at which the ends part. -/
  offset : Float32
  /-- How far an impulse makes up for missing speed. -/
  softness : Float32
  /-- The impulse that changes the speed by one. -/
  mass : Float32
  impulse : Float32

namespace SpringConstraint

/-- The constraint for a part of a step.  An end on a body that is not dynamic is where it will be
at the end of the step, and a spring whose second body is not dynamic pulls as if its length were
negative. -/
def ofSpring (time : Float32) (s : Spring) (x y : Mover) : SpringConstraint :=
  let flipped := !y.isDynamic
  let (first, a, firstAnchor) :=
    if flipped then (s.second, y, s.secondAnchor) else (s.first, x, s.firstAnchor)
  let (second, b, secondAnchor) :=
    if flipped then (s.first, x, s.firstAnchor) else (s.second, y, s.secondAnchor)
  let frame := if a.isDynamic then a.pose else a.goal
  let place := b.pose.apply secondAnchor
  let gap := place - frame.apply firstAnchor
  let firstArm := place - if a.isDynamic then a.pose.translation else a.center
  let secondArm := place - b.pose.translation
  -- the direction and the levers are sums over the axes of the first body
  let r := frame.rotation
  let axes : List Vec2 := [⟨r.cos, r.sin⟩, ⟨-r.sin, r.cos⟩]
  let sum (f : Vec2 → Float32) : Float32 := axes.foldl (fun t v => t + f v * v.dot gap) 0
  let whole : Vec2 := ⟨sum (·.x), sum (·.y)⟩
  let distance := whole.norm
  let inverse := boundedReciprocal distance
  let direction := whole.scale inverse
  let firstArc := sum (firstArm.cross ·) * inverse
  let secondArc := sum (secondArm.cross ·) * inverse
  let length := if flipped then -s.length else s.length
  let rate := s.stiffness * boundedReciprocal (time * s.stiffness + s.damping)
  let drift :=
    if a.isDynamic then 0 else -(direction.dot a.velocity) - firstArc * a.turning
  let firstLever := a.lever firstArc
  let secondLever := b.lever secondArc
  let yielding :=
    direction.dot (direction.scale (a.mass.inverseMass + b.mass.inverseMass)) +
      firstLever * firstLever + secondLever * secondLever
  let softness := boundedReciprocal (time * time * s.stiffness + time * s.damping)
  { first := first
    second := second
    direction := direction
    firstLever := firstLever
    secondLever := secondLever
    offset := (distance - length) * rate + drift
    softness := softness
    mass := boundedReciprocal (yielding + softness)
    impulse := 0 }

/-- Changes the motion of both bodies so that the constraint is met. -/
def solve (c : SpringConstraint) (a b : Mover) : SpringConstraint × Mover × Mover :=
  let parting :=
    c.direction.dot (b.linear - a.linear) + (c.secondLever * b.spin - c.firstLever * a.spin) +
      c.offset
  let impulse := c.impulse + c.mass * (parting - c.softness * c.impulse)
  let change := impulse - c.impulse
  let along := c.direction.scale change
  ({ c with impulse := impulse },
    { a with
      linear := a.linear + along.scale a.mass.inverseMass
      spin := a.spin + c.firstLever * change },
    { b with
      linear := b.linear - along.scale b.mass.inverseMass
      spin := b.spin - c.secondLever * change })

def solveAll (cs : List SpringConstraint) : StateM (Arena Mover) (List SpringConstraint) :=
  cs.mapM fun c => Mover.meet c.first c.second solve c

end SpringConstraint

end RigidWorlds.Engine
