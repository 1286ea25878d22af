import RigidWorlds.Engine.Mover

/-!
Contacts in the course of a step.  At each point the two solids push each other along the normal,
so that they do not come closer, and rub against each other across it, as hard as the push allows.
While an overlap is being corrected pushing is soft, like a damped spring.
-/

namespace RigidWorlds.Engine

/-- Overlaps up to this are left alone. -/
def allowedOverlap : Float32 := 0.001

def correctionSpeed : Float32 := 10

def overlapFrequency : Float32 := 188.49556

def overlapDamping : Float32 := 5

def correctionRate (time : Float32) : Float32 :=
  overlapFrequency / (time * overlapFrequency + 2 * overlapDamping)

/-- What is kept of a push while an overlap is being corrected. -/
def pushFirmness (time : Float32) : Float32 :=
  let rest := 1 / (time * correctionRate time) - 1
  1 / (1 + rest * rest / ((1 + rest) * 4 * overlapDamping * overlapDamping))

/-- Impulses between two bodies at a point, along a direction. -/
structure Line where
  direction : Vec2
  firstLever : Float32
  secondLever : Float32
  /-- The impulse that changes the speed by one. -/
  mass : Float32

namespace Line

/-- How far two bodies yield to an impulse that does not turn them. -/
def yielding (direction : Vec2) (a b : Mover) : Float32 :=
  direction.dot (direction.scale (a.mass.inverseMass + b.mass.inverseMass))

def through (place direction : Vec2) (a b : Mover) : Line :=
  let firstLever := a.lever ((place - a.center).cross direction)
  let secondLever := b.lever ((place - b.center).cross (-direction))
  let whole := yielding direction a b + firstLever * firstLever + secondLever * secondLever
  { direction := direction
    firstLever := firstLever
    secondLever := secondLever
    mass := boundedReciprocal whole }

/-- How fast the first body moves along the line, relative to the second. -/
def speed (l : Line) (a b : Mover) : Float32 :=
  l.direction.dot a.linear + l.firstLever * a.spin - l.direction.dot b.linear +
    l.secondLever * b.spin

def push (l : Line) (impulse : Float32) (a b : Mover) : Mover × Mover :=
  (a.push l.direction impulse (l.firstLever * impulse),
    b.push l.direction (-impulse) (l.secondLever * impulse))

end Line

structure PressPoint where
  index : Nat
  /-- The point in the frames of both bodies, at the start of the step. -/
  firstPlace : Vec2
  secondPlace : Vec2
  distance : Float32
  normal : Line
  tangent : Line
  /-- Speeds, along the normal and across it, that are added to those of the bodies: what they
  bounce off with, and how the first one moves if it does not give way. -/
  bounce : Float32
  drag : Float32
  /-- The same in a part of the step, with and without the correction of positions. -/
  pushGoal : Float32
  freeGoal : Float32
  rubGoal : Float32
  push : Float32
  rub : Float32
  /-- What was pushed in the parts before. -/
  pushSum : Float32

namespace PressPoint

/-- Pushes so that the bodies do not come closer. -/
def solve (firmness : Float32) (p : PressPoint) (a b : Mover) : PressPoint × Mover × Mover :=
  let asked := p.push - p.normal.mass * (p.normal.speed a b + p.pushGoal)
  let push := firmness * positivePart asked
  ({ p with push := push }, p.normal.push (push - p.push) a b)

/-- Rubs so that the bodies do not slide, up to a limit. -/
def solveRub (friction : Float32) (p : PressPoint) (a b : Mover) : PressPoint × Mover × Mover :=
  let limit := friction * p.push
  let asked := p.rub - p.tangent.mass * (p.tangent.speed a b + p.rubGoal)
  let rub := if asked < -limit then -limit else if limit < asked then limit else asked
  ({ p with rub := rub }, p.tangent.push (rub - p.rub) a b)

def warm (p : PressPoint) (a b : Mover) : Mover × Mover :=
  let (a, b) := p.normal.push p.push a b
  p.tangent.push p.rub a b

/-- Sees how far the bodies have come until a part of the step begins. -/
def renew (time : Float32) (first second : Pose) (p : PressPoint) : PressPoint :=
  let shift := first.apply p.firstPlace - second.apply p.secondPlace
  let distance := p.distance + shift.dot p.normal.direction
  let overlap := correctionRate time * (distance + allowedOverlap)
  let correction :=
    if overlap < -correctionSpeed then -correctionSpeed else if 0 < overlap then 0 else overlap
  let goal := p.bounce + positivePart distance * (1 / time)
  { p with
    pushGoal := goal + correction
    freeGoal := goal
    rubGoal := p.drag + shift.dot p.tangent.direction * (1 / time)
    pushSum := p.pushSum + p.push }

/-- Gives up the correction of positions. -/
def free (p : PressPoint) : PressPoint := { p with pushGoal := p.freeGoal, rubGoal := p.drag }

def load (p : PressPoint) : Load := ⟨p.push, p.rub, p.pushSum + p.push⟩

end PressPoint

/-- A contact in the course of a step.  If one of the bodies does not give way it is the first
one. -/
structure ContactConstraint where
  members : Key × Key
  first : Key
  second : Key
  friction : Float32
  firmness : Float32
  /-- How far the bodies yield to a push that does not turn them. -/
  yielding : Float32
  points : List PressPoint

namespace ContactConstraint

def ofContact (members : Key × Key) (contact : Contact) (one two : Key) (x y : Mover) :
    ContactConstraint :=
  let flipped := !y.isDynamic
  let (first, a) := if flipped then (two, y) else (one, x)
  let (second, b) := if flipped then (one, x) else (two, y)
  let direction := if flipped then contact.normal else -contact.normal
  let point (p : ContactPoint) : PressPoint :=
    let own := a.velocityAt p.place
    let closing := (own - b.velocityAt p.place).dot direction
    let bouncy := if p.isNew then 0 < contact.restitution else 1 ≤ contact.restitution
    let bounce := if bouncy then contact.restitution * closing else 0
    { index := p.index
      firstPlace := a.start.applyInverse p.place
      secondPlace := b.start.applyInverse p.place
      distance := p.distance
      normal := .through p.place direction a b
      tangent := .through p.place direction.left a b
      bounce := if a.isDynamic then bounce else own.dot direction + bounce
      drag := if a.isDynamic then 0 else own.dot direction.left
      pushGoal := 0
      freeGoal := 0
      rubGoal := 0
      push := p.load.push
      rub := p.load.rub
      pushSum := 0 }
  { members := members
    first := first
    second := second
    friction := contact.friction
    firmness := 1
    yielding := Line.yielding direction a b
    points := contact.points.map point }

def eachPoint (f : PressPoint → Mover → Mover → PressPoint × Mover × Mover)
    (c : ContactConstraint) (a b : Mover) : ContactConstraint × Mover × Mover :=
  let (points, a, b) := c.points.foldl
    (fun (done, a, b) p =>
      let (p, a, b) := f p a b
      (done ++ [p], a, b))
    ([], a, b)
  ({ c with points := points }, a, b)

/-- The two pushes that stop two points, given how fast they close, what is pushed already, and
how the bodies yield: at both points, or at one while the other opens, or at none.  If the bodies
yield to both pushes in the same way only the deeper point counts. -/
def pushBoth (firmness shared : Float32) (p q : PressPoint) (closing : Vec2) : Vec2 :=
  let own := boundedReciprocal p.normal.mass
  let other := boundedReciprocal q.normal.mass
  let determinant := own * other - shared * shared
  let (m11, m12, m22, coupling) :=
    if determinant != 0 then (other / determinant, -shared / determinant, own / determinant, shared)
    else if p.distance ≤ q.distance then (p.normal.mass, 0, 0, 0)
    else (0, 0, q.normal.mass, 0)
  let atBoth : Vec2 :=
    ⟨p.push - (m11 * closing.x + m12 * closing.y), q.push - (m12 * closing.x + m22 * closing.y)⟩
  let atFirst := p.push - p.normal.mass * closing.x
  let atSecond := q.push - q.normal.mass * closing.y
  if 0 ≤ atBoth.x ∧ 0 ≤ atBoth.y then atBoth.scale firmness
  else if 0 ≤ atFirst ∧ 0 ≤ closing.y + coupling * atFirst then ⟨atFirst * firmness, 0⟩
  else if 0 ≤ atSecond ∧ 0 ≤ closing.x + coupling * atSecond then ⟨0, atSecond * firmness⟩
  else if 0 ≤ closing.x ∧ 0 ≤ closing.y then .zero
  else ⟨p.push, q.push⟩

/-- Pushes the bodies apart, at two points at once if there are two. -/
def solve (c : ContactConstraint) (a b : Mover) : ContactConstraint × Mover × Mover :=
  match c.points with
  | [p, q] =>
      let direction := p.normal.direction
      let linear := direction.dot a.linear - direction.dot b.linear
      let closing (p : PressPoint) : Float32 :=
        linear + p.normal.firstLever * a.spin + p.normal.secondLever * b.spin + p.pushGoal
      let shared :=
        c.yielding + p.normal.firstLever * q.normal.firstLever +
          p.normal.secondLever * q.normal.secondLever
      let push := pushBoth c.firmness shared p q ⟨closing p, closing q⟩
      let change : Vec2 := ⟨push.x - p.push, push.y - q.push⟩
      let turn (lever : Line → Float32) : Float32 :=
        lever p.normal * change.x + lever q.normal * change.y
      let total := change.x + change.y
      ({ c with points := [{ p with push := push.x }, { q with push := push.y }] },
        a.push direction total (turn (·.firstLever)),
        b.push direction (-total) (turn (·.secondLever)))
  | _ => c.eachPoint (PressPoint.solve c.firmness) a b

def solveRub (c : ContactConstraint) : Mover → Mover → ContactConstraint × Mover × Mover :=
  c.eachPoint (PressPoint.solveRub c.friction)

def warm (c : ContactConstraint) : Mover → Mover → ContactConstraint × Mover × Mover :=
  c.eachPoint fun p a b => (p, p.warm a b)

/-- The constraint for the part of a step that begins after `elapsed` and takes `time`.  Pushing
is firm if bodies are so fast that they could pass through each other. -/
def renew (time elapsed : Float32) (c : ContactConstraint) (a b : Mover) :
    ContactConstraint × Mover × Mover :=
  let points := c.points.map (PressPoint.renew time (a.poseAfter elapsed) (b.poseAfter elapsed))
  let isFast := points.any fun p => (a.thickness + b.thickness) * 0.5 < -p.pushGoal * time
  ({ c with firmness := if isFast then 1 else pushFirmness time, points := points }, a, b)

def free (c : ContactConstraint) : ContactConstraint :=
  { c with firmness := 1, points := c.points.map (·.free) }

def change (f : ContactConstraint → Mover → Mover → ContactConstraint × Mover × Mover)
    (cs : List ContactConstraint) : StateM (Arena Mover) (List ContactConstraint) :=
  cs.mapM fun c => Mover.meet c.first c.second f c

end ContactConstraint

end RigidWorlds.Engine
