import RigidWorlds.Engine.Solver

/-!
Impacts of fast bodies.  A body that checks fast motion and would move far in a step is followed
along its way; where one of its solids meets another solid the body stops for the step.  The time
of an impact is found by bisection along directions in which the two solids are apart.
-/

namespace RigidWorlds.Engine

structure Flight where
  start : Pose
  finish : Pose
  linear : Vec2
  angular : Float32
  thickness : Float32
  reach : Float32
  /-- The way is checked; otherwise the body counts as being at its end all the time. -/
  fast : Bool
  stop : Option Float32

namespace Flight

/-- The greatest speed of a point of the body. -/
def speed (f : Flight) : Float32 := f.linear.norm + f.angular.abs * f.reach

def isOpen (f : Flight) : Bool := f.fast && f.stop.isNone

def place (f : Flight) (time : Float32) : Pose :=
  if f.fast then
    let time := f.stop.getD time
    { translation := f.start.translation + f.linear.scale time
      rotation := (Rotation.ofAngle (f.angular * time)).compose f.start.rotation }
  else f.finish

/-- The part of a way, by the thickness of the body, that an impact does not take away. -/
def leastPart : Float32 := 0.15

def goal (dt : Float32) (f : Flight) : Pose :=
  match f.stop with
  | some time =>
      let least := min (f.thickness * leastPart * boundedReciprocal f.speed) dt
      f.start.integrate (max time least) f.linear f.angular
  | none => f.finish

end Flight

structure Flyer where
  key : Key
  body : Key
  solid : Solid
  flight : Flight

namespace Flyer

def bounds (f : Flyer) : Bounds :=
  (Bounds.ofSolid f.solid f.flight.start).join (.ofSolid f.solid f.flight.finish)

/-- The second of two solids seen from the first. -/
def toward (time : Float32) (f g : Flyer) : Pose :=
  (f.flight.place time).toward (g.flight.place time)

/-- How far two solids are apart along a direction of the first. -/
def gap (f g : Flyer) (normal : Vec2) (time : Float32) : Float32 :=
  let near := g.solid.farthestFrom (f.toward time g) (-normal)
  near.dot normal - (f.solid.farthest normal).dot normal

def precision : Float32 := 1.1920929e-6

/-- Solids that meet before this time has passed meet at the start. -/
def startTolerance : Float32 := 1e-5

structure Span where
  low : Float32
  high : Float32
  now : Float32

/-- Halves a span, `fuel` times at most, until the distance at its time almost vanishes or the
span does; then it takes the earliest time. -/
def narrow (distanceAt : Float32 → Float32) : Nat → Float32 → Span → Span
  | 0, _, s => s
  | fuel + 1, distance, s =>
      let half? : Option Span :=
        if distance < 0 then some ⟨s.low, s.now, (s.low + s.now) * 0.5⟩
        else if precision < distance then some ⟨s.now, s.high, (s.now + s.high) * 0.5⟩
        else none
      match half? with
      | none => s
      | some half =>
          if half.high - half.low < precision then { half with now := half.low }
          else narrow distanceAt fuel (distanceAt half.now) half

/-- How many directions are tried, and how often a span is halved, at most. -/
def patience : Nat := 100

def approach (f g : Flyer) (time : Float32) : Approach :=
  .between f.solid g.solid (f.toward time g)

/-- The velocity of a point of the solid, given in its own frame. -/
def velocityAt (f : Flyer) (time : Float32) (point : Vec2) : Vec2 :=
  if f.flight.isOpen then
    f.flight.linear + ((f.flight.place time).rotation.apply point).turn f.flight.angular
  else .zero

/-- The speed at which two solids come closer where they are near each other. -/
def closing (f g : Flyer) (time : Float32) (a : Approach) : Float32 :=
  let normal := (f.flight.place time).rotation.apply a.normal
  (f.velocityAt time a.first - g.velocityAt time a.second).dot normal

/-- The first time, from a time on, at which two solids meet: a direction in which they are apart
tells until when they do not, and after that another one is tried. -/
def meetFrom (f g : Flyer) (finish : Float32) : Nat → Float32 → Float32 → Option Float32
  | 0, time, _ => some time
  | fuel + 1, time, before =>
      let near := f.approach g time
      let offset := (f.toward time g).apply near.second - near.first
      match if near.distance ≤ 0 then none else Separation.ofOffset? offset with
      | none => some time
      | some apart =>
          let gap := f.gap g apart.normal
          let span := narrow gap patience apart.distance ⟨time, finish, time⟩
          if span.low - before < precision then
            if span.high == finish && 0 < gap finish then none else some span.now
          else meetFrom f g finish fuel span.now span.low

/-- The first time at which two solids meet between two others, seen from the first solid.  If
they meet at the start already that counts only if they would pass through each other. -/
def meetSeen (f g : Flyer) (start finish : Float32) : Option Float32 :=
  match f.meetFrom g finish patience start start with
  | none => none
  | some time =>
      if (time - start).abs < startTolerance then
        let near := f.approach g start
        let thickness := f.solid.innerRadius + g.solid.innerRadius + positivePart near.distance
        if thickness < f.closing g start near * (finish - start) then some start else none
      else some time

/-- The first time at which two solids meet between two others; the larger one is looked at from.
-/
def meet (f g : Flyer) (start finish : Float32) : Option Float32 :=
  if f.solid.outerRadius < g.solid.outerRadius then g.meetSeen f start finish
  else f.meetSeen g start finish

end Flyer

/-- The meeting of two bodies, one of which is fast, at a time. -/
structure Impact where
  time : Float32
  first : Key
  second : Key

/-- How far a body moves in a step, by its thickness, before it counts as fast. -/
def calmPart : Float32 := 10

def Body.flight (dt : Float32) (parts : Nat) (b : Body) (m : Mover) : Flight :=
  let count := Binary.singleOfInt parts
  let free : Flight :=
    { start := b.motion.pose
      finish := m.goal
      linear := .zero
      angular := 0
      thickness := b.thickness
      reach := b.reach
      fast := false
      stop := none }
  if b.activation.simulated then
    let own : Flight :=
      { free with
        finish := m.pose
        linear := ⟨m.linearSum.x / count, m.linearSum.y / count⟩
        angular := m.angularSum / count }
    { own with fast := b.continuous && own.thickness / calmPart < own.speed * dt }
  else free

namespace World

def flights (w : World) (dt : Float32) (parts : Nat) (course : Course) : List (Key × Flight) :=
  w.bodies.toList.filterMap fun (key, b) =>
    (course.movers.get? key).map fun m => (key, b.flight dt parts m)

def flyers (w : World) (flights : List (Key × Flight)) : List Flyer :=
  w.colliders.toList.filterMap fun (key, c) =>
    if c.enabled && !c.material.isSensor then
      (flights.lookup c.parent).map fun flight => ⟨key, c.parent, c.solid, flight⟩
    else none

/-- How far two solids are apart where they were compared last. -/
def knownGap (w : World) (f g : Flyer) : Float32 :=
  let pair := w.pairs.find? fun p => p.joins f.key g.key || p.joins g.key f.key
  positivePart ((pair.bind (·.meeting.manifold.depth)).getD 0)

/-- The impact of two solids between two times, if they may come together fast enough not to be
noticed otherwise. -/
def impact? (w : World) (start finish : Float32) (f g : Flyer) : Option Impact :=
  let velocity (f : Flyer) : Vec2 := if f.flight.stop.isSome then .zero else f.flight.linear
  let turning (f : Flyer) : Float32 :=
    if f.flight.stop.isSome then 0 else f.flight.angular.abs * f.flight.reach
  let speed := (velocity g - velocity f).norm + turning f + turning g
  let thickness := f.solid.innerRadius + g.solid.innerRadius + w.knownGap f g
  if f.body = g.body || !f.bounds.meet g.bounds || (finish - start) * speed < thickness then none
  else
    match f.meet g start finish with
    | some time => if time ≤ finish then some ⟨time, f.body, g.body⟩ else none
    | none => none

/-- The impacts of the solids of some bodies with those of fast bodies. -/
def impacts (w : World) (start finish : Float32) (flights : List (Key × Flight))
    (bodies : List Key) : List Impact :=
  let all := w.flyers flights
  (all.filter (·.body ∈ bodies)).flatMap fun f =>
    all.filterMap fun g =>
      if f.flight.isOpen || g.flight.isOpen then w.impact? start finish f g else none

/-- Stops the bodies of the first impact, and so on, in a number of rounds. -/
def stopFlights (w : World) (dt : Float32) :
    (rounds : Nat) → List Impact → List (Key × Flight) → List (Key × Flight)
  | 0, _, flights => flights
  | rounds + 1, impacts, flights =>
      let isOpen (key : Key) : Bool := (flights.lookup key).any (·.isOpen)
      let remaining := impacts.filter fun i => isOpen i.first || isOpen i.second
      match remaining with
      | [] => flights
      | i :: rest =>
          let first := rest.foldl (fun i j => if j.time < i.time then j else i) i
          let stopped := [first.first, first.second].filter isOpen
          let flights := flights.map fun (key, f) =>
            (key, if key ∈ stopped then { f with stop := some first.time } else f)
          let again := w.impacts first.time dt flights stopped
          w.stopFlights dt rounds (remaining ++ again) flights

def clampMotion (w : World) (dt : Float32) (parts : Nat) (course : Course) : Course :=
  let flights := w.flights dt parts course
  let fast := (flights.filter (·.2.fast)).map (·.1)
  let stopped := w.stopFlights dt flights.length (w.impacts 0 dt flights fast) flights
  let clamp (key : Key) (m : Mover) : Mover :=
    match stopped.lookup key with
    | some f => if f.fast then { m with pose := f.goal dt } else m
    | none => m
  { course with movers := course.movers.map clamp }

end World

end RigidWorlds.Engine
