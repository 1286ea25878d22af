import RigidWorlds.Engine.ContactConstraint
import RigidWorlds.Engine.Rest
import RigidWorlds.Engine.SpringConstraint

/-!
Motion in a step.  A step is cut into equal parts; in each one the forces act, springs and
contacts are met while overlaps are being corrected, the bodies move, and springs and contacts are
met once more without the correction.
-/

namespace RigidWorlds.Engine

/-- How often springs and contacts are met after the bodies moved. -/
def stabilizingRounds : Nat := 2

structure Course where
  movers : Arena Mover
  contacts : List ContactConstraint

namespace Course

def meet (rounds : Nat) (springs : List SpringConstraint) (contacts : List ContactConstraint) :
    StateM (Arena Mover) (List SpringConstraint × List ContactConstraint) :=
  match rounds with
  | 0 => pure (springs, contacts)
  | rounds + 1 => do
      let springs ← SpringConstraint.solveAll springs
      let contacts ← ContactConstraint.change ContactConstraint.solve contacts
      let contacts ← ContactConstraint.change ContactConstraint.solveRub contacts
      meet rounds springs contacts

/-- Meets springs and contacts without friction. -/
def settle (rounds : Nat) (springs : List SpringConstraint) (contacts : List ContactConstraint) :
    StateM (Arena Mover) (List ContactConstraint) :=
  match rounds with
  | 0 => pure contacts
  | rounds + 1 => do
      let springs ← SpringConstraint.solveAll springs
      let contacts ← ContactConstraint.change ContactConstraint.solve contacts
      settle rounds springs contacts

/-- The part of a step that begins after `elapsed` and takes `time`. -/
def part (springs : List Spring) (rounds : Nat) (time elapsed : Float32)
    (contacts : List ContactConstraint) : StateM (Arena Mover) (List ContactConstraint) := do
  modify (·.map fun _ m => m.accelerate)
  let movers ← get
  let springs := springs.filterMap fun s => do
    let a ← movers.get? s.first
    let b ← movers.get? s.second
    return SpringConstraint.ofSpring time s a b
  let contacts ← ContactConstraint.change (ContactConstraint.renew time elapsed) contacts
  let contacts ← ContactConstraint.change ContactConstraint.warm contacts
  let (springs, contacts) ← meet rounds springs contacts
  modify (·.map fun _ m => m.travel time)
  let contacts ← settle stabilizingRounds springs (contacts.map (·.free))
  ContactConstraint.change ContactConstraint.solveRub contacts

/-- Some parts of a step, after `done` others. -/
def run (springs : List Spring) (rounds : Nat) (time : Float32) :
    (parts done : Nat) → Course → Course
  | 0, _, course => course
  | parts + 1, done, course =>
      let elapsed := Binary.singleOfInt done * time
      let (contacts, movers) :=
        (part springs rounds time elapsed course.contacts).run course.movers
      run springs rounds time parts (done + 1) ⟨movers, contacts⟩

end Course

namespace World

/-- Whether two bodies take part in a step together: a dynamic one is there and none of them
rests. -/
def engages (w : World) (first second : Key) : Bool :=
  match w.bodies.get? first, w.bodies.get? second with
  | some a, some b =>
      (a.isDynamic || b.isDynamic) && (!a.isDynamic || a.activation.simulated) &&
        (!b.isDynamic || b.activation.simulated)
  | _, _ => false

/-- The springs that act, those between two dynamic bodies first. -/
def springsInOrder (w : World) : List Spring :=
  let isDynamic (key : Key) : Bool := (w.bodies.get? key).any (·.isDynamic)
  let engaged := w.activeSprings.filter fun s => w.engages s.first s.second
  let (inner, outer) := engaged.partition fun s => isDynamic s.first && isDynamic s.second
  inner ++ outer

/-- The contacts that act, those between two dynamic bodies first. -/
def contactsInOrder (w : World) (movers : Arena Mover) : List ContactConstraint :=
  let all := w.pairs.filterMap fun p =>
    match p.meeting with
    | .solid _ contact => do
        let (one, two) ← w.bodiesOf? p
        let x ← movers.get? one
        let y ← movers.get? two
        if p.isContact && w.engages one two then
          some (.ofContact (p.first, p.second) contact one two x y, x.isDynamic && y.isDynamic)
        else none
    | .sensor _ => none
  let (inner, outer) := all.partition (·.2)
  (inner ++ outer).map (·.1)

def course (w : World) (dt : Float32) (parts rounds : Nat) : Course :=
  let time := dt / Binary.singleOfInt parts
  let movers := w.bodies.map fun _ b => b.mover w.gravity dt time
  Course.run w.springsInOrder rounds time parts 0 ⟨movers, w.contactsInOrder movers⟩

def settleBody (dt : Float32) (b : Body) (m : Mover) : Body :=
  if b.activation.simulated then
    { b with
      motion :=
        { b.motion with
          pose := m.pose
          linearVelocity := m.damped dt
          angularVelocity := m.angular
          center := m.center } }
  else b

def settlePair (contacts : List ContactConstraint) (p : Pair) : Pair :=
  match p.meeting, contacts.find? (·.members = (p.first, p.second)) with
  | .solid manifold contact, some c =>
      let load (t : Touch) (i : Nat) : Touch :=
        match c.points.find? (·.index = i) with
        | some point => { t with load := point.load }
        | none => t
      let points := manifold.points.zipIdx.map fun (t, i) => load t i
      { p with meeting := .solid { manifold with points := points } contact }
  | _, _ => p

def settle (w : World) (dt : Float32) (course : Course) : World :=
  let settled := w.mapBodies fun key b =>
    match course.movers.get? key with
    | some m => settleBody dt b m
    | none => b
  { settled with pairs := w.pairs.map (settlePair course.contacts) }

end World

end RigidWorlds.Engine
