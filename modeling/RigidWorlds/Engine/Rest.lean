import RigidWorlds.Engine.World

/-!
Falling asleep and waking up.  A body that has been slow for a while falls asleep unless a body that
stays awake touches it or is joined to it, directly or through others.
-/

namespace RigidWorlds.Engine

/-- A body slower than this may fall asleep. -/
def restingSpeed : Float32 := 0.4

def restingTurn : Float32 := 0.5

namespace Body

def isSlow (b : Body) : Bool :=
  b.canSleep && b.motion.linearVelocity.normSquared < restingSpeed * restingSpeed &&
    b.motion.angularVelocity * b.motion.angularVelocity < restingTurn * restingTurn

def countIdle (dt : Float32) (b : Body) : Body :=
  if b.activation.simulated then
    let idleTime := if b.isSlow then b.activation.idleTime + dt else 0
    { b with activation := { b.activation with idleTime := idleTime } }
  else b

/-- A simulated body that falls asleep if nothing keeps it awake. -/
def isTired (b : Body) : Bool := b.activation.simulated && timeUntilSleep ≤ b.activation.idleTime

/-- A body without own dynamics that moves. -/
def drives (b : Body) : Bool :=
  b.kind = .kinematic && b.enabled &&
    !(b.motion.linearVelocity.isZero && b.motion.angularVelocity == 0)

def fallAsleep (b : Body) : Body :=
  { b with
    activation := { b.activation.sleep with simulated := false }
    motion := { b.motion with linearVelocity := .zero, angularVelocity := 0 } }

def stayAwake (b : Body) : Body :=
  { b with activation := { b.activation with sleeping := false, simulated := true } }

end Body

namespace World

def bodiesOf? (w : World) (p : Pair) : Option (Key × Key) := do
  let first ← w.colliders.get? p.first
  let second ← w.colliders.get? p.second
  return (first.parent, second.parent)

def contactLinks (w : World) : List (Key × Key) :=
  (w.pairs.filter (·.isContact)).filterMap w.bodiesOf?

def activeSprings (w : World) : List Spring :=
  (w.springOrder.filterMap w.springs.get?).filter (·.enabled)

def springLinks (w : World) : List (Key × Key) :=
  w.activeSprings.map fun s => (s.first, s.second)

def isLinked (links : List (Key × Key)) (keys : List Key) (key : Key) : Bool :=
  links.any fun (a, b) => (a = key && b ∈ keys) || (b = key && a ∈ keys)

def dynamicBodies (w : World) : List Key :=
  (w.bodies.toList.filter (·.2.isDynamic)).map (·.1)

/-- The dynamic bodies that links lead to from some bodies, in a number of rounds. -/
def spread (w : World) (links : List (Key × Key)) : Nat → List Key → List Key
  | 0, keys => keys
  | rounds + 1, keys =>
      let next := w.dynamicBodies.filter fun key => key ∉ keys && isLinked links keys key
      spread w links rounds (keys ++ next)

/-- The dynamic bodies that stay awake: those that are not tired or that a moving body touches, and
all that are linked to them. -/
def awakeBodies (w : World) : List Key :=
  let lively := w.bodies.toList.filter fun (_, b) => b.activation.simulated && !b.isTired
  let driving := (w.bodies.toList.filter (·.2.drives)).map (·.1)
  let driven := w.dynamicBodies.filter (isLinked w.contactLinks driving)
  w.spread (w.contactLinks ++ w.springLinks) w.bodies.size (lively.map (·.1) ++ driven)

/-- Lets tired bodies fall asleep and wakes the bodies that lively ones are linked to. -/
def updateRest (w : World) (dt : Float32) : World :=
  let counted := w.mapBodies fun _ b => b.countIdle dt
  let awake := counted.awakeBodies
  counted.mapBodies fun key b =>
    if key ∈ awake then b.stayAwake
    else if b.activation.simulated then b.fallAsleep
    else b

end World

end RigidWorlds.Engine
