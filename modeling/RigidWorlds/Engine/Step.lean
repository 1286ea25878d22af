import RigidWorlds.Engine.Changes
import RigidWorlds.Engine.Impact
import RigidWorlds.Engine.Pairing

/-!
Steps.  A step first lets the changes made since the last one take effect and finds what is close,
then decides what rests, moves what does not, and finds what is close now.
-/

namespace RigidWorlds.Engine

namespace Placed

/-- A collider that changed or whose body did. -/
def isChanged (p : Placed) : Bool := p.collider.changed

def isMoved (p : Placed) : Bool :=
  p.body.activation.simulated || (p.body.kind = .kinematic && p.body.enabled)

end Placed

namespace World

/-- The start of a step: changes take effect, and what is close is found. -/
def prepare (w : World) (dt : Float32) : World :=
  let changed := w.takeChanges
  ((changed.rouse changed.disturbed).findPairs dt Placed.isChanged).forgetChanges

def recenter (w : World) : World :=
  w.mapBodies fun _ b =>
    if b.activation.simulated then { b with motion := b.motion.recenter } else b

def advance (w : World) (dt : Float32) (velocityIterations positionIterations : UInt32) : World :=
  let parts := max velocityIterations.toNat 1
  let rounds := max positionIterations.toNat 1
  let rested := (w.prepare dt).updateRest dt
  let course := rested.clampMotion dt parts (rested.course dt parts rounds)
  let settled := rested.settle dt course
  let moved := (settled.mapBodies fun _ b => b.glide dt).findPairs dt Placed.isMoved
  let cleared := if w.settings.autoClearForces then moved.clearForces else moved
  { cleared.recenter with time := w.time + dt, stepCount := w.stepCount + 1 }

end World

end RigidWorlds.Engine
