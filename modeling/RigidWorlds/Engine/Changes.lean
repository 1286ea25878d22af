import RigidWorlds.Engine.World

/-!
How changes between steps take effect.  A step first goes through the bodies that may have changed
and passes what happened to them on to their colliders and springs; then it wakes the bodies whose
contacts may be different now.
-/

namespace RigidWorlds.Engine

def Collider.follow (body : Body) (c : Collider) : Collider :=
  let enabled := if body.changes.enabled then body.enabled else c.enabled
  { c with
    enabled := enabled
    acquainted := c.acquainted && enabled
    changed := c.changed || body.changes.reachColliders }

def Spring.follow (body : Body) (s : Spring) : Spring :=
  if body.changes.enabled then { s with enabled := body.enabled } else s

namespace Body

def answerWake (b : Body) : Body :=
  if b.activation.wakeRequested then
    let roused := b.rouse
    { roused with activation := { roused.activation with wakeRequested := false } }
  else b

def enroll (b : Body) : Body :=
  let a := b.activation
  let simulated :=
    if b.enabled then a.simulated || (b.changes.sleep && b.isDynamic && !a.sleeping)
    else a.simulated && !b.changes.enabled
  { b with activation := { a with simulated := simulated } }

def weigh (attached : MassProperties) (b : Body) : Body :=
  if b.changes.reachMass then
    { b with
      mass :=
        match b.additionalMass with
        | some mass => attached.addMass mass
        | none => attached
      motion := b.motion.recenter }
  else b

end Body

namespace World

/-- The mass of those colliders of a body that steps take notice of. -/
def attachedMass (w : World) (b : Body) : MassProperties :=
  let present := (b.colliders.filterMap w.colliders.get?).filter (·.enabled)
  present.foldl (fun mass c => mass.add c.mass) .zero

def takeChange (w : World) (key : Key) : World :=
  match w.bodies.get? key with
  | none => w
  | some body =>
      let toCollider (c : Collider) : Collider := if c.parent = key then c.follow body else c
      let toSpring (s : Spring) : Spring := if s.involves key then s.follow body else s
      let passed :=
        { w with
          colliders := w.colliders.map fun _ => toCollider
          springs := w.springs.map fun _ => toSpring }
      let weighed := passed.modifyBody key fun b => b.enroll.weigh (passed.attachedMass b)
      if body.changes.reachColliders then body.colliders.foldl stir weighed else weighed

def takeChanges (w : World) : World :=
  w.touched.foldl takeChange (w.mapBodies fun _ b => b.answerWake)

/-- Whether a collider is there and steps take notice of it. -/
def isPresent (w : World) (collider : Key) : Bool := (w.colliders.get? collider).any (·.enabled)

def isUnsettled (w : World) (collider : Key) : Bool :=
  (w.colliders.get? collider).any fun c => c.enabled && c.changed && c.acquainted

/-- The bodies to wake: those of colliders that may have other contacts now, and all that were close
to such a collider or to one that is gone. -/
def disturbed (w : World) : List Key :=
  let unsettled := w.colliders.toList.filter fun (key, _) => w.isUnsettled key
  let affected := w.pairs.filter fun p =>
    !p.meeting.isSensor && [p.first, p.second].any fun c => !w.isPresent c || w.isUnsettled c
  unsettled.map (·.2.parent) ++ w.parents affected

def forgetChanges (w : World) : World :=
  { w with
    bodies := w.bodies.map fun _ b => { b with changes := .nothing }
    colliders := w.colliders.map fun _ c => { c with changed := false }
    touched := []
    stirred := [] }

end World

end RigidWorlds.Engine
