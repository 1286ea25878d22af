import RigidWorlds.Engine.Body
import RigidWorlds.Engine.Contact
import RigidWorlds.Engine.Search
import RigidWorlds.Material
import RigidWorlds.WorldSettings

namespace RigidWorlds.Engine

structure Collider where
  solid : Solid
  material : Material
  /-- The number its owner recognizes the collider by. -/
  tag : Nat
  parent : Key
  /-- Whether steps take notice of the collider. -/
  enabled : Bool
  /-- The collider has been in a pair since steps take notice of it. -/
  acquainted : Bool
  /-- The collider or its body changed since the last step in a way that contacts depend on. -/
  changed : Bool
  /-- What the search for close colliders knows about it, since steps take notice of it. -/
  entry : Option SearchEntry
  deriving DecidableEq

def Collider.create (solid : Solid) (material : Material) (tag : Nat) (parent : Key) : Collider :=
  ⟨solid, material, tag, parent, true, false, true, none⟩

def Collider.mass (c : Collider) : MassProperties := .ofSolid c.solid c.material.density

/-- A spring that keeps two points, each given relative to its body, at a distance. -/
structure Spring where
  first : Key
  second : Key
  firstAnchor : Vec2
  secondAnchor : Vec2
  length : Float32
  stiffness : Float32
  damping : Float32
  /-- Whether the spring acts.  Taking either body out of the simulation stops it, putting either
  back starts it again. -/
  enabled : Bool
  deriving DecidableEq

def Spring.involves (s : Spring) (body : Key) : Bool := s.first = body || s.second = body

/-- Two colliders of different bodies whose bounds met in the last step. -/
structure Pair where
  first : Key
  second : Key
  meeting : Meeting
  deriving DecidableEq

namespace Pair

def involves (p : Pair) (collider : Key) : Bool := p.first = collider || p.second = collider

def other (p : Pair) (collider : Key) : Key := if p.first = collider then p.second else p.first

def joins (p : Pair) (first second : Key) : Bool := p.first = first && p.second = second

def touching (p : Pair) : Bool := p.meeting.touching

def isContact (p : Pair) : Bool := p.meeting.isContact

end Pair

structure World where
  gravity : Vec2
  settings : WorldSettings
  bodies : Arena Body
  colliders : Arena Collider
  springs : Arena Spring
  /-- The springs in the order in which they act. -/
  springOrder : List Key
  pairs : List Pair
  /-- The bodies that may have changed since the last step, in the order of their first change. -/
  touched : List Key
  /-- The same for colliders. -/
  stirred : List Key
  ranks : Ranks
  time : Float32
  /-- The number of steps taken; it wraps around. -/
  stepCount : UInt64

namespace World

def create (gravity : Vec2) (settings : WorldSettings) : World where
  gravity := gravity
  settings := settings
  bodies := .empty
  colliders := .empty
  springs := .empty
  springOrder := []
  pairs := []
  touched := []
  stirred := []
  ranks := .initial
  time := 0
  stepCount := 0

/-- What the counter of steps shows. -/
def steps (w : World) : Nat := w.stepCount.toNat

def mapBodies (w : World) (f : Key → Body → Body) : World := { w with bodies := w.bodies.map f }

def modifyBody (w : World) (key : Key) (f : Body → Body) : World :=
  { w with bodies := w.bodies.modify key f }

def touch (w : World) (key : Key) : World :=
  if key ∈ w.touched then w else { w with touched := w.touched ++ [key] }

def stir (w : World) (key : Key) : World :=
  if key ∈ w.stirred then w else { w with stirred := w.stirred ++ [key] }

def touchAll (w : World) : World := { w with touched := w.bodies.toList.map (·.1) }

def changeBody (w : World) (key : Key) (f : Body → Body) : World := (w.modifyBody key f).touch key

def rouse (w : World) (keys : List Key) : World :=
  w.mapBodies fun key body => if key ∈ keys then body.rouse else body

def parents (w : World) (pairs : List Pair) : List Key :=
  (pairs.flatMap fun p => [p.first, p.second]).filterMap fun collider =>
    (w.colliders.get? collider).map (·.parent)

def requestWake (w : World) (keys : List Key) : World :=
  w.mapBodies fun key body => if key ∈ keys then body.requestWake else body

def insertBody (w : World) (kind : BodyKind) (place : Vec2) (tag : Nat) : Key × World :=
  let body := Body.create kind place w.settings.allowSleep w.settings.continuous tag
  let (key, bodies) := w.bodies.insert body
  (key, { w with bodies := bodies }.touch key)

def insertCollider (w : World) (solid : Solid) (material : Material) (tag : Nat) (parent : Key) :
    Key × World :=
  let collider := Collider.create solid material tag parent
  let (key, colliders) := w.colliders.insert collider
  (key, ({ w with colliders := colliders }.stir key).changeBody parent
    (·.attach key solid collider.mass))

/-- Detaches a collider from its body, which wakes up. -/
def removeCollider (w : World) (key : Key) : World :=
  match w.colliders.get? key with
  | none => w
  | some collider =>
      let ranks := w.ranks.leave collider.entry
      { w with colliders := w.colliders.remove key, ranks := ranks }.changeBody collider.parent
        fun body => (body.detach key).rouse

/-- Gives a collider another material.  Contacts take notice of another density and of a change into
a sensor or back. -/
def setMaterial (w : World) (key : Key) (material : Material) : World :=
  match w.colliders.get? key with
  | none => w
  | some collider =>
      let sameDensity := collider.material.density == material.density
      let sameSensor := collider.material.isSensor == material.isSensor
      let replace (c : Collider) : Collider :=
        { c with material := material, changed := c.changed || !sameDensity || !sameSensor }
      let changed := { w with colliders := w.colliders.modify key replace }.stir key
      if sameDensity then changed
      else
        changed.changeBody collider.parent fun b =>
          { b with changes := { b.changes with mass := true } }

def insertSpring (w : World) (spring : Spring) : Key × World :=
  let (key, springs) := w.springs.insert spring
  let inserted := { w with springs := springs, springOrder := w.springOrder ++ [key] }
  (key, inserted.requestWake [spring.first, spring.second])

def removeSpring (w : World) (key : Key) : World :=
  match w.springs.get? key with
  | none => w
  | some spring =>
      let order := eraseSwapping w.springOrder key
      { w with springs := w.springs.remove key, springOrder := order }.requestWake
        [spring.first, spring.second]

/-- Removes a body together with its colliders and springs. -/
def removeBody (w : World) (key : Key) : World :=
  match w.bodies.get? key with
  | none => w
  | some body =>
      let springs := (w.springs.toList.filter (·.2.involves key)).map (·.1)
      let entries := body.colliders.filterMap w.colliders.get?
      let bare :=
        { w with
          bodies := w.bodies.remove key
          colliders := body.colliders.foldl Arena.remove w.colliders
          ranks := entries.foldl (fun ranks c => ranks.leave c.entry) w.ranks }
      springs.foldl removeSpring bare

/-- Checks fast motion of all bodies, present and future, or of none. -/
def setContinuous (w : World) (enabled : Bool) : World :=
  let switched := w.mapBodies fun _ body => { body with continuous := enabled }
  { switched with settings := { w.settings with continuous := enabled } }.touchAll

def clearForces (w : World) : World := (w.mapBodies fun _ body => body.clearForces).touchAll

end World

end RigidWorlds.Engine
