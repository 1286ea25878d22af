import RigidWorlds.HandleText
import RigidWorlds.Json.Record

namespace RigidWorlds

@[ext]
structure BodyPose where
  body : Handle .body
  x : Float32
  y : Float32
  angle : Float32
  deriving DecidableEq

@[ext]
structure Snapshot where
  poses : List BodyPose
  deriving DecidableEq

open Json

namespace BodyPose

def description : Record BodyPose where
  name := "BodyPose"
  fields := [
    .needed "body" fun h p => { p with body := h },
    .needed "x" fun x p => { p with x := x },
    .needed "y" fun y p => { p with y := y },
    .needed "angle" fun a p => { p with angle := a }]
  blank := ⟨⟨0⟩, 0, 0, 0⟩

instance : Decode BodyPose := description.decode

instance : Encode BodyPose where
  render p := renderRecord [
    ("body", Encode.render p.body),
    ("x", Encode.render p.x),
    ("y", Encode.render p.y),
    ("angle", Encode.render p.angle)]

def flat (p : BodyPose) : List Float :=
  [Binary.doubleOfInt p.body.raw.toInt, Binary.widen p.x, Binary.widen p.y, Binary.widen p.angle]

end BodyPose

namespace Snapshot

def size (s : Snapshot) : Nat := s.poses.length

def isEmpty (s : Snapshot) : Bool := s.poses.isEmpty

def poseOf (s : Snapshot) (body : Handle .body) : Option BodyPose :=
  s.poses.find? fun p => p.body = body

/-- The snapshot as numbers: how many poses there are, and then the poses. -/
def flat (s : Snapshot) : List Float := Binary.doubleOfInt s.size :: s.poses.flatMap BodyPose.flat

def description : Record Snapshot where
  name := "Snapshot"
  fields := [.needed "poses" fun ps s => { s with poses := ps }]
  blank := ⟨[]⟩

instance : Decode Snapshot := description.decode

instance : Encode Snapshot where
  render s := renderRecord [("poses", Encode.render s.poses)]

end Snapshot

end RigidWorlds
