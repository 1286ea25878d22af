import RigidWorlds.Error
import RigidWorlds.Geometry.Pose

namespace RigidWorlds

inductive ShapeKind where
  | circle
  | box
  | edge
  | polygon
  deriving DecidableEq

namespace ShapeKind

def name : ShapeKind → String
  | circle => "circle"
  | box => "box"
  | edge => "edge"
  | polygon => "polygon"

def all : List ShapeKind := [circle, box, edge, polygon]

def ofName (name : String) : Except Error ShapeKind :=
  match all.find? fun kind => kind.name == name with
  | some kind => .ok kind
  | none => .error (.unsupportedShape name)

end ShapeKind

/-- A solid around the origin of its body. -/
inductive Solid where
  | ball (radius : Float32)
  | cuboid (halfWidth halfHeight : Float32)
  deriving DecidableEq

namespace Solid

def kind : Solid → ShapeKind
  | ball _ => .circle
  | cuboid _ _ => .box

def pi : Float32 := 3.14159265

def area : Solid → Float32
  | ball r => pi * r * r
  | cuboid w h => w * h * 4

/-- The angular inertia of a unit of mass spread over the solid. -/
def unitInertia : Solid → Float32
  | ball r => r * r / 2
  | cuboid w h => w * w / 3 + h * h / 3

def innerRadius : Solid → Float32
  | ball r => r
  | cuboid w h => if h < w then h else w

def outerRadius : Solid → Float32
  | ball r => r
  | cuboid w h => (w * w + h * h).sqrt

end Solid

/-- What a caller asks for: a circle by its radius, a box by its full width and height. -/
structure ShapeDescriptor where
  kind : ShapeKind
  param1 : Float32
  param2 : Float32
  deriving DecidableEq

namespace ShapeDescriptor

def ofName (name : String) (param1 param2 : Float32) : Except Error ShapeDescriptor := do
  let kind ← ShapeKind.ofName name
  return ⟨kind, param1, param2⟩

/-- The solid that is asked for.  Edges and polygons have a name but no solid. -/
def build (d : ShapeDescriptor) : Except Error Solid :=
  match d.kind with
  | .circle => do
      let radius ← checkPositive .radius d.param1
      return .ball radius
  | .box => do
      let width ← checkPositive .width d.param1
      let height ← checkPositive .height d.param2
      return .cuboid (width / 2) (height / 2)
  | .edge | .polygon => .error (.unsupportedShape d.kind.name)

end ShapeDescriptor

end RigidWorlds
