import RigidWorlds.Geometry.Shape
import RigidWorlds.Json.Record
import RigidWorlds.Material

/-!
The records that messages carry as arguments.  What may be left out counts as zero.
-/

namespace RigidWorlds

open Json

@[ext]
structure PositionDefinition where
  x : Float32
  y : Float32
  deriving DecidableEq

namespace PositionDefinition

def description : Record PositionDefinition where
  name := "PositionDef"
  fields := [
    .optional "x" fun x p => { p with x := x },
    .optional "y" fun y p => { p with y := y }]
  blank := ⟨0, 0⟩

instance : Decode PositionDefinition := description.decode

def point (p : PositionDefinition) : Vec2 := ⟨p.x, p.y⟩

end PositionDefinition

@[ext]
structure BodyDefinition where
  /-- The raw value of a kind of body. -/
  kind : Int32
  position : PositionDefinition
  deriving DecidableEq

namespace BodyDefinition

def description : Record BodyDefinition where
  name := "BodyDef"
  fields := [
    .needed "type" fun k b => { b with kind := k },
    .optional "position" fun p b => { b with position := p }]
  blank := ⟨0, ⟨0, 0⟩⟩

instance : Decode BodyDefinition := description.decode

end BodyDefinition

@[ext]
structure ShapeDefinition where
  /-- The name of a kind of shape. -/
  kind : String
  radius : Float32
  width : Float32
  height : Float32
  deriving DecidableEq

namespace ShapeDefinition

def description : Record ShapeDefinition where
  name := "ShapeDef"
  fields := [
    .needed "type" fun k s => { s with kind := k },
    .optional "radius" fun r s => { s with radius := r },
    .optional "width" fun w s => { s with width := w },
    .optional "height" fun h s => { s with height := h }]
  blank := ⟨"", 0, 0, 0⟩

instance : Decode ShapeDefinition := description.decode

/-- The shape that is meant: circles have a radius, all others a width and a height. -/
def descriptor (s : ShapeDefinition) : Except Error ShapeDescriptor :=
  if s.kind = ShapeKind.circle.name then ShapeDescriptor.ofName s.kind s.radius 0
  else ShapeDescriptor.ofName s.kind s.width s.height

end ShapeDefinition

@[ext]
structure FixtureDefinition where
  friction : Float32
  restitution : Float32
  density : Float32
  isSensor : Bool
  shape : ShapeDefinition
  deriving DecidableEq

namespace FixtureDefinition

def description : Record FixtureDefinition where
  name := "FixtureDef"
  fields := [
    .optional "friction" fun x f => { f with friction := x },
    .optional "restitution" fun x f => { f with restitution := x },
    .optional "density" fun x f => { f with density := x },
    .optional "isSensor" fun b f => { f with isSensor := b },
    .needed "shape" fun s f => { f with shape := s }]
  blank := ⟨0, 0, 0, false, ⟨"", 0, 0, 0⟩⟩

instance : Decode FixtureDefinition := description.decode

def material (f : FixtureDefinition) : Material :=
  ⟨f.friction, f.restitution, f.density, f.isSensor⟩

end FixtureDefinition

end RigidWorlds
