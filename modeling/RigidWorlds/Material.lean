import RigidWorlds.Error
import RigidWorlds.Json.Record

namespace RigidWorlds

@[ext]
structure Material where
  friction : Float32
  restitution : Float32
  density : Float32
  /-- A sensor reports overlaps and never pushes. -/
  isSensor : Bool
  deriving DecidableEq

namespace Material

def initial : Material := ⟨0.2, 0, 0, false⟩

def sensor (m : Material) : Material := { m with isSensor := true }

/-- Accepts a material whose coefficients are finite and not negative. -/
def check (m : Material) : Except Error Unit := do
  let _ ← checkNonNegative .friction m.friction
  let _ ← checkNonNegative .restitution m.restitution
  let _ ← checkNonNegative .density m.density

open Json in
def description : Record Material where
  name := "Material"
  fields := [
    .optional "friction" fun x m => { m with friction := x },
    .optional "restitution" fun x m => { m with restitution := x },
    .optional "density" fun x m => { m with density := x },
    .optional "is_sensor" fun b m => { m with isSensor := b }]
  blank := initial

instance : Json.Decode Material := description.decode

instance : Json.Encode Material where
  render m := Json.renderRecord [
    ("friction", Json.Encode.render m.friction),
    ("restitution", Json.Encode.render m.restitution),
    ("density", Json.Encode.render m.density),
    ("is_sensor", Json.Encode.render m.isSensor)]

end Material

end RigidWorlds
