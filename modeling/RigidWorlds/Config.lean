import RigidWorlds.Json.Record
import RigidWorlds.WorldSettings

namespace RigidWorlds

@[ext]
structure Config where
  /-- The iteration counts of steps that do not give their own. -/
  velocityIterations : UInt32
  positionIterations : UInt32
  /-- Forces act in one step only. -/
  autoClearForces : Bool
  jointStiffness : Float32
  jointDamping : Float32
  deriving DecidableEq

namespace Config

def initial : Config := ⟨8, 3, true, 1000000, 2000⟩

def newWorldSettings (c : Config) (allowSleep : Bool) : WorldSettings :=
  ⟨allowSleep, false, c.autoClearForces⟩

open Json in
def description : Record Config where
  name := "BridgeConfig"
  fields := [
    .optional "velocity_iterations" fun n c => { c with velocityIterations := n },
    .optional "position_iterations" fun n c => { c with positionIterations := n },
    .optional "auto_clear_forces" fun b c => { c with autoClearForces := b },
    .optional "joint_stiffness" fun x c => { c with jointStiffness := x },
    .optional "joint_damping" fun x c => { c with jointDamping := x }]
  blank := initial

instance : Json.Decode Config := description.decode

instance : Json.Encode Config where
  render c := Json.renderRecord [
    ("velocity_iterations", Json.Encode.render c.velocityIterations),
    ("position_iterations", Json.Encode.render c.positionIterations),
    ("auto_clear_forces", Json.Encode.render c.autoClearForces),
    ("joint_stiffness", Json.Encode.render c.jointStiffness),
    ("joint_damping", Json.Encode.render c.jointDamping)]

end Config

end RigidWorlds
