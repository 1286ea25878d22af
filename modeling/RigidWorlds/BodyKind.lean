import RigidWorlds.Error

namespace RigidWorlds

inductive BodyKind where
  | static
  /-- Moves with the velocity it is given. -/
  | kinematic
  /-- Moved by forces, impulses and contacts. -/
  | dynamic
  deriving DecidableEq

namespace BodyKind

def raw : BodyKind → Int32
  | static => 0
  | kinematic => 1
  | dynamic => 2

def ofRaw (raw : Int32) : Except Error BodyKind :=
  if raw = 0 then .ok static
  else if raw = 1 then .ok kinematic
  else if raw = 2 then .ok dynamic
  else .error (.invalidParameter (.unknownBodyKind raw))

def name : BodyKind → String
  | static => "Static"
  | kinematic => "Kinematic"
  | dynamic => "Dynamic"

end BodyKind

end RigidWorlds
