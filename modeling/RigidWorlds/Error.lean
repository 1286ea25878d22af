import RigidWorlds.Decimal.Layout
import RigidWorlds.Handle

namespace RigidWorlds

/-- The numbers that operations put a bound on. -/
inductive Quantity where
  | radius
  | width
  | height
  | friction
  | restitution
  | density
  | jointStiffness
  | jointDamping
  | jointLength
  | timeStep
  deriving DecidableEq

def Quantity.name : Quantity → String
  | .radius => "radius"
  | .width => "width"
  | .height => "height"
  | .friction => "friction"
  | .restitution => "restitution"
  | .density => "density"
  | .jointStiffness => "joint stiffness"
  | .jointDamping => "joint damping"
  | .jointLength => "joint length"
  | .timeStep => "time step"

inductive ParameterFault where
  | unknownBodyKind (raw : Int32)
  | notPositive (quantity : Quantity) (value : Float32)
  | negative (quantity : Quantity) (value : Float32)
  | selfJoint (body : Handle .body)
  deriving DecidableEq

def ParameterFault.message : ParameterFault → String
  | .unknownBodyKind raw => "unknown body kind " ++ toString raw.toInt
  | .notPositive quantity value =>
      quantity.name ++ " must be a positive finite number, got " ++ Decimal.prose value
  | .negative quantity value =>
      quantity.name ++ " must be a non-negative finite number, got " ++ Decimal.prose value
  | .selfJoint body => "cannot join " ++ body.display ++ " to itself"

inductive Error where
  | notFound {k : Kind} (handle : Handle k)
  | unsupportedShape (name : String)
  | invalidHandle (kind : Kind) (raw : Int)
  | invalidParameter (fault : ParameterFault)
  | handlesExhausted (kind : Kind)
  deriving DecidableEq

namespace Error

def message : Error → String
  | notFound (k := k) handle => k.title ++ " not found: " ++ handle.display
  | unsupportedShape name => "Unsupported shape kind: " ++ name
  | invalidHandle kind raw => "Invalid " ++ kind.name ++ " handle: " ++ toString raw
  | invalidParameter fault => "Invalid parameter: " ++ fault.message
  | handlesExhausted kind => "No " ++ kind.name ++ " handles left to allocate"

def isNotFound : Error → Bool
  | notFound _ => true
  | _ => false

end Error

/-- The handle with a raw value, which must not be negative. -/
def Handle.ofRaw (k : Kind) (raw : Int32) : Except Error (Handle k) :=
  if raw < 0 then .error (.invalidHandle k raw.toInt) else .ok ⟨raw.toUInt32⟩

def checkPositive (quantity : Quantity) (value : Float32) : Except Error Float32 :=
  if value.isFinite && 0 < value then .ok value
  else .error (.invalidParameter (.notPositive quantity value))

def checkNonNegative (quantity : Quantity) (value : Float32) : Except Error Float32 :=
  if value.isFinite && 0 ≤ value then .ok value
  else .error (.invalidParameter (.negative quantity value))

end RigidWorlds
