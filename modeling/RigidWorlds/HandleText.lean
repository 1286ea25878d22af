import RigidWorlds.Error
import RigidWorlds.Json.Decode

namespace RigidWorlds

namespace Handle

open Json

def accept (k : Kind) (raw : Int32) : Except Cause (Handle k) :=
  (Handle.ofRaw k raw).mapError fun e => .rejected e.message

instance {k : Kind} : Decode (Handle k) where
  ofText rest := do
    let (raw, rest) ← Decode.ofText (α := Int32) rest
    match accept k raw with
    | .ok h => return (h, rest)
    | .error cause => throw (.unplaced cause rest)
  ofValue v := (Decode.ofValue v).bind (accept k)

instance {k : Kind} : Encode (Handle k) where
  render h := Encode.render h.raw

end Handle

end RigidWorlds
