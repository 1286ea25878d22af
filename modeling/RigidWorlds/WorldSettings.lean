namespace RigidWorlds

@[ext]
structure WorldSettings where
  /-- Slow bodies may fall asleep. -/
  allowSleep : Bool
  /-- Fast motion is checked for contacts between steps. -/
  continuous : Bool
  /-- Forces act in one step only. -/
  autoClearForces : Bool
  deriving DecidableEq

namespace WorldSettings

def initial : WorldSettings := ⟨true, false, true⟩

/-- The switches as the bits of an integer, the first one lowest. -/
def bits (s : WorldSettings) : Nat :=
  s.allowSleep.toNat + 2 * s.continuous.toNat + 4 * s.autoClearForces.toNat

end WorldSettings

end RigidWorlds
