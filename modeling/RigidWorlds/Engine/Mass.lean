import RigidWorlds.Geometry.Shape

/-!
Mass properties.  They are kept as the reciprocal of the mass and the root of the reciprocal of the
angular inertia; zero stands for what has no mass or cannot be turned.
-/

namespace RigidWorlds.Engine

structure MassProperties where
  inverseMass : Float32
  inverseInertiaRoot : Float32
  deriving DecidableEq

namespace MassProperties

def zero : MassProperties := ⟨0, 0⟩

def ofSolid (solid : Solid) (density : Float32) : MassProperties :=
  if density == 0 then zero
  else
    let mass := solid.area * density
    ⟨reciprocal mass, reciprocal (solid.unitInertia * mass).sqrt⟩

def isZero (m : MassProperties) : Bool := m.inverseMass == 0 && m.inverseInertiaRoot == 0

def mass (m : MassProperties) : Float32 := reciprocal m.inverseMass

def inertia (m : MassProperties) : Float32 :=
  reciprocal (m.inverseInertiaRoot * m.inverseInertiaRoot)

/-- Two solids around the same point taken together. -/
def add (m n : MassProperties) : MassProperties :=
  if m.isZero then n
  else if n.isZero then m
  else ⟨reciprocal (m.mass + n.mass), reciprocal (m.inertia + n.inertia).sqrt⟩

def addMass (m : MassProperties) (additional : Float32) : MassProperties :=
  let inverse := reciprocal (m.mass + additional)
  ⟨inverse, m.inverseInertiaRoot * (inverse.sqrt * m.mass.sqrt)⟩

end MassProperties

end RigidWorlds.Engine
