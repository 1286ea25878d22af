import RigidWorlds.Geometry.Vector

/-!
Where a body is and how it is turned.  A rotation is kept as the cosine and the sine of its angle.
-/

namespace RigidWorlds

@[ext]
structure Rotation where
  cos : Float32
  sin : Float32
  deriving DecidableEq

namespace Rotation

def identity : Rotation := ⟨1, 0⟩

def ofAngle (angle : Float32) : Rotation := ⟨angle.cos, angle.sin⟩

/-- The angle between minus half a turn and half a turn. -/
def angle (r : Rotation) : Float32 := Float32.atan2 r.sin r.cos

def inverse (r : Rotation) : Rotation := ⟨r.cos, -r.sin⟩

def apply (r : Rotation) (v : Vec2) : Vec2 :=
  ⟨r.cos * v.x - r.sin * v.y, r.sin * v.x + r.cos * v.y⟩

/-- First `s`, then `r`. -/
def compose (r s : Rotation) : Rotation :=
  ⟨r.cos * s.cos - r.sin * s.sin, r.cos * s.sin + r.sin * s.cos⟩

/-- Brings the length of a rotation that is almost one back to one. -/
def renormalize (r : Rotation) : Rotation :=
  let factor := 0.5 * (3 - (r.cos * r.cos + r.sin * r.sin))
  ⟨r.cos * factor, r.sin * factor⟩

def same (r s : Rotation) : Bool := r.cos == s.cos && r.sin == s.sin

end Rotation

@[ext]
structure Pose where
  translation : Vec2
  rotation : Rotation
  deriving DecidableEq

namespace Pose

def upright (place : Vec2) : Pose := ⟨place, .identity⟩

def apply (p : Pose) (v : Vec2) : Vec2 := p.rotation.apply v + p.translation

def applyInverse (p : Pose) (v : Vec2) : Vec2 := p.rotation.inverse.apply (v - p.translation)

def inverse (p : Pose) : Pose :=
  ⟨p.rotation.inverse.apply (-p.translation), p.rotation.inverse⟩

/-- The second pose as seen from the first. -/
def toward (p q : Pose) : Pose :=
  ⟨p.rotation.inverse.apply (q.translation - p.translation),
    p.rotation.inverse.compose q.rotation⟩

def same (p q : Pose) : Bool := p.translation.same q.translation && p.rotation.same q.rotation

/-- The pose after moving with the given velocities for a time; the body turns about its origin. -/
def integrate (p : Pose) (time : Float32) (linear : Vec2) (angular : Float32) : Pose :=
  let turned := Rotation.ofAngle (angular * time)
  let shift := p.translation + linear.scale time + turned.apply (-p.translation)
  { translation := shift + turned.apply p.translation
    rotation := (turned.compose p.rotation).renormalize }

end Pose

end RigidWorlds
