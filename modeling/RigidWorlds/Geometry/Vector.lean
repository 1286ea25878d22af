namespace RigidWorlds

@[ext]
structure Vec2 where
  x : Float32
  y : Float32
  deriving DecidableEq

namespace Vec2

def zero : Vec2 := ⟨0, 0⟩

instance : Add Vec2 := ⟨fun a b => ⟨a.x + b.x, a.y + b.y⟩⟩

instance : Sub Vec2 := ⟨fun a b => ⟨a.x - b.x, a.y - b.y⟩⟩

instance : Neg Vec2 := ⟨fun a => ⟨-a.x, -a.y⟩⟩

def scale (s : Float32) (a : Vec2) : Vec2 := ⟨a.x * s, a.y * s⟩

def dot (a b : Vec2) : Float32 := a.x * b.x + a.y * b.y

/-- The turning of `b` against `a`. -/
def cross (a b : Vec2) : Float32 := a.x * b.y - a.y * b.x

/-- The vector turned by a quarter, times `s`. -/
def turn (s : Float32) (a : Vec2) : Vec2 := ⟨-s * a.y, s * a.x⟩

def normSquared (a : Vec2) : Float32 := a.x * a.x + a.y * a.y

def norm (a : Vec2) : Float32 := a.normSquared.sqrt

def left (a : Vec2) : Vec2 := ⟨-a.y, a.x⟩

def midpoint (a b : Vec2) : Vec2 := (a + b).scale 0.5

/-- Equality of numbers: the zeros agree, and what is no number differs from itself. -/
def same (a b : Vec2) : Bool := a.x == b.x && a.y == b.y

def isZero (a : Vec2) : Bool := a.same zero

end Vec2

/-- The reciprocal, and zero for zero. -/
def reciprocal (x : Float32) : Float32 := if x == 0 then 0 else 1 / x

/-- The reciprocal, and zero for what is almost zero. -/
def boundedReciprocal (x : Float32) : Float32 := if x.abs ≤ 1e-20 then 0 else 1 / x

end RigidWorlds
