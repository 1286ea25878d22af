/-!
Handles name the objects that a caller may refer to.  Each kind of object has its own type of
handle; behind it stands the index under which the object was registered.
-/

namespace RigidWorlds

inductive Kind where
  | world
  | body
  | fixture
  | joint
  deriving DecidableEq

def Kind.name : Kind → String
  | .world => "world"
  | .body => "body"
  | .fixture => "fixture"
  | .joint => "joint"

def Kind.title : Kind → String
  | .world => "World"
  | .body => "Body"
  | .fixture => "Fixture"
  | .joint => "Joint"

structure Handle (k : Kind) where
  index : UInt32
  deriving DecidableEq

namespace Handle

/-- What a caller gets when there is no handle to give. -/
def invalidRaw : Int32 := -1

/-- The largest index that has a raw value of its own. -/
def lastIndex : UInt32 := 0x7fffffff

/-- The signed integer under which a caller knows the handle. -/
def raw (h : Handle k) : Int32 := h.index.toInt32

/-- The number attached to an engine object that belongs to the handle. -/
def tag (h : Handle k) : Nat := h.index.toNat

/-- The handle with a tag, if the tag is an index. -/
def ofTag? (k : Kind) (tag : Nat) : Option (Handle k) :=
  if tag < UInt32.size then some ⟨.ofNat tag⟩ else none

def display (h : Handle k) : String := k.name ++ "#" ++ toString h.index.toNat

end Handle

end RigidWorlds
