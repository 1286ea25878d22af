import RigidWorlds.HandleText
import RigidWorlds.Json.Record

namespace RigidWorlds

@[ext]
structure FixtureContact where
  first : Handle .fixture
  second : Handle .fixture
  touching : Bool
  deriving DecidableEq

@[ext]
structure ContactList where
  contacts : List FixtureContact
  deriving DecidableEq

open Json

namespace FixtureContact

def contains (c : FixtureContact) (f : Handle .fixture) : Bool := c.first = f || c.second = f

def other (c : FixtureContact) (f : Handle .fixture) : Option (Handle .fixture) :=
  if c.first = f then some c.second
  else if c.second = f then some c.first
  else none

def flat (c : FixtureContact) : List Int32 :=
  [c.first.raw, c.second.raw, if c.touching then 1 else 0]

def description : Record FixtureContact where
  name := "Contact"
  fields := [
    .needed "fixture_a" fun f c => { c with first := f },
    .needed "fixture_b" fun f c => { c with second := f },
    .needed "touching" fun b c => { c with touching := b }]
  blank := ⟨⟨0⟩, ⟨0⟩, false⟩

instance : Decode FixtureContact := description.decode

instance : Encode FixtureContact where
  render c := renderRecord [
    ("fixture_a", Encode.render c.first),
    ("fixture_b", Encode.render c.second),
    ("touching", Encode.render c.touching)]

end FixtureContact

namespace ContactList

def size (l : ContactList) : Nat := l.contacts.length

def isEmpty (l : ContactList) : Bool := l.contacts.isEmpty

def touching (l : ContactList) : List FixtureContact := l.contacts.filter (·.touching)

/-- The first contact between two fixtures, whichever comes first in it. -/
def between (l : ContactList) (a b : Handle .fixture) : Option FixtureContact :=
  l.contacts.find? fun c => c.contains a && c.other a = some b

/-- The list as integers: how many contacts there are, and then the contacts. -/
def flat (l : ContactList) : List Int32 :=
  Int32.ofNat l.size :: l.contacts.flatMap FixtureContact.flat

def description : Record ContactList where
  name := "ContactList"
  fields := [.needed "contacts" fun cs l => { l with contacts := cs }]
  blank := ⟨[]⟩

instance : Decode ContactList := description.decode

instance : Encode ContactList where
  render l := renderRecord [("contacts", Encode.render l.contacts)]

end ContactList

end RigidWorlds
