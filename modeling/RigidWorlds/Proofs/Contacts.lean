import RigidWorlds.Proofs.Pairs

/-!
What is reported about contacts.  The pairs that a world keeps are those of the last step, so their
colliders may be gone and the slots of these taken by others.  But a key that finds a collider finds
the one it was made for, and every collider there is belongs to a fixture and a body on record, so
only these are reported, whichever pairs are kept.
-/

namespace RigidWorlds

open Engine

namespace Registry

variable {r : Registry} {w : Handle .world} {world : World}

/-- A collider is reported as its fixture and as the body that the fixture is attached to. -/
structure Stands (r : Registry) (w : Handle .world) (world : World) (key : Key)
    (f : Handle .fixture) (rec : FixtureRecord) : Prop where
  record : (r.slice w).fixtures f = some rec
  fixture : world.fixtureOf? key = some f
  body : world.bodyOf? key = some rec.body
  attached : ∃ body, (r.slice w).bodies rec.body = some body ∧
    (world.colliders.get? key).map (·.parent) = some body.native

namespace Corresponds

theorem stands (h : r.Corresponds w world) {key : Key} {collider : Collider}
    (hcollider : world.colliders.get? key = some collider) :
    ∃ f rec, r.Stands w world key f rec := by
  obtain ⟨f, rec, hrec, rfl⟩ := h.fixtures.covered hcollider
  obtain ⟨found, hfound, htag, body, hbody, hparent⟩ := h.fixtures.present hrec
  obtain rfl := Option.some.inj (hfound.symm.trans hcollider)
  obtain ⟨native, hnative, hbodyTag⟩ := h.bodies.present hbody
  refine ⟨f, rec, hrec, ?_, ?_, body, hbody, ?_⟩
  · rw [World.fixtureOf?, hcollider, Option.bind_some, htag, Handle.ofTag?_tag]
  · simp only [World.bodyOf?, hcollider, Option.bind_eq_bind, Option.bind_some, ← hparent, hnative,
      hbodyTag, Handle.ofTag?_tag]
  · rw [hcollider, Option.map_some, hparent]

theorem stands_or_none (h : r.Corresponds w world) (key : Key) :
    (∃ f rec, r.Stands w world key f rec) ∨
      world.colliders.get? key = none ∧ world.fixtureOf? key = none ∧
        world.bodyOf? key = none := by
  cases hcollider : world.colliders.get? key with
  | none => exact .inr ⟨rfl, by simp [World.fixtureOf?, World.bodyOf?, hcollider]⟩
  | some collider => exact .inl (h.stands hcollider)

end Corresponds

/-- The fixture is there, and so is the body that it is attached to, both in the same world. -/
def Attached (r : Registry) (w : Handle .world) (f : Handle .fixture) : Prop :=
  ∃ rec body, r.fixture w f = .ok rec ∧ r.body w rec.body = .ok body

namespace Sound

theorem attached_of_fixtureOf? (hs : r.Sound) (hw : r.worlds.get? w = some world) {key : Key}
    {f : Handle .fixture} (hf : world.fixtureOf? key = some f) : r.Attached w f := by
  rcases (hs.corresponds hw).stands_or_none key with ⟨g, rec, hstands⟩ | ⟨-, hnone, -⟩
  · obtain rfl := Option.some.inj (hf.symm.trans hstands.fixture)
    obtain ⟨body, hbody, -⟩ := hstands.attached
    exact ⟨rec, body, hs.fixture_eq_ok_iff.mpr hstands.record, hs.body_eq_ok_iff.mpr hbody⟩
  · rw [hnone] at hf
    cases hf

theorem body_of_bodyOf? (hs : r.Sound) (hw : r.worlds.get? w = some world) {key : Key}
    {b : Handle .body} (hb : world.bodyOf? key = some b) : ∃ rec, r.body w b = .ok rec := by
  rcases (hs.corresponds hw).stands_or_none key with ⟨f, rec, hstands⟩ | ⟨-, -, hnone⟩
  · obtain rfl := Option.some.inj (hb.symm.trans hstands.body)
    obtain ⟨body, hbody, -⟩ := hstands.attached
    exact ⟨body, hs.body_eq_ok_iff.mpr hbody⟩
  · rw [hnone] at hb
    cases hb

end Sound

end Registry

section

variable {s : Simulator} {w : Handle .world} {world : World}

theorem perform_lastContacts (h : s.registry.Sound) (hw : s.registry.worlds.get? w = some world) :
    (Operation.lastContacts w).perform s = (.ok (.contacts world.contactList), s) := by
  simp only [Operation.perform_eq h, Operation.transact, Registry.readWorld, Transaction.map,
    Transaction.read, Registry.world_eq_ok_iff.mpr hw, Except.map, ok_bind, pure, Except.pure]

theorem perform_objectContacts (h : s.registry.Sound) (hw : s.registry.worlds.get? w = some world)
    {b : Handle .body} {rec : BodyRecord} (hrec : (s.registry.slice w).bodies b = some rec)
    {body : Body} (hbody : world.bodies.get? rec.native = some body) :
    (Operation.objectContacts w b).perform s = (.ok (.handles (world.neighbors body)), s) := by
  simp only [Operation.perform_eq h, Operation.transact, Registry.readBody, Transaction.map,
    Transaction.read, h.locateBody_eq hw hrec hbody, Except.map, ok_bind, pure, Except.pure]

end

namespace Simulator

/-- Questions about the contacts of a world are answered with fixtures and bodies that are there. -/
structure ReportsLive (s : Simulator) (w : Handle .world) : Prop where
  contacts : ∃ l : ContactList, (Operation.lastContacts w).perform s = (.ok (.contacts l), s) ∧
    ∀ c ∈ l.contacts, s.registry.Attached w c.first ∧ s.registry.Attached w c.second
  neighbors : ∀ b rec, s.registry.body w b = .ok rec → ∃ others : List (Handle .body),
    (Operation.objectContacts w b).perform s = (.ok (.handles others), s) ∧
      ∀ other ∈ others, ∃ rec', s.registry.body w other = .ok rec'

/-- The simulator with other pairs of close colliders in a world. -/
def track (s : Simulator) (w : Handle .world) (pairs : List Pair) : Simulator :=
  { s with registry := s.registry.modifyWorld w fun world => { world with pairs := pairs } }

variable {s : Simulator} {w : Handle .world} {world : World}

theorem reportsLive_of_sound (hs : s.registry.Sound)
    (hw : s.registry.worlds.get? w = some world) : s.ReportsLive w where
  contacts := by
    refine ⟨_, perform_lastContacts hs hw, ?_⟩
    intro c hmem
    obtain ⟨p, -, hc⟩ := List.mem_filterMap.mp hmem
    obtain ⟨hfirst, hsecond⟩ := World.mem_contactList hc
    exact ⟨hs.attached_of_fixtureOf? hw hfirst, hs.attached_of_fixtureOf? hw hsecond⟩
  neighbors := by
    intro b rec hrec
    have hslice := hs.body_eq_ok_iff.mp hrec
    obtain ⟨body, hbody, -⟩ := (hs.corresponds hw).bodies.present hslice
    refine ⟨_, perform_objectContacts hs hw hslice hbody, ?_⟩
    intro other hmem
    obtain ⟨key, -, hmem⟩ := List.mem_flatMap.mp hmem
    obtain ⟨p, -, hother⟩ := List.mem_filterMap.mp hmem
    exact hs.body_of_bodyOf? hw hother

/-- In every simulator that operations lead to, what is reported about the contacts of a world that
is there names only fixtures and bodies that are there, whichever pairs the world keeps. -/
theorem reportsLive_of_reachable (h : s.Reachable)
    (hw : s.registry.worlds.get? w = some world) :
    s.ReportsLive w ∧ ∀ pairs, (s.track w pairs).ReportsLive w := by
  refine ⟨reportsLive_of_sound h.sound hw, ?_⟩
  intro pairs
  have hsound : (s.track w pairs).registry.Sound := h.sound.modifyWorld w fun _ => rfl
  exact reportsLive_of_sound hsound (Registry.get?_modifyWorld_self hw _)

/-- Two bodies with a fixture each, of which the second one has taken the slot of another. -/
def reused : Simulator :=
  (start .initial).performAll [
    .createWorld ⟨0, -10⟩ true,
    .createBody ⟨0⟩ .dynamic ⟨0, 0⟩,
    .createBody ⟨0⟩ .static ⟨1, 0⟩,
    .createFixture ⟨0⟩ ⟨0⟩ ⟨.circle, 1, 0⟩ .initial,
    .createFixture ⟨0⟩ ⟨1⟩ ⟨.circle, 1, 0⟩ .initial,
    .deleteFixture ⟨0⟩ ⟨1⟩,
    .createFixture ⟨0⟩ ⟨1⟩ ⟨.circle, 1, 0⟩ .initial]

/-- Of a pair with the fixture that is gone and one with its successor only the latter counts. -/
theorem reportsLive_reused :
    let pairs : List Pair := [⟨⟨0, 0⟩, ⟨1, 0⟩, .sensor true⟩, ⟨⟨0, 0⟩, ⟨1, 1⟩, .sensor true⟩]
    ((reused.track ⟨0⟩ pairs).registry.worlds.get? ⟨0⟩).map (·.contactList) =
        some ⟨[⟨⟨0⟩, ⟨2⟩, true⟩]⟩ ∧
      reused.ReportsLive ⟨0⟩ ∧ (reused.track ⟨0⟩ pairs).ReportsLive ⟨0⟩ := by
  intro pairs
  have hreachable : reused.Reachable := (Reachable.start _).performAll _
  have hworld : reused.registry.worlds.contains ⟨0⟩ = true := by decide +kernel
  obtain ⟨world, hw⟩ := HandleTable.contains_iff.mp hworld
  obtain ⟨hnow, htracked⟩ := reportsLive_of_reachable hreachable hw
  exact ⟨by decide +kernel, hnow, htracked pairs⟩

end Simulator

end RigidWorlds
