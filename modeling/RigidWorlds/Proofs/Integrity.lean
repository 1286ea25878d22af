import RigidWorlds.Proofs.Reachability

/-!
Referential integrity: no record of a registry names an object that is gone, and what belongs
together belongs to one world.
-/

namespace RigidWorlds

namespace Registry

structure Intact (r : Registry) : Prop where
  bodyWorld : ∀ {b rec}, (b, rec) ∈ r.bodies.items → ∃ world, r.worlds.get? rec.world = some world
  fixtureWorld : ∀ {f rec}, (f, rec) ∈ r.fixtures.items →
    ∃ world, r.worlds.get? rec.world = some world
  jointWorld : ∀ {j rec}, (j, rec) ∈ r.joints.items →
    ∃ world, r.worlds.get? rec.world = some world
  fixtureBody : ∀ {f rec}, (f, rec) ∈ r.fixtures.items →
    ∃ body, r.bodies.get? rec.body = some body ∧ body.world = rec.world
  jointBodies : ∀ {j rec}, (j, rec) ∈ r.joints.items → rec.first ≠ rec.second ∧
    (∃ body, r.bodies.get? rec.first = some body ∧ body.world = rec.world) ∧
      ∃ body, r.bodies.get? rec.second = some body ∧ body.world = rec.world
  idle : r.worlds.pending = [] ∧ r.bodies.pending = [] ∧ r.fixtures.pending = [] ∧
    r.joints.pending = []
  worldIssued : ∀ {w world}, (w, world) ∈ r.worlds.items → w.index < r.worlds.nextIndex
  bodyIssued : ∀ {b rec}, (b, rec) ∈ r.bodies.items → b.index < r.bodies.nextIndex
  fixtureIssued : ∀ {f rec}, (f, rec) ∈ r.fixtures.items → f.index < r.fixtures.nextIndex
  jointIssued : ∀ {j rec}, (j, rec) ∈ r.joints.items → j.index < r.joints.nextIndex

variable {r : Registry}

theorem Sound.slice_of_body (h : r.Sound) {b : Handle .body} {rec : BodyRecord}
    (hmem : (b, rec) ∈ r.bodies.items) : (r.slice rec.world).bodies b = some rec :=
  slice_bodies_eq_some_iff.mpr ⟨(HandleTable.get?_eq_some_iff h.bodies).mpr hmem, rfl⟩

theorem Sound.slice_of_fixture (h : r.Sound) {f : Handle .fixture} {rec : FixtureRecord}
    (hmem : (f, rec) ∈ r.fixtures.items) : (r.slice rec.world).fixtures f = some rec :=
  slice_fixtures_eq_some_iff.mpr ⟨(HandleTable.get?_eq_some_iff h.fixtures).mpr hmem, rfl⟩

theorem Sound.slice_of_joint (h : r.Sound) {j : Handle .joint} {rec : JointRecord}
    (hmem : (j, rec) ∈ r.joints.items) : (r.slice rec.world).joints j = some rec :=
  slice_joints_eq_some_iff.mpr ⟨(HandleTable.get?_eq_some_iff h.joints).mpr hmem, rfl⟩

theorem body_of_locates {w : Handle .world} {b : Handle .body} {key : Engine.Key}
    (h : (r.slice w).Locates b key) :
    ∃ body, r.bodies.get? b = some body ∧ body.world = w := by
  obtain ⟨body, hbody, -⟩ := h
  exact ⟨body, slice_bodies_eq_some_iff.mp hbody⟩

theorem Sound.intact (h : r.Sound) : r.Intact where
  bodyWorld hmem := h.world_of_body (h.slice_of_body hmem)
  fixtureWorld hmem := h.world_of_fixture (h.slice_of_fixture hmem)
  jointWorld hmem := h.world_of_joint (h.slice_of_joint hmem)
  fixtureBody := by
    intro f rec hmem
    have hrec := h.slice_of_fixture hmem
    obtain ⟨world, hw⟩ := h.world_of_fixture hrec
    obtain ⟨collider, -, -, hparent⟩ := (h.mirrors hw).fixtures.present hrec
    exact body_of_locates hparent
  jointBodies := by
    intro j rec hmem
    have hrec := h.slice_of_joint hmem
    obtain ⟨world, hw⟩ := h.world_of_joint hrec
    obtain ⟨spring, -, hne, hfirst, hsecond⟩ := (h.mirrors hw).joints.present hrec
    exact ⟨hne, body_of_locates hfirst, body_of_locates hsecond⟩
  idle := ⟨h.worlds.idle, h.bodies.idle, h.fixtures.idle, h.joints.idle⟩
  worldIssued hmem := h.worlds.issued _ hmem
  bodyIssued hmem := h.bodies.issued _ hmem
  fixtureIssued hmem := h.fixtures.issued _ hmem
  jointIssued hmem := h.joints.issued _ hmem

end Registry

/-- In every simulator that operations lead to, the registry is intact. -/
theorem intact_of_reachable {s : Simulator} (h : s.Reachable) : s.registry.Intact :=
  h.sound.intact

theorem intact_sample :
    (Simulator.sample.registry.worlds.size = 1 ∧ Simulator.sample.registry.bodies.size = 2 ∧
      Simulator.sample.registry.fixtures.size = 1 ∧ Simulator.sample.registry.joints.size = 1) ∧
    Simulator.sample.registry.Intact :=
  ⟨by decide +kernel, intact_of_reachable Simulator.reachable_sample⟩

end RigidWorlds
