import RigidWorlds.Proofs.Attributes
import RigidWorlds.Proofs.Integrity
import RigidWorlds.Proofs.Neighbors

/-!
Listings and what is answered for single objects.  The worlds, the bodies of a world and the
fixtures of a body are listed in ascending order.  Every body is listed in one world, the only one
in which it is found; the fixtures listed for a body are those that answer that body; and the bodies
that the engines count are all the bodies of the registry.
-/

namespace RigidWorlds

open Engine

namespace HandleTable

variable {k : Kind} {α : Type} {t : HandleTable k α}

theorem mem_handles (ht : t.Settled) {h : Handle k} : h ∈ t.handles ↔ t.contains h = true := by
  rw [handles_eq, mem_handlesWhere ht, contains_iff]
  simp

theorem length_handlesWhere (t : HandleTable k α) (p : α → Bool) :
    (t.handlesWhere p).length = t.items.countP fun e => p e.2 := by
  rw [handlesWhere, List.length_map, List.countP_eq_length_filter]

end HandleTable

namespace Registry

variable {r : Registry} {w : Handle .world} {world : World}

theorem Sound.sum_bodiesOf (h : r.Sound) :
    (r.worlds.handles.map fun w => (r.bodiesOf w).length).sum = r.bodies.size := by
  have hnodup : r.worlds.handles.Nodup := by
    rw [HandleTable.handles_eq]
    exact HandleTable.nodup_handlesWhere h.worlds _
  have hone : ∀ e ∈ r.bodies.items,
      r.worlds.handles.countP (fun w => decide (e.2.world = w)) = 1 := by
    intro e he
    obtain ⟨world, hw⟩ := h.intact.bodyWorld he
    have hmem : e.2.world ∈ r.worlds.handles :=
      (HandleTable.mem_handles h.worlds).mpr (HandleTable.contains_iff.mpr ⟨world, hw⟩)
    rw [← List.count_eq_one_of_mem hnodup hmem, List.count]
    refine List.countP_congr fun w _ => ?_
    rw [decide_eq_true_eq, beq_iff_eq, eq_comm]
  simp only [bodiesOf, HandleTable.length_handlesWhere]
  rw [sum_countP_comm, List.map_congr_left hone, List.map_const', List.sum_replicate]
  exact Nat.mul_one _

theorem Sound.length_bodiesOf (h : r.Sound) (hw : r.worlds.get? w = some world) :
    world.bodies.size = (r.bodiesOf w).length := by
  have hc := h.corresponds hw
  rw [← hc.size_capture, ← (hc.capture_perm h.bodies).length_eq, List.length_map]
  rfl

theorem Sound.mem_bodiesOf_iff (h : r.Sound) {b : Handle .body} {rec : BodyRecord}
    (hrec : r.bodies.get? b = some rec) : b ∈ r.bodiesOf w ↔ w = rec.world := by
  rw [mem_bodiesOf h.bodies]
  simp only [slice_bodies_eq_some_iff, hrec]
  constructor
  · rintro ⟨found, heq, rfl⟩
    rw [Option.some.inj heq]
  · rintro rfl
    exact ⟨rec, rfl, rfl⟩

theorem Sound.mem_fixturesOf_iff (h : r.Sound) {b : Handle .body} (hb : b ∈ r.bodiesOf w)
    {f : Handle .fixture} :
    f ∈ r.fixturesOf b ↔ ∃ rec, r.fixtures.get? f = some rec ∧ rec.world = w ∧ rec.body = b := by
  obtain ⟨body, hbody⟩ := (mem_bodiesOf h.bodies).mp hb
  obtain ⟨hget, hhome⟩ := slice_bodies_eq_some_iff.mp hbody
  simp only [fixturesOf, HandleTable.mem_handlesWhere h.fixtures, decide_eq_true_eq]
  constructor
  · rintro ⟨rec, hrec, rfl⟩
    obtain ⟨found, hfound, hworld⟩ :=
      h.intact.fixtureBody ((HandleTable.get?_eq_some_iff h.fixtures).mp hrec)
    obtain rfl := Option.some.inj (hfound.symm.trans hget)
    exact ⟨rec, hrec, hworld.symm.trans hhome, rfl⟩
  · rintro ⟨rec, hrec, -, hattached⟩
    exact ⟨rec, hrec, hattached⟩

end Registry

section

variable {s : Simulator} {w : Handle .world} {world : World}

theorem perform_worlds (h : s.registry.Sound) :
    Operation.worlds.perform s = (.ok (.handles s.registry.worlds.handles), s) := by
  simp only [Operation.perform_eq h, Operation.transact, Transaction.map, Transaction.read,
    ok_bind, pure, Except.pure]

theorem perform_fixturesOf (h : s.registry.Sound) {b : Handle .body}
    (hb : b ∈ s.registry.bodiesOf w) :
    (Operation.fixturesOf w b).perform s = (.ok (.handles (s.registry.fixturesOf b)), s) := by
  obtain ⟨rec, hrec⟩ := (Registry.mem_bodiesOf h.bodies).mp hb
  simp only [Operation.perform_eq h, Operation.transact, Transaction.map, Transaction.read,
    h.body_eq_ok_iff.mpr hrec, Except.map, ok_bind, pure, Except.pure]

theorem isOk_readBody_iff (h : s.registry.Sound) {b : Handle .body} (property : BodyProperty) :
    ((Operation.readBody w b property).perform s).1.isOk = true ↔ b ∈ s.registry.bodiesOf w := by
  rw [Registry.mem_bodiesOf h.bodies]
  constructor
  · intro hok
    cases hperform : (Operation.readBody w b property).perform s with
    | mk result s' =>
        rw [hperform] at hok
        cases result with
        | error e => cases hok
        | ok outcome =>
            obtain ⟨htransact, -⟩ := (Operation.perform_eq_ok_iff h).mp hperform
            change Registry.readBody w b (fun _ => property.value) _ = _ at htransact
            obtain ⟨hread, -⟩ := Registry.read_eq_ok htransact
            obtain ⟨⟨world, key, body⟩, hlocate, -⟩ := map_eq_ok_iff.mp hread
            obtain ⟨rec, hrec, -⟩ := Registry.locateBody_eq_ok hlocate
            exact ⟨rec, h.body_eq_ok_iff.mp hrec⟩
  · rintro ⟨rec, hrec⟩
    obtain ⟨world, hw⟩ := h.world_of_body hrec
    obtain ⟨body, hbody, -⟩ := (h.corresponds hw).bodies.present hrec
    rw [perform_readBody h hw hrec hbody]
    rfl

theorem perform_fixtureBody_iff (h : s.registry.Sound) {f : Handle .fixture} {b : Handle .body} :
    (Operation.fixtureBody w f).perform s = (.ok (.handle b), s) ↔
      ∃ rec, s.registry.fixtures.get? f = some rec ∧ rec.world = w ∧ rec.body = b := by
  constructor
  · intro hperform
    obtain ⟨htransact, -⟩ := (Operation.perform_eq_ok_iff h).mp hperform
    obtain ⟨found, hread, hanswer⟩ := Transaction.map_eq_ok htransact
    obtain ⟨hfixture, -⟩ := Registry.read_eq_ok hread
    obtain ⟨rec, hrec, rfl⟩ := map_eq_ok_iff.mp hfixture
    obtain ⟨hget, hworld⟩ := Registry.slice_fixtures_eq_some_iff.mp (h.fixture_eq_ok_iff.mp hrec)
    cases hanswer
    exact ⟨rec, hget, hworld, rfl⟩
  · rintro ⟨rec, hrec, hw, rfl⟩
    exact perform_fixtureBody h hrec hw

end

/-- What is listed is answered in ascending order of the handles. -/
def Simulator.Lists (s : Simulator) (op : Operation) {k : Kind} (hs : List (Handle k)) : Prop :=
  op.perform s = (.ok (.handles hs), s) ∧ hs.Pairwise fun g h => g.index < h.index

/-- What is listed agrees with what is answered for single objects. -/
structure Simulator.Listings (s : Simulator) (worlds : List (Handle .world))
    (bodies : Handle .world → List (Handle .body))
    (fixtures : Handle .body → List (Handle .fixture)) : Prop where
  listsWorlds : s.Lists .worlds worlds
  listsBodies : ∀ w ∈ worlds, s.Lists (.bodiesOf w) (bodies w)
  listsFixtures : ∀ w ∈ worlds, ∀ b ∈ bodies w, s.Lists (.fixturesOf w b) (fixtures b)
  live : ∀ w, w ∈ worlds ↔ s.registry.worlds.contains w = true
  home : ∀ b, s.registry.bodies.contains b = true → ∃ w ∈ worlds, ∀ v,
    (v ∈ worlds ∧ b ∈ bodies v ↔ v = w) ∧
      (((Operation.readBody v b .position).perform s).1.isOk = true ↔ v = w)
  attached : ∀ w ∈ worlds, ∀ b ∈ bodies w, ∀ f,
    f ∈ fixtures b ↔ (Operation.fixtureBody w f).perform s = (.ok (.handle b), s)
  counted : ∀ w ∈ worlds,
    (Operation.readWorld w .bodyCount).perform s = (.ok (.count (bodies w).length), s)
  total : s.registry.bodies.size = (worlds.map fun w => (bodies w).length).sum

theorem listings_of_sound {s : Simulator} (h : s.registry.Sound) :
    s.Listings s.registry.worlds.handles s.registry.bodiesOf s.registry.fixturesOf := by
  have hlive : ∀ {w}, w ∈ s.registry.worlds.handles →
      ∃ world, s.registry.worlds.get? w = some world := fun hw =>
    HandleTable.contains_iff.mp ((HandleTable.mem_handles h.worlds).mp hw)
  refine ⟨⟨perform_worlds h, ?_⟩, ?_, ?_, ?_, ?_, ?_, ?_, h.sum_bodiesOf.symm⟩
  · rw [HandleTable.handles_eq]
    exact HandleTable.ascending_handlesWhere h.worlds _
  · intro w hw
    obtain ⟨world, hworld⟩ := hlive hw
    exact ⟨perform_bodiesOf h hworld, HandleTable.ascending_handlesWhere h.bodies _⟩
  · intro w _ b hb
    exact ⟨perform_fixturesOf h hb, HandleTable.ascending_handlesWhere h.fixtures _⟩
  · exact fun w => HandleTable.mem_handles h.worlds
  · intro b hb
    obtain ⟨rec, hrec⟩ := HandleTable.contains_iff.mp hb
    obtain ⟨world, hw⟩ := h.intact.bodyWorld ((HandleTable.get?_eq_some_iff h.bodies).mp hrec)
    have hhome : rec.world ∈ s.registry.worlds.handles :=
      (HandleTable.mem_handles h.worlds).mpr (HandleTable.contains_iff.mpr ⟨world, hw⟩)
    refine ⟨rec.world, hhome, fun v => ⟨?_, ?_⟩⟩
    · rw [h.mem_bodiesOf_iff hrec]
      exact ⟨And.right, by rintro rfl; exact ⟨hhome, rfl⟩⟩
    · rw [isOk_readBody_iff h, h.mem_bodiesOf_iff hrec]
  · intro w _ b hb f
    rw [h.mem_fixturesOf_iff hb, perform_fixtureBody_iff h]
  · intro w hw
    obtain ⟨world, hworld⟩ := hlive hw
    rw [perform_readWorld h hworld, ← h.length_bodiesOf hworld]
    rfl

/-- In every simulator that operations lead to, the listings agree with what is answered for single
objects. -/
theorem listings_of_reachable {s : Simulator} (h : s.Reachable) :
    ∃ worlds bodies fixtures, s.Listings worlds bodies fixtures :=
  ⟨_, _, _, listings_of_sound h.sound⟩

theorem listings_sample :
    (Simulator.sample.registry.bodies.size = 2 ∧ Simulator.sample.registry.fixtures.size = 1) ∧
    ∃ worlds bodies fixtures, Simulator.sample.Listings worlds bodies fixtures :=
  ⟨by decide +kernel, listings_of_reachable Simulator.reachable_sample⟩

end RigidWorlds
