import RigidWorlds.Proofs.Fate
import RigidWorlds.Proofs.SingleNorms

namespace RigidWorlds

open Engine Binary

/-- The bodies that an operation joins, and the definition of their joint. -/
def Operation.joint? (config : Config) :
    Operation → Option (Handle .world × Handle .body × Handle .body × JointDefinition)
  | createJoint w a b d => some (w, a, b, d)
  | createDefaultJoint w a b =>
      some (w, a, b, .central config.jointStiffness config.jointDamping)
  | _ => none

namespace JointDefinition

variable {d : JointDefinition} {a b : Body}

/-- The way from the first anchor to the second one. -/
def separation (d : JointDefinition) (a b : Body) : Vec2 :=
  b.motion.pose.apply d.secondAnchor - a.motion.pose.apply d.firstAnchor

/-- What is handed to the engine consists of finite numbers that are not negative, except for a
measured length if its square is out of range. -/
structure Fits (d : JointDefinition) (a b : Body) : Prop where
  stiffness : d.stiffness.isFinite = true ∧ 0 ≤ d.stiffness
  damping : d.damping.isFinite = true ∧ 0 ≤ d.damping
  given : ∀ {length}, d.length = some length →
    d.restLength a b = length ∧ length.isFinite = true ∧ 0 ≤ length
  measured : d.length = none →
    ((d.restLength a b).isFinite = true ∧ 0 ≤ d.restLength a b ↔
      (d.separation a b).normSquared.isFinite = true)
  near : d.length = none → (d.separation a b).x.abs < squareLimit →
    (d.separation a b).y.abs < squareLimit →
      (d.restLength a b).isFinite = true ∧ 0 ≤ d.restLength a b

theorem check_eq_ok (h : d.check = .ok ()) :
    (d.stiffness.isFinite = true ∧ 0 ≤ d.stiffness) ∧
      (d.damping.isFinite = true ∧ 0 ≤ d.damping) ∧
      ∀ {length}, d.length = some length → length.isFinite = true ∧ 0 ≤ length := by
  simp only [check, bind_eq_ok_iff, checkNonNegative_eq_ok_iff] at h
  obtain ⟨-, ⟨hstiffness, -⟩, -, ⟨hdamping, -⟩, h⟩ := h
  refine ⟨hstiffness, hdamping, ?_⟩
  intro length hlength
  simp only [hlength, bind_eq_ok_iff, checkNonNegative_eq_ok_iff] at h
  obtain ⟨-, ⟨hgiven, -⟩, -⟩ := h
  exact hgiven

theorem restLength_of_none (h : d.length = none) (a b : Body) :
    d.restLength a b = (d.separation a b).norm := by
  unfold restLength
  rw [h]
  rfl

theorem fits_of_check (h : d.check = .ok ()) (a b : Body) : d.Fits a b := by
  obtain ⟨hstiffness, hdamping, hgiven⟩ := check_eq_ok h
  have hmeasured : d.length = none →
      ((d.restLength a b).isFinite = true ∧ 0 ≤ d.restLength a b ↔
        (d.separation a b).normSquared.isFinite = true) := by
    intro hnone
    rw [restLength_of_none hnone]
    exact Vec2.isFinite_norm_iff
  refine ⟨hstiffness, hdamping, ?_, hmeasured, ?_⟩
  · intro length hlength
    exact ⟨by simp only [restLength, hlength], hgiven hlength⟩
  · intro hnone hx hy
    exact (hmeasured hnone).mpr (Vec2.isFinite_normSquared hx hy)

end JointDefinition

namespace Registry

variable {r r' : Registry} {w : Handle .world} {world : World}

theorem Sound.wellFormed_springs (hs : r.Sound) (hw : r.worlds.get? w = some world) :
    world.springs.WellFormed := by
  have hcensus : (world.springs.map fun _ s => s.identity).WellFormed :=
    (hs.mirrors hw).coherent.springs
  exact Arena.wellFormed_of_map hcensus

theorem Sound.holds_of_locateBody (hs : r.Sound) {b : Handle .body} {rec : BodyRecord}
    {key : Key} {body : Body} (hrec : r.body w b = .ok rec)
    (h : r.locateBody w b = .ok (world, key, body)) : rec.world = w ∧ r.Holds b rec world body := by
  obtain ⟨found, hfound, hw, rfl, hbody⟩ := locateBody_eq_ok h
  obtain rfl := Except.ok.inj (hfound.symm.trans hrec)
  obtain ⟨hget, hhome⟩ := slice_bodies_eq_some_iff.mp (hs.body_eq_ok_iff.mp hrec)
  exact ⟨hhome, hget, hhome ▸ hw, hbody⟩

theorem spring_createJoint (hs : r.Sound) {a b : Handle .body} {d : JointDefinition}
    {j : Handle .joint} (h : createJoint w a b d r = .ok (j, r')) :
    d.check = .ok () ∧ ∃ recA recB world bodyA bodyB native world',
      (recA.world = w ∧ r.Holds a recA world bodyA) ∧
      (recB.world = w ∧ r.Holds b recB world bodyB) ∧
      r'.joints.get? j = some ⟨w, a, b, native⟩ ∧ r'.worlds.get? w = some world' ∧
      world'.springs.get? native = some (spring d recA recB bodyA bodyB) := by
  simp only [createJoint, bind_eq_ok_iff] at h
  obtain ⟨recA, hrecA, recB, hrecB, h⟩ := h
  split at h
  · cases h
  · simp only [bind_eq_ok_iff, return_eq_ok_iff] at h
    obtain ⟨u, hcheck, ⟨world, keyA, bodyA⟩, hlocateA, ⟨worldB, keyB, bodyB⟩, hlocateB, j, hissue,
      rfl, rfl⟩ := h
    obtain ⟨hhomeA, hholdsA⟩ := hs.holds_of_locateBody hrecA hlocateA
    obtain ⟨hhomeB, hholdsB⟩ := hs.holds_of_locateBody hrecB hlocateB
    have hw : r.worlds.get? w = some world := hhomeA ▸ hholdsA.home
    obtain rfl := Option.some.inj ((hhomeB ▸ hholdsB.home).symm.trans hw)
    obtain ⟨-, rfl⟩ := HandleTable.issue_eq_ok_iff.mp hissue
    have hwell := hs.wellFormed_springs hw
    refine ⟨hcheck, recA, recB, worldB, bodyA, bodyB,
      (worldB.insertSpring (spring d recA recB bodyA bodyB)).1, _, ⟨hhomeA, hholdsA⟩,
      ⟨hhomeB, hholdsB⟩, ?_, get?_modifyWorld_self hw _, ?_⟩
    · exact (HandleTable.get?_append hs.joints ..).trans (if_pos rfl)
    · exact (Arena.get?_insert hwell ..).trans (if_pos rfl)

end Registry

/-- The engine holds a spring by the definition between two bodies that were there, and what it was
handed is fit. -/
def Simulator.Joins (s s' : Simulator) (w : Handle .world) (a b : Handle .body)
    (d : JointDefinition) (j : Handle .joint) : Prop :=
  ∃ recA recB world bodyA bodyB native world' spring,
    (recA.world = w ∧ s.registry.Holds a recA world bodyA) ∧
    (recB.world = w ∧ s.registry.Holds b recB world bodyB) ∧
    s'.registry.joints.get? j = some ⟨w, a, b, native⟩ ∧
    s'.registry.worlds.get? w = some world' ∧ world'.springs.get? native = some spring ∧
    spring.stiffness = d.stiffness ∧ spring.damping = d.damping ∧
    spring.length = d.restLength bodyA bodyB ∧ d.Fits bodyA bodyB

/-- Whenever bodies are joined, the engine is handed the stiffness, the damping and the length of
the definition, and all three are finite and not negative, except that a length measured between
the bodies is so just if its square is in range. -/
theorem joins_of_handle {s : Simulator} (hs : s.Reachable) {op : Operation} {w : Handle .world}
    {a b : Handle .body} {d : JointDefinition} (hjoint : op.joint? s.config = some (w, a, b, d))
    {j : Handle .joint} (h : (op.perform s).1 = .ok (.handle j)) :
    s.Joins (op.perform s).2 w a b d j := by
  have hcreate : Registry.createJoint w a b d s.registry = .ok (j, (op.perform s).2.registry) := by
    have htransact := ((Operation.perform_eq_ok_iff hs.sound).mp (Prod.ext h rfl)).1
    have hmap : ((Registry.createJoint w a b d).map Outcome.handle) s.registry =
        .ok (.handle j, (op.perform s).2.registry) := by
      cases op with
      | createJoint | createDefaultJoint =>
          obtain ⟨rfl, rfl, rfl, rfl⟩ := by simpa [Operation.joint?] using hjoint
          exact htransact
      | _ => cases hjoint
    obtain ⟨j', hok, houtcome⟩ := Transaction.map_eq_ok hmap
    obtain rfl : j = j' := by simpa using houtcome
    exact hok
  obtain ⟨hcheck, recA, recB, world, bodyA, bodyB, native, world', hA, hB, hrec, hw', hspring⟩ :=
    Registry.spring_createJoint hs.sound hcreate
  exact ⟨recA, recB, world, bodyA, bodyB, native, world', _, hA, hB, hrec, hw', hspring, rfl, rfl,
    rfl, JointDefinition.fits_of_check hcheck bodyA bodyB⟩

theorem joins_sample :
    ((Operation.createDefaultJoint ⟨0⟩ ⟨0⟩ ⟨1⟩).perform .sample).1 =
        .ok (.handle (⟨1⟩ : Handle .joint)) ∧
      Simulator.sample.Joins ((Operation.createDefaultJoint ⟨0⟩ ⟨0⟩ ⟨1⟩).perform .sample).2 ⟨0⟩ ⟨0⟩
        ⟨1⟩ (.central Config.initial.jointStiffness Config.initial.jointDamping) ⟨1⟩ :=
  ⟨rfl, joins_of_handle Simulator.reachable_sample rfl rfl⟩

/-- Two bodies so far apart that the square of their distance is out of range. -/
def Simulator.distant : Simulator :=
  (start .initial).performAll [
    .createWorld ⟨0, -10⟩ true,
    .createBody ⟨0⟩ .dynamic ⟨-3e38, 0⟩,
    .createBody ⟨0⟩ .dynamic ⟨3e38, 0⟩]

/-- They are joined at an infinite distance, which would be refused if it were given. -/
theorem distant_joined_at_infinity :
    Simulator.distant.Reachable ∧
    ((Operation.createDefaultJoint ⟨0⟩ ⟨0⟩ ⟨1⟩).perform .distant).1 =
      .ok (.handle (⟨0⟩ : Handle .joint)) ∧
    (((Operation.createDefaultJoint ⟨0⟩ ⟨0⟩ ⟨1⟩).perform .distant).2.registry.worlds.get? ⟨0⟩).map
      (·.springs.toList.map (·.2.length)) = some [Float32.ofBits 0x7f800000] ∧
    (Float32.ofBits 0x7f800000).isFinite = false ∧
    ∀ d : JointDefinition, d.length = some (Float32.ofBits 0x7f800000) → d.check ≠ .ok () := by
  refine ⟨(Simulator.Reachable.start _).performAll _, rfl, by decide +kernel, rfl, ?_⟩
  intro d hlength hcheck
  have hgiven := (JointDefinition.check_eq_ok hcheck).2.2 hlength
  exact absurd hgiven.1 (by decide)

end RigidWorlds
