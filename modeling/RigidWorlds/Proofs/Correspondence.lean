import RigidWorlds.Proofs.Reachability

namespace RigidWorlds

open Engine

theorem Handle.ofTag?_tag {k : Kind} (h : Handle k) : ofTag? k h.tag = some h := by
  simp only [ofTag?, tag, if_pos h.index.toNat_lt_size, UInt32.ofNat_toNat]

theorem Mirror.of_map {k : Kind} {ρ ι κ : Type} {records : Handle k → Option ρ}
    {items : Key → Option ι} {native : ρ → Key} {f : ι → κ} {fits : Handle k → ρ → κ → Prop}
    (hm : Mirror records (fun key => (items key).map f) native fits) :
    Mirror records items native fun h rec item => fits h rec (f item) where
  present := by
    intro h rec hrec
    obtain ⟨identity, hget, hfits⟩ := hm.present hrec
    obtain ⟨item, hitem, rfl⟩ := Option.map_eq_some_iff.mp hget
    exact ⟨item, hitem, hfits⟩
  covered := by
    intro key item hitem
    exact hm.covered (congrArg (Option.map f) hitem)
  injective := hm.injective

namespace Registry

/-- What is registered in a world and what its engine holds are one for one: bodies and fixtures
carry the tags of their handles, and fixtures and joints belong to the bodies on record. -/
structure Corresponds (r : Registry) (w : Handle .world) (world : World) : Prop where
  bodies : Mirror (r.slice w).bodies world.bodies.get? BodyRecord.native fun b _ body =>
    body.tag = b.tag
  fixtures : Mirror (r.slice w).fixtures world.colliders.get? FixtureRecord.native
    fun f rec collider => collider.tag = f.tag ∧ (r.slice w).Locates rec.body collider.parent
  joints : Mirror (r.slice w).joints world.springs.get? JointRecord.native fun _ rec spring =>
    (r.slice w).Locates rec.first spring.first ∧ (r.slice w).Locates rec.second spring.second

variable {r : Registry} {w : Handle .world} {world : World}

theorem Sound.corresponds (h : r.Sound) (hw : r.worlds.get? w = some world) :
    r.Corresponds w world := by
  have hm := h.mirrors hw
  have hbodies : world.census.bodies.get? = fun key => (world.bodies.get? key).map (·.identity) :=
    funext fun _ => Arena.get?_map ..
  have hcolliders : world.census.colliders.get? =
      fun key => (world.colliders.get? key).map (·.identity) :=
    funext fun _ => Arena.get?_map ..
  have hsprings : world.census.springs.get? =
      fun key => (world.springs.get? key).map (·.identity) :=
    funext fun _ => Arena.get?_map ..
  refine ⟨?_, ?_, ?_⟩
  · exact (hbodies ▸ hm.bodies).of_map
  · exact (hcolliders ▸ hm.fixtures).of_map
  · exact ((hsprings ▸ hm.joints).weaken fun _ _ hfits => hfits.2).of_map

theorem Corresponds.ofTag? (h : r.Corresponds w world) {key : Key} {body : Body}
    (hbody : world.bodies.get? key = some body) :
    ∃ b rec, (r.slice w).bodies b = some rec ∧ rec.native = key ∧
      Handle.ofTag? .body body.tag = some b := by
  obtain ⟨b, rec, hrec, rfl⟩ := h.bodies.covered hbody
  obtain ⟨found, hfound, htag⟩ := h.bodies.present hrec
  obtain rfl := Option.some.inj (hfound.symm.trans hbody)
  exact ⟨b, rec, hrec, rfl, by rw [htag, Handle.ofTag?_tag]⟩

theorem Corresponds.mem_capture (h : r.Corresponds w world) {p : BodyPose} :
    p ∈ (Snapshot.capture world).poses ↔
      ∃ rec body, (r.slice w).bodies p.body = some rec ∧ world.bodies.get? rec.native = some body ∧
        p = ⟨p.body, body.position.x, body.position.y, body.angle⟩ := by
  simp only [Snapshot.capture, List.mem_filterMap, Prod.exists, Arena.mem_toList]
  constructor
  · rintro ⟨key, body, hbody, hp⟩
    obtain ⟨b, rec, hrec, rfl, htag⟩ := h.ofTag? hbody
    rw [htag, Option.map_some] at hp
    obtain rfl := Option.some.inj hp
    exact ⟨rec, body, hrec, hbody, rfl⟩
  · rintro ⟨rec, body, hrec, hbody, hp⟩
    obtain ⟨found, hfound, htag⟩ := h.bodies.present hrec
    obtain rfl := Option.some.inj (hfound.symm.trans hbody)
    refine ⟨rec.native, found, hbody, ?_⟩
    rw [htag, Handle.ofTag?_tag, Option.map_some, ← hp]

theorem mem_bodiesOf (ht : r.bodies.Settled) {b : Handle .body} :
    b ∈ r.bodiesOf w ↔ ∃ rec, (r.slice w).bodies b = some rec := by
  simp only [bodiesOf, HandleTable.mem_handlesWhere ht, slice_bodies_eq_some_iff,
    decide_eq_true_eq]

theorem Corresponds.nodup_capture (h : r.Corresponds w world) :
    ((Snapshot.capture world).poses.map (·.body)).Nodup := by
  have hkeys : world.bodies.toList.Pairwise fun x y => x.1 ≠ y.1 :=
    List.pairwise_map.mp world.bodies.nodup_keys
  rw [List.nodup_iff_pairwise_ne, List.pairwise_map, Snapshot.capture, List.pairwise_filterMap]
  refine hkeys.imp_of_mem ?_
  rintro ⟨key, body⟩ ⟨key', body'⟩ hx hy hne p hp q hq heq
  -- Both poses come from the one record of their common handle.
  obtain ⟨b, rec, hrec, rfl, htag⟩ := h.ofTag? (Arena.mem_toList.mp hx)
  obtain ⟨b', rec', hrec', rfl, htag'⟩ := h.ofTag? (Arena.mem_toList.mp hy)
  dsimp only at hp hq
  rw [htag, Option.map_some] at hp
  rw [htag', Option.map_some] at hq
  obtain rfl := Option.some.inj hp
  obtain rfl := Option.some.inj hq
  obtain rfl : b = b' := heq
  exact hne (congrArg BodyRecord.native (Option.some.inj (hrec.symm.trans hrec')))

theorem Corresponds.size_capture (h : r.Corresponds w world) :
    (Snapshot.capture world).size = world.bodies.size := by
  refine List.filterMap_length_eq_length.mpr ?_
  rintro ⟨key, body⟩ hmem
  obtain ⟨b, rec, hrec, rfl, htag⟩ := h.ofTag? (Arena.mem_toList.mp hmem)
  simp [htag]

theorem Corresponds.capture_perm (h : r.Corresponds w world) (ht : r.bodies.Settled) :
    ((Snapshot.capture world).poses.map (·.body)).Perm (r.bodiesOf w) := by
  have hnodup : (r.bodiesOf w).Nodup := HandleTable.nodup_handlesWhere ht _
  rw [List.perm_ext_iff_of_nodup h.nodup_capture hnodup]
  intro b
  rw [List.mem_map, mem_bodiesOf ht]
  constructor
  · rintro ⟨p, hp, rfl⟩
    obtain ⟨rec, body, hrec, -⟩ := h.mem_capture.mp hp
    exact ⟨rec, hrec⟩
  · rintro ⟨rec, hrec⟩
    obtain ⟨body, hbody, -⟩ := h.bodies.present hrec
    exact ⟨⟨b, body.position.x, body.position.y, body.angle⟩,
      h.mem_capture.mpr ⟨rec, body, hrec, hbody, rfl⟩, rfl⟩

end Registry

/-- The poses are those of the bodies that are listed in a world, each of them once, as many as are
counted there and just what is read of their positions and angles. -/
structure Snapshot.Reports (snapshot : Snapshot) (s : Simulator) (w : Handle .world) : Prop where
  listed : ∃ bodies : List (Handle .body),
    (Operation.bodiesOf w).perform s = (.ok (.handles bodies), s) ∧
      (snapshot.poses.map (·.body)).Perm bodies
  once : (snapshot.poses.map (·.body)).Nodup
  counted : (Operation.readWorld w .bodyCount).perform s = (.ok (.count snapshot.size), s)
  position : ∀ p ∈ snapshot.poses,
    (Operation.readBody w p.body .position).perform s = (.ok (.point ⟨p.x, p.y⟩), s)
  angle : ∀ p ∈ snapshot.poses,
    (Operation.readBody w p.body .angle).perform s = (.ok (.number p.angle), s)

section

variable {s : Simulator} {w : Handle .world} {world : World}

theorem perform_bodiesOf (h : s.registry.Sound) (hw : s.registry.worlds.get? w = some world) :
    (Operation.bodiesOf w).perform s = (.ok (.handles (s.registry.bodiesOf w)), s) := by
  simp only [Operation.perform_eq h, Operation.transact, Transaction.map, Transaction.read,
    Registry.world_eq_ok_iff.mpr hw, Except.map, ok_bind, pure, Except.pure]

theorem perform_readWorld (h : s.registry.Sound) (hw : s.registry.worlds.get? w = some world)
    (property : WorldProperty) :
    (Operation.readWorld w property).perform s = (.ok (property.value world), s) := by
  simp only [Operation.perform_eq h, Operation.transact, Registry.readWorld, Transaction.read,
    Registry.world_eq_ok_iff.mpr hw, Except.map, ok_bind, pure, Except.pure]

theorem perform_readBody (h : s.registry.Sound) (hw : s.registry.worlds.get? w = some world)
    {b : Handle .body} {rec : BodyRecord} (hrec : (s.registry.slice w).bodies b = some rec)
    {body : Body} (hbody : world.bodies.get? rec.native = some body) (property : BodyProperty) :
    (Operation.readBody w b property).perform s = (.ok (property.value body), s) := by
  simp only [Operation.perform_eq h, Operation.transact, Registry.readBody, Transaction.read,
    h.locateBody_eq hw hrec hbody, Except.map, ok_bind, pure, Except.pure]

theorem capture_reports (h : s.registry.Sound) (hw : s.registry.worlds.get? w = some world) :
    (Snapshot.capture world).Reports s w := by
  have hc := h.corresponds hw
  refine ⟨?_, hc.nodup_capture, ?_, ?_, ?_⟩
  · exact ⟨_, perform_bodiesOf h hw, hc.capture_perm h.bodies⟩
  · rw [perform_readWorld h hw, hc.size_capture]
    rfl
  · intro p hp
    obtain ⟨rec, body, hrec, hbody, hp⟩ := hc.mem_capture.mp hp
    rw [perform_readBody h hw hrec hbody, hp]
    rfl
  · intro p hp
    obtain ⟨rec, body, hrec, hbody, hp⟩ := hc.mem_capture.mp hp
    rw [perform_readBody h hw hrec hbody, hp]
    rfl

end

def Operation.isStepOf (w : Handle .world) : Operation → Bool
  | step v _ _ _ => v = w
  | stepDefault v _ => v = w
  | _ => false

theorem step_reports {s s' : Simulator} (h : s.registry.Sound) {op : Operation}
    {w : Handle .world} (hop : op.isStepOf w) {outcome : Outcome}
    (hok : op.perform s = (.ok outcome, s')) :
    ∃ snapshot, outcome = .snapshot snapshot ∧ snapshot.Reports s' w := by
  have hsound : s'.registry.Sound := by
    have hperform := Operation.sound_perform h op
    rwa [hok] at hperform
  obtain ⟨htransact, -⟩ := (Operation.perform_eq_ok_iff h).mp hok
  cases op with
  | step v dt | stepDefault v dt =>
      obtain rfl : v = w := of_decide_eq_true hop
      obtain ⟨snapshot, hstep, rfl⟩ := Transaction.map_eq_ok htransact
      obtain ⟨world, hw, rfl, -⟩ := Registry.step_eq_ok hstep
      exact ⟨_, rfl, capture_reports hsound hw⟩
  | _ => cases hop

/-- In every simulator that operations lead to, the registry and the engines agree on what there is;
and every step that is not refused answers the poses of just the bodies there are. -/
theorem corresponds_of_reachable {s : Simulator} (h : s.Reachable) :
    (∀ w world, s.registry.worlds.get? w = some world → s.registry.Corresponds w world) ∧
      ∀ (op : Operation) (w : Handle .world) (outcome : Outcome) (s' : Simulator),
        op.isStepOf w → op.perform s = (.ok outcome, s') →
          ∃ snapshot, outcome = .snapshot snapshot ∧ snapshot.Reports s' w := by
  refine ⟨?_, ?_⟩
  · intro w world hw
    exact h.sound.corresponds hw
  · intro op w outcome s' hop hok
    exact step_reports h.sound hop hok

theorem corresponds_sample :
    (∃ world, Simulator.sample.registry.worlds.get? ⟨0⟩ = some world ∧
      Simulator.sample.registry.Corresponds ⟨0⟩ world) ∧
    ∃ snapshot s', (Operation.step ⟨0⟩ 0 8 3).perform .sample = (.ok (.snapshot snapshot), s') ∧
      snapshot.Reports s' ⟨0⟩ := by
  obtain ⟨hcorresponds, hreports⟩ := corresponds_of_reachable Simulator.reachable_sample
  have hworld : Simulator.sample.registry.worlds.contains ⟨0⟩ = true := by decide +kernel
  have hstep : ((Operation.step ⟨0⟩ 0 8 3).perform .sample).1.toOption.isSome = true := by
    decide +kernel
  refine ⟨?_, ?_⟩
  · obtain ⟨world, hw⟩ := HandleTable.contains_iff.mp hworld
    exact ⟨world, hw, hcorresponds ⟨0⟩ world hw⟩
  · cases hperform : (Operation.step ⟨0⟩ 0 8 3).perform .sample with
    | mk result s' =>
        rw [hperform] at hstep
        cases result with
        | error e => cases hstep
        | ok outcome =>
            obtain ⟨snapshot, rfl, hsnapshot⟩ := hreports _ ⟨0⟩ outcome s' rfl hperform
            exact ⟨snapshot, s', rfl, hsnapshot⟩

end RigidWorlds
