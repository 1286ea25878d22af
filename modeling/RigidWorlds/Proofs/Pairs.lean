import Mathlib.Data.List.Nodup
import RigidWorlds.Proofs.Correspondence
import RigidWorlds.Proofs.Invariant

/-!
Pairs of close colliders.  A world keeps no pair twice, not even with its colliders in the other
order, so contact lists mention no two fixtures twice.
-/

namespace RigidWorlds

theorem nodup_map_filterMap {α β γ : Type} {f : α → Option β} {g : α → γ} {h : β → γ}
    (hf : ∀ a b, f a = some b → h b = g a) {l : List α} (hl : (l.map g).Nodup) :
    ((l.filterMap f).map h).Nodup := by
  rw [List.nodup_iff_pairwise_ne, List.pairwise_map] at hl
  rw [List.nodup_iff_pairwise_ne, List.pairwise_map, List.pairwise_filterMap]
  refine hl.imp ?_
  intro a a' hne b hb b' hb' heq
  exact hne ((hf a b hb).symm.trans (heq.trans (hf a' b' hb')))

namespace Engine

namespace Pair

def keys (p : Pair) : Key × Key := (p.first, p.second)

theorem joins_iff {p : Pair} {first second : Key} :
    p.joins first second = true ↔ p.keys = (first, second) := by
  simp [joins, keys]

theorem find?_joins {pairs : List Pair} {first second : Key} {pair : Pair}
    (h : pairs.find? (·.joins first second) = some pair) :
    pair ∈ pairs ∧ pair.keys = (first, second) := by
  have hjoins := List.find?_some h
  exact ⟨List.mem_of_find?_eq_some h, joins_iff.mp hjoins⟩

/-- No two pairs are of the same colliders. -/
structure Distinct (pairs : List Pair) : Prop where
  once : (pairs.map keys).Nodup
  /-- Neither are they if the order of the colliders is left aside. -/
  apart : ∀ p ∈ pairs, ∀ q ∈ pairs, p.keys ≠ q.keys.swap

theorem distinct_nil : Distinct [] := ⟨List.nodup_nil, nofun⟩

theorem Distinct.of_keys {pairs pairs' : List Pair} (h : Distinct pairs)
    (hkeys : pairs'.map keys = pairs.map keys) : Distinct pairs' := by
  have hmem : ∀ p ∈ pairs', ∃ q ∈ pairs, q.keys = p.keys := by
    intro p hp
    rw [← List.mem_map, ← hkeys]
    exact List.mem_map_of_mem hp
  refine ⟨hkeys ▸ h.once, ?_⟩
  intro p hp q hq
  obtain ⟨p', hp', hpkeys⟩ := hmem p hp
  obtain ⟨q', hq', hqkeys⟩ := hmem q hq
  rw [← hpkeys, ← hqkeys]
  exact h.apart p' hp' q' hq'

end Pair

theorem Pair.Distinct.perm {pairs pairs' : List Pair} (h : Pair.Distinct pairs)
    (hperm : pairs'.Perm pairs) : Pair.Distinct pairs' := by
  refine ⟨(hperm.map Pair.keys).nodup_iff.mpr h.once, ?_⟩
  intro p hp q hq
  exact h.apart p (hperm.mem_iff.mp hp) q (hperm.mem_iff.mp hq)

namespace Placed

theorem keys_pair? {dt : Float32} {before : List Pair} {fresh : Placed → Bool} {p q : Placed}
    {pair : Pair} (h : pair? dt before fresh p q = some pair) : pair.keys = (p.key, q.key) := by
  unfold pair? at h
  dsimp only at h
  split at h
  · split at h
    · rename_i known hknown
      have hkeys := (Pair.find?_joins hknown).2
      split at h
      · obtain rfl := Option.some.inj h
        exact hkeys
      · obtain rfl := Option.some.inj (hknown.symm.trans h)
        exact hkeys
    · obtain rfl := Option.some.inj h
      rfl
  · cases h

variable {f : Placed → Placed → Option Pair}

theorem mem_pairs {placed : List Placed} {pair : Pair} (h : pair ∈ pairs f placed) :
    ∃ p ∈ placed, ∃ q ∈ placed, f p q = some pair := by
  induction placed with
  | nil => cases h
  | cons p rest ih =>
      rcases List.mem_append.mp h with hfirst | hrest
      · obtain ⟨q, hq, hpair⟩ := List.mem_filterMap.mp hfirst
        exact ⟨p, List.mem_cons_self, q, List.mem_cons_of_mem p hq, hpair⟩
      · obtain ⟨one, hone, two, htwo, hpair⟩ := ih hrest
        exact ⟨one, List.mem_cons_of_mem p hone, two, List.mem_cons_of_mem p htwo, hpair⟩

theorem mem_keys_of_mem_pairs (hf : ∀ p q pair, f p q = some pair → pair.keys = (p.key, q.key))
    {placed : List Placed} {pair : Pair} (h : pair ∈ pairs f placed) :
    pair.first ∈ placed.map key ∧ pair.second ∈ placed.map key := by
  obtain ⟨p, hp, q, hq, hpair⟩ := mem_pairs h
  obtain ⟨hfirst, hsecond⟩ := Prod.mk.inj (hf p q pair hpair)
  exact ⟨hfirst ▸ List.mem_map_of_mem hp, hsecond ▸ List.mem_map_of_mem hq⟩

theorem distinct_pairs (hf : ∀ p q pair, f p q = some pair → pair.keys = (p.key, q.key))
    {placed : List Placed} (h : (placed.map key).Nodup) : Pair.Distinct (pairs f placed) := by
  induction placed with
  | nil => exact Pair.distinct_nil
  | cons p rest ih =>
      rw [List.map_cons, List.nodup_cons] at h
      obtain ⟨hnew, hrest⟩ := h
      obtain ⟨honce, hapart⟩ := ih hrest
      have hfirst : ∀ pair ∈ rest.filterMap (f p),
          pair.first = p.key ∧ pair.second ∈ rest.map key := by
        intro pair hpair
        obtain ⟨q, hq, hpair⟩ := List.mem_filterMap.mp hpair
        obtain ⟨hp, hq'⟩ := Prod.mk.inj (hf p q pair hpair)
        exact ⟨hp, hq' ▸ List.mem_map_of_mem hq⟩
      have hothers : ∀ pair ∈ pairs f rest,
          pair.first ∈ rest.map key ∧ pair.second ∈ rest.map key :=
        fun pair hpair => mem_keys_of_mem_pairs hf hpair
      constructor
      · rw [pairs, List.map_append, List.nodup_append]
        refine ⟨?_, honce, ?_⟩
        · refine List.Nodup.of_map Prod.snd ?_
          rw [List.map_map]
          exact nodup_map_filterMap (fun q pair hpair => congrArg Prod.snd (hf p q pair hpair))
            hrest
        · intro keys hkeys keys' hkeys' heq
          obtain ⟨pair, hpair, rfl⟩ := List.mem_map.mp hkeys
          obtain ⟨pair', hpair', rfl⟩ := List.mem_map.mp hkeys'
          apply hnew
          rw [← (hfirst pair hpair).1, (Prod.mk.inj heq).1]
          exact (hothers pair' hpair').1
      · -- The second collider is never the one that is searched first.
        intro pair hpair pair' hpair' heq
        obtain ⟨hone, htwo⟩ : pair.first = pair'.second ∧ pair.second = pair'.first :=
          Prod.mk.inj heq
        rcases List.mem_append.mp hpair with hin | hin <;>
          rcases List.mem_append.mp hpair' with hin' | hin'
        · exact hnew ((hfirst pair hin).1 ▸ hone ▸ (hfirst pair' hin').2)
        · exact hnew ((hfirst pair hin).1 ▸ hone ▸ (hothers pair' hin').2)
        · exact hnew ((hfirst pair' hin').1 ▸ htwo ▸ (hothers pair hin).2)
        · exact hapart pair hin pair' hin' heq

end Placed

namespace World

variable {w : World}

theorem distinct_ordered {before found : List Pair} (hbefore : (before.map Pair.keys).Nodup)
    (hfound : Pair.Distinct found) :
    Pair.Distinct ((before.filterMap fun p => found.find? (·.joins p.first p.second)) ++
      found.filter fun p => !before.any (·.joins p.first p.second)) := by
  have hlasting : ∀ p pair : Pair, found.find? (·.joins p.first p.second) = some pair →
      pair ∈ found ∧ pair.keys = p.keys :=
    fun _ _ hpair => Pair.find?_joins hpair
  have hmem : ∀ pair ∈ (before.filterMap fun p => found.find? (·.joins p.first p.second)) ++
      found.filter fun p => !before.any (·.joins p.first p.second), pair ∈ found := by
    intro pair hpair
    rcases List.mem_append.mp hpair with hold | hnew
    · obtain ⟨p, -, hp⟩ := List.mem_filterMap.mp hold
      exact (hlasting p pair hp).1
    · exact (List.mem_filter.mp hnew).1
  constructor
  · rw [List.map_append, List.nodup_append]
    refine ⟨?_, (List.filter_sublist.map _).nodup hfound.once, ?_⟩
    · exact nodup_map_filterMap (fun p pair hpair => (hlasting p pair hpair).2) hbefore
    · intro keys hkeys keys' hkeys' heq
      obtain ⟨pair, hpair, rfl⟩ := List.mem_map.mp hkeys
      obtain ⟨pair', hpair', rfl⟩ := List.mem_map.mp hkeys'
      obtain ⟨p, hp, hfind⟩ := List.mem_filterMap.mp hpair
      have hnot := (List.mem_filter.mp hpair').2
      have hjoins : p.joins pair'.first pair'.second = true :=
        Pair.joins_iff.mpr ((hlasting p pair hfind).2.symm.trans heq)
      rw [List.any_eq_true.mpr ⟨p, hp, hjoins⟩] at hnot
      cases hnot
  · intro pair hpair pair' hpair'
    exact hfound.apart pair (hmem pair hpair) pair' (hmem pair' hpair')

theorem nodup_keys_placed (w : World) (known : Key → Bool) :
    ((w.placed known).map Placed.key).Nodup := by
  rw [placed, ((List.mergeSort_perm _ _).map Placed.key).nodup_iff]
  refine nodup_map_filterMap (g := (·.1)) ?_ w.colliders.nodup_keys
  rintro ⟨key, collider⟩ p hp
  dsimp only at hp
  split at hp
  · split at hp
    · rw [← Option.some.inj hp]
    · cases hp
  · cases hp

/-- The pairs that are found in a search, whether they were there before or not. -/
def found (w : World) (dt : Float32) (fresh : Placed → Bool) : List Pair :=
  Placed.pairs (Placed.pair? dt w.pairs fresh)
    ((w.stirred.foldl enter w).placed fun key => (w.colliders.get? key).any (·.entry.isSome))

theorem pairs_findPairs_perm (w : World) (dt : Float32) (fresh : Placed → Bool) :
    (w.findPairs dt fresh).pairs.Perm
      ((w.pairs.filterMap fun p => (w.found dt fresh).find? (·.joins p.first p.second)) ++
        (w.found dt fresh).filter fun p => !w.pairs.any (·.joins p.first p.second)) := by
  unfold findPairs
  dsimp only [rouse, mapBodies]
  rw [List.partition_eq_filter_filter]
  exact List.perm_append_comm.trans (List.filter_append_perm _ _)

theorem mem_found_of_mem_findPairs {dt : Float32} {fresh : Placed → Bool} {pair : Pair}
    (h : pair ∈ (w.findPairs dt fresh).pairs) : pair ∈ w.found dt fresh := by
  rcases List.mem_append.mp ((pairs_findPairs_perm w dt fresh).mem_iff.mp h) with hold | hnew
  · obtain ⟨before, -, hfind⟩ := List.mem_filterMap.mp hold
    exact List.mem_of_find?_eq_some hfind
  · exact (List.mem_filter.mp hnew).1

theorem distinct_findPairs (h : Pair.Distinct w.pairs) (dt : Float32) (fresh : Placed → Bool) :
    Pair.Distinct (w.findPairs dt fresh).pairs := by
  have hfound : Pair.Distinct (w.found dt fresh) :=
    Placed.distinct_pairs (fun _ _ _ => Placed.keys_pair?) (nodup_keys_placed ..)
  exact (distinct_ordered h.once hfound).perm (pairs_findPairs_perm w dt fresh)

theorem pairs_foldl {α : Type} {f : World → α → World} (hf : ∀ w a, (f w a).pairs = w.pairs)
    (l : List α) (w : World) : (l.foldl f w).pairs = w.pairs := by
  induction l generalizing w with
  | nil => rfl
  | cons a l ih => rw [List.foldl_cons, ih, hf]

theorem pairs_touch (w : World) (key : Key) : (w.touch key).pairs = w.pairs := by
  unfold touch
  split <;> rfl

theorem pairs_stir (w : World) (key : Key) : (w.stir key).pairs = w.pairs := by
  unfold stir
  split <;> rfl

theorem pairs_changeBody (w : World) (key : Key) (f : Body → Body) :
    (w.changeBody key f).pairs = w.pairs := pairs_touch ..

theorem pairs_removeCollider (w : World) (key : Key) :
    (w.removeCollider key).pairs = w.pairs := by
  unfold removeCollider
  split
  · rfl
  · exact pairs_changeBody ..

theorem pairs_setMaterial (w : World) (key : Key) (material : Material) :
    (w.setMaterial key material).pairs = w.pairs := by
  unfold setMaterial
  split
  · rfl
  · dsimp only
    split
    · exact pairs_stir ..
    · exact (pairs_changeBody ..).trans (pairs_stir ..)

theorem pairs_removeSpring (w : World) (key : Key) : (w.removeSpring key).pairs = w.pairs := by
  unfold removeSpring
  split <;> rfl

theorem pairs_removeBody (w : World) (key : Key) : (w.removeBody key).pairs = w.pairs := by
  unfold removeBody
  split
  · rfl
  · exact pairs_foldl pairs_removeSpring _ _

theorem pairs_takeChange (w : World) (key : Key) : (w.takeChange key).pairs = w.pairs := by
  unfold takeChange
  split
  · rfl
  · dsimp only
    split
    · exact pairs_foldl pairs_stir _ _
    · rfl

theorem pairs_takeChanges (w : World) : w.takeChanges.pairs = w.pairs :=
  pairs_foldl pairs_takeChange _ _

theorem keys_settlePair (contacts : List ContactConstraint) (p : Pair) :
    (settlePair contacts p).keys = p.keys := by
  unfold settlePair
  split <;> rfl

theorem distinct_settle (h : Pair.Distinct w.pairs) (dt : Float32) (course : Course) :
    Pair.Distinct (w.settle dt course).pairs := by
  refine h.of_keys ?_
  show (w.pairs.map (settlePair course.contacts)).map Pair.keys = _
  rw [List.map_map]
  exact List.map_congr_left fun p _ => keys_settlePair course.contacts p

theorem distinct_advance (h : Pair.Distinct w.pairs) (dt : Float32)
    (velocityIterations positionIterations : UInt32) :
    Pair.Distinct (w.advance dt velocityIterations positionIterations).pairs := by
  have hprepared : Pair.Distinct (w.prepare dt).pairs := by
    refine distinct_findPairs ?_ dt Placed.isChanged
    show Pair.Distinct w.takeChanges.pairs
    rw [pairs_takeChanges]
    exact h
  have hmoved : ∀ course : Course, Pair.Distinct
      ((((w.prepare dt).updateRest dt).settle dt course).mapBodies fun _ b => b.glide dt).pairs :=
    fun course => distinct_settle hprepared dt course
  have hcleared : ∀ v : World, Pair.Distinct v.pairs →
      Pair.Distinct (if w.settings.autoClearForces then v.clearForces else v).recenter.pairs := by
    intro v hv
    split <;> exact hv
  exact hcleared _ (distinct_findPairs (hmoved _) dt Placed.isMoved)

theorem invariant_distinct : Invariant fun w => Pair.Distinct w.pairs where
  create _ _ := Pair.distinct_nil
  change change _ h := by cases change <;> exact h
  advance dt velocityIterations positionIterations _ h :=
    distinct_advance h dt velocityIterations positionIterations
  changeBody key f w h := (pairs_changeBody w key f).symm ▸ h
  insertBody _ _ _ w h := (pairs_touch ..).symm ▸ h
  removeBody key w h := (pairs_removeBody w key).symm ▸ h
  insertCollider _ _ _ _ w h := ((pairs_changeBody ..).trans (pairs_stir ..)).symm ▸ h
  removeCollider key w h := (pairs_removeCollider w key).symm ▸ h
  setMaterial key material w h := (pairs_setMaterial w key material).symm ▸ h
  insertSpring _ _ h := h
  removeSpring key w h := (pairs_removeSpring w key).symm ▸ h

end World

end Engine

open Engine

namespace Registry.Corresponds

variable {r : Registry} {w : Handle .world} {world : World}

theorem of_fixtureOf? (h : r.Corresponds w world) {key : Key} {f : Handle .fixture}
    (hf : world.fixtureOf? key = some f) :
    ∃ rec, (r.slice w).fixtures f = some rec ∧ rec.native = key := by
  obtain ⟨collider, hcollider, htag⟩ := Option.bind_eq_some_iff.mp hf
  obtain ⟨g, rec, hrec, rfl⟩ := h.fixtures.covered hcollider
  obtain ⟨found, hfound, hfits, -⟩ := h.fixtures.present hrec
  obtain rfl := Option.some.inj (hfound.symm.trans hcollider)
  rw [hfits, Handle.ofTag?_tag] at htag
  obtain rfl := Option.some.inj htag
  exact ⟨rec, hrec, rfl⟩

theorem fixtureOf?_injective (h : r.Corresponds w world) {key key' : Key} {f : Handle .fixture}
    (hf : world.fixtureOf? key = some f) (hf' : world.fixtureOf? key' = some f) : key = key' := by
  obtain ⟨rec, hrec, rfl⟩ := h.of_fixtureOf? hf
  obtain ⟨rec', hrec', rfl⟩ := h.of_fixtureOf? hf'
  rw [Option.some.inj (hrec.symm.trans hrec')]

end Registry.Corresponds

theorem Engine.World.mem_contactList {world : World} {p : Pair} {c : FixtureContact}
    (h : (do
      let first ← world.fixtureOf? p.first
      let second ← world.fixtureOf? p.second
      return (⟨first, second, p.touching⟩ : FixtureContact)) = some c) :
    world.fixtureOf? p.first = some c.first ∧ world.fixtureOf? p.second = some c.second := by
  obtain ⟨first, hfirst, hrest⟩ := Option.bind_eq_some_iff.mp h
  obtain ⟨second, hsecond, hc⟩ := Option.bind_eq_some_iff.mp hrest
  obtain rfl := Option.some.inj hc
  exact ⟨hfirst, hsecond⟩

theorem Registry.Corresponds.distinct_contacts {r : Registry} {w : Handle .world} {world : World}
    (h : r.Corresponds w world) (hpairs : Pair.Distinct world.pairs) :
    (world.contactList.contacts.map fun c => (c.first, c.second)).Nodup ∧
      ∀ c ∈ world.contactList.contacts, c.first ≠ c.second := by
  constructor
  · rw [List.nodup_iff_pairwise_ne, List.pairwise_map, Engine.World.contactList,
      List.pairwise_filterMap]
    refine (List.pairwise_map.mp (List.nodup_iff_pairwise_ne.mp hpairs.once)).imp ?_
    intro p q hne c hc d hd heq
    obtain ⟨hfirst, hsecond⟩ := Engine.World.mem_contactList hc
    obtain ⟨hfirst', hsecond'⟩ := Engine.World.mem_contactList hd
    obtain ⟨hone, htwo⟩ : c.first = d.first ∧ c.second = d.second := Prod.mk.inj heq
    apply hne
    exact Prod.ext (h.fixtureOf?_injective hfirst (hone ▸ hfirst'))
      (h.fixtureOf?_injective hsecond (htwo ▸ hsecond'))
  · intro c hmem heq
    obtain ⟨p, hp, hc⟩ := List.mem_filterMap.mp hmem
    obtain ⟨hfirst, hsecond⟩ := Engine.World.mem_contactList hc
    have hkey : p.first = p.second := h.fixtureOf?_injective hfirst (heq ▸ hsecond)
    exact hpairs.apart p hp p hp (Prod.ext hkey hkey.symm)

end RigidWorlds
