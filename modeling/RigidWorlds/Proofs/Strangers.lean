import RigidWorlds.Proofs.Materials
import RigidWorlds.Proofs.Pairs

/-!
The colliders of a pair are strangers: they are attached to different bodies.  So it is when a pair
is found, and it stays so while the pair is kept, even if a collider goes and its slot is used
again, since the key in the pair does not find the collider that comes.
-/

namespace RigidWorlds.Engine

/-- Each pair of a list is of keys that were given out and, as far as these still find something, of
things attached to different bodies.  The arena keeps what everything is attached to. -/
structure Estranged (parents : Arena Key) (pairs : List Pair) : Prop where
  wellFormed : parents.WellFormed
  dated : parents.Dated
  issued : ∀ p ∈ pairs, parents.Issued p.first ∧ parents.Issued p.second
  apart : ∀ p ∈ pairs, ∀ body body', parents.get? p.first = some body →
    parents.get? p.second = some body' → body ≠ body'

/-- Both keys of each pair find something, and what they find is attached to different bodies. -/
def Severed (parents : Arena Key) (pairs : List Pair) : Prop :=
  ∀ p ∈ pairs, ∃ body body', parents.get? p.first = some body ∧
    parents.get? p.second = some body' ∧ body ≠ body'

namespace Estranged

variable {parents : Arena Key} {pairs pairs' : List Pair}

theorem empty : Estranged .empty [] :=
  ⟨Arena.wellFormed_empty, Arena.dated_empty, nofun, nofun⟩

theorem replace (h : Estranged parents pairs) (hfound : Severed parents pairs') :
    Estranged parents pairs' := by
  refine ⟨h.wellFormed, h.dated, ?_, ?_⟩
  · intro p hp
    obtain ⟨body, body', hfirst, hsecond, -⟩ := hfound p hp
    exact ⟨.inr ⟨body, hfirst⟩, .inr ⟨body', hsecond⟩⟩
  · intro p hp one two hone htwo
    obtain ⟨body, body', hfirst, hsecond, hne⟩ := hfound p hp
    obtain rfl := Option.some.inj (hone.symm.trans hfirst)
    obtain rfl := Option.some.inj (htwo.symm.trans hsecond)
    exact hne

theorem insert (h : Estranged parents pairs) (body : Key) :
    Estranged (parents.insert body).2 pairs := by
  -- What is put in has a key that no pair has.
  have hold : ∀ {key : Key}, parents.Issued key →
      (parents.insert body).2.get? key = parents.get? key := by
    intro key hkey
    rw [Arena.get?_insert h.wellFormed, if_neg]
    rintro rfl
    exact Arena.not_issued_insert_key h.wellFormed body hkey
  refine ⟨h.wellFormed.insert body, h.dated.insert h.wellFormed body, ?_, ?_⟩
  · intro p hp
    obtain ⟨hfirst, hsecond⟩ := h.issued p hp
    exact ⟨hfirst.insert h.wellFormed body, hsecond.insert h.wellFormed body⟩
  · intro p hp
    obtain ⟨hfirst, hsecond⟩ := h.issued p hp
    rw [hold hfirst, hold hsecond]
    exact h.apart p hp

theorem remove (h : Estranged parents pairs) (key : Key) :
    Estranged (parents.remove key) pairs := by
  have hold : ∀ {other body : Key}, (parents.remove key).get? other = some body →
      parents.get? other = some body := by
    intro other body hother
    rw [Arena.get?_remove] at hother
    split at hother
    · cases hother
    · exact hother
  refine ⟨h.wellFormed.remove key, h.dated.remove key, ?_, ?_⟩
  · intro p hp
    obtain ⟨hfirst, hsecond⟩ := h.issued p hp
    exact ⟨hfirst.remove h.dated key, hsecond.remove h.dated key⟩
  · intro p hp body body' hfirst hsecond
    exact h.apart p hp body body' (hold hfirst) (hold hsecond)

theorem foldl_remove (h : Estranged parents pairs) (keys : List Key) :
    Estranged (keys.foldl Arena.remove parents) pairs := by
  induction keys generalizing parents with
  | nil => exact h
  | cons key keys ih => exact ih (h.remove key)

end Estranged

namespace Placed

theorem parents_ne_of_pair? {dt : Float32} {before : List Pair} {fresh : Placed → Bool}
    {p q : Placed} {pair : Pair} (h : pair? dt before fresh p q = some pair) :
    p.collider.parent ≠ q.collider.parent := by
  unfold pair? at h
  dsimp only at h
  split at h
  · rename_i hclose
    exact hclose.1
  · cases h

end Placed

namespace World

/-- The bodies that colliders are attached to. -/
def attachments (w : World) : Arena Key := w.colliders.map fun _ c => c.parent

theorem attachments_congr {v w : World} (h : v.colliders = w.colliders) :
    v.attachments = w.attachments := by
  rw [attachments, h, attachments]

theorem attachments_lasting (w : World) : w.lasting.attachments = w.attachments := by
  simp only [attachments, lasting, Arena.map_map]
  rfl

theorem attachments_of_lasting_eq {v w : World} (h : v.lasting = w.lasting) :
    v.attachments = w.attachments := by
  rw [← attachments_lasting, h, attachments_lasting]

theorem collider_of_mem_placed {w : World} {known : Key → Bool} {p : Placed}
    (h : p ∈ w.placed known) : w.colliders.get? p.key = some p.collider := by
  unfold placed at h
  dsimp only at h
  rw [List.mem_mergeSort, List.mem_filterMap] at h
  obtain ⟨⟨key, collider⟩, hmem, hp⟩ := h
  dsimp only at hp
  split at hp
  · split at hp
    · rw [← Option.some.inj hp]
      exact Arena.mem_toList.mp hmem
    · cases hp
  · cases hp

theorem severed_findPairs (w : World) (dt : Float32) (fresh : Placed → Bool) :
    Severed w.attachments (w.findPairs dt fresh).pairs := by
  intro pair hpair
  have hentered : (w.stirred.foldl enter w).attachments = w.attachments :=
    attachments_of_lasting_eq (lasting_eq_of_enduring_eq (enduring_foldl enduring_enter _ w))
  obtain ⟨p, hp, q, hq, hpq⟩ := Placed.mem_pairs (mem_found_of_mem_findPairs hpair)
  obtain ⟨hfirst, hsecond⟩ := Prod.mk.inj (Placed.keys_pair? hpq)
  have hparent : ∀ {known : Key → Bool} {p : Placed}, p ∈ (w.stirred.foldl enter w).placed known →
      w.attachments.get? p.key = some p.collider.parent := by
    intro known p hp
    rw [← hentered, attachments, Arena.get?_map, collider_of_mem_placed hp, Option.map_some]
  refine ⟨p.collider.parent, q.collider.parent, ?_, ?_, Placed.parents_ne_of_pair? hpq⟩
  · rw [hfirst, hparent hp]
  · rw [hsecond, hparent hq]

theorem severed_advance (w : World) (dt : Float32)
    (velocityIterations positionIterations : UInt32) :
    Severed w.attachments (w.advance dt velocityIterations positionIterations).pairs := by
  have hmoved : ∀ (course : Course),
      ((((w.prepare dt).updateRest dt).settle dt course).mapBodies
        fun _ b => b.glide dt).attachments = w.attachments := by
    intro course
    refine attachments_of_lasting_eq (lasting_eq_of_enduring_eq ?_)
    rw [enduring_mapBodies _ (by simp), enduring_settle, enduring_updateRest, enduring_prepare]
  have hcleared : ∀ v : World, Severed w.attachments v.pairs →
      Severed w.attachments
        (if w.settings.autoClearForces then v.clearForces else v).recenter.pairs := by
    intro v hv
    split <;> exact hv
  exact hcleared _ (hmoved _ ▸ severed_findPairs _ dt Placed.isMoved)

theorem attachments_setMaterial (w : World) (key : Key) (material : Material) :
    (w.setMaterial key material).attachments = w.attachments := by
  have hreplaced : ∀ f : Collider → Collider, (∀ c, (f c).parent = c.parent) →
      { w with colliders := w.colliders.modify key f }.attachments = w.attachments := by
    intro f hf
    simp only [attachments, Arena.modify, Arena.map_map]
    apply Arena.map_congr
    intro k c
    split
    · exact hf c
    · rfl
  unfold setMaterial
  split
  · rfl
  · dsimp only
    split
    · refine (attachments_congr (colliders_stir ..)).trans (hreplaced _ ?_)
      exact fun _ => rfl
    · refine (attachments_congr ((colliders_changeBody ..).trans (colliders_stir ..))).trans
        (hreplaced _ ?_)
      exact fun _ => rfl

theorem attachments_removeCollider (w : World) (key : Key) :
    (w.removeCollider key).attachments = w.attachments.remove key := by
  unfold removeCollider
  split
  · rename_i hnone
    rw [Arena.remove_of_none]
    rw [attachments, Arena.get?_map, hnone, Option.map_none]
  · exact (attachments_congr (colliders_changeBody ..)).trans (Arena.map_remove ..)

theorem exists_attachments_removeBody (w : World) (key : Key) :
    ∃ keys : List Key, (w.removeBody key).attachments = keys.foldl Arena.remove w.attachments := by
  unfold removeBody
  split
  · exact ⟨[], rfl⟩
  · rename_i body _
    exact ⟨body.colliders,
      (attachments_congr (colliders_foldl_removeSpring ..)).trans (Arena.map_foldl_remove ..)⟩

theorem attachments_insertCollider (w : World) (solid : Solid) (material : Material) (tag : Nat)
    (parent : Key) :
    (w.insertCollider solid material tag parent).2.attachments =
      (w.attachments.insert parent).2 := by
  have hinsert := Arena.map_insert (fun _ c => c.parent) w.colliders
    (Collider.create solid material tag parent)
  unfold insertCollider
  rw [attachments_congr (colliders_changeBody ..), attachments_congr (colliders_stir ..)]
  exact (congrArg Prod.snd hinsert).symm

theorem invariant_estranged : Invariant fun w => Estranged w.attachments w.pairs where
  create _ _ := .empty
  change change _ h := by cases change <;> exact h
  advance dt velocityIterations positionIterations w h := by
    rw [attachments_of_lasting_eq (lasting_advance w dt velocityIterations positionIterations)]
    exact h.replace (severed_advance w dt velocityIterations positionIterations)
  changeBody key f w h := by
    rw [attachments_congr (colliders_changeBody ..), pairs_changeBody]
    exact h
  insertBody kind place tag w h := by
    unfold insertBody
    rw [attachments_congr (colliders_touch ..), pairs_touch]
    exact h
  removeBody key w h := by
    obtain ⟨keys, hkeys⟩ := exists_attachments_removeBody w key
    rw [hkeys, pairs_removeBody]
    exact h.foldl_remove keys
  insertCollider solid material tag parent w h := by
    rw [attachments_insertCollider]
    exact ((pairs_changeBody ..).trans (pairs_stir ..)).symm ▸ h.insert parent
  removeCollider key w h := by
    rw [attachments_removeCollider, pairs_removeCollider]
    exact h.remove key
  setMaterial key material w h := by
    rw [attachments_setMaterial, pairs_setMaterial]
    exact h
  insertSpring _ _ h := h
  removeSpring key w h := by
    rw [attachments_congr (colliders_removeSpring ..), pairs_removeSpring]
    exact h

end World

end RigidWorlds.Engine
