import RigidWorlds.Engine.Arena

/-!
Arenas as finite maps from keys to items: what every operation does to the items that keys find,
and why an item that is put in never takes the place of another one.
-/

namespace RigidWorlds.Engine

theorem eraseSwapping_of_notMem {α : Type} [DecidableEq α] {l : List α} {x : α} (h : x ∉ l) :
    eraseSwapping l x = l := by
  simp [eraseSwapping, List.idxOf?_eq_none_iff.mpr h]

theorem idxOf?_append_cons {α : Type} [DecidableEq α] {front rest : List α} {x : α}
    (h : x ∉ front) : (front ++ x :: rest).idxOf? x = some front.length := by
  rw [List.idxOf?_eq_some_iff]
  refine ⟨by simp, by simp, ?_⟩
  intro j hj heq
  rw [List.getElem_append_left hj] at heq
  exact h (heq ▸ List.getElem_mem hj)

theorem eraseSwapping_perm {α : Type} [DecidableEq α] (l : List α) (x : α) :
    (eraseSwapping l x).Perm (l.erase x) := by
  by_cases hx : x ∈ l
  · obtain ⟨front, rest, rfl, hfront⟩ := List.eq_append_cons_of_mem hx
    rw [List.erase_append_right _ hfront, List.erase_cons_head]
    rcases List.eq_nil_or_concat rest with rfl | ⟨middle, last, rfl⟩
    · simp [eraseSwapping, idxOf?_append_cons hfront]
    · rw [List.concat_eq_append]
      have hlast : (front ++ x :: (middle ++ [last])).getLast? = some last := by
        rw [← List.cons_append, ← List.append_assoc, List.getLast?_concat]
      have hswap : eraseSwapping (front ++ x :: (middle ++ [last])) x =
          front ++ last :: middle := by
        simp only [eraseSwapping, idxOf?_append_cons hfront, hlast]
        rw [List.set_append_right _ _ (Nat.le_refl _), Nat.sub_self, List.set_cons_zero]
        rw [← List.cons_append, ← List.append_assoc, List.dropLast_concat]
      rw [hswap]
      exact (@List.perm_append_comm _ [last] _).append_left front
  · rw [eraseSwapping_of_notMem hx, List.erase_of_not_mem hx]

theorem mem_eraseSwapping {α : Type} [DecidableEq α] {l : List α} (h : l.Nodup) {x y : α} :
    y ∈ eraseSwapping l x ↔ y ≠ x ∧ y ∈ l := by
  rw [(eraseSwapping_perm l x).mem_iff, h.mem_erase_iff]

theorem nodup_eraseSwapping {α : Type} [DecidableEq α] {l : List α} (h : l.Nodup) (x : α) :
    (eraseSwapping l x).Nodup :=
  (eraseSwapping_perm l x).nodup_iff.mpr (h.erase x)

namespace Arena

variable {α β γ : Type}

theorem getElem?_slots_map (f : Key → α → β) (a : Arena α) (slot : Nat) :
    (a.map f).slots[slot]? =
      a.slots[slot]?.map (Option.map fun e => ⟨e.generation, f ⟨slot, e.generation⟩ e.item⟩) := by
  simp only [map, List.getElem?_map, List.getElem?_zipIdx, Option.map_map]
  cases a.slots[slot]? with
  | none => rfl
  | some entry => cases entry <;> simp

theorem length_slots_map (f : Key → α → β) (a : Arena α) :
    (a.map f).slots.length = a.slots.length := by
  simp [map]

theorem ext_slots {a b : Arena α} (hslots : ∀ slot : Nat, a.slots[slot]? = b.slots[slot]?)
    (hfree : a.free = b.free) (hgeneration : a.generation = b.generation) : a = b := by
  cases a
  cases b
  simp only [mk.injEq]
  exact ⟨List.ext_getElem? hslots, hfree, hgeneration⟩

theorem get?_eq_some_iff {a : Arena α} {key : Key} {item : α} :
    a.get? key = some item ↔ a.occupant? key.slot = some ⟨key.generation, item⟩ := by
  unfold get?
  constructor
  · intro h
    split at h
    · rename_i e he
      split at h
      · rename_i hgeneration
        rw [he, ← hgeneration, ← Option.some.inj h]
      · simp at h
    · simp at h
  · intro h
    simp [h]

theorem get?_congr {a b : Arena α} {key : Key} (h : a.occupant? key.slot = b.occupant? key.slot) :
    a.get? key = b.get? key := by
  simp only [get?, h]

theorem get?_empty (key : Key) : (empty : Arena α).get? key = none := rfl

theorem occupant?_map (f : Key → α → β) (a : Arena α) (slot : Nat) :
    (a.map f).occupant? slot =
      (a.occupant? slot).map fun e => ⟨e.generation, f ⟨slot, e.generation⟩ e.item⟩ := by
  simp only [occupant?, getElem?_slots_map]
  cases a.slots[slot]? <;> rfl

theorem get?_map (f : Key → α → β) (a : Arena α) (key : Key) :
    (a.map f).get? key = (a.get? key).map (f key) := by
  apply Option.ext
  intro item
  rw [get?_eq_some_iff, occupant?_map, Option.map_eq_some_iff, Option.map_eq_some_iff]
  constructor
  · rintro ⟨⟨generation, original⟩, he, heq⟩
    obtain ⟨rfl, hitem⟩ := Entry.mk.inj heq
    exact ⟨original, get?_eq_some_iff.mpr he, hitem⟩
  · rintro ⟨original, hitem, rfl⟩
    exact ⟨_, get?_eq_some_iff.mp hitem, rfl⟩

theorem get?_modify (a : Arena α) (key : Key) (f : α → α) (k : Key) :
    (a.modify key f).get? k = if k = key then (a.get? k).map f else a.get? k := by
  rw [modify, get?_map]
  split
  · rfl
  · exact Option.map_id'

theorem map_map (f : Key → α → β) (g : Key → β → γ) (a : Arena α) :
    (a.map f).map g = a.map fun key item => g key (f key item) := by
  refine ext_slots ?_ rfl rfl
  intro slot
  simp only [getElem?_slots_map, Option.map_map]
  congr 1
  funext entry
  cases entry <;> rfl

theorem map_congr {f g : Key → α → β} {a : Arena α} (h : ∀ key item, f key item = g key item) :
    a.map f = a.map g := by
  have hfg : f = g := funext fun key => funext fun item => h key item
  rw [hfg]

theorem map_modify {f : Key → α → β} {g : α → α} (h : ∀ key item, f key (g item) = f key item)
    (a : Arena α) (key : Key) : (a.modify key g).map f = a.map f := by
  rw [modify, map_map]
  apply map_congr
  intro k item
  split
  · exact h k item
  · rfl

theorem mem_toList {a : Arena α} {key : Key} {item : α} :
    (key, item) ∈ a.toList ↔ a.get? key = some item := by
  rw [get?_eq_some_iff, occupant?, Option.join_eq_some_iff, toList, List.mem_filterMap]
  constructor
  · rintro ⟨⟨entry, slot⟩, hmem, h⟩
    obtain ⟨e, rfl, heq⟩ := Option.map_eq_some_iff.mp h
    obtain ⟨rfl, rfl⟩ := Prod.mk.inj heq
    exact List.mem_zipIdx_iff_getElem?.mp hmem
  · intro h
    exact ⟨(some ⟨key.generation, item⟩, key.slot), List.mem_zipIdx_iff_getElem?.mpr h, rfl⟩

theorem toList_map (f : Key → α → β) (a : Arena α) :
    (a.map f).toList = a.toList.map fun p => (p.1, f p.1 p.2) := by
  have hslots : (a.map f).slots.zipIdx = a.slots.zipIdx.map fun p =>
      (p.1.map fun e => (⟨e.generation, f ⟨p.2, e.generation⟩ e.item⟩ : Entry β), p.2) := by
    apply List.ext_getElem?
    intro slot
    simp only [List.getElem?_zipIdx, List.getElem?_map, getElem?_slots_map, Option.map_map]
    cases a.slots[slot]? <;> simp
  simp only [toList, hslots, List.filterMap_map, List.map_filterMap]
  congr 1
  funext p
  obtain ⟨entry, slot⟩ := p
  cases entry <;> rfl

theorem nodup_keys (a : Arena α) : (a.toList.map (·.1)).Nodup := by
  have hslots : a.slots.zipIdx.Pairwise fun p q => p.2 < q.2 := by
    rw [← List.pairwise_map (f := Prod.snd) (R := (· < ·)), List.zipIdx_map_snd]
    exact List.pairwise_lt_range'
  rw [List.nodup_iff_pairwise_ne, List.pairwise_map, toList, List.pairwise_filterMap]
  refine hslots.imp ?_
  intro p q hlt b hb c hc hkeys
  obtain ⟨_, _, rfl⟩ := Option.map_eq_some_iff.mp hb
  obtain ⟨_, _, rfl⟩ := Option.map_eq_some_iff.mp hc
  have := congrArg Key.slot hkeys
  simp only at this
  omega

/-- The slots that are free are empty, each of them listed once. -/
structure WellFormed (a : Arena α) : Prop where
  vacant : ∀ slot ∈ a.free, a.slots[slot]? = some none
  nodup : a.free.Nodup

theorem wellFormed_empty : (empty : Arena α).WellFormed :=
  ⟨by simp [empty], by simp [empty]⟩

theorem WellFormed.map {a : Arena α} (h : a.WellFormed) (f : Key → α → β) :
    (a.map f).WellFormed := by
  refine ⟨?_, h.nodup⟩
  intro slot hslot
  simp [Arena.map, h.vacant slot hslot]

theorem WellFormed.modify {a : Arena α} (h : a.WellFormed) (key : Key) (f : α → α) :
    (a.modify key f).WellFormed := by
  unfold Arena.modify
  exact h.map _

theorem insert_key_generation (a : Arena α) (item : α) :
    (a.insert item).1.generation = a.generation := by
  unfold insert
  split <;> rfl

theorem occupant?_insert_slot {a : Arena α} (h : a.WellFormed) (item : α) :
    a.occupant? (a.insert item).1.slot = none := by
  unfold insert
  split
  · rename_i first rest hfree
    simp [occupant?, h.vacant first (by simp [hfree])]
  · simp [occupant?]

theorem occupant?_insert {a : Arena α} (h : a.WellFormed) (item : α) (slot : Nat) :
    (a.insert item).2.occupant? slot =
      if slot = (a.insert item).1.slot then some ⟨a.generation, item⟩ else a.occupant? slot := by
  unfold insert
  split
  · rename_i first rest hfree
    obtain ⟨hlt, -⟩ := List.getElem?_eq_some_iff.mp (h.vacant first (by simp [hfree]))
    simp only [occupant?, List.getElem?_set]
    by_cases hslot : first = slot
    · subst hslot
      simp [hlt]
    · simp [hslot, Ne.symm hslot]
  · simp only [occupant?]
    rcases Nat.lt_trichotomy slot a.slots.length with hlt | rfl | hgt
    · rw [List.getElem?_append_left hlt, if_neg (Nat.ne_of_lt hlt)]
    · simp
    · rw [List.getElem?_eq_none (by simp; omega), List.getElem?_eq_none (by omega),
        if_neg (Nat.ne_of_gt hgt)]

theorem get?_insert_key {a : Arena α} (h : a.WellFormed) (item : α) :
    a.get? (a.insert item).1 = none := by
  simp [get?, occupant?_insert_slot h]

theorem get?_insert {a : Arena α} (h : a.WellFormed) (item : α) (key : Key) :
    (a.insert item).2.get? key = if key = (a.insert item).1 then some item else a.get? key := by
  by_cases hslot : key.slot = (a.insert item).1.slot
  · have hnone : a.get? key = none := by
      simp [get?, hslot, occupant?_insert_slot h]
    have hentry := occupant?_insert h item key.slot
    rw [if_pos hslot] at hentry
    by_cases hgeneration : key.generation = a.generation
    · have hkey : key = (a.insert item).1 :=
        Key.ext hslot (hgeneration.trans (insert_key_generation a item).symm)
      rw [if_pos hkey, get?_eq_some_iff, hentry, hgeneration]
    · have hkey : key ≠ (a.insert item).1 := by
        intro hkey
        rw [hkey, insert_key_generation] at hgeneration
        exact hgeneration rfl
      rw [if_neg hkey, hnone]
      simp [get?, hentry, Ne.symm hgeneration]
  · have hkey : key ≠ (a.insert item).1 := fun hkey => hslot (congrArg Key.slot hkey)
    rw [if_neg hkey]
    apply get?_congr
    rw [occupant?_insert h, if_neg hslot]

theorem WellFormed.insert {a : Arena α} (h : a.WellFormed) (item : α) :
    (a.insert item).2.WellFormed := by
  unfold Arena.insert
  split
  · rename_i first rest hfree
    have hnodup := h.nodup
    rw [hfree, List.nodup_cons] at hnodup
    refine ⟨?_, hnodup.2⟩
    intro slot hslot
    have hne : first ≠ slot := fun heq => hnodup.1 (heq ▸ hslot)
    simp only [List.getElem?_set, if_neg hne]
    exact h.vacant slot (by simp [hfree, hslot])
  · rename_i hfree
    exact ⟨by simp [hfree], by simp [hfree]⟩

theorem contains_iff {a : Arena α} {key : Key} :
    a.contains key = true ↔ ∃ item, a.get? key = some item :=
  Option.isSome_iff_exists

theorem occupant?_remove {a : Arena α} {key : Key} (h : a.contains key) (slot : Nat) :
    (a.remove key).occupant? slot = if slot = key.slot then none else a.occupant? slot := by
  rw [remove, if_pos h]
  simp only [occupant?, List.getElem?_set]
  by_cases hslot : key.slot = slot
  · subst hslot
    rw [if_pos rfl, if_pos rfl]
    split <;> rfl
  · simp [hslot, Ne.symm hslot]

theorem get?_remove (a : Arena α) (key k : Key) :
    (a.remove key).get? k = if k = key then none else a.get? k := by
  by_cases h : a.contains key
  · obtain ⟨item, hitem⟩ := contains_iff.mp h
    have hentry := get?_eq_some_iff.mp hitem
    by_cases hslot : k.slot = key.slot
    · have hnone : (a.remove key).get? k = none := by
        simp [get?, occupant?_remove h, hslot]
      rw [hnone]
      split
      · rfl
      · rename_i hkey
        have hgeneration : key.generation ≠ k.generation :=
          fun heq => hkey (Key.ext hslot heq.symm)
        simp [get?, hslot, hentry, hgeneration]
    · rw [if_neg fun hkey => hslot (congrArg Key.slot hkey)]
      apply get?_congr
      rw [occupant?_remove h, if_neg hslot]
  · rw [remove, if_neg h]
    split
    · rename_i hkey
      rw [hkey]
      simpa [contains] using h
    · rfl

theorem WellFormed.remove {a : Arena α} (h : a.WellFormed) (key : Key) :
    (a.remove key).WellFormed := by
  by_cases hkey : a.contains key
  · obtain ⟨item, hitem⟩ := contains_iff.mp hkey
    have hentry := get?_eq_some_iff.mp hitem
    rw [Arena.remove, if_pos hkey]
    obtain ⟨hlt, -⟩ := List.getElem?_eq_some_iff.mp (Option.join_eq_some_iff.mp hentry)
    have hfree : key.slot ∉ a.free := by
      intro hmem
      simp [occupant?, h.vacant _ hmem] at hentry
    refine ⟨?_, List.nodup_cons.mpr ⟨hfree, h.nodup⟩⟩
    intro slot hslot
    simp only [List.getElem?_set]
    rcases List.mem_cons.mp hslot with rfl | hslot
    · simp [hlt]
    · split
      · rename_i heq
        exact absurd (heq ▸ hslot) hfree
      · exact h.vacant slot hslot
  · rwa [Arena.remove, if_neg hkey]

theorem get?_foldl_remove (keys : List Key) (a : Arena α) (k : Key) :
    (keys.foldl remove a).get? k = if k ∈ keys then none else a.get? k := by
  induction keys generalizing a with
  | nil => simp
  | cons key keys ih =>
      rw [List.foldl_cons, ih, get?_remove]
      by_cases hk : k = key <;> simp [hk]

theorem WellFormed.foldl_remove {a : Arena α} (h : a.WellFormed) (keys : List Key) :
    (keys.foldl Arena.remove a).WellFormed := by
  induction keys generalizing a with
  | nil => exact h
  | cons key keys ih => exact ih (h.remove key)

theorem map_insert (f : Key → α → β) (a : Arena α) (item : α) :
    (a.map f).insert (f (a.insert item).1 item) =
      ((a.insert item).1, (a.insert item).2.map f) := by
  cases hfree : a.free with
  | nil =>
      have hmap : (a.map f).free = [] := hfree
      simp only [insert, hfree, hmap, length_slots_map, Prod.mk.injEq]
      refine ⟨rfl, ?_⟩
      simp only [map, List.zipIdx_append, List.map_append, mk.injEq]
      simp
  | cons slot free =>
      have hmap : (a.map f).free = slot :: free := hfree
      simp only [insert, hfree, hmap, Prod.mk.injEq]
      refine ⟨rfl, ext_slots ?_ rfl rfl⟩
      intro other
      simp only [getElem?_slots_map, List.getElem?_set, length_slots_map]
      by_cases hother : slot = other
      · subst hother
        rw [if_pos rfl, if_pos rfl]
        split <;> rfl
      · rw [if_neg hother, if_neg hother]

theorem map_remove (f : Key → α → β) (a : Arena α) (key : Key) :
    (a.remove key).map f = (a.map f).remove key := by
  have hcontains : (a.map f).contains key = a.contains key := by
    simp [contains, get?_map]
  by_cases h : a.contains key
  · rw [remove, remove, if_pos h, if_pos (hcontains.trans h)]
    refine ext_slots ?_ rfl rfl
    intro slot
    simp only [getElem?_slots_map, List.getElem?_set, length_slots_map]
    by_cases hslot : key.slot = slot
    · subst hslot
      rw [if_pos rfl, if_pos rfl]
      split <;> rfl
    · rw [if_neg hslot, if_neg hslot]
  · rw [remove, remove, if_neg h, if_neg (hcontains ▸ h)]

theorem map_foldl_remove (f : Key → α → β) (keys : List Key) (a : Arena α) :
    (keys.foldl remove a).map f = keys.foldl remove (a.map f) := by
  induction keys generalizing a with
  | nil => rfl
  | cons key keys ih => rw [List.foldl_cons, List.foldl_cons, ih, map_remove]

/-- No key in use is of a generation still to come. -/
def Dated (a : Arena α) : Prop :=
  ∀ key item, a.get? key = some item → key.generation ≤ a.generation

/-- The key was given out, so it will not be given out again. -/
def Issued (a : Arena α) (key : Key) : Prop :=
  key.generation < a.generation ∨ ∃ item, a.get? key = some item

theorem dated_empty : (empty : Arena α).Dated := nofun

theorem not_issued_insert_key {a : Arena α} (h : a.WellFormed) (item : α) :
    ¬ a.Issued (a.insert item).1 := by
  rintro (hlt | ⟨found, hfound⟩)
  · rw [insert_key_generation] at hlt
    exact Nat.lt_irrefl _ hlt
  · rw [get?_insert_key h] at hfound
    cases hfound

theorem generation_insert (a : Arena α) (item : α) :
    (a.insert item).2.generation = a.generation := by
  unfold insert
  split <;> rfl

theorem Dated.insert {a : Arena α} (h : a.Dated) (hwell : a.WellFormed) (item : α) :
    (a.insert item).2.Dated := by
  intro key found hfound
  rw [generation_insert]
  rw [get?_insert hwell] at hfound
  split at hfound
  · rename_i hkey
    exact hkey ▸ Nat.le_of_eq (insert_key_generation a item)
  · exact h key found hfound

theorem Issued.insert {a : Arena α} {key : Key} (h : a.Issued key) (hwell : a.WellFormed)
    (item : α) : (a.insert item).2.Issued key := by
  rcases h with hlt | ⟨found, hfound⟩
  · exact .inl ((generation_insert a item).symm ▸ hlt)
  · refine .inr ⟨found, ?_⟩
    rw [get?_insert hwell, if_neg, hfound]
    intro hkey
    rw [hkey, get?_insert_key hwell] at hfound
    cases hfound

theorem generation_remove {a : Arena α} {key : Key} {item : α} (h : a.get? key = some item) :
    (a.remove key).generation = a.generation + 1 := by
  rw [remove, if_pos (contains_iff.mpr ⟨item, h⟩)]

theorem remove_of_none {a : Arena α} {key : Key} (h : a.get? key = none) : a.remove key = a := by
  rw [remove, if_neg]
  rw [contains, h]
  exact Bool.false_ne_true

theorem Dated.remove {a : Arena α} (h : a.Dated) (key : Key) : (a.remove key).Dated := by
  cases hkey : a.get? key with
  | none =>
      rw [remove_of_none hkey]
      exact h
  | some item =>
      intro other found hfound
      rw [get?_remove] at hfound
      rw [generation_remove hkey]
      split at hfound
      · cases hfound
      · exact Nat.le_succ_of_le (h other found hfound)

theorem Issued.remove {a : Arena α} (h : a.Dated) (key : Key) {other : Key}
    (hother : a.Issued other) : (a.remove key).Issued other := by
  cases hkey : a.get? key with
  | none =>
      rw [remove_of_none hkey]
      exact hother
  | some item =>
      refine .inl ?_
      rw [generation_remove hkey]
      rcases hother with hlt | ⟨found, hfound⟩
      · exact Nat.lt_succ_of_lt hlt
      · exact Nat.lt_succ_of_le (h other found hfound)

end Arena

end RigidWorlds.Engine
