import RigidWorlds.HandleTable

/-!
Tables as finite maps from handles to objects.  Between operations no handle is pending, and the
handles that resolve ascend below the next one to be issued; so binding a handle that was just
issued puts its object behind all others.
-/

namespace RigidWorlds.HandleTable

variable {k : Kind} {α : Type}

theorem lookup_cons_handle (g i : Handle k) (a : α) (l : List (Handle k × α)) :
    ((i, a) :: l).lookup g = if g = i then some a else l.lookup g := by
  rw [List.lookup_cons]
  by_cases h : g = i
  · simp [h]
  · have hb : (g == i) = false := beq_eq_false_iff_ne.mpr h
    simp [h, hb]

theorem find_eq_ok_iff {t : HandleTable k α} {h : Handle k} {a : α} :
    t.find h = .ok a ↔ t.get? h = some a := by
  unfold find
  cases t.get? h <;> simp

theorem find_of_get? {t : HandleTable k α} {h : Handle k} {a : α} (ha : t.get? h = some a) :
    t.find h = .ok a :=
  find_eq_ok_iff.mpr ha

theorem contains_iff {t : HandleTable k α} {h : Handle k} :
    t.contains h = true ↔ ∃ a, t.get? h = some a :=
  Option.isSome_iff_exists

theorem lookup_map_handle (l : List (Handle k × α)) (h g : Handle k) (f : α → α) :
    (l.map fun (i, a) => if i = h then (i, f a) else (i, a)).lookup g =
      if g = h then (l.lookup g).map f else l.lookup g := by
  induction l with
  | nil => simp
  | cons entry rest ih =>
      obtain ⟨i, a⟩ := entry
      by_cases hi : i = h
      · subst hi
        simp only [List.map_cons, lookup_cons_handle, if_true, ih]
        by_cases hg : g = i <;> simp [hg]
      · simp only [List.map_cons, lookup_cons_handle, if_neg hi, ih]
        by_cases hg : g = i
        · subst hg
          simp [hi]
        · simp [hg]

theorem get?_modify (t : HandleTable k α) (h : Handle k) (f : α → α) (g : Handle k) :
    (t.modify h f).get? g = if g = h then (t.get? g).map f else t.get? g :=
  lookup_map_handle t.items h g f

theorem modify_of_get?_eq_none {t : HandleTable k α} {h : Handle k} (hnone : t.get? h = none)
    (f : α → α) : t.modify h f = t := by
  have hitems : ∀ p ∈ t.items, (if p.1 = h then (p.1, f p.2) else (p.1, p.2)) = id p := by
    intro p hp
    have hne : h ≠ p.1 := bne_iff_ne.mp (List.lookup_eq_none_iff.mp hnone p hp)
    rw [if_neg hne.symm]
    rfl
  rw [modify, List.map_congr_left hitems, List.map_id]

theorem lookup_filter_handle (l : List (Handle k × α)) (h g : Handle k) :
    (l.filter fun (i, _) => i ≠ h).lookup g = if g = h then none else l.lookup g := by
  induction l with
  | nil => simp
  | cons entry rest ih =>
      obtain ⟨i, a⟩ := entry
      by_cases hi : i = h
      · subst hi
        rw [List.filter_cons_of_neg (by simp), ih, lookup_cons_handle]
        by_cases hg : g = i
        · rw [if_pos hg, if_pos hg]
        · rw [if_neg hg, if_neg hg, if_neg hg]
      · simp only [List.filter_cons, ne_eq, hi, not_false_eq_true, decide_true, if_true,
          lookup_cons_handle]
        by_cases hg : g = i
        · subst hg
          simp [hi]
        · simpa [hg] using ih

theorem get?_erase (t : HandleTable k α) (h g : Handle k) :
    (t.erase h).get? g = if g = h then none else t.get? g :=
  lookup_filter_handle t.items h g

def next (t : HandleTable k α) : Handle k := ⟨t.nextIndex⟩

/-- The handles that resolve ascend below the next one, and none is pending. -/
structure Settled (t : HandleTable k α) : Prop where
  ascending : t.items.Pairwise fun p q => p.1.index < q.1.index
  issued : ∀ p ∈ t.items, p.1.index < t.nextIndex
  idle : t.pending = []
  bounded : t.nextIndex ≤ Handle.lastIndex + 1

theorem settled_empty : (empty : HandleTable k α).Settled := by
  refine ⟨by simp [empty], by simp [empty], rfl, ?_⟩
  simp only [empty]
  decide

theorem lookup_eq_some_iff_mem {l : List (Handle k × α)}
    (hl : l.Pairwise fun p q => p.1.index < q.1.index) {h : Handle k} {a : α} :
    l.lookup h = some a ↔ (h, a) ∈ l := by
  induction l with
  | nil => simp
  | cons entry rest ih =>
      obtain ⟨i, b⟩ := entry
      obtain ⟨hfirst, hrest⟩ := List.pairwise_cons.mp hl
      rw [lookup_cons_handle, List.mem_cons, Prod.mk.injEq]
      by_cases hi : h = i
      · subst hi
        have hnot : (h, a) ∉ rest := by
          intro hmem
          have hlt : h.index < h.index := hfirst (h, a) hmem
          exact UInt32.lt_irrefl _ hlt
        simp [hnot, eq_comm]
      · simp [hi, ih hrest]

theorem get?_eq_some_iff {t : HandleTable k α} (ht : t.Settled) {h : Handle k} {a : α} :
    t.get? h = some a ↔ (h, a) ∈ t.items :=
  lookup_eq_some_iff_mem ht.ascending

theorem handles_eq (t : HandleTable k α) : t.handles = t.handlesWhere fun _ => true := by
  rw [handles, handlesWhere, List.filter_eq_self.mpr fun _ _ => rfl]

theorem mem_handlesWhere_iff {t : HandleTable k α} {p : α → Bool} {h : Handle k} :
    h ∈ t.handlesWhere p ↔ ∃ a, (h, a) ∈ t.items ∧ p a := by
  simp only [handlesWhere, List.mem_map, List.mem_filter]
  constructor
  · rintro ⟨⟨h, a⟩, ⟨hmem, hp⟩, rfl⟩
    exact ⟨a, hmem, hp⟩
  · rintro ⟨a, hmem, hp⟩
    exact ⟨(h, a), ⟨hmem, hp⟩, rfl⟩

theorem mem_handlesWhere {t : HandleTable k α} (ht : t.Settled) {p : α → Bool} {h : Handle k} :
    h ∈ t.handlesWhere p ↔ ∃ a, t.get? h = some a ∧ p a := by
  simp only [mem_handlesWhere_iff, get?_eq_some_iff ht]

theorem nodup_handlesWhere {t : HandleTable k α} (ht : t.Settled) (p : α → Bool) :
    (t.handlesWhere p).Nodup := by
  rw [List.nodup_iff_pairwise_ne, handlesWhere, List.pairwise_map]
  refine (ht.ascending.filter _).imp ?_
  intro x y hlt heq
  rw [heq] at hlt
  exact UInt32.lt_irrefl _ hlt

theorem ascending_handlesWhere {t : HandleTable k α} (ht : t.Settled) (p : α → Bool) :
    (t.handlesWhere p).Pairwise fun g h => g.index < h.index := by
  rw [handlesWhere, List.pairwise_map]
  exact ht.ascending.filter _

theorem handlesWhere_congr {t t' : HandleTable k α} (ht : t.Settled) (ht' : t'.Settled)
    {p p' : α → Bool}
    (hp : ∀ h, (∃ a, t.get? h = some a ∧ p a) ↔ ∃ a, t'.get? h = some a ∧ p' a) :
    t.handlesWhere p = t'.handlesWhere p' := by
  have hperm : (t.handlesWhere p).Perm (t'.handlesWhere p') := by
    rw [List.perm_ext_iff_of_nodup (nodup_handlesWhere ht p) (nodup_handlesWhere ht' p')]
    intro h
    rw [mem_handlesWhere ht, mem_handlesWhere ht', hp]
  refine hperm.eq_of_pairwise ?_ (ascending_handlesWhere ht p) (ascending_handlesWhere ht' p')
  intro g h _ _ hlt hgt
  exact absurd hgt (UInt32.lt_asymm hlt)

theorem Settled.index_lt {t : HandleTable k α} (ht : t.Settled) {h : Handle k} {a : α}
    (ha : t.get? h = some a) : h.index < t.nextIndex :=
  ht.issued (h, a) ((get?_eq_some_iff ht).mp ha)

theorem Settled.get?_next {t : HandleTable k α} (ht : t.Settled) : t.get? t.next = none := by
  cases h : t.get? t.next with
  | none => rfl
  | some a => exact absurd (ht.index_lt h) (UInt32.lt_irrefl _)

theorem fst_modify (h : Handle k) (f : α → α) (p : Handle k × α) :
    (if p.1 = h then (p.1, f p.2) else (p.1, p.2)).1 = p.1 := by
  split <;> rfl

theorem ascending_modify {t : HandleTable k α}
    (ht : t.items.Pairwise fun p q => p.1.index < q.1.index) (h : Handle k) (f : α → α) :
    (t.modify h f).items.Pairwise fun p q => p.1.index < q.1.index := by
  simp only [modify, List.pairwise_map, fst_modify]
  exact ht

theorem Settled.modify {t : HandleTable k α} (ht : t.Settled) (h : Handle k) (f : α → α) :
    (t.modify h f).Settled := by
  refine ⟨ascending_modify ht.ascending h f, ?_, ht.idle, ht.bounded⟩
  intro p hp
  obtain ⟨q, hq, rfl⟩ := List.mem_map.mp hp
  rw [fst_modify]
  exact ht.issued q hq

theorem Settled.filter {t : HandleTable k α} (ht : t.Settled) (p : Handle k × α → Bool) :
    ({ t with items := t.items.filter p } : HandleTable k α).Settled :=
  ⟨ht.ascending.filter p, fun q hq => ht.issued q (List.mem_filter.mp hq).1, ht.idle, ht.bounded⟩

theorem Settled.erase {t : HandleTable k α} (ht : t.Settled) (h : Handle k) :
    (t.erase h).Settled :=
  ht.filter _

theorem Settled.eraseWhere {t : HandleTable k α} (ht : t.Settled) (p : α → Bool) :
    (t.eraseWhere p).Settled :=
  ht.filter _

theorem get?_eraseWhere {t : HandleTable k α} (ht : t.Settled) (p : α → Bool) (h : Handle k) :
    (t.eraseWhere p).get? h = (t.get? h).filter fun a => !p a := by
  apply Option.ext
  intro a
  rw [get?_eq_some_iff (ht.eraseWhere p), Option.filter_eq_some_iff, get?_eq_some_iff ht]
  simp [eraseWhere]

def reserve (t : HandleTable k α) : HandleTable k α :=
  { t with pending := t.pending ++ [t.next], nextIndex := t.nextIndex + 1 }

/-- The table with an object bound to the next handle. -/
def append (t : HandleTable k α) (a : α) : HandleTable k α :=
  { t with items := t.items ++ [(t.next, a)], nextIndex := t.nextIndex + 1 }

def issue (t : HandleTable k α) : Except Error (Handle k) :=
  if Handle.lastIndex < t.nextIndex then .error (.handlesExhausted k) else .ok t.next

theorem issue_eq_ok_iff {t : HandleTable k α} {h : Handle k} :
    t.issue = .ok h ↔ t.nextIndex ≤ Handle.lastIndex ∧ h = t.next := by
  unfold issue
  split
  · rename_i hlt
    simp [UInt32.not_le.mpr hlt]
  · rename_i hle
    simp [UInt32.not_lt.mp hle, eq_comm]

theorem allocate_eq (t : HandleTable k α) :
    allocate t =
      match t.issue with
      | .ok h => .ok h t.reserve
      | .error e => .error e t := by
  unfold allocate issue
  split <;> rfl

theorem place_of_lt (h : Handle k) (a : α) (l : List (Handle k × α))
    (hl : ∀ p ∈ l, p.1.index < h.index) : place h a l = l ++ [(h, a)] := by
  induction l with
  | nil => rfl
  | cons entry rest ih =>
      obtain ⟨g, b⟩ := entry
      have hg : g.index < h.index := hl (g, b) (by simp)
      have hnot : ¬ h.index < g.index := UInt32.lt_asymm hg
      have hne : h ≠ g := by
        rintro rfl
        exact UInt32.lt_irrefl _ hg
      rw [place, if_neg hnot, if_neg hne, ih fun p hp => hl p (by simp [hp])]
      rfl

theorem bind_reserve {t : HandleTable k α} (ht : t.Settled) (a : α) :
    bind t.next a t.reserve = .ok () (t.append a) := by
  have hpending : t.reserve.pending = [t.next] := by
    simp [reserve, ht.idle]
  have hplace : place t.next a t.items = t.items ++ [(t.next, a)] :=
    place_of_lt _ _ _ ht.issued
  rw [bind, if_pos (by simp [hpending]), hpending]
  simp only [reserve, append, hplace, ht.idle, List.erase_cons_head]

theorem insert_eq {t : HandleTable k α} (ht : t.Settled) (a : α) :
    insert a t =
      match t.issue with
      | .ok h => .ok h (t.append a)
      | .error e => .error e t := by
  simp only [insert, Bind.bind, EStateM.bind, Pure.pure, EStateM.pure, allocate_eq]
  cases hissue : t.issue with
  | error e => rfl
  | ok h =>
      obtain ⟨-, rfl⟩ := issue_eq_ok_iff.mp hissue
      simp only [bind_reserve ht]

theorem get?_append {t : HandleTable k α} (ht : t.Settled) (a : α) (h : Handle k) :
    (t.append a).get? h = if h = t.next then some a else t.get? h := by
  have hcases : (t.append a).get? h = (t.get? h).or (if h = t.next then some a else none) := by
    simp only [append, get?, List.lookup_append, lookup_cons_handle, List.lookup_nil]
  rw [hcases]
  split
  · rename_i hnext
    rw [hnext, ht.get?_next, Option.none_or]
  · rw [Option.or_none]

theorem toNat_index_succ {n : UInt32} (hn : n ≤ Handle.lastIndex) :
    (n + 1).toNat = n.toNat + 1 := by
  have hn' : n.toNat ≤ 2147483647 := UInt32.le_iff_toNat_le.mp hn
  rw [UInt32.toNat_add]
  simp
  omega

theorem toNat_nextIndex_append {t : HandleTable k α} {h : Handle k} (hissue : t.issue = .ok h)
    (a : α) : (t.append a).nextIndex.toNat = t.nextIndex.toNat + 1 := by
  obtain ⟨hle, -⟩ := issue_eq_ok_iff.mp hissue
  exact toNat_index_succ hle

theorem Settled.append {t : HandleTable k α} (ht : t.Settled) {h : Handle k}
    (hissue : t.issue = .ok h) (a : α) : (t.append a).Settled := by
  obtain ⟨hle, -⟩ := issue_eq_ok_iff.mp hissue
  have hle' : t.nextIndex.toNat ≤ 2147483647 := UInt32.le_iff_toNat_le.mp hle
  have hsucc := toNat_nextIndex_append hissue a
  have hnext : t.nextIndex < (t.append a).nextIndex := by
    rw [UInt32.lt_iff_toNat_lt]
    omega
  refine ⟨?_, ?_, ht.idle, ?_⟩
  · refine List.pairwise_append.mpr ⟨ht.ascending, List.pairwise_singleton _ _, ?_⟩
    intro p hp q hq
    rw [List.mem_singleton.mp hq]
    exact ht.issued p hp
  · intro p hp
    rcases List.mem_append.mp hp with hp | hp
    · exact UInt32.lt_trans (ht.issued p hp) hnext
    · rw [List.mem_singleton.mp hp]
      exact hnext
  · have hlast : (Handle.lastIndex + 1).toNat = 2147483648 := by decide
    rw [UInt32.le_iff_toNat_le]
    omega

end RigidWorlds.HandleTable
