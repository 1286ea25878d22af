import RigidWorlds.Proofs.HandleTable
import Mathlib.Data.Finset.Dedup
import Mathlib.Data.Set.Card
import Mathlib.Logic.Relation

namespace RigidWorlds.HandleTable

variable {k : Kind} {α : Type}

inductive Phase (α : Type) where
  | unissued
  | pending
  | bound (a : α)
  | dead

/-- What may happen to a handle. -/
inductive Phase.Moves : Phase α → Phase α → Prop
  | issue : Moves .unissued .pending
  | bind (a : α) : Moves .pending (.bound a)
  | abandon : Moves .pending .dead
  | store (a b : α) : Moves (.bound a) (.bound b)
  | release (a : α) : Moves (.bound a) .dead

/-- A handle comes from one phase to another by moves. -/
def Phase.Reaches : Phase α → Phase α → Prop := Relation.ReflTransGen Moves

theorem Phase.Moves.reaches {p q : Phase α} (h : p.Moves q) : p.Reaches q := .single h

@[refl]
theorem Phase.Reaches.refl (p : Phase α) : p.Reaches p := Relation.ReflTransGen.refl

theorem Phase.Reaches.trans {p q r : Phase α} (h : p.Reaches q) (h' : q.Reaches r) :
    p.Reaches r := Relation.ReflTransGen.trans h h'

def Phase.item? : Phase α → Option α
  | .bound a => some a
  | _ => none

structure LifeCycle (k : Kind) (α : Type) where
  issued : Nat
  phase : Handle k → Phase α

namespace LifeCycle

def fresh : LifeCycle k α := ⟨0, fun _ => .unissued⟩

def set (s : LifeCycle k α) (h : Handle k) (p : Phase α) : LifeCycle k α :=
  { s with phase := Function.update s.phase h p }

theorem phase_set (s : LifeCycle k α) (h : Handle k) (p : Phase α) (g : Handle k) :
    (s.set h p).phase g = if g = h then p else s.phase g :=
  Function.update_apply ..

theorem reaches_set {s : LifeCycle k α} {h : Handle k} {p : Phase α}
    (hreaches : (s.phase h).Reaches p) (g : Handle k) :
    (s.phase g).Reaches ((s.set h p).phase g) := by
  rw [phase_set]
  split
  · rename_i hg
    rw [hg]
    exact hreaches
  · exact .refl _

/-- The handle that is issued next. -/
def next (s : LifeCycle k α) : Handle k := ⟨.ofNat s.issued⟩

def issue (s : LifeCycle k α) : LifeCycle k α :=
  { s.set s.next .pending with issued := s.issued + 1 }

theorem phase_issue_next (s : LifeCycle k α) : s.issue.phase s.next = .pending :=
  Function.update_self ..

end LifeCycle

/-- What may be asked of a table.  Writing takes the object to what is written. -/
inductive Call (k : Kind) (α : Type) where
  | allocate
  | bind (h : Handle k) (a : α)
  | insert (a : α)
  | abandon (h : Handle k)
  | release (h : Handle k)
  /-- Writes to the object if there is one. -/
  | change (h : Handle k) (f : α → α)
  /-- Writes to the object, which has to be there. -/
  | update (h : Handle k) (f : α → α)

/-- What a call gives: writing tells what stood there before. -/
inductive Answer (k : Kind) (α : Type) where
  | handle (h : Handle k)
  | done
  | flag (b : Bool)
  | item (a : α)
  | found (a? : Option α)

/-- The table with an object bound to a handle that was pending. -/
def attach (t : HandleTable k α) (h : Handle k) (a : α) : HandleTable k α :=
  { t with items := place h a t.items, pending := t.pending.erase h }

/-- The table with a handle that was pending given back. -/
def forgo (t : HandleTable k α) (h : Handle k) : HandleTable k α :=
  { t with pending := t.pending.erase h }

/-- The object of a handle before it is written to. -/
def update (h : Handle k) (f : α → α) : Action k α α := fun t =>
  match t.find h with
  | .ok a => .ok a (t.modify h f)
  | .error e => .error e t

theorem replace_eq_update (h : Handle k) (a : α) :
    (replace h a : Action k α α) = update h fun _ => a := rfl

namespace Call

/-- What an action answers and the table that it leaves. -/
def tell {β : Type} (f : β → Answer k α) (x : Action k α β) (t : HandleTable k α) :
    Except Error (Answer k α) × HandleTable k α :=
  match x t with
  | .ok b t' => (.ok (f b), t')
  | .error e t' => (.error e, t')

def apply (t : HandleTable k α) : Call k α → Except Error (Answer k α) × HandleTable k α
  | .allocate => tell .handle HandleTable.allocate t
  | .bind h a => tell (fun _ => .done) (HandleTable.bind h a) t
  | .insert a => tell .handle (HandleTable.insert a) t
  | .abandon h => tell .flag (HandleTable.abandon h) t
  | .release h => tell .item (HandleTable.release h) t
  | .change h f => (.ok (.found (t.get? h)), t.modify h f)
  | .update h f => tell .item (HandleTable.update h f) t

/-- The answer that the lives of the handles demand, and how they go on. -/
def step (s : LifeCycle k α) : Call k α → Except Error (Answer k α) × LifeCycle k α
  | .allocate =>
      if s.issued < 2 ^ 31 then (.ok (.handle s.next), s.issue)
      else (.error (.handlesExhausted k), s)
  | .bind h a =>
      match s.phase h with
      | .pending => (.ok .done, s.set h (.bound a))
      | _ => (.error (.invalidHandle k h.index.toNat), s)
  | .insert a =>
      if s.issued < 2 ^ 31 then (.ok (.handle s.next), s.issue.set s.next (.bound a))
      else (.error (.handlesExhausted k), s)
  | .abandon h =>
      match s.phase h with
      | .pending => (.ok (.flag true), s.set h .dead)
      | _ => (.ok (.flag false), s)
  | .release h =>
      match s.phase h with
      | .bound a => (.ok (.item a), s.set h .dead)
      | _ => (.error (.notFound h), s)
  | .change h f =>
      match s.phase h with
      | .bound a => (.ok (.found (some a)), s.set h (.bound (f a)))
      | _ => (.ok (.found none), s)
  | .update h f =>
      match s.phase h with
      | .bound a => (.ok (.item a), s.set h (.bound (f a)))
      | _ => (.error (.notFound h), s)

/-- The answers to calls made one after the other, and what they leave. -/
def run {σ : Type} (f : σ → Call k α → Except Error (Answer k α) × σ) (s : σ) :
    List (Call k α) → List (Except Error (Answer k α)) × σ
  | [] => ([], s)
  | c :: calls =>
      let (x, s') := f s c
      let (xs, s'') := run f s' calls
      (x :: xs, s'')

end Call

theorem perm_place {h : Handle k} (a : α) {l : List (Handle k × α)}
    (hnew : ∀ p ∈ l, h ≠ p.1) : (place h a l).Perm ((h, a) :: l) := by
  induction l with
  | nil => exact .refl _
  | cons entry rest ih =>
      obtain ⟨g, b⟩ := entry
      have hne : h ≠ g := hnew (g, b) (by simp)
      rw [place, if_neg hne]
      split
      · exact .refl _
      · exact ((ih fun p hp => hnew p (by simp [hp])).cons _).trans (.swap ..)

theorem ascending_place {h : Handle k} (a : α) {l : List (Handle k × α)}
    (hnew : ∀ p ∈ l, h ≠ p.1) (hl : l.Pairwise fun p q => p.1.index < q.1.index) :
    (place h a l).Pairwise fun p q => p.1.index < q.1.index := by
  induction l with
  | nil => exact List.pairwise_singleton _ _
  | cons entry rest ih =>
      obtain ⟨g, b⟩ := entry
      obtain ⟨hfirst, hrest⟩ := List.pairwise_cons.mp hl
      have hne : h ≠ g := hnew (g, b) (by simp)
      rw [place, if_neg hne]
      split
      · rename_i hlt
        refine List.pairwise_cons.mpr ⟨?_, hl⟩
        rintro p (_ | ⟨_, hp⟩)
        · exact hlt
        · exact UInt32.lt_trans hlt (hfirst p hp)
      · rename_i hnot
        have hlt : g.index < h.index := by
          refine UInt32.lt_of_le_of_ne (UInt32.not_lt.mp hnot) fun heq => hne ?_
          cases h
          cases g
          exact congrArg Handle.mk heq.symm
        have hnew' : ∀ p ∈ rest, h ≠ p.1 := fun p hp => hnew p (by simp [hp])
        refine List.pairwise_cons.mpr ⟨?_, ih hnew' hrest⟩
        intro p hp
        rcases List.mem_cons.mp ((perm_place a hnew').mem_iff.mp hp) with rfl | hp
        · exact hlt
        · exact hfirst p hp

theorem allocate_of_le {t : HandleTable k α} (hroom : t.nextIndex ≤ Handle.lastIndex) :
    allocate t = .ok t.next t.reserve :=
  if_neg (UInt32.not_lt.mpr hroom)

theorem allocate_of_not_le {t : HandleTable k α} (hfull : ¬ t.nextIndex ≤ Handle.lastIndex) :
    allocate t = .error (.handlesExhausted k) t :=
  if_pos (UInt32.not_le.mp hfull)

theorem bind_of_mem {t : HandleTable k α} {h : Handle k} (hpending : h ∈ t.pending) (a : α) :
    bind h a t = .ok () (t.attach h a) :=
  if_pos hpending

theorem insert_of_le {t : HandleTable k α} (hroom : t.nextIndex ≤ Handle.lastIndex) (a : α) :
    insert a t = .ok t.next (t.reserve.attach t.next a) := by
  have hpending : t.next ∈ t.reserve.pending := by
    simp [reserve]
  simp only [insert, Bind.bind, EStateM.bind, Pure.pure, EStateM.pure, allocate_of_le hroom,
    bind_of_mem hpending]

theorem insert_of_not_le {t : HandleTable k α} (hfull : ¬ t.nextIndex ≤ Handle.lastIndex)
    (a : α) : insert a t = .error (.handlesExhausted k) t := by
  simp only [insert, Bind.bind, EStateM.bind, allocate_of_not_le hfull]

theorem Phase.item?_eq_some_iff {p : Phase α} {a : α} : p.item? = some a ↔ p = .bound a := by
  cases p <;> simp [item?]

/-- A table and the lives of its handles: unissued are the indices from the counter on, pending and
bound is what stands in the table, and all others are dead. -/
structure Shows (s : LifeCycle k α) (t : HandleTable k α) : Prop where
  counter : t.nextIndex.toNat = s.issued
  bounded : s.issued ≤ 2 ^ 31
  unissued : ∀ h, s.phase h = .unissued ↔ s.issued ≤ h.index.toNat
  pending : ∀ h, s.phase h = .pending ↔ h ∈ t.pending
  bound : ∀ h a, s.phase h = .bound a ↔ (h, a) ∈ t.items
  once : t.pending.Nodup
  ascending : t.items.Pairwise fun p q => p.1.index < q.1.index

theorem shows_fresh : Shows (.fresh : LifeCycle k α) empty where
  counter := rfl
  bounded := by simp [LifeCycle.fresh]
  unissued h := by simp [LifeCycle.fresh]
  pending h := by simp [LifeCycle.fresh, empty]
  bound h a := by simp [LifeCycle.fresh, empty]
  once := List.nodup_nil
  ascending := .nil

namespace Shows

variable {s : LifeCycle k α} {t t' : HandleTable k α} {h : Handle k} {a : α} {p : Phase α}

theorem get?_eq (hs : Shows s t) (h : Handle k) : t.get? h = (s.phase h).item? := by
  apply Option.ext
  intro a
  rw [get?, lookup_eq_some_iff_mem hs.ascending, ← hs.bound, Phase.item?_eq_some_iff]

theorem dead (hs : Shows s t) (h : Handle k) :
    s.phase h = .dead ↔ h.index.toNat < s.issued ∧ h ∉ t.pending ∧ ∀ a, (h, a) ∉ t.items := by
  rw [← Nat.not_le, ← hs.unissued, ← hs.pending]
  simp only [← hs.bound]
  cases s.phase h <;> simp

theorem set (hs : Shows s t) (hissued : s.phase h ≠ .unissued) (hp : p ≠ .unissued)
    (hcounter : t'.nextIndex = t.nextIndex)
    (hpending : ∀ g, g ∈ t'.pending ↔ if g = h then p = .pending else g ∈ t.pending)
    (hbound : ∀ g a, (g, a) ∈ t'.items ↔ if g = h then p = .bound a else (g, a) ∈ t.items)
    (honce : t'.pending.Nodup)
    (hascending : t'.items.Pairwise fun p q => p.1.index < q.1.index) :
    Shows (s.set h p) t' where
  counter := hcounter ▸ hs.counter
  bounded := hs.bounded
  unissued g := by
    rw [LifeCycle.phase_set]
    split
    · rename_i hg
      subst hg
      exact iff_of_false hp (mt (hs.unissued g).mpr hissued)
    · exact hs.unissued g
  pending g := by
    rw [hpending, LifeCycle.phase_set]
    split
    · rfl
    · exact hs.pending g
  bound g a := by
    rw [hbound, LifeCycle.phase_set]
    split
    · rfl
    · exact hs.bound g a
  once := honce
  ascending := hascending

theorem mem_pending_erase (hs : Shows s t) (hp : p ≠ .pending) (g : Handle k) :
    g ∈ t.pending.erase h ↔ if g = h then p = .pending else g ∈ t.pending := by
  rw [hs.once.mem_erase_iff]
  split <;> simp_all

theorem new_of_pending (hs : Shows s t) (hpending : s.phase h = .pending) :
    ∀ q ∈ t.items, h ≠ q.1 := by
  rintro ⟨g, b⟩ hq rfl
  have hbound : s.phase h = .bound b := (hs.bound h b).mpr hq
  rw [hpending] at hbound
  cases hbound

theorem bind (hs : Shows s t) (hpending : s.phase h = .pending) (a : α) :
    Shows (s.set h (.bound a)) (t.attach h a) := by
  have hnew := hs.new_of_pending hpending
  refine hs.set (by simp [hpending]) nofun rfl (hs.mem_pending_erase nofun) ?_
    (hs.once.erase h) (ascending_place a hnew hs.ascending)
  intro g b
  rw [attach, (perm_place a hnew).mem_iff, List.mem_cons, Prod.mk.injEq]
  split
  · rename_i hg
    subst hg
    have hnot : (g, b) ∉ t.items := fun hmem => hnew _ hmem rfl
    simp [hnot, eq_comm]
  · simp [*]

theorem abandon (hs : Shows s t) (hpending : s.phase h = .pending) :
    Shows (s.set h .dead) (t.forgo h) := by
  refine hs.set (by simp [hpending]) nofun rfl (hs.mem_pending_erase nofun) ?_
    (hs.once.erase h) hs.ascending
  intro g b
  split
  · rename_i hg
    subst hg
    exact iff_of_false (fun hmem => hs.new_of_pending hpending _ hmem rfl) nofun
  · rfl

theorem pending_of_bound (hs : Shows s t) (hbound : s.phase h = .bound a) (hp : p ≠ .pending)
    (g : Handle k) : g ∈ t.pending ↔ if g = h then p = .pending else g ∈ t.pending := by
  split
  · rename_i hg
    subst hg
    rw [← hs.pending, hbound]
    exact iff_of_false nofun hp
  · rfl

theorem erase (hs : Shows s t) (hbound : s.phase h = .bound a) :
    Shows (s.set h .dead) (t.erase h) := by
  refine hs.set (by simp [hbound]) nofun rfl (hs.pending_of_bound hbound nofun) ?_ hs.once
    (hs.ascending.filter _)
  intro g b
  simp only [HandleTable.erase, List.mem_filter]
  split <;> simp [*]

theorem modify (hs : Shows s t) (hbound : s.phase h = .bound a) (f : α → α) :
    Shows (s.set h (.bound (f a))) (t.modify h f) := by
  have hascending := ascending_modify hs.ascending h f
  refine hs.set (by simp [hbound]) nofun rfl (hs.pending_of_bound hbound nofun) ?_ hs.once
    hascending
  intro g b
  rw [← lookup_eq_some_iff_mem hascending, ← get?, get?_modify, hs.get?_eq]
  split
  · rename_i hg
    subst hg
    simp [hbound, Phase.item?]
  · rw [Phase.item?_eq_some_iff, hs.bound]

theorem nextIndex_le (hs : Shows s t) : t.nextIndex ≤ Handle.lastIndex ↔ s.issued < 2 ^ 31 := by
  rw [UInt32.le_iff_toNat_le, hs.counter]
  exact Nat.lt_succ_iff.symm

theorem next_eq (hs : Shows s t) : t.next = s.next := by
  rw [HandleTable.next, LifeCycle.next, ← hs.counter, UInt32.ofNat_toNat]

theorem index_next (hs : Shows s t) : s.next.index.toNat = s.issued := by
  rw [← hs.next_eq]
  exact hs.counter

theorem phase_next (hs : Shows s t) : s.phase s.next = .unissued :=
  (hs.unissued _).mpr hs.index_next.ge

theorem issue (hs : Shows s t) (hroom : s.issued < 2 ^ 31) : Shows s.issue t.reserve := by
  have hindex := hs.index_next
  have hunissued := hs.phase_next
  have hnew : t.next ∉ t.pending := by
    rw [hs.next_eq, ← hs.pending, hunissued]
    simp
  have hphase (g : Handle k) : s.issue.phase g = if g = s.next then .pending else s.phase g :=
    s.phase_set s.next .pending g
  have hnext {g : Handle k} (hg : g.index.toNat = s.issued) : g = s.next := by
    have hindices : g.index = s.next.index := UInt32.toNat_inj.mp (hg.trans hindex.symm)
    cases g
    exact congrArg Handle.mk hindices
  refine ⟨?_, hroom, ?_, ?_, ?_, ?_, hs.ascending⟩
  · rw [LifeCycle.issue, ← hs.counter]
    exact toNat_index_succ (hs.nextIndex_le.mpr hroom)
  · intro g
    have hle : s.issue.issued ≤ g.index.toNat ↔ s.issued ≤ g.index.toNat ∧ g ≠ s.next := by
      constructor
      · intro hlt
        refine ⟨Nat.le_of_succ_le hlt, ?_⟩
        rintro rfl
        rw [hindex] at hlt
        exact absurd hlt (Nat.not_succ_le_self _)
      · rintro ⟨hle, hne⟩
        exact Nat.lt_of_le_of_ne hle fun heq => hne (hnext heq.symm)
    rw [hle, hphase]
    split <;> simp [hs.unissued, *]
  · intro g
    rw [hphase, reserve, List.mem_append, List.mem_singleton, hs.next_eq]
    split <;> simp [hs.pending, *]
  · intro g a
    rw [hphase]
    split
    · rename_i hg
      rw [hg]
      refine iff_of_false (by simp) fun hmem => ?_
      have hbound : s.phase s.next = .bound a := (hs.bound _ a).mpr hmem
      rw [hunissued] at hbound
      cases hbound
    · exact hs.bound g a
  · exact List.Nodup.append hs.once (List.nodup_singleton _) (by simpa using hnew)

theorem not_mem_pending (hs : Shows s t) (hphase : s.phase h ≠ .pending) : h ∉ t.pending :=
  mt (hs.pending h).mpr hphase

theorem find_of_bound (hs : Shows s t) (hbound : s.phase h = .bound a) : t.find h = .ok a := by
  rw [find_eq_ok_iff, hs.get?_eq, hbound]
  rfl

theorem find_of_item?_eq_none (hs : Shows s t) (hnone : (s.phase h).item? = none) :
    t.find h = .error (.notFound h) := by
  rw [find, hs.get?_eq, hnone]

end Shows

namespace Call

variable {s : LifeCycle k α} {t : HandleTable k α}

theorem tell_of_ok {β : Type} {f : β → Answer k α} {x : Action k α β} {b : β}
    {t' : HandleTable k α} (h : x t = .ok b t') : tell f x t = (.ok (f b), t') := by
  rw [tell, h]

theorem tell_of_error {β : Type} {f : β → Answer k α} {x : Action k α β} {e : Error}
    {t' : HandleTable k α} (h : x t = .error e t') : tell f x t = (.error e, t') := by
  rw [tell, h]

/-- A table that shows the lives of its handles gives the answer that they demand, and shows how
they go on. -/
theorem apply_of_shows (hs : Shows s t) (c : Call k α) :
    (c.apply t).1 = (c.step s).1 ∧ Shows (c.step s).2 (c.apply t).2 := by
  cases c with
  | allocate =>
      by_cases hroom : s.issued < 2 ^ 31
      · rw [apply, tell_of_ok (allocate_of_le (hs.nextIndex_le.mpr hroom)), hs.next_eq, step,
          if_pos hroom]
        exact ⟨rfl, hs.issue hroom⟩
      · rw [apply, tell_of_error (allocate_of_not_le (mt hs.nextIndex_le.mp hroom)), step,
          if_neg hroom]
        exact ⟨rfl, hs⟩
  | bind h a =>
      cases hphase : s.phase h with
      | pending =>
          rw [apply, tell_of_ok (bind_of_mem ((hs.pending h).mp hphase) a)]
          simp only [step, hphase]
          exact ⟨trivial, hs.bind hphase a⟩
      | unissued | bound | dead =>
          rw [apply, tell_of_error (if_neg (hs.not_mem_pending (by simp [hphase])))]
          simp only [step, hphase]
          exact ⟨trivial, hs⟩
  | insert a =>
      by_cases hroom : s.issued < 2 ^ 31
      · rw [apply, tell_of_ok (insert_of_le (hs.nextIndex_le.mpr hroom) a), hs.next_eq, step,
          if_pos hroom]
        exact ⟨rfl, (hs.issue hroom).bind s.phase_issue_next a⟩
      · rw [apply, tell_of_error (insert_of_not_le (mt hs.nextIndex_le.mp hroom) a), step,
          if_neg hroom]
        exact ⟨rfl, hs⟩
  | abandon h =>
      have habandon : HandleTable.abandon h t = .ok (decide (h ∈ t.pending)) (t.forgo h) := rfl
      rw [apply, tell_of_ok habandon]
      cases hphase : s.phase h with
      | pending =>
          simp only [step, hphase, decide_eq_true ((hs.pending h).mp hphase)]
          exact ⟨trivial, hs.abandon hphase⟩
      | unissued | bound | dead =>
          have hnot := hs.not_mem_pending (h := h) (by simp [hphase])
          simp only [step, hphase, decide_eq_false hnot, forgo, List.erase_of_not_mem hnot]
          exact ⟨trivial, hs⟩
  | release h =>
      rw [apply]
      cases hphase : s.phase h with
      | bound a =>
          rw [tell_of_ok (by rw [HandleTable.release, hs.find_of_bound hphase])]
          simp only [step, hphase]
          exact ⟨trivial, hs.erase hphase⟩
      | unissued | pending | dead =>
          have hmiss := hs.find_of_item?_eq_none (h := h) (by rw [hphase]; rfl)
          rw [tell_of_error (by rw [HandleTable.release, hmiss])]
          simp only [step, hphase]
          exact ⟨trivial, hs⟩
  | change h f =>
      rw [apply, hs.get?_eq]
      cases hphase : s.phase h with
      | bound a =>
          simp only [step, hphase]
          exact ⟨rfl, hs.modify hphase f⟩
      | unissued | pending | dead =>
          simp only [step, hphase]
          refine ⟨rfl, ?_⟩
          rw [modify_of_get?_eq_none (by rw [hs.get?_eq, hphase]; rfl)]
          exact hs
  | update h f =>
      rw [apply]
      cases hphase : s.phase h with
      | bound a =>
          rw [tell_of_ok (by rw [HandleTable.update, hs.find_of_bound hphase])]
          simp only [step, hphase]
          exact ⟨trivial, hs.modify hphase f⟩
      | unissued | pending | dead =>
          have hmiss := hs.find_of_item?_eq_none (h := h) (by rw [hphase]; rfl)
          rw [tell_of_error (by rw [HandleTable.update, hmiss])]
          simp only [step, hphase]
          exact ⟨trivial, hs⟩

/-- A call is refused, or tells that there was nothing to do. -/
def Fails : Except Error (Answer k α) → Prop
  | .error _ => True
  | .ok (.flag b) => b = false
  | .ok (.found a?) => a? = none
  | .ok _ => False

theorem apply_of_fails (t : HandleTable k α) (c : Call k α) (hfails : Fails (c.apply t).1) :
    (c.apply t).2 = t := by
  cases c with
  | allocate =>
      by_cases hroom : t.nextIndex ≤ Handle.lastIndex
      · rw [apply, tell_of_ok (allocate_of_le hroom)] at hfails
        exact hfails.elim
      · rw [apply, tell_of_error (allocate_of_not_le hroom)]
  | bind h a =>
      by_cases hpending : h ∈ t.pending
      · rw [apply, tell_of_ok (bind_of_mem hpending a)] at hfails
        exact hfails.elim
      · rw [apply, tell_of_error (if_neg hpending)]
  | insert a =>
      by_cases hroom : t.nextIndex ≤ Handle.lastIndex
      · rw [apply, tell_of_ok (insert_of_le hroom a)] at hfails
        exact hfails.elim
      · rw [apply, tell_of_error (insert_of_not_le hroom a)]
  | abandon h =>
      have hnot : h ∉ t.pending := of_decide_eq_false hfails
      change t.forgo h = t
      rw [forgo, List.erase_of_not_mem hnot]
  | release h =>
      cases hfind : t.find h with
      | ok a =>
          rw [apply, tell_of_ok (by rw [HandleTable.release, hfind])] at hfails
          exact hfails.elim
      | error e => rw [apply, tell_of_error (by rw [HandleTable.release, hfind])]
  | change h f => exact modify_of_get?_eq_none hfails f
  | update h f =>
      cases hfind : t.find h with
      | ok a =>
          rw [apply, tell_of_ok (by rw [HandleTable.update, hfind])] at hfails
          exact hfails.elim
      | error e => rw [apply, tell_of_error (by rw [HandleTable.update, hfind])]

/-- The handles that the answers issue. -/
def issued? : Except Error (Answer k α) → Option (Handle k)
  | .ok (.handle h) => some h
  | _ => none

theorem reaches_step (hs : Shows s t) (c : Call k α) (g : Handle k) :
    (s.phase g).Reaches ((c.step s).2.phase g) := by
  have hissue : (s.phase s.next).Reaches .pending := by
    rw [hs.phase_next]
    exact Phase.Moves.issue.reaches
  cases c with
  | allocate =>
      rw [step]
      split
      · exact LifeCycle.reaches_set hissue g
      · exact .refl _
  | insert a =>
      rw [step]
      split
      · refine (LifeCycle.reaches_set hissue g).trans
          (LifeCycle.reaches_set (s := s.issue) ?_ g)
        rw [s.phase_issue_next]
        exact (Phase.Moves.bind a).reaches
      · exact .refl _
  | bind h a =>
      cases hphase : s.phase h with
      | pending =>
          simp only [step, hphase]
          exact LifeCycle.reaches_set (hphase ▸ (Phase.Moves.bind a).reaches) g
      | unissued | bound | dead =>
          simp only [step, hphase]
          rfl
  | abandon h =>
      cases hphase : s.phase h with
      | pending =>
          simp only [step, hphase]
          exact LifeCycle.reaches_set (hphase ▸ Phase.Moves.abandon.reaches) g
      | unissued | bound | dead =>
          simp only [step, hphase]
          rfl
  | release h =>
      cases hphase : s.phase h with
      | bound a =>
          simp only [step, hphase]
          exact LifeCycle.reaches_set (hphase ▸ (Phase.Moves.release a).reaches) g
      | unissued | pending | dead =>
          simp only [step, hphase]
          rfl
  | change h f | update h f =>
      cases hphase : s.phase h with
      | bound a =>
          simp only [step, hphase]
          exact LifeCycle.reaches_set (hphase ▸ (Phase.Moves.store a (f a)).reaches) g
      | unissued | pending | dead =>
          simp only [step, hphase]
          rfl

theorem issued_step (hs : Shows s t) (c : Call k α) :
    List.range (c.step s).2.issued =
      List.range s.issued ++ (issued? (c.step s).1).toList.map (·.index.toNat) := by
  have hnext : List.range (s.issued + 1) =
      List.range s.issued ++ [s.next].map (·.index.toNat) := by
    rw [List.range_succ, List.map_singleton, hs.index_next]
  cases c with
  | allocate | insert a =>
      rw [step]
      split
      · exact hnext
      · exact (List.append_nil _).symm
  | bind h | abandon h | release h | change h | update h =>
      cases hphase : s.phase h <;> simp [step, hphase, issued?, LifeCycle.set]

theorem run_append {σ : Type} (f : σ → Call k α → Except Error (Answer k α) × σ) (s : σ)
    (calls more : List (Call k α)) :
    run f s (calls ++ more) =
      ((run f s calls).1 ++ (run f (run f s calls).2 more).1,
        (run f (run f s calls).2 more).2) := by
  induction calls generalizing s with
  | nil => rfl
  | cons c calls ih => simp only [List.cons_append, run, ih]

theorem run_concat {σ : Type} (f : σ → Call k α → Except Error (Answer k α) × σ) (s : σ)
    (calls : List (Call k α)) (c : Call k α) :
    run f s (calls ++ [c]) =
      ((run f s calls).1 ++ [(f (run f s calls).2 c).1], (f (run f s calls).2 c).2) :=
  run_append f s calls [c]

/-- The table after calls to a fresh one. -/
def table (calls : List (Call k α)) : HandleTable k α := (run apply empty calls).2

def answers (calls : List (Call k α)) : List (Except Error (Answer k α)) :=
  (run apply empty calls).1

/-- The lives of the handles after the calls, which say what has to be answered. -/
def lives (calls : List (Call k α)) : LifeCycle k α := (run step .fresh calls).2

def demanded (calls : List (Call k α)) : List (Except Error (Answer k α)) :=
  (run step .fresh calls).1

theorem shows_table (calls : List (Call k α)) :
    answers calls = demanded calls ∧ Shows (lives calls) (table calls) := by
  induction calls using List.reverseRecOn with
  | nil => exact ⟨rfl, shows_fresh⟩
  | append_singleton calls c ih =>
      obtain ⟨hanswers, hshows⟩ := ih
      obtain ⟨hanswer, hshows'⟩ := apply_of_shows hshows c
      rw [answers, demanded, lives, table, run_concat, run_concat]
      refine ⟨?_, hshows'⟩
      exact congrArg₂ (· ++ ·) hanswers (congrArg (fun x => [x]) hanswer)

theorem indices_issued (calls : List (Call k α)) :
    ((answers calls).filterMap issued?).map (·.index.toNat) =
      List.range (lives calls).issued := by
  rw [(shows_table calls).1]
  induction calls using List.reverseRecOn with
  | nil => rfl
  | append_singleton calls c ih =>
      obtain ⟨-, hshows⟩ := shows_table calls
      rw [demanded, lives, run_concat, List.filterMap_append, List.map_append, ← demanded,
        ← lives, ih, issued_step hshows c]
      congr 1

theorem reaches_lives (calls more : List (Call k α)) (h : Handle k) :
    ((lives calls).phase h).Reaches ((lives (calls ++ more)).phase h) := by
  induction more using List.reverseRecOn with
  | nil =>
      rw [List.append_nil]
  | append_singleton more c ih =>
      obtain ⟨-, hshows⟩ := shows_table (calls ++ more)
      refine ih.trans ?_
      rw [← List.append_assoc, lives, lives, run_concat]
      exact reaches_step hshows c h

/-- What the readings of a table say, by the lives of its handles. -/
structure Reads (s : LifeCycle k α) (t : HandleTable k α) : Prop where
  get? : ∀ h, t.get? h = (s.phase h).item?
  find : ∀ h, t.find h = (s.phase h).item?.elim (.error (.notFound h)) .ok
  contains : ∀ h, t.contains h = (s.phase h).item?.isSome
  handlesWhere : ∀ p h, h ∈ t.handlesWhere p ↔ ∃ a, s.phase h = .bound a ∧ p a
  handlesWhere_ascending : ∀ p, (t.handlesWhere p).Pairwise fun g h => g.index < h.index
  handles : ∀ h, h ∈ t.handles ↔ ∃ a, s.phase h = .bound a
  handles_ascending : t.handles.Pairwise fun g h => g.index < h.index
  size : t.size = Set.ncard {h | ∃ a, s.phase h = .bound a}
  isEmpty : t.isEmpty = true ↔ ∀ h a, s.phase h ≠ .bound a

theorem reads_of_shows (hs : Shows s t) : Reads s t := by
  have hmem (p : α → Bool) (h : Handle k) :
      h ∈ t.handlesWhere p ↔ ∃ a, s.phase h = .bound a ∧ p a := by
    simp only [mem_handlesWhere_iff, hs.bound]
  have hascending (p : α → Bool) : (t.handlesWhere p).Pairwise fun g h => g.index < h.index := by
    rw [handlesWhere, List.pairwise_map]
    exact hs.ascending.filter _
  have hmem' (h : Handle k) : h ∈ t.handles ↔ ∃ a, s.phase h = .bound a := by
    simp only [handles_eq t, hmem, and_true]
  have hascending' : t.handles.Pairwise fun g h => g.index < h.index :=
    handles_eq t ▸ hascending _
  refine ⟨hs.get?_eq, ?_, ?_, hmem, hascending, hmem', hascending', ?_, ?_⟩
  · intro h
    rw [HandleTable.find, hs.get?_eq]
    cases (s.phase h).item? <;> rfl
  · intro h
    rw [HandleTable.contains, hs.get?_eq]
  · have hset : {h | ∃ a, s.phase h = .bound a} = (t.handles.toFinset : Set (Handle k)) := by
      ext h
      simp [hmem']
    have hnodup : t.handles.Nodup := by
      refine List.nodup_iff_pairwise_ne.mpr (hascending'.imp ?_)
      rintro g h hlt rfl
      exact UInt32.lt_irrefl _ hlt
    rw [hset, Set.ncard_coe_finset, List.toFinset_card_of_nodup hnodup]
    exact (List.length_map _).symm
  · rw [HandleTable.isEmpty, List.isEmpty_iff, List.eq_nil_iff_forall_not_mem]
    simp only [Prod.forall, hs.bound, ne_eq]

/-- What a table is after calls to a fresh one. -/
structure Refines (calls : List (Call k α)) : Prop where
  answers : answers calls = demanded calls
  shows : Shows (lives calls) (table calls)
  dead : ∀ h, (lives calls).phase h = .dead ↔ h.index.toNat < (lives calls).issued ∧
    h ∉ (table calls).pending ∧ ∀ a, (h, a) ∉ (table calls).items
  reads : Reads (lives calls) (table calls)
  /-- The handles that were issued so far are numbered in their order. -/
  numbered : ((Call.answers calls).filterMap issued?).map (·.index.toNat) =
    List.range (lives calls).issued
  allocate : (apply (table calls) .allocate).1 =
    if (lives calls).issued < 2 ^ 31 then .ok (.handle ⟨.ofNat (lives calls).issued⟩)
    else .error (.handlesExhausted k)
  bind : ∀ h a, (apply (table calls) (.bind h a)).1 = .ok .done ↔ (lives calls).phase h = .pending
  abandon : ∀ h, (apply (table calls) (.abandon h)).1 = .ok (.flag true) ↔
    (lives calls).phase h = .pending
  release : ∀ h a, (apply (table calls) (.release h)).1 = .ok (.item a) ↔
    (lives calls).phase h = .bound a
  /-- Handles only go on. -/
  moves : ∀ more h, ((lives calls).phase h).Reaches ((lives (calls ++ more)).phase h)
  failing : ∀ c : Call k α, Fails (c.apply (table calls)).1 →
    (c.apply (table calls)).2 = table calls

/-- Whatever is done to a fresh table, it answers what the lives of its handles demand and shows
their phases: a handle is issued under the next number, becomes pending, is bound or abandoned, and
is dead once its object is released.  What fails changes nothing. -/
theorem refines_lives (calls : List (Call k α)) : Refines calls := by
  obtain ⟨hanswers, hshows⟩ := shows_table calls
  have hanswer (c : Call k α) : (c.apply (table calls)).1 = (c.step (lives calls)).1 :=
    (apply_of_shows hshows c).1
  refine ⟨hanswers, hshows, hshows.dead, reads_of_shows hshows, indices_issued calls, ?_, ?_, ?_,
    ?_, reaches_lives calls, apply_of_fails _⟩
  · rw [hanswer, step]
    split <;> rfl
  · intro h a
    rw [hanswer]
    cases hphase : (lives calls).phase h <;> simp [step, hphase]
  · intro h
    rw [hanswer]
    cases hphase : (lives calls).phase h <;> simp [step, hphase]
  · intro h a
    rw [hanswer]
    cases hphase : (lives calls).phase h <;> simp [step, hphase, eq_comm]

end Call

end RigidWorlds.HandleTable
