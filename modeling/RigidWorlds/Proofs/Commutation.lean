import RigidWorlds.Proofs.History
import RigidWorlds.Proofs.Renumbering

/-!
Operations on different worlds commute, unless both create an object of the same kind and so compete
for the next handle.  For the second operation, the first one has changed nothing but which handle
comes next of a kind that the second one does not create.
-/

namespace RigidWorlds

namespace Event

variable {e : Event} {k k' : Kind}

theorem exists_origin_of_creates (h : e.creates k = true) :
    ∃ o : Origin k, e.op.origin? = some ⟨k, o⟩ := by
  obtain ⟨-, horigin⟩ := Bool.and_eq_true_iff.mp h
  obtain ⟨⟨j, o⟩, ho, hj⟩ := (Option.any_eq_true ..).mp horigin
  obtain rfl := of_decide_eq_true hj
  exact ⟨o, ho⟩

theorem creates_unique (h : e.creates k = true) (h' : e.creates k' = true) : k' = k := by
  obtain ⟨o, ho⟩ := exists_origin_of_creates h
  obtain ⟨o', ho'⟩ := exists_origin_of_creates h'
  exact congrArg Sigma.fst (Option.some.inj (ho'.symm.trans ho))

end Event

namespace Simulator

theorem eq_of_registry_of_config {s t : Simulator} (hregistry : t.registry = s.registry)
    (hconfig : t.config = s.config) : t = s := by
  cases s
  cases t
  simp only [mk.injEq]
  exact ⟨hregistry, hconfig⟩

/-- The simulator with another handle of a kind to be issued next. -/
def renumber (s : Simulator) (k : Kind) (index : UInt32) : Simulator :=
  { s with registry := s.registry.renumber k index }

end Simulator

namespace Operation

open Registry

variable {s : Simulator} {op op₁ op₂ : Operation} {w w₁ w₂ v : Handle .world} {k : Kind}
  {index : UInt32}

theorem nextIndex_perform (hs : s.registry.Sound) (hk : (op.event s).creates k = false) :
    ((op.perform s).2.registry.table k).nextIndex = (s.registry.table k).nextIndex := by
  have hissued := issued_perform hs op k
  rw [hk] at hissued
  exact UInt32.toNat_inj.mp hissued

theorem exists_issue_of_creates (hs : s.registry.Sound) (hk : (op.event s).creates k = true) :
    ∃ h, (s.registry.table k).issue = .ok h := by
  obtain ⟨h, o, -, hindex, hbounded⟩ := exists_bears hs hk
  have hnext : h.index = (s.registry.table k).nextIndex := UInt32.toNat_inj.mp hindex
  rw [hnext] at hbounded
  exact ⟨_, HandleTable.issue_eq_ok_iff.mpr ⟨hbounded, rfl⟩⟩

theorem agreeOn_perform (hs : s.registry.Sound) (hw : op.world? = some w) (hv : v ≠ w) :
    AgreeOn v s.registry (op.perform s).2.registry ∨
      ∃ k index, (op.event s).creates k = true ∧ (s.registry.renumber k index).Sound ∧
        AgreeOn v (s.registry.renumber k index) (op.perform s).2.registry := by
  have hsame : SameWorld v s.registry (op.perform s).2.registry := confined_perform hs hw v hv
  by_cases hcreates : ∃ k, (op.event s).creates k = true
  · obtain ⟨k, hk⟩ := hcreates
    have hissued := Nat.le.intro (issued_perform hs op k).symm
    have hle : (s.registry.table k).nextIndex ≤ ((op.perform s).2.registry.table k).nextIndex :=
      UInt32.le_iff_toNat_le.mpr hissued
    have hbound := ((sound_perform hs op).table k).bounded
    refine .inr ⟨k, _, hk, hs.renumber hle hbound, ?_, ?_⟩
    · exact (sameWorld_renumber v s.registry k _).symm.trans hsame
    · intro k'
      rw [nextIndex_renumber]
      split
      next heq => rw [heq]
      next hne =>
        refine nextIndex_perform hs (Bool.eq_false_iff.mpr ?_)
        exact fun hk' => hne (Event.creates_unique hk hk')
  · refine .inl ⟨hsame, ?_⟩
    intro k
    exact nextIndex_perform hs (Bool.eq_false_iff.mpr fun hk => hcreates ⟨k, hk⟩)

theorem forgoes_transact (hs : s.registry.Sound) (hissue : ∃ h, (s.registry.table k).issue = .ok h)
    (hk : (op.event s).creates k = false) {k' : Kind} {o : Origin k'}
    (horigin : op.origin? = some ⟨k', o⟩) :
    Forgoes k k' (op.transact s.config) s.registry := by
  rintro rfl
  refine ⟨hissue, ?_⟩
  have hrefused : (op.perform s).1.isOk = false := by
    simpa [event, Event.creates, horigin] using hk
  rw [perform_eq hs] at hrefused
  cases hop : op.transact s.config s.registry with
  | error e => exact ⟨e, rfl⟩
  | ok result =>
      rw [hop] at hrefused
      cases hrefused

theorem perform_renumber (hs : s.registry.Sound) (hs' : (s.registry.renumber k index).Sound)
    (hw : op.world? = some w) (hissue : ∃ h, (s.registry.table k).issue = .ok h)
    (hk : (op.event s).creates k = false) :
    (op.perform (s.renumber k index)).1 = (op.perform s).1 ∧
      (op.perform (s.renumber k index)).2 = (op.perform s).2.renumber k index := by
  have halike : Alike (Renumbered k index) (op.transact s.config s.registry)
      (op.transact s.config (s.registry.renumber k index)) :=
    renumbered_transact hw (forgoes_transact hs hissue hk)
  rw [perform_eq hs, perform_eq (s := s.renumber k index) hs']
  simp only [Simulator.renumber]
  generalize op.transact s.config s.registry = x at halike ⊢
  generalize op.transact s.config (s.registry.renumber k index) = y at halike ⊢
  cases halike with
  | refused e => exact ⟨rfl, rfl⟩
  | answered a hafter =>
      rw [hafter]
      exact ⟨rfl, rfl⟩

theorem perform_after (hs : s.registry.Sound) (h₁ : op₁.world? = some w₁)
    (h₂ : op₂.world? = some w₂) (hne : w₂ ≠ w₁)
    (hkinds : ∀ k, (op₁.event s).creates k = true → (op₂.event s).creates k = false) :
    (op₂.perform (op₁.perform s).2).1 = (op₂.perform s).1 ∧
      SameWorld w₂ (op₂.perform s).2.registry (op₂.perform (op₁.perform s).2).2.registry := by
  have hs₁ := sound_perform hs op₁
  have hconfig := config_perform hs op₁
  rcases agreeOn_perform hs h₁ hne with hagree | ⟨k, index, hk, hsound, hagree⟩
  · have h : Simulator.AgreeOn w₂ s (op₁.perform s).2 := ⟨hconfig, hagree⟩
    obtain ⟨hanswer, hafter⟩ := h.perform hs hs₁ h₂
    exact ⟨hanswer, hafter.registry.same⟩
  · -- To the second operation it is all the same which handle of the kind comes next.
    have h : Simulator.AgreeOn w₂ (s.renumber k index) (op₁.perform s).2 := ⟨hconfig, hagree⟩
    obtain ⟨hanswer, hafter⟩ := h.perform hsound hs₁ h₂
    obtain ⟨hanswer', hrenumber⟩ :=
      perform_renumber hs hsound h₂ (exists_issue_of_creates hs hk) (hkinds k hk)
    refine ⟨hanswer.trans hanswer', ?_⟩
    rw [hrenumber] at hafter
    exact (sameWorld_renumber w₂ _ k index).trans hafter.registry.same

theorem sameWorld_perform_comm (hs : s.registry.Sound) (h₁ : op₁.world? = some w₁)
    (h₂ : op₂.world? = some w₂) (hne : w₁ ≠ w₂)
    (hafter₂ : SameWorld w₂ (op₂.perform s).2.registry (op₂.perform (op₁.perform s).2).2.registry)
    (hafter₁ : SameWorld w₁ (op₁.perform s).2.registry (op₁.perform (op₂.perform s).2).2.registry)
    (v : Handle .world) :
    SameWorld v (op₁.perform (op₂.perform s).2).2.registry
      (op₂.perform (op₁.perform s).2).2.registry := by
  have hs₁ := sound_perform hs op₁
  have hs₂ := sound_perform hs op₂
  by_cases hv₁ : v = w₁
  · subst hv₁
    exact hafter₁.symm.trans (confined_perform hs₁ h₂ v hne)
  · by_cases hv₂ : v = w₂
    · subst hv₂
      exact (confined_perform hs₂ h₁ v hv₁).symm.trans hafter₂
    · -- A world that neither operation is addressed to is as it was.
      have hother₁ := (confined_perform hs h₁ v hv₁).trans (confined_perform hs₁ h₂ v hv₂)
      have hother₂ := (confined_perform hs h₂ v hv₂).trans (confined_perform hs₂ h₁ v hv₁)
      exact hother₂.symm.trans hother₁

theorem nextIndex_perform_comm (hs : s.registry.Sound)
    (hanswer₂ : (op₂.perform (op₁.perform s).2).1 = (op₂.perform s).1)
    (hanswer₁ : (op₁.perform (op₂.perform s).2).1 = (op₁.perform s).1) (k : Kind) :
    ((op₂.perform (op₁.perform s).2).2.registry.table k).nextIndex =
      ((op₁.perform (op₂.perform s).2).2.registry.table k).nextIndex := by
  have hevent₁ : op₁.event (op₂.perform s).2 = op₁.event s := by
    rw [event, hanswer₁, event]
  have hevent₂ : op₂.event (op₁.perform s).2 = op₂.event s := by
    rw [event, hanswer₂, event]
  have hissued₂ := issued_perform (sound_perform hs op₁) op₂ k
  have hissued₁ := issued_perform (sound_perform hs op₂) op₁ k
  rw [hevent₂, issued_perform hs] at hissued₂
  rw [hevent₁, issued_perform hs] at hissued₁
  have hissued := hissued₂.trans ((Nat.add_right_comm ..).trans hissued₁.symm)
  exact UInt32.toNat_inj.mp hissued

end Operation

/-- In every simulator that operations lead to, two operations on different worlds give the same
answers and the same simulator in either order, unless both of them create an object of the same
kind. -/
theorem commute_of_reachable {s : Simulator} (h : s.Reachable) {op₁ op₂ : Operation}
    {w₁ w₂ : Handle .world} (h₁ : op₁.world? = some w₁) (h₂ : op₂.world? = some w₂) (hne : w₁ ≠ w₂)
    (hkinds : ¬ ∃ k, (op₁.event s).creates k = true ∧ (op₂.event s).creates k = true) :
    (op₂.perform (op₁.perform s).2).1 = (op₂.perform s).1 ∧
      (op₁.perform (op₂.perform s).2).1 = (op₁.perform s).1 ∧
        (op₂.perform (op₁.perform s).2).2 = (op₁.perform (op₂.perform s).2).2 := by
  have hs := h.sound
  have hs₁ := Operation.sound_perform hs op₁
  have hs₂ := Operation.sound_perform hs op₂
  obtain ⟨hanswer₂, hafter₂⟩ := Operation.perform_after hs h₁ h₂ hne.symm
    fun k hk₁ => Bool.eq_false_iff.mpr fun hk₂ => hkinds ⟨k, hk₁, hk₂⟩
  obtain ⟨hanswer₁, hafter₁⟩ := Operation.perform_after hs h₂ h₁ hne
    fun k hk₂ => Bool.eq_false_iff.mpr fun hk₁ => hkinds ⟨k, hk₁, hk₂⟩
  refine ⟨hanswer₂, hanswer₁, Simulator.eq_of_registry_of_config ?_ ?_⟩
  · exact Registry.Sound.ext (Operation.sound_perform hs₂ op₁) (Operation.sound_perform hs₁ op₂)
      (Operation.sameWorld_perform_comm hs h₁ h₂ hne hafter₂ hafter₁)
      (Operation.nextIndex_perform_comm hs hanswer₂ hanswer₁)
  · rw [Operation.config_perform hs₁, Operation.config_perform hs₂, Operation.config_perform hs,
      Operation.config_perform hs]

theorem commute_pairOfWorlds :
    let s := Simulator.pairOfWorlds
    let op₁ := Operation.createBody ⟨0⟩ .dynamic ⟨1, 0⟩
    let op₂ := Operation.deleteBody ⟨1⟩ ⟨1⟩
    ((op₁.event s).creates .body = true ∧ (op₂.perform s).1.isOk = true) ∧
      (op₂.perform (op₁.perform s).2).1 = (op₂.perform s).1 ∧
        (op₁.perform (op₂.perform s).2).1 = (op₁.perform s).1 ∧
          (op₂.perform (op₁.perform s).2).2 = (op₁.perform (op₂.perform s).2).2 := by
  intro s op₁ op₂
  have hs : s.Reachable := (Simulator.Reachable.start _).performAll _
  have hkinds : ¬ ∃ k, (op₁.event s).creates k = true ∧ (op₂.event s).creates k = true := by
    rintro ⟨k, -, hdeletes⟩
    cases (Bool.and_false _).symm.trans hdeletes
  have hfirst : op₁.world? = some ⟨0⟩ := rfl
  have hsecond : op₂.world? = some ⟨1⟩ := rfl
  exact ⟨by decide +kernel, commute_of_reachable hs hfirst hsecond (by decide) hkinds⟩

end RigidWorlds
