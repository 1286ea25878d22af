import RigidWorlds.Message.Reply
import RigidWorlds.Proofs.Execution

/-!
The simulators that operations and messages lead to from one that holds nothing.  All of them are
sound, so in every one of them operations are transactions.
-/

namespace RigidWorlds

namespace Operation

theorem perform_eq {s : Simulator} (h : s.registry.Sound) (op : Operation) :
    op.perform s =
      match op.transact s.config s.registry with
      | .ok (outcome, r) => (.ok outcome, { s with registry := r })
      | .error e => (.error e, s) := by
  rw [perform, run_eq_transact h, Transaction.run]
  cases op.transact s.config s.registry <;> rfl

theorem perform_eq_ok_iff {s s' : Simulator} (h : s.registry.Sound) {op : Operation}
    {outcome : Outcome} :
    op.perform s = (.ok outcome, s') ↔
      op.transact s.config s.registry = .ok (outcome, s'.registry) ∧ s'.config = s.config := by
  rw [perform_eq h]
  obtain ⟨registry, config⟩ := s'
  cases op.transact s.config s.registry with
  | error e => simp
  | ok result =>
      obtain ⟨found, r⟩ := result
      simp only [Prod.mk.injEq, Except.ok.injEq, Simulator.mk.injEq]
      constructor
      · rintro ⟨rfl, rfl, rfl⟩
        exact ⟨⟨rfl, rfl⟩, rfl⟩
      · rintro ⟨⟨rfl, rfl⟩, rfl⟩
        exact ⟨rfl, rfl, rfl⟩

end Operation

namespace Simulator

variable {s : Simulator}

theorem perform_cases (hs : s.registry.Sound) (op : Operation) :
    (∃ e, op.perform s = (.error e, s)) ∨
      ∃ outcome s', op.perform s = (.ok outcome, s') ∧
        op.transact s.config s.registry = .ok (outcome, s'.registry) := by
  rw [Operation.perform_eq hs]
  cases hop : op.transact s.config s.registry with
  | error e => exact .inl ⟨e, rfl⟩
  | ok result => exact .inr ⟨_, _, rfl, rfl⟩

theorem keep_perform {P : Registry → Prop} (hs : s.registry.Sound) (op : Operation)
    (h : P s.registry)
    (hkeep : ∀ {outcome r'}, op.transact s.config s.registry = .ok (outcome, r') → P r') :
    P (op.perform s).2.registry := by
  rcases perform_cases hs op with ⟨e, heq⟩ | ⟨outcome, s', heq, hok⟩
  · rwa [heq]
  · rw [heq]
    exact hkeep hok

end Simulator

namespace Operation

theorem perform_eq_error {s s' : Simulator} (h : s.registry.Sound) {op : Operation} {e : Error}
    (herror : op.perform s = (.error e, s')) : s' = s := by
  rcases Simulator.perform_cases h op with ⟨e', heq⟩ | ⟨outcome, s'', heq, -⟩
  · exact (Prod.mk.inj (heq.symm.trans herror)).2.symm
  · cases (Prod.mk.inj (heq.symm.trans herror)).1

theorem config_perform {s : Simulator} (h : s.registry.Sound) (op : Operation) :
    (op.perform s).2.config = s.config := by
  rw [perform_eq h]
  cases op.transact s.config s.registry <;> rfl

theorem sound_perform {s : Simulator} (h : s.registry.Sound) (op : Operation) :
    (op.perform s).2.registry.Sound :=
  Simulator.keep_perform h op h (sound_transact h)

end Operation

namespace Simulator

/-- The simulators that operations lead to. -/
inductive Reachable : Simulator → Prop
  | start (config : Config) : Reachable (.start config)
  | perform {s : Simulator} (h : Reachable s) (op : Operation) : Reachable (op.perform s).2

theorem Reachable.sound {s : Simulator} (h : Reachable s) : s.registry.Sound := by
  induction h with
  | start config => exact Registry.sound_empty
  | perform h op ih => exact Operation.sound_perform ih op

/-- In every simulator that operations lead to, what holds of a registry that holds nothing and is
kept by the transactions of sound registries holds of the registry. -/
theorem Reachable.invariant {P : Registry → Prop} (hempty : P .empty)
    (hkeep : ∀ {config : Config} {op : Operation} {r r' : Registry} {outcome : Outcome},
      r.Sound → P r → op.transact config r = .ok (outcome, r') → P r')
    {s : Simulator} (h : s.Reachable) : P s.registry := by
  induction h with
  | start config => exact hempty
  | perform h op ih => exact keep_perform h.sound op ih (hkeep h.sound ih)

def performAll (s : Simulator) (ops : List Operation) : Simulator :=
  ops.foldl (fun s op => (op.perform s).2) s

theorem performAll_append (s : Simulator) (ops ops' : List Operation) :
    s.performAll (ops ++ ops') = (s.performAll ops).performAll ops' :=
  List.foldl_append

theorem Reachable.performAll {s : Simulator} (h : Reachable s) (ops : List Operation) :
    Reachable (s.performAll ops) := by
  induction ops generalizing s with
  | nil => exact h
  | cons op ops ih => exact ih (h.perform op)

/-- A world with two bodies, a circle attached to the first one and a joint between them. -/
def sample : Simulator :=
  (start .initial).performAll [
    .createWorld ⟨0, -10⟩ true,
    .createBody ⟨0⟩ .dynamic ⟨1, 2⟩,
    .createBody ⟨0⟩ .static ⟨0, 0⟩,
    .createFixture ⟨0⟩ ⟨0⟩ ⟨.circle, 1, 0⟩ .initial,
    .createDefaultJoint ⟨0⟩ ⟨0⟩ ⟨1⟩]

theorem reachable_sample : sample.Reachable := (Reachable.start _).performAll _

end Simulator

namespace Message

theorem answer_eq (s : Simulator) (message : String) :
    (∃ e, answer s message = (.error e, s)) ∨
      ∃ op : Operation, answer s message =
        (((op.perform s).1.mapError .refused).map Outcome.data, (op.perform s).2) := by
  unfold answer
  cases Command.parse message with
  | error e => exact .inl ⟨e, rfl⟩
  | ok command =>
      simp only [Command.execute, Sim.lift_bind]
      cases command.operation with
      | error e => exact .inl ⟨_, rfl⟩
      | ok op =>
          refine .inr ⟨op, ?_⟩
          simp only [Operation.perform]
          cases op.run s <;> rfl

end Message

theorem Simulator.Reachable.handle {s : Simulator} (h : s.Reachable) (message : String) :
    (Message.handle s message).2.Reachable := by
  have hanswer : (Message.handle s message).2 = (Message.answer s message).2 := rfl
  rw [hanswer]
  rcases Message.answer_eq s message with ⟨e, heq⟩ | ⟨op, heq⟩
  · rw [heq]
    exact h
  · rw [heq]
    exact h.perform op

end RigidWorlds
