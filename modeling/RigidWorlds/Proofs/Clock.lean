import RigidWorlds.Proofs.Settings
import RigidWorlds.Proofs.SingleNorms
import RigidWorlds.Proofs.Stages

namespace RigidWorlds

open Engine

/-- The time that passes in a world, if it does. -/
def Operation.lapse? (w : Handle .world) : Operation → Option Float32
  | step v dt _ _ | stepDefault v dt => if v = w ∧ 0 < dt then some dt else none
  | _ => none

def Event.lapse? (w : Handle .world) (e : Event) : Option Float32 :=
  e.granted.bind (·.lapse? w)

/-- The times that passed in a world, in their order. -/
def lapses (w : Handle .world) (t : List Event) : List Float32 := t.filterMap (Event.lapse? w)

/-- A clock that was set going with a world, at some times since. -/
structure Engine.World.Counts (world : World) (times : List Float32) : Prop where
  stepCount : world.stepCount = .ofNat times.length
  time : world.time = times.foldl (· + ·) 0

namespace Engine.World

variable {world world' : World} {times : List Float32}

theorem counts_create (gravity : Vec2) (settings : WorldSettings) :
    (create gravity settings).Counts [] := ⟨rfl, rfl⟩

theorem Counts.of_bare (h : world.Counts times) (hbare : world'.bare = world.bare) :
    world'.Counts times :=
  ⟨(congrArg World.stepCount hbare :).trans h.stepCount,
    (congrArg World.time hbare :).trans h.time⟩

theorem Counts.advance (h : world.Counts times) (dt : Float32)
    (velocityIterations positionIterations : UInt32) :
    (world.advance dt velocityIterations positionIterations).Counts (times ++ [dt]) where
  stepCount := by
    rw [List.length_append, List.length_singleton, UInt64.ofNat_add, ← h.stepCount]
    rfl
  time := by
    rw [List.foldl_append, ← h.time]
    rfl

end Engine.World

namespace Operation

variable {config : Config} {op : Operation} {w : Handle .world} {world world' : World}
  {times : List Float32}

theorem MakesWorld.counts (h : op.MakesWorld config w world world') (hcounts : world.Counts times) :
    world'.Counts (times ++ (op.lapse? w).toList) := by
  have hidle : world'.bare = world.bare → world'.Counts (times ++ (none : Option _).toList) := by
    intro hbare
    rw [Option.toList_none, List.append_nil]
    exact hcounts.of_bare hbare
  cases op with
  | step | stepDefault =>
      rw [MakesWorld] at h
      rw [h, lapse?]
      split
      · exact hcounts.advance ..
      · rwa [Option.toList_none, List.append_nil]
  | setWorld v change =>
      obtain rfl : world' = if v = w then change.apply world else world := h
      change World.Counts _ (times ++ (none : Option _).toList)
      rw [Option.toList_none, List.append_nil]
      split
      · cases change <;> exact ⟨hcounts.stepCount, hcounts.time⟩
      · exact hcounts
  | _ => exact hidle h

theorem exists_of_lapse? {s : Simulator} (hs : s.registry.Sound) {op : Operation} {dt : Float32}
    (h : (op.event s).lapse? w = some dt) : ∃ world, s.registry.worlds.get? w = some world := by
  rcases Simulator.perform_cases hs op with ⟨e, heq⟩ | ⟨outcome, s', heq, hok⟩
  · rw [event, heq] at h
    cases h
  · rw [event, heq] at h
    cases op with
    | step | stepDefault =>
        obtain ⟨⟨rfl, -⟩, -⟩ := Option.ite_none_right_eq_some.mp h
        obtain ⟨snapshot, hstep, -⟩ := Transaction.map_eq_ok hok
        obtain ⟨world', hw', -, hsame | hmoved⟩ := Registry.step_eq_ok hstep
        · exact ⟨world', hsame ▸ hw'⟩
        · rw [hmoved] at hw'
          obtain ⟨world, hw, -⟩ := Registry.exists_of_get?_modifyWorld hw'
          exact ⟨world, hw⟩
    | _ => cases h

end Operation

theorem Event.counts_of_makes {config : Config} {e : Event} {w : Handle .world}
    {world world' : World} {times : List Float32} (h : e.MakesWorld config w world world')
    (hcounts : world.Counts times) : world'.Counts (times ++ (e.lapse? w).toList) := by
  unfold MakesWorld at h
  unfold lapse?
  cases hgranted : e.granted with
  | none =>
      rw [hgranted] at h
      rw [h, Option.bind_none, Option.toList_none, List.append_nil]
      exact hcounts
  | some op =>
      rw [hgranted] at h
      exact h.counts hcounts

namespace Simulator

/-- The clocks agree with what the history tells, and no time has passed in a world to come. -/
structure Timed (s : Simulator) (t : List Event) : Prop where
  counts : ∀ {w world}, s.registry.worlds.get? w = some world → world.Counts (lapses w t)
  ahead : ∀ {w : Handle .world}, s.registry.issued .world ≤ w.index.toNat → lapses w t = []

theorem lapses_append (w : Handle .world) (t t' : List Event) :
    lapses w (t ++ t') = lapses w t ++ lapses w t' :=
  List.filterMap_append

theorem lapses_singleton (w : Handle .world) (e : Event) : lapses w [e] = (e.lapse? w).toList := by
  rw [lapses, List.filterMap_cons]
  cases e.lapse? w <;> rfl

theorem timed_start (config : Config) : (start config).Timed [] where
  counts hw := by cases hw
  ahead _ := rfl

theorem Timed.perform {s : Simulator} {t : List Event} (h : s.Timed t) (hs : s.registry.Sound)
    (op : Operation) : (op.perform s).2.Timed (t ++ [op.event s]) where
  counts {w world'} hw' := by
    rw [lapses_append, lapses_singleton]
    rcases world_perform hs hw' with ⟨gravity, allowSleep, rfl, hnew, rfl⟩ | ⟨world, hw, hmakes⟩
    · -- The new world is the next one to be issued.
      have hindex : w.index.toNat = s.registry.issued .world :=
        Operation.index_of_bears hs (o := .world) ⟨rfl, hnew⟩
      rw [h.ahead hindex.ge, Event.lapse?, Event.granted_of_ok hnew]
      exact World.counts_create gravity _
    · exact Event.counts_of_makes hmakes (h.counts hw)
  ahead {w} hahead := by
    rw [lapses_append, lapses_singleton]
    rw [Operation.issued_perform hs] at hahead
    have hbefore : s.registry.issued .world ≤ w.index.toNat :=
      Nat.le_trans (Nat.le_add_right ..) hahead
    rw [h.ahead hbefore, List.nil_append]
    cases hlapse : (op.event s).lapse? w with
    | none => rfl
    | some dt =>
        obtain ⟨world, hw⟩ := Operation.exists_of_lapse? hs hlapse
        exact absurd (hs.worlds.index_lt hw) (Nat.not_lt.mpr hbefore)

theorem timed_performAll (config : Config) (ops : List Operation) :
    ((start config).performAll ops).Timed ((start config).history ops) := by
  induction ops using List.reverseRecOn with
  | nil => exact timed_start config
  | append_singleton ops op ih =>
      rw [performAll_append, history_append]
      exact ih.perform (sound_performAll (sound_start config) ops) op

end Simulator

open Binary

theorem checkNonNegative_of_nonneg {quantity : Quantity} {x : Float32}
    (hfinite : x.isFinite = true) (h : 0 ≤ x) : checkNonNegative quantity x = .ok x := by
  rw [checkNonNegative, hfinite, decide_eq_true h]
  rfl

theorem checkNonNegative_of_refused {quantity : Quantity} {x : Float32}
    (h : x.isFinite = false ∨ x < 0) :
    checkNonNegative quantity x = .error (.invalidParameter (.negative quantity x)) := by
  have hnot : ¬ (x.isFinite && decide (0 ≤ x)) = true := by
    rcases h with hfinite | hneg
    · rw [hfinite]
      exact Bool.false_ne_true
    · rw [decide_eq_false (not_nonneg_of_neg hneg), Bool.and_false]
      exact Bool.false_ne_true
  exact if_neg hnot

theorem toNat_atLeastOne (n : UInt32) : (max n 1).toNat = max n.toNat 1 := by
  by_cases hn : n ≤ 1
  · rw [show max n 1 = 1 from if_pos hn]
    exact (Nat.max_eq_right (UInt32.le_iff_toNat_le.mp hn)).symm
  · rw [show max n 1 = n from if_neg hn]
    exact (Nat.max_eq_left (Nat.le_of_lt (UInt32.lt_iff_toNat_lt.mp (UInt32.not_le.mp hn)))).symm

theorem atLeastOne_atLeastOne (n : UInt32) : max (max n 1) 1 = max n 1 := by
  rw [← UInt32.toNat_inj, toNat_atLeastOne, toNat_atLeastOne, Nat.max_assoc, Nat.max_self]

theorem Engine.World.advance_atLeastOne (world : World) (dt : Float32)
    (velocityIterations positionIterations : UInt32) :
    world.advance dt (max velocityIterations 1) (max positionIterations 1) =
      world.advance dt velocityIterations positionIterations := by
  simp only [advance, toNat_atLeastOne, Nat.max_assoc, Nat.max_self]

theorem Engine.World.advance_congr
    {velocityIterations positionIterations velocityIterations' positionIterations' : UInt32}
    (hvelocity : max velocityIterations 1 = max velocityIterations' 1)
    (hposition : max positionIterations 1 = max positionIterations' 1) (world : World)
    (dt : Float32) :
    world.advance dt velocityIterations positionIterations =
      world.advance dt velocityIterations' positionIterations' := by
  rw [← advance_atLeastOne, hvelocity, hposition, advance_atLeastOne]

theorem Operation.run_step_congr
    {velocityIterations positionIterations velocityIterations' positionIterations' : UInt32}
    (hvelocity : max velocityIterations 1 = max velocityIterations' 1)
    (hposition : max positionIterations 1 = max positionIterations' 1) (w : Handle .world)
    (dt : Float32) :
    (Operation.step w dt velocityIterations positionIterations).run =
      (Operation.step w dt velocityIterations' positionIterations').run := by
  have hadvance := World.advance_congr hvelocity hposition
  simp only [run, Sim.step, hadvance]

theorem perform_stepDefault (w : Handle .world) (dt : Float32) (s : Simulator) :
    (Operation.stepDefault w dt).perform s =
      (Operation.step w dt s.config.velocityIterations s.config.positionIterations).perform s := by
  simp only [Operation.perform, Operation.run, Functor.map, EStateM.map, Sim.stepDefault_eq]

section

variable {s : Simulator} {w : Handle .world} {world : World} {dt : Float32}

theorem perform_step (hs : s.registry.Sound) (hw : s.registry.worlds.get? w = some world)
    (hfinite : dt.isFinite = true) (hle : 0 ≤ dt) (velocityIterations positionIterations : UInt32) :
    (Operation.step w dt velocityIterations positionIterations).perform s =
      if 0 < dt then
        (.ok (.snapshot (.capture (world.advance dt velocityIterations positionIterations))),
          { s with
            registry := s.registry.modifyWorld w
              (·.advance dt velocityIterations positionIterations) })
      else (.ok (.snapshot (.capture world)), s) := by
  simp only [Operation.perform_eq hs, Operation.transact, Transaction.map, Registry.step,
    Registry.world_eq_ok_iff.mpr hw, checkNonNegative_of_nonneg hfinite hle, ok_bind]
  by_cases hpos : 0 < dt
  · simp only [if_pos hpos, pure, Except.pure, ok_bind]
  · simp only [if_neg hpos, pure, Except.pure, ok_bind]

theorem perform_step_of_refused (hs : s.registry.Sound)
    (hw : s.registry.worlds.get? w = some world) (h : dt.isFinite = false ∨ dt < 0)
    (velocityIterations positionIterations : UInt32) :
    (Operation.step w dt velocityIterations positionIterations).perform s =
      (.error (.invalidParameter (.negative .timeStep dt)), s) := by
  simp only [Operation.perform_eq hs, Operation.transact, Transaction.map, Registry.step,
    Registry.world_eq_ok_iff.mpr hw, checkNonNegative_of_refused h, ok_bind, error_bind]

end

open Json

theorem toUInt32_atLeastOne (n : Int32) :
    max (if n < 0 then 0 else n.toUInt32) 1 = (max n 1).toUInt32 := by
  have hone : n ≤ 1 ↔ n.toInt ≤ 1 := Int32.le_iff_toInt_le
  have hword (h : ¬ n < 0) : n.toUInt32.toNat = n.toInt.toNat :=
    Int32.toNat_toUInt32_of_le (Int32.not_lt.mp h)
  by_cases hn : n ≤ 1
  · rw [show max n 1 = 1 from if_pos hn]
    split
    · rfl
    · rename_i h
      refine if_pos (UInt32.le_iff_toNat_le.mpr ?_)
      rw [hword h]
      exact Int.toNat_le.mpr (hone.mp hn)
  · have hpos : ¬ n < 0 := fun h => hn (Int32.le_trans (Int32.le_of_lt h) (by decide))
    rw [show max n 1 = n from if_neg hn, if_neg hpos]
    refine if_neg fun hle => hn (hone.mpr ?_)
    have hnat := UInt32.le_iff_toNat_le.mp hle
    rw [hword hpos] at hnat
    exact Int.toNat_le.mp hnat

namespace Arguments

variable {a a' : Arguments} {i : Nat}

theorem isSome_slot_of_int {n : Int32} (h : a.int i = .ok n) : (a.slot i).isSome := by
  cases hslot : a.slot i with
  | some v => rfl
  | none =>
      rw [int, read, value_eq, hslot] at h
      cases h

theorem expect_congr (hcommand : a.command = a'.command) {count : Nat}
    (hcount : count ≤ maxArguments)
    (hslots : ∀ i < count, (a.slot i).isSome = (a'.slot i).isSome) :
    a.expect count = a'.expect count := by
  by_cases hfilled : ∀ i < count, (a.slot i).isSome
  · rw [expect_of_filled hcount hfilled,
      expect_of_filled hcount fun i hi => hslots i hi ▸ hfilled i hi]
  · push Not at hfilled
    obtain ⟨i, hi, hempty⟩ := hfilled
    rw [expect_of_empty hcount hi (Option.not_isSome_iff_eq_none.mp hempty),
      expect_of_empty hcount hi
        (Option.not_isSome_iff_eq_none.mp (hslots i hi ▸ hempty)), hcommand]

/-- Two requests for a step that differ in their counts below one at most. -/
structure SameStep (a a' : Arguments) : Prop where
  name : a.command = Verb.step.name
  name' : a'.command = Verb.step.name
  world : a.slot 0 = a'.slot 0
  time : a.slot 1 = a'.slot 1
  velocity : ∃ n n', a.int 2 = .ok n ∧ a'.int 2 = .ok n' ∧ max n 1 = max n' 1
  position : ∃ n n', a.int 3 = .ok n ∧ a'.int 3 = .ok n' ∧ max n 1 = max n' 1

end Arguments

theorem Verb.readCount_of_int {a : Arguments} {i : Nat} {n : Int32} (h : a.int i = .ok n) :
    readCount a i = .ok (if n < 0 then 0 else n.toUInt32) := by
  rw [readCount, h]
  rfl

theorem Command.execute_step_congr
    {velocityIterations positionIterations velocityIterations' positionIterations' : UInt32}
    (hvelocity : max velocityIterations 1 = max velocityIterations' 1)
    (hposition : max positionIterations 1 = max positionIterations' 1) (w : Handle .world)
    (dt : Float32) (s : Simulator) :
    (Command.step w dt velocityIterations positionIterations).execute s =
      (Command.step w dt velocityIterations' positionIterations').execute s := by
  simp only [execute, operation, Sim.lift_bind, Operation.run_step_congr hvelocity hposition]

theorem answer_congr_of_sameStep {message message' : String} {a a' : Arguments}
    (h : Command.Asks message a) (h' : Command.Asks message' a') (hsame : a.SameStep a')
    (s : Simulator) : Message.answer s message = Message.answer s message' := by
  obtain ⟨hname, hname', hworld, htime, ⟨n, n', hn, hn', hvelocity⟩, m, m', hm, hm', hposition⟩ :=
    hsame
  have hcommand : a.command = a'.command := hname.trans hname'.symm
  have hexpect : a.expect Verb.step.arity = a'.expect Verb.step.arity := by
    refine Arguments.expect_congr hcommand (by decide) fun i hi => ?_
    replace hi : i < 4 := hi
    interval_cases i
    · rw [hworld]
    · rw [htime]
    · rw [Arguments.isSome_slot_of_int hn, Arguments.isSome_slot_of_int hn']
    · rw [Arguments.isSome_slot_of_int hm, Arguments.isSome_slot_of_int hm']
  have hhandle : a.handle .world 0 = a'.handle .world 0 := Arguments.handle_congr hcommand hworld
  have hfloat : a.float 1 = a'.float 1 := Arguments.read_congr hcommand htime
  rw [Message.answer, Message.answer, Command.parse_of_asks h, Command.parse_of_asks h',
    Command.ofArguments_of_name hname, Command.ofArguments_of_name hname', hexpect]
  cases a'.expect Verb.step.arity with
  | error e => rfl
  | ok u =>
      simp only [ok_bind, Verb.read, hhandle, hfloat, Verb.readCount_of_int hn,
        Verb.readCount_of_int hn', Verb.readCount_of_int hm, Verb.readCount_of_int hm']
      cases a'.handle .world 0 with
      | error e => rfl
      | ok w =>
          cases a'.float 1 with
          | error e => rfl
          | ok dt =>
              have hcounts := congrArg Int32.toUInt32 hvelocity
              have hcounts' := congrArg Int32.toUInt32 hposition
              rw [← toUInt32_atLeastOne, ← toUInt32_atLeastOne] at hcounts hcounts'
              simp only [ok_bind, pure, Except.pure,
                Command.execute_step_congr hcounts hcounts' w dt s]

/-- What is known of steps in a simulator with a history. -/
structure Accounting (config : Config) (s : Simulator) (t : List Event) : Prop where
  /-- Steps are counted, modulo `2 ^ 64`, if they were granted and time passed, and their times are
  added in order. -/
  counted : ∀ {w world}, s.registry.worlds.get? w = some world →
    world.stepCount = .ofNat (lapses w t).length ∧ world.time = (lapses w t).foldl (· + ·) 0
  idle : ∀ {w world dt}, s.registry.worlds.get? w = some world → (dt == 0) = true → ∀ v p,
    (Operation.step w dt v p).perform s = (.ok (.snapshot (.capture world)), s)
  passing : ∀ {w world dt}, s.registry.worlds.get? w = some world → dt.isFinite = true → 0 < dt →
    ∀ v p, (Operation.step w dt v p).perform s =
      (.ok (.snapshot (.capture (world.advance dt v p))),
        { s with registry := s.registry.modifyWorld w (·.advance dt v p) })
  refused : ∀ {w world dt}, s.registry.worlds.get? w = some world →
    dt.isFinite = false ∨ dt < 0 → ∀ v p,
      (Operation.step w dt v p).perform s =
        (.error (.invalidParameter (.negative .timeStep dt)), s)
  configured : ∀ w dt, (Operation.stepDefault w dt).perform s =
    (Operation.step w dt config.velocityIterations config.positionIterations).perform s
  raised : ∀ w dt v p,
    (Operation.step w dt v p).perform s = (Operation.step w dt (max v 1) (max p 1)).perform s
  worded : ∀ {message message' a a'}, Command.Asks message a → Command.Asks message' a' →
    a.SameStep a' → Message.answer s message = Message.answer s message'

/-- In every simulator that a run leads to, the clock of a world shows, modulo `2 ^ 64`, how many
steps were granted in which time passed in it, and it shows the sum of their times.  A step of no
time is granted and changes nothing, and one of a time below zero or beyond all numbers is refused
and changes nothing.  Counts of iterations below one, also those of messages, are as good as one. -/
theorem accounting_performAll (config : Config) (ops : List Operation) :
    Accounting config ((Simulator.start config).performAll ops)
      ((Simulator.start config).history ops) := by
  have hstart := Simulator.sound_start config
  have hs := Simulator.sound_performAll hstart ops
  refine ⟨?_, ?_, ?_, fun hw h v p => perform_step_of_refused hs hw h v p, ?_, ?_,
    fun h h' hsame => answer_congr_of_sameStep h h' hsame _⟩
  · intro w world hw
    have hcounts := (Simulator.timed_performAll config ops).counts hw
    exact ⟨hcounts.stepCount, hcounts.time⟩
  · intro w world dt hw hzero v p
    have hzero' := isZero_of_beq hzero
    rw [perform_step hs hw hzero'.isFinite hzero'.nonneg, if_neg hzero'.not_pos]
  · intro w world dt hw hfinite hpos v p
    rw [perform_step hs hw hfinite (nonneg_of_pos hpos), if_pos hpos]
  · intro w dt
    rw [perform_stepDefault, Simulator.config_performAll hstart]
    rfl
  · intro w dt v p
    rw [Operation.perform, Operation.perform, Operation.run_step_congr
      (atLeastOne_atLeastOne v).symm (atLeastOne_atLeastOne p).symm]

end RigidWorlds
