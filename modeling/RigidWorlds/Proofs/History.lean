import RigidWorlds.Proofs.Ledger

/-!
The history of a run: its operations and their results.  From the history alone it can be told which
handles were issued and which of them resolve.
-/

namespace RigidWorlds

structure Event where
  op : Operation
  result : Except Error Outcome

namespace Event

variable {k : Kind}

/-- An object of the kind is created, that is, the creation is not refused. -/
def creates (k : Kind) (e : Event) : Bool :=
  e.result.isOk && e.op.origin?.any fun o => o.1 = k

/-- The object of a handle is created. -/
def Bears (e : Event) (h : Handle k) (o : Origin k) : Prop :=
  e.op.origin? = some ⟨k, o⟩ ∧ e.result = .ok (.handle h)

/-- The life of a handle ends, if the handle was created as `o`. -/
def covers (h : Handle k) (o : Origin k) (e : Event) : Bool :=
  e.result.isOk && e.op.covers h o

theorem Bears.creates {e : Event} {h : Handle k} {o : Origin k} (hbears : e.Bears h o) :
    e.creates k = true := by
  obtain ⟨hop, hresult⟩ := hbears
  simp [Event.creates, hop, hresult, Except.isOk, Except.toBool]

theorem Bears.unique {e : Event} {h h' : Handle k} {o o' : Origin k} (hbears : e.Bears h o)
    (hbears' : e.Bears h' o') : h = h' ∧ o = o' := by
  obtain ⟨hop, hresult⟩ := hbears
  obtain ⟨hop', hresult'⟩ := hbears'
  rw [hop] at hop'
  rw [hresult] at hresult'
  cases hop'
  cases hresult'
  exact ⟨rfl, rfl⟩

theorem Bears.kind {e : Event} {k' : Kind} {h : Handle k} {o : Origin k} {o' : Origin k'}
    (hbears : e.Bears h o) (hop : e.op.origin? = some ⟨k', o'⟩) : k = k' :=
  congrArg Sigma.fst (Option.some.inj (hbears.1.symm.trans hop))

end Event

/-- Some event of a history created the object of a handle, and no later one ended its life. -/
def Standing {k : Kind} (t : List Event) (h : Handle k) (o : Origin k) : Prop :=
  ∃ before e after, t = before ++ e :: after ∧ e.Bears h o ∧
    ∀ e' ∈ after, e'.covers h o = false

theorem not_standing_nil {k : Kind} {h : Handle k} {o : Origin k} : ¬ Standing [] h o := by
  rintro ⟨before, e, after, hnil, -⟩
  cases before <;> cases hnil

theorem standing_cons {k : Kind} {e : Event} {t : List Event} {h : Handle k} {o : Origin k} :
    Standing (e :: t) h o ↔
      (e.Bears h o ∧ ∀ e' ∈ t, e'.covers h o = false) ∨ Standing t h o := by
  constructor
  · rintro ⟨before, birth, after, heq, hbears, hafter⟩
    cases before with
    | nil =>
        cases heq
        exact .inl ⟨hbears, hafter⟩
    | cons first before =>
        cases heq
        exact .inr ⟨before, birth, after, rfl, hbears, hafter⟩
  · rintro (⟨hbears, hafter⟩ | ⟨before, birth, after, rfl, hbears, hafter⟩)
    · exact ⟨[], e, t, rfl, hbears, hafter⟩
    · exact ⟨e :: before, birth, after, rfl, hbears, hafter⟩

theorem Standing.exists_bears {k : Kind} {t : List Event} {h : Handle k} {o : Origin k}
    (hstanding : Standing t h o) : ∃ e ∈ t, e.Bears h o := by
  obtain ⟨before, e, after, rfl, hbears, -⟩ := hstanding
  exact ⟨e, List.mem_append_right before List.mem_cons_self, hbears⟩

namespace Handle

theorem toInt_toInt32 {n : UInt32} (hn : n.toNat < 2147483648) : n.toInt32.toInt = n.toNat := by
  change n.toBitVec.toInt = n.toBitVec.toNat
  apply BitVec.toInt_eq_toNat_of_lt
  change 2 * n.toNat < 2 ^ 32
  omega

theorem toInt_raw {k : Kind} {h : Handle k} (hbounded : h.index ≤ lastIndex) :
    h.raw.toInt = h.index.toNat := by
  have hle : h.index.toNat ≤ 2 ^ 31 - 1 := UInt32.le_iff_toNat_le.mp hbounded
  exact toInt_toInt32 (by omega)

end Handle

namespace Registry

variable {r : Registry} {k : Kind}

def live (r : Registry) {k : Kind} (h : Handle k) : Bool := (r.table k).contains h

/-- A handle is found when it is looked up in a world.  A world is looked up in itself. -/
def Accepts (r : Registry) (w : Handle .world) : {k : Kind} → Handle k → Prop
  | .world, v => v = w ∧ ∃ world, r.world v = .ok world
  | .body, b => ∃ rec, r.body w b = .ok rec
  | .fixture, f => ∃ rec, r.fixture w f = .ok rec
  | .joint, j => ∃ rec, r.joint w j = .ok rec

theorem live_iff {h : Handle k} : r.live h = true ↔ ∃ o, r.origin? h = some o := by
  rw [← Option.isSome_iff_exists, origin?, Option.isSome_map, live, HandleTable.contains]

end Registry

/-- The world in which the object of a handle is looked up. -/
def Origin.home {k : Kind} (h : Handle k) : Origin k → Handle .world
  | world => h
  | body w => w
  | fixture w _ => w
  | joint w _ _ => w

namespace Registry

variable {r : Registry} {k : Kind}

theorem exists_map_iff {α : Type} {x : Option α} {f : α → Origin k} {owner : α → Handle .world}
    {h : Handle k} {w : Handle .world} (hf : ∀ a, (f a).home h = owner a) :
    (∃ a, x = some a ∧ owner a = w) ↔ ∃ o, x.map f = some o ∧ o.home h = w := by
  constructor
  · rintro ⟨a, rfl, howner⟩
    exact ⟨f a, rfl, (hf a).trans howner⟩
  · rintro ⟨o, ho, hhome⟩
    obtain ⟨a, ha, rfl⟩ := Option.map_eq_some_iff.mp ho
    exact ⟨a, ha, (hf a).symm.trans hhome⟩

theorem Sound.accepts_iff (hs : r.Sound) {h : Handle k} {w : Handle .world} :
    r.Accepts w h ↔ ∃ o, r.origin? h = some o ∧ o.home h = w := by
  cases k with
  | world =>
      simp only [Accepts, world_eq_ok_iff, origin?]
      rw [and_comm, ← exists_and_right]
      exact exists_map_iff fun _ => rfl
  | body =>
      simp only [Accepts, hs.body_eq_ok_iff, slice_bodies_eq_some_iff, origin?]
      exact exists_map_iff fun _ => rfl
  | fixture =>
      simp only [Accepts, hs.fixture_eq_ok_iff, slice_fixtures_eq_some_iff, origin?]
      exact exists_map_iff fun _ => rfl
  | joint =>
      simp only [Accepts, hs.joint_eq_ok_iff, slice_joints_eq_some_iff, origin?]
      exact exists_map_iff fun _ => rfl

theorem Sound.index_lt_issued (hs : r.Sound) {h : Handle k} {o : Origin k}
    (ho : r.origin? h = some o) : h.index.toNat < r.issued k := by
  obtain ⟨rec, hrec, -⟩ := Option.map_eq_some_iff.mp ho
  exact (hs.table k).index_lt hrec

end Registry

namespace Operation

variable {s : Simulator} {k : Kind}

def event (op : Operation) (s : Simulator) : Event := ⟨op, (op.perform s).1⟩

theorem perform_books (hs : s.registry.Sound) (op : Operation) :
    (∃ e, op.perform s = (.error e, s)) ∨
      ∃ outcome s', op.perform s = (.ok outcome, s') ∧
        op.Books outcome s.registry s'.registry :=
  (Simulator.perform_cases hs op).imp_right fun ⟨outcome, s', heq, hok⟩ =>
    ⟨outcome, s', heq, books_transact hs hok⟩

theorem covers_of_origin? {op : Operation} {x : (k : Kind) × Origin k}
    (hop : op.origin? = some x) (h : Handle k) (o : Origin k) : op.covers h o = false := by
  cases op with
  | destroyWorld | deleteBody | deleteFixture | deleteJoint => cases hop
  | _ => rfl

theorem bears_iff {op : Operation} {h h' : Handle k} {o o' : Origin k}
    (hop : op.origin? = some ⟨k, o⟩) :
    (Event.mk op (.ok (.handle h))).Bears h' o' ↔ h' = h ∧ o' = o := by
  simp only [Event.Bears, hop, Option.some.injEq, Sigma.mk.injEq, heq_eq_eq, true_and,
    Except.ok.injEq, Outcome.handle.injEq, and_comm, eq_comm]

theorem origin?_perform (hs : s.registry.Sound) (op : Operation) {h : Handle k} {o : Origin k} :
    (op.perform s).2.registry.origin? h = some o ↔
      (op.event s).Bears h o ∨
        (s.registry.origin? h = some o ∧ (op.event s).covers h o = false) := by
  unfold event
  rcases perform_books hs op with ⟨e, heq⟩ | ⟨outcome, s', heq, hbooks⟩
  · rw [heq]
    simp [Event.Bears, Event.covers, Except.isOk, Except.toBool]
  · rw [heq]
    cases hbooks with
    | strikes hop hbooks =>
        rw [hbooks.kept]
        simp [Event.Bears, Event.covers, hop, Except.isOk, Except.toBool]
    | @enters k' h' o' hop hout hbooks =>
        subst hout
        have hcovers : (Event.mk op (.ok (.handle h'))).covers h o = false := by
          rw [Event.covers, covers_of_origin? hop, Bool.and_false]
        rw [hcovers]
        by_cases hk : k = k'
        · subst hk
          rw [bears_iff hop, hbooks.entered]
          split
          next heq' =>
            subst heq'
            have hnone : s.registry.origin? h ≠ some o :=
              fun ho => absurd hbooks.fresh (Nat.ne_of_lt (hs.index_lt_issued ho))
            simp [hnone, eq_comm]
          next hne => simp [hne]
        · rw [hbooks.others hk]
          have hbears : ¬ (Event.mk op (.ok (.handle h'))).Bears h o :=
            fun hbears => hk (hbears.kind hop)
          simp [hbears]

theorem issued_perform (hs : s.registry.Sound) (op : Operation) (k : Kind) :
    (op.perform s).2.registry.issued k =
      s.registry.issued k + if (op.event s).creates k then 1 else 0 := by
  unfold event
  rcases perform_books hs op with ⟨e, heq⟩ | ⟨outcome, s', heq, hbooks⟩
  · rw [heq]
    rfl
  · rw [heq]
    cases hbooks with
    | strikes hop hbooks =>
        rw [hbooks.issued]
        simp [Event.creates, hop]
    | @enters k' h' o' hop hout hbooks =>
        rw [hbooks.issued]
        by_cases hk : k = k'
        · simp [Event.creates, hop, hk, Except.isOk, Except.toBool]
        · simp [Event.creates, hop, hk, Ne.symm hk]

theorem exists_bears (hs : s.registry.Sound) {op : Operation}
    (hcreates : (op.event s).creates k = true) :
    ∃ (h : Handle k) (o : Origin k), (op.event s).Bears h o ∧
      h.index.toNat = s.registry.issued k ∧ h.index ≤ Handle.lastIndex := by
  unfold event at hcreates ⊢
  rcases perform_books hs op with ⟨e, heq⟩ | ⟨outcome, s', heq, hbooks⟩
  · rw [heq] at hcreates
    cases hcreates
  · rw [heq] at hcreates ⊢
    cases hbooks with
    | strikes hop hbooks => simp [Event.creates, hop] at hcreates
    | @enters k' h' o' hop hout hbooks =>
        have hk : k' = k := by
          simpa [Event.creates, hop, Except.isOk, Except.toBool] using hcreates
        subst hk hout
        exact ⟨h', o', ⟨hop, rfl⟩, hbooks.fresh, hbooks.bounded⟩

end Operation

namespace Simulator

variable {s : Simulator} {k : Kind}

def history (s : Simulator) : List Operation → List Event
  | [] => []
  | op :: ops => op.event s :: history (op.perform s).2 ops

theorem sound_performAll (hs : s.registry.Sound) (ops : List Operation) :
    (s.performAll ops).registry.Sound := by
  induction ops generalizing s with
  | nil => exact hs
  | cons op ops ih => exact ih (Operation.sound_perform hs op)

theorem history_append (s : Simulator) (ops ops' : List Operation) :
    s.history (ops ++ ops') = s.history ops ++ (s.performAll ops).history ops' := by
  induction ops generalizing s with
  | nil => rfl
  | cons op ops ih => exact congrArg (op.event s :: ·) (ih _)

/-- After a run, the handles that resolve are those that stand in its history and those that
resolved before and that it does not cover. -/
theorem origin?_performAll (hs : s.registry.Sound) (ops : List Operation) {h : Handle k}
    {o : Origin k} :
    (s.performAll ops).registry.origin? h = some o ↔
      Standing (s.history ops) h o ∨
        (s.registry.origin? h = some o ∧ ∀ e ∈ s.history ops, e.covers h o = false) := by
  induction ops generalizing s with
  | nil => simp [performAll, history, not_standing_nil]
  | cons op ops ih =>
      -- What resolves after the first operation is what the rest of the run starts with.
      have hrest := ih (Operation.sound_perform hs op)
      rw [Operation.origin?_perform hs op, or_and_right, and_assoc, ← or_assoc] at hrest
      rw [history, standing_cons, List.forall_mem_cons]
      exact hrest.trans (or_congr_left or_comm)

theorem issued_performAll (hs : s.registry.Sound) (ops : List Operation) (k : Kind) :
    (s.performAll ops).registry.issued k =
      s.registry.issued k + (s.history ops).countP (Event.creates k) := by
  induction ops generalizing s with
  | nil => rfl
  | cons op ops ih =>
      have hrest := ih (Operation.sound_perform hs op)
      rw [Operation.issued_perform hs op] at hrest
      rw [history, List.countP_cons]
      refine hrest.trans ?_
      omega

theorem exists_bears_of_getElem? (hs : s.registry.Sound) (ops : List Operation) {i : Nat}
    {e : Event} (hi : ((s.history ops).filter (Event.creates k))[i]? = some e) :
    ∃ (h : Handle k) (o : Origin k), e.Bears h o ∧
      h.index.toNat = s.registry.issued k + i ∧ h.index ≤ Handle.lastIndex := by
  induction ops generalizing s i with
  | nil => cases hi
  | cons op ops ih =>
      -- A creation takes the next number, and the rest of the run counts on from there.
      have hissued := Operation.issued_perform hs op k
      cases hcreates : (op.event s).creates k with
      | false =>
          rw [history, List.filter_cons_of_neg (Bool.eq_false_iff.mp hcreates)] at hi
          rw [hcreates] at hissued
          obtain ⟨h, o, hbears, hindex, hbounded⟩ := ih (Operation.sound_perform hs op) hi
          exact ⟨h, o, hbears, by rw [hindex, hissued]; rfl, hbounded⟩
      | true =>
          rw [history, List.filter_cons_of_pos hcreates] at hi
          rw [hcreates, if_pos rfl] at hissued
          cases i with
          | zero =>
              obtain rfl := Option.some.inj hi
              exact Operation.exists_bears hs hcreates
          | succ i =>
              obtain ⟨h, o, hbears, hindex, hbounded⟩ := ih (Operation.sound_perform hs op) hi
              exact ⟨h, o, hbears, by omega, hbounded⟩

theorem exists_getElem?_of_bears (hs : s.registry.Sound) (ops : List Operation) {e : Event}
    (he : e ∈ s.history ops) {h : Handle k} {o : Origin k} (hbears : e.Bears h o) :
    ∃ i, ((s.history ops).filter (Event.creates k))[i]? = some e ∧
      h.index.toNat = s.registry.issued k + i := by
  have hmem := List.mem_filter.mpr ⟨he, hbears.creates⟩
  obtain ⟨i, hi⟩ := List.mem_iff_getElem?.mp hmem
  obtain ⟨h', o', hbears', hindex, -⟩ := exists_bears_of_getElem? hs ops hi
  obtain ⟨rfl, -⟩ := hbears.unique hbears'
  exact ⟨i, hi, hindex⟩

theorem birth_unique (hs : s.registry.Sound) (ops : List Operation) {e e' : Event}
    (he : e ∈ s.history ops) (he' : e' ∈ s.history ops) {h : Handle k} {o o' : Origin k}
    (hbears : e.Bears h o) (hbears' : e'.Bears h o') : e = e' := by
  obtain ⟨i, hi, hindex⟩ := exists_getElem?_of_bears hs ops he hbears
  obtain ⟨i', hi', hindex'⟩ := exists_getElem?_of_bears hs ops he' hbears'
  obtain rfl : i = i' := by omega
  exact Option.some.inj (hi.symm.trans hi')

theorem origin_unique (hs : s.registry.Sound) (ops : List Operation) {e e' : Event}
    (he : e ∈ s.history ops) (he' : e' ∈ s.history ops) {h : Handle k} {o o' : Origin k}
    (hbears : e.Bears h o) (hbears' : e'.Bears h o') : o = o' := by
  obtain rfl := birth_unique hs ops he he' hbears hbears'
  exact (hbears.unique hbears').2

theorem index_lt_issued_of_bears (hs : s.registry.Sound) (ops : List Operation) {e : Event}
    (he : e ∈ s.history ops) {h : Handle k} {o : Origin k} (hbears : e.Bears h o) :
    h.index.toNat < (s.performAll ops).registry.issued k := by
  obtain ⟨i, hi, hindex⟩ := exists_getElem?_of_bears hs ops he hbears
  have hlt := (List.getElem?_eq_some_iff.mp hi).1
  rw [← List.countP_eq_length_filter] at hlt
  rw [issued_performAll hs]
  omega

theorem origin?_performAll_of_issued (hs : s.registry.Sound) {h : Handle k}
    (hissued : h.index.toNat < s.registry.issued k) (hnone : s.registry.origin? h = none)
    (ops : List Operation) : (s.performAll ops).registry.origin? h = none := by
  cases ho : (s.performAll ops).registry.origin? h with
  | none => rfl
  | some o =>
      rcases (origin?_performAll hs ops).mp ho with hstanding | ⟨hbefore, -⟩
      · obtain ⟨e, he, hbears⟩ := hstanding.exists_bears
        obtain ⟨i, -, hindex⟩ := exists_getElem?_of_bears hs ops he hbears
        omega
      · rw [hnone] at hbefore
        cases hbefore

theorem sound_start (config : Config) : (start config).registry.Sound := Registry.sound_empty

theorem origin?_start (config : Config) (h : Handle k) :
    (start config).registry.origin? h = none := by
  cases k <;> rfl

theorem issued_start (config : Config) (k : Kind) : (start config).registry.issued k = 0 := by
  cases k <;> rfl

end Simulator

/-- What the history of a run from the start tells about the handles. -/
structure Chronicle (s : Simulator) (t : List Event) : Prop where
  numbered : ∀ {k : Kind} {i : Nat} {e : Event}, (t.filter (Event.creates k))[i]? = some e →
    ∃ h : Handle k, e.result = .ok (.handle h) ∧ h.raw.toInt = i
  live : ∀ {k : Kind} {h : Handle k}, s.registry.live h = true ↔ ∃ o, Standing t h o
  accepted : ∀ {k : Kind} {h : Handle k} {w : Handle .world},
    s.registry.Accepts w h ↔ ∃ o, Standing t h o ∧ o.home h = w
  gone : ∀ {k : Kind} {h : Handle k} {o : Origin k}, (∃ e ∈ t, e.Bears h o) →
    ¬ Standing t h o → ∀ more, (s.performAll more).registry.live h = false ∧
      ∀ w, ¬ (s.performAll more).registry.Accepts w h

namespace Simulator

variable {k : Kind}

theorem origin?_iff_standing (config : Config) (ops : List Operation) {h : Handle k}
    {o : Origin k} :
    ((start config).performAll ops).registry.origin? h = some o ↔
      Standing ((start config).history ops) h o := by
  rw [origin?_performAll (sound_start config), origin?_start]
  simp

/-- Handles are numbered in the order in which objects are created, resolve until something that
was done covers them, and never resolve again. -/
theorem chronicle_performAll (config : Config) (ops : List Operation) :
    Chronicle ((start config).performAll ops) ((start config).history ops) where
  numbered := by
    intro k i e hi
    obtain ⟨h, o, hbears, hindex, hbounded⟩ :=
      exists_bears_of_getElem? (sound_start config) ops hi
    refine ⟨h, hbears.2, ?_⟩
    rw [Handle.toInt_raw hbounded, hindex, issued_start, Nat.zero_add]
  live := by
    intro k h
    simp only [Registry.live_iff, origin?_iff_standing]
  accepted := by
    intro k h w
    simp only [(sound_performAll (sound_start config) ops).accepts_iff, origin?_iff_standing]
  gone := by
    rintro k h o ⟨e, he, hbears⟩ hgone more
    have hs := sound_start config
    -- A handle is created once, so it could only resolve as what it was created as.
    have hnone : ((start config).performAll ops).registry.origin? h = none := by
      refine Option.eq_none_iff_forall_ne_some.mpr ?_
      intro o' ho'
      have hstanding := (origin?_iff_standing config ops).mp ho'
      obtain ⟨e', he', hbears'⟩ := hstanding.exists_bears
      obtain rfl := origin_unique hs ops he he' hbears hbears'
      exact hgone hstanding
    have hrun := sound_performAll hs ops
    have hlater := origin?_performAll_of_issued hrun
      (index_lt_issued_of_bears hs ops he hbears) hnone more
    refine ⟨Bool.eq_false_iff.mpr ?_, ?_⟩
    · intro hlive
      obtain ⟨o', ho'⟩ := Registry.live_iff.mp hlive
      rw [hlater] at ho'
      cases ho'
    · intro w haccepts
      obtain ⟨o', ho', -⟩ := (sound_performAll hrun more).accepts_iff.mp haccepts
      rw [hlater] at ho'
      cases ho'

/-- A refused creation takes no number, and the number of what was deleted is not taken again. -/
example :
    let s := (start .initial).performAll [
      .createBody ⟨0⟩ .dynamic ⟨0, 0⟩,
      .createWorld ⟨0, -10⟩ true,
      .createBody ⟨0⟩ .dynamic ⟨0, 0⟩,
      .deleteBody ⟨0⟩ ⟨0⟩,
      .createBody ⟨0⟩ .dynamic ⟨0, 0⟩]
    s.registry.live (⟨0⟩ : Handle .body) = false ∧
      s.registry.live (⟨1⟩ : Handle .body) = true := by
  decide +kernel

end Simulator

end RigidWorlds
