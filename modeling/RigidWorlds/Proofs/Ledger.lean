import RigidWorlds.Proofs.Reachability

/-!
The ledger of a registry: which handles resolve, what each of them was created as and how many were
issued.  An operation enters the handle that it issues and strikes out the handles that it covers.
-/

namespace RigidWorlds

/-- What a handle is created as: the world that the object belongs to and the bodies that it is
attached to. -/
inductive Origin : Kind → Type where
  | world : Origin .world
  | body (w : Handle .world) : Origin .body
  | fixture (w : Handle .world) (b : Handle .body) : Origin .fixture
  | joint (w : Handle .world) (a b : Handle .body) : Origin .joint
  deriving DecidableEq

namespace Origin

variable {k : Kind}

def isIn (w : Handle .world) : Origin k → Bool
  | world => false
  | body v => v = w
  | fixture v _ => v = w
  | joint v _ _ => v = w

def involves (b : Handle .body) : Origin k → Bool
  | world => false
  | body _ => false
  | fixture _ a => a = b
  | joint _ x y => x = b || y = b

end Origin

/-- Equality of handles of any kinds. -/
def Handle.is {k k' : Kind} (h : Handle k) (g : Handle k') : Bool := k = k' && h.index = g.index

theorem Handle.is_iff {k : Kind} {h g : Handle k} : h.is g = true ↔ h = g := by
  cases h
  cases g
  simp [Handle.is]

namespace Operation

/-- What an operation creates, and as what. -/
def origin? : Operation → Option ((k : Kind) × Origin k)
  | createWorld _ _ => some ⟨.world, .world⟩
  | createBody w _ _ => some ⟨.body, .body w⟩
  | createFixture w b _ _ => some ⟨.fixture, .fixture w b⟩
  | createJoint w a b _ => some ⟨.joint, .joint w a b⟩
  | createDefaultJoint w a b => some ⟨.joint, .joint w a b⟩
  | _ => none

/-- Whether the operation ends the life of a handle, if it is not refused. -/
def covers {k : Kind} (h : Handle k) (o : Origin k) : Operation → Bool
  | destroyWorld w => h.is w || o.isIn w
  | deleteBody _ b => h.is b || o.involves b
  | deleteFixture _ f => h.is f
  | deleteJoint _ j => h.is j
  | _ => false

end Operation

namespace Registry

abbrev Record : Kind → Type
  | .world => Engine.World
  | .body => BodyRecord
  | .fixture => FixtureRecord
  | .joint => JointRecord

def Record.origin : {k : Kind} → Record k → Origin k
  | .world, _ => .world
  | .body, rec => .body (BodyRecord.world rec)
  | .fixture, rec => .fixture (FixtureRecord.world rec) (FixtureRecord.body rec)
  | .joint, rec =>
      .joint (JointRecord.world rec) (JointRecord.first rec) (JointRecord.second rec)

def table (r : Registry) : (k : Kind) → HandleTable k (Record k)
  | .world => r.worlds
  | .body => r.bodies
  | .fixture => r.fixtures
  | .joint => r.joints

/-- What a handle that resolves was created as. -/
def origin? (r : Registry) {k : Kind} (h : Handle k) : Option (Origin k) :=
  ((r.table k).get? h).map Record.origin

def issued (r : Registry) (k : Kind) : Nat := (r.table k).nextIndex.toNat

variable {r r' : Registry} {k : Kind}

theorem Sound.table (hs : r.Sound) (k : Kind) : (r.table k).Settled := by
  cases k with
  | world => exact hs.worlds
  | body => exact hs.bodies
  | fixture => exact hs.fixtures
  | joint => exact hs.joints

structure SameLedger (r r' : Registry) : Prop where
  origin : ∀ {k : Kind} (h : Handle k), r'.origin? h = r.origin? h
  issued : r'.issued = r.issued

theorem SameLedger.refl (r : Registry) : SameLedger r r := ⟨fun _ => rfl, rfl⟩

theorem SameLedger.trans {r'' : Registry} (h : SameLedger r r') (h' : SameLedger r' r'') :
    SameLedger r r'' :=
  ⟨fun g => (h'.origin g).trans (h.origin g), h'.issued.trans h.issued⟩

theorem map_origin_modify (t : HandleTable k (Record k)) (g : Handle k)
    {f : Record k → Record k} (hf : ∀ a, (f a).origin = a.origin) (h : Handle k) :
    ((t.modify g f).get? h).map Record.origin = (t.get? h).map Record.origin := by
  rw [HandleTable.get?_modify]
  split
  · rw [Option.map_map]
    congr 1
    funext a
    exact hf a
  · rfl

theorem sameLedger_modifyWorld (r : Registry) (w : Handle .world)
    (f : Engine.World → Engine.World) : SameLedger r (r.modifyWorld w f) := by
  refine ⟨?_, ?_⟩
  · intro k h
    cases k with
    | world => exact map_origin_modify (k := .world) r.worlds w (f := f) (fun _ => rfl) h
    | body | fixture | joint => rfl
  · funext k
    cases k <;> rfl

theorem sameLedger_changeMaterial (r : Registry) (f : Handle .fixture)
    (change : Material → Material) : SameLedger r (r.changeMaterial f change) := by
  refine ⟨?_, ?_⟩
  · intro k h
    cases k with
    | fixture =>
        exact map_origin_modify (k := .fixture) r.fixtures f
          (f := fun rec : FixtureRecord => { rec with material := change rec.material })
          (fun _ => rfl) h
    | world | body | joint => rfl
  · funext k
    cases k <;> rfl

/-- One handle is issued and entered in the ledger. -/
structure Enters (r r' : Registry) (h : Handle k) (o : Origin k) : Prop where
  fresh : h.index.toNat = r.issued k
  bounded : h.index ≤ Handle.lastIndex
  entered : ∀ g : Handle k, r'.origin? g = if g = h then some o else r.origin? g
  others : ∀ {k' : Kind}, k' ≠ k → ∀ g : Handle k', r'.origin? g = r.origin? g
  issued : ∀ k', r'.issued k' = if k' = k then r.issued k' + 1 else r.issued k'

theorem Enters.trans {r'' : Registry} {h : Handle k} {o : Origin k} (he : Enters r r' h o)
    (hs : SameLedger r' r'') : Enters r r'' h o where
  fresh := he.fresh
  bounded := he.bounded
  entered g := (hs.origin g).trans (he.entered g)
  others hne g := (hs.origin g).trans (he.others hne g)
  issued k' := (congrFun hs.issued k').trans (he.issued k')

theorem enters_append (hs : r.Sound) {h : Handle k} (hissue : (r.table k).issue = .ok h)
    (a : Record k) (hself : r'.table k = (r.table k).append a)
    (hothers : ∀ k', k' ≠ k → r'.table k' = r.table k') : Enters r r' h a.origin := by
  obtain ⟨hbounded, rfl⟩ := HandleTable.issue_eq_ok_iff.mp hissue
  refine ⟨rfl, hbounded, ?_, ?_, ?_⟩
  · intro g
    simp only [origin?, hself, HandleTable.get?_append (hs.table k)]
    split <;> rfl
  · intro k' hne g
    rw [origin?, hothers k' hne, origin?]
  · intro k'
    split
    next heq =>
      subst heq
      rw [issued, hself]
      exact HandleTable.toNat_nextIndex_append hissue a
    next hne => rw [issued, hothers k' hne, issued]

theorem enters_addWorld (hs : r.Sound) {w : Handle .world} (hissue : r.worlds.issue = .ok w)
    (world : Engine.World) : Enters r (r.addWorld world) w .world := by
  refine enters_append (k := .world) hs hissue world rfl ?_
  intro k' hne
  cases k' with
  | world => exact absurd rfl hne
  | body | fixture | joint => rfl

theorem enters_addBody (hs : r.Sound) {b : Handle .body} (hissue : r.bodies.issue = .ok b)
    (rec : BodyRecord) (world : Engine.World) :
    Enters r (r.addBody rec world) b (.body rec.world) := by
  have hworld : SameLedger { r with bodies := r.bodies.append rec } (r.addBody rec world) :=
    sameLedger_modifyWorld _ rec.world fun _ => world
  refine Enters.trans ?_ hworld
  refine enters_append (k := .body) hs hissue rec rfl ?_
  intro k' hne
  cases k' with
  | body => exact absurd rfl hne
  | world | fixture | joint => rfl

theorem enters_addFixture (hs : r.Sound) {f : Handle .fixture}
    (hissue : r.fixtures.issue = .ok f) (rec : FixtureRecord) (world : Engine.World) :
    Enters r (r.addFixture rec world) f (.fixture rec.world rec.body) := by
  have hworld : SameLedger { r with fixtures := r.fixtures.append rec } (r.addFixture rec world) :=
    sameLedger_modifyWorld _ rec.world fun _ => world
  refine Enters.trans ?_ hworld
  refine enters_append (k := .fixture) hs hissue rec rfl ?_
  intro k' hne
  cases k' with
  | fixture => exact absurd rfl hne
  | world | body | joint => rfl

theorem enters_addJoint (hs : r.Sound) {j : Handle .joint} (hissue : r.joints.issue = .ok j)
    (rec : JointRecord) (world : Engine.World) :
    Enters r (r.addJoint rec world) j (.joint rec.world rec.first rec.second) := by
  have hworld : SameLedger { r with joints := r.joints.append rec } (r.addJoint rec world) :=
    sameLedger_modifyWorld _ rec.world fun _ => world
  refine Enters.trans ?_ hworld
  refine enters_append (k := .joint) hs hissue rec rfl ?_
  intro k' hne
  cases k' with
  | joint => exact absurd rfl hne
  | world | body | fixture => rfl

/-- Handles are struck out of the ledger. -/
structure Strikes (r r' : Registry) (struck : {k : Kind} → Handle k → Origin k → Bool) : Prop where
  kept : ∀ {k : Kind} {h : Handle k} {o : Origin k},
    r'.origin? h = some o ↔ r.origin? h = some o ∧ struck h o = false
  issued : r'.issued = r.issued

theorem Strikes.trans {r'' : Registry} {struck : {k : Kind} → Handle k → Origin k → Bool}
    (h : Strikes r r' struck) (hs : SameLedger r' r'') : Strikes r r'' struck :=
  ⟨by simp only [hs.origin, h.kept, implies_true], hs.issued.trans h.issued⟩

theorem SameLedger.strikes (hs : SameLedger r r') : Strikes r r' fun _ _ => false :=
  ⟨by simp only [hs.origin, and_true, implies_true], hs.issued⟩

theorem strikes_of_filter {struck : {k : Kind} → Handle k → Origin k → Bool}
    (hkept : ∀ (k : Kind) (h : Handle k),
      (r'.table k).get? h = ((r.table k).get? h).filter fun a => !struck h a.origin)
    (hissued : r'.issued = r.issued) : Strikes r r' struck := by
  refine ⟨?_, hissued⟩
  intro k h o
  rw [origin?, hkept, origin?]
  simp only [Option.map_eq_some_iff, Option.filter_eq_some_iff, Bool.not_eq_true']
  constructor
  · rintro ⟨a, ⟨ha, hstruck⟩, rfl⟩
    exact ⟨⟨a, ha, rfl⟩, hstruck⟩
  · rintro ⟨⟨a, ha, rfl⟩, hstruck⟩
    exact ⟨a, ⟨ha, hstruck⟩, rfl⟩

theorem get?_erase_filter {α : Type} (t : HandleTable k α) (g h : Handle k) :
    (t.erase g).get? h = (t.get? h).filter fun _ => !h.is g := by
  rw [HandleTable.get?_erase]
  by_cases hg : h = g
  · rw [if_pos hg, Handle.is_iff.mpr hg]
    exact (Option.filter_eq_none_iff.mpr fun _ _ => Bool.false_ne_true).symm
  · have hfalse : h.is g = false := Bool.eq_false_iff.mpr fun htrue => hg (Handle.is_iff.mp htrue)
    rw [if_neg hg, hfalse]
    cases t.get? h <;> rfl

theorem filter_true {α : Type} (x : Option α) : (x.filter fun _ => true) = x := by
  cases x <;> rfl

theorem strikes_dropWorld (hs : r.Sound) (w : Handle .world) :
    Strikes r (r.dropWorld w) fun h o => h.is w || Origin.isIn w o := by
  refine strikes_of_filter ?_ ?_
  · intro k h
    cases k with
    | world =>
        refine (get?_erase_filter r.worlds w h).trans ?_
        simp [table, Record.origin, Origin.isIn]
    | body => exact HandleTable.get?_eraseWhere hs.bodies (fun b => b.world = w) h
    | fixture => exact HandleTable.get?_eraseWhere hs.fixtures (fun f => f.world = w) h
    | joint => exact HandleTable.get?_eraseWhere hs.joints (fun j => j.world = w) h
  · funext k
    cases k <;> rfl

theorem strikes_dropBody (hs : r.Sound) (b : Handle .body) (rec : BodyRecord) :
    Strikes r (r.dropBody b rec) fun h o => h.is b || Origin.involves b o := by
  refine Strikes.trans ?_
    (sameLedger_modifyWorld ({ r with bodies := r.bodies.erase b }.releaseBodyObjects b)
      rec.world (·.removeBody rec.native))
  refine strikes_of_filter ?_ ?_
  · intro k h
    cases k with
    | world => exact (filter_true _).symm
    | body =>
        refine (get?_erase_filter r.bodies b h).trans ?_
        simp [table, Record.origin, Origin.involves]
    | fixture => exact HandleTable.get?_eraseWhere hs.fixtures (fun f => f.body = b) h
    | joint => exact HandleTable.get?_eraseWhere hs.joints (·.involves b) h
  · funext k
    cases k <;> rfl

theorem strikes_dropFixture (r : Registry) (f : Handle .fixture) (rec : FixtureRecord) :
    Strikes r (r.dropFixture f rec) fun h _ => h.is f := by
  refine Strikes.trans ?_
    (sameLedger_modifyWorld { r with fixtures := r.fixtures.erase f } rec.world
      (·.removeCollider rec.native))
  refine strikes_of_filter ?_ ?_
  · intro k h
    cases k with
    | fixture => exact get?_erase_filter r.fixtures f h
    | world | body | joint => exact (filter_true _).symm
  · funext k
    cases k <;> rfl

theorem strikes_dropJoint (r : Registry) (j : Handle .joint) (rec : JointRecord) :
    Strikes r (r.dropJoint j rec) fun h _ => h.is j := by
  refine Strikes.trans ?_
    (sameLedger_modifyWorld { r with joints := r.joints.erase j } rec.world
      (·.removeSpring rec.native))
  refine strikes_of_filter ?_ ?_
  · intro k h
    cases k with
    | joint => exact get?_erase_filter r.joints j h
    | world | body | fixture => exact (filter_true _).symm
  · funext k
    cases k <;> rfl

end Registry

namespace Operation

variable {config : Config} {op : Operation} {r r' : Registry} {outcome : Outcome} {k : Kind}

open Registry

/-- What an operation that is not refused does to the ledger. -/
inductive Books (op : Operation) (outcome : Outcome) (r r' : Registry) : Prop
  | enters {k : Kind} (h : Handle k) (o : Origin k) (hop : op.origin? = some ⟨k, o⟩)
      (hout : outcome = .handle h) (hbooks : Enters r r' h o)
  | strikes (hop : op.origin? = none) (hbooks : Strikes r r' fun h o => op.covers h o)

theorem books_of_same (hop : op.origin? = none)
    (hcovers : ∀ {k : Kind} (h : Handle k) (o : Origin k), op.covers h o = false)
    (hs : SameLedger r r') : op.Books outcome r r' := by
  refine .strikes hop ?_
  simp only [hcovers]
  exact hs.strikes

theorem books_of_asks (hasks : op.asks) : op.Books outcome r r := by
  cases op with
  | worlds | readWorld | bodiesOf | lastContacts | readBody | objectContacts | fixtureBody
  | fixtureMaterial | fixtureShape | fixturesOf | jointBodies =>
      exact books_of_same rfl (fun _ _ => rfl) (SameLedger.refl r)
  | _ => cases hasks

theorem books_transact (hs : r.Sound) (hok : op.transact config r = .ok (outcome, r')) :
    op.Books outcome r r' := by
  cases transition_transact hok with
  | @createWorld gravity allowSleep w r' hcreate =>
      obtain ⟨hissue, rfl⟩ := createWorld_eq_ok hcreate
      exact .enters w .world rfl rfl (enters_addWorld hs hissue _)
  | @createBody w kind place b r' hcreate =>
      obtain ⟨world, native, -, hissue, -, rfl⟩ := createBody_eq_ok hcreate
      exact .enters b (.body w) rfl rfl
        ((enters_addBody hs hissue ⟨w, native⟩ _).trans (sameLedger_modifyWorld ..))
  | @createFixture w b shape material f r' hcreate =>
      obtain ⟨solid, rec, world, native, -, -, -, hissue, -, rfl⟩ := createFixture_eq_ok hcreate
      exact .enters f (.fixture w b) rfl rfl
        ((enters_addFixture hs hissue ⟨w, b, native, material⟩ _).trans
          (sameLedger_modifyWorld ..))
  | @createJoint w a b _ j r' hcreate | @createDefaultJoint w a b j r' hcreate =>
      obtain ⟨recA, recB, world, spring, -, -, -, hissue, -, -, -, rfl⟩ :=
        createJoint_eq_ok hcreate
      exact .enters j (.joint w a b) rfl rfl (enters_addJoint hs hissue ⟨w, a, b, _⟩ _)
  | destroyWorld hdestroy =>
      obtain ⟨-, rfl⟩ := destroyWorld_eq_ok hdestroy
      exact .strikes rfl (strikes_dropWorld hs _)
  | deleteBody hdelete =>
      obtain ⟨rec, -, rfl⟩ := deleteBody_eq_ok hdelete
      exact .strikes rfl (strikes_dropBody hs _ rec)
  | deleteFixture hdelete =>
      obtain ⟨rec, body, -, -, rfl⟩ := deleteFixture_eq_ok hdelete
      exact .strikes rfl ((strikes_dropFixture r _ rec).trans (sameLedger_modifyWorld ..))
  | deleteJoint hdelete =>
      obtain ⟨rec, -, rfl⟩ := deleteJoint_eq_ok hdelete
      exact .strikes rfl (strikes_dropJoint r _ rec)
  | setWorld hset =>
      obtain ⟨-, rfl⟩ := changeWorld_eq_ok hset
      exact books_of_same rfl (fun _ _ => rfl) (sameLedger_modifyWorld ..)
  | setBody hset =>
      obtain ⟨rec, -, rfl⟩ := changeBody_eq_ok hset
      exact books_of_same rfl (fun _ _ => rfl) (sameLedger_modifyWorld ..)
  | @setFixture w f change u r' hset =>
      obtain ⟨rec, collider, body, changed, -, -, rfl, rfl⟩ := setFixture_eq_ok hset
      have hchanged := (sameLedger_modifyWorld r w
        (·.setMaterial rec.native (change.apply collider.material))).trans
          (sameLedger_changeMaterial _ f change.apply)
      refine books_of_same rfl (fun _ _ => rfl) ?_
      split
      · exact hchanged.trans (sameLedger_modifyWorld ..)
      · exact hchanged
  | step hstep | stepDefault hstep =>
      refine books_of_same rfl (fun _ _ => rfl) ?_
      obtain ⟨-, -, -, rfl | rfl⟩ := step_eq_ok hstep
      · exact SameLedger.refl _
      · exact sameLedger_modifyWorld ..
  | question hasks => exact books_of_asks hasks

end Operation

end RigidWorlds
