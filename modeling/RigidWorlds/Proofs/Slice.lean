import RigidWorlds.Registry
import RigidWorlds.Proofs.Census
import RigidWorlds.Proofs.HandleTable

/-!
The slice of a registry that belongs to one world, and when it mirrors what the engine of that world
holds: the bodies of the two are one for one, and so are the fixtures and colliders and the joints
and springs, which recognize each other by tags and are attached to the same bodies.
-/

namespace RigidWorlds

open Engine

/-- The records found by handle and the items found by key are one for one: a record names the key
of its item, every item has a record, and the two of them match. -/
structure Mirror {k : Kind} {ρ ι : Type} (records : Handle k → Option ρ) (items : Key → Option ι)
    (native : ρ → Key) (fits : Handle k → ρ → ι → Prop) : Prop where
  present : ∀ {h rec}, records h = some rec →
    ∃ item, items (native rec) = some item ∧ fits h rec item
  covered : ∀ {key item}, items key = some item → ∃ h rec, records h = some rec ∧ native rec = key
  injective : ∀ {h rec g rec'}, records h = some rec → records g = some rec' →
    native rec = native rec' → h = g

namespace Mirror

variable {k : Kind} {ρ ι : Type} {records records' : Handle k → Option ρ}
  {items items' : Key → Option ι} {native : ρ → Key} {fits fits' : Handle k → ρ → ι → Prop}

theorem empty : Mirror (fun _ : Handle k => none) (fun _ => none) native fits := by
  refine ⟨?_, ?_, ?_⟩ <;> simp

theorem insert (hm : Mirror records items native fits) {h : Handle k} {rec : ρ} {item : ι}
    (hfresh : records h = none) (hkey : items (native rec) = none)
    (hrecords : ∀ g, records' g = if g = h then some rec else records g)
    (hitems : ∀ key, items' key = if key = native rec then some item else items key)
    (hfits : fits h rec item) : Mirror records' items' native fits where
  present := by
    intro g other hget
    rw [hrecords] at hget
    split at hget
    · rename_i heq
      obtain rfl := Option.some.inj hget
      exact ⟨item, by rw [hitems, if_pos rfl], heq ▸ hfits⟩
    · obtain ⟨found, hfound, hfit⟩ := hm.present hget
      refine ⟨found, ?_, hfit⟩
      rw [hitems, if_neg, hfound]
      intro heq
      rw [heq, hkey] at hfound
      cases hfound
  covered := by
    intro key found hget
    rw [hitems] at hget
    split at hget
    · rename_i heq
      exact ⟨h, rec, by rw [hrecords, if_pos rfl], heq.symm⟩
    · obtain ⟨g, other, hother, hnative⟩ := hm.covered hget
      refine ⟨g, other, ?_, hnative⟩
      rw [hrecords, if_neg, hother]
      intro heq
      rw [heq, hfresh] at hother
      cases hother
  injective := by
    -- A key that was there already is not the new one.
    have hold : ∀ {g other}, records g = some other → native other ≠ native rec := by
      intro g other hget heq
      obtain ⟨found, hfound, -⟩ := hm.present hget
      rw [heq, hkey] at hfound
      cases hfound
    intro g one g' two hone htwo hnative
    rw [hrecords] at hone htwo
    split at hone <;> split at htwo
    · rename_i hg hg'
      rw [hg, hg']
    · obtain rfl := Option.some.inj hone
      exact absurd hnative.symm (hold htwo)
    · obtain rfl := Option.some.inj htwo
      exact absurd hnative (hold hone)
    · exact hm.injective hone htwo hnative

theorem filter (hm : Mirror records items native fits) (keep : Handle k → ρ → Prop)
    (keepItem : Key → ι → Prop)
    (hrecords : ∀ {h rec}, records' h = some rec ↔ records h = some rec ∧ keep h rec)
    (hitems : ∀ {key item}, items' key = some item ↔ items key = some item ∧ keepItem key item)
    (hkeep : ∀ {h rec item}, records h = some rec → fits h rec item →
      (keep h rec ↔ keepItem (native rec) item)) :
    Mirror records' items' native fits where
  present := by
    intro h rec hget
    obtain ⟨hrec, hk⟩ := hrecords.mp hget
    obtain ⟨item, hitem, hfit⟩ := hm.present hrec
    exact ⟨item, hitems.mpr ⟨hitem, (hkeep hrec hfit).mp hk⟩, hfit⟩
  covered := by
    intro key item hget
    obtain ⟨hitem, hk⟩ := hitems.mp hget
    obtain ⟨h, rec, hrec, rfl⟩ := hm.covered hitem
    obtain ⟨found, hfound, hfit⟩ := hm.present hrec
    obtain rfl := Option.some.inj (hfound.symm.trans hitem)
    exact ⟨h, rec, hrecords.mpr ⟨hrec, (hkeep hrec hfit).mpr hk⟩, rfl⟩
  injective := by
    intro h rec g other hrec hother hnative
    exact hm.injective (hrecords.mp hrec).1 (hrecords.mp hother).1 hnative

theorem erase (hm : Mirror records items native fits) {h : Handle k} {rec : ρ}
    (hrec : records h = some rec)
    (hrecords : ∀ g, records' g = if g = h then none else records g)
    (hitems : ∀ key, items' key = if key = native rec then none else items key) :
    Mirror records' items' native fits := by
  refine hm.filter (fun g _ => g ≠ h) (fun key _ => key ≠ native rec) ?_ ?_ ?_
  · intro g other
    rw [hrecords]
    split <;> simp_all
  · intro key item
    rw [hitems]
    split <;> simp_all
  · intro g other item hother _
    refine not_congr ⟨?_, hm.injective hother hrec⟩
    rintro rfl
    rw [Option.some.inj (hother.symm.trans hrec)]

theorem weaken (hm : Mirror records items native fits)
    (hfits : ∀ {h rec item}, records h = some rec → items (native rec) = some item →
      fits h rec item → fits' h rec item) : Mirror records items native fits' where
  present := by
    intro h rec hrec
    obtain ⟨item, hitem, hfit⟩ := hm.present hrec
    exact ⟨item, hitem, hfits hrec hitem hfit⟩
  covered := hm.covered
  injective := hm.injective

theorem mapItems (hm : Mirror records items native fits) {f : Key → ι → ι}
    (hitems : ∀ key, items' key = (items key).map (f key))
    (hfits : ∀ {h rec item}, fits h rec item → fits h rec (f (native rec) item)) :
    Mirror records items' native fits where
  present := by
    intro h rec hrec
    obtain ⟨item, hitem, hfit⟩ := hm.present hrec
    exact ⟨f (native rec) item, by rw [hitems, hitem, Option.map_some], hfits hfit⟩
  covered := by
    intro key item hget
    rw [hitems] at hget
    obtain ⟨original, horiginal, -⟩ := Option.map_eq_some_iff.mp hget
    exact hm.covered horiginal
  injective := hm.injective

theorem mapRecords (hm : Mirror records items native fits) {f : Handle k → ρ → ρ}
    (hrecords : ∀ h, records' h = (records h).map (f h))
    (hnative : ∀ h rec, native (f h rec) = native rec)
    (hfits : ∀ {h rec item}, fits h rec item → fits h (f h rec) item) :
    Mirror records' items native fits where
  present := by
    intro h rec hget
    rw [hrecords] at hget
    obtain ⟨original, horiginal, rfl⟩ := Option.map_eq_some_iff.mp hget
    obtain ⟨item, hitem, hfit⟩ := hm.present horiginal
    exact ⟨item, by rw [hnative, hitem], hfits hfit⟩
  covered := by
    intro key item hget
    obtain ⟨h, rec, hrec, hkey⟩ := hm.covered hget
    exact ⟨h, f h rec, by rw [hrecords, hrec, Option.map_some], by rw [hnative, hkey]⟩
  injective := by
    intro h rec g other hrec hother heq
    rw [hrecords] at hrec hother
    obtain ⟨one, hone, rfl⟩ := Option.map_eq_some_iff.mp hrec
    obtain ⟨two, htwo, rfl⟩ := Option.map_eq_some_iff.mp hother
    rw [hnative, hnative] at heq
    exact hm.injective hone htwo heq

end Mirror

/-- What a registry knows about one world. -/
@[ext]
structure Slice where
  bodies : Handle .body → Option BodyRecord
  fixtures : Handle .fixture → Option FixtureRecord
  joints : Handle .joint → Option JointRecord

namespace Slice

def empty : Slice := ⟨fun _ => none, fun _ => none, fun _ => none⟩

/-- Whether a body is there and its engine keeps it under the key. -/
def Locates (σ : Slice) (b : Handle .body) (key : Key) : Prop :=
  ∃ rec, σ.bodies b = some rec ∧ rec.native = key

/-- The objects of the slice and of the engine are one for one. -/
structure Mirrors (σ : Slice) (c : Census) : Prop where
  coherent : c.Coherent
  bodies : Mirror σ.bodies c.bodies.get? BodyRecord.native fun b _ body => body.tag = b.tag
  fixtures : Mirror σ.fixtures c.colliders.get? FixtureRecord.native fun f rec collider =>
    collider.tag = f.tag ∧ σ.Locates rec.body collider.parent
  joints : Mirror σ.joints c.springs.get? JointRecord.native fun _ rec spring =>
    rec.first ≠ rec.second ∧ σ.Locates rec.first spring.first ∧
      σ.Locates rec.second spring.second

def addBody (σ : Slice) (b : Handle .body) (rec : BodyRecord) : Slice :=
  { σ with bodies := fun g => if g = b then some rec else σ.bodies g }

def addFixture (σ : Slice) (f : Handle .fixture) (rec : FixtureRecord) : Slice :=
  { σ with fixtures := fun g => if g = f then some rec else σ.fixtures g }

def addJoint (σ : Slice) (j : Handle .joint) (rec : JointRecord) : Slice :=
  { σ with joints := fun g => if g = j then some rec else σ.joints g }

def dropBody (σ : Slice) (b : Handle .body) : Slice where
  bodies := fun g => if g = b then none else σ.bodies g
  fixtures := fun f => (σ.fixtures f).filter (·.body ≠ b)
  joints := fun j => (σ.joints j).filter (!·.involves b)

def dropFixture (σ : Slice) (f : Handle .fixture) : Slice :=
  { σ with fixtures := fun g => if g = f then none else σ.fixtures g }

def dropJoint (σ : Slice) (j : Handle .joint) : Slice :=
  { σ with joints := fun g => if g = j then none else σ.joints g }

def setMaterial (σ : Slice) (f : Handle .fixture) (change : Material → Material) : Slice :=
  { σ with
    fixtures := fun g =>
      (σ.fixtures g).map fun rec =>
        if g = f then { rec with material := change rec.material } else rec }

variable {σ : Slice} {c : Census}

theorem dropFixture_of_none {f : Handle .fixture} (hf : σ.fixtures f = none) :
    σ.dropFixture f = σ := by
  refine Slice.ext rfl (funext fun g => ?_) rfl
  change (if g = f then none else σ.fixtures g) = σ.fixtures g
  split
  · rename_i heq
    rw [heq, hf]
  · rfl

theorem dropJoint_of_none {j : Handle .joint} (hj : σ.joints j = none) : σ.dropJoint j = σ := by
  refine Slice.ext rfl rfl (funext fun g => ?_)
  change (if g = j then none else σ.joints g) = σ.joints g
  split
  · rename_i heq
    rw [heq, hj]
  · rfl

theorem setMaterial_of_none {f : Handle .fixture} (hf : σ.fixtures f = none)
    (change : Material → Material) : σ.setMaterial f change = σ := by
  refine Slice.ext rfl (funext fun g => ?_) rfl
  change (σ.fixtures g).map _ = σ.fixtures g
  by_cases hg : g = f
  · rw [hg, hf, Option.map_none]
  · simp only [if_neg hg, Option.map_id']

theorem mirrors_empty : empty.Mirrors .empty :=
  ⟨Census.coherent_empty, Mirror.empty, Mirror.empty, Mirror.empty⟩

theorem Mirrors.locates_iff (h : σ.Mirrors c) {b : Handle .body} {rec : BodyRecord}
    (hb : σ.bodies b = some rec) {g : Handle .body} {key : Key} (hg : σ.Locates g key) :
    g = b ↔ key = rec.native := by
  obtain ⟨other, hother, rfl⟩ := hg
  constructor
  · rintro rfl
    rw [Option.some.inj (hother.symm.trans hb)]
  · exact h.bodies.injective hother hb

theorem Mirrors.addBody (h : σ.Mirrors c) {b : Handle .body} (hfresh : σ.bodies b = none)
    (w : Handle .world) (kind : BodyKind) :
    (σ.addBody b ⟨w, (c.insertBody kind b.tag).1⟩).Mirrors (c.insertBody kind b.tag).2 := by
  have hlocates : ∀ {g key}, σ.Locates g key →
      (σ.addBody b ⟨w, (c.insertBody kind b.tag).1⟩).Locates g key := by
    rintro g key ⟨rec, hrec, hkey⟩
    refine ⟨rec, ?_, hkey⟩
    change (if g = b then _ else σ.bodies g) = some rec
    rw [if_neg, hrec]
    rintro rfl
    rw [hfresh] at hrec
    cases hrec
  refine ⟨h.coherent.insertBody kind b.tag, ?_, ?_, ?_⟩
  · exact h.bodies.insert hfresh (Census.get?_insertBody_key h.coherent kind b.tag) (fun _ => rfl)
      (Census.get?_insertBody h.coherent kind b.tag) rfl
  · refine h.fixtures.weaken ?_
    rintro f rec collider - - ⟨htag, hparent⟩
    exact ⟨htag, hlocates hparent⟩
  · refine h.joints.weaken ?_
    rintro j rec spring - - ⟨hne, hfirst, hsecond⟩
    exact ⟨hne, hlocates hfirst, hlocates hsecond⟩

theorem Mirrors.bodies_changeAttached (h : σ.Mirrors c) (body : Key) (f : List Key → List Key) :
    Mirror σ.bodies (c.changeAttached body f).bodies.get? BodyRecord.native
      fun b _ item => item.tag = b.tag := by
  refine h.bodies.mapItems
    (f := fun k b => if k = body then { b with colliders := f b.colliders } else b) ?_ ?_
  · intro k
    rw [Census.get?_changeAttached]
    split
    · rfl
    · exact Option.map_id'.symm
  · intro b rec item htag
    split <;> exact htag

theorem Mirrors.addFixture (h : σ.Mirrors c) {f : Handle .fixture}
    (hfresh : σ.fixtures f = none) (w : Handle .world) {b : Handle .body} {parent : Key}
    (hb : σ.Locates b parent) (solid : Solid) (material : Material) :
    (σ.addFixture f ⟨w, b, (c.insertCollider solid f.tag parent).1, material⟩).Mirrors
      (c.insertCollider solid f.tag parent).2 := by
  have hparent : ∃ body, c.bodies.get? parent = some body := by
    obtain ⟨rec, hrec, rfl⟩ := hb
    obtain ⟨body, hbody, -⟩ := h.bodies.present hrec
    exact ⟨body, hbody⟩
  refine ⟨h.coherent.insertCollider solid f.tag hparent, ?_, ?_, h.joints⟩
  · exact h.bodies_changeAttached parent (· ++ [(c.insertCollider solid f.tag parent).1])
  · exact h.fixtures.insert hfresh (Census.get?_insertCollider_key h.coherent solid f.tag parent)
      (fun _ => rfl) (Census.get?_insertCollider h.coherent solid f.tag parent) ⟨rfl, hb⟩

theorem Mirrors.addJoint (h : σ.Mirrors c) {j : Handle .joint} (hfresh : σ.joints j = none)
    (w : Handle .world) {a b : Handle .body} (hne : a ≠ b) {first second : Key}
    (hfirst : σ.Locates a first) (hsecond : σ.Locates b second) :
    (σ.addJoint j ⟨w, a, b, (c.insertSpring first second).1⟩).Mirrors
      (c.insertSpring first second).2 := by
  refine ⟨h.coherent.insertSpring first second, h.bodies, h.fixtures, ?_⟩
  exact h.joints.insert hfresh (Arena.get?_insert_key h.coherent.springs _) (fun _ => rfl)
    (Arena.get?_insert h.coherent.springs _) ⟨hne, hfirst, hsecond⟩

theorem Mirrors.dropFixture (h : σ.Mirrors c) {f : Handle .fixture} {rec : FixtureRecord}
    (hrec : σ.fixtures f = some rec) :
    (σ.dropFixture f).Mirrors (c.removeCollider rec.native) := by
  obtain ⟨collider, hcollider, -⟩ := h.fixtures.present hrec
  have hitems := Census.get?_removeCollider c rec.native
  have hcoherent := h.coherent.removeCollider rec.native
  rw [Census.removeCollider_of_get? hcollider] at hitems hcoherent ⊢
  refine ⟨hcoherent, ?_, ?_, h.joints⟩
  · exact h.bodies_changeAttached collider.parent (eraseSwapping · rec.native)
  · exact h.fixtures.erase hrec (fun _ => rfl) hitems

theorem Mirrors.dropJoint (h : σ.Mirrors c) {j : Handle .joint} {rec : JointRecord}
    (hrec : σ.joints j = some rec) : (σ.dropJoint j).Mirrors (c.removeSpring rec.native) :=
  ⟨h.coherent.removeSpring rec.native, h.bodies, h.fixtures,
    h.joints.erase hrec (fun _ => rfl) (Arena.get?_remove c.springs rec.native)⟩

theorem Mirrors.dropBody (h : σ.Mirrors c) {b : Handle .body} {rec : BodyRecord}
    (hrec : σ.bodies b = some rec) : (σ.dropBody b).Mirrors (c.removeBody rec.native) := by
  obtain ⟨body, hbody, -⟩ := h.bodies.present hrec
  have hlocates : ∀ {g key}, g ≠ b → σ.Locates g key → (σ.dropBody b).Locates g key := by
    rintro g key hne ⟨other, hother, hkey⟩
    exact ⟨other, by rw [← hother]; exact if_neg hne, hkey⟩
  refine ⟨h.coherent.removeBody hbody, ?_, ?_, ?_⟩
  · exact h.bodies.erase hrec (fun _ => rfl) (Census.get?_removeBody hbody)
  · refine (h.fixtures.filter (fun _ f => f.body ≠ b)
      (fun _ collider => collider.parent ≠ rec.native) ?_ ?_ ?_).weaken ?_
    · simp [Slice.dropBody, Option.filter_eq_some_iff]
    · exact Census.collider_removeBody h.coherent hbody
    · rintro f other collider - ⟨-, hparent⟩
      exact not_congr (h.locates_iff hrec hparent)
    · rintro f other collider hother - ⟨htag, hparent⟩
      have hkept : other.body ≠ b := by
        simpa using (Option.filter_eq_some_iff.mp hother).2
      exact ⟨htag, hlocates hkept hparent⟩
  · refine (h.joints.filter (fun _ j => j.involves b = false)
      (fun _ spring => spring.involves rec.native = false) ?_ ?_ ?_).weaken ?_
    · simp [Slice.dropBody, Option.filter_eq_some_iff]
    · exact Census.spring_removeBody hbody
    · rintro j other spring - ⟨-, hfirst, hsecond⟩
      simp only [JointRecord.involves, SpringIdentity.involves, h.locates_iff hrec hfirst,
        h.locates_iff hrec hsecond]
    · rintro j other spring hother - ⟨hne, hfirst, hsecond⟩
      have hkept : other.first ≠ b ∧ other.second ≠ b := by
        simpa [JointRecord.involves] using (Option.filter_eq_some_iff.mp hother).2
      exact ⟨hne, hlocates hkept.1 hfirst, hlocates hkept.2 hsecond⟩

theorem Mirrors.dropBody_of_none (h : σ.Mirrors c) {b : Handle .body} (hb : σ.bodies b = none) :
    σ.dropBody b = σ := by
  have hother : ∀ {g key}, σ.Locates g key → g ≠ b := by
    rintro g key ⟨rec, hrec, -⟩ rfl
    rw [hb] at hrec
    cases hrec
  refine Slice.ext (funext fun g => ?_) (funext fun f => ?_) (funext fun j => ?_)
  · change (if g = b then none else σ.bodies g) = σ.bodies g
    split
    · rename_i heq
      rw [heq, hb]
    · rfl
  · cases hf : σ.fixtures f with
    | none => simp [Slice.dropBody, hf]
    | some rec =>
        obtain ⟨_, -, -, hparent⟩ := h.fixtures.present hf
        simp [Slice.dropBody, hf, Option.filter_some, hother hparent]
  · cases hj : σ.joints j with
    | none => simp [Slice.dropBody, hj]
    | some rec =>
        obtain ⟨_, -, -, hfirst, hsecond⟩ := h.joints.present hj
        simp [Slice.dropBody, hj, Option.filter_some, JointRecord.involves, hother hfirst,
          hother hsecond]

theorem Mirrors.setMaterial (h : σ.Mirrors c) (f : Handle .fixture)
    (change : Material → Material) : (σ.setMaterial f change).Mirrors c := by
  refine ⟨h.coherent, h.bodies, ?_, h.joints⟩
  refine h.fixtures.mapRecords (fun _ => rfl) ?_ ?_
  · intro g rec
    split <;> rfl
  · intro g rec collider hfit
    split <;> exact hfit

end Slice

end RigidWorlds
