import RigidWorlds.Proofs.Lasting

/-!
The census of a world: which bodies, colliders and springs there are, which number each is
recognized by and how they hang together.  Only putting objects in and taking them out changes the
census, and a census can follow that on its own.
-/

namespace RigidWorlds.Engine

structure BodyIdentity where
  kind : BodyKind
  tag : Nat
  colliders : List Key
  deriving DecidableEq

structure ColliderIdentity where
  solid : Solid
  tag : Nat
  parent : Key
  deriving DecidableEq

structure SpringIdentity where
  first : Key
  second : Key
  deriving DecidableEq

def Body.identity (b : Body) : BodyIdentity := ⟨b.kind, b.tag, b.colliders⟩

namespace Body

theorem identity_setAdditionalMass (mass : Float32) (b : Body) :
    (b.setAdditionalMass mass).identity = b.identity := by
  unfold setAdditionalMass
  split <;> rfl

theorem identity_rouse (b : Body) : b.rouse.identity = b.identity := by
  unfold rouse
  split <;> rfl

theorem identity_detach (key : Key) (b : Body) :
    (b.detach key).identity =
      { b.identity with colliders := eraseSwapping b.colliders key } := by
  unfold detach
  split
  · rfl
  · rename_i hkey
    rw [eraseSwapping_of_notMem hkey]
    rfl

end Body

def Collider.identity (c : Collider) : ColliderIdentity := ⟨c.solid, c.tag, c.parent⟩

def Spring.identity (s : Spring) : SpringIdentity := ⟨s.first, s.second⟩

def SpringIdentity.involves (s : SpringIdentity) (body : Key) : Bool :=
  s.first = body || s.second = body

@[ext]
structure Census where
  bodies : Arena BodyIdentity
  colliders : Arena ColliderIdentity
  springs : Arena SpringIdentity

namespace World

def census (w : World) : Census where
  bodies := w.bodies.map fun _ b => b.identity
  colliders := w.colliders.map fun _ c => c.identity
  springs := w.springs.map fun _ s => s.identity

end World

namespace Census

def empty : Census := ⟨.empty, .empty, .empty⟩

/-- The keys of the springs between a body and another one. -/
def springsOf (c : Census) (body : Key) : List Key :=
  (c.springs.toList.filter (·.2.involves body)).map (·.1)

def insertBody (c : Census) (kind : BodyKind) (tag : Nat) : Key × Census :=
  let inserted := c.bodies.insert ⟨kind, tag, []⟩
  (inserted.1, { c with bodies := inserted.2 })

/-- Changes which colliders are attached to a body. -/
def changeAttached (c : Census) (body : Key) (f : List Key → List Key) : Census :=
  { c with bodies := c.bodies.modify body fun b => { b with colliders := f b.colliders } }

def insertCollider (c : Census) (solid : Solid) (tag : Nat) (parent : Key) : Key × Census :=
  let inserted := c.colliders.insert ⟨solid, tag, parent⟩
  (inserted.1, { c with colliders := inserted.2 }.changeAttached parent (· ++ [inserted.1]))

def removeCollider (c : Census) (key : Key) : Census :=
  match c.colliders.get? key with
  | none => c
  | some collider =>
      { c with colliders := c.colliders.remove key }.changeAttached collider.parent
        (eraseSwapping · key)

def insertSpring (c : Census) (first second : Key) : Key × Census :=
  let inserted := c.springs.insert ⟨first, second⟩
  (inserted.1, { c with springs := inserted.2 })

def removeSpring (c : Census) (key : Key) : Census := { c with springs := c.springs.remove key }

def removeBody (c : Census) (key : Key) : Census :=
  match c.bodies.get? key with
  | none => c
  | some body =>
      { bodies := c.bodies.remove key
        colliders := body.colliders.foldl Arena.remove c.colliders
        springs := (c.springsOf key).foldl Arena.remove c.springs }

end Census

namespace World

theorem census_create (gravity : Vec2) (settings : WorldSettings) :
    (create gravity settings).census = .empty := rfl

theorem census_lasting (w : World) : w.lasting.census = w.census := by
  simp only [census, lasting, Arena.map_map]
  rfl

theorem census_eq_of_lasting_eq {v w : World} (h : v.lasting = w.lasting) :
    v.census = w.census := by
  rw [← census_lasting v, h, census_lasting]

theorem census_advance (w : World) (dt : Float32)
    (velocityIterations positionIterations : UInt32) :
    (w.advance dt velocityIterations positionIterations).census = w.census :=
  census_eq_of_lasting_eq (lasting_advance ..)

theorem census_mapBodies (w : World) {f : Key → Body → Body}
    (hf : ∀ key b, (f key b).identity = b.identity) : (w.mapBodies f).census = w.census := by
  simp only [census, mapBodies, Arena.map_map, hf]

theorem census_modifyBody (w : World) (key : Key) {f : Body → Body}
    (hf : ∀ b, (f b).identity = b.identity) : (w.modifyBody key f).census = w.census := by
  apply census_mapBodies
  intro k b
  split
  · exact hf b
  · rfl

theorem census_touch (w : World) (key : Key) : (w.touch key).census = w.census := by
  unfold touch
  split <;> rfl

theorem census_stir (w : World) (key : Key) : (w.stir key).census = w.census := by
  unfold stir
  split <;> rfl

theorem census_changeBody (w : World) (key : Key) {f : Body → Body}
    (hf : ∀ b, (f b).identity = b.identity) : (w.changeBody key f).census = w.census := by
  rw [changeBody, census_touch, census_modifyBody w key hf]

theorem census_requestWake (w : World) (keys : List Key) :
    (w.requestWake keys).census = w.census := by
  apply census_mapBodies
  intro key b
  split <;> rfl

theorem census_setMaterial (w : World) (key : Key) (material : Material) :
    (w.setMaterial key material).census = w.census := by
  have hreplace : ∀ f : Collider → Collider, (∀ c, (f c).identity = c.identity) →
      ({ w with colliders := w.colliders.modify key f }.stir key).census = w.census := by
    intro f hf
    rw [census_stir]
    simp only [census, Arena.map_modify fun _ => hf]
  unfold setMaterial
  split
  · rfl
  · dsimp only
    split
    · exact hreplace _ fun _ => rfl
    · rw [census_changeBody, hreplace]
      · intro c
        rfl
      · intro b
        rfl

theorem census_setContinuous (w : World) (enabled : Bool) :
    (w.setContinuous enabled).census = w.census :=
  census_mapBodies w fun _ _ => rfl

theorem census_clearForces (w : World) : w.clearForces.census = w.census :=
  census_mapBodies w fun _ _ => rfl

theorem census_insertBody (w : World) (kind : BodyKind) (place : Vec2) (tag : Nat) :
    w.census.insertBody kind tag =
      ((w.insertBody kind place tag).1, (w.insertBody kind place tag).2.census) := by
  have hinsert : (w.bodies.map fun _ b => b.identity).insert ⟨kind, tag, []⟩ = _ :=
    Arena.map_insert (fun _ b => b.identity) w.bodies
      (Body.create kind place w.settings.allowSleep w.settings.continuous tag)
  simp only [insertBody, census_touch]
  simp only [Census.insertBody, census, hinsert]

theorem census_changeAttached (w : World) (body : Key) {f : Body → Body}
    {g : List Key → List Key}
    (hf : ∀ b, (f b).identity = { b.identity with colliders := g b.colliders }) :
    (w.changeBody body f).census = w.census.changeAttached body g := by
  rw [changeBody, census_touch]
  simp only [census, Census.changeAttached, modifyBody, Arena.modify, Arena.map_map,
    Census.mk.injEq, and_true]
  apply Arena.map_congr
  intro k b
  split
  · exact hf b
  · rfl

theorem census_insertCollider (w : World) (solid : Solid) (material : Material) (tag : Nat)
    (parent : Key) :
    w.census.insertCollider solid tag parent =
      ((w.insertCollider solid material tag parent).1,
        (w.insertCollider solid material tag parent).2.census) := by
  have hinsert : (w.colliders.map fun _ c => c.identity).insert ⟨solid, tag, parent⟩ = _ :=
    Arena.map_insert (fun _ c => c.identity) w.colliders
      (Collider.create solid material tag parent)
  simp only [insertCollider]
  rw [census_changeAttached _ _
    (g := (· ++ [(w.colliders.insert (Collider.create solid material tag parent)).1]))]
  · rw [census_stir]
    simp only [Census.insertCollider, census, hinsert]
  · intro b
    rfl

theorem census_removeCollider (w : World) (key : Key) :
    (w.removeCollider key).census = w.census.removeCollider key := by
  have hget : w.census.colliders.get? key = (w.colliders.get? key).map (·.identity) :=
    Arena.get?_map ..
  unfold removeCollider Census.removeCollider
  rw [hget]
  cases w.colliders.get? key with
  | none => rfl
  | some collider =>
      simp only [Option.map_some]
      rw [census_changeAttached (g := (eraseSwapping · key))]
      · simp only [census, Arena.map_remove]
        rfl
      · intro b
        rw [Body.identity_rouse, Body.identity_detach]

theorem census_insertSpring (w : World) (spring : Spring) :
    w.census.insertSpring spring.first spring.second =
      ((w.insertSpring spring).1, (w.insertSpring spring).2.census) := by
  have hinsert : (w.springs.map fun _ s => s.identity).insert ⟨spring.first, spring.second⟩ = _ :=
    Arena.map_insert (fun _ s => s.identity) w.springs spring
  simp only [insertSpring, census_requestWake]
  simp only [Census.insertSpring, census, hinsert]

theorem census_removeSpring (w : World) (key : Key) :
    (w.removeSpring key).census = w.census.removeSpring key := by
  unfold removeSpring
  split
  · rename_i hnone
    have hcensus : ¬ w.census.springs.contains key := by
      simp [census, Arena.contains, Arena.get?_map, hnone]
    rw [Census.removeSpring, Arena.remove, if_neg hcensus]
  · dsimp only
    rw [census_requestWake]
    simp only [census, Arena.map_remove, Census.removeSpring]

theorem census_foldl_removeSpring (keys : List Key) (w : World) :
    (keys.foldl removeSpring w).census =
      { w.census with springs := keys.foldl Arena.remove w.census.springs } := by
  induction keys generalizing w with
  | nil => rfl
  | cons key keys ih => rw [List.foldl_cons, ih, census_removeSpring]; rfl

theorem springsOf_census (w : World) (body : Key) :
    w.census.springsOf body =
      (w.springs.toList.filter (·.2.involves body)).map (·.1) := by
  simp only [Census.springsOf, census, Arena.toList_map, List.filter_map, List.map_map]
  rfl

theorem census_removeBody (w : World) (key : Key) :
    (w.removeBody key).census = w.census.removeBody key := by
  have hget : w.census.bodies.get? key = (w.bodies.get? key).map (·.identity) :=
    Arena.get?_map ..
  unfold removeBody Census.removeBody
  rw [hget]
  cases w.bodies.get? key with
  | none => rfl
  | some body =>
      dsimp only [Option.map_some]
      rw [census_foldl_removeSpring, springsOf_census]
      simp only [census, Arena.map_remove, Arena.map_foldl_remove]
      rfl

end World

namespace Census

/-- Every collider is attached to a body that is there, and bodies list just the colliders that are
attached to them. -/
structure Coherent (c : Census) : Prop where
  bodies : c.bodies.WellFormed
  colliders : c.colliders.WellFormed
  springs : c.springs.WellFormed
  parented : ∀ {key collider}, c.colliders.get? key = some collider →
    ∃ body, c.bodies.get? collider.parent = some body
  nodup : ∀ {key body}, c.bodies.get? key = some body → body.colliders.Nodup
  listed : ∀ {key body}, c.bodies.get? key = some body → ∀ k,
    k ∈ body.colliders ↔ ∃ collider, c.colliders.get? k = some collider ∧ collider.parent = key

theorem coherent_empty : empty.Coherent where
  bodies := Arena.wellFormed_empty
  colliders := Arena.wellFormed_empty
  springs := Arena.wellFormed_empty
  parented := by
    intro key collider h
    simp [empty, Arena.get?_empty] at h
  nodup := by
    intro key body h
    simp [empty, Arena.get?_empty] at h
  listed := by
    intro key body h
    simp [empty, Arena.get?_empty] at h

theorem mem_springsOf {c : Census} {body key : Key} :
    key ∈ c.springsOf body ↔ ∃ s, c.springs.get? key = some s ∧ s.involves body := by
  simp only [springsOf, List.mem_map, List.mem_filter]
  constructor
  · rintro ⟨⟨key, s⟩, ⟨hmem, hs⟩, rfl⟩
    exact ⟨s, Arena.mem_toList.mp hmem, hs⟩
  · rintro ⟨s, hget, hs⟩
    exact ⟨(key, s), ⟨Arena.mem_toList.mpr hget, hs⟩, rfl⟩

theorem get?_insertBody {c : Census} (h : c.Coherent) (kind : BodyKind) (tag : Nat) (k : Key) :
    (c.insertBody kind tag).2.bodies.get? k =
      if k = (c.insertBody kind tag).1 then some ⟨kind, tag, []⟩ else c.bodies.get? k :=
  Arena.get?_insert h.bodies _ k

theorem get?_insertBody_key {c : Census} (h : c.Coherent) (kind : BodyKind) (tag : Nat) :
    c.bodies.get? (c.insertBody kind tag).1 = none :=
  Arena.get?_insert_key h.bodies _

theorem Coherent.insertBody {c : Census} (h : c.Coherent) (kind : BodyKind) (tag : Nat) :
    (c.insertBody kind tag).2.Coherent where
  bodies := h.bodies.insert _
  colliders := h.colliders
  springs := h.springs
  parented := by
    intro key collider hget
    obtain ⟨body, hbody⟩ := h.parented hget
    refine ⟨body, ?_⟩
    rw [get?_insertBody h, if_neg]
    · exact hbody
    · intro heq
      rw [heq, get?_insertBody_key h] at hbody
      cases hbody
  nodup := by
    intro key body hget
    rw [get?_insertBody h] at hget
    split at hget
    · obtain rfl := Option.some.inj hget
      exact List.nodup_nil
    · exact h.nodup hget
  listed := by
    intro key body hget k
    rw [get?_insertBody h] at hget
    split at hget
    · rename_i heq
      obtain rfl := Option.some.inj hget
      refine ⟨fun hmem => absurd hmem List.not_mem_nil, ?_⟩
      rintro ⟨collider, hcollider, hparent⟩
      obtain ⟨body, hbody⟩ := h.parented hcollider
      rw [hparent, heq, get?_insertBody_key h] at hbody
      cases hbody
    · exact h.listed hget k

theorem wellFormed_changeAttached {c : Census} (h : c.bodies.WellFormed) (body : Key)
    (f : List Key → List Key) : (c.changeAttached body f).bodies.WellFormed := by
  change (c.bodies.modify body fun b => { b with colliders := f b.colliders }).WellFormed
  exact h.modify _ _

theorem get?_changeAttached (c : Census) (body : Key) (f : List Key → List Key) (k : Key) :
    (c.changeAttached body f).bodies.get? k =
      if k = body then (c.bodies.get? k).map fun b => { b with colliders := f b.colliders }
      else c.bodies.get? k :=
  Arena.get?_modify ..

theorem get?_changeAttached_some {c : Census} {body : Key} {f : List Key → List Key} {k : Key}
    {b : BodyIdentity} (h : (c.changeAttached body f).bodies.get? k = some b) :
    ∃ b', c.bodies.get? k = some b' ∧
      b = { b' with colliders := if k = body then f b'.colliders else b'.colliders } := by
  rw [get?_changeAttached] at h
  split at h
  · rename_i heq
    obtain ⟨b', hb', rfl⟩ := Option.map_eq_some_iff.mp h
    exact ⟨b', hb', by rw [if_pos heq]⟩
  · rename_i hne
    exact ⟨b, h, by rw [if_neg hne]⟩

theorem exists_get?_changeAttached {c : Census} (body : Key) (f : List Key → List Key) {k : Key}
    (h : ∃ b, c.bodies.get? k = some b) :
    ∃ b, (c.changeAttached body f).bodies.get? k = some b := by
  obtain ⟨b, hb⟩ := h
  rw [get?_changeAttached, hb]
  split <;> simp

theorem get?_insertCollider {c : Census} (h : c.Coherent) (solid : Solid) (tag : Nat)
    (parent k : Key) :
    (c.insertCollider solid tag parent).2.colliders.get? k =
      if k = (c.insertCollider solid tag parent).1 then some ⟨solid, tag, parent⟩
      else c.colliders.get? k :=
  Arena.get?_insert h.colliders _ k

theorem get?_insertCollider_key {c : Census} (h : c.Coherent) (solid : Solid) (tag : Nat)
    (parent : Key) : c.colliders.get? (c.insertCollider solid tag parent).1 = none :=
  Arena.get?_insert_key h.colliders _

theorem Coherent.insertCollider {c : Census} (h : c.Coherent) (solid : Solid) (tag : Nat)
    {parent : Key} (hparent : ∃ body, c.bodies.get? parent = some body) :
    (c.insertCollider solid tag parent).2.Coherent where
  bodies := by
    apply wellFormed_changeAttached
    exact h.bodies
  colliders := h.colliders.insert _
  springs := h.springs
  parented := by
    intro key collider hget
    apply exists_get?_changeAttached (c := { c with colliders := _ })
    rw [get?_insertCollider h] at hget
    split at hget
    · obtain rfl := Option.some.inj hget
      exact hparent
    · exact h.parented hget
  nodup := by
    intro key body hget
    obtain ⟨b, hb, rfl⟩ := get?_changeAttached_some hget
    have hnew : (c.insertCollider solid tag parent).1 ∉ b.colliders := by
      intro hmem
      obtain ⟨_, hcollider, -⟩ := (h.listed hb _).mp hmem
      rw [get?_insertCollider_key h] at hcollider
      cases hcollider
    split
    · refine List.nodup_append.mpr ⟨h.nodup hb, by simp, ?_⟩
      rintro x hx y hy rfl
      exact hnew (List.mem_singleton.mp hy ▸ hx)
    · exact h.nodup hb
  listed := by
    intro key body hget k
    obtain ⟨b, hb, rfl⟩ := get?_changeAttached_some hget
    have hlisted := h.listed hb k
    by_cases hk : k = (c.insertCollider solid tag parent).1
    · have hnot : k ∉ b.colliders := by
        rw [hlisted, hk, get?_insertCollider_key h]
        simp
      simp only [get?_insertCollider h, if_pos hk]
      split
      · rename_i hkey
        simp [hk, hkey, Census.insertCollider]
      · rename_i hkey
        simp [hnot, Ne.symm hkey]
    · simp only [get?_insertCollider h, if_neg hk, ← hlisted]
      split
      · simp only [List.mem_append, List.mem_singleton]
        exact ⟨fun hmem => hmem.resolve_right hk, Or.inl⟩
      · rfl

theorem get?_removeCollider (c : Census) (key k : Key) :
    (c.removeCollider key).colliders.get? k = if k = key then none else c.colliders.get? k := by
  unfold removeCollider
  split
  · rename_i hnone
    split
    · rename_i hk
      rw [hk, hnone]
    · rfl
  · exact Arena.get?_remove ..

theorem removeCollider_of_get? {c : Census} {key : Key} {collider : ColliderIdentity}
    (hcollider : c.colliders.get? key = some collider) :
    c.removeCollider key =
      { c with colliders := c.colliders.remove key }.changeAttached collider.parent
        (eraseSwapping · key) := by
  simp only [removeCollider, hcollider]

theorem Coherent.removeCollider {c : Census} (h : c.Coherent) (key : Key) :
    (c.removeCollider key).Coherent := by
  cases hcollider : c.colliders.get? key with
  | none => simpa only [Census.removeCollider, hcollider] using h
  | some collider =>
      rw [removeCollider_of_get? hcollider]
      refine ⟨?_, h.colliders.remove key, h.springs, ?_, ?_, ?_⟩
      · apply wellFormed_changeAttached
        exact h.bodies
      · intro k other hget
        apply exists_get?_changeAttached
        simp only [Census.changeAttached, Arena.get?_remove] at hget
        split at hget
        · cases hget
        · exact h.parented hget
      · intro k body hget
        obtain ⟨b, hb, rfl⟩ := get?_changeAttached_some hget
        split
        · exact nodup_eraseSwapping (h.nodup hb) key
        · exact h.nodup hb
      · intro k body hget other
        obtain ⟨b, hb, rfl⟩ := get?_changeAttached_some hget
        have hlisted := h.listed hb other
        simp only [Census.changeAttached, Arena.get?_remove]
        by_cases hother : other = key
        · rw [if_pos hother]
          split
          · simp [mem_eraseSwapping (h.nodup hb), hother]
          · rename_i hk
            have hnot : other ∉ b.colliders := by
              rw [hlisted, hother, hcollider]
              simp [Ne.symm hk]
            simp [hnot]
        · rw [if_neg hother, ← hlisted]
          split
          · simp [mem_eraseSwapping (h.nodup hb), hother]
          · rfl

theorem Coherent.insertSpring {c : Census} (h : c.Coherent) (first second : Key) :
    (c.insertSpring first second).2.Coherent :=
  ⟨h.bodies, h.colliders, h.springs.insert _, h.parented, h.nodup, h.listed⟩

theorem Coherent.removeSpring {c : Census} (h : c.Coherent) (key : Key) :
    (c.removeSpring key).Coherent :=
  ⟨h.bodies, h.colliders, h.springs.remove key, h.parented, h.nodup, h.listed⟩

section

variable {c : Census} {key : Key} {body : BodyIdentity}

theorem removeBody_of_get? (hbody : c.bodies.get? key = some body) :
    c.removeBody key =
      { bodies := c.bodies.remove key
        colliders := body.colliders.foldl Arena.remove c.colliders
        springs := (c.springsOf key).foldl Arena.remove c.springs } := by
  simp only [removeBody, hbody]

theorem get?_removeBody (hbody : c.bodies.get? key = some body) (k : Key) :
    (c.removeBody key).bodies.get? k = if k = key then none else c.bodies.get? k := by
  rw [removeBody_of_get? hbody]
  exact Arena.get?_remove ..

theorem collider_removeBody (h : c.Coherent) (hbody : c.bodies.get? key = some body) {k : Key}
    {collider : ColliderIdentity} :
    (c.removeBody key).colliders.get? k = some collider ↔
      c.colliders.get? k = some collider ∧ collider.parent ≠ key := by
  rw [removeBody_of_get? hbody]
  simp only [Arena.get?_foldl_remove, h.listed hbody k]
  cases hget : c.colliders.get? k with
  | none => simp
  | some other =>
      by_cases hparent : other.parent = key
      · simp only [Option.some.injEq, exists_eq_left', if_pos hparent, reduceCtorEq, false_iff]
        rintro ⟨rfl, hne⟩
        exact hne hparent
      · simp only [Option.some.injEq, exists_eq_left', if_neg hparent]
        constructor
        · rintro rfl
          exact ⟨rfl, hparent⟩
        · exact fun hand => hand.1

theorem spring_removeBody (hbody : c.bodies.get? key = some body) {k : Key}
    {spring : SpringIdentity} :
    (c.removeBody key).springs.get? k = some spring ↔
      c.springs.get? k = some spring ∧ spring.involves key = false := by
  rw [removeBody_of_get? hbody]
  simp only [Arena.get?_foldl_remove, mem_springsOf]
  cases hget : c.springs.get? k with
  | none => simp
  | some other =>
      by_cases hinvolves : other.involves key = true
      · simp only [Option.some.injEq, exists_eq_left', if_pos hinvolves, reduceCtorEq, false_iff]
        rintro ⟨rfl, hfalse⟩
        rw [hinvolves] at hfalse
        cases hfalse
      · simp only [Option.some.injEq, exists_eq_left', if_neg hinvolves]
        constructor
        · rintro rfl
          exact ⟨rfl, Bool.eq_false_iff.mpr hinvolves⟩
        · exact fun hand => hand.1

theorem Coherent.removeBody (h : c.Coherent) (hbody : c.bodies.get? key = some body) :
    (c.removeBody key).Coherent where
  bodies := by
    rw [removeBody_of_get? hbody]
    exact h.bodies.remove key
  colliders := by
    rw [removeBody_of_get? hbody]
    exact h.colliders.foldl_remove _
  springs := by
    rw [removeBody_of_get? hbody]
    exact h.springs.foldl_remove _
  parented := by
    intro k collider hget
    obtain ⟨hcollider, hparent⟩ := (collider_removeBody h hbody).mp hget
    rw [get?_removeBody hbody, if_neg hparent]
    exact h.parented hcollider
  nodup := by
    intro k other hget
    rw [get?_removeBody hbody] at hget
    split at hget
    · cases hget
    · exact h.nodup hget
  listed := by
    intro k other hget attached
    rw [get?_removeBody hbody] at hget
    split at hget
    · cases hget
    · rename_i hk
      rw [h.listed hget attached]
      constructor
      · rintro ⟨collider, hcollider, hparent⟩
        exact ⟨collider, (collider_removeBody h hbody).mpr ⟨hcollider, hparent ▸ hk⟩, hparent⟩
      · rintro ⟨collider, hcollider, hparent⟩
        exact ⟨collider, ((collider_removeBody h hbody).mp hcollider).1, hparent⟩

end

end Census

end RigidWorlds.Engine
