import Mathlib
import RigidWorlds.Proofs.Contacts
import RigidWorlds.Proofs.Strangers

/-!
The two questions about contacts agree.  One goes through the pairs of a world, the other through
the colliders of a body and then through the pairs of each; since a pair is of colliders of
different bodies, both count it once for each of its two bodies.
-/

namespace RigidWorlds

open Engine

theorem sum_map_ite {α : Type} (l : List α) (q : α → Bool) :
    (l.map fun a => if q a then 1 else 0).sum = l.countP q := by
  induction l with
  | nil => rfl
  | cons a l ih => rw [List.map_cons, List.sum_cons, ih, List.countP_cons, Nat.add_comm]

theorem sum_countP_comm {α β : Type} (l : List α) (m : List β) (q : α → β → Bool) :
    (l.map fun a => m.countP (q a)).sum = (m.map fun b => l.countP (q · b)).sum := by
  induction m with
  | nil => simp
  | cons b m ih =>
      simp only [List.countP_cons, List.map_cons, List.sum_cons]
      rw [List.sum_map_add, ih, sum_map_ite, Nat.add_comm]

namespace Engine

/-- Whether one collider of a pair is reported as a body and the other one as another body. -/
def World.joins (w : World) (a b : Handle .body) (p : Pair) : Bool :=
  (w.bodyOf? p.first = some a && w.bodyOf? p.second = some b) ||
    (w.bodyOf? p.first = some b && w.bodyOf? p.second = some a)

theorem World.joins_comm (w : World) (a b : Handle .body) : w.joins a b = w.joins b a := by
  funext p
  exact Bool.or_comm ..

/-- Whether a pair of a collider is of one that is reported as the body. -/
def World.meets (w : World) (b : Handle .body) (collider : Key) (p : Pair) : Bool :=
  p.involves collider && w.bodyOf? (p.other collider) = some b

theorem World.count_neighbors (w : World) (body : Body) (b : Handle .body) :
    (w.neighbors body).count b =
      (w.pairs.map fun p => body.colliders.countP fun key => w.meets b key p).sum := by
  rw [← sum_countP_comm, World.neighbors, List.count_flatMap]
  congr 1
  apply List.map_congr_left
  intro key _
  rw [Function.comp_apply, List.count, List.countP_filterMap, List.countP_filter]
  apply List.countP_congr
  intro p _
  cases hother : w.bodyOf? (p.other key) <;> simp [World.meets, hother, and_comm]

theorem World.joins_iff {w : World} {a b : Handle .body} {p : Pair} :
    w.joins a b p = true ↔
      w.bodyOf? p.first = some a ∧ w.bodyOf? p.second = some b ∨
        w.bodyOf? p.first = some b ∧ w.bodyOf? p.second = some a := by
  simp [World.joins]

theorem World.meets_iff {w : World} {b : Handle .body} {key : Key} {p : Pair} :
    w.meets b key p = true ↔
      (p.first = key ∨ p.second = key) ∧ w.bodyOf? (p.other key) = some b := by
  simp [World.meets, Pair.involves]

theorem Pair.other_first (p : Pair) : p.other p.first = p.second := if_pos rfl

theorem Pair.other_second {p : Pair} (h : p.first ≠ p.second) : p.other p.second = p.first :=
  if_neg h

theorem World.countP_meets {w : World} {a b : Handle .body} {p : Pair} {keys : List Key}
    (hnodup : keys.Nodup) (hkeys : ∀ key, key ∈ keys ↔ w.bodyOf? key = some a)
    (hne : ∀ x y, w.bodyOf? p.first = some x → w.bodyOf? p.second = some y → x ≠ y) :
    (keys.countP fun key => w.meets b key p) = if w.joins a b p then 1 else 0 := by
  -- Where only one collider of the body takes part, it takes part once.
  have honce : ∀ end', end' ∈ keys → (∀ key ∈ keys, w.meets b key p = true ↔ key = end') →
      (keys.countP fun key => w.meets b key p) = 1 := by
    intro end' hmem hmeets
    rw [← List.count_eq_one_of_mem hnodup hmem, List.count]
    apply List.countP_congr
    intro key hkey
    rw [hmeets key hkey, beq_iff_eq]
  split
  · rename_i hjoins
    rcases World.joins_iff.mp hjoins with ⟨hfirst, hsecond⟩ | ⟨hfirst, hsecond⟩
    · refine honce p.first ((hkeys _).mpr hfirst) fun key hkey => ?_
      rw [World.meets_iff]
      constructor
      · rintro ⟨rfl | rfl, hother⟩
        · rfl
        · exact absurd rfl (hne a a hfirst ((hkeys _).mp hkey))
      · rintro rfl
        exact ⟨.inl rfl, p.other_first.symm ▸ hsecond⟩
    · have hends : p.first ≠ p.second := by
        intro heq
        rw [← heq] at hsecond
        exact hne b b hfirst (heq ▸ hfirst) rfl
      refine honce p.second ((hkeys _).mpr hsecond) fun key hkey => ?_
      rw [World.meets_iff]
      constructor
      · rintro ⟨rfl | rfl, hother⟩
        · exact absurd rfl (hne a a ((hkeys _).mp hkey) hsecond)
        · rfl
      · rintro rfl
        exact ⟨.inr rfl, (Pair.other_second hends).symm ▸ hfirst⟩
  · rename_i hjoins
    rw [List.countP_eq_zero]
    intro key hkey hmeets
    apply hjoins
    rw [World.joins_iff]
    have hbody := (hkeys key).mp hkey
    obtain ⟨rfl | rfl, hother⟩ := World.meets_iff.mp hmeets
    · exact .inl ⟨hbody, p.other_first ▸ hother⟩
    · by_cases hends : p.first = p.second
      · rw [← hends] at hbody
        exact absurd rfl (hne a a hbody (hends ▸ hbody))
      · exact .inr ⟨Pair.other_second hends ▸ hother, hbody⟩

end Engine

namespace Registry

variable {r : Registry} {w : Handle .world} {world : World}

theorem Sound.colliders_of_body (hs : r.Sound) (hw : r.worlds.get? w = some world) {key : Key}
    {body : Body} (hbody : world.bodies.get? key = some body) :
    body.colliders.Nodup ∧
      ∀ k, k ∈ body.colliders ↔ (world.colliders.get? k).map (·.parent) = some key := by
  have hcoherent := (hs.mirrors hw).coherent
  have hidentity : world.census.bodies.get? key = some body.identity := by
    rw [World.census, Arena.get?_map, hbody, Option.map_some]
  refine ⟨hcoherent.nodup hidentity, ?_⟩
  intro k
  refine (hcoherent.listed hidentity k).trans ?_
  simp only [World.census, Arena.get?_map, Option.map_eq_some_iff]
  constructor
  · rintro ⟨identity, ⟨collider, hcollider, rfl⟩, hparent⟩
    exact ⟨collider, hcollider, hparent⟩
  · rintro ⟨collider, hcollider, hparent⟩
    exact ⟨collider.identity, ⟨collider, hcollider, rfl⟩, hparent⟩

theorem Sound.mem_colliders_iff (hs : r.Sound) (hw : r.worlds.get? w = some world)
    {b : Handle .body} {rec : BodyRecord} (hrec : (r.slice w).bodies b = some rec) {body : Body}
    (hbody : world.bodies.get? rec.native = some body) (key : Key) :
    key ∈ body.colliders ↔ world.bodyOf? key = some b := by
  have hc := hs.corresponds hw
  rw [(hs.colliders_of_body hw hbody).2]
  rcases hc.stands_or_none key with ⟨f, fixture, hstands⟩ | ⟨hcollider, -, hnone⟩
  · obtain ⟨found, hfound, hparent⟩ := hstands.attached
    rw [hparent, hstands.body, Option.some.injEq, Option.some.injEq]
    constructor
    · exact hc.bodies.injective hfound hrec
    · intro hb
      rw [hb] at hfound
      rw [Option.some.inj (hfound.symm.trans hrec)]
  · simp [hcollider, hnone]

theorem Corresponds.bodyOf?_ne (h : r.Corresponds w world)
    (hpairs : Estranged world.attachments world.pairs) {p : Pair} (hp : p ∈ world.pairs)
    {a b : Handle .body} (ha : world.bodyOf? p.first = some a)
    (hb : world.bodyOf? p.second = some b) : a ≠ b := by
  rintro rfl
  have hattached : ∀ {key : Key}, world.bodyOf? key = some a →
      ∃ rec, (r.slice w).bodies a = some rec ∧ world.attachments.get? key = some rec.native := by
    intro key hkey
    rcases h.stands_or_none key with ⟨f, fixture, hstands⟩ | ⟨-, -, hnone⟩
    · obtain rfl := Option.some.inj (hkey.symm.trans hstands.body)
      obtain ⟨rec, hrec, hparent⟩ := hstands.attached
      exact ⟨rec, hrec, (Arena.get?_map ..).trans hparent⟩
    · rw [hnone] at hkey
      cases hkey
  obtain ⟨rec, hrec, hfirst⟩ := hattached ha
  obtain ⟨rec', hrec', hsecond⟩ := hattached hb
  obtain rfl := Option.some.inj (hrec.symm.trans hrec')
  exact hpairs.apart p hp _ _ hfirst hsecond rfl

theorem Sound.count_neighbors (hs : r.Sound) (hw : r.worlds.get? w = some world)
    (hpairs : Estranged world.attachments world.pairs) {a : Handle .body} {rec : BodyRecord}
    (hrec : (r.slice w).bodies a = some rec) {body : Body}
    (hbody : world.bodies.get? rec.native = some body) (b : Handle .body) :
    (world.neighbors body).count b = world.pairs.countP (world.joins a b) := by
  rw [World.count_neighbors, ← sum_map_ite]
  congr 1
  apply List.map_congr_left
  intro p hp
  exact World.countP_meets (hs.colliders_of_body hw hbody).1 (hs.mem_colliders_iff hw hrec hbody)
    fun x y hx hy => (hs.corresponds hw).bodyOf?_ne hpairs hp hx hy

end Registry

namespace Simulator

/-- The body that a fixture of a world is attached to, if it is there. -/
def fixtureBody? (s : Simulator) (w : Handle .world) (f : Handle .fixture) :
    Option (Handle .body) :=
  match Sim.fixtureBody w f s with
  | .ok b _ => some b
  | .error _ _ => none

/-- Whether one fixture of a contact is attached to a body and the other one to another body. -/
def connects (s : Simulator) (w : Handle .world) (a b : Handle .body) (c : FixtureContact) : Bool :=
  (s.fixtureBody? w c.first = some a && s.fixtureBody? w c.second = some b) ||
    (s.fixtureBody? w c.first = some b && s.fixtureBody? w c.second = some a)

variable {s : Simulator} {w : Handle .world} {world : World}

theorem bodyOf?_eq (hs : s.registry.Sound) (hw : s.registry.worlds.get? w = some world)
    (key : Key) : world.bodyOf? key = (world.fixtureOf? key).bind (s.fixtureBody? w) := by
  rcases (hs.corresponds hw).stands_or_none key with ⟨f, rec, hstands⟩ | ⟨-, hfixture, hbody⟩
  · have hrec := hs.fixture_eq_ok_iff.mpr hstands.record
    have hlook : Sim.fixtureBody w f s = .ok rec.body s := by
      simp only [Sim.fixtureBody, Sim.look, Sim.lift, Bind.bind, EStateM.bind, hrec, Pure.pure,
        EStateM.pure]
    rw [hstands.body, hstands.fixture, Option.bind_some, fixtureBody?, hlook]
  · rw [hbody, hfixture, Option.bind_none]

theorem countP_connects (hs : s.registry.Sound) (hw : s.registry.worlds.get? w = some world)
    (a b : Handle .body) :
    world.contactList.contacts.countP (s.connects w a b) =
      world.pairs.countP (world.joins a b) := by
  rw [World.contactList, List.countP_filterMap]
  apply List.countP_congr
  intro p _
  simp only [World.joins, bodyOf?_eq hs hw]
  cases world.fixtureOf? p.first with
  | none => simp
  | some first =>
      cases world.fixtureOf? p.second with
      | none => simp
      | some second => rfl

/-- In every simulator that operations lead to, a body is listed among the contacts of another as
often as there are contacts between a fixture of the one and a fixture of the other, so each of the
two is listed with the other equally often. -/
theorem contacts_agree_of_reachable (h : s.Reachable) {a b : Handle .body}
    {recA recB : BodyRecord} (ha : s.registry.body w a = .ok recA)
    (hb : s.registry.body w b = .ok recB) :
    ∃ (l : ContactList) (ofA ofB : List (Handle .body)),
      (Operation.lastContacts w).perform s = (.ok (.contacts l), s) ∧
      (Operation.objectContacts w a).perform s = (.ok (.handles ofA), s) ∧
      (Operation.objectContacts w b).perform s = (.ok (.handles ofB), s) ∧
      ofA.count b = l.contacts.countP (s.connects w a b) ∧ ofA.count b = ofB.count a := by
  have hs := h.sound
  have hrecA := hs.body_eq_ok_iff.mp ha
  have hrecB := hs.body_eq_ok_iff.mp hb
  obtain ⟨world, hw⟩ := hs.world_of_body hrecA
  obtain ⟨bodyA, hbodyA, -⟩ := (hs.corresponds hw).bodies.present hrecA
  obtain ⟨bodyB, hbodyB, -⟩ := (hs.corresponds hw).bodies.present hrecB
  have hpairs := h.everywhere World.invariant_estranged w world hw
  have hA := hs.count_neighbors hw hpairs hrecA hbodyA b
  have hB := hs.count_neighbors hw hpairs hrecB hbodyB a
  refine ⟨_, _, _, perform_lastContacts hs hw, perform_objectContacts hs hw hrecA hbodyA,
    perform_objectContacts hs hw hrecB hbodyB, ?_, ?_⟩
  · rw [hA, countP_connects hs hw]
  · rw [hA, hB, world.joins_comm]

/-- Two circles that overlap, after a step. -/
def overlapping : Simulator :=
  (start .initial).performAll [
    .createWorld ⟨0, 0⟩ true,
    .createBody ⟨0⟩ .dynamic ⟨0, 0⟩,
    .createBody ⟨0⟩ .static ⟨1, 0⟩,
    .createFixture ⟨0⟩ ⟨0⟩ ⟨.circle, 1, 0⟩ .initial,
    .createFixture ⟨0⟩ ⟨1⟩ ⟨.circle, 1, 0⟩ .initial,
    .step ⟨0⟩ 1 1 1]

theorem contacts_agree_overlapping :
    (overlapping.registry.body ⟨0⟩ ⟨0⟩ = .ok ⟨⟨0⟩, ⟨0, 0⟩⟩ ∧
      overlapping.registry.body ⟨0⟩ ⟨1⟩ = .ok ⟨⟨0⟩, ⟨1, 0⟩⟩) ∧
    ∃ (l : ContactList) (ofA ofB : List (Handle .body)),
      (Operation.lastContacts ⟨0⟩).perform overlapping = (.ok (.contacts l), overlapping) ∧
      (Operation.objectContacts ⟨0⟩ ⟨0⟩).perform overlapping = (.ok (.handles ofA), overlapping) ∧
      (Operation.objectContacts ⟨0⟩ ⟨1⟩).perform overlapping = (.ok (.handles ofB), overlapping) ∧
      ofA.count ⟨1⟩ = l.contacts.countP (overlapping.connects ⟨0⟩ ⟨0⟩ ⟨1⟩) ∧
      ofA.count ⟨1⟩ = ofB.count ⟨0⟩ := by
  have hfirst : overlapping.registry.body ⟨0⟩ ⟨0⟩ = .ok ⟨⟨0⟩, ⟨0, 0⟩⟩ :=
    toOption_eq_some_iff.mp (by decide +kernel)
  have hsecond : overlapping.registry.body ⟨0⟩ ⟨1⟩ = .ok ⟨⟨0⟩, ⟨1, 0⟩⟩ :=
    toOption_eq_some_iff.mp (by decide +kernel)
  exact ⟨⟨hfirst, hsecond⟩,
    contacts_agree_of_reachable ((Reachable.start _).performAll _) hfirst hsecond⟩

end Simulator

end RigidWorlds
