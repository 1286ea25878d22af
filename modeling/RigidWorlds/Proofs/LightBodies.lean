import RigidWorlds.Proofs.Weights

/-!
Bodies without dense fixtures.  A dynamic body is light if none of its fixtures has a positive
density.  Operations in which no time passes leave a light body with the mass it had, and those in
which time passes give it a mass of one.  So what a light body weighs after a run depends on whether
time has passed for it since it became light, and if none has, on what it weighed before.
-/

namespace RigidWorlds

open Engine Binary

theorem Material.Admissible.isZero_density {m : Material} (h : m.Admissible)
    (hpos : ¬ 0 < m.density) : IsZero m.density :=
  isZero_of_not_pos h.density.1 h.density.2 hpos

namespace Registry

variable {r r' : Registry} {w : Handle .world} {b : Handle .body} {rec : BodyRecord}
  {world : World} {body : Body}

/-- A dynamic body that is there and has no dense fixture. -/
def Light (r : Registry) (b : Handle .body) : Prop :=
  ∃ rec world body, r.Holds b rec world body ∧ body.kind = .dynamic ∧ ¬ r.Laden b

theorem Sound.light_iff (hs : r.Sound) :
    r.Light b ↔ (r.supplement? b).map (·.kind) = some .dynamic ∧ r.isDense b = false := by
  rw [← Bool.not_eq_true, isDense_iff hs.fixtures]
  constructor
  · rintro ⟨rec, world, body, h, hkind, hladen⟩
    rw [h.supplement?_eq]
    exact ⟨congrArg some hkind, hladen⟩
  · rintro ⟨hkind, hladen⟩
    obtain ⟨s, hs, hdynamic⟩ := Option.map_eq_some_iff.mp hkind
    obtain ⟨rec, world, body, hholds, rfl⟩ := supplement?_eq_some_iff.mp hs
    exact ⟨rec, world, body, hholds, hdynamic, hladen⟩

/-- The mass that the engine has for a body on record. -/
def mass? (r : Registry) (b : Handle .body) : Option MassProperties := do
  let rec ← r.bodies.get? b
  let world ← r.worlds.get? rec.world
  let body ← world.bodies.get? rec.native
  return body.mass

theorem Holds.mass?_eq (h : r.Holds b rec world body) : r.mass? b = some body.mass := by
  simp [mass?, h.record, h.home, h.item]

theorem Agreed.massless (h : r.Agreed) (hs : r.Sound) (hholds : r.Holds b rec world body)
    (hlight : ¬ r.Laden b) : world.Massless body := by
  intro key hkey c hc
  have hcorresponds := hs.corresponds hholds.home
  have hslice : (r.slice rec.world).bodies b = some rec :=
    slice_bodies_eq_some_iff.mpr ⟨hholds.record, rfl⟩
  obtain ⟨f, fixture, hstands⟩ := hcorresponds.stands hc
  obtain ⟨hf, hworld⟩ := slice_fixtures_eq_some_iff.mp hstands.record
  have hbody : fixture.body = b := Option.some.inj
    (hstands.body.symm.trans ((hs.mem_colliders_iff hholds.home hslice hholds.item key).mp hkey))
  -- The collider has the material of its fixture, which has no density.
  obtain ⟨found, hfound, hnative⟩ := hcorresponds.of_fixtureOf? hstands.fixture
  obtain rfl := Option.some.inj (hstands.record.symm.trans hfound)
  obtain ⟨home, collider, hhome, hcollider, hmaterial⟩ :=
    colliderMaterial?_eq_some_iff.mp (h.collider hf)
  rw [hworld] at hhome
  obtain rfl := Option.some.inj (hholds.home.symm.trans hhome)
  rw [hnative] at hcollider
  obtain rfl := Option.some.inj (hc.symm.trans hcollider)
  have hzero : IsZero fixture.material.density :=
    (h.admissible hf).isZero_density fun hpos => hlight ⟨f, fixture, ⟨hf, hbody⟩, hpos⟩
  exact MassProperties.ofSolid_of_isZero c.solid (hmaterial ▸ hzero)

theorem isZero_density_of_createFixture (hs : r.Sound) {shape : ShapeDescriptor}
    {material : Material} {f : Handle .fixture}
    (hok : createFixture w b shape material r = .ok (f, r')) (hlight : ¬ r'.Laden b) :
    IsZero material.density := by
  have hadmissible := Material.admissible_of_check (check_of_createFixture hok)
  refine hadmissible.isZero_density fun hpos => hlight ?_
  obtain ⟨solid, other, found, native, -, -, -, hissue, rfl, rfl⟩ := createFixture_eq_ok hok
  obtain ⟨-, rfl⟩ := HandleTable.issue_eq_ok_iff.mp hissue
  have hrecord := HandleTable.get?_append hs.fixtures
  exact ⟨r.fixtures.next, _, ⟨(hrecord _ _).trans (if_pos rfl), rfl⟩, hpos⟩

end Registry

namespace Operation

open Registry

variable {config : Config} {op : Operation} {r r' : Registry} {outcome : Outcome}
  {b : Handle .body} {rec : BodyRecord} {world' : World} {body' : Body}

/-- What the operation makes of a body that was there before if no time passes for it, up to what
`R` allows. -/
def AltersBody (R : Body → Body → Prop) (b : Handle .body) (rec : BodyRecord)
    (body body' : Body) : Operation → Prop
  | setWorld v change => body' = if v = rec.world then change.onBody body else body
  | setBody _ a change => body' = if a = b then change.apply body else body
  | createFixture _ a _ material => ∃ key solid,
      R (if a = b then body.attach key solid (.ofSolid solid material.density) else body) body'
  | _ => R body body'

theorem altersBody_transact {R : Body → Body → Prop} (hR : Body.Lenient R)
    (hmass : ∀ (mass : Float32) (body : Body), R body (body.setAdditionalMass mass))
    (hs : r.Sound) (hok : op.transact config r = .ok (outcome, r'))
    (h : r'.Holds b rec world' body') :
    (∃ kind place, ∃ world : World, op = .createBody rec.world kind place ∧
      outcome = .handle b ∧ r.bodies.get? b = none ∧
      R (.create kind place world.settings.allowSleep world.settings.continuous b.tag) body') ∨
      ∃ world body, r.Holds b rec world body ∧
        (op.advances rec.world = false → op.AltersBody R b rec body body') := by
  have hmade : (∀ v kind place, op ≠ .createBody v kind place) →
      ∃ world body, r.Holds b rec world body ∧ op.MakesBody config b rec world body body' := by
    intro hcreate
    rcases body_transact hs hok h with ⟨_, _, _, heq, -⟩ | hbefore
    · exact absurd heq (hcreate _ _ _)
    · exact hbefore
  cases op with
  | createWorld gravity allowSleep =>
      obtain ⟨v, hcreate, -⟩ := Transaction.map_eq_ok hok
      obtain ⟨-, rfl⟩ := createWorld_eq_ok hcreate
      exact .inr ⟨world', body', holds_addWorld hs h, fun _ => hR.refl body'⟩
  | setWorld v change =>
      obtain ⟨world, body, hbefore, hmakes⟩ := hmade (by simp)
      exact .inr ⟨world, body, hbefore, fun _ => hmakes⟩
  | step v dt | stepDefault v dt =>
      obtain ⟨world, body, hbefore, hmakes⟩ := hmade (by simp)
      refine .inr ⟨world, body, hbefore, fun hidle => ?_⟩
      rw [MakesBody, if_neg (by simpa [advances] using hidle)] at hmakes
      exact hmakes ▸ hR.refl body
  | createBody v kind place =>
      obtain ⟨a, hcreate, rfl⟩ := Transaction.map_eq_ok hok
      rcases holds_createBody hR hmass hs hcreate h with
        ⟨rfl, hnext, rfl, world, -, hnew⟩ | ⟨world, body, hbefore, hlater⟩
      · exact .inl ⟨kind, place, world, rfl, rfl, hnext ▸ hs.bodies.get?_next, hnew⟩
      · exact .inr ⟨world, body, hbefore, fun _ => hlater⟩
  | setBody v a change =>
      obtain ⟨world, body, hbefore, hmakes⟩ := hmade (by simp)
      exact .inr ⟨world, body, hbefore, fun _ => hmakes⟩
  | createFixture v a shape material =>
      obtain ⟨f, hcreate, -⟩ := Transaction.map_eq_ok hok
      obtain ⟨world, body, key, solid, hbefore, hlater⟩ :=
        holds_createFixture hR hmass hs hcreate h
      exact .inr ⟨world, body, hbefore, fun _ => ⟨key, solid, hlater⟩⟩
  | _ =>
      have hevolves : Evolves R r r' := evolves_transact hR hmass hs rfl (by simp) hok
      obtain ⟨world, body, hbefore, hlater⟩ := hevolves.body h
      exact .inr ⟨world, body, hbefore, fun _ => hlater⟩

theorem steady_transact (hs : r.Sound) (hok : op.transact config r = .ok (outcome, r'))
    (h : r'.Holds b rec world' body') (hlight : ¬ r'.Laden b)
    (hidle : op.advances rec.world = false) :
    (r.bodies.get? b = none ∧ body'.mass = .zero ∧ body'.changes.reachMass = true) ∨
      ∃ world body, r.Holds b rec world body ∧ body.Steady body' := by
  rcases altersBody_transact Body.lenient_steady Body.steady_setAdditionalMass hs hok h with
    ⟨kind, place, world, rfl, -, hnone, hsteady⟩ | ⟨world, body, hbefore, halters⟩
  · refine .inl ⟨hnone, ?_, ?_⟩
    · rcases hsteady.mass with hmass | ⟨-, hmass⟩ <;> exact hmass
    · refine Bool.eq_true_of_not_eq_false fun hsettled => ?_
      cases (hsteady.settled hsettled).1
  · refine .inr ⟨world, body, hbefore, ?_⟩
    have halters := halters hidle
    cases op with
    | setWorld v change =>
        obtain rfl := halters
        split
        · exact change.steady_onBody body
        · exact Body.steady_refl body
    | setBody v a change =>
        obtain rfl := halters
        split
        · exact change.steady_apply body
        · exact Body.steady_refl body
    | createFixture v a shape material =>
        obtain ⟨f, hcreate, -⟩ := Transaction.map_eq_ok hok
        obtain ⟨key, solid, hsteady⟩ := halters
        refine Body.Steady.trans ?_ hsteady
        split
        · rename_i ha
          subst ha
          have hzero := isZero_density_of_createFixture hs hcreate hlight
          rw [MassProperties.ofSolid_of_isZero solid hzero]
          exact Body.steady_attach key solid body
        · exact Body.steady_refl body
    | _ => exact halters

end Operation

theorem Operation.exists_advance {config : Config} {op : Operation} {b : Handle .body}
    {rec : BodyRecord} {world : World} {body body' : Body} (h : op.advances rec.world = true)
    (hmakes : op.MakesBody config b rec world body body') :
    ∃ dt velocityIterations positionIterations,
      (world.advance dt velocityIterations positionIterations).bodies.get? rec.native =
        some body' := by
  cases op with
  | step | stepDefault =>
      rw [MakesBody, if_pos (by simpa [advances] using h)] at hmakes
      exact ⟨_, _, _, hmakes⟩
  | _ => cases h

namespace Registry

/-- Whatever has no dense fixture and is not to be weighed in the next step weighs one. -/
def Reckoned (r : Registry) : Prop :=
  ∀ b rec world body, r.Holds b rec world body → body.kind = .dynamic → ¬ r.Laden b →
    body.changes.reachMass = true ∨ body.mass.inverseMass = 1

theorem reckoned_empty : empty.Reckoned := by
  intro b rec world body h
  cases h.record

theorem Balanced.additionalMass_eq_some_one_iff {r : Registry} (h : r.Balanced) (hs : r.Sound)
    {b : Handle .body} {rec : BodyRecord} {world : World} {body : Body}
    (hholds : r.Holds b rec world body) (hkind : body.kind = .dynamic) :
    body.additionalMass = some 1 ↔ ¬ r.Laden b := by
  have hdense : r.isDense b = true ↔ r.Laden b := isDense_iff hs.fixtures
  have hsuits : body.supplement.Suits (r.isDense b) := h b _ hholds.supplement?_eq
  have hmass : body.additionalMass = some (Supplement.ballast (r.isDense b)) :=
    hsuits.trans (if_pos hkind)
  rw [hmass, ← hdense]
  cases r.isDense b <;> decide +kernel

end Registry

namespace Simulator

variable {config : Config} {s : Simulator} {op : Operation} {b : Handle .body} {rec : BodyRecord}
  {world' : World} {body' : Body}

theorem Reachable.agreed (h : s.Reachable) : s.registry.Agreed :=
  h.invariant Registry.agreed_empty Operation.agreed_transact

theorem fixtures_of_advances (hs : s.registry.Sound) {w : Handle .world}
    (h : (op.event s).advances w = true) :
    (op.perform s).2.registry.fixtures = s.registry.fixtures := by
  rcases perform_cases hs op with ⟨e, heq⟩ | ⟨outcome, s', heq, hok⟩
  · rw [heq]
  · rw [Operation.event, heq] at h
    cases op with
    | step | stepDefault =>
        obtain ⟨snapshot, hstep, -⟩ := Transaction.map_eq_ok hok
        rw [heq, Registry.step_eq_ok_ite hstep]
        split <;> rfl
    | _ => cases h

theorem steady_perform (hs : s.registry.Sound)
    (h : (op.perform s).2.registry.Holds b rec world' body')
    (hlight : ¬ (op.perform s).2.registry.Laden b)
    (hidle : (op.event s).advances rec.world = false) :
    (s.registry.bodies.get? b = none ∧ body'.mass = .zero ∧ body'.changes.reachMass = true) ∨
      ∃ world body, s.registry.Holds b rec world body ∧ body.Steady body' := by
  unfold Operation.event at hidle
  rcases perform_cases hs op with ⟨e, heq⟩ | ⟨outcome, s', heq, hok⟩
  · rw [heq] at h
    exact .inr ⟨world', body', h, Body.steady_refl body'⟩
  · rw [heq] at h hlight hidle
    exact Operation.steady_transact hs hok h hlight hidle

theorem weighs_of_advances (hreachable : s.Reachable) (hreckoned : s.registry.Reckoned)
    (h : (op.perform s).2.registry.Holds b rec world' body') (hkind : body'.kind = .dynamic)
    (hlight : ¬ (op.perform s).2.registry.Laden b)
    (hadvances : (op.event s).advances rec.world = true) :
    s.registry.Light b ∧ body'.mass.inverseMass = 1 := by
  have hs := hreachable.sound
  have hfixtures := fixtures_of_advances hs hadvances
  rcases body_perform hs h with ⟨_, _, _, rfl, hnew, -⟩ | ⟨world, body, hbefore, hmakes⟩
  · unfold Operation.event at hadvances hnew
    rw [Event.advances, Event.granted, hnew] at hadvances
    cases hadvances
  · have hkindBefore : body.kind = .dynamic :=
      (Event.kind_of_makes hbefore.item hmakes).symm.trans hkind
    have hlightBefore : ¬ s.registry.Laden b := by
      unfold Registry.Laden at hlight ⊢
      rwa [hfixtures] at hlight
    refine ⟨⟨rec, world, body, hbefore, hkindBefore, hlightBefore⟩, ?_⟩
    have hadditional := (hreachable.balanced.additionalMass_eq_some_one_iff hs hbefore
      hkindBefore).mpr hlightBefore
    have hmassless := hreachable.agreed.massless hs hbefore hlightBefore
    unfold Event.MakesBody at hmakes
    unfold Event.advances at hadvances
    cases hgranted : (op.event s).granted with
    | none =>
        rw [hgranted] at hadvances
        cases hadvances
    | some granted =>
        rw [hgranted] at hadvances hmakes
        obtain ⟨dt, velocityIterations, positionIterations, hadvance⟩ :=
          granted.exists_advance hadvances hmakes
        rw [World.mass_advance (hreachable.everywhere World.invariant_noted _ _ hbefore.home)
          hbefore.item hadvance hmassless hadditional]
        split
        · exact MassProperties.inverseMass_addMass_one
        · rename_i hdue
          exact (hreckoned b rec world body hbefore hkindBefore hlightBefore).resolve_left hdue

theorem Reachable.reckoned (h : s.Reachable) : s.registry.Reckoned := by
  induction h with
  | start config => exact Registry.reckoned_empty
  | @perform s h op ih =>
      intro b rec world' body' hholds hkind hlight
      cases hadvances : (op.event s).advances rec.world with
      | true => exact .inr (weighs_of_advances h ih hholds hkind hlight hadvances).2
      | false =>
          rcases steady_perform h.sound hholds hlight hadvances with
            ⟨-, -, hdue⟩ | ⟨world, body, hbefore, hsteady⟩
          · exact .inl hdue
          · cases hdue : body'.changes.reachMass with
            | true => exact .inl rfl
            | false =>
                -- The body was not to be weighed before either, and was light.
                obtain ⟨hsettled, hadditional⟩ := hsteady.settled hdue
                have hkindBefore : body.kind = .dynamic := hsteady.kind.symm.trans hkind
                have hlightBefore : ¬ s.registry.Laden b := by
                  rw [← h.balanced.additionalMass_eq_some_one_iff h.sound hbefore hkindBefore,
                    ← hadditional]
                  exact ((h.perform op).balanced.additionalMass_eq_some_one_iff (h.perform op).sound
                    hholds hkind).mpr hlight
                have hmass := ih b rec world body hbefore hkindBefore hlightBefore
                rw [hsettled] at hmass
                exact .inr (hsteady.mass.inverseMass_eq_one (hmass.resolve_left nofun))

/-- In a run, an operation made a body light, and it has been light from then on. -/
structure LightSince (config : Config) (b : Handle .body) (before : List Operation)
    (op : Operation) (after : List Operation) : Prop where
  not_light : ¬ ((start config).performAll before).registry.Light b
  light : ∀ ops, ops <+: after →
    ((start config).performAll (before ++ op :: ops)).registry.Light b

theorem performAll_concat (s : Simulator) (ops : List Operation) (op : Operation) :
    s.performAll (ops ++ [op]) = (op.perform (s.performAll ops)).2 :=
  performAll_append s ops [op]

theorem history_concat (s : Simulator) (before : List Operation) (op : Operation)
    (after : List Operation) (last : Operation) :
    (s.performAll (before ++ [op])).history (after ++ [last]) =
      (s.performAll (before ++ [op])).history after ++
        [last.event (s.performAll (before ++ op :: after))] := by
  rw [history_append, ← performAll_append, List.append_assoc, List.singleton_append]
  rfl

theorem reachable_performAll (config : Config) (ops : List Operation) :
    ((start config).performAll ops).Reachable :=
  (Reachable.start config).performAll ops

theorem exists_lightSince {ops : List Operation}
    (h : ((start config).performAll ops).registry.Light b) :
    ∃ before op after, ops = before ++ op :: after ∧ LightSince config b before op after := by
  induction ops using List.reverseRecOn with
  | nil =>
      obtain ⟨rec, world, body, hholds, -⟩ := h
      cases hholds.record
  | append_singleton ops op ih =>
      by_cases hbefore : ((start config).performAll ops).registry.Light b
      · obtain ⟨before, first, after, rfl, hsince⟩ := ih hbefore
        refine ⟨before, first, after ++ [op], by simp, hsince.not_light, ?_⟩
        intro ops hinitial
        rcases List.prefix_concat_iff.mp hinitial with rfl | hinitial
        · simpa using h
        · exact hsince.light ops hinitial
      · refine ⟨ops, op, [], rfl, hbefore, ?_⟩
        intro ops' hinitial
        rw [List.prefix_nil.mp hinitial]
        exact h

/-- Once time has passed for a body that has been light since then, it weighs one; until then it has
the mass that it had when it became light, which is none if it was created so. -/
theorem weighs_of_lightSince {before after : List Operation}
    (h : LightSince config b before op after)
    (hholds : ((start config).performAll (before ++ op :: after)).registry.Holds b rec world'
      body') :
    ((∃ e ∈ ((start config).performAll (before ++ [op])).history after,
        e.advances rec.world = true) → body'.mass.inverseMass = 1) ∧
      ((∀ e ∈ ((start config).performAll (before ++ [op])).history after,
        e.advances rec.world = false) →
          ((((start config).performAll before).registry.mass? b).getD .zero).Alike
            body'.mass) := by
  induction after using List.reverseRecOn generalizing world' body' with
  | nil =>
      have hreachable := reachable_performAll config before
      obtain ⟨_, _, _, hlight, hkind, hladen⟩ := h.light [] (List.prefix_refl _)
      obtain ⟨rfl, rfl, rfl⟩ := hlight.unique hholds
      rw [performAll_concat] at hholds hladen
      refine ⟨fun ⟨e, he, _⟩ => absurd he List.not_mem_nil, fun _ => ?_⟩
      cases hadvances : (op.event ((start config).performAll before)).advances rec.world with
      | true =>
          exact absurd
            (weighs_of_advances hreachable hreachable.reckoned hholds hkind hladen hadvances).1
            h.not_light
      | false =>
          rcases steady_perform hreachable.sound hholds hladen hadvances with
            ⟨hnone, hzero, -⟩ | ⟨world, body, hbefore, hsteady⟩
          · rw [Registry.mass?, hnone, hzero]
            exact MassProperties.alike_refl _
          · rw [hbefore.mass?_eq]
            exact hsteady.mass
  | append_singleton after last ih =>
      have hreachable := reachable_performAll config (before ++ op :: after)
      have hshorter : LightSince config b before op after :=
        ⟨h.not_light, fun ops hinitial => h.light ops (hinitial.trans (List.prefix_append ..))⟩
      obtain ⟨_, _, _, hlight, hkind, hladen⟩ := h.light (after ++ [last]) (List.prefix_refl _)
      obtain ⟨rfl, rfl, rfl⟩ := hlight.unique hholds
      rw [← List.cons_append, ← List.append_assoc, performAll_concat] at hholds hladen
      simp only [history_concat, List.mem_append, List.mem_singleton]
      cases hadvances :
          (last.event ((start config).performAll (before ++ op :: after))).advances rec.world with
      | true =>
          refine ⟨fun _ => (weighs_of_advances hreachable hreachable.reckoned hholds hkind hladen
            hadvances).2, fun hidle => ?_⟩
          exact absurd ((hidle _ (.inr rfl)).symm.trans hadvances) Bool.false_ne_true
      | false =>
          obtain ⟨recBefore, _, _, hlightBefore, -⟩ := h.light after (List.prefix_append ..)
          rcases steady_perform hreachable.sound hholds hladen hadvances with
            ⟨hnone, -, -⟩ | ⟨world, body, hbefore, hsteady⟩
          · exact absurd (hnone.symm.trans hlightBefore.record) nofun
          · obtain ⟨hweighs, hkeeps⟩ := ih hshorter hbefore
            refine ⟨?_, fun hidle => ?_⟩
            · rintro ⟨e, he | rfl, htrue⟩
              · exact hsteady.mass.inverseMass_eq_one (hweighs ⟨e, he, htrue⟩)
              · exact absurd (hadvances.symm.trans htrue) Bool.false_ne_true
            · exact (hkeeps fun e he => hidle e (.inl he)).trans hsteady.mass

end Simulator

end RigidWorlds
