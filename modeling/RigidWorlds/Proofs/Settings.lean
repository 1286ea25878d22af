import RigidWorlds.Proofs.Fate

namespace RigidWorlds

open Engine

/-- What the checks of fast motion are set to in a world, if they are. -/
def Operation.continuous? (w : Handle .world) : Operation → Option Bool
  | setWorld v (.continuous enabled) => if v = w then some enabled else none
  | _ => none

def Event.continuous? (w : Handle .world) (e : Event) : Option Bool :=
  e.granted.bind (·.continuous? w)

/-- The settings after what may have been set. -/
def WorldSettings.overwrite (settings : WorldSettings) : Option Bool → WorldSettings
  | some enabled => { settings with continuous := enabled }
  | none => settings

theorem WorldSettings.autoClearForces_overwrite (settings : WorldSettings)
    (continuous : Option Bool) :
    (settings.overwrite continuous).autoClearForces = settings.autoClearForces := by
  cases continuous <;> rfl

theorem WorldSettings.foldl_overwrite (w : Handle .world) (t : List Event)
    (settings : WorldSettings) :
    t.foldl (fun settings e => settings.overwrite (e.continuous? w)) settings =
      { settings with
        continuous := (t.filterMap (Event.continuous? w)).getLast?.getD settings.continuous } := by
  induction t generalizing settings with
  | nil => rfl
  | cons e t ih =>
      rw [List.foldl_cons, ih]
      cases hset : e.continuous? w with
      | none => rw [List.filterMap_cons_none hset, overwrite]
      | some enabled =>
          rw [List.filterMap_cons_some hset, List.getLast?_cons, Option.getD_some, overwrite]

namespace Operation

variable {config : Config} {op : Operation} {w : Handle .world} {world world' : World}

theorem MakesWorld.settings (h : op.MakesWorld config w world world') :
    world'.settings = world.settings.overwrite (op.continuous? w) := by
  cases op with
  | setWorld v change =>
      obtain rfl : world' = if v = w then change.apply world else world := h
      cases change with
      | continuous enabled =>
          simp only [continuous?]
          split <;> rfl
      | gravity | clearForces => split <;> rfl
  | step | stepDefault =>
      rw [MakesWorld] at h
      rw [h]
      split
      · exact (congrArg World.settings (World.bare_advance ..) :)
      · rfl
  | _ => exact (congrArg World.settings h :)

end Operation

/-- A body has the settings that its world has. -/
structure Engine.Body.Follows (body : Body) (settings : WorldSettings) : Prop where
  continuous : body.continuous = settings.continuous
  canSleep : body.canSleep = settings.allowSleep

namespace Engine.Body

variable {body body' : Body} {settings : WorldSettings}

def switches (b : Body) : Bool × Bool := (b.continuous, b.canSleep)

theorem aloof_switches : Aloof switches := fun _ _ _ _ _ _ _ => rfl

theorem Follows.of_switches (h : body.Follows settings) (hsame : body'.switches = body.switches) :
    body'.Follows settings := by
  obtain ⟨hcontinuous, hsleep⟩ := Prod.mk.inj hsame
  exact ⟨hcontinuous.trans h.continuous, hsleep.trans h.canSleep⟩

theorem Follows.of_core (h : body.Follows settings) (hsame : body'.core = body.core) :
    body'.Follows settings :=
  h.of_switches (congrArg switches hsame :)

end Engine.Body

namespace Operation

variable {config : Config} {op : Operation} {b : Handle .body} {rec : BodyRecord}
  {world world' : World} {body body' : Body}

theorem follows_of_makes (hw : op.MakesWorld config rec.world world world')
    (hb : op.MakesBody config b rec world body body')
    (hbody : world.bodies.get? rec.native = some body) (h : body.Follows world.settings) :
    body'.Follows world'.settings := by
  rw [hw.settings]
  cases op with
  | setWorld v change =>
      obtain rfl : body' = if v = rec.world then change.onBody body else body := hb
      cases change with
      | continuous enabled =>
          simp only [continuous?]
          split
          · exact ⟨rfl, h.canSleep⟩
          · exact h
      | gravity | clearForces =>
          split
          · exact ⟨h.continuous, h.canSleep⟩
          · exact h
  | setBody v a change =>
      obtain rfl : body' = if a = b then change.apply body else body := hb
      split
      · exact h.of_switches (change.view_apply Body.aloof_switches body)
      · exact h
  | step | stepDefault =>
      exact h.of_switches (view_of_step (f := Body.switches) (fun _ => rfl) hbody hb)
  | _ => exact h.of_core hb

end Operation

theorem Event.MakesWorld.settings {config : Config} {w : Handle .world} {world world' : World}
    {e : Event} (h : e.MakesWorld config w world world') :
    world'.settings = world.settings.overwrite (e.continuous? w) := by
  unfold MakesWorld at h
  unfold continuous?
  cases hgranted : e.granted with
  | none =>
      rw [hgranted] at h
      rw [h]
      rfl
  | some op =>
      rw [hgranted] at h
      exact Operation.MakesWorld.settings h

theorem Event.follows_of_makes {config : Config} {b : Handle .body} {rec : BodyRecord}
    {world world' : World} {body body' : Body} {e : Event}
    (hw : e.MakesWorld config rec.world world world')
    (hb : e.MakesBody config b rec world body body')
    (hbody : world.bodies.get? rec.native = some body) (h : body.Follows world.settings) :
    body'.Follows world'.settings := by
  unfold MakesWorld at hw
  unfold MakesBody at hb
  cases hgranted : e.granted with
  | none =>
      rw [hgranted] at hw hb
      rwa [hw, hb]
  | some op =>
      rw [hgranted] at hw hb
      exact Operation.follows_of_makes hw hb hbody h

namespace Simulator

variable {s : Simulator}

/-- All bodies have the settings of their worlds. -/
def Tuned (s : Simulator) : Prop :=
  ∀ b rec world body, s.registry.Holds b rec world body → body.Follows world.settings

theorem tuned_start (config : Config) : (start config).Tuned := by
  rintro b rec world body ⟨hrec, -, -⟩
  cases hrec

theorem tuned_perform (hs : s.registry.Sound) (h : s.Tuned) (op : Operation) :
    (op.perform s).2.Tuned := by
  intro b rec world' body' hholds'
  rcases world_perform hs hholds'.home with ⟨_, _, rfl, hnew, -⟩ | ⟨world, hw, hworld⟩
  · rcases body_perform hs hholds' with ⟨_, _, _, hop, -⟩ | ⟨world, body, hholds, -⟩
    · cases hop
    · exact absurd ⟨rfl, hnew⟩ (Operation.not_bears hs hholds.home _ .world)
  · rcases body_perform hs hholds' with ⟨_, _, found, rfl, hnew, hfound, hcore⟩ | hbefore
    · -- The new body takes its settings from its world, which stays as it is.
      obtain rfl := Option.some.inj (hfound.symm.trans hw)
      have hsettings := hworld.settings
      rw [Event.continuous?, Event.granted_of_ok hnew] at hsettings
      refine Body.Follows.of_core ?_ hcore
      rw [hsettings]
      exact ⟨rfl, rfl⟩
    · obtain ⟨found, body, hholds, hbody⟩ := hbefore
      obtain rfl := Option.some.inj (hholds.home.symm.trans hw)
      exact Event.follows_of_makes hworld hbody hholds.item (h b rec found body hholds)

theorem tuned_performAll (hs : s.registry.Sound) (h : s.Tuned) (ops : List Operation) :
    (s.performAll ops).Tuned := by
  induction ops generalizing s with
  | nil => exact h
  | cons op ops ih => exact ih (Operation.sound_perform hs op) (tuned_perform hs h op)

theorem config_performAll (hs : s.registry.Sound) (ops : List Operation) :
    (s.performAll ops).config = s.config := by
  induction ops generalizing s with
  | nil => rfl
  | cons op ops ih =>
      exact (ih (Operation.sound_perform hs op)).trans (Operation.config_perform hs op)

theorem settings_performAll (config : Config) (ops : List Operation) {w : Handle .world}
    {world : World} (hw : ((start config).performAll ops).registry.worlds.get? w = some world) :
    ToldSince
      (fun e settings => ∃ gravity allowSleep, e.op = .createWorld gravity allowSleep ∧
        e.result = .ok (.handle w) ∧ settings = config.newWorldSettings allowSleep)
      (fun settings e => settings.overwrite (e.continuous? w)) ((start config).history ops)
      world.settings := by
  refine told_of_start
    (fun s settings => ∃ world, s.registry.worlds.get? w = some world ∧ world.settings = settings)
    ?_ ?_ ops ⟨world, hw, rfl⟩
  · rintro s op settings hs rfl ⟨world', hw', rfl⟩
    rcases world_perform hs hw' with ⟨gravity, allowSleep, rfl, hnew, rfl⟩ | ⟨world, hw, hmakes⟩
    · exact .inl ⟨gravity, allowSleep, rfl, hnew, rfl⟩
    · refine .inr ⟨?_, world.settings, ⟨world, hw, rfl⟩, hmakes.settings⟩
      rintro settings ⟨gravity, allowSleep, hop, hnew, -⟩
      refine Operation.not_bears hs hw op .world ⟨?_, hnew⟩
      rw [hop]
      rfl
  · rintro settings ⟨world, hworld, -⟩
    cases hworld

end Simulator

/-- What is known of the settings of the worlds in a simulator with a history. -/
structure SettingsTold (config : Config) (s : Simulator) (t : List Event) : Prop where
  configured : s.config = config
  told : ∀ {w world}, s.registry.worlds.get? w = some world →
    ∃ before e after gravity allowSleep, t = before ++ e :: after ∧
      e.op = .createWorld gravity allowSleep ∧ e.result = .ok (.handle w) ∧
      world.settings =
        ⟨allowSleep, (after.filterMap (Event.continuous? w)).getLast?.getD false,
          config.autoClearForces⟩
  answered : ∀ {w world}, s.registry.worlds.get? w = some world →
    (Operation.readWorld w .continuous).perform s = (.ok (.flag world.settings.continuous), s) ∧
      (Operation.readWorld w .allowsSleep).perform s = (.ok (.flag world.settings.allowSleep), s)
  followed : ∀ {w world key body}, s.registry.worlds.get? w = some world →
    world.bodies.get? key = some body → body.Follows world.settings

/-- In every simulator that a run leads to, the settings of a world are those that it was created
with, but for the checks of fast motion, which are as they were set last since.  The world answers
with them, and all bodies that its engine holds have them. -/
theorem settingsTold_performAll (config : Config) (ops : List Operation) :
    SettingsTold config ((Simulator.start config).performAll ops)
      ((Simulator.start config).history ops) := by
  have hstart := Simulator.sound_start config
  have hs := Simulator.sound_performAll hstart ops
  refine ⟨Simulator.config_performAll hstart ops, ?_, ?_, ?_⟩
  · intro w world hw
    obtain ⟨before, e, after, settings, hsplit, ⟨gravity, allowSleep, hop, hnew, rfl⟩, -, htold⟩ :=
      Simulator.settings_performAll config ops hw
    refine ⟨before, e, after, gravity, allowSleep, hsplit, hop, hnew, ?_⟩
    rw [htold, WorldSettings.foldl_overwrite]
    rfl
  · intro w world hw
    exact ⟨perform_readWorld hs hw .continuous, perform_readWorld hs hw .allowsSleep⟩
  · intro w world key body hw hbody
    obtain ⟨b, rec, hrec, rfl⟩ := (hs.corresponds hw).bodies.covered hbody
    obtain ⟨hget, rfl⟩ := Registry.slice_bodies_eq_some_iff.mp hrec
    exact Simulator.tuned_performAll hstart (Simulator.tuned_start config) ops b rec world body
      ⟨hget, hw, hbody⟩

/-- One body is there before the checks are switched on and the other one comes later. -/
example :
    let s := (Simulator.start .initial).performAll [
      .createWorld ⟨0, -10⟩ false,
      .createBody ⟨0⟩ .dynamic ⟨0, 0⟩,
      .setWorld ⟨0⟩ (.continuous true),
      .createBody ⟨0⟩ .static ⟨1, 0⟩]
    (s.registry.worlds.get? ⟨0⟩).map (·.bodies.toList.map (·.2.switches)) =
      some [(true, false), (true, false)] := by
  decide +kernel

end RigidWorlds
