import Mathlib.Order.Interval.Finset.Nat
import RigidWorlds.Proofs.Coordinates
import RigidWorlds.Proofs.Pairs
import RigidWorlds.Proofs.Printing

namespace RigidWorlds

open Engine Json Binary

theorem length_le_of_nodup {l : List Nat} (h : l.Nodup) {a b : Nat}
    (hbounds : ∀ n ∈ l, a ≤ n ∧ n < b) : l.length ≤ b - a := by
  rw [← List.toFinset_card_of_nodup h, ← Nat.card_Ico]
  refine Finset.card_le_card ?_
  intro n hn
  exact Finset.mem_Ico.mpr (hbounds n (List.mem_toFinset.mp hn))

theorem Handle.tag_lt {k : Kind} (h : Handle k) : h.tag < 2 ^ 32 := h.index.toNat_lt

theorem Handle.tag_injective {k : Kind} {g h : Handle k} (heq : g.tag = h.tag) : g = h := by
  cases g
  cases h
  exact congrArg Handle.mk (UInt32.toNat_inj.mp heq)

/-- What is counted fits into sixty-four bits. -/
def Outcome.Fits : Outcome → Prop
  | count n => n < 2 ^ 64
  | snapshot s => s.size < 2 ^ 64
  | contacts l => l.size < 2 ^ 64
  | _ => True

namespace Registry.Corresponds

variable {r : Registry} {w : Handle .world} {world : World}

theorem size_capture_lt (h : r.Corresponds w world) :
    (Snapshot.capture world).size < 2 ^ 64 := by
  have hnodup : ((Snapshot.capture world).poses.map (·.body.tag)).Nodup := by
    have hbodies := h.nodup_capture.map fun _ _ => Handle.tag_injective
    rwa [List.map_map] at hbodies
  have hlength := length_le_of_nodup hnodup (a := 0) (b := 2 ^ 32) ?_
  · rw [List.length_map] at hlength
    exact Nat.lt_of_le_of_lt hlength (by decide)
  · intro n hn
    obtain ⟨p, -, rfl⟩ := List.mem_map.mp hn
    exact ⟨Nat.zero_le _, p.body.tag_lt⟩

theorem size_contactList_lt (h : r.Corresponds w world) (hpairs : Pair.Distinct world.pairs) :
    world.contactList.size < 2 ^ 64 := by
  obtain ⟨honce, hdifferent⟩ := h.distinct_contacts hpairs
  have hcode : Function.Injective fun c : Handle .fixture × Handle .fixture =>
      c.1.tag * 2 ^ 32 + c.2.tag := by
    rintro ⟨f, g⟩ ⟨f', g'⟩ heq
    dsimp only at heq
    have hg := g.tag_lt
    have hg' := g'.tag_lt
    have hfirst : f.tag = f'.tag := by omega
    have hsecond : g.tag = g'.tag := by omega
    exact Prod.ext (Handle.tag_injective hfirst) (Handle.tag_injective hsecond)
  have hnodup : (world.contactList.contacts.map fun c =>
      c.first.tag * 2 ^ 32 + c.second.tag).Nodup := by
    have hmapped := honce.map hcode
    rwa [List.map_map] at hmapped
  have hlength := length_le_of_nodup hnodup (a := 1) (b := 2 ^ 64) ?_
  · rw [List.length_map] at hlength
    exact Nat.lt_of_le_of_lt hlength (by decide)
  · intro n hn
    obtain ⟨c, hc, rfl⟩ := List.mem_map.mp hn
    have hfirst := c.first.tag_lt
    have hsecond := c.second.tag_lt
    have hne : c.first.tag ≠ c.second.tag := mt Handle.tag_injective (hdifferent c hc)
    omega

end Registry.Corresponds

theorem fits_of_perform {s s' : Simulator} (h : s.Reachable) {op : Operation} {outcome : Outcome}
    (hok : op.perform s = (.ok outcome, s')) : outcome.Fits := by
  have hs := h.sound
  obtain ⟨htransact, -⟩ := (Operation.perform_eq_ok_iff hs).mp hok
  have hafter : s'.Reachable := by
    have hperform := h.perform op
    rwa [hok] at hperform
  unfold Operation.transact at htransact
  cases op with
  | step | stepDefault =>
      obtain ⟨snapshot, hstep, rfl⟩ := Transaction.map_eq_ok htransact
      obtain ⟨world, hw, rfl, -⟩ := Registry.step_eq_ok hstep
      exact (hafter.sound.corresponds hw).size_capture_lt
  | readWorld w property =>
      obtain ⟨hread, -⟩ := Registry.read_eq_ok htransact
      obtain ⟨world, hw, rfl⟩ := map_eq_ok_iff.mp hread
      cases property with
      | bodyCount =>
          have hc := hs.corresponds (Registry.world_eq_ok_iff.mp hw)
          show world.bodies.size < 2 ^ 64
          rw [← hc.size_capture]
          exact hc.size_capture_lt
      | gravity | continuous | allowsSleep => trivial
  | lastContacts w =>
      obtain ⟨contacts, hcontacts, rfl⟩ := Transaction.map_eq_ok htransact
      obtain ⟨hread, -⟩ := Registry.read_eq_ok hcontacts
      obtain ⟨world, hw, rfl⟩ := map_eq_ok_iff.mp hread
      have hworld := Registry.world_eq_ok_iff.mp hw
      exact (hs.corresponds hworld).size_contactList_lt
        (h.everywhere World.invariant_distinct w world hworld)
  | readBody w b property =>
      obtain ⟨hread, -⟩ := Registry.read_eq_ok htransact
      obtain ⟨⟨world, key, body⟩, -, rfl⟩ := map_eq_ok_iff.mp hread
      cases property <;> trivial
  | _ =>
      obtain ⟨answer, -, rfl⟩ := Transaction.map_eq_ok htransact
      trivial

section

variable {depth : Nat}

theorem printable_integer {n : Int} (hlow : -2 ^ 63 ≤ n) (hhigh : n < 2 ^ 64) :
    (Value.integer n).Printable depth := by
  rw [Value.integer, Value.Printable]
  exact ⟨hlow, hhigh⟩

theorem printable_count {n : Nat} (hn : n < 2 ^ 64) : (Value.integer n).Printable depth :=
  printable_integer (by omega) (by omega)

theorem printable_raw (n : Int32) : (Value.integer n.toInt).Printable depth := by
  have hlow := n.le_toInt
  have hhigh := n.toInt_lt
  exact printable_integer (by omega) (by omega)

theorem Handle.printable_data {k : Kind} (h : Handle k) : h.data.Printable depth := printable_raw _

theorem printable_array {items : List Value} (h : ∀ v ∈ items, v.Printable depth) :
    (Value.array items).Printable (depth + 1) := by
  rw [Value.Printable]
  exact h

theorem printable_flag (b : Bool) : (Value.boolean b).Printable depth := by
  rw [Value.Printable]
  trivial

theorem printable_text (s : String) : (Value.text s).Printable depth := by
  rw [Value.Printable]
  trivial

end

theorem Snapshot.printable_data {s : Snapshot} (h : s.size < 2 ^ 64) (depth : Nat) :
    s.data.Printable (depth + 1) := by
  refine printable_array (List.forall_mem_cons.mpr ⟨printable_count h, ?_⟩)
  rw [List.forall_mem_flatMap]
  intro p _
  simp only [List.forall_mem_cons]
  exact ⟨p.body.printable_data, Value.printable_ofSingle depth p.x,
    Value.printable_ofSingle depth p.y, Value.printable_ofSingle depth p.angle, nofun⟩

theorem ContactList.printable_data {l : ContactList} (h : l.size < 2 ^ 64) (depth : Nat) :
    l.data.Printable (depth + 1) := by
  refine printable_array (List.forall_mem_cons.mpr ⟨printable_count h, ?_⟩)
  rw [List.forall_mem_flatMap]
  intro c _
  simp only [List.forall_mem_cons]
  exact ⟨c.first.printable_data, c.second.printable_data, printable_flag c.touching, nofun⟩

theorem Outcome.printable_data {outcome : Outcome} (h : outcome.Fits) (depth : Nat) :
    outcome.data.Printable (depth + 1) := by
  have hsingle := Value.printable_ofSingle depth
  cases outcome with
  | done => exact printable_text _
  | handle f => exact f.printable_data
  | handles hs =>
      refine printable_array ?_
      rw [List.forall_mem_map]
      exact fun f _ => f.printable_data
  | joined a b =>
      refine printable_array ?_
      simp only [List.forall_mem_cons]
      exact ⟨a.printable_data, b.printable_data, nofun⟩
  | number x => exact Value.printable_ofSingle _ x
  | point v =>
      refine printable_array ?_
      simp only [List.forall_mem_cons]
      exact ⟨hsingle v.x, hsingle v.y, nofun⟩
  | flag b => exact printable_flag b
  | count n => exact printable_count h
  | kind k => exact printable_raw k.raw
  | material m =>
      refine printable_array ?_
      simp only [List.forall_mem_cons]
      exact ⟨hsingle m.friction, hsingle m.restitution, hsingle m.density,
        printable_flag m.isSensor, nofun⟩
  | solid s =>
      cases s with
      | ball radius =>
          refine printable_array ?_
          simp only [List.forall_mem_cons]
          exact ⟨hsingle radius, nofun⟩
      | cuboid width height =>
          refine printable_array ?_
          simp only [List.forall_mem_cons]
          exact ⟨hsingle width, hsingle height, nofun⟩
  | snapshot s => exact s.printable_data h depth
  | contacts l => exact l.printable_data h depth

namespace Message

/-- The error by which a message is refused when it is read or when its command is run. -/
def Fails (s : Simulator) (message : String) (e : MessageError) : Prop :=
  Command.parse message = .error e ∨
    ∃ command refusal s', Command.parse message = .ok command ∧
      command.execute s = .error refusal s' ∧ e = .refused refusal

/-- The outcome of the command that a message is read as. -/
def Succeeds (s : Simulator) (message : String) (outcome : Outcome) : Prop :=
  ∃ command s', Command.parse message = .ok command ∧ command.execute s = .ok outcome s'

variable {s : Simulator} {message : String}

theorem Fails.answer_eq {e : MessageError} (h : Fails s message e) :
    (answer s message).1 = .error e := by
  rcases h with hparse | ⟨command, refusal, s', hparse, hexecute, rfl⟩
  · simp only [answer, hparse]
  · simp only [answer, hparse, hexecute]

theorem Succeeds.answer_eq {outcome : Outcome} (h : Succeeds s message outcome) :
    (answer s message).1 = .ok outcome.data := by
  obtain ⟨command, s', hparse, hexecute⟩ := h
  simp only [answer, hparse, hexecute]

theorem fails_or_succeeds (s : Simulator) (message : String) :
    (∃ e, Fails s message e) ∨ ∃ outcome, Succeeds s message outcome := by
  cases hparse : Command.parse message with
  | error e => exact .inl ⟨e, .inl hparse⟩
  | ok command =>
      cases hexecute : command.execute s with
      | ok outcome s' => exact .inr ⟨outcome, command, s', hparse, hexecute⟩
      | error e s' => exact .inl ⟨_, .inr ⟨command, e, s', hparse, hexecute, rfl⟩⟩

theorem Succeeds.fits {outcome : Outcome} (hs : s.Reachable) (h : Succeeds s message outcome) :
    outcome.Fits := by
  obtain ⟨command, s', -, hexecute⟩ := h
  simp only [Command.execute, Sim.lift_bind] at hexecute
  cases hop : command.operation with
  | error e =>
      rw [hop] at hexecute
      cases hexecute
  | ok op =>
      rw [hop] at hexecute
      have hperform : op.perform s = (.ok outcome, s') := by
        dsimp only at hexecute
        rw [Operation.perform, hexecute]
      exact fits_of_perform hs hperform

theorem Fails.parse_reply {e : MessageError} (h : Fails s message e) :
    parse (handle s message).1 = .ok (.object [("error", .text e.message)]) := by
  obtain ⟨v, hrounded, hparse⟩ := parse_compact "error" (printable_text e.message)
  rw [Value.eq_text_of_rounded hrounded] at hparse
  show parse (envelope (answer s message).1).compact = _
  rw [h.answer_eq]
  exact hparse

theorem Succeeds.parse_reply {outcome : Outcome} (hs : s.Reachable)
    (h : Succeeds s message outcome) :
    ∃ v, v.rounded = outcome.data ∧
      parse (handle s message).1 = .ok (.object [("data", v)]) := by
  show ∃ v, v.rounded = outcome.data ∧
    parse (envelope (answer s message).1).compact = .ok (.object [("data", v)])
  rw [h.answer_eq]
  exact parse_compact "data" (Outcome.printable_data (h.fits hs) _)

/-- The reply to any message is read as an object with one entry.  It is the message of the error
if there was one, and otherwise data that is, rounded to singles, the data of the outcome. -/
theorem envelope_of_reply (hs : s.Reachable) (message : String) :
    ∃ key value, parse (handle s message).1 = .ok (.object [(key, value)]) ∧
      (key = "error" ↔ ∃ e, Fails s message e) ∧
      (∀ e, Fails s message e → value = .text e.message) ∧
      (key ≠ "error" →
        key = "data" ∧ ∃ outcome, Succeeds s message outcome ∧ value.rounded = outcome.data) := by
  rcases fails_or_succeeds s message with ⟨e, he⟩ | ⟨outcome, houtcome⟩
  · refine ⟨"error", .text e.message, he.parse_reply, ⟨fun _ => ⟨e, he⟩, fun _ => rfl⟩, ?_,
      fun hkey => absurd rfl hkey⟩
    intro e' he'
    rw [Except.error.inj (he'.answer_eq.symm.trans he.answer_eq)]
  · obtain ⟨value, hrounded, hparse⟩ := houtcome.parse_reply hs
    have hfails : ∀ e, ¬ Fails s message e := by
      intro e he
      have heq := he.answer_eq.symm.trans houtcome.answer_eq
      cases heq
    refine ⟨"data", value, hparse, ⟨fun hkey => absurd hkey (by decide), ?_⟩,
      fun e he => absurd he (hfails e), fun _ => ⟨rfl, outcome, houtcome, hrounded⟩⟩
    rintro ⟨e, he⟩
    exact absurd he (hfails e)

theorem envelope_of_velocity :
    Simulator.sample.Reachable ∧
      ∃ value, parse (handle .sample askVelocity).1 = .ok (.object [("data", value)]) ∧
        ∃ outcome, Succeeds .sample askVelocity outcome ∧ value.rounded = outcome.data := by
  have hreachable := Simulator.reachable_sample
  have hanswered : (answer .sample askVelocity).1.toOption.isSome = true := by decide +kernel
  obtain ⟨key, value, hparse, herror, -, hdata⟩ := envelope_of_reply hreachable askVelocity
  have hkey : key ≠ "error" := by
    intro heq
    obtain ⟨e, he⟩ := herror.mp heq
    rw [he.answer_eq] at hanswered
    cases hanswered
  obtain ⟨rfl, houtcome⟩ := hdata hkey
  exact ⟨hreachable, value, hparse, houtcome⟩

/-- A world with one body that was launched with a speed. -/
def launched (speed : String) : Simulator :=
  handleAll (.start .initial) [newWorld, newBody, launch speed]

/-- The double that is read for a velocity is not the one that was written for it. -/
theorem reply_next_to_velocity :
    (launched "9.1").Reachable ∧
      (handle (launched "9.1") askVelocity).1 = "\x7b\"data\":[9.100000381469727,0.0]\x7d" ∧
      ∃ outcome, Succeeds (launched "9.1") askVelocity outcome ∧
        parse (handle (launched "9.1") askVelocity).1 ≠ .ok (.object [("data", outcome.data)]) := by
  have hlaunch : Orders (launch "9.1")
      (.setBody ⟨0⟩ ⟨0⟩ (.linearVelocity ⟨Float32.ofBits 0x4111999a, 0⟩)) :=
    ⟨.setLinearVelocity ⟨0⟩ ⟨0⟩ ⟨Float32.ofBits 0x4111999a, 0⟩,
      toOption_eq_some_iff.mp (by decide +kernel), rfl⟩
  have hafter : launched "9.1" = _ := handleAll_eq_performAll (.cons orders_newWorld
    (.cons orders_newBody (.cons hlaunch .nil))) (.start .initial)
  have hreply : (handle (launched "9.1") askVelocity).1 =
      "\x7b\"data\":[9.100000381469727,0.0]\x7d" := by
    rw [hafter, handle, orders_askVelocity.answer_eq]
    decide +kernel
  refine ⟨?_, hreply, ?_⟩
  · rw [hafter]
    exact (Simulator.Reachable.start _).performAll _
  · rw [hreply]
    refine ⟨.point ⟨Float32.ofBits 0x4111999a, 0⟩,
      ⟨.getLinearVelocity ⟨0⟩ ⟨0⟩, launched "9.1", parse_askVelocity, ?_⟩, ?_⟩
    · rw [hafter]
      rfl
    · intro heq
      -- The value that is read is written otherwise.
      have hcompact := congrArg (fun found => found.toOption.map Value.compact) heq
      revert hcompact
      decide +kernel

end Message

end RigidWorlds
