import RigidWorlds.Proofs.Encoding
import RigidWorlds.Proofs.FiniteMotion

namespace RigidWorlds

open Engine Binary Json

/-- The value is a finite number. -/
def Json.Value.IsNumber : Value → Prop
  | number (.integer _) => True
  | number (.real x) => x.isFinite = true
  | _ => False

theorem Json.Value.isNumber_ofSingle {x : Float32} (hx : x.isFinite = true) :
    (ofSingle x).IsNumber := by
  rw [ofSingle_of_isFinite hx]
  exact isFinite_widen hx

/-- The value is a pair of numbers. -/
def Json.Value.IsPoint (value : Value) : Prop :=
  ∃ x y, value = .array [x, y] ∧ x.IsNumber ∧ y.IsNumber

theorem Vec2.Finite.isPoint_data {v : Vec2} (hv : v.Finite) : v.data.IsPoint :=
  ⟨_, _, rfl, Value.isNumber_ofSingle hv.1, Value.isNumber_ofSingle hv.2⟩

/-- The four entries for a body: numbers, as far as the angle of a finite rotation is one. -/
def Json.Value.IsPose (row : List Value) : Prop :=
  ∃ id x y r, row = [id, x, y, ofSingle (Rotation.angle r)] ∧
    id.IsNumber ∧ x.IsNumber ∧ y.IsNumber ∧ r.Finite

/-- The value counts bodies and has four entries for each of them.  All of these are numbers if the
angles of finite rotations are. -/
def Json.Value.ListsPoses (value : Value) : Prop :=
  ∃ rows : List (List Value), value = .array (.integer rows.length :: rows.flatten) ∧
    (∀ row ∈ rows, IsPose row) ∧ rows.flatten.length = 4 * rows.length ∧
    ((∀ r : Rotation, r.Finite → r.angle.isFinite = true) →
      ∀ entry ∈ rows.flatten, entry.IsNumber)

theorem Json.Value.length_flatten_of_isPose {rows : List (List Value)}
    (h : ∀ row ∈ rows, IsPose row) : rows.flatten.length = 4 * rows.length := by
  induction rows with
  | nil => rfl
  | cons row rows ih =>
      obtain ⟨id, x, y, r, rfl, -⟩ := h row List.mem_cons_self
      have hrest := ih fun other hother => h other (List.mem_cons_of_mem _ hother)
      rw [List.flatten_cons, List.length_append, hrest, List.length_cons]
      exact (Nat.mul_succ 4 rows.length ▸ Nat.add_comm 4 _)

theorem Json.Value.isNumber_of_isPose
    (hangle : ∀ r : Rotation, r.Finite → r.angle.isFinite = true) {rows : List (List Value)}
    (h : ∀ row ∈ rows, IsPose row) : ∀ entry ∈ rows.flatten, entry.IsNumber := by
  rw [List.forall_mem_flatten]
  intro row hrow
  obtain ⟨id, x, y, r, rfl, hid, hx, hy, hr⟩ := h row hrow
  simp only [List.forall_mem_cons, List.not_mem_nil, false_implies, implies_true, and_true]
  exact ⟨hid, hx, hy, isNumber_ofSingle (hangle r hr)⟩

theorem Engine.World.Finite.listsPoses {w : World} (h : w.Finite) :
    (Snapshot.capture w).data.ListsPoses := by
  have hrows : ∀ row ∈ (Snapshot.capture w).poses.map fun p =>
      [p.body.data, .ofSingle p.x, .ofSingle p.y, .ofSingle p.angle], Value.IsPose row := by
    intro row hrow
    obtain ⟨pose, hpose, rfl⟩ := List.mem_map.mp hrow
    obtain ⟨⟨key, body⟩, hmem, hbody⟩ := List.mem_filterMap.mp hpose
    obtain ⟨handle, -, rfl⟩ := Option.map_eq_some_iff.mp hbody
    have hfinite := h key body (Arena.mem_toList.mp hmem)
    exact ⟨_, _, _, body.motion.pose.rotation, rfl, trivial,
      Value.isNumber_ofSingle hfinite.place.1, Value.isNumber_ofSingle hfinite.place.2,
      hfinite.rotation⟩
  refine ⟨_, ?_, hrows, Value.length_flatten_of_isPose hrows,
    fun hangle => Value.isNumber_of_isPose hangle hrows⟩
  rw [List.length_map, ← List.flatMap_def]
  rfl

namespace Message

/-- The message is read, and as a command that is run as the operation. -/
def Orders (message : String) (op : Operation) : Prop :=
  ∃ command, Command.parse message = .ok command ∧ command.operation = .ok op

/-- The message lets no time pass and writes nothing beyond the range of singles. -/
def Mild (s : Simulator) (message : String) : Prop :=
  ∀ op, Orders message op → ¬ op.LetsTimePass ∧ op.WithinRange s.registry

def AllMild (s : Simulator) : List String → Prop
  | [] => True
  | message :: rest => Mild s message ∧ AllMild (handle s message).2 rest

/-- The simulator after some messages. -/
def handleAll (s : Simulator) (messages : List String) : Simulator :=
  messages.foldl (fun s message => (handle s message).2) s

variable {s : Simulator} {message : String} {op : Operation}

theorem Orders.unique {op' : Operation} (h : Orders message op) (h' : Orders message op') :
    op = op' := by
  obtain ⟨command, hparse, hop⟩ := h
  obtain ⟨command', hparse', hop'⟩ := h'
  obtain rfl := Except.ok.inj (hparse.symm.trans hparse')
  exact Except.ok.inj (hop.symm.trans hop')

theorem Orders.mild (h : Orders message op) (hidle : ¬ op.LetsTimePass)
    (hrange : op.WithinRange s.registry) : Mild s message := by
  intro op' h'
  obtain rfl := h.unique h'
  exact ⟨hidle, hrange⟩

theorem Orders.answer_eq (h : Orders message op) (s : Simulator) :
    answer s message =
      (((op.perform s).1.mapError .refused).map Outcome.data, (op.perform s).2) := by
  obtain ⟨command, hparse, hop⟩ := h
  unfold answer
  rw [hparse]
  simp only [Command.execute, Sim.lift_bind, hop, Operation.perform]
  cases op.run s <;> rfl

theorem Orders.handle_eq (h : Orders message op) (s : Simulator) :
    (handle s message).2 = (op.perform s).2 := by
  show (answer s message).2 = _
  rw [h.answer_eq]

theorem handleAll_eq_performAll {messages : List String} {ops : List Operation}
    (h : List.Forall₂ Orders messages ops) (s : Simulator) :
    handleAll s messages = s.performAll ops := by
  induction h generalizing s with
  | nil => rfl
  | cons hfirst _ ih =>
      refine (ih _).trans ?_
      dsimp only
      rw [hfirst.handle_eq]
      rfl

theorem orders_or_refused (s : Simulator) (message : String) :
    (∃ op, Orders message op) ∨ ∃ e, answer s message = (.error e, s) := by
  unfold answer Orders
  cases Command.parse message with
  | error e => exact .inr ⟨e, rfl⟩
  | ok command =>
      cases hop : command.operation with
      | error e =>
          simp only [Command.execute, hop]
          exact .inr ⟨_, rfl⟩
      | ok op => exact .inl ⟨op, command, rfl, hop⟩

theorem finite_handle (hs : s.Reachable) (h : s.registry.Finite) (hmild : Mild s message) :
    (handle s message).2.registry.Finite := by
  rcases orders_or_refused s message with ⟨op, horders⟩ | ⟨e, hanswer⟩
  · obtain ⟨hidle, hrange⟩ := hmild op horders
    rw [horders.handle_eq]
    exact Simulator.finite_perform hs.sound h hidle hrange
  · show (answer s message).2.registry.Finite
    rw [hanswer]
    exact h

theorem finite_handleAll {before after : List String} (hs : s.Reachable) (h : s.registry.Finite)
    (hmild : AllMild s (before ++ after)) :
    (handleAll s before).Reachable ∧ (handleAll s before).registry.Finite ∧
      AllMild (handleAll s before) after := by
  induction before generalizing s with
  | nil => exact ⟨hs, h, hmild⟩
  | cons message before ih =>
      obtain ⟨hfirst, hrest⟩ := hmild
      exact ih (hs.handle message) (finite_handle hs h hfirst) hrest

end Message

/-- A successful answer to the command consists of numbers. -/
def Command.Carries (value : Value) : Command → Prop
  | step .. => value.ListsPoses
  | getLinearVelocity .. | getWorldCenter .. | getLocalCenter .. => value.IsPoint
  | getAngularVelocity .. => value.IsNumber
  | _ => True

namespace Operation

open Registry

variable {config : Config} {r r' : Registry} {w : Handle .world} {outcome : Outcome}

theorem listsPoses_of_step (h : r.Finite) {dt : Float32}
    {velocityIterations positionIterations : UInt32} (hidle : ¬ 0 < dt)
    (hok : (step w dt velocityIterations positionIterations).transact config r =
      .ok (outcome, r')) : outcome.data.ListsPoses := by
  obtain ⟨snapshot, hstep, rfl⟩ := Transaction.map_eq_ok hok
  obtain ⟨world, hw, rfl, -⟩ := step_idle_eq_ok hidle hstep
  exact (h w world hw).listsPoses

theorem finite_of_readBody (h : r.Finite) {b : Handle .body} {property : BodyProperty}
    (hok : (readBody w b property).transact config r = .ok (outcome, r')) :
    ∃ body : Body, body.motion.Finite ∧ outcome = property.value body := by
  simp only [transact, Registry.readBody] at hok
  obtain ⟨hread, -⟩ := read_eq_ok hok
  rw [map_eq_ok_iff] at hread
  obtain ⟨⟨world, key, body⟩, hlocate, rfl⟩ := hread
  obtain ⟨-, -, hw, -, hbody⟩ := locateBody_eq_ok hlocate
  exact ⟨body, h w world hw key body hbody, rfl⟩

end Operation

theorem Command.carries_of_transact {command : Command} {op : Operation} {config : Config}
    {r r' : Registry} {outcome : Outcome} (h : r.Finite) (hop : command.operation = .ok op)
    (hidle : ¬ op.LetsTimePass) (hok : op.transact config r = .ok (outcome, r')) :
    command.Carries outcome.data := by
  cases command with
  | step w dt velocityIterations positionIterations =>
      obtain rfl := Except.ok.inj hop
      exact Operation.listsPoses_of_step h hidle hok
  | getLinearVelocity w b =>
      obtain rfl := Except.ok.inj hop
      obtain ⟨body, hbody, rfl⟩ := Operation.finite_of_readBody h hok
      exact hbody.linear.isPoint_data
  | getAngularVelocity w b =>
      obtain rfl := Except.ok.inj hop
      obtain ⟨body, hbody, rfl⟩ := Operation.finite_of_readBody h hok
      exact Value.isNumber_ofSingle hbody.angular
  | getWorldCenter w b =>
      obtain rfl := Except.ok.inj hop
      obtain ⟨body, hbody, rfl⟩ := Operation.finite_of_readBody h hok
      exact hbody.finite_center.isPoint_data
  | getLocalCenter w b =>
      obtain rfl := Except.ok.inj hop
      obtain ⟨body, hbody, rfl⟩ := Operation.finite_of_readBody h hok
      exact hbody.finite_localCenter.isPoint_data
  | _ => trivial

/-- In a run of messages that let no time pass and write nothing beyond the range of singles,
answers carry numbers. -/
theorem carries_answer (config : Config) {before : List String} {message : String}
    (hmild : Message.AllMild (.start config) (before ++ [message])) {command : Command}
    {value : Value} (hparse : Command.parse message = .ok command)
    (hanswer : (Message.answer (Message.handleAll (.start config) before) message).1 =
      .ok value) : command.Carries value := by
  obtain ⟨hreachable, hfinite, hlast, -⟩ :=
    Message.finite_handleAll (.start config) Registry.finite_empty hmild
  rcases Message.orders_or_refused (Message.handleAll (.start config) before) message with
    ⟨op, horders⟩ | ⟨e, hrefused⟩
  · obtain ⟨hidle, -⟩ := hlast op horders
    rw [horders.answer_eq, Operation.perform_eq hreachable.sound] at hanswer
    obtain ⟨found, hfound, hop⟩ := horders
    obtain rfl := Except.ok.inj (hparse.symm.trans hfound)
    cases hok : op.transact (Message.handleAll (.start config) before).config
        (Message.handleAll (.start config) before).registry with
    | error e =>
        rw [hok] at hanswer
        cases hanswer
    | ok result =>
        rw [hok] at hanswer
        obtain rfl := Except.ok.inj hanswer
        exact Command.carries_of_transact hfinite hop hidle hok
  · rw [hrefused] at hanswer
    cases hanswer

namespace Message

def newWorld : String :=
  "\x7b\"command\":\"createWorld\",\"param1\":0,\"param2\":0,\"param3\":true\x7d"

def newBody : String :=
  "\x7b\"command\":\"createBody\",\"param1\":0,\"param2\":\x7b\"type\":2\x7d\x7d"

def launch (speed : String) : String :=
  "\x7b\"command\":\"setLinearVelocity\",\"param1\":0,\"param2\":0,\"param3\":" ++ speed ++
    ",\"param4\":0\x7d"

def askVelocity : String :=
  "\x7b\"command\":\"getLinearVelocity\",\"param1\":0,\"param2\":0\x7d"

theorem orders_newWorld : Orders newWorld (.createWorld ⟨0, 0⟩ true) :=
  ⟨.createWorld ⟨0, 0⟩ true, toOption_eq_some_iff.mp (by decide +kernel), rfl⟩

theorem orders_newBody : Orders newBody (.createBody ⟨0⟩ .dynamic ⟨0, 0⟩) :=
  ⟨.createBody ⟨0⟩ .dynamic ⟨0, 0⟩, toOption_eq_some_iff.mp (by decide +kernel), rfl⟩

theorem parse_askVelocity : Command.parse askVelocity = .ok (.getLinearVelocity ⟨0⟩ ⟨0⟩) :=
  toOption_eq_some_iff.mp (by decide +kernel)

theorem orders_askVelocity : Orders askVelocity (.readBody ⟨0⟩ ⟨0⟩ .linearVelocity) :=
  ⟨_, parse_askVelocity, rfl⟩

end Message

open Message in
/-- A body is launched with a speed of three, and asked how fast it is. -/
theorem carries_launched :
    AllMild (.start .initial) ([newWorld, newBody, launch "3"] ++ [askVelocity]) ∧
      ∃ value, (answer (handleAll (.start .initial) [newWorld, newBody, launch "3"])
        askVelocity).1 = .ok value ∧ (Command.getLinearVelocity ⟨0⟩ ⟨0⟩).Carries value := by
  have hlaunch : Orders (launch "3") (.setBody ⟨0⟩ ⟨0⟩ (.linearVelocity ⟨3, 0⟩)) :=
    ⟨.setLinearVelocity ⟨0⟩ ⟨0⟩ ⟨3, 0⟩, toOption_eq_some_iff.mp (by decide +kernel), rfl⟩
  have hmild : AllMild (.start .initial) ([newWorld, newBody, launch "3"] ++ [askVelocity]) := by
    refine ⟨?_, ?_, ?_, ?_, trivial⟩
    · exact orders_newWorld.mild id trivial
    · exact orders_newBody.mild id ⟨rfl, rfl⟩
    · exact hlaunch.mild id fun _ _ _ _ => ⟨rfl, rfl⟩
    · exact orders_askVelocity.mild id trivial
  have hafter := handleAll_eq_performAll (.cons orders_newWorld (.cons orders_newBody
    (.cons hlaunch .nil))) (.start .initial)
  have hanswer : (answer (handleAll (.start .initial) [newWorld, newBody, launch "3"])
      askVelocity).1 = .ok (Vec2.data ⟨3, 0⟩) := by
    rw [hafter, orders_askVelocity.answer_eq]
    rfl
  exact ⟨hmild, _, hanswer, carries_answer .initial hmild parse_askVelocity hanswer⟩

open Message in
/-- A speed beyond the range of singles is taken for infinite, and no number comes back. -/
theorem launched_beyond_range :
    (∀ message ∈ [newWorld, newBody, launch "1e39", askVelocity], ∀ op,
      Orders message op → ¬ op.LetsTimePass) ∧
    (handle (handleAll (.start .initial) [newWorld, newBody, launch "1e39"]) askVelocity).1 =
      "\x7b\"data\":[null,0.0]\x7d" := by
  have hlaunch : Orders (launch "1e39")
      (.setBody ⟨0⟩ ⟨0⟩ (.linearVelocity ⟨Float32.ofBits 0x7f800000, 0⟩)) :=
    ⟨.setLinearVelocity ⟨0⟩ ⟨0⟩ ⟨Float32.ofBits 0x7f800000, 0⟩,
      toOption_eq_some_iff.mp (by decide +kernel), rfl⟩
  constructor
  · simp only [List.forall_mem_cons]
    refine ⟨?_, ?_, ?_, ?_, nofun⟩ <;> intro op hop
    · exact orders_newWorld.unique hop ▸ id
    · exact orders_newBody.unique hop ▸ id
    · exact hlaunch.unique hop ▸ id
    · exact orders_askVelocity.unique hop ▸ id
  · have hafter := handleAll_eq_performAll (.cons orders_newWorld (.cons orders_newBody
      (.cons hlaunch .nil))) (.start .initial)
    rw [hafter, handle, orders_askVelocity.answer_eq]
    decide +kernel

end RigidWorlds
