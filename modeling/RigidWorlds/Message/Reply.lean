import RigidWorlds.Message.Command
import RigidWorlds.Operation

/-!
Running commands and wording the replies.  A reply is an object with one entry: the data under
`data`, or the message of a refusal under `error`.
-/

namespace RigidWorlds

open Json

def Command.operation : Command → Except Error Operation
  | createWorld gravity allowSleep => .ok (.createWorld gravity allowSleep)
  | destroyWorld w => .ok (.destroyWorld w)
  | setContinuous w enabled => .ok (.setWorld w (.continuous enabled))
  | setGravity w gravity => .ok (.setWorld w (.gravity gravity))
  | clearForces w => .ok (.setWorld w .clearForces)
  | step w dt velocityIterations positionIterations =>
      .ok (.step w dt velocityIterations positionIterations)
  | getLastContacts w => .ok (.lastContacts w)
  | createBody w kind place => .ok (.createBody w kind place)
  | deleteBody w b => .ok (.deleteBody w b)
  | setBodyTransform w b place angle => .ok (.setBody w b (.pose place angle))
  | setLinearVelocity w b v => .ok (.setBody w b (.linearVelocity v))
  | getLinearVelocity w b => .ok (.readBody w b .linearVelocity)
  | setAngularVelocity w b v => .ok (.setBody w b (.angularVelocity v))
  | getAngularVelocity w b => .ok (.readBody w b .angularVelocity)
  | applyImpulse w b impulse point wake => .ok (.setBody w b (.impulse impulse point wake))
  | applyForceToCenter w b force wake => .ok (.setBody w b (.force force wake))
  | setLinearDamping w b damping => .ok (.setBody w b (.linearDamping damping))
  | setActive w b active => .ok (.setBody w b (.active active))
  | setAwake w b awake => .ok (.setBody w b (.awake awake))
  | isAwake w b => .ok (.readBody w b .awake)
  | getWorldCenter w b => .ok (.readBody w b .worldCenter)
  | getLocalCenter w b => .ok (.readBody w b .localCenter)
  | getObjectContacts w b => .ok (.objectContacts w b)
  | createFixture w b fixture =>
      fixture.shape.descriptor.map fun shape => .createFixture w b shape fixture.material
  | deleteFixture w f => .ok (.deleteFixture w f)
  | setSensor w f isSensor => .ok (.setFixture w f (.sensor isSensor))
  | setDensity w f density => .ok (.setFixture w f (.density density))
  | setFriction w f friction => .ok (.setFixture w f (.friction friction))
  | setRestitution w f restitution => .ok (.setFixture w f (.restitution restitution))
  | createDistanceJoint w a b => .ok (.createDefaultJoint w a b)
  | deleteJoint w j => .ok (.deleteJoint w j)

def Command.execute (c : Command) : Sim Outcome := do
  let operation ← Sim.lift c.operation
  operation.run

def Handle.data (h : Handle k) : Value := .integer h.raw.toInt

def Vec2.data (v : Vec2) : Value := .array [.ofSingle v.x, .ofSingle v.y]

/-- How many poses there are, and then four entries for each. -/
def Snapshot.data (s : Snapshot) : Value :=
  .array (.integer s.size :: s.poses.flatMap fun p =>
    [p.body.data, .ofSingle p.x, .ofSingle p.y, .ofSingle p.angle])

/-- How many contacts there are, and then three entries for each. -/
def ContactList.data (l : ContactList) : Value :=
  .array (.integer l.size :: l.contacts.flatMap fun c =>
    [c.first.data, c.second.data, .boolean c.touching])

def Outcome.data : Outcome → Value
  | done => .text "success"
  | handle h => h.data
  | handles hs => .array (hs.map Handle.data)
  | joined a b => .array [a.data, b.data]
  | number x => .ofSingle x
  | point v => v.data
  | flag b => .boolean b
  | count n => .integer n
  | kind k => .integer k.raw.toInt
  | material m =>
      .array [.ofSingle m.friction, .ofSingle m.restitution, .ofSingle m.density,
        .boolean m.isSensor]
  | solid (.ball r) => .array [.ofSingle r]
  | solid (.cuboid w h) => .array [.ofSingle w, .ofSingle h]
  | snapshot s => s.data
  | contacts l => l.data

namespace Message

/-- What becomes of a message, and the simulator to go on with. -/
def answer (s : Simulator) (message : String) : Except MessageError Value × Simulator :=
  match Command.parse message with
  | .error e => (.error e, s)
  | .ok command =>
      match command.execute s with
      | .ok outcome s => (.ok outcome.data, s)
      | .error e s => (.error (.refused e), s)

def envelope : Except MessageError Value → Value
  | .ok data => .object [("data", data)]
  | .error e => .object [("error", .text e.message)]

/-- Handles a message: the text of the reply, and the simulator to go on with. -/
def handle (s : Simulator) (message : String) : String × Simulator :=
  let (result, s) := answer s message
  ((envelope result).compact, s)

end Message

end RigidWorlds
