import RigidWorlds.Simulator.Basic

namespace RigidWorlds

structure Shared where
  simulator : Simulator
  /-- Some caller broke off while it held the simulator. -/
  broken : Bool

namespace Shared

def ofSimulator (s : Simulator) : Shared := ⟨s, false⟩

/-- Holds the simulator for one use.  A caller that broke off earlier keeps nobody out: what it left
behind is what its last finished operation made. -/
def use (f : Simulator → α × Simulator) (s : Shared) : α × Shared :=
  let (a, simulator) := f s.simulator
  (a, { s with simulator := simulator })

/-- A caller breaks off before it has changed anything. -/
def breakOff (s : Shared) : Shared := { s with broken := true }

end Shared

end RigidWorlds
