import BrokerConnector.Bounded
import BrokerConnector.World

/-!
# Reading in a world

Where everything that happens later is planned, the number of polls that a read can have is known
before it begins: every poll takes a message, or is followed by a pause of five milliseconds or
more, or is the last.
-/

namespace BrokerConnector.World

variable {α : Type}

/-- Lets a reader advance until nothing more is available or a call fails. -/
def drain : Call (Reader α) World (List α × Option ConnectorError) := do
  let scene ← Action.state
  let site := scene.client.config.factory.site
  Reader.drain (endpoint site) (scene.env.available site + 1)

/-- The milliseconds until the last of some publications. -/
def timeUntil (world : World) (publications : List Publication) : Nat :=
  (publications.map (·.due)).foldl max world.clock - world.clock

/-- The polls that a bounded read can have while some messages are published. -/
def pollBudget (world : World) (config : ReadConfig α) (publications : List Publication) : Nat :=
  let time := (config.maxReadTime.map UInt64.toNat).getD (world.timeUntil publications)
  world.available config.factory.site + publications.length + time / 5 + 2

/-- Runs a bounded read while some messages are published. Those that are not due when the read ends
are not published at all. -/
def read (chance : Nat → Nat) (publications : List Publication) (bounded : BoundedReader α) :
    Call Unit World (List (Timestamped α)) := fun scene =>
  let config := bounded.source.config
  let budget := scene.env.pollBudget config publications
  let (outcome, scene) := bounded.read (endpoint config.factory.site) chance budget
    { scene with env := { scene.env with planned := publications } }
  (outcome, { scene with env := { scene.env with planned := [] } })

end BrokerConnector.World
