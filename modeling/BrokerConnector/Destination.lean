import BrokerConnector.Text.Debug

/-!
# Destinations

A message goes to a queue, where one consumer gets it, or to a topic, where every live subscriber
gets a copy. A queue and a topic of one name are different destinations.
-/

namespace BrokerConnector

/-- Where messages are sent to and received from. -/
inductive Destination where
  /-- Every message is delivered to exactly one consumer. -/
  | queue (name : String)
  /-- Every message is delivered to every live subscriber. -/
  | topic (name : String)
  deriving DecidableEq, Inhabited

namespace Destination

/-- The name of a destination, without its kind. -/
def name : Destination → String
  | queue name => name
  | topic name => name

/-- Whether a destination is a topic. -/
def isTopic : Destination → Bool
  | queue _ => false
  | topic _ => true

/-- A destination in a message for people: its kind as a scheme before its name. -/
def address : Destination → String
  | queue name => "queue://" ++ name
  | topic name => "topic://" ++ name

/-- A destination as a value that is shown. -/
def debug : Destination → String
  | queue name => Text.caseOf "Queue" (Text.quoted name)
  | topic name => Text.caseOf "Topic" (Text.quoted name)

/-- The number of readers that share a destination when `desired` are asked for. A topic has one,
since every subscriber would receive every message, and a queue has at least one. -/
def splitCount (destination : Destination) (desired : Nat) : Nat :=
  match destination with
  | topic _ => 1
  | queue _ => max desired 1

/-- A topic has one reader. -/
theorem splitCount_of_isTopic {destination : Destination} (h : destination.isTopic = true)
    (desired : Nat) : destination.splitCount desired = 1 := by
  cases destination with
  | queue name => cases h
  | topic name => rfl

end Destination

end BrokerConnector
