import BrokerConnector.Proofs.Broker.Request
import Mathlib.Data.List.TakeWhile

/-!
# What a broker that gives nothing changes

A broker that refuses a request is as it was before (`perform_of_refused`): every check comes before
the first change and before the first identifier is given out. A receive that is granted and gives
no message may have looked for one. It found none only if all that was there had expired, and then
the expired messages are gone and nothing else is.
-/

namespace BrokerConnector.Broker

/-- The broker without the messages that a consumer, by its position, takes its next one from. -/
def drained (broker : Broker) (index : Nat) (consumer : Consumer) : Broker :=
  match consumer.destination with
  | .queue name => { broker with waiting := broker.waiting.filter (·.queue ≠ name) }
  | .topic _ =>
    { broker with consumers := broker.consumers.set index { consumer with buffer := [] } }

/-- When a consumer is drained, its queue is empty and the others are as they were. -/
theorem queue_drained (broker : Broker) (index : Nat) (consumer : Consumer) (name : String) :
    (broker.drained index consumer).queue name =
      if consumer.destination = .queue name then [] else broker.queue name := by
  unfold drained queue
  cases hd : consumer.destination with
  | topic other => simp
  | queue other =>
    by_cases ho : other = name
    · subst ho
      simp [List.filter_filter]
    · have hkeep : ∀ waiting : Waiting, waiting.queue = name → waiting.queue ≠ other :=
        fun waiting he h => ho (h.symm.trans he)
      rw [if_neg (by simpa using ho), List.filter_filter]
      refine congrArg _ (List.filter_congr fun waiting _ => ?_)
      simpa using hkeep waiting

/-- A queue that gives nothing held nothing but expired messages, and is empty afterwards. -/
theorem takeWaiting_of_none {name : String} {now : Int64} {waiting : List Waiting}
    (h : (takeWaiting name now waiting).1 = none) :
    (takeWaiting name now waiting).2 = waiting.filter (·.queue ≠ name) := by
  induction waiting with
  | nil => rfl
  | cons first rest ih =>
    by_cases hq : first.queue = name
    · by_cases he : first.message.isExpired now = true
      · simp only [takeWaiting, hq, he, if_true] at h ⊢
        rw [ih h, List.filter_cons_of_neg (by simpa using hq)]
      · simp [takeWaiting, hq, he] at h
    · simp only [takeWaiting, hq, if_false] at h ⊢
      rw [ih h, List.filter_cons_of_pos (by simpa using hq)]

/-- A consumer for which nothing is taken is drained of expired messages. -/
theorem take_of_none {broker : Broker} {now : Int64} {index : Nat} {consumer : Consumer}
    (h : (broker.take now index consumer).1 = none) :
    (broker.take now index consumer).2 = broker.drained index consumer ∧
      ∀ message ∈ broker.source consumer, message.isExpired now = true := by
  have hexpired : ∀ message ∈ broker.source consumer, message.isExpired now = true := by
    rw [take_fst, Contents.next?, List.head?_eq_none_iff, List.dropWhile_eq_nil_iff] at h
    exact h
  refine ⟨?_, hexpired⟩
  unfold take at h ⊢
  unfold drained
  unfold source at hexpired
  cases hd : consumer.destination with
  | queue name =>
    simp only [hd] at h ⊢
    rw [takeWaiting_of_none h]
  | topic name =>
    simp only [hd] at hexpired ⊢
    rw [takeBuffered_eq, List.dropWhile_eq_nil_iff.2 hexpired]
    rfl

/-- A request that is refused leaves no trace: what waits, what is buffered or held, the logs, what
is open or started and the numbers that were given out are as before. A receive that gives no
message changes at most the queue or the buffer that it takes from, which then had only expired
messages in it and is empty. -/
theorem refuses_without_trace (broker : Broker) (now : Int64) :
    (∀ request error, (broker.perform now request).1 = .error error →
      (broker.perform now request).2 = broker) ∧
    ∀ handle, (broker.perform now (.receive handle)).1 = .ok none →
      (broker.perform now (.receive handle)).2 = broker ∨
        ∃ consumer, broker.consumers[handle.index]? = some consumer ∧
          (∀ message ∈ broker.source consumer, message.isExpired now = true) ∧
          (broker.perform now (.receive handle)).2 = broker.drained handle.index consumer ∧
          ∀ name, (broker.perform now (.receive handle)).2.queue name =
            if consumer.destination = .queue name then [] else broker.queue name := by
  refine ⟨fun request error h => perform_of_refused h, fun handle h => ?_⟩
  simp only [perform] at h ⊢
  cases hr : broker.receiver? handle with
  | none => exact .inl (receive_of_receiver?_eq_none now hr).1
  | some pair =>
    obtain ⟨consumer, session⟩ := pair
    have hnone : (broker.take now handle.index consumer).1 = none := by
      rw [take_fst]
      rw [receive_fst now hr] at h
      exact Except.ok.inj h
    -- No message was found, so no session was given one either: the broker is as `take` left it.
    obtain ⟨hrest, hexpired⟩ := take_of_none hnone
    have hafter : (broker.receive now handle).2 = broker.drained handle.index consumer := by
      rw [receive_of_receiver?_eq_some now hr, ← take_fst broker now handle.index, hnone, ← hrest]
      rfl
    refine .inr ⟨consumer, (receiver?_eq_some hr).1, hexpired, hafter, fun name => ?_⟩
    rw [hafter, queue_drained]

/-- A message waits on a queue until it expires, another one waits on another queue, and a third one
is refused. -/
def expiringRun : List (Int64 × Operation) :=
  let session : SessionHandle := ⟨0, "session-1-2", .client⟩
  [(1, .publish (.queue "orders") { id := some ⟨"A"⟩, body := .text "a", expiration := 10 }),
   (2, .publish (.queue "others") { id := some ⟨"B"⟩, body := .text "b" }),
   (3, .reject (.queue "orders")),
   (4, .request (.connect none)),
   (5, .request (.startConnection ⟨0⟩)),
   (6, .request (.createSession ⟨0⟩ .client)),
   (7, .request (.createConsumer session (.queue "orders"))),
   (8, .request (.createProducer session none))]

/-- The refused message changes nothing, and a receive changes the queue of the expired message
alone. -/
theorem refuses_without_trace_expiringRun :
    let broker := after none expiringRun
    let send := BrokerRequest.send ⟨0⟩ (.queue "orders") (.ofText "c")
    (broker.perform 20 send).2 = broker ∧
      (broker.queue "orders").length = 1 ∧
      ∀ name, (broker.perform 20 (.receive ⟨0⟩)).2.queue name =
        if name = "orders" then [] else broker.queue name := by
  intro broker send
  obtain ⟨hrefused, hnothing⟩ := refuses_without_trace broker 20
  have hsend : (broker.perform 20 send).1 =
      .error (.send "queue://orders" "destination rejected by broker") := by decide +kernel
  have hreceive : (broker.perform 20 (.receive ⟨0⟩)).1 = .ok none := by decide +kernel
  refine ⟨hrefused send _ hsend, by decide +kernel, fun name => ?_⟩
  rcases hnothing ⟨0⟩ hreceive with hsame | ⟨consumer, hfound, -, -, hqueue⟩
  · have hchanged : (broker.perform 20 (.receive ⟨0⟩)).2 ≠ broker := by decide +kernel
    exact (hchanged hsame).elim
  · have hdestination : ∀ consumer ∈ broker.consumers,
        consumer.destination = .queue "orders" := by decide +kernel
    rw [hqueue, hdestination consumer (List.mem_of_getElem? hfound)]
    simp [eq_comm]

end BrokerConnector.Broker
