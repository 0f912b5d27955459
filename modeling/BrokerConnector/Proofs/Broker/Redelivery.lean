import BrokerConnector.Proofs.Broker.Conservation

/-!
# What is delivered of what was submitted

A `Submission` is a message as a client gave it to a broker, with what the broker added when it
accepted the message. It lies on a queue or in buffers, goes out, comes back and goes out again, and
in all this only its flag changes: a message that waits is `marked` if it was received before, and as
it was accepted otherwise (`Contents.Marked`). So every delivery is one of a submission to the same
destination, and the flag of a delivery from a queue tells whether the message was received before
(`conveys_of_departs`).

This needs distinct identifiers, because the flag of one message must not depend on what was received
of another.
-/

namespace BrokerConnector

open List

/-! ## Submissions -/

/-- A message as a client gave it to a broker at a moment, with the identifier under which the broker
accepted it. -/
structure Submission where
  destination : Destination
  given : Message
  moment : Int64
  id : MessageId
  /-- Whether it was accepted as a message that was delivered before. -/
  redelivered : Bool
  deriving DecidableEq

namespace Submission

/-- The message as the broker has it. -/
def message (submission : Submission) (redelivered : Bool) : Message :=
  { submission.given.stamped submission.moment with
    id := some submission.id
    destination := some submission.destination
    redelivered := redelivered }

/-- A message that is stamped keeps its flag. -/
theorem message_stamped (destination : Destination) (given : Message) (now : Int64)
    (id : MessageId) :
    message ⟨destination, given, now, id, given.redelivered⟩ given.redelivered =
      { given.stamped now with id := some id, destination := some destination } := by
  unfold message Message.stamped
  split <;> rfl

/-- What the broker adds to what it accepted. -/
def entry (submission : Submission) : Destination × Message :=
  (submission.destination, submission.message submission.redelivered)

end Submission

namespace Broker

/-- What a broker accepts in an operation. A message that is sent counts as new whatever its flag
is. -/
def submission? (broker : Broker) (now : Int64) : Operation → Option Submission
  | .publish destination given =>
    some ⟨destination, given, now, (broker.publish now destination given).1, given.redelivered⟩
  | .request (.send producer destination given) =>
    match (broker.send now producer destination given).1 with
    | .ok id => some ⟨destination, given, now, id, false⟩
    | .error _ => none
  | _ => none

/-- What a broker accepts in operations, in order. -/
def submissions (broker : Broker) : List (Int64 × Operation) → List Submission
  | [] => []
  | (now, operation) :: rest =>
    (broker.submission? now operation).toList ++ (broker.operate now operation).submissions rest

/-- What was submitted since a broker was opened. -/
def submittedAfter (credentials : Option Credentials) (operations : List (Int64 × Operation)) :
    List Submission :=
  submissions { credentials := credentials } operations

theorem submissions_append (broker : Broker) (first second : List (Int64 × Operation)) :
    broker.submissions (first ++ second) =
      broker.submissions first ++ (broker.operateAll first).submissions second := by
  induction first generalizing broker with
  | nil => rfl
  | cons entry rest ih =>
    obtain ⟨now, operation⟩ := entry
    rw [List.cons_append, submissions, ih, submissions, List.append_assoc]
    rfl

theorem submittedAfter_append (credentials : Option Credentials)
    (first second : List (Int64 × Operation)) :
    submittedAfter credentials (first ++ second) =
      submittedAfter credentials first ++ (after credentials first).submissions second :=
  submissions_append _ first second

/-- An operation accepts what is submitted in it. -/
theorem accepted_operate (broker : Broker) (now : Int64) (operation : Operation) :
    (broker.operate now operation).accepted =
      broker.accepted ++ ((broker.submission? now operation).map (·.entry)).toList := by
  cases operation with
  | reject destination => exact (List.append_nil _).symm
  | turn switch on => cases switch <;> exact (List.append_nil _).symm
  | publish destination message =>
    cases hid : message.id <;>
      simp only [operate, publish, hid, accepted_deliver, submission?, Option.map_some,
        Option.toList_some, Submission.entry, Submission.message_stamped]
  | request request =>
    by_cases hsend : ∃ producer destination message, request = .send producer destination message
    · obtain ⟨producer, destination, message, rfl⟩ := hsend
      simp only [operate, perform, submission?]
      unfold send
      split
      · simp [refuse]
      · split
        · simp [refuse]
        · split
          · simp [refuse]
          · simp [grant, Submission.entry, Submission.message]
    · have hsame := (broker.accepted_perform now request
        fun producer destination message he => hsend ⟨producer, destination, message, he⟩).1
      have hnone : broker.submission? now (.request request) = none := by
        unfold submission?
        split
        · rename_i he
          cases he
        · rename_i he
          cases he
          exact (hsend ⟨_, _, _, rfl⟩).elim
        · rfl
      rw [hnone, Option.map_none, Option.toList_none, List.append_nil]
      exact hsame

/-- A broker accepted what was submitted to it. -/
theorem accepted_after (credentials : Option Credentials) (operations : List (Int64 × Operation)) :
    (after credentials operations).accepted =
      (submittedAfter credentials operations).map (·.entry) := by
  induction operations using List.reverseRecOn with
  | nil => rfl
  | append_singleton operations entry ih =>
    obtain ⟨now, operation⟩ := entry
    rw [after_append, operateAll_singleton, accepted_operate, ih, submittedAfter_append,
      List.map_append, submissions, submissions, List.append_nil, Option.toList_map]

end Broker

/-! ## Marks of redelivery -/

/-- Whether a message with an identifier was received. -/
def Departure.isReceived (id : Option MessageId) : Departure → Bool
  | received _ _ _ message => message.id = id
  | discarded _ _ => false

/-- A message as it waits, flagged if it was received before. -/
def Message.marked (message : Message) (departed : List Departure) : Message :=
  { message with redelivered := message.redelivered || departed.any (·.isReceived message.id) }

/-- What is received is known by its identifier. -/
theorem Departure.message_of_isReceived {departure : Departure} {id : Option MessageId}
    (h : departure.isReceived id = true) : departure.message.id = id := by
  cases departure with
  | received session mode destination received => exact of_decide_eq_true h
  | discarded destination message => cases h

/-- A message is marked alike when nothing more is received of it. -/
theorem Message.marked_append {message : Message} {more : List Departure}
    (departed : List Departure) (h : ∀ departure ∈ more, departure.isReceived message.id = false) :
    message.marked (departed ++ more) = message.marked departed := by
  have hnone : more.any (·.isReceived message.id) = false := by simpa using h
  rw [marked, marked, List.any_append, hnone, Bool.or_false]

namespace Contents

variable {contents before after : Contents} {departed departures : List Departure} {now : Int64}
  {through : Option Nat}

/-- Every waiting message is as it was accepted, marked if it was received before, and nothing
departed that was not accepted. -/
structure Marked (contents : Contents) (departed : List Departure) : Prop where
  waiting : ∀ waiting ∈ contents.waiting, ∃ original,
    (.queue waiting.queue, original) ∈ contents.accepted ∧
      waiting.message = original.marked departed
  known : ∀ departure ∈ departed, departure.message.id ∈ contents.accepted.map (·.2.id)

/-- Distinct identifiers are distinct on every queue. -/
theorem distinct_of_nodup (h : (contents.accepted.map (·.2.id)).Nodup) (name : String) :
    contents.Distinct name := by
  refine h.sublist ?_
  rw [publishedIds, List.map_map]
  exact List.filter_sublist.map _

/-- A delivery that would go back to its queue is one of an accepted message. -/
theorem Sound.origin_of_held (h : contents.Sound) {waiting : Waiting}
    (hheld : waiting ∈ contents.held) : ∃ original,
      (.queue waiting.queue, original) ∈ contents.accepted ∧
        waiting.message = { original with redelivered := true } := by
  have hqueued := h.circulating.subset (List.mem_append_right _ hheld)
  obtain ⟨accepted, haccepted, rfl⟩ := List.mem_map.1 hqueued
  obtain ⟨⟨destination, original⟩, hentry, hfor⟩ := List.mem_flatMap.1 haccepted
  cases destination with
  | queue name =>
    obtain rfl := List.mem_singleton.1 hfor
    exact ⟨original, hentry, rfl⟩
  | topic name => cases hfor

/-- Only one copy of a message can be taken: what still waits has other identifiers. -/
theorem id_ne_of_next (hsound : before.Sound) (ht : before.Traced departed)
    (hnodup : (before.accepted.map (·.2.id)).Nodup) {index : Nat} {consumer : Consumer}
    (found : before.consumers[index]? = some consumer) {message : Message}
    (hnext : before.next? now consumer = some message) {waiting : Waiting}
    (hwaiting : waiting ∈ (before.withoutTaken now index consumer).waiting) :
    message.id ≠ waiting.message.id := by
  intro hsame
  obtain ⟨taken, htaken, htakenId⟩ := ht.next found hnext
  obtain ⟨kept, hkept, hkeptId⟩ := ht.waiting waiting
    ((before.waiting_withoutTaken_subperm now index consumer).subset hwaiting)
  -- Both were accepted under one identifier, so the message was taken from the queue it waits on.
  have hentry := List.inj_on_of_nodup_map hnodup htaken hkept
    ((htakenId.trans hsame).trans hkeptId.symm)
  have hdestination : consumer.destination = .queue waiting.queue := congrArg Prod.fst hentry
  have hperm := before.waiting_withoutTaken now index consumer .auto
  rw [hnext, hdestination] at hperm
  have hids := ((hperm.filter (·.queue = waiting.queue)).map (·.message.id)).nodup_iff.2 <| by
    have hall := hsound.nodup_circulating (distinct_of_nodup hnodup waiting.queue)
    rw [circulating, idsOn_append, idsOn_map_flagged] at hall
    exact (List.nodup_append.1 hall).1
  rw [List.filter_append, List.map_append] at hids
  refine (List.nodup_append.1 hids).2.2 message.id ?_ waiting.message.id ?_ hsame
  · refine List.mem_map.2 ⟨⟨waiting.queue, message⟩, List.mem_filter.2 ⟨?_, by simp⟩, rfl⟩
    simp [Departure.waiting?]
  · exact List.mem_map.2 ⟨waiting, List.mem_filter.2 ⟨hwaiting, by simp⟩, rfl⟩

/-- What is discarded on the way to the next message was accepted. -/
theorem Traced.known_of_discards (ht : before.Traced departed) {index : Nat} {consumer : Consumer}
    (found : before.consumers[index]? = some consumer) {departure : Departure}
    (h : departure ∈ before.discards now consumer) :
    departure.message.id ∈ before.accepted.map (·.2.id) := by
  obtain ⟨message, hmessage, rfl⟩ := List.mem_map.1 h
  obtain ⟨original, horiginal, hid⟩ :=
    ht.source found ((List.takeWhile_prefix _).subset hmessage)
  exact List.mem_map.2 ⟨_, horiginal, hid⟩

/-- When a consumer takes its next message, what still waits is marked as before. -/
theorem Marked.take (h : before.Marked departed) (hsound : before.Sound)
    (ht : before.Traced departed) (hnodup : (before.accepted.map (·.2.id)).Nodup) {index : Nat}
    {consumer : Consumer} (found : before.consumers[index]? = some consumer)
    (mode : AcknowledgeMode) :
    (before.withoutTaken now index consumer).Marked
      (departed ++ (before.discards now consumer ++
        ((before.next? now consumer).map
          (.received consumer.session mode consumer.destination)).toList)) := by
  constructor
  · intro waiting hwaiting
    obtain ⟨original, horiginal, hmarked⟩ := h.waiting waiting
      ((before.waiting_withoutTaken_subperm now index consumer).subset hwaiting)
    refine ⟨original, by rwa [accepted_withoutTaken], ?_⟩
    rw [hmarked, Message.marked_append]
    intro departure hdeparture
    rcases List.mem_append.1 hdeparture with hdiscarded | hreceived
    · obtain ⟨message, -, rfl⟩ := List.mem_map.1 hdiscarded
      rfl
    · rw [Option.mem_toList, Option.map_eq_some_iff] at hreceived
      obtain ⟨message, hnext, rfl⟩ := hreceived
      -- What waits on has not the identifier of the message that is taken, so the taking does not
      -- mark it.
      have hne := id_ne_of_next hsound ht hnodup found hnext hwaiting
      rw [hmarked] at hne
      exact decide_eq_false hne
  · intro departure hdeparture
    rw [accepted_withoutTaken]
    rcases List.mem_append.1 hdeparture with hold | hnew
    · exact h.known departure hold
    · rcases List.mem_append.1 hnew with hdiscarded | hreceived
      · exact ht.known_of_discards found hdiscarded
      · rw [Option.mem_toList, Option.map_eq_some_iff] at hreceived
        obtain ⟨message, hnext, rfl⟩ := hreceived
        obtain ⟨original, horiginal, hid⟩ := ht.next found hnext
        exact List.mem_map.2 ⟨_, horiginal, hid⟩

/-- A message that is accepted was not received before. -/
theorem Marked.accept (h : before.Marked departed) {destination : Destination} {message : Message}
    (hnodup : ((before.accept destination message).accepted.map (·.2.id)).Nodup) :
    (before.accept destination message).Marked departed := by
  have haccepted : before.accepted ⊆ (before.accept destination message).accepted :=
    List.subset_append_left _ _
  constructor
  · intro waiting hwaiting
    rcases List.mem_append.1 hwaiting with hold | hnew
    · exact (h.waiting waiting hold).imp fun _ hm => ⟨haccepted hm.1, hm.2⟩
    · cases destination with
      | topic name => cases hnew
      | queue name =>
        obtain rfl := List.mem_singleton.1 hnew
        refine ⟨message, List.mem_append_right _ (List.mem_singleton_self _), ?_⟩
        have hnone : departed.any (·.isReceived message.id) = false := by
          rw [List.any_eq_false]
          intro departure hdeparture hreceived
          have hknown := h.known departure hdeparture
          rw [Departure.message_of_isReceived hreceived] at hknown
          change ((before.accepted ++ [_]).map _).Nodup at hnodup
          rw [List.map_append] at hnodup
          exact (List.nodup_append.1 hnodup).2.2 _ hknown _ (List.mem_singleton_self _) rfl
        rw [Message.marked, hnone, Bool.or_false]
  · exact fun departure hdeparture => List.map_subset _ haccepted (h.known departure hdeparture)

/-- What a closed session puts back was received. -/
theorem Marked.closeSession (h : before.Marked departed) (hsound : before.Sound)
    (ht : before.Traced departed) {index : Nat} {session : Session}
    (found : before.sessions[index]? = some session) (sessions : List Session) :
    Marked { before with
      waiting := session.held.filterMap Delivery.requeued ++ before.waiting
      sessions := sessions } departed := by
  refine ⟨?_, h.known⟩
  intro waiting hwaiting
  rcases List.mem_append.1 hwaiting with hback | hold
  · have hheld : waiting ∈ before.held :=
      List.mem_flatMap.2 ⟨session, List.mem_of_getElem? found, hback⟩
    obtain ⟨original, horiginal, hmessage⟩ := hsound.origin_of_held hheld
    refine ⟨original, horiginal, ?_⟩
    obtain ⟨delivery, hdelivery, hrequeued⟩ := List.mem_filterMap.1 hback
    have hid : original.id = delivery.message.id := by
      unfold Delivery.requeued at hrequeued
      split at hrequeued
      · obtain rfl := Option.some.inj hrequeued
        exact (congrArg Message.id hmessage).symm
      · cases hrequeued
    -- What the session held was received, so the flag that it gets is the one that it should have.
    have hreceived : departed.any (·.isReceived original.id) = true :=
      List.any_eq_true.2 ⟨_, (ht.held index session found delivery hdelivery).received,
        by simp [Departure.isReceived, hid]⟩
    rw [hmessage, Message.marked, hreceived, Bool.or_true]
  · exact h.waiting waiting hold

/-- A step keeps what waits marked. -/
theorem Step.marked (h : Step now before through departures after) (hm : before.Marked departed)
    (ht : before.Traced departed) (hsound : before.Sound)
    (hnodup : (after.accepted.map (·.2.id)).Nodup) : after.Marked (departed ++ departures) := by
  cases h with
  | accept destination message identified =>
    rw [List.append_nil]
    exact hm.accept hnodup
  | closeSession index session found =>
    rw [List.append_nil]
    exact hm.closeSession hsound ht found _
  | takeOver index consumer session found of unheld =>
    rw [accepted_withoutTaken] at hnodup
    exact hm.take hsound ht hnodup found session.mode
  | takeHeld index consumer session message id found of client isOpen next identified =>
    change ((before.withoutTaken now index consumer).accepted.map _).Nodup at hnodup
    rw [accepted_withoutTaken] at hnodup
    have htaken : (before.withoutTaken now index consumer).Marked _ :=
      hm.take hsound ht hnodup found session.mode
    rw [next] at htaken
    exact ⟨htaken.waiting, htaken.known⟩
  | _ =>
    rw [List.append_nil]
    exact ⟨hm.waiting, hm.known⟩

end Contents

/-! ## Deliveries -/

namespace Broker

/-- After every run, everything that a broker holds was accepted before. -/
theorem traced_after (credentials : Option Credentials) (operations : List (Int64 × Operation)) :
    (after credentials operations).contents.Traced (departedAfter credentials operations) := by
  induction operations using List.reverseRecOn with
  | nil =>
    refine ⟨?_, ?_, ?_⟩ <;> simp [after, operateAll, contents]
  | append_singleton operations entry ih =>
    obtain ⟨now, operation⟩ := entry
    obtain ⟨through, -, hstep⟩ := (after credentials operations).operate_step now operation
    rw [after_append, operateAll_singleton, departedAfter_append, departed_singleton]
    exact hstep.traced ih

/-- After every run with distinct identifiers, what waits is marked if it was received before. -/
theorem marked_after (credentials : Option Credentials) (operations : List (Int64 × Operation))
    (distinct : ((after credentials operations).accepted.map (·.2.id)).Nodup) :
    (after credentials operations).contents.Marked (departedAfter credentials operations) := by
  induction operations using List.reverseRecOn with
  | nil =>
    refine ⟨?_, ?_⟩ <;> simp [after, operateAll, contents, departedAfter, departed]
  | append_singleton operations entry ih =>
    obtain ⟨now, operation⟩ := entry
    rw [after_append, operateAll_singleton] at distinct ⊢
    rw [departedAfter_append, departed_singleton]
    obtain ⟨through, -, hstep⟩ := (after credentials operations).operate_step now operation
    have hbefore : ((after credentials operations).accepted.map (·.2.id)).Nodup := by
      rw [accepted_operate, List.map_append] at distinct
      exact (List.nodup_append.1 distinct).1
    exact hstep.marked (ih hbefore) (traced_after credentials operations)
      (sound_after credentials operations) distinct

/-- What leaves a queue or buffer for a consumer was in it. -/
theorem mem_source_of_departs {broker : Broker} {now : Int64} {operation : Operation}
    {session : Nat} {mode : AcknowledgeMode} {destination : Destination} {message : Message}
    (h : .received session mode destination message ∈ broker.departures now operation) :
    ∃ consumer ∈ broker.consumers, consumer.destination = destination ∧
      message ∈ broker.contents.source consumer := by
  unfold departures at h
  split at h
  · split at h
    · rename_i handle _ found holder hr
      obtain ⟨hfound, -, -, -⟩ := receiver?_eq_some hr
      rcases List.mem_append.1 h with hdiscarded | hreceived
      · simp at hdiscarded
      · rw [Option.mem_toList, Option.map_eq_some_iff] at hreceived
        obtain ⟨next, hnext, hsame⟩ := hreceived
        cases hsame
        exact ⟨found, List.mem_of_getElem? hfound, rfl,
          (List.dropWhile_suffix _).subset (List.mem_of_mem_head? hnext)⟩
    · cases h
  · cases h

/-- A message that is delivered from a destination after a run of operations was submitted to that
destination in the run. Only its flag may differ from what was accepted: from a queue, it tells
whether the message was received before. -/
structure Conveys (credentials : Option Credentials) (operations : List (Int64 × Operation))
    (destination : Destination) (message : Message) (submission : Submission) : Prop where
  submitted : submission ∈ submittedAfter credentials operations
  sameDestination : submission.destination = destination
  unchanged : message = submission.message message.redelivered
  fromQueue : ∀ name, destination = .queue name → (message.redelivered = true ↔
    submission.redelivered = true ∨ ∃ departure ∈ departedAfter credentials operations,
      departure.isReceived (some submission.id) = true)
  fromTopic : ∀ name, destination = .topic name → message.redelivered = submission.redelivered

/-- Every delivery is one of a submission. -/
theorem conveys_of_departs {credentials : Option Credentials}
    {operations : List (Int64 × Operation)}
    (distinct : ((after credentials operations).accepted.map (·.2.id)).Nodup) {now : Int64}
    {operation : Operation} {session : Nat} {mode : AcknowledgeMode} {destination : Destination}
    {message : Message} (h : .received session mode destination message ∈
      (after credentials operations).departures now operation) :
    ∃ submission, Conveys credentials operations destination message submission := by
  obtain ⟨consumer, hconsumer, rfl, hsource⟩ := mem_source_of_departs h
  have horigin : ∀ {original : Message},
      (consumer.destination, original) ∈ (after credentials operations).accepted →
      ∃ submission ∈ submittedAfter credentials operations,
        submission.destination = consumer.destination ∧
          submission.message submission.redelivered = original := by
    intro original horiginal
    rw [accepted_after] at horiginal
    obtain ⟨submission, hsubmission, hentry⟩ := List.mem_map.1 horiginal
    exact ⟨submission, hsubmission, congrArg Prod.fst hentry, congrArg Prod.snd hentry⟩
  unfold Contents.source at hsource
  split at hsource
  · rename_i name hname
    obtain ⟨waiting, hwaiting, rfl⟩ := List.mem_map.1 hsource
    obtain ⟨hmem, hqueue⟩ := List.mem_filter.1 hwaiting
    obtain rfl : waiting.queue = name := by simpa using hqueue
    obtain ⟨original, horiginal, hmarked⟩ :=
      (marked_after credentials operations distinct).waiting waiting hmem
    rw [← hname] at horiginal
    obtain ⟨submission, hsubmission, hdestination, rfl⟩ := horigin horiginal
    rw [hmarked]
    refine ⟨submission, hsubmission, hdestination, rfl, fun name _ => ?_, fun name htopic => ?_⟩
    · simp only [Message.marked, Submission.message, Bool.or_eq_true, List.any_eq_true]
    · cases hname.symm.trans htopic
  · rename_i name hname
    obtain ⟨submission, hsubmission, hdestination, rfl⟩ :=
      horigin ((traced_after credentials operations).buffered consumer hconsumer message hsource)
    refine ⟨submission, hsubmission, hdestination, rfl, fun other hqueue => ?_, fun _ _ => rfl⟩
    cases hname.symm.trans hqueue

end Broker

end BrokerConnector
