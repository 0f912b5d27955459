import BrokerConnector.Proofs.Accounting
import BrokerConnector.Proofs.Bounded
import BrokerConnector.Proofs.Broker.Redelivery
import BrokerConnector.Record

/-!
# From submission to record

Whatever a reader asks of a broker that it shares is an operation of the broker, and so is what other
clients do meanwhile. So a course of a reader takes part in a run of operations, in which every
message that the reader received was delivered at a point of its own (`Shared.Supplies`). What is known
of deliveries thereby holds of what readers receive: the record that a reader makes of a message has
the headers that the message was submitted with, the identifier and the destination that the broker
gave to it, and a flag that tells whether it was received before (`carries_what_was_submitted`).
-/

namespace BrokerConnector

open BrokerConnector.Action

/-! ## Courses as runs of a broker -/

/-- The message that a consumer received. -/
def Departure.received? : Departure → Option Message
  | received _ _ _ message => some message
  | discarded _ _ => none

namespace Shared

/-- What others do are operations of the broker. -/
theorem exists_operateAll_others (shared : Shared) (entries : List (Int64 × Operation)) :
    ∃ operations, (shared.others entries).broker = shared.broker.operateAll operations := by
  induction entries generalizing shared with
  | nil => exact ⟨[], rfl⟩
  | cons entry rest ih =>
    obtain ⟨now, operation⟩ := entry
    obtain ⟨operations, hrest⟩ := ih (shared.disturb now operation)
    rw [others, hrest, disturb]
    split
    · exact ⟨operations, rfl⟩
    · exact ⟨(now, operation) :: operations, rfl⟩

variable (schedule : Schedule)

/-- A request is at most one more operation of the broker. -/
theorem exists_operateAll_answer (request : Request) (shared : Shared) :
    ∃ operations, (answer schedule request shared).2.broker =
      shared.broker.operateAll operations := by
  let occasion := schedule shared.log.length
  obtain ⟨operations, hothers⟩ := shared.exists_operateAll_others occasion.others
  change ∃ operations, (occasion.reply request (shared.others occasion.others).broker).2 = _
  rw [hothers]
  unfold Occasion.reply
  split
  · exact ⟨operations, rfl⟩
  · split
    · rename_i asked _
      refine ⟨operations ++ [(occasion.now, .request asked)], ?_⟩
      rw [Broker.operateAll_append]
      rfl
    · exact ⟨operations, rfl⟩
    · exact ⟨operations, rfl⟩

/-- A consumer that is given a message is given it by the last operation. -/
theorem exists_receive_answer {consumer : ConsumerHandle} {message : Message} {shared : Shared}
    {schedule : Schedule}
    (h : (answer schedule (.broker (.receive consumer)) shared).1 = .done (some message)) :
    ∃ operations now, (answer schedule (.broker (.receive consumer)) shared).2.broker =
        shared.broker.operateAll (operations ++ [(now, .request (.receive consumer))]) ∧
      ((shared.broker.operateAll operations).receive now consumer).1 = .ok (some message) := by
  let occasion := schedule shared.log.length
  obtain ⟨operations, hothers⟩ := shared.exists_operateAll_others occasion.others
  change (occasion.reply _ (shared.others occasion.others).broker).1 = _ at h
  refine ⟨operations, occasion.now, ?_⟩
  change (occasion.reply _ (shared.others occasion.others).broker).2 = _ ∧ _
  rw [hothers] at h ⊢
  rw [Broker.operateAll_append]
  rcases occasion.reply_broker (.receive consumer) (shared.broker.operateAll operations) with
    ⟨answer, after, hreply, hperform⟩ | ⟨error, hreply, -⟩
  · rw [hreply] at h ⊢
    obtain rfl := Outcome.done.inj h
    exact ⟨(congrArg Prod.snd hperform).symm, congrArg Prod.fst hperform⟩
  · rw [hreply] at h
    cases h

/-- What a client received, a broker delivered in a run of operations: each message at a point that
comes after everything that the client received before. -/
structure Supplies (credentials : Option Credentials) (operations : List (Int64 × Operation))
    (receipts : List Receipt) : Prop where
  received : (receipts.filterMap (·.message?)).Sublist
    ((Broker.departedAfter credentials operations).filterMap (·.received?))
  point : ∀ earlier message later, receipts = earlier ++ .done (some message) :: later →
    ∃ before now consumer after,
      operations = before ++ (now, .request (.receive consumer)) :: after ∧
      ((Broker.after credentials before).receive now consumer).1 = .ok (some message) ∧
      (earlier.filterMap (·.message?)).Sublist
        ((Broker.departedAfter credentials before).filterMap (·.received?))

namespace Supplies

variable {credentials : Option Credentials} {operations : List (Int64 × Operation)}
  {receipts : List Receipt}

/-- More may happen. -/
theorem more (h : Supplies credentials operations receipts) (others : List (Int64 × Operation)) :
    Supplies credentials (operations ++ others) receipts where
  received := by
    rw [Broker.departedAfter_append, List.filterMap_append]
    exact h.received.trans (List.sublist_append_left _ _)
  point := by
    intro earlier message later hsplit
    obtain ⟨before, now, consumer, after, rfl, hpoint⟩ := h.point earlier message later hsplit
    exact ⟨before, now, consumer, after ++ others, by rw [List.append_assoc]; rfl, hpoint⟩

/-- A receipt that is no message was served by nothing. -/
theorem concat (h : Supplies credentials operations receipts) {receipt : Receipt}
    (hnone : receipt.message? = none) : Supplies credentials operations (receipts ++ [receipt]) where
  received := by
    rw [List.filterMap_append, List.filterMap_cons_none hnone, List.filterMap_nil, List.append_nil]
    exact h.received
  point := by
    intro earlier message later hsplit
    rcases List.eq_nil_or_concat' later with rfl | ⟨front, last, rfl⟩
    · obtain ⟨-, hlast⟩ := List.append_inj' hsplit rfl
      rw [List.singleton_inj.1 hlast] at hnone
      cases hnone
    · refine h.point earlier message front ?_
      rw [← List.cons_append, ← List.append_assoc] at hsplit
      exact (List.append_inj' hsplit rfl).1

/-- A message is delivered by one more operation. -/
theorem deliver (h : Supplies credentials operations receipts) {now : Int64}
    {consumer : ConsumerHandle} {message : Message}
    (hreceive : ((Broker.after credentials operations).receive now consumer).1 =
      .ok (some message)) :
    Supplies credentials (operations ++ [(now, .request (.receive consumer))])
      (receipts ++ [.done (some message)]) where
  received := by
    obtain ⟨session, mode, destination, hdeparts⟩ :=
      (Broker.receive_fst_eq_ok_iff _ now consumer message).1 hreceive
    rw [Broker.departedAfter_append, Broker.departed_singleton, List.filterMap_append,
      List.filterMap_append]
    refine h.received.append (List.singleton_sublist.2 ?_)
    exact List.mem_filterMap.2 ⟨_, hdeparts, rfl⟩
  point := by
    -- The last receipt was given by the new operation, and the others by earlier ones.
    intro earlier other later hsplit
    rcases List.eq_nil_or_concat' later with rfl | ⟨front, last, rfl⟩
    · obtain ⟨rfl, hlast⟩ := List.append_inj' hsplit rfl
      obtain rfl := Option.some.inj (Outcome.done.inj (List.singleton_inj.1 hlast))
      exact ⟨operations, now, consumer, [], rfl, hreceive, h.received⟩
    · rw [← List.cons_append, ← List.append_assoc] at hsplit
      exact (h.more _).point earlier other front (List.append_inj' hsplit rfl).1

end Supplies

/-- Only a consumer that is asked adds to what was received. -/
theorem receipt?_of_request {request : Request}
    (h : ∀ consumer, request ≠ .broker (.receive consumer))
    (outcome : Outcome BrokerError request.Answer) :
    (Event.of? request outcome).toList.filterMap (·.receipt?) = [] := by
  cases request with
  | broker request =>
    cases request with
    | receive consumer => exact (h consumer rfl).elim
    | _ => rfl
  | _ => rfl

/-- Whatever a client asks for is part of a run of the broker. -/
theorem supplies_of_steps {schedule : Schedule} {credentials : Option Credentials}
    {earlier : List (Int64 × Operation)} {before after : Recorded Shared}
    (h : (endpoint schedule).recorded.Steps (fun _ => True) before after)
    (hbefore : before.env.broker = .after credentials earlier) (hnone : before.receipts = []) :
    ∃ operations, earlier <+: operations ∧
      after.env.broker = .after credentials operations ∧
      Supplies credentials operations after.receipts := by
  induction h with
  | refl =>
    refine ⟨earlier, List.prefix_refl _, hbefore, ?_⟩
    rw [hnone]
    exact ⟨List.nil_sublist _, by simp⟩
  | @tail middle last _ hstep ih =>
    obtain ⟨operations, hstarts, hmiddle, hsupplies⟩ := ih
    cases hstep with
    | sleep milliseconds => exact ⟨operations, hstarts, hmiddle, hsupplies⟩
    | answer request _ =>
      have hreceipts : ((endpoint schedule).recorded.answer request middle).2.receipts =
          middle.receipts ++ (Event.of? request
            (answer schedule request middle.env).1).toList.filterMap (·.receipt?) :=
        List.filterMap_append
      -- Only a receive adds a receipt. Any other answer lets the others go on and adds none.
      by_cases hreceive : ∃ consumer, request = .broker (.receive consumer)
      · obtain ⟨consumer, rfl⟩ := hreceive
        rw [hreceipts]
        change ∃ operations, _ ∧ (answer schedule _ middle.env).2.broker = _ ∧
          Supplies _ _ (middle.receipts ++ [(answer schedule (.broker (.receive consumer)) middle.env).1])
        cases hmessage : Receipt.message? (answer schedule (.broker (.receive consumer))
            middle.env).1 with
        | none =>
          obtain ⟨others, hbroker⟩ :=
            exists_operateAll_answer schedule (.broker (.receive consumer)) middle.env
          refine ⟨operations ++ others, hstarts.trans (List.prefix_append _ _), ?_,
            (hsupplies.more others).concat hmessage⟩
          rw [hbroker, hmiddle, Broker.after_append]
        | some message =>
          have hdone : (answer schedule (.broker (.receive consumer)) middle.env).1 =
              .done (some message) := by
            unfold Receipt.message? at hmessage
            split at hmessage
            · rename_i houtcome
              rw [houtcome, hmessage]
            · cases hmessage
          -- Its own receive comes last in the run that gave the message, behind what the others
          -- did.
          obtain ⟨others, now, hbroker, hgiven⟩ := exists_receive_answer hdone
          rw [hmiddle, ← Broker.after_append] at hgiven
          refine ⟨operations ++ others ++ [(now, .request (.receive consumer))], ?_, ?_, ?_⟩
          · exact (hstarts.trans (List.prefix_append _ _)).trans (List.prefix_append _ _)
          · rw [hbroker, hmiddle, ← Broker.after_append, List.append_assoc]
          · rw [hdone]
            exact (hsupplies.more others).deliver hgiven
      · obtain ⟨others, hbroker⟩ :=
          exists_operateAll_answer schedule request middle.env
        refine ⟨operations ++ others, hstarts.trans (List.prefix_append _ _), ?_, ?_⟩
        · change (answer schedule request middle.env).2.broker = _
          rw [hbroker, hmiddle, Broker.after_append]
        · rw [hreceipts, receipt?_of_request fun consumer he => hreceive ⟨consumer, he⟩,
            List.append_nil]
          exact hsupplies.more others

end Shared

/-! ## Records -/

/-- The record of a submission with a text. -/
def Submission.record (submission : Submission) (redelivered : Bool) (payload : String) :
    Record where
  messageId := submission.id.text
  timestamp :=
    if submission.given.timestamp = 0 then submission.moment else submission.given.timestamp
  correlationId := submission.given.correlationId
  replyTo := submission.given.replyTo
  destination := submission.destination
  deliveryMode := submission.given.deliveryMode.code
  redelivered := redelivered
  messageType := submission.given.messageType
  expiration := submission.given.expiration
  priority := submission.given.priority
  properties := submission.given.properties
  payload := payload

/-- What is mapped of a submission that is delivered: its record, or the fault of having no text. -/
theorem Submission.mapper_message (submission : Submission) (redelivered : Bool) :
    Record.mapper (submission.message redelivered) =
      match submission.given.body with
      | .text payload => .ok (submission.record redelivered payload)
      | .bytes _ => .error (Record.Fault.notText submission.id).message := by
  obtain ⟨destination, given, moment, id, flag⟩ := submission
  have hbody : (given.stamped moment).body = given.body := by
    unfold Message.stamped
    split <;> rfl
  simp only [Record.mapper, Record.ofMessage, message, Message.text?, hbody]
  cases given.body with
  | bytes content => rfl
  | text payload =>
    unfold record Message.stamped
    by_cases htime : given.timestamp = 0
    · simp only [htime, if_true]
      rfl
    · simp only [htime, if_false]
      rfl

/-- A record has the timestamp of its message. -/
theorem Submission.timestamp_record (submission : Submission) (redelivered : Bool)
    (payload : String) : (submission.record redelivered payload).timestamp =
      (submission.message redelivered).timestamp := by
  unfold record message Message.stamped
  split <;> rfl

namespace Reader

variable {α σ : Type} (endpoint : Endpoint σ)

/-- A use of a reader leads along requests and pauses. -/
theorem Use.steps (use : Use) (s : Scene (Reader α) σ) :
    endpoint.Steps (fun _ => True) s.env (use.apply endpoint s).2.env := by
  cases use with
  | start => exact Scene.Asks.of_agree (fun _ h => agree_start h) s
  | advance => exact Scene.Asks.of_agree (fun _ h => agree_advance h) s
  | finalize => exact Scene.Asks.of_agree (fun _ h => agree_finalize h) s
  | close =>
    exact Scene.Asks.of_agree (fun _ h => agree_close (h.mono fun _ _ => trivial)) s

namespace Course

/-- A course leads along requests and pauses. -/
theorem steps_run (uses : List Use) (course : Course α σ) :
    endpoint.recorded.Steps (fun _ => True) course.scene.env
      (course.run endpoint uses).scene.env := by
  induction uses generalizing course with
  | nil => exact .refl
  | cons first rest ih =>
    have hfirst := first.steps endpoint.recorded course.scene
    rw [← (course.use_eq endpoint first).1] at hfirst
    exact hfirst.trans (ih (course.use endpoint first))

/-- What a poll makes of a submission that it received, before what else it received: it passes over
a message that its reader listed in an earlier life and receives for the first time since. Otherwise
it ends with the record of the submission, or fails if that is no text. -/
structure Carries (listed : List MessageId) (earlier : List Receipt) (submission : Submission)
    (redelivered : Bool) (later : List Receipt) (poll : Poll Record) : Prop where
  passes : later ≠ [] ↔ submission.id ∈ listed ∧ submission.id ∉ earlier.filterMap (·.id?)
  text : later = [] → ∀ payload, submission.given.body = .text payload →
    poll.outcome = .done true ∧ poll.current = some
      ⟨submission.record redelivered payload, (submission.record redelivered payload).timestamp⟩
  bytes : later = [] → ∀ content, submission.given.body = .bytes content →
    poll.outcome = .failed (.mapping submission.id.text
      ("message " ++ submission.id.text ++ " is not a text message")) ∧ poll.current = none

/-- A poll that accounts for its receipts carries the submissions among them. -/
theorem carries_of_accounted {config : ReadConfig Record} {listed : List MessageId}
    (hmapper : config.mapper = Record.mapper) {earlier front later : List Receipt}
    {poll : Poll Record} (h : poll.Accounted config listed earlier) {submission : Submission}
    {redelivered : Bool} (hsplit : poll.receipts =
      front ++ .done (some (submission.message redelivered)) :: later) :
    Carries listed (earlier ++ front) submission redelivered later poll := by
  have hid : (submission.message redelivered).id = some submission.id := rfl
  have hverdict : later = [] → (poll.outcome, poll.current) =
      config.verdict (.done (some (submission.message redelivered))) := by
    rintro rfl
    obtain ⟨last, hlast, hverdict⟩ := h.verdict
    rw [hsplit, List.getLast?_concat] at hlast
    rw [hverdict, ← Option.some.inj hlast]
  have hmapped := submission.mapper_message redelivered
  refine ⟨?_, fun hend payload hbody => ?_, fun hend content hbody => ?_⟩
  · refine (h.returns front _ later hsplit).trans ⟨?_, fun hreturns => ⟨_, hid, hreturns⟩⟩
    rintro ⟨id, hsome, hreturns⟩
    obtain rfl := Option.some.inj (hid.symm.trans hsome)
    exact hreturns
  · rw [hbody] at hmapped
    have hend := hverdict hend
    simp only [ReadConfig.verdict, hid, hmapper, hmapped] at hend
    rw [submission.timestamp_record]
    exact Prod.mk.inj hend
  · rw [hbody] at hmapped
    have hend := hverdict hend
    simp only [ReadConfig.verdict, hid, hmapper, hmapped] at hend
    exact Prod.mk.inj hend

/-- **Records carry what was submitted.** A reader with the default mapper shares a broker with any
other clients, which accepted no two messages under one identifier. Whatever is done with the reader
and by the others, both take part in one run of operations. Every message that is delivered in the
run, to this reader or to anybody, was submitted in it before to the destination that it is delivered
from. It has an identifier, this destination and every header that it was submitted with, and when it
comes from a queue, its flag tells whether it was received before. What the reader receives is
delivered in order at points of the run; a poll either passes over a message, which it does exactly
if the message is listed in the restored mark and comes back for the first time, or ends with the
record of the message, or fails because the message is no text. -/
theorem carries_what_was_submitted {credentials : Option Credentials}
    {earlier : List (Int64 × Operation)} {schedule : Schedule} {config : ReadConfig Record}
    (hmapper : config.mapper = Record.mapper) {restored : Option Mark}
    (hrestored : ∀ mark, restored = some mark → mark.session = none) {journal : Journal}
    {uses : List Use} {course : Course Record Shared}
    (hcourse : (opening config restored journal { broker := .after credentials earlier }).run
      (Shared.endpoint schedule) uses = course)
    (hdistinct : (course.scene.env.env.broker.accepted.map (·.2.id)).Nodup) :
    ∃ operations, earlier <+: operations ∧
      course.scene.env.env.broker = .after credentials operations ∧
      (∀ before now operation after session mode destination message,
        operations = before ++ (now, operation) :: after →
        .received session mode destination message ∈
          (Broker.after credentials before).departures now operation →
        ∃ submission, Broker.Conveys credentials before destination message submission) ∧
      ∀ polls poll more, course.polls = polls ++ poll :: more →
      ∀ front message later, poll.receipts = front ++ .done (some message) :: later →
      ∃ before now consumer after session mode destination submission,
        operations = before ++ (now, .request (.receive consumer)) :: after ∧
        .received session mode destination message ∈
          (Broker.after credentials before).departures now (.request (.receive consumer)) ∧
        ((polls.flatMap (·.receipts) ++ front).filterMap (·.message?)).Sublist
          ((Broker.departedAfter credentials before).filterMap (·.received?)) ∧
        Broker.Conveys credentials before destination message submission ∧
        Carries ((restored.getD {}).pending.map (·.id)) (polls.flatMap (·.receipts) ++ front)
          submission message.redelivered later poll := by
  obtain ⟨-, hreceipts, haccounted, -, -, -⟩ :=
    accounts_for_receipts (Shared.endpoint schedule) config hrestored journal
      { broker := .after credentials earlier } uses
  rw [hcourse] at hreceipts haccounted
  have hsteps := steps_run (Shared.endpoint schedule) uses
    (opening config restored journal { broker := .after credentials earlier })
  rw [hcourse] at hsteps
  obtain ⟨operations, hstarts, hbroker, hsupplies⟩ := Shared.supplies_of_steps hsteps rfl rfl
  -- What was accepted at any point of the run is part of what was accepted in the end.
  have hbefore : ∀ before after : List (Int64 × Operation), operations = before ++ after →
      ((Broker.after credentials before).accepted.map (·.2.id)).Nodup := by
    rintro before after rfl
    rw [hbroker, Broker.accepted_after, Broker.submittedAfter_append, List.map_append,
      List.map_append] at hdistinct
    rw [Broker.accepted_after]
    exact (List.nodup_append.1 hdistinct).1
  refine ⟨operations, hstarts, hbroker, ?_, ?_⟩
  · intro before now operation after session mode destination message hsplit hdeparts
    exact Broker.conveys_of_departs (hbefore before _ hsplit) hdeparts
  · intro polls poll more hpolls front message later hpoll
    have hwhole : course.receipts = (polls.flatMap (·.receipts) ++ front) ++
        .done (some message) :: (later ++ more.flatMap (·.receipts)) := by
      rw [hreceipts, hpolls, List.flatMap_append, List.flatMap_cons, hpoll]
      simp only [List.append_assoc, List.cons_append]
    obtain ⟨before, now, consumer, after, hsplit, hgiven, hsublist⟩ :=
      hsupplies.point _ message _ hwhole
    obtain ⟨session, mode, destination, hdeparts⟩ :=
      (Broker.receive_fst_eq_ok_iff _ now consumer message).1 hgiven
    obtain ⟨submission, hconveys⟩ :=
      Broker.conveys_of_departs (hbefore before _ hsplit) hdeparts
    refine ⟨before, now, consumer, after, session, mode, destination, submission, hsplit, hdeparts,
      hsublist, hconveys, ?_⟩
    refine carries_of_accounted hmapper (haccounted polls poll more hpolls) ?_
    rw [hpoll, ← hconveys.unchanged]

/-- A read of the records of a queue. -/
def recordsOf (queue : String) : ReadConfig Record :=
  { textsOf queue with mapper := Record.mapper }

/-- A message is published, received by a client whose session is closed then, and followed by one
without a text or an identifier. -/
def returningRun : List (Int64 × Operation) :=
  let orders := Destination.queue "orders"
  let session : SessionHandle := ⟨0, "session-1-2", .client⟩
  [(1, .publish orders
      { id := some ⟨"A"⟩, correlationId := some "c", priority := 7, body := .text "a" }),
   (2, .request (.connect none)),
   (3, .request (.startConnection ⟨0⟩)),
   (4, .request (.createSession ⟨0⟩ .client)),
   (5, .request (.createConsumer session orders)),
   (6, .request (.receive ⟨0⟩)),
   (7, .request (.closeSession session)),
   (8, .publish orders { body := .bytes [1, 2] })]

/-- A reader looks for both messages. -/
def returningCourse : Course Record Shared :=
  (opening (recordsOf "orders") none {} { broker := .after none returningRun }).run
    (Shared.endpoint undisturbed) [.start, .advance]

/-- The first message comes again, and the reader makes a record of it that is flagged. The second
one is no text. -/
theorem carries_what_was_submitted_returningCourse :
    returningCourse.polls.map (·.outcome) =
      [.done true, .failed (.mapping "ID:danube-mq-1"
        "message ID:danube-mq-1 is not a text message")] ∧
    (returningCourse.polls.flatMap (·.current.toList)).map (·.value) =
      [{ messageId := "A", timestamp := 1, correlationId := some "c", replyTo := none
         destination := .queue "orders", deliveryMode := 2, redelivered := true
         messageType := none, expiration := 0, priority := 7, properties := [], payload := "a" }] ∧
    ∃ poll more message before submission, returningCourse.polls = poll :: more ∧
      poll.receipts = [.done (some message)] ∧
      Broker.Conveys none before (.queue "orders") message submission ∧
      Carries [] [] submission true [] poll := by
  have hdistinct :
      (returningCourse.scene.env.env.broker.accepted.map (·.2.id)).Nodup := by decide +kernel
  obtain ⟨operations, -, -, -, hcarries⟩ :=
    carries_what_was_submitted rfl (by simp) (rfl : _ = returningCourse) hdistinct
  obtain ⟨poll, more, hpolls⟩ : ∃ poll more, returningCourse.polls = poll :: more := by
    refine List.exists_cons_of_ne_nil fun hnil => ?_
    have hlength : returningCourse.polls.length = 2 := by decide +kernel
    rw [hnil] at hlength
    cases hlength
  have hfirst : ∃ message, returningCourse.polls.head?.map (·.receipts) =
      some [.done (some message)] ∧ message.redelivered = true ∧
        message.destination = some (.queue "orders") :=
    ⟨{ id := some ⟨"A"⟩, timestamp := 1, correlationId := some "c"
       destination := some (.queue "orders"), redelivered := true, priority := 7
       body := .text "a" }, by decide +kernel, rfl, rfl⟩
  obtain ⟨message, hreceipts, hflag, hdestination⟩ := hfirst
  rw [hpolls] at hreceipts
  replace hreceipts : poll.receipts = [.done (some message)] := Option.some.inj hreceipts
  obtain ⟨before, -, -, -, -, -, destination, submission, -, -, -, hconveys, hcarried⟩ :=
    hcarries [] poll more hpolls [] message [] hreceipts
  rw [hflag] at hcarried
  have hqueue : destination = .queue "orders" := by
    rw [hconveys.unchanged, Submission.message, hconveys.sameDestination] at hdestination
    exact Option.some.inj hdestination
  subst hqueue
  exact ⟨by decide +kernel, by decide +kernel, poll, more, message, before, submission, hpolls,
    hreceipts, hconveys, hcarried⟩

end Course

end Reader

end BrokerConnector
