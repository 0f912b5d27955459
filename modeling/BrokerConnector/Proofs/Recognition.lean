import BrokerConnector.Proofs.Carriage

/-!
# How a restored reader recognizes what comes back

A broker flags a message that it delivers again. A restored reader does not ask for the flag: it
passes over a message if the mark listed its identifier and no earlier message that the reader
received had it. So whether only flagged messages are passed over is a matter of the identifiers
that the reader meets (`passes_over_only_flagged_iff`).

At a broker that gave every identifier of the mark to a message that it delivered before, whatever
comes back under such an identifier is flagged (`flagged_of_delivered_before`). A broker that was
restarted gives the same identifiers to other messages, and there a reader passes over what nobody
has seen (`passes_over_unseen_restartedCourse`).
-/

namespace BrokerConnector

open BrokerConnector.Action

namespace Shared

/-- A request that tells of one more message was asked of a consumer. -/
theorem mem_receipts_answer {schedule : Schedule} {request : Request} {recorded : Recorded Shared}
    {message : Message}
    (h : .done (some message) ∈ ((endpoint schedule).recorded.answer request recorded).2.receipts) :
    .done (some message) ∈ recorded.receipts ∨ ∃ consumer,
      request = .broker (.receive consumer) ∧
        (answer schedule (.broker (.receive consumer)) recorded.env).1 = .done (some message) := by
  have hreceipts : ((endpoint schedule).recorded.answer request recorded).2.receipts =
      recorded.receipts ++ (Event.of? request
        (answer schedule request recorded.env).1).toList.filterMap (·.receipt?) :=
    List.filterMap_append
  rw [hreceipts] at h
  refine (List.mem_append.1 h).imp id fun hnew => ?_
  by_cases hreceive : ∃ consumer, request = .broker (.receive consumer)
  · obtain ⟨consumer, rfl⟩ := hreceive
    exact ⟨consumer, rfl, (List.mem_singleton.1 hnew).symm⟩
  · rw [receipt?_of_request fun consumer he => hreceive ⟨consumer, he⟩] at hnew
    cases hnew

/-- What a client received since a run of the broker, the broker delivered after that run. -/
theorem delivered_of_steps {schedule : Schedule} {credentials : Option Credentials}
    {earlier : List (Int64 × Operation)} {before after : Recorded Shared}
    (h : (endpoint schedule).recorded.Steps (fun _ => True) before after)
    (hbefore : before.env.broker = .after credentials earlier) (hnone : before.receipts = []) :
    ∃ operations, after.env.broker = .after credentials (earlier ++ operations) ∧
      ∀ message, .done (some message) ∈ after.receipts → ∃ between now consumer rest,
        operations = between ++ (now, .request (.receive consumer)) :: rest ∧
          ((Broker.after credentials (earlier ++ between)).receive now consumer).1 =
            .ok (some message) := by
  induction h with
  | refl =>
    refine ⟨[], by rw [hbefore, List.append_nil], fun message hmessage => ?_⟩
    rw [hnone] at hmessage
    cases hmessage
  | @tail middle last _ hstep ih =>
    obtain ⟨operations, hmiddle, hdelivered⟩ := ih
    cases hstep with
    | sleep milliseconds => exact ⟨operations, hmiddle, hdelivered⟩
    | answer request _ =>
      -- What was delivered before stays so, whatever is operated next.
      have hmore : ∀ others message, .done (some message) ∈ middle.receipts →
          ∃ between now consumer rest,
            operations ++ others = between ++ (now, .request (.receive consumer)) :: rest ∧
              ((Broker.after credentials (earlier ++ between)).receive now consumer).1 =
                .ok (some message) := by
        intro others message hmessage
        obtain ⟨between, now, consumer, rest, rfl, hgiven⟩ := hdelivered message hmessage
        exact ⟨between, now, consumer, rest ++ others, by simp, hgiven⟩
      by_cases hnew : ∃ consumer message, request = .broker (.receive consumer) ∧
          (answer schedule (.broker (.receive consumer)) middle.env).1 = .done (some message)
      · obtain ⟨consumer, message, rfl, hdone⟩ := hnew
        obtain ⟨others, now, hbroker, hgiven⟩ := exists_receive_answer hdone
        rw [hmiddle, ← Broker.after_append, List.append_assoc] at hgiven
        refine ⟨operations ++ (others ++ [(now, .request (.receive consumer))]), ?_, ?_⟩
        · rw [← List.append_assoc, Broker.after_append, ← hmiddle]
          exact hbroker
        · intro other hother
          rcases mem_receipts_answer hother with hold | ⟨consumer', he, hdone'⟩
          · exact hmore _ other hold
          · obtain rfl : consumer = consumer' := by simpa using he
            obtain rfl : message = other := by
              simpa using hdone.symm.trans hdone'
            exact ⟨operations ++ others, now, consumer, [], by simp, hgiven⟩
      · obtain ⟨others, hbroker⟩ := exists_operateAll_answer schedule request middle.env
        refine ⟨operations ++ others, ?_, fun message hmessage => ?_⟩
        · rw [← List.append_assoc, Broker.after_append, ← hmiddle]
          exact hbroker
        · rcases mem_receipts_answer hmessage with hold | ⟨consumer, rfl, hdone⟩
          · exact hmore others message hold
          · exact (hnew ⟨consumer, message, rfl, hdone⟩).elim

end Shared

namespace Reader

namespace Course

variable {α σ : Type}

/-- The messages that were passed over. -/
def passedMessages (course : Course α σ) : List Message :=
  course.polls.flatMap fun poll => poll.receipts.dropLast.filterMap (·.message?)

/-- What was received is a receipt of some poll. -/
theorem exists_poll_of_receipts {polls : List (Poll α)} {earlier later : List Receipt}
    {receipt : Receipt} (h : polls.flatMap (·.receipts) = earlier ++ receipt :: later) :
    ∃ before poll after front back, polls = before ++ poll :: after ∧
      poll.receipts = front ++ receipt :: back ∧
      earlier = before.flatMap (·.receipts) ++ front := by
  induction polls generalizing earlier with
  | nil => simp at h
  | cons first rest ih =>
    have hlater : ∀ middle, rest.flatMap (·.receipts) = middle ++ receipt :: later →
        earlier = first.receipts ++ middle →
        ∃ before poll after front back, first :: rest = before ++ poll :: after ∧
          poll.receipts = front ++ receipt :: back ∧
          earlier = before.flatMap (·.receipts) ++ front := by
      rintro middle hrest rfl
      obtain ⟨before, poll, after, front, back, rfl, hpoll, rfl⟩ := ih hrest
      exact ⟨first :: before, poll, after, front, back, rfl, hpoll, by simp⟩
    rw [List.flatMap_cons] at h
    rcases List.append_eq_append_iff.1 h with ⟨middle, hearlier, hrest⟩ | ⟨middle, hfirst, hrest⟩
    · exact hlater middle hrest hearlier
    · cases middle with
      | nil => exact hlater [] hrest.symm (by simpa using hfirst.symm)
      | cons other back =>
        obtain ⟨rfl, -⟩ := List.cons.inj hrest
        exact ⟨[], first, rest, earlier, back, rfl, hfirst, rfl⟩

/-- The messages that were passed over are those that a poll received and did not end with. -/
theorem mem_passedMessages_iff {course : Course α σ} {message : Message} :
    message ∈ course.passedMessages ↔ ∃ before poll after front back,
      course.polls = before ++ poll :: after ∧
        poll.receipts = front ++ .done (some message) :: back ∧ back ≠ [] := by
  constructor
  · intro h
    obtain ⟨poll, hpoll, hmessage⟩ := List.mem_flatMap.1 h
    obtain ⟨before, after, hpolls⟩ := List.append_of_mem hpoll
    obtain ⟨receipt, hreceipt, hsome⟩ := List.mem_filterMap.1 hmessage
    obtain rfl : receipt = .done (some message) := by
      unfold Receipt.message? at hsome
      split at hsome
      · rw [hsome]
      · cases hsome
    obtain ⟨front, rest, hsplit⟩ := List.append_of_mem hreceipt
    have hne : poll.receipts ≠ [] := by
      intro hnil
      rw [hnil] at hreceipt
      cases hreceipt
    refine ⟨before, poll, after, front, rest ++ [poll.receipts.getLast hne], hpolls, ?_, by simp⟩
    calc poll.receipts
      _ = poll.receipts.dropLast ++ [poll.receipts.getLast hne] :=
        (List.dropLast_append_getLast hne).symm
      _ = front ++ .done (some message) :: (rest ++ [poll.receipts.getLast hne]) := by
        rw [hsplit]
        simp
  · rintro ⟨before, poll, after, front, back, hpolls, hsplit, hback⟩
    refine List.mem_flatMap.2 ⟨poll, hpolls ▸ by simp, List.mem_filterMap.2
      ⟨.done (some message), ?_, rfl⟩⟩
    rw [hsplit, List.dropLast_append_of_ne_nil (by simp), List.dropLast_cons_of_ne_nil hback]
    simp

/-- Whether only flagged messages are passed over. Whatever the surroundings answer and whatever is
done with a restored reader, it passes over flagged messages only, exactly if no message without the
flag comes under an identifier that the mark listed and that the reader meets for the first time.
Every other message settles how the call ends that received it: it is emitted, or the failure to map
it is reported. -/
theorem passes_over_only_flagged_iff (endpoint : Endpoint σ) (config : ReadConfig α)
    {restored : Option Mark} (hrestored : ∀ mark, restored = some mark → mark.session = none)
    (journal : Journal) (env : σ) (uses : List Use) :
    let course := (opening config restored journal env).run endpoint uses
    let listed := (restored.getD {}).pending.map (·.id)
    ((∀ message ∈ course.passedMessages, message.redelivered = true) ↔
      ∀ earlier message later, course.receipts = earlier ++ .done (some message) :: later →
        message.redelivered = false → ¬Receipt.Returns listed earlier (.done (some message))) ∧
    ∀ before poll after, course.polls = before ++ poll :: after →
    ∀ front message back, poll.receipts = front ++ .done (some message) :: back →
      ¬Receipt.Returns listed (before.flatMap (·.receipts) ++ front) (.done (some message)) →
      back = [] ∧ (poll.outcome, poll.current) = config.verdict (.done (some message)) := by
  intro course listed
  obtain ⟨-, hreceipts, haccounted, -⟩ :=
    accounts_for_receipts endpoint config hrestored journal env uses
  replace hreceipts : course.receipts = course.polls.flatMap (·.receipts) := hreceipts
  -- A poll goes on behind a message exactly if the message comes back.
  have hpasses : ∀ before poll after, course.polls = before ++ poll :: after →
      ∀ front message back, poll.receipts = front ++ .done (some message) :: back →
      (back ≠ [] ↔ Receipt.Returns listed (before.flatMap (·.receipts) ++ front)
        (.done (some message))) :=
    fun before poll after hpolls front message back hsplit =>
      (haccounted before poll after hpolls).returns front _ back hsplit
  refine ⟨⟨?_, ?_⟩, ?_⟩
  · intro hflagged earlier message later hreceived hplain hreturns
    rw [hreceipts] at hreceived
    obtain ⟨before, poll, after, front, back, hpolls, hsplit, rfl⟩ :=
      exists_poll_of_receipts hreceived
    have hback := (hpasses before poll after hpolls front message back hsplit).2 hreturns
    have hflag := hflagged message
      (mem_passedMessages_iff.2 ⟨before, poll, after, front, back, hpolls, hsplit, hback⟩)
    rw [hplain] at hflag
    cases hflag
  · intro hplain message hpassed
    obtain ⟨before, poll, after, front, back, hpolls, hsplit, hback⟩ :=
      mem_passedMessages_iff.1 hpassed
    have hreturns := (hpasses before poll after hpolls front message back hsplit).1 hback
    cases hflag : message.redelivered with
    | true => rfl
    | false =>
      refine (hplain _ message (back ++ after.flatMap (·.receipts)) ?_ hflag hreturns).elim
      rw [hreceipts, hpolls, List.flatMap_append, List.flatMap_cons, hsplit]
      simp
  · intro before poll after hpolls front message back hsplit hreturns
    have hnil : back = [] := by
      by_contra hback
      exact hreturns ((hpasses before poll after hpolls front message back hsplit).1 hback)
    obtain ⟨last, hlast, hverdict⟩ := (haccounted before poll after hpolls).verdict
    rw [hsplit, hnil, List.getLast?_concat] at hlast
    obtain rfl := Option.some.inj hlast
    exact ⟨hnil, hverdict⟩

/-- A message without an identifier of its own is published. -/
def unnamed (text : String) : List (Int64 × Operation) :=
  [(1, .publish (.queue "orders") (.ofText text))]

/-- A reader emits a message to which the broker gave an identifier, and is closed. -/
def departedCourse : Course String Shared :=
  (opening (textsOf "orders") none {} { broker := .after none (unnamed "seen") }).run
    (Shared.endpoint undisturbed) [.start, .close]

/-- The mark that the reader leaves. -/
def departedMark : Mark :=
  { sessionId := some "session-1-2", pending := [⟨⟨"ID:danube-mq-1"⟩, 1⟩] }

/-- A reader begins with the mark at the broker where it was left. -/
def returnedCourse : Course String Shared :=
  (opening (textsOf "orders") (some departedMark) {}
    { broker := departedCourse.scene.env.env.broker }).run
    (Shared.endpoint undisturbed) [.start, .advance]

/-- A reader begins with the mark at a broker that was restarted and counts from one again. -/
def restartedCourse : Course String Shared :=
  (opening (textsOf "orders") (some departedMark) {} { broker := .after none (unnamed "new") }).run
    (Shared.endpoint undisturbed) [.start]

/-- What comes back at the same broker is flagged, and nothing else is passed over. -/
theorem passes_over_only_flagged_iff_returnedCourse :
    returnedCourse.passedMessages.map (·.text?) = [some "seen"] ∧
    ∀ earlier message later, returnedCourse.receipts = earlier ++ .done (some message) :: later →
      message.redelivered = false →
      ¬Receipt.Returns [⟨"ID:danube-mq-1"⟩] earlier (.done (some message)) := by
  have hflagged : ∀ message ∈ returnedCourse.passedMessages, message.redelivered = true := by
    decide +kernel
  have hdetached : ∀ mark, some departedMark = some mark → mark.session = none := by
    intro mark hmark
    rw [← Option.some.inj hmark]
    rfl
  exact ⟨by decide +kernel, (passes_over_only_flagged_iff (Shared.endpoint undisturbed)
    (textsOf "orders") hdetached {} _ _).1.1 hflagged⟩

/-- A message is passed over that nobody has seen: it comes without the flag, and the broker was
restarted and gave it the identifier of another message. -/
theorem passes_over_unseen_restartedCourse :
    Mark.decode departedCourse.scene.client.mark.encode = .ok departedMark ∧
    restartedCourse.polls.map (·.outcome) = [.done false] ∧
    restartedCourse.passedMessages.map (fun message => (message.text?, message.redelivered)) =
      [(some "new", false)] ∧
    ¬∀ message ∈ restartedCourse.passedMessages, message.redelivered = true := by
  decide +kernel

/-! ## At the broker that the mark comes from -/

/-- A restored reader shares a broker with any other clients. If the broker delivered a message
under every identifier of the mark before, and accepted no two messages under one identifier, then
whatever the reader passes over from a queue is flagged. -/
theorem flagged_of_delivered_before {credentials : Option Credentials}
    {earlier : List (Int64 × Operation)} {schedule : Schedule} {config : ReadConfig α}
    {restored : Option Mark} (hrestored : ∀ mark, restored = some mark → mark.session = none)
    (hlisted : ∀ id ∈ (restored.getD {}).pending.map (·.id),
      ∃ departure ∈ Broker.departedAfter credentials earlier, departure.isReceived (some id) = true)
    {journal : Journal} {uses : List Use} {course : Course α Shared}
    (hcourse : (opening config restored journal { broker := .after credentials earlier }).run
      (Shared.endpoint schedule) uses = course)
    (hdistinct : (course.scene.env.env.broker.accepted.map (·.2.id)).Nodup) {message : Message}
    (hpassed : message ∈ course.passedMessages) {queue : String}
    (hqueue : message.destination = some (.queue queue)) : message.redelivered = true := by
  obtain ⟨-, hreceipts, haccounted, -⟩ :=
    accounts_for_receipts (Shared.endpoint schedule) config hrestored journal
      { broker := .after credentials earlier } uses
  rw [hcourse] at hreceipts haccounted
  have hsteps := steps_run (Shared.endpoint schedule) uses
    (opening config restored journal { broker := .after credentials earlier })
  rw [hcourse] at hsteps
  obtain ⟨operations, hbroker, hdelivered⟩ := Shared.delivered_of_steps hsteps rfl rfl
  obtain ⟨before, poll, after, front, back, hpolls, hsplit, hback⟩ :=
    mem_passedMessages_iff.1 hpassed
  -- The message comes back under an identifier that the mark listed.
  obtain ⟨id, hid, hmem, -⟩ := ((haccounted before poll after hpolls).returns front _ back hsplit).1
    hback
  replace hid : message.id = some id := hid
  obtain ⟨departure, hdeparture, hreceived⟩ := hlisted id hmem
  have hreceipt : .done (some message) ∈ course.scene.env.receipts := by
    show _ ∈ course.receipts
    rw [hreceipts, hpolls, List.flatMap_append, List.flatMap_cons, hsplit]
    simp
  obtain ⟨between, now, consumer, rest, rfl, hgiven⟩ := hdelivered message hreceipt
  obtain ⟨session, mode, destination, hdeparts⟩ :=
    (Broker.receive_fst_eq_ok_iff _ now consumer message).1 hgiven
  have hbetween :
      ((Broker.after credentials (earlier ++ between)).accepted.map (·.2.id)).Nodup := by
    rw [hbroker, ← List.append_assoc, Broker.accepted_after, Broker.submittedAfter_append,
      List.map_append, List.map_append] at hdistinct
    rw [Broker.accepted_after]
    exact (List.nodup_append.1 hdistinct).1
  obtain ⟨submission, hconveys⟩ := Broker.conveys_of_departs hbetween hdeparts
  have hsubmission : submission.id = id ∧ destination = .queue queue := by
    rw [hconveys.unchanged] at hid hqueue
    exact ⟨Option.some.inj hid, hconveys.sameDestination ▸ Option.some.inj hqueue⟩
  refine (hconveys.fromQueue queue hsubmission.2).2 (.inr ⟨departure, ?_, ?_⟩)
  · rw [Broker.departedAfter_append]
    exact List.mem_append_left _ hdeparture
  · rw [hsubmission.1]
    exact hreceived

end Course

end Reader

end BrokerConnector
