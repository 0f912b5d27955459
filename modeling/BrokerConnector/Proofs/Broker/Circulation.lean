import BrokerConnector.Proofs.Broker.Request
import Mathlib.Data.List.Basic
import Mathlib.Data.List.Perm.Subperm

/-!
# The circulation of messages

A message of a queue circulates while it waits on its queue or a session holds a delivery of it.
The redelivered flag changes as it does, so circulating messages are compared with the flag set.
`Step.accepted` says what one step can do: the circulating messages afterwards are some of those
before, together with what was accepted meanwhile. Nothing that left the circulation comes back.

`Broker.Spares` collects what an operation leaves alone as seen by somebody who does not go through
the same sessions. It is a preorder that every operation satisfies (`spares_operate`), so it holds
between the ends of every run. A broker is `Sound` when every circulating message was accepted, and
`Spent` says of one message that it is out of circulation for good.
-/

namespace BrokerConnector

open List

/-- A waiting message as it is after a redelivery. -/
def Waiting.flagged (waiting : Waiting) : Waiting :=
  { waiting with message := { waiting.message with redelivered := true } }

namespace Contents

/-- What the held deliveries would put back on their queues. -/
def held (contents : Contents) : List Waiting :=
  contents.sessions.flatMap fun session => session.held.filterMap Delivery.requeued

/-- The messages of queues that wait or are held. -/
def circulating (contents : Contents) : List Waiting :=
  contents.waiting.map Waiting.flagged ++ contents.held

/-- What waits on queues on account of accepted messages. -/
def queued (accepted : List (Destination × Message)) : List Waiting :=
  (accepted.flatMap fun entry => entry.2.queuedFor entry.1).map Waiting.flagged

@[simp]
theorem queued_nil : queued [] = [] := rfl

@[simp]
theorem queued_append (first second : List (Destination × Message)) :
    queued (first ++ second) = queued first ++ queued second := by
  simp [queued]

/-- The identifiers of the messages that belong to a queue. -/
def idsOn (name : String) (waiting : List Waiting) : List (Option MessageId) :=
  (waiting.filter (·.queue = name)).map (·.message.id)

@[simp]
theorem idsOn_append (name : String) (first second : List Waiting) :
    idsOn name (first ++ second) = idsOn name first ++ idsOn name second := by
  simp [idsOn]

@[simp]
theorem idsOn_map_flagged (name : String) (waiting : List Waiting) :
    idsOn name (waiting.map Waiting.flagged) = idsOn name waiting := by
  rw [idsOn, List.filter_map, List.map_map]
  rfl

/-- Mapping keeps a part a part. -/
theorem subperm_map {α β : Type} (f : α → β) {first second : List α} (h : first <+~ second) :
    first.map f <+~ second.map f := by
  obtain ⟨middle, hperm, hsub⟩ := h
  exact ⟨middle.map f, hperm.map f, hsub.map f⟩

/-- Fewer messages have fewer identifiers. -/
theorem idsOn_subperm (name : String) {first second : List Waiting} (h : first <+~ second) :
    idsOn name first <+~ idsOn name second := by
  obtain ⟨middle, hperm, hsub⟩ := h
  exact ⟨idsOn name middle, (hperm.filter _).map _, (hsub.filter _).map _⟩

/-- The identifiers of the messages accepted for a queue, in order. -/
def publishedIds (name : String) (accepted : List (Destination × Message)) :
    List (Option MessageId) :=
  ((accepted.filter (·.1 = .queue name)).map (·.2)).map (·.id)

@[simp]
theorem publishedIds_append (name : String) (first second : List (Destination × Message)) :
    publishedIds name (first ++ second) = publishedIds name first ++ publishedIds name second := by
  simp [publishedIds]

/-- The messages accepted for a queue have the identifiers under which they wait on it first. -/
theorem idsOn_queued (name : String) (accepted : List (Destination × Message)) :
    idsOn name (queued accepted) = publishedIds name accepted := by
  rw [queued, idsOn_map_flagged, publishedIds]
  induction accepted with
  | nil => rfl
  | cons entry rest ih =>
    obtain ⟨destination, message⟩ := entry
    cases destination with
    | queue other =>
      by_cases ho : other = name
      · simp_all [idsOn, Message.queuedFor]
      · simp_all [idsOn, Message.queuedFor]
    | topic other => simp_all [idsOn, Message.queuedFor]

/-! ## What a step does to the circulation -/

/-- Replacing an element of a list exchanges its image. -/
theorem flatMap_set_perm {α β : Type} (f : α → List β) {l : List α} {i : Nat} {a : α} (b : α)
    (h : l[i]? = some a) : (l.set i b).flatMap f ++ f a ~ l.flatMap f ++ f b := by
  obtain ⟨hi, rfl⟩ := List.getElem?_eq_some_iff.1 h
  have hl : l = l.take i ++ l[i] :: l.drop (i + 1) := by simp
  have hset : l.set i b = l.take i ++ b :: l.drop (i + 1) := by
    rw [List.set_eq_take_append_cons_drop, if_pos hi]
  rw [hset]
  nth_rewrite 4 [hl]
  simp only [List.flatMap_append, List.flatMap_cons, List.append_assoc]
  refine Perm.append_left _ ?_
  calc f b ++ ((l.drop (i + 1)).flatMap f ++ f l[i])
      ~ ((l.drop (i + 1)).flatMap f ++ f l[i]) ++ f b := perm_append_comm
    _ ~ (f l[i] ++ (l.drop (i + 1)).flatMap f) ++ f b := perm_append_comm.append_right _
    _ ~ f l[i] ++ ((l.drop (i + 1)).flatMap f ++ f b) := by rw [List.append_assoc]

/-- Changing what one session holds changes the held messages by as much. -/
theorem held_set {contents : Contents} {index : Nat} {session : Session} (other : Session)
    (found : contents.sessions[index]? = some session) :
    ({ contents with sessions := contents.sessions.set index other } : Contents).held ++
        session.held.filterMap Delivery.requeued ~
      contents.held ++ other.held.filterMap Delivery.requeued :=
  flatMap_set_perm (fun session => session.held.filterMap Delivery.requeued) other found

end Contents

/-- What a departure takes off a queue. -/
def Departure.waiting? : Departure → Option Waiting
  | .received _ _ (.queue name) message | .discarded (.queue name) message =>
    some ⟨name, message⟩
  | .received _ _ (.topic _) _ | .discarded (.topic _) _ => none

namespace Broker

/-- Taking from a queue splits what waits into what departs and what remains. -/
theorem takeWaiting_perm (queue : String) (now : Int64) (waiting : List Waiting) :
    let source := (waiting.filter (·.queue = queue)).map (·.message)
    (source.takeWhile (·.isExpired now) ++ (source.dropWhile (·.isExpired now)).head?.toList).map
        (Waiting.mk queue) ++ (takeWaiting queue now waiting).2 ~ waiting := by
  induction waiting with
  | nil => simp [takeWaiting]
  | cons first rest ih =>
    obtain ⟨name, message⟩ := first
    by_cases hq : name = queue
    · subst hq
      by_cases h : message.isExpired now = true
      · simpa [takeWaiting, h] using ih.cons ⟨name, message⟩
      · simp [takeWaiting, h]
    · simp only [takeWaiting, hq, if_false, List.filter_cons, decide_false, Bool.false_eq_true]
      exact perm_middle.trans (ih.cons _)

end Broker

namespace Contents

/-- The messages that wait are those that depart when a consumer takes its next one, and the
rest. -/
theorem waiting_withoutTaken (contents : Contents) (now : Int64) (index : Nat)
    (consumer : Consumer) (mode : AcknowledgeMode) :
    (contents.discards now consumer ++
        ((contents.next? now consumer).map
          (Departure.received consumer.session mode consumer.destination)).toList).filterMap
        Departure.waiting? ++ (contents.withoutTaken now index consumer).waiting ~
      contents.waiting := by
  unfold discards next? withoutTaken source
  cases consumer.destination with
  | queue name =>
    have h := Broker.takeWaiting_perm name now contents.waiting
    simp only [List.map_append] at h
    refine (Perm.append_right _ (Perm.of_eq ?_)).trans h
    rw [List.filterMap_append, List.filterMap_map]
    congr 1
    · simp [Function.comp_def, Departure.waiting?]
    · cases (List.dropWhile _ _).head? <;> simp [Departure.waiting?]
  | topic name =>
    refine Perm.of_eq ?_
    rw [List.filterMap_append, List.filterMap_map]
    cases (List.dropWhile _ _).head? <;> simp [Function.comp_def, Departure.waiting?]

@[simp]
theorem sessions_withoutTaken (contents : Contents) (now : Int64) (index : Nat)
    (consumer : Consumer) :
    (contents.withoutTaken now index consumer).sessions = contents.sessions := by
  unfold withoutTaken
  cases consumer.destination <;> rfl

@[simp]
theorem accepted_withoutTaken (contents : Contents) (now : Int64) (index : Nat)
    (consumer : Consumer) :
    (contents.withoutTaken now index consumer).accepted = contents.accepted := by
  unfold withoutTaken
  cases consumer.destination <;> rfl

@[simp]
theorem acknowledged_withoutTaken (contents : Contents) (now : Int64) (index : Nat)
    (consumer : Consumer) :
    (contents.withoutTaken now index consumer).acknowledged = contents.acknowledged := by
  unfold withoutTaken
  cases consumer.destination <;> rfl

/-- What waits when a consumer took its next message waited before. -/
theorem waiting_withoutTaken_subperm (contents : Contents) (now : Int64) (index : Nat)
    (consumer : Consumer) :
    (contents.withoutTaken now index consumer).waiting <+~ contents.waiting :=
  (sublist_append_right _ _).subperm.trans
    (contents.waiting_withoutTaken now index consumer .auto).subperm

/-- A delivery of the next message of a queue and what then waits, waited before. -/
theorem requeued_withoutTaken_subperm {contents : Contents} {now : Int64} (index : Nat)
    {consumer : Consumer} {message : Message} (id : MessageId)
    (h : contents.next? now consumer = some message) :
    (contents.withoutTaken now index consumer).waiting.map Waiting.flagged ++
        (Delivery.requeued ⟨id, consumer.destination, message⟩).toList <+~
      contents.waiting.map Waiting.flagged := by
  have hperm := (contents.waiting_withoutTaken now index consumer .auto).map Waiting.flagged
  rw [h, List.filterMap_append, List.map_append, List.map_append] at hperm
  have hnext : (Delivery.requeued ⟨id, consumer.destination, message⟩).toList =
      ((((some message).map
        (Departure.received consumer.session .auto consumer.destination)).toList.filterMap
        Departure.waiting?).map Waiting.flagged) := by
    cases hd : consumer.destination <;>
      simp [Delivery.requeued, Departure.waiting?, Waiting.flagged]
  rw [hnext]
  refine Subperm.trans ?_ hperm.subperm
  rw [List.append_assoc]
  exact perm_append_comm.subperm.trans (sublist_append_right _ _).subperm

@[simp]
theorem held_withoutTaken (contents : Contents) (now : Int64) (index : Nat)
    (consumer : Consumer) :
    (contents.withoutTaken now index consumer).held = contents.held := by
  rw [held, sessions_withoutTaken, held]

/-- A session that holds one more delivery adds it to the held messages. -/
theorem held_hold_subperm {contents : Contents} {index : Nat} {session : Session}
    (delivery : Delivery) (found : contents.sessions[index]? = some session) :
    (contents.hold index session delivery).held <+~
      contents.held ++ delivery.requeued.toList := by
  let other : Session :=
    { session with held := session.held.filter (·.id ≠ delivery.id) ++ [delivery] }
  have hset := held_set other found
  have hother : other.held.filterMap Delivery.requeued <+~
      session.held.filterMap Delivery.requeued ++ delivery.requeued.toList := by
    rw [List.filterMap_append]
    refine Subperm.append (List.filter_sublist.filterMap _).subperm ?_
    cases hd : delivery.requeued with
    | none => simp [hd]
    | some waiting => simp [hd]
  refine (subperm_append_right (session.held.filterMap Delivery.requeued)).1 ?_
  refine hset.subperm.trans (((subperm_append_left _).2 hother).trans ?_)
  rw [List.append_assoc]
  exact ((subperm_append_left _).2 perm_append_comm.subperm)

/-- What a session puts back is flagged. -/
theorem map_flagged_requeued (deliveries : List Delivery) :
    (deliveries.filterMap Delivery.requeued).map Waiting.flagged =
      deliveries.filterMap Delivery.requeued := by
  rw [List.map_filterMap]
  congr 1
  funext delivery
  unfold Delivery.requeued
  cases delivery.destination <;> rfl

end Contents

namespace Contents.Step

variable {now : Int64} {before after : Contents} {through : Option Nat}
  {departures : List Departure}

/-- One step adds accepted messages with identifiers, and what circulates afterwards circulated
before or is among them. -/
theorem accepted (h : Step now before through departures after) :
    ∃ new, after.accepted = before.accepted ++ new ∧
      (∀ entry ∈ new, entry.2.id.isSome) ∧
      after.circulating <+~ before.circulating ++ queued new := by
  cases h with
  | still => exact ⟨[], by simp, by simp, by rw [queued_nil, List.append_nil]⟩
  | openSession session empty =>
    refine ⟨[], by simp, by simp, Perm.subperm (Perm.of_eq ?_)⟩
    simp [circulating, held, empty]
  | openConsumer consumer empty =>
    exact ⟨[], by simp, by simp, by rw [queued_nil, List.append_nil]; exact Subperm.refl _⟩
  | closeConsumer index consumer found =>
    exact ⟨[], by simp, by simp, by rw [queued_nil, List.append_nil]; exact Subperm.refl _⟩
  | accept destination message identified =>
    refine ⟨[(destination, message)], rfl, by simpa using identified, Perm.subperm ?_⟩
    have hqueued : queued [(destination, message)] =
        (message.queuedFor destination).map Waiting.flagged := by
      simp [queued]
    change (before.waiting ++ message.queuedFor destination).map Waiting.flagged ++ before.held ~ _
    rw [List.map_append, hqueued, circulating, List.append_assoc, List.append_assoc]
    exact perm_append_comm.append_left _
  | acknowledge index session id found client isOpen isHeld =>
    refine ⟨[], by simp, by simp, ?_⟩
    have hset := held_set { session with held := session.held.filter (·.id ≠ id) } found
    have hsub : (session.held.filter (·.id ≠ id)).filterMap Delivery.requeued <+~
        session.held.filterMap Delivery.requeued :=
      (List.filter_sublist.filterMap _).subperm
    rw [queued_nil, List.append_nil]
    -- What is acknowledged leaves the session and comes to no other place.
    refine (subperm_append_left _).2 ?_
    exact (subperm_append_right _).1 (hset.subperm.trans ((subperm_append_left _).2 hsub))
  | closeSession index session found =>
    refine ⟨[], by simp, by simp, Perm.subperm ?_⟩
    have hset := held_set { session with closed := true, held := [] } found
    rw [List.filterMap_nil, List.append_nil] at hset
    rw [queued_nil, List.append_nil, circulating, List.map_append, map_flagged_requeued]
    -- What was held is the same as what waits at the head now, and only the order differs.
    calc session.held.filterMap Delivery.requeued ++ before.waiting.map Waiting.flagged ++ _
        ~ before.waiting.map Waiting.flagged ++
            session.held.filterMap Delivery.requeued ++ _ := perm_append_comm.append_right _
      _ ~ before.waiting.map Waiting.flagged ++ (_ ++ _) := by
          rw [List.append_assoc]
          exact perm_append_comm.append_left _
      _ ~ before.waiting.map Waiting.flagged ++ before.held := hset.append_left _
  | takeOver index consumer session found of unheld =>
    refine ⟨[], by simp, by simp, ?_⟩
    rw [queued_nil, List.append_nil, circulating, held_withoutTaken]
    refine (subperm_append_right _).2 ?_
    exact subperm_map _ (before.waiting_withoutTaken_subperm now index consumer)
  | takeHeld index consumer session message id found of client isOpen next identified =>
    refine ⟨[], by simp [hold], by simp, ?_⟩
    have hsession : (before.withoutTaken now index consumer).sessions[consumer.session]? =
        some session := by rw [sessions_withoutTaken, of]
    -- The session may drop an earlier delivery of the message, so this is no permutation.
    have hheld := held_hold_subperm ⟨id, consumer.destination, message⟩ hsession
    have hwaiting := requeued_withoutTaken_subperm index id next
    rw [held_withoutTaken] at hheld
    rw [queued_nil, List.append_nil]
    refine (((subperm_append_left _).2 hheld).trans ?_).trans ((subperm_append_right _).2 hwaiting)
    rw [List.append_assoc]
    exact (perm_append_comm.append_left _).subperm

/-- A step leaves the sessions alone that it does not go through. -/
theorem sessions_of_ne (h : Step now before through departures after) {index : Nat}
    {session : Session} (hne : through ≠ some index)
    (found : before.sessions[index]? = some session) :
    after.sessions[index]? = some session := by
  have hset : ∀ (other : Nat) (changed : Session), some other ≠ some index →
      (before.sessions.set other changed)[index]? = some session := by
    intro other changed hother
    rw [List.getElem?_set_ne (fun e => hother (congrArg some e)), found]
  cases h with
  | openSession opened empty =>
    exact List.getElem?_append_left (List.getElem?_eq_some_iff.1 found).1 ▸ found
  | acknowledge => exact hset _ _ hne
  | closeSession => exact hset _ _ hne
  | takeOver => rw [sessions_withoutTaken, found]
  | takeHeld =>
    change ((before.withoutTaken now _ _).sessions.set _ _)[index]? = some session
    rw [sessions_withoutTaken]
    exact hset _ _ hne
  | _ => exact found

/-- A step moves no consumer to another session or destination. -/
theorem consumers (h : Step now before through departures after) {index : Nat}
    {consumer : Consumer} (found : before.consumers[index]? = some consumer) :
    ∃ later, after.consumers[index]? = some later ∧
      later.destination = consumer.destination ∧ later.session = consumer.session := by
  -- A consumer is replaced by one of the same destination and session, if it is replaced at all.
  have hset : ∀ (other : Nat) (old changed : Consumer), before.consumers[other]? = some old →
      changed.destination = old.destination → changed.session = old.session →
      ∃ later, (before.consumers.set other changed)[index]? = some later ∧
        later.destination = consumer.destination ∧ later.session = consumer.session := by
    intro other old changed hold hdestination hsession
    by_cases he : other = index
    · subst he
      obtain rfl := Option.some.inj (hold.symm.trans found)
      refine ⟨changed, ?_, hdestination, hsession⟩
      rw [List.getElem?_set_self (List.getElem?_eq_some_iff.1 found).1]
    · exact ⟨consumer, by rw [List.getElem?_set_ne he, found], rfl, rfl⟩
  have htaken : ∀ (other : Nat) (old : Consumer), before.consumers[other]? = some old →
      ∃ later, (before.withoutTaken now other old).consumers[index]? = some later ∧
        later.destination = consumer.destination ∧ later.session = consumer.session := by
    intro other old hold
    unfold withoutTaken
    split
    · exact ⟨consumer, found, rfl, rfl⟩
    · exact hset _ _ _ hold rfl rfl
  cases h with
  | openConsumer opened empty =>
    refine ⟨consumer, ?_, rfl, rfl⟩
    exact List.getElem?_append_left (List.getElem?_eq_some_iff.1 found).1 ▸ found
  | closeConsumer other old hold => exact hset _ _ _ hold rfl rfl
  | accept destination message identified =>
    refine ⟨consumer.offered destination message, ?_, ?_, ?_⟩
    · change (before.consumers.map _)[index]? = _
      rw [List.getElem?_map, found, Option.map_some]
    · unfold Consumer.offered
      split <;> rfl
    · unfold Consumer.offered
      split <;> rfl
  | takeOver other old session hold => exact htaken _ _ hold
  | takeHeld other old session message id hold => exact htaken _ _ hold
  | _ => exact ⟨consumer, found, rfl, rfl⟩

end Contents.Step

namespace Contents

/-! ## What is left alone -/

/-- What has happened between two moments left some sessions alone. -/
structure Spares (kept : Nat → Prop) (before after : Contents) : Prop where
  /-- What was accepted has identifiers, and what circulates circulated before or was accepted. -/
  accepted : ∃ new, after.accepted = before.accepted ++ new ∧
    (∀ entry ∈ new, entry.2.id.isSome) ∧ after.circulating <+~ before.circulating ++ queued new
  /-- The sessions are as they were. -/
  sessions : ∀ index session, kept index → before.sessions[index]? = some session →
    after.sessions[index]? = some session
  /-- No consumer went to another session or destination. -/
  consumers : ∀ (index : Nat) (consumer : Consumer), before.consumers[index]? = some consumer →
    ∃ later, after.consumers[index]? = some later ∧
      later.destination = consumer.destination ∧ later.session = consumer.session

namespace Spares

variable {kept : Nat → Prop} {first second third : Contents}

/-- When nothing happens, everything is left alone. -/
theorem refl (kept : Nat → Prop) (contents : Contents) : Spares kept contents contents where
  accepted := ⟨[], by simp, by simp, by rw [queued_nil, List.append_nil]⟩
  sessions := fun _ _ _ found => found
  consumers := fun _ consumer found => ⟨consumer, found, rfl, rfl⟩

/-- What two stretches of time leave alone, both together leave alone. -/
theorem trans (hfirst : Spares kept first second) (hsecond : Spares kept second third) :
    Spares kept first third where
  accepted := by
    obtain ⟨new, hnew, hids, hcirculating⟩ := hfirst.accepted
    obtain ⟨new', hnew', hids', hcirculating'⟩ := hsecond.accepted
    refine ⟨new ++ new', by rw [hnew', hnew, List.append_assoc], ?_, ?_⟩
    · intro entry hentry
      exact (List.mem_append.1 hentry).elim (hids entry) (hids' entry)
    · rw [queued_append, ← List.append_assoc]
      exact hcirculating'.trans ((subperm_append_right _).2 hcirculating)
  sessions := fun index session hkept found =>
    hsecond.sessions index session hkept (hfirst.sessions index session hkept found)
  consumers := by
    intro index consumer found
    obtain ⟨later, hlater, hd, hs⟩ := hfirst.consumers index consumer found
    obtain ⟨last, hlast, hd', hs'⟩ := hsecond.consumers index later hlater
    exact ⟨last, hlast, hd'.trans hd, hs'.trans hs⟩

/-- Who is left alone with more sessions is left alone with fewer. -/
theorem mono {fewer : Nat → Prop} (h : Spares kept first second)
    (hfewer : ∀ index, fewer index → kept index) : Spares fewer first second :=
  ⟨h.accepted, fun index session hkept => h.sessions index session (hfewer index hkept),
    h.consumers⟩

/-- A step leaves every session alone but the one that it goes through. -/
theorem of_step {now : Int64} {through : Option Nat} {departures : List Departure}
    (h : Step now first through departures second)
    (hthrough : ∀ index, kept index → through ≠ some index) : Spares kept first second where
  accepted := h.accepted
  sessions := fun index _ hkept found => h.sessions_of_ne (hthrough index hkept) found
  consumers := fun _ _ found => h.consumers found

end Spares

/-! ## What circulates was accepted -/

/-- Every message that circulates was accepted, and every accepted message has an identifier. -/
structure Sound (contents : Contents) : Prop where
  identified : ∀ entry ∈ contents.accepted, entry.2.id.isSome
  circulating : contents.circulating <+~ queued contents.accepted

/-- No two messages accepted for a queue have the same identifier. -/
def Distinct (name : String) (contents : Contents) : Prop :=
  (publishedIds name contents.accepted).Nodup

/-- A message of a queue is out of circulation. -/
def Spent (name : String) (id : MessageId) (contents : Contents) : Prop :=
  some id ∈ publishedIds name contents.accepted ∧ some id ∉ idsOn name contents.circulating

variable {kept : Nat → Prop} {before after : Contents} {name : String}

/-- Soundness is kept. -/
theorem Sound.of_spares (hsound : before.Sound) (h : Spares kept before after) : after.Sound := by
  obtain ⟨new, hnew, hids, hcirculating⟩ := h.accepted
  constructor
  · intro entry hentry
    rw [hnew] at hentry
    exact (List.mem_append.1 hentry).elim (hsound.identified entry) (hids entry)
  · rw [hnew, queued_append]
    exact hcirculating.trans ((subperm_append_right _).2 hsound.circulating)

/-- Identifiers that are distinct later are distinct before. -/
theorem Distinct.of_spares (h : Spares kept before after) (hdistinct : after.Distinct name) :
    before.Distinct name := by
  obtain ⟨new, hnew, -, -⟩ := h.accepted
  rw [Distinct, hnew, publishedIds_append] at hdistinct
  exact (List.nodup_append.1 hdistinct).1

/-- A message that is out of circulation stays out. -/
theorem Spent.of_spares {id : MessageId} (hspent : before.Spent name id)
    (h : Spares kept before after) (hdistinct : after.Distinct name) : after.Spent name id := by
  obtain ⟨new, hnew, -, hcirculating⟩ := h.accepted
  rw [Distinct, hnew, publishedIds_append] at hdistinct
  obtain ⟨-, -, hdisjoint⟩ := List.nodup_append.1 hdistinct
  refine ⟨by rw [hnew, publishedIds_append]; exact List.mem_append_left _ hspent.1, ?_⟩
  intro hmem
  have hids := (idsOn_subperm name hcirculating).subset hmem
  rw [idsOn_append, idsOn_queued] at hids
  rcases List.mem_append.1 hids with hold | hfresh
  · exact hspent.2 hold
  · exact hdisjoint _ hspent.1 _ hfresh rfl

/-- With distinct identifiers, no message circulates twice. -/
theorem Sound.nodup_circulating (hsound : before.Sound) (hdistinct : before.Distinct name) :
    (idsOn name before.circulating).Nodup := by
  obtain ⟨middle, hperm, hsub⟩ := idsOn_subperm name hsound.circulating
  rw [idsOn_queued] at hsub
  exact hperm.nodup_iff.1 (hdistinct.sublist hsub)

/-- A circulating message has an identifier. -/
theorem Sound.isSome_id (hsound : before.Sound) {waiting : Waiting}
    (h : waiting ∈ before.circulating) : waiting.message.id.isSome := by
  obtain ⟨original, horiginal, rfl⟩ := List.mem_map.1 (hsound.circulating.subset h)
  obtain ⟨entry, hentry, hqueued⟩ := List.mem_flatMap.1 horiginal
  have hid := hsound.identified entry hentry
  unfold Message.queuedFor at hqueued
  split at hqueued
  · obtain rfl := List.mem_singleton.1 hqueued
    exact hid
  · cases hqueued

end Contents

/-- An operation leaves every session alone but the one whose deliveries it changes. -/
theorem Broker.spares_operate (broker : Broker) (now : Int64) {operation : Operation}
    {kept : Nat → Prop} (h : ∀ index, kept index → broker.touched? operation ≠ some index) :
    Contents.Spares kept broker.contents (broker.operate now operation).contents := by
  obtain ⟨through, hthrough, hstep⟩ := broker.operate_step now operation
  exact .of_step hstep fun index hkept he => h index hkept (hthrough index he)

/-- Operations leave every session alone that none of them goes through. In particular, what is
said of nobody's sessions holds of all of them. -/
theorem Broker.spares_operateAll (broker : Broker) (operations : List (Int64 × Operation)) :
    Contents.Spares (fun _ => False) broker.contents (broker.operateAll operations).contents := by
  induction operations generalizing broker with
  | nil => exact .refl _ _
  | cons entry rest ih =>
    exact (broker.spares_operate entry.1 fun _ hkept => hkept.elim).trans (ih _)

/-- A broker that served any operations is sound. -/
theorem Broker.sound_after (credentials : Option Credentials)
    (operations : List (Int64 × Operation)) :
    (Broker.after credentials operations).contents.Sound := by
  have hfresh : (Broker.contents { credentials := credentials }).Sound :=
    ⟨by simp [contents], by simp [contents, Contents.circulating, Contents.held]⟩
  exact hfresh.of_spares (spares_operateAll _ operations)

end BrokerConnector
