import BrokerConnector.Proofs.Ledger
import BrokerConnector.Proofs.World

/-!
# What the acknowledgments of a client do

A client that shares a broker acknowledges messages through a session that it opened. An
acknowledgment that is granted is said to pay for its message: the session held a delivery of it and
holds it no more. `Shared.Pays` says of a stretch of time for which messages a client paid. Nothing
else takes a message from the session, neither what other clients do nor a request that fails.
-/

namespace BrokerConnector

/-! ## What a client acknowledged -/

/-- The message whose acknowledgment was granted. -/
def Exchange.acknowledged? : Exchange → Option MessageId
  | ⟨.broker (.acknowledge _ id), .done _, _, _⟩ => some id
  | _ => none

/-- A schedule by which no other client acknowledges a message. -/
def Schedule.Ignores (schedule : Schedule) (id : MessageId) : Prop :=
  ∀ number, ∀ entry ∈ (schedule number).others, ∀ session,
    entry.2 ≠ .request (.acknowledge session id)

/-- Only an acknowledgment of a message adds to its acknowledgments. -/
theorem Broker.acknowledgmentCount_operate (broker : Broker) (now : Int64) {operation : Operation}
    {id : MessageId} (h : ∀ session, operation ≠ .request (.acknowledge session id)) :
    (broker.operate now operation).acknowledgmentCount id = broker.acknowledgmentCount id := by
  unfold acknowledgmentCount
  cases operation with
  | publish destination message =>
    exact congrArg (List.count id) (broker.acknowledged_publish now destination message)
  | reject destination => rfl
  | turn switch on => cases switch <;> rfl
  | request request =>
    cases request with
    | acknowledge session other =>
      have hne : other ≠ id := by
        rintro rfl
        exact h session rfl
      show List.count id (broker.perform now (.acknowledge session other)).2.acknowledged = _
      rcases broker.acknowledged_acknowledge now session other with hsame | ⟨-, hmore⟩
      · rw [hsame]
      · rw [hmore, List.count_append, List.count_singleton, if_neg (by simpa using hne),
          Nat.add_zero]
    | _ => exact congrArg (List.count id) (broker.acknowledged_perform now rfl)

/-- A receive that answers with no identifier changes no session. -/
theorem Broker.sessions_of_receive {broker after : Broker} {now : Int64}
    {consumer : ConsumerHandle} {answer : Option Message}
    (h : broker.perform now (.receive consumer) = (.ok answer, after))
    (anonymous : answer.bind (·.id) = none) : after.sessions = broker.sessions := by
  cases granted_of_perform h with
  | receiveStopped => rfl
  | receive => rw [keep_of_anonymous anonymous, sessions_take]

namespace Shared

variable {schedule : Schedule} {session : SessionHandle}

/-- The messages whose acknowledgments were granted here, in order. -/
def acknowledged (shared : Shared) : List MessageId :=
  shared.log.filterMap (·.acknowledged?)

@[simp]
theorem acknowledged_add (shared : Shared) (request : Request)
    (outcome : Outcome BrokerError request.Answer) (broker : Broker) :
    (shared.add request outcome broker).acknowledged = shared.acknowledged ++
      (Exchange.mk request outcome shared.broker broker).acknowledged?.toList := by
  rw [acknowledged, add, List.filterMap_append, acknowledged]
  cases h : (Exchange.mk request outcome shared.broker broker).acknowledged? <;> simp [h]

@[simp]
theorem acknowledged_others (shared : Shared) (operations : List (Int64 × Operation)) :
    (shared.others operations).acknowledged = shared.acknowledged := by
  rw [acknowledged, log_others, acknowledged]

/-- What others do adds to the acknowledgments of no message that they do not acknowledge. -/
theorem acknowledgmentCount_others (shared : Shared) {operations : List (Int64 × Operation)}
    {id : MessageId}
    (h : ∀ entry ∈ operations, ∀ session, entry.2 ≠ .request (.acknowledge session id)) :
    (shared.others operations).broker.acknowledgmentCount id =
      shared.broker.acknowledgmentCount id := by
  induction operations generalizing shared with
  | nil => rfl
  | cons entry rest ih =>
    rw [others, ih _ fun other hother => h other (List.mem_cons_of_mem _ hother), disturb]
    split
    · rfl
    · exact shared.broker.acknowledgmentCount_operate entry.1 (h entry List.mem_cons_self)

/-- A session holds a delivery of a message. -/
def Holds (shared : Shared) (session : SessionHandle) (id : MessageId) : Prop :=
  ∃ found, shared.broker.sessions[session.index]? = some found ∧
    ∃ delivery ∈ found.held, delivery.id = id

instance (shared : Shared) (session : SessionHandle) (id : MessageId) :
    Decidable (shared.Holds session id) :=
  decidable_of_iff
    (∃ found ∈ shared.broker.sessions[session.index]?, ∃ delivery ∈ found.held, delivery.id = id)
    Iff.rfl

/-- A session holds what its record tells. -/
theorem holds_iff {shared : Shared} {found : Session} {id : MessageId}
    (h : shared.broker.sessions[session.index]? = some found) :
    shared.Holds session id ↔ ∃ delivery ∈ found.held, delivery.id = id := by
  constructor
  · rintro ⟨other, hother, hheld⟩
    rwa [Option.some.inj (hother.symm.trans h)] at hheld
  · exact fun hheld => ⟨found, h, hheld⟩

/-- What happens around a client that goes through a session which was opened here, while it
acknowledges some messages. -/
structure Tends (schedule : Schedule) (session : SessionHandle) (paid : List MessageId)
    (before after : Shared) : Prop where
  opened : before.sessions ⊆ after.sessions
  session : ∀ found, before.broker.sessions[session.index]? = some found →
    ∃ later, after.broker.sessions[session.index]? = some later ∧ later.mode = found.mode ∧
      later.closed = found.closed
  consumers : ∀ (index : Nat) (consumer : Consumer),
    before.broker.consumers[index]? = some consumer →
      ∃ later, after.broker.consumers[index]? = some later ∧ later.session = consumer.session
  acknowledged : after.acknowledged = before.acknowledged ++ paid
  counted : ∀ id, schedule.Ignores id →
    after.broker.acknowledgmentCount id = before.broker.acknowledgmentCount id + paid.count id

/-- What happens around one stretch of time and the next happens around both. -/
theorem Tends.trans {first second third : Shared} {paid paid' : List MessageId}
    (h : Tends schedule session paid first second)
    (h' : Tends schedule session paid' second third) :
    Tends schedule session (paid ++ paid') first third where
  opened := fun _ hi => h'.opened (h.opened hi)
  session := by
    intro found hfound
    obtain ⟨later, hlater, hmode, hclosed⟩ := h.session found hfound
    obtain ⟨last, hlast, hmode', hclosed'⟩ := h'.session later hlater
    exact ⟨last, hlast, hmode'.trans hmode, hclosed'.trans hclosed⟩
  consumers := by
    intro index consumer hconsumer
    obtain ⟨later, hlater, hsame⟩ := h.consumers index consumer hconsumer
    obtain ⟨last, hlast, hsame'⟩ := h'.consumers index later hlater
    exact ⟨last, hlast, hsame'.trans hsame⟩
  acknowledged := by rw [h'.acknowledged, h.acknowledged, List.append_assoc]
  counted := by
    intro id hid
    rw [h'.counted id hid, h.counted id hid, List.count_append, Nat.add_assoc]

/-- What the acknowledgments of a client through a session do. Each message is one that the session
held, and that it holds no more. -/
structure Pays (schedule : Schedule) (session : SessionHandle) (paid : List MessageId)
    (before after : Shared) : Prop where
  tends : Tends schedule session paid before after
  nodup : paid.Nodup
  were : ∀ id ∈ paid, before.Holds session id
  held : ∀ id, after.Holds session id ↔ before.Holds session id ∧ id ∉ paid

namespace Pays

variable {first second third : Shared}

theorem refl (shared : Shared) : Pays schedule session [] shared shared where
  tends :=
    { opened := List.Subset.refl _
      session := fun found h => ⟨found, h, rfl, rfl⟩
      consumers := fun _ consumer h => ⟨consumer, h, rfl⟩
      acknowledged := (List.append_nil _).symm
      counted := fun _ _ => rfl }
  nodup := List.nodup_nil
  were := by simp
  held := by simp

theorem trans {paid paid' : List MessageId} (h : Pays schedule session paid first second)
    (h' : Pays schedule session paid' second third) :
    Pays schedule session (paid ++ paid') first third where
  tends := h.tends.trans h'.tends
  nodup := by
    -- What was paid for first is held no more, so it is not paid for again.
    refine List.nodup_append.2 ⟨h.nodup, h'.nodup, ?_⟩
    rintro id hid other hother rfl
    exact ((h.held _).1 (h'.were _ hother)).2 hid
  were := by
    intro id hid
    rcases List.mem_append.1 hid with hid | hid
    · exact h.were id hid
    · exact ((h.held id).1 (h'.were id hid)).1
  held := by
    intro id
    rw [h'.held, h.held, List.mem_append, not_or, and_assoc]

end Pays

/-- A session in client mode was opened here. -/
structure Has (session : SessionHandle) (shared : Shared) : Prop where
  opened : session.index ∈ shared.sessions
  found : ∃ found, shared.broker.sessions[session.index]? = some found ∧ found.mode = .client

instance (session : SessionHandle) (shared : Shared) : Decidable (shared.Has session) :=
  decidable_of_iff (session.index ∈ shared.sessions ∧
      ∃ found ∈ shared.broker.sessions[session.index]?, found.mode = .client)
    ⟨fun h => ⟨h.1, h.2⟩, fun h => ⟨h.opened, h.found⟩⟩

/-- A session is open. -/
def Opens (session : SessionHandle) (shared : Shared) : Prop :=
  ∃ found, shared.broker.sessions[session.index]? = some found ∧ found.closed = false

namespace Tends

variable {first second : Shared} {paid : List MessageId}

/-- A session that was opened here stays known and in its mode. -/
theorem has (h : Tends schedule session paid first second) (hfirst : first.Has session) :
    second.Has session := by
  obtain ⟨hopened, found, hfound, hclient⟩ := hfirst
  obtain ⟨later, hlater, hmode, -⟩ := h.session found hfound
  exact ⟨h.opened hopened, later, hlater, hmode.trans hclient⟩

/-- A session that is open stays open. -/
theorem opens (h : Tends schedule session paid first second) (hfirst : first.Opens session) :
    second.Opens session := by
  obtain ⟨found, hfound, hopen⟩ := hfirst
  obtain ⟨later, hlater, -, hclosed⟩ := h.session found hfound
  exact ⟨later, hlater, hclosed.trans hopen⟩

end Tends

/-! ## What a request does -/

variable {shared after : Shared}

/-- What leaves a session alone and acknowledges nothing pays for nothing. -/
theorem Pays.of_spares (hhas : shared.Has session)
    (hspares : Contents.Spares (· ∈ shared.sessions) shared.broker.contents after.broker.contents)
    (sessions : shared.sessions ⊆ after.sessions)
    (acknowledged : after.acknowledged = shared.acknowledged)
    (counted : ∀ id, schedule.Ignores id →
      after.broker.acknowledgmentCount id = shared.broker.acknowledgmentCount id) :
    Pays schedule session [] shared after := by
  obtain ⟨hopened, found, hfound, -⟩ := hhas
  have hafter : after.broker.sessions[session.index]? = some found :=
    hspares.sessions _ _ hopened hfound
  refine ⟨⟨sessions, ?_, ?_, ?_, counted⟩, List.nodup_nil, by simp, fun id => ?_⟩
  · intro other hother
    obtain rfl := Option.some.inj (hfound.symm.trans hother)
    exact ⟨found, hafter, rfl, rfl⟩
  · intro index consumer hconsumer
    obtain ⟨later, hlater, -, hsame⟩ := hspares.consumers index consumer hconsumer
    exact ⟨later, hlater, hsame⟩
  · rw [acknowledged, List.append_nil]
  · rw [holds_iff hafter, holds_iff hfound]
    simp

/-- What others do pays for nothing. -/
theorem pays_others (schedule : Schedule) (hhas : shared.Has session) (number : Nat) :
    Pays schedule session [] shared (shared.others (schedule number).others) :=
  .of_spares hhas (shared.spares_others _) (shared.sessions_others _ ▸ List.Subset.refl _)
    (shared.acknowledged_others _) fun _ hid => shared.acknowledgmentCount_others (hid number)

/-- A request that fails pays for nothing. -/
theorem pays_failed (hhas : shared.Has session) (request : Request) (error : BrokerError) :
    Pays schedule session [] shared (shared.add request (.failed error) shared.broker) := by
  refine .of_spares hhas (.refl _ _) (shared.subset_sessions_add _ _ _) ?_ fun _ _ => rfl
  have hnone : (Exchange.mk request (.failed error) shared.broker shared.broker).acknowledged? =
      none := by
    cases request with
    | broker request => cases request <;> rfl
    | _ => rfl
  rw [acknowledged_add, hnone, Option.toList_none, List.append_nil]

/-- An acknowledgment that is granted pays for its message. -/
theorem pays_acknowledge {now : Int64} {id : MessageId} {broker : Broker}
    (hhas : shared.Has session)
    (h : shared.broker.perform now (.acknowledge session id) = (.ok (), broker)) :
    Pays schedule session [id] shared
      (shared.add (.broker (.acknowledge session id)) (.done ()) broker) := by
  obtain ⟨hopened, found, hfound, hclient⟩ := hhas
  obtain ⟨hheld, hcontents⟩ := Broker.contents_of_acknowledge h hfound hclient
  have hsessions := Broker.session_of_acknowledge h hfound hclient
  have hconsumers : broker.consumers = shared.broker.consumers :=
    congrArg Contents.consumers hcontents
  have hacknowledged : broker.acknowledged = shared.broker.acknowledged ++ [id] :=
    congrArg Contents.acknowledged hcontents
  -- Everything but the session and the log of acknowledgments is as it was.
  refine ⟨⟨shared.subset_sessions_add _ _ _, ?_, ?_, ?_, ?_⟩, by simp, ?_, ?_⟩
  · intro other hother
    obtain rfl := Option.some.inj (hfound.symm.trans hother)
    exact ⟨_, hsessions, rfl, rfl⟩
  · intro index consumer hconsumer
    exact ⟨consumer, by rw [← hconsumer, ← hconsumers]; rfl, rfl⟩
  · rw [acknowledged_add]
    rfl
  · intro other _
    show List.count other broker.acknowledged = _
    rw [hacknowledged, List.count_append]
    rfl
  · intro other hother
    rw [List.mem_singleton.1 hother]
    exact (holds_iff hfound).2 hheld
  · intro other
    have hafter : (shared.add (.broker (.acknowledge session id)) (.done ()) broker).Holds session
        other ↔ _ := holds_iff hsessions
    rw [hafter, holds_iff hfound]
    simp only [List.mem_filter, decide_eq_true_eq, List.mem_singleton]
    constructor
    · rintro ⟨delivery, ⟨hdelivery, hne⟩, rfl⟩
      exact ⟨⟨delivery, hdelivery, rfl⟩, hne⟩
    · rintro ⟨⟨delivery, hdelivery, rfl⟩, hne⟩
      exact ⟨delivery, ⟨hdelivery, hne⟩, rfl⟩

/-- A request that leaves all deliveries alone pays for nothing when it is granted. -/
theorem pays_granted {now : Int64} {request : BrokerRequest} {answer : request.Answer}
    {broker : Broker} (hhas : shared.Has session) (hquiet : request.isQuiet = true)
    (h : shared.broker.perform now request = (.ok answer, broker)) :
    Pays schedule session [] shared (shared.add (.broker request) (.done answer) broker) := by
  have hoperate : shared.broker.operate now (.request request) = broker := by
    rw [Broker.operate, h]
  have htouched := shared.broker.touched?_of_isQuiet hquiet
  refine .of_spares hhas ?_ (shared.subset_sessions_add _ _ _) ?_ fun id _ => ?_
  · show Contents.Spares _ _ broker.contents
    rw [← hoperate]
    exact shared.broker.spares_operate now fun index _ => by simp [htouched]
  · have hnone : (Exchange.mk (.broker request) (.done answer) shared.broker
        broker).acknowledged? = none := by
      cases request with
      | acknowledge => cases hquiet
      | _ => rfl
    rw [acknowledged_add, hnone, Option.toList_none, List.append_nil]
  · show broker.acknowledgmentCount id = _
    rw [← hoperate]
    refine shared.broker.acknowledgmentCount_operate now fun other hother => ?_
    rw [Operation.request.inj hother] at hquiet
    cases hquiet

/-- A session that receives a message with an identifier holds it besides what it held before. -/
theorem tends_receive {now : Int64} {consumer : ConsumerHandle} {of : Consumer}
    {answer : Option Message} {broker : Broker} (hhas : shared.Has session)
    (h : shared.broker.perform now (.receive consumer) = (.ok answer, broker))
    (hof : shared.broker.consumers[consumer.index]? = some of)
    (hsession : of.session = session.index) :
    Tends schedule session [] shared
        (shared.add (.broker (.receive consumer)) (.done answer) broker) ∧
      ∀ id, (shared.add (.broker (.receive consumer)) (.done answer) broker).Holds session id ↔
        shared.Holds session id ∨ answer.bind (·.id) = some id := by
  obtain ⟨hopened, found, hfound, hclient⟩ := hhas
  have hoperate : shared.broker.operate now (.request (.receive consumer)) = broker := by
    rw [Broker.operate, h]
  have hspares : Contents.Spares (fun _ => False) shared.broker.contents broker.contents := by
    rw [← hoperate]
    exact shared.broker.spares_operate now fun _ hkept => hkept.elim
  obtain ⟨later, hlater, hmode, hclosed, hheld⟩ : ∃ later,
      broker.sessions[session.index]? = some later ∧ later.mode = found.mode ∧
      later.closed = found.closed ∧ ∀ id, (∃ delivery ∈ later.held, delivery.id = id) ↔
        (∃ delivery ∈ found.held, delivery.id = id) ∨ answer.bind (·.id) = some id := by
    cases hanswer : answer.bind (·.id) with
    | none =>
      refine ⟨found, ?_, rfl, rfl, by simp⟩
      rw [Broker.sessions_of_receive h hanswer, hfound]
    | some id =>
      obtain ⟨message, rfl, hid⟩ := Option.bind_eq_some_iff.1 hanswer
      have hlater := Broker.session_of_receive h hof (hsession ▸ hfound) hclient hid
      rw [hsession] at hlater
      -- An older delivery of the same identifier goes, but the identifier stays held.
      refine ⟨_, hlater, rfl, rfl, fun other => ?_⟩
      simp only [List.mem_append, List.mem_filter, List.mem_singleton, Option.some.injEq]
      constructor
      · rintro ⟨delivery, ⟨hdelivery, -⟩ | rfl, rfl⟩
        · exact .inl ⟨delivery, hdelivery, rfl⟩
        · exact .inr rfl
      · rintro (⟨delivery, hdelivery, rfl⟩ | rfl)
        · by_cases hsame : delivery.id = id
          · exact ⟨_, .inr rfl, hsame.symm⟩
          · exact ⟨delivery, .inl ⟨hdelivery, by simpa using hsame⟩, rfl⟩
        · exact ⟨_, .inr rfl, rfl⟩
  refine ⟨⟨shared.subset_sessions_add _ _ _, ?_, ?_, ?_, ?_⟩, fun id => ?_⟩
  · intro other hother
    obtain rfl := Option.some.inj (hfound.symm.trans hother)
    exact ⟨later, hlater, hmode, hclosed⟩
  · intro index other hother
    obtain ⟨last, hlast, -, hsame⟩ := hspares.consumers index other hother
    exact ⟨last, hlast, hsame⟩
  · rw [acknowledged_add]
    rfl
  · intro id _
    show broker.acknowledgmentCount id = _
    rw [← hoperate]
    exact shared.broker.acknowledgmentCount_operate now fun _ hother => by cases hother
  · have hafter : (shared.add (.broker (.receive consumer)) (.done answer) broker).Holds session
        id ↔ _ := holds_iff hlater
    rw [hafter, holds_iff hfound, hheld]

end Shared

end BrokerConnector
