import BrokerConnector.Proofs.Visiting

/-!
# What a bounded read takes from its queue

A bounded read asks for no message beyond those that it returns: it looks at its limits after every
record, before it asks again. So a read of a queue that nobody else takes from, and that no call
fails for, returns the records of the first messages that are not expired, acknowledges those and no
others, and leaves the rest of the queue as it is (`takes_what_it_returns`). Others may publish to
the queue meanwhile, and time may pass as it likes.
-/

namespace BrokerConnector

open BrokerConnector.Action

variable {α : Type} {schedule : Schedule} {clock : Nat → Nat} {config : ReadConfig α}
  {before : Broker} {name : String} {lasts : Message → Bool} {taken : List Message}

/-- Messages that do not suit a read do not suit it later. So what a call leaves is only of
interest where the messages suit. -/
theorem Scene.leaves_of_suits {ρ ε β : Type} {s : Scene ρ (Clocked Shared)}
    {call : Action (Scene ρ (Clocked Shared)) ε β} {done : β → Scene ρ (Clocked Shared) → Prop}
    (hasks : Scene.Asks ((Shared.endpoint schedule).clocked clock) (fun _ => True) call)
    (h : s.env.env.Suits schedule config name lasts before →
      Leaves call s
        (fun value s' => s'.env.env.Suits schedule config name lasts before → done value s')
        (fun _ s' => ¬ s'.env.env.Suits schedule config name lasts before) (fun _ => True)) :
    Leaves call s
      (fun value s' => s'.env.env.Suits schedule config name lasts before → done value s')
      (fun _ s' => ¬ s'.env.env.Suits schedule config name lasts before) (fun _ => True) := by
  by_cases hsuits : s.env.env.Suits schedule config name lasts before
  · exact h hsuits
  · have hlater : ¬ (call s).2.env.env.Suits schedule config name lasts before := fun hlater =>
      hsuits (hlater.of_grows (Shared.grows_of_clocked_steps (hasks s)))
    have hleft : Leaves call s (fun _ s' => ¬ s'.env.env.Suits schedule config name lasts before)
        (fun _ s' => ¬ s'.env.env.Suits schedule config name lasts before)
        (fun s' => ¬ s'.env.env.Suits schedule config name lasts before) := leaves_of_state hlater
    exact hleft.mono (fun _ _ hnot hsuits => (hnot hsuits).elim) (fun _ _ => id) fun _ _ => trivial

/-! ## Limits -/

namespace ReadConfig

/-- A read that has so many records asks for another one. -/
def WantsMore (config : ReadConfig α) (count : Nat) : Prop :=
  ∀ limit, config.maxNumRecords = some limit → count < limit.toNat

/-- A read that has so many records may end: it has no more than it may have, and as many unless
its time is limited. -/
def IsContent (config : ReadConfig α) (count : Nat) : Prop :=
  ∀ limit, config.maxNumRecords = some limit →
    count ≤ limit.toNat ∧ (config.maxReadTime = none → count = limit.toNat)

end ReadConfig

namespace BoundedRead

variable {read : BoundedRead α}

/-- A read finishes when it is full or its time is over. -/
theorem turn_eq_finish_iff {now chance : Nat} {found : Bool} :
    read.turn now found chance = .finish ↔ (read.isFull || read.isOverdue now) = true := by
  unfold turn
  split
  · simp_all
  · split <;> simp_all

/-- A read that has no more records than it may have heeds its limits after a poll. -/
theorem heeds_limits (read : BoundedRead α) (now : Nat) (found : Bool) (chance : Nat)
    (hdeadline : read.reader.config.maxReadTime = none → read.deadline = none)
    (hwithin : ∀ limit, read.reader.config.maxNumRecords = some limit →
      read.records.length ≤ limit.toNat) :
    if read.turn now found chance = .finish then
      read.reader.config.IsContent read.records.length
    else read.reader.config.WantsMore read.records.length := by
  split
  · rename_i hfinish
    intro limit hlimit
    have hle := hwithin limit hlimit
    refine ⟨hle, fun htime => hle.antisymm ?_⟩
    -- Without a deadline it is not the time that is over.
    have hover := turn_eq_finish_iff.1 hfinish
    simpa [isFull, hlimit, isOverdue, hdeadline htime] using hover
  · rename_i hgoes
    intro limit hlimit
    rw [turn_eq_finish_iff] at hgoes
    simp only [Bool.or_eq_true, not_or, Bool.not_eq_true, isFull, hlimit] at hgoes
    simpa using hgoes.1

/-! ## One read -/

/-- A read between two polls has one record for each message that its reader took. -/
structure Polls (before : Broker) (name : String) (config : ReadConfig α)
    (lasts : Message → Bool) (taken : List Message) (s : Scene (BoundedRead α) (Clocked Shared)) :
    Prop where
  looks : Reader.Looks before name config lasts taken ⟨s.client.reader, s.journal, s.env⟩
  yields : List.Forall₂ config.Yields taken s.client.records
  deadline : config.maxReadTime = none → s.client.deadline = none

/-- A read that polled has one record for each message that its reader took. -/
structure Collects (before : Broker) (name : String) (config : ReadConfig α)
    (lasts : Message → Bool) (taken : List Message) (s : Scene (BoundedRead α) (Clocked Shared)) :
    Prop where
  gathers : Reader.Gathers before name config lasts taken ⟨s.client.reader, s.journal, s.env⟩
  yields : List.Forall₂ config.Yields taken s.client.records
  deadline : config.maxReadTime = none → s.client.deadline = none

/-- A read that polled can poll again, when some time has passed. -/
theorem Collects.polls {s s' : Scene (BoundedRead α) (Clocked Shared)}
    (h : Collects before name config lasts taken s) (client : s'.client = s.client)
    (env : s'.env.env = s.env.env) : Polls before name config lasts taken s' := by
  refine ⟨.working (h.gathers.env ?_ env), client ▸ h.yields, client ▸ h.deadline⟩
  exact congrArg BoundedRead.reader client

section

variable {dropped : Scene (BoundedRead α) (Clocked Shared) → Prop}
  (hcalm : schedule.Publishes) (hflawless : schedule.NeverFails)
  (hwelcomes : before.Welcomes config.credentials) (hqueue : config.destination = .queue name)
  (hnamed : Text.isBlank name = false)

include hcalm hflawless hwelcomes hqueue hnamed

/-- A read that looks for a message collects its record, and fails only if the messages do not suit
it. There is one record more at most. -/
theorem Polls.leaves_collect {s : Scene (BoundedRead α) (Clocked Shared)}
    (h : Polls before name config lasts taken s) :
    Leaves (collect ((Shared.endpoint schedule).clocked clock)) s
      (fun _ s' => s'.env.env.Suits schedule config name lasts before →
        ∃ taken, Collects before name config lasts taken s' ∧
          s'.client.records.length ≤ s.client.records.length + 1)
      (fun _ s' => ¬ s'.env.env.Suits schedule config name lasts before) dropped := by
  obtain ⟨read, journal, env⟩ := s
  obtain ⟨hlooks, hyields, hdeadline⟩ := h
  dsimp only at hlooks hyields hdeadline
  simp only [collect, leaves_bind, Scene.leaves_get, withReader, Scene.leaves_within]
  refine (hlooks.leaves_look hcalm hflawless hwelcomes hqueue hnamed).mono_done ?_
  rintro found ⟨reader, journal, env⟩ hlooked
  dsimp only at hlooked
  cases found with
  | false =>
    intro hsuits
    obtain ⟨hnone, more, hgathers, hmore⟩ := hlooked hsuits
    dsimp only at hnone hmore
    rw [Option.isSome_eq_false_iff, Option.isNone_iff_eq_none] at hnone
    rw [hnone] at hmore
    obtain rfl := List.forall₂_nil_right_iff.1 hmore
    exact ⟨taken, ⟨by simpa using hgathers, hyields, hdeadline⟩, Nat.le_succ _⟩
  | true =>
    simp only [if_true, leaves_bind, Scene.leaves_get, Reader.leaves_current]
    cases hcurrent : reader.current with
    | none =>
      intro hsuits
      have hfound := (hlooked hsuits).found
      rw [hcurrent] at hfound
      cases hfound
    | some current =>
      intro hsuits
      obtain ⟨-, more, hgathers, hmore⟩ := hlooked hsuits
      rw [hcurrent] at hmore
      exact ⟨taken ++ more, ⟨hgathers, List.rel_append hyields hmore, hdeadline⟩, by simp⟩

/-- A read that polls goes on if it wants more records, and else it may end. -/
theorem Polls.leaves_poll {s : Scene (BoundedRead α) (Clocked Shared)}
    (h : Polls before name config lasts taken s) (hwants : config.WantsMore s.client.records.length)
    (chance : Nat) :
    Leaves (poll ((Shared.endpoint schedule).clocked clock) chance) s
      (fun turn s' => s'.env.env.Suits schedule config name lasts before →
        ∃ taken, Collects before name config lasts taken s' ∧
          if turn = .finish then config.IsContent s'.client.records.length
          else config.WantsMore s'.client.records.length)
      (fun _ s' => ¬ s'.env.env.Suits schedule config name lasts before) dropped := by
  simp only [poll, leaves_bind]
  refine (h.leaves_collect hcalm hflawless hwelcomes hqueue hnamed).mono_done ?_
  intro found s' hcollected
  simp only [Scene.leaves_clock, Scene.leaves_get]
  generalize hturn : s'.client.turn (((Shared.endpoint schedule).clocked clock).clock s'.env) found
    chance = turn
  have hheeds (taken : List Message) (hcollects : Collects before name config lasts taken s')
      (hone : s'.client.records.length ≤ s.client.records.length + 1) :
      if turn = .finish then config.IsContent s'.client.records.length
      else config.WantsMore s'.client.records.length := by
    have hsame : s'.client.reader.config = config := hcollects.gathers.same
    have hheeds := s'.client.heeds_limits
      (((Shared.endpoint schedule).clocked clock).clock s'.env) found chance
      (hsame ▸ hcollects.deadline) fun limit hlimit =>
        hone.trans (hwants limit (hsame ▸ hlimit))
    rwa [hturn, hsame] at hheeds
  cases turn with
  | pauseFor milliseconds =>
    intro hsuits
    obtain ⟨taken, hcollects, hone⟩ := hcollected hsuits
    exact ⟨taken, ⟨hcollects.gathers, hcollects.yields, hcollects.deadline⟩,
      hheeds taken hcollects hone⟩
  | pollAgain | finish =>
    intro hsuits
    obtain ⟨taken, hcollects, hone⟩ := hcollected hsuits
    exact ⟨taken, hcollects, hheeds taken hcollects hone⟩

/-- A read that runs to its end may end. -/
theorem Polls.leaves_run {s : Scene (BoundedRead α) (Clocked Shared)}
    (h : Polls before name config lasts taken s) (hwants : config.WantsMore s.client.records.length)
    (chance : Nat → Nat) (budget : Nat) :
    Leaves (run ((Shared.endpoint schedule).clocked clock) chance budget) s
      (fun _ s' => s'.env.env.Suits schedule config name lasts before →
        ∃ taken, Collects before name config lasts taken s' ∧
          config.IsContent s'.client.records.length)
      (fun _ s' => ¬ s'.env.env.Suits schedule config name lasts before) (fun _ => True) := by
  induction budget generalizing s taken with
  | zero => trivial
  | succ budget ih =>
    simp only [run, leaves_bind]
    refine (h.leaves_poll hcalm hflawless hwelcomes hqueue hnamed hwants _).mono_done ?_
    intro turn s' hpolled
    cases turn with
    | finish =>
      intro hsuits
      obtain ⟨taken, hcollects, hcontent⟩ := hpolled hsuits
      exact ⟨taken, hcollects, hcontent⟩
    | pollAgain =>
      refine Scene.leaves_of_suits (.of_agree fun _ h => agree_run h _ _) fun hsuits => ?_
      obtain ⟨taken, hcollects, hwants'⟩ := hpolled hsuits
      exact ih (hcollects.polls rfl rfl) hwants'
    | pauseFor milliseconds =>
      simp only [leaves_bind, Scene.leaves_pause]
      refine Scene.leaves_of_suits (.of_agree fun _ h => agree_run h _ _) fun hsuits => ?_
      obtain ⟨taken, hcollects, hwants'⟩ := hpolled hsuits
      exact ih (hcollects.polls rfl rfl) hwants'

omit hqueue hnamed in
/-- A read that ends returns its records, and its visit is over. -/
theorem Collects.leaves_conclude {s : Scene (BoundedRead α) (Clocked Shared)}
    {failed : ConnectorError → Scene (BoundedRead α) (Clocked Shared) → Prop}
    (h : Collects before name config lasts taken s) :
    Leaves (conclude ((Shared.endpoint schedule).clocked clock) (.ok ())) s
      (fun records s' => records = s.client.records ∧
        Reader.Departed before name lasts taken s'.env) failed dropped := by
  simp only [conclude, leaves_bind, leaves_attempt, withReader, Scene.leaves_within]
  refine (h.gathers.leaves_finalize hcalm hflawless).mono_done ?_
  intro count s₁ hleaving
  refine (hleaving.leaves_close hcalm hflawless hwelcomes).mono_done ?_
  intro _ s₂ hdeparted
  exact ⟨rfl, hdeparted⟩

end

end BoundedRead

/-! ## Whole reads -/

/-- A client of a queue opened one of each at a broker, closed it again and released it once. -/
structure Broker.Vacated (before : Broker) (name : String) (broker : Broker) : Prop where
  connections : ∃ id, broker.connections = before.connections ++ [{ id := id, closed := true }]
  sessions : ∃ id, broker.sessions = before.sessions ++
    [{ id := id, connection := before.connections.length, mode := .client, closed := true }]
  consumers : ∃ others, others.length = before.consumers.length ∧ broker.consumers = others ++
    [{ destination := .queue name, session := before.sessions.length, closed := true }]
  releases : broker.releases = before.releases ++ [.consumer, .session, .connection]

/-- A client that closed everything vacated its place. -/
theorem Broker.Shows.vacated {visit : Visit} {broker : Broker}
    (h : before.Shows name visit broker) (hcloses : visit.Closes before name) :
    before.Vacated name broker := by
  obtain ⟨⟨connection, hconnections⟩, ⟨session, hsessions⟩, hconsumers, hreleased⟩ := hcloses
  obtain ⟨others, hlength, hothers⟩ := h.consumers
  exact ⟨⟨connection, hconnections ▸ h.connections⟩, ⟨session, hsessions ▸ h.sessions⟩,
    ⟨others, hlength, hconsumers ▸ hothers⟩, hreleased ▸ h.releases⟩

/-- A bounded read took exactly what it returned. What counts are the messages that are not expired
among those that waited on the queue when it began and those that were published since. -/
structure ReadConfig.Takes (config : ReadConfig α) (name : String) (lasts : Message → Bool)
    (before : Broker) (records : List (Timestamped α)) (after : Shared) : Prop where
  /-- The records are those of the first messages. -/
  yields : List.Forall₂ config.Yields
    (((before.stock after.broker name).filter lasts).take records.length) records
  /-- There are no more than wanted, and as many unless the time is limited. -/
  content : config.IsContent records.length
  /-- The other messages wait on the queue, as they did. -/
  left : (after.broker.queue name).filter lasts =
    ((before.stock after.broker name).filter lasts).drop records.length
  /-- Every request was granted if the messages have identifiers of their own. -/
  served : ((before.stock after.broker name).map (·.id)).Nodup → after.isServed = true
  /-- The messages that were returned were acknowledged, and nothing else. -/
  acknowledged : after.isServed = true → after.broker.acknowledged.map some =
    before.acknowledged.map some ++
      (((before.stock after.broker name).filter lasts).take records.length).map (·.id)
  /-- Nothing was asked for if no record was wanted. -/
  idle : config.maxNumRecords = some 0 → after = { broker := before }
  /-- What was opened was closed again. -/
  vacated : config.maxNumRecords ≠ some 0 → before.Vacated name after.broker

/-- A read whose visit is over took what it returned. -/
theorem Reader.Departed.takes {env : Clocked Shared} {records : List (Timestamped α)}
    (h : Reader.Departed before name lasts taken env)
    (hyields : List.Forall₂ config.Yields taken records)
    (hcontent : config.IsContent records.length) (hsome : config.maxNumRecords ≠ some 0) :
    config.Takes name lasts before records env.env := by
  obtain ⟨visit, served, ⟨hshows, hserved⟩, hcloses, hgone, hback, hpaid, hgranted⟩ := h
  obtain ⟨rest, hwaits, hstock⟩ := hshows.queue
  have hlive : (before.stock env.env.broker name).filter lasts = taken ++ rest.filter lasts := by
    rw [hstock, List.filter_append, hgone]
  have hlength : taken.length = records.length := hyields.length_eq
  have htake : ((before.stock env.env.broker name).filter lasts).take records.length = taken := by
    rw [hlive, ← hlength, List.take_left]
  exact {
    yields := htake ▸ hyields
    content := hcontent
    left := by rw [hwaits, hback, List.nil_append, hlive, ← hlength, List.drop_left]
    served := fun hnodup => by
      refine hserved.trans (hgranted ((List.Sublist.map _ ?_).nodup hnodup))
      rw [← htake]
      exact (List.take_sublist _ _).trans List.filter_sublist
    acknowledged := fun hall => by
      rw [htake, hshows.acknowledged, List.map_append, hpaid (hserved.symm.trans hall)]
    idle := fun hnone => absurd hnone hsome
    vacated := fun _ => hshows.vacated hcloses }

namespace BoundedReader

/-- A read for which no record is wanted takes nothing. -/
theorem takes_of_isEmpty {bounded : BoundedReader α} (h : bounded.isEmpty = true)
    (name : String) (lasts : Message → Bool) (before : Broker) :
    bounded.source.config.Takes name lasts before [] { broker := before } := by
  have hnone : bounded.source.config.maxNumRecords = some 0 := by simpa [isEmpty] using h
  exact {
    yields := .nil
    content := by
      rintro limit hlimit
      obtain rfl := Option.some.inj (hnone.symm.trans hlimit)
      exact ⟨Nat.zero_le _, fun _ => rfl⟩
    left := by rw [Broker.stock_self]; rfl
    served := fun _ => rfl
    acknowledged := fun _ => (List.append_nil _).symm
    idle := fun _ => rfl
    vacated := fun hsome => absurd hnone hsome }

variable (clock lasts) in
/-- A bounded read that wants records returns those of what it took, and fails only if the messages
do not suit it. -/
theorem leaves_read_visiting (hcalm : schedule.Publishes) (hflawless : schedule.NeverFails)
    {bounded : BoundedReader α} (hsome : bounded.isEmpty = false)
    (hqueue : bounded.source.config.destination = .queue name)
    (hnamed : Text.isBlank name = false)
    (hwelcomes : before.Welcomes bounded.source.config.credentials) (chance : Nat → Nat)
    (budget : Nat) {s : Scene Unit (Clocked Shared)} (h : Visits before name {} true s.env) :
    Leaves (bounded.read ((Shared.endpoint schedule).clocked clock) chance budget) s
      (fun records s' => s'.env.env.Suits schedule bounded.source.config name lasts before →
        ∃ taken, Reader.Departed before name lasts taken s'.env ∧
          List.Forall₂ bounded.source.config.Yields taken records ∧
          bounded.source.config.IsContent records.length)
      (fun _ s' => ¬ s'.env.env.Suits schedule bounded.source.config name lasts before)
      (fun _ => True) := by
  rw [read, if_neg (by simp [hsome])]
  simp only [leaves_bind, Scene.leaves_clock, Scene.leaves_alone, leaves_attempt]
  have hpolls : BoundedRead.Polls before name bounded.source.config lasts []
      ⟨bounded.begin (((Shared.endpoint schedule).clocked clock).clock s.env), s.journal, s.env⟩ :=
    ⟨.created rfl h, .nil, fun htime => by simp [begin, BoundedRead.begin, htime]⟩
  -- A limit of zero is an empty read, which was told apart above.
  have hwants : bounded.source.config.WantsMore 0 := by
    intro limit hlimit
    refine Nat.pos_of_ne_zero fun hzero => ?_
    obtain rfl : limit = 0 := UInt64.toNat_inj.1 hzero
    simp [isEmpty, hlimit] at hsome
  refine (hpolls.leaves_run hcalm hflawless hwelcomes hqueue hnamed hwants chance budget).mono
    ?_ ?_ fun _ => id
  · intro _ s₁ hran
    refine (Scene.leaves_of_suits (.of_agree fun _ h => BoundedRead.agree_conclude h _)
      fun hsuits => ?_).mono (fun _ _ => id) (fun _ _ => id) fun _ => id
    obtain ⟨taken, hcollects, hcontent⟩ := hran hsuits
    refine (hcollects.leaves_conclude hcalm hflawless hwelcomes).mono_done ?_
    rintro records s₂ ⟨rfl, hdeparted⟩ _
    exact ⟨taken, hdeparted, hcollects.yields, hcontent⟩
  · intro error s₁ hnot
    exact (Scene.leaves_of_suits (.of_agree fun _ h => BoundedRead.agree_conclude h _)
      fun hsuits => (hnot hsuits).elim).mono (fun _ _ => id) (fun _ _ => id) fun _ => id

/-- A bounded read that returns took exactly what it returned. It does so whatever others publish
meanwhile, however time passes and whichever pauses it makes, if it is alone at a queue of messages
that suit it and no call fails for it. -/
theorem takes_what_it_returns (hcalm : schedule.Publishes) (hflawless : schedule.NeverFails)
    (bounded : BoundedReader α) (hqueue : bounded.source.config.destination = .queue name)
    (hnamed : Text.isBlank name = false)
    (hwelcomes : before.Welcomes bounded.source.config.credentials)
    (hidentified : ∀ message ∈ before.queue name, message.id.isSome) (chance : Nat → Nat)
    (budget : Nat) (journal : Journal)
    {result : Outcome ConnectorError (List (Timestamped α)) × Scene Unit (Clocked Shared)}
    (hresult : bounded.read ((Shared.endpoint schedule).clocked clock) chance budget
      ⟨(), journal, { env := { broker := before } }⟩ = result)
    (hreturns : result.1 ≠ .abandoned)
    (hsuits : result.2.env.env.Suits schedule bounded.source.config name lasts before) :
    ∃ records, result.1 = .done records ∧
      bounded.source.config.Takes name lasts before records result.2.env.env := by
  cases hempty : bounded.isEmpty with
  | true =>
    rw [read, if_pos hempty] at hresult
    subst hresult
    exact ⟨[], rfl, takes_of_isEmpty hempty name lasts before⟩
  | false =>
    have hsome : bounded.source.config.maxNumRecords ≠ some 0 := by simpa [isEmpty] using hempty
    have hvisits : Visits before name {} true { env := { broker := before } } :=
      ⟨Broker.shows_self hidentified, rfl⟩
    have hleft := leaves_read_visiting clock lasts hcalm hflawless hempty hqueue hnamed hwelcomes
      chance budget (s := ⟨(), journal, _⟩) hvisits
    unfold Leaves at hleft
    rw [hresult] at hleft
    obtain ⟨outcome, s⟩ := result
    cases outcome with
    | done records =>
      obtain ⟨taken, hdeparted, hyields, hcontent⟩ := hleft hsuits
      exact ⟨records, rfl, hdeparted.takes hyields hcontent hsome⟩
    | failed error => exact (hleft hsuits).elim
    | abandoned => exact (hreturns rfl).elim

/-- A broker with two orders, of which one expires. -/
def ordersBroker : Broker :=
  .after none [
    (1, .publish (.queue "orders")
      { Message.ofText "A" with id := some ⟨"A"⟩, expiration := 5, timestamp := 1 }),
    (1, .publish (.queue "orders") { Message.ofText "B" with id := some ⟨"B"⟩, timestamp := 2 })]

/-- Two more orders are published when a reader is about to ask for its second message. -/
def growingSchedule : Schedule := fun number =>
  { others := if number = 7 then Reader.publishing "orders" ["C", "D"] else []
    now := 10 }

/-- A read of two orders. -/
def ordersRead : Outcome ConnectorError (List (Timestamped String)) × Scene Unit (Clocked Shared) :=
  (twoTextsOf "orders").read ((Shared.endpoint growingSchedule).clocked id) (fun _ => 0) 4
    ⟨(), {}, { env := { broker := ordersBroker } }⟩

/-- A read of two orders returns one that waited and one that was published meanwhile. It passes
over the order that is expired and leaves the last one. -/
theorem takes_what_it_returns_ordersRead :
    let after := ordersRead.2.env.env
    ordersRead.1 = .done [⟨"B", 2⟩, ⟨"C", 1⟩] ∧
    after.broker.acknowledged = [⟨"B"⟩, ⟨"C"⟩] ∧
    (after.broker.queue "orders").map (·.id) = [some ⟨"D"⟩] ∧
    ∃ records, ordersRead.1 = .done records ∧
      (twoTextsOf "orders").source.config.Takes "orders" (·.expiration = 0) ordersBroker records
        after := by
  have hcalm : growingSchedule.Publishes := Reader.publishes_of_publishing fun _ => rfl
  have hwelcomes : ordersBroker.Welcomes (twoTextsOf "orders").source.config.credentials := by
    constructor <;> decide +kernel
  have hidentified : ∀ message ∈ ordersBroker.queue "orders", message.id.isSome := by
    decide +kernel
  have hfound : (ordersRead.2.env.env.log.zipIdx.all fun entry =>
      (entry.1.before.queue "orders").all fun message =>
        message.isExpired (growingSchedule entry.2).now = !decide (message.expiration = 0)) =
      true := by
    decide +kernel
  have hsuits : ordersRead.2.env.env.Suits growingSchedule (twoTextsOf "orders").source.config
      "orders" (·.expiration = 0) ordersBroker := by
    refine ⟨fun number exchange hexchange message hmessage => ?_, fun _ _ _ => ⟨_, rfl⟩⟩
    have hentry : (exchange, number) ∈ ordersRead.2.env.env.log.zipIdx :=
      List.mem_zipIdx_iff_getElem?.2 hexchange
    simpa using List.all_eq_true.1 (List.all_eq_true.1 hfound _ hentry) message hmessage
  have hreturned : ordersRead.1 = .done [⟨"B", 2⟩, ⟨"C", 1⟩] := by decide +kernel
  have hended : ordersRead.1 ≠ .abandoned := by
    rw [hreturned]
    simp
  exact ⟨hreturned, by decide +kernel, by decide +kernel,
    takes_what_it_returns hcalm (fun _ _ => rfl) (twoTextsOf "orders") rfl (by decide +kernel)
      hwelcomes hidentified (fun _ => 0) 4 {} rfl hended hsuits⟩

end BoundedReader

end BrokerConnector
