import BrokerConnector.Loopback.Run
import BrokerConnector.Proofs.Action
import BrokerConnector.Proofs.Loopback.Roster
import BrokerConnector.Proofs.Settlement

/-!
# What the parts of a loopback do

The calls of readers and of the writer, against a world that holds the broker of a roster. Each call
that ends with a value takes the roster to one that the part reaches (`Roster.Reaches`), and tells
what the part then has: a split the records of the numbers that it took, the writer one record
sent. A call that fails ends the loopback, so nothing is said of what it leaves behind, but for the
releases, whose failures are passed over.
-/

namespace BrokerConnector

open BrokerConnector.Action Crew

/-! ## The world of a loopback -/

/-- A request passes a site without faults. -/
theorem Site.perform_of_faultless (broker : Broker) (now : Int64) (request : BrokerRequest) :
    ({ broker := broker } : Site).perform now request =
      (.ofExcept (broker.perform now request).1, { broker := (broker.perform now request).2 }) := by
  have hguarded : ({ broker := broker } : Site).guarded now request =
      (.ofExcept (broker.perform now request).1, { broker := (broker.perform now request).2 }) := by
    unfold guarded
    split <;> rfl
  cases request with
  | receive consumer =>
    simp only [perform, hguarded]
    split
    · rename_i message site heq
      obtain ⟨houtcome, rfl⟩ := Prod.mk.inj heq
      simp only [strip, Fault.consult_nil, houtcome, Option.isSome_none, Bool.false_eq_true,
        if_false]
    · rfl
  | _ => exact hguarded

namespace World

/-- A broker without faults is at a site of a world, in which nobody else publishes. -/
structure Hosts (site : Nat) (broker : Broker) (world : World) : Prop where
  found : world.sites[site]? = some { broker := broker }
  planned : world.planned = []

variable {site : Nat} {broker : Broker} {world : World}

/-- A world with the same sites and the same plans hosts the same broker. -/
theorem Hosts.of_eq (h : world.Hosts site broker) {other : World}
    (hsites : other.sites = world.sites) (hplanned : other.planned = world.planned) :
    other.Hosts site broker :=
  ⟨by rw [hsites]; exact h.found, hplanned.trans h.planned⟩

/-- A broker without faults answers each request itself. -/
theorem Hosts.perform (h : world.Hosts site broker) (request : BrokerRequest) :
    (world.perform site request).1 = .ofExcept (broker.perform world.timeOfDay request).1 ∧
      (world.perform site request).2.Hosts site (broker.perform world.timeOfDay request).2 := by
  have hlt := (List.getElem?_eq_some_iff.1 h.found).1
  simp only [World.perform, h.found, Site.perform_of_faultless, true_and]
  exact ⟨List.getElem?_set_self hlt, h.planned⟩

/-- An estimator leaves sites and plans alone. -/
theorem sites_startEstimator (world : World) (estimator : EstimatorHandle) :
    (world.startEstimator estimator).2.sites = world.sites ∧
      (world.startEstimator estimator).2.planned = world.planned := by
  unfold startEstimator
  split
  · exact ⟨rfl, rfl⟩
  · split
    · exact ⟨rfl, rfl⟩
    · split <;> exact ⟨rfl, rfl⟩

/-- A request to estimators leaves the broker alone. -/
theorem Hosts.answer_estimator (h : world.Hosts site broker) {request : Request}
    (hother : ∀ asked, request ≠ .broker asked) :
    (answer site request world).2.Hosts site broker := by
  cases request with
  | broker asked => exact (hother asked rfl).elim
  | startEstimator plan =>
    have hsites := sites_startEstimator (world.createEstimator plan).2
      (world.createEstimator plan).1
    simp only [answer]
    split
    · rename_i started hstarted
      rw [hstarted] at hsites
      exact h.of_eq hsites.1 hsites.2
    · exact h
  | stopEstimator estimator =>
    change (world.stopEstimator estimator).Hosts site broker
    unfold stopEstimator
    split
    · exact h
    · exact h.of_eq rfl rfl

/-- While time passes, nothing happens to the broker. -/
theorem Hosts.passUntil (h : world.Hosts site broker) (target budget : Nat) :
    (passUntil target budget world).1.Hosts site broker := by
  -- Only estimators poll when something is due.
  induction budget generalizing world with
  | zero => exact h.of_eq rfl rfl
  | succ budget ih =>
    rw [World.passUntil]
    split
    · exact h.of_eq rfl rfl
    · rename_i due _
      split
      · refine ih ?_
        simp only [fire, publishDue, h.planned, List.filter_nil, List.foldl_nil]
        exact ⟨h.found, rfl⟩
      · exact h.of_eq rfl rfl

theorem Hosts.pass (h : world.Hosts site broker) (milliseconds : Nat) :
    (world.pass milliseconds).1.Hosts site broker :=
  h.passUntil _ _

end World

namespace Loopback

/-! ## Requests -/

/-- A part went from one roster to another, whose broker the world holds. -/
structure Roster.Reaches (exchange : Exchange) (part : Part) (first second : Roster)
    (world : World) : Prop where
  goes : first.Goes exchange part second
  hosts : world.Hosts exchange.site second.broker

variable {exchange : Exchange} {part : Part} {first roster : Roster} {index : Nat}

namespace Roster

theorem Reaches.trans {later : Roster} {world after : World}
    (h : first.Reaches exchange part roster world)
    (h' : roster.Reaches exchange part later after) : first.Reaches exchange part later after :=
  ⟨h.goes.trans h'.goes, h'.hosts⟩

section

variable {ρ : Type} {s : Scene ρ World} {request : BrokerRequest}

/-- A request is granted or refused as the broker of the roster does it. A refusal leaves the broker
as it is. -/
theorem Reaches.leaves_ask (h : first.Reaches exchange part roster s.env)
    {done : request.Answer → Scene ρ World → Prop} {failed : BrokerError → Scene ρ World → Prop}
    {dropped : Scene ρ World → Prop}
    (granted : ∀ now answer after env,
      roster.broker.perform now request = (.ok answer, after) → env.Hosts exchange.site after →
        done answer { s with env := env })
    (refused : ∀ now error env, (roster.broker.perform now request).1 = .error error →
      first.Reaches exchange part roster env → failed error { s with env := env }) :
    Leaves (Scene.ask (World.endpoint exchange.site) (.broker request)) s done failed dropped := by
  obtain ⟨houtcome, hosts⟩ := h.hosts.perform request
  rcases hreply : roster.broker.perform s.env.timeOfDay request with ⟨reply, after⟩
  rw [hreply] at houtcome hosts
  refine Scene.leaves_ask ?_ ?_ ?_
  · intro answer env hanswer
    obtain ⟨hfirst, rfl⟩ := Prod.mk.inj
      (show s.env.perform exchange.site request = (.done answer, env) from hanswer)
    cases reply with
    | ok given =>
      obtain rfl := Outcome.done.inj (hfirst.symm.trans houtcome)
      exact granted _ answer after _ hreply hosts
    | error error => cases hfirst.symm.trans houtcome
  · intro error env hanswer
    obtain ⟨hfirst, rfl⟩ := Prod.mk.inj
      (show s.env.perform exchange.site request = (.failed error, env) from hanswer)
    cases reply with
    | ok given => cases hfirst.symm.trans houtcome
    | error given =>
      obtain rfl := Outcome.failed.inj (hfirst.symm.trans houtcome)
      have hrefused := congrArg Prod.fst hreply
      have hsame := Broker.perform_of_refused hrefused
      rw [hreply] at hsame
      obtain rfl : after = roster.broker := hsame
      exact refused _ error _ hrefused ⟨h.goes, hosts⟩
  · intro env hanswer
    obtain ⟨hfirst, rfl⟩ := Prod.mk.inj
      (show s.env.perform exchange.site request = (.abandoned, env) from hanswer)
    cases reply with
    | ok given => cases hfirst.symm.trans houtcome
    | error given => cases hfirst.symm.trans houtcome

/-- A step of a setup is granted, or the setup fails. -/
theorem Reaches.leaves_setupStep (h : first.Reaches exchange part roster s.env) (step : SetupStep)
    {done : request.Answer → Scene ρ World → Prop} {dropped : Scene ρ World → Prop}
    (granted : ∀ now answer after env,
      roster.broker.perform now request = (.ok answer, after) → env.Hosts exchange.site after →
        done answer { s with env := env }) :
    Leaves (setupStep (World.endpoint exchange.site) step (.broker request)) s done
      (fun _ _ => True) dropped := by
  unfold setupStep
  rw [leaves_mapError]
  exact h.leaves_ask granted fun _ _ _ _ _ => trivial

/-- A release is granted or not. The roster stays as it is but for the broker, to which nothing is
sent. -/
theorem Reaches.leaves_release (h : first.Reaches exchange part roster s.env)
    (told : BrokerError → Notice)
    (hsend : ∀ producer destination message, request ≠ .send producer destination message)
    (hgoes : ∀ now answer after, roster.broker.perform now request = (.ok answer, after) →
      roster.Goes exchange part { roster with broker := after })
    {done : List BrokerError → Scene ρ World → Prop}
    {failed : ConnectorError → Scene ρ World → Prop} {dropped : Scene ρ World → Prop}
    (hdone : ∀ failures broker journal env,
      first.Reaches exchange part { roster with broker := broker } env →
        broker.messageCount = roster.broker.messageCount →
          done failures { s with journal := journal, env := env }) :
    Leaves (Scene.release (World.endpoint exchange.site) (.broker request) told) s done failed
      dropped := by
  rw [Scene.leaves_release]
  refine h.leaves_ask ?_ ?_
  · intro now answer after env hgranted hosts
    have hcount := (roster.broker.accepted_perform now request hsend).2
    rw [hgranted] at hcount
    exact hdone [] after s.journal env ⟨h.goes.trans (hgoes now answer after hgranted), hosts⟩
      hcount
  · intro now error env _ hreaches
    exact hdone [error] roster.broker _ env hreaches rfl

/-- A request to estimators leaves the roster alone, whatever comes of it. -/
theorem Reaches.leaves_estimator (h : first.Reaches exchange part roster s.env) {request : Request}
    (hother : ∀ asked, request ≠ .broker asked)
    {done : request.Answer → Scene ρ World → Prop} {failed : BrokerError → Scene ρ World → Prop}
    (answered : ∀ answer env, first.Reaches exchange part roster env →
      done answer { s with env := env })
    (refused : ∀ error env, first.Reaches exchange part roster env →
      failed error { s with env := env }) :
    Leaves (Scene.ask (World.endpoint exchange.site) request) s done failed fun _ => True := by
  have hosts : ∀ outcome env,
      (World.endpoint exchange.site).answer request s.env = (outcome, env) →
        first.Reaches exchange part roster env := by
    intro outcome env hanswer
    have := h.hosts.answer_estimator hother
    rw [show World.answer exchange.site request s.env = (outcome, env) from hanswer] at this
    exact ⟨h.goes, this⟩
  exact Scene.leaves_ask (fun answer env hanswer => answered answer env (hosts _ _ hanswer))
    (fun error env hanswer => refused error env (hosts _ _ hanswer)) fun _ _ => trivial

end

/-! ## Links -/

/-- A part prepares itself: it sends nothing, takes nothing and does not subscribe. -/
structure Prepares (exchange : Exchange) (part : Part) (first second : Roster)
    (world : World) : Prop where
  reaches : first.Reaches exchange part second world
  count : second.broker.messageCount = first.broker.messageCount
  consumers : second.broker.consumers = first.broker.consumers
  taken : second.taken = first.taken

/-- A request that prepares was granted. -/
theorem Prepares.next {world after : World} {now : Int64} {request : BrokerRequest}
    {answer : request.Answer} {later : Roster} (h : first.Prepares exchange part roster world)
    (hpreparing : request.isPreparing = true)
    (hgranted : roster.broker.perform now request = (.ok answer, later.broker))
    (hgoes : roster.Goes exchange part later) (htaken : later.taken = roster.taken)
    (hosts : after.Hosts exchange.site later.broker) :
    first.Prepares exchange part later after := by
  obtain ⟨hcount, hconsumers⟩ := roster.broker.perform_of_preparing now hpreparing
  rw [hgranted] at hcount hconsumers
  exact ⟨⟨h.reaches.goes.trans hgoes, hosts⟩, hcount.trans h.count,
    hconsumers.trans h.consumers, htaken.trans h.taken⟩

/-- A request about a connection or a name was granted. -/
theorem Prepares.plain {world after : World} {now : Int64} {request : BrokerRequest}
    {answer : request.Answer} {broker : Broker} (h : first.Prepares exchange part roster world)
    (hplain : request.isPlain = true)
    (hgranted : roster.broker.perform now request = (.ok answer, broker))
    (hosts : after.Hosts exchange.site broker) :
    first.Prepares exchange part { roster with broker := broker } after := by
  have hpreparing : request.isPreparing = true := by
    cases request <;> first | rfl | cases hplain
  exact h.next hpreparing hgranted
    (h.reaches.goes.valid.goes_plain hplain (congrArg Prod.snd hgranted)) rfl hosts

/-- Whoever acquires a link sits at its session, which is open. -/
theorem Prepares.leaves_acquire {s : Scene Link World}
    (h : first.Prepares exchange part roster s.env) (credentials : Option Credentials)
    (mode : AcknowledgeMode) :
    Leaves (Link.acquire (World.endpoint exchange.site) credentials mode) s
      (fun handle s' => s'.client.session = some handle ∧
        ∃ later session, first.Prepares exchange part later s'.env ∧
          later.seats handle.index = some (part, []) ∧
          later.broker.sessions[handle.index]? = some session ∧ session.closed = false)
      (fun _ _ => True) (fun _ => True) := by
  simp only [Link.acquire, leaves_bind, Scene.leaves_modify, leaves_pure]
  refine h.reaches.leaves_setupStep _ fun _ connection broker env hconnect hosts => ?_
  have hconnected := h.plain rfl hconnect hosts
  refine hconnected.reaches.leaves_setupStep _ fun _ _ broker env hstart hosts => ?_
  have hstarted := hconnected.plain rfl hstart hosts
  refine hstarted.reaches.leaves_setupStep _ fun _ handle broker env hcreate hosts => ?_
  exact ⟨trivial, _, _,
    hstarted.next rfl hcreate (hstarted.reaches.goes.valid.goes_createSession hcreate) rfl hosts,
    seats_seat, (Broker.sessions_of_createSession hcreate).1, rfl⟩

/-- A part gives back what it has: the roster is as it was but for the broker, to which nothing was
sent. -/
def GivesBack (exchange : Exchange) (part : Part) (first roster : Roster) (world : World) : Prop :=
  ∃ after : Broker, first.Reaches exchange part { roster with broker := after } world ∧
    after.messageCount = roster.broker.messageCount

/-- Whoever releases a connection gives it back. -/
theorem GivesBack.leaves_releaseConnection {s : Scene Link World}
    (h : first.GivesBack exchange part roster s.env) :
    Leaves (Link.releaseConnection (World.endpoint exchange.site)) s
      (fun _ s' => first.GivesBack exchange part roster s'.env) (fun _ _ => False)
      (fun _ => True) := by
  obtain ⟨link, journal, env⟩ := s
  obtain ⟨broker, h, hcount⟩ := h
  dsimp only at h
  simp only [Link.releaseConnection, leaves_bind, Scene.leaves_get]
  cases link.connection with
  | none => exact ⟨broker, h, hcount⟩
  | some connection =>
    simp only [leaves_bind, Scene.leaves_modify, leaves_pure]
    refine h.leaves_release _ (by simp) ?_ ?_
    · exact fun _ _ _ hgranted => h.goes.valid.goes_plain rfl (congrArg Prod.snd hgranted)
    · intro _ stopped _ env h hstopped
      refine h.leaves_release _ (by simp) ?_ ?_
      · exact fun _ _ _ hgranted => h.goes.valid.goes_plain rfl (congrArg Prod.snd hgranted)
      · exact fun _ closed _ env h hclosed =>
          ⟨closed, h, hclosed.trans (hstopped.trans hcount)⟩

/-- Whoever releases a link with nothing left to acknowledge puts nothing back. -/
theorem Reaches.leaves_releaseLink {s : Scene Link World}
    (h : first.Reaches exchange part roster s.env)
    (hseat : ∀ handle, s.client.session = some handle →
      roster.seats handle.index = some (part, [])) :
    Leaves (Link.release (World.endpoint exchange.site)) s
      (fun _ s' => first.GivesBack exchange part roster s'.env) (fun _ _ => False)
      (fun _ => True) := by
  obtain ⟨link, journal, env⟩ := s
  dsimp only at h hseat
  simp only [Link.release, leaves_bind, leaves_pure, Link.releaseSession, Scene.leaves_get]
  cases hsession : link.session with
  | none => exact GivesBack.leaves_releaseConnection ⟨_, h, rfl⟩
  | some handle =>
    simp only [leaves_bind, Scene.leaves_modify]
    refine h.leaves_release _ (by simp) ?_ ?_
    · exact fun _ _ _ hgranted => h.goes.valid.goes_closeSession (hseat handle hsession) hgranted
    · exact fun _ _ _ _ h hcount => GivesBack.leaves_releaseConnection ⟨_, h, hcount⟩

/-! ## Marks -/

/-- When all entries of a list were settled, nothing waits at the session any longer. -/
theorem Reaches.leaves_settle {s : Scene Mark World} {handle : SessionHandle}
    (entries : List PendingDelivery) (h : first.Reaches exchange part roster s.env)
    (hseat : roster.seats handle.index = some (part, entries.map (·.id))) :
    Leaves (Mark.settle (World.endpoint exchange.site) handle entries) s
      (fun settlement s' => settlement.failure = none → ∃ later,
        first.Reaches exchange part later s'.env ∧ later.taken = roster.taken ∧
          later.seats handle.index = some (part, []))
      (fun _ _ => True) (fun _ => True) := by
  induction entries generalizing s roster with
  | nil => exact fun _ => ⟨roster, h, rfl, hseat⟩
  | cons entry rest ih =>
    simp only [Mark.settle, leaves_bind, leaves_attempt]
    refine h.leaves_ask ?_ ?_
    · intro _ _ after env hgranted hosts
      have hreaches : first.Reaches exchange part
          (roster.seat part handle.index (rest.map (·.id)) after) env :=
        ⟨h.goes.trans (h.goes.valid.goes_acknowledge hseat hgranted), hosts⟩
      refine (ih hreaches seats_seat).mono_done ?_
      exact fun others s' hothers => hothers
    · intro _ error env hrefused h
      split
      · rename_i hnot
        have hreaches : first.Reaches exchange part
            (roster.seat part handle.index (rest.map (·.id)) roster.broker) env :=
          ⟨h.goes.trans (h.goes.valid.goes_notPending hseat hrefused hnot), h.hosts⟩
        simp only [leaves_bind, Scene.leaves_note]
        refine (ih hreaches seats_seat).mono_done ?_
        exact fun others s' hothers => hothers
      · exact fun hfailure => by cases hfailure

/-- When a mark was finalized, nothing waits at its session any longer. -/
theorem Reaches.leaves_finalize {s : Scene Mark World} {handle : SessionHandle}
    (h : first.Reaches exchange part roster s.env) (hsession : s.client.session = some handle)
    (hseat : roster.seats handle.index = some (part, s.client.pending.map (·.id))) :
    Leaves (Mark.finalize (World.endpoint exchange.site)) s
      (fun _ s' => ∃ later, first.Reaches exchange part later s'.env ∧
        later.taken = roster.taken ∧ later.seats handle.index = some (part, []))
      (fun _ _ => True) (fun _ => True) := by
  simp only [Mark.finalize, leaves_bind, Scene.leaves_get]
  split
  · rename_i hempty
    rw [List.isEmpty_iff.1 hempty] at hseat
    exact ⟨roster, h, rfl, hseat⟩
  · simp only [hsession, leaves_bind, Scene.leaves_modifyJournaled, Scene.leaves_count]
    refine (h.leaves_settle _ hseat).mono_done ?_
    intro settlement s' hsettled
    cases hfailure : settlement.failure with
    | some error => trivial
    | none => exact hsettled hfailure

/-! ## Readers -/

/-- A reader is at work for a split, and what is listed in its mark waits at its session. -/
structure Reads (roster : Roster) (index : Nat) (reader : Reader Record) : Prop where
  mapper : reader.config.mapper = Record.mapper
  state : reader.state = .consuming
  skipped : reader.skipped = []
  seated : ∃ handle consumer of, reader.link.session = some handle ∧
    reader.mark.session = some handle ∧ reader.consumer = some consumer ∧
      roster.seats handle.index = some (.split index, reader.mark.pending.map (·.id)) ∧
        roster.broker.consumers[consumer.index]? = some of ∧ of.session = handle.index

/-- A reader is about to start for a split. -/
structure Awaits (exchange : Exchange) (roster : Roster) (index : Nat)
    (reader : Reader Record) : Prop where
  created : reader = Reader.create reader.config none
  mapper : reader.config.mapper = Record.mapper
  destination : reader.config.destination = exchange.read
  taken : own index roster.taken = []
  /-- Nobody subscribes before it to a topic. -/
  alone : exchange.read.isTopic = true → roster.broker.consumers = []

/-- A record is told apart by what the record of a number is. -/
structure IsRecord (number : Nat) (record : Timestamped Record) : Prop where
  id : record.value.messageId = (Broker.messageIdOf (number + 1)).text
  payload : record.value.payload = "record-" ++ toString number

/-- The message of a number is mapped to its record. -/
theorem isRecord_of_mapper {message : Message} {number : Nat} {value : Record}
    (hlabel : labelOf message = numbered number) (hmapped : Record.mapper message = .ok value) :
    IsRecord number ⟨value, message.timestamp⟩ := by
  have hid : message.id = some (Broker.messageIdOf (number + 1)) := congrArg Prod.fst hlabel
  have htext : message.text? = some ("record-" ++ toString number) := congrArg Prod.snd hlabel
  cases hdestination : message.destination with
  | none => simp [Record.mapper, Record.ofMessage, hid, hdestination, Except.mapError] at hmapped
  | some destination =>
    simp only [Record.mapper, Record.ofMessage, hid, hdestination, htext] at hmapped
    obtain rfl := Except.ok.inj hmapped
    exact ⟨rfl, rfl⟩

/-- What a split has when a call looked for a message: the numbers that it took, with the record
that is current if there is one. -/
structure Looked (exchange : Exchange) (index : Nat) (first roster : Roster) (found : Bool)
    (s : Scene (Reader Record) World) : Prop where
  at_work : ∃ later numbers, first.Reaches exchange (.split index) later s.env ∧
    later.Reads index s.client ∧ own index later.taken = own index roster.taken ++ numbers ∧
      List.Forall₂ IsRecord numbers (if found then s.client.current.toList else [])

/-- A reader at work looks for its next message. -/
theorem Reaches.leaves_advance {s : Scene (Reader Record) World}
    (h : first.Reaches exchange (.split index) roster s.env)
    (hreads : roster.Reads index s.client) :
    Leaves (Reader.advance (World.endpoint exchange.site)) s
      (fun found s' => Looked exchange index first roster found s') (fun _ _ => True)
      (fun _ => True) := by
  obtain ⟨reader, journal, env⟩ := s
  obtain ⟨hmapper, hstate, hskipped, handle, consumer, of, hlink, hmark, hconsumer, hseat, hof,
    hindex⟩ := hreads
  dsimp only at h hmapper hstate hskipped hlink hmark hconsumer hseat
  simp only [Reader.advance, leaves_bind, Scene.leaves_get, hstate, ne_eq, not_true_eq_false,
    if_false, Scene.leaves_modify, hconsumer, hskipped, List.length_nil]
  unfold Reader.poll
  rw [leaves_bind, leaves_mapError]
  refine h.leaves_ask ?_ fun _ _ _ _ _ => trivial
  intro now answer after env hgranted hosts
  rw [← hindex] at hseat
  have hreceived := h.goes.valid.goes_receive hseat hof hgranted
  cases answer with
  | none =>
    refine ⟨_, [], ⟨h.goes.trans hreceived, hosts⟩, ?_, (List.append_nil _).symm, .nil⟩
    obtain ⟨later, hlater, hsession⟩ := hreceived.consumers _ _ hof
    exact ⟨hmapper, rfl, rfl, handle, consumer, later, hlink, hmark, rfl, hindex ▸ hseat,
      hlater, hsession.trans hindex⟩
  | some message =>
    obtain ⟨number, hlabel, hgoes⟩ := hreceived
    -- The loopback numbers its messages, so the label of the message tells its identifier.
    have hid : message.id = some (Broker.messageIdOf (number + 1)) := congrArg Prod.fst hlabel
    obtain ⟨later, hlater, hsession⟩ := hgoes.consumers _ _ hof
    simp only [hid, leaves_bind, Scene.leaves_modifyJournaled, Reader.emit, Scene.leaves_get,
      Reader.track, Mark.add, hmapper]
    cases hmapped : Record.mapper message with
    | error reason => trivial
    | ok value =>
      simp only [leaves_bind, Scene.leaves_count, Scene.leaves_modify, leaves_pure]
      refine ⟨_, [number], ⟨h.goes.trans hgoes, hosts⟩, ?_, ?_, ?_⟩
      · refine ⟨hmapper, rfl, rfl, handle, consumer, later, hlink, hmark, rfl, ?_, hlater,
          hsession.trans hindex⟩
        rw [← hindex]
        simp
      · exact roster.own_take index [number] after
      · exact .cons (isRecord_of_mapper hlabel hmapped) .nil

/-- A consumer is released, or its release is passed over. The link stays. -/
theorem Reaches.leaves_releaseConsumer {s : Scene (Reader Record) World}
    (h : first.Reaches exchange (.split index) roster s.env) :
    Leaves (Reader.releaseConsumer (World.endpoint exchange.site)) s
      (fun _ s' => s'.client.link = s.client.link ∧
        first.GivesBack exchange (.split index) roster s'.env)
      (fun _ _ => False) (fun _ => True) := by
  obtain ⟨reader, journal, env⟩ := s
  dsimp only at h
  simp only [Reader.releaseConsumer, leaves_bind, Scene.leaves_get]
  cases reader.consumer with
  | none => exact ⟨rfl, roster.broker, h, rfl⟩
  | some consumer =>
    simp only [leaves_bind, Scene.leaves_modify]
    refine h.leaves_release _ (by simp) ?_ fun _ after _ _ h hcount => ⟨rfl, after, h, hcount⟩
    exact fun _ _ _ hgranted => h.goes.valid.goes_closeConsumer hgranted

/-- An estimator is released, whatever comes of it. -/
theorem Reaches.leaves_releaseEstimator {s : Scene (Reader Record) World}
    (h : first.Reaches exchange part roster s.env) :
    Leaves (Reader.releaseEstimator (World.endpoint exchange.site)) s
      (fun _ s' => first.Reaches exchange part roster s'.env) (fun _ _ => False)
      (fun _ => True) := by
  obtain ⟨reader, journal, env⟩ := s
  dsimp only at h
  simp only [Reader.releaseEstimator, leaves_bind, Scene.leaves_get]
  cases reader.estimator with
  | none => exact h
  | some estimator =>
    simp only [leaves_bind, Scene.leaves_modify, leaves_attempt]
    exact h.leaves_estimator (by simp) (fun _ _ h => h) fun _ _ h => h

/-- A reader that is closed with nothing left to acknowledge puts nothing back, whether it can
release everything or not. -/
theorem Reaches.leaves_close {s : Scene (Reader Record) World}
    (h : first.Reaches exchange (.split index) roster s.env)
    (hseat : ∀ handle, s.client.link.session = some handle →
      roster.seats handle.index = some (.split index, [])) :
    Leaves (Reader.close (World.endpoint exchange.site)) s
      (fun _ s' => first.GivesBack exchange (.split index) roster s'.env)
      (fun _ s' => first.GivesBack exchange (.split index) roster s'.env)
      (fun _ => True) := by
  simp only [Reader.close, leaves_bind]
  refine h.leaves_releaseConsumer.mono ?_ (fun _ _ => False.elim) (fun _ => id)
  rintro ofConsumer s' ⟨hlink, closed, h, hclosed⟩
  simp only [Reader.withLink, Scene.leaves_within]
  refine Leaves.mono (h.leaves_releaseLink (hlink ▸ hseat)) ?_ (fun _ _ => False.elim) (fun _ => id)
  rintro ofLink s' ⟨released, h, hreleased⟩
  refine Leaves.mono (Reaches.leaves_releaseEstimator h) ?_ (fun _ _ => False.elim) (fun _ => id)
  intro _ s' h
  simp only [Scene.leaves_modifyJournaled]
  split
  · exact ⟨released, h, hreleased.trans hclosed⟩
  · exact ⟨released, h, hreleased.trans hclosed⟩

/-- A reader that acquires its resources sits at a session and subscribes. -/
theorem Awaits.leaves_acquire {s : Scene (Reader Record) World} {reader : Reader Record}
    (h : roster.Awaits exchange index reader)
    (hclient : s.client = { reader with state := .connecting })
    (hvalid : roster.Valid exchange) (hosts : s.env.Hosts exchange.site roster.broker) :
    Leaves (Reader.acquire (World.endpoint exchange.site)) s
      (fun _ s' => ∃ later, roster.Reaches exchange (.split index) later s'.env ∧
        later.taken = roster.taken ∧ later.Reads index { s'.client with state := .consuming })
      (fun _ _ => True) (fun _ => True) := by
  obtain ⟨client, journal, env⟩ := s
  dsimp only at hclient hosts
  subst hclient
  obtain ⟨hcreated, hmapper, hdestination, htaken, halone⟩ := h
  have hskipped : reader.skipped = [] := congrArg Reader.skipped hcreated
  have hmark : reader.mark = {} := congrArg Reader.mark hcreated
  have hprepares : roster.Prepares exchange (.split index) roster env :=
    ⟨⟨hvalid.goes, hosts⟩, rfl, rfl, rfl⟩
  simp only [Reader.acquire, leaves_bind, Scene.leaves_get, Reader.withLink, Scene.leaves_within]
  refine Leaves.mono_done (hprepares.leaves_acquire _ _) ?_
  rintro handle ⟨link, journal', env'⟩ ⟨hsession, later, session, hprepares, hseat, -, -⟩
  dsimp only at hsession hprepares
  refine hprepares.reaches.leaves_setupStep _ fun _ resolved broker env hresolved hosts => ?_
  obtain rfl := (Broker.named_of_resolve hresolved).2.1.trans hdestination
  have hprepares := hprepares.plain rfl hresolved hosts
  refine hprepares.reaches.leaves_setupStep _ fun _ consumer broker env hcreated hosts => ?_
  have hsubscribed : roster.Reaches exchange (.split index)
      { later with broker := broker } env :=
    ⟨hprepares.reaches.goes.trans (hprepares.reaches.goes.valid.goes_createConsumer
      (fun htopic => hprepares.consumers.trans (halone htopic)) hcreated), hosts⟩
  obtain ⟨of, hof, -, hindex⟩ := Broker.consumers_of_createConsumer hcreated
  simp only [Scene.leaves_modify, Scene.leaves_modifyJournaled, setupStep, leaves_mapError]
  refine hsubscribed.leaves_estimator (by simp) (fun estimator env h => ?_) fun _ _ _ => trivial
  refine ⟨_, h, hprepares.taken, ?_⟩
  refine ⟨hmapper, rfl, ?_, handle, consumer, of, hsession, rfl, rfl, ?_, hof, hindex⟩
  · simp [Reader.attach, Mark.stale, hmark, hskipped]
  · simpa [Reader.attach, Mark.attach, hmark] using hseat

/-- A reader that starts looks for its first message. -/
theorem Awaits.leaves_start {s : Scene (Reader Record) World}
    (h : roster.Awaits exchange index s.client)
    (hvalid : roster.Valid exchange) (hosts : s.env.Hosts exchange.site roster.broker) :
    Leaves (Reader.start (World.endpoint exchange.site)) s
      (fun found s' => Looked exchange index roster roster found s') (fun _ _ => True)
      (fun _ => True) := by
  have hstate : s.client.state = .uninitialized := by rw [h.created]; rfl
  simp only [Reader.start, leaves_bind, Scene.leaves_get, hstate, ne_eq, not_true_eq_false,
    if_false, Scene.leaves_modify, leaves_attempt]
  refine Leaves.mono (h.leaves_acquire rfl hvalid hosts) ?_ ?_ (fun _ => id)
  · rintro _ ⟨reader, journal, env⟩ ⟨later, hreaches, htaken, hreads⟩
    dsimp only at hreaches hreads
    refine Leaves.mono_done (hreaches.leaves_advance hreads) ?_
    rintro found s' ⟨last, numbers, hlast, hreads, hnumbers, hrecords⟩
    exact ⟨last, numbers, hlast, hreads, htaken ▸ hnumbers, hrecords⟩
  · intro error s' _
    simp only [Scene.leaves_note, leaves_fail]
    exact .of_forall (fun _ _ => trivial) (fun _ _ => trivial) fun _ => trivial

/-- What a reader took is acknowledged when it is finalized. -/
theorem Reaches.leaves_finalizeReader {s : Scene (Reader Record) World}
    (h : first.Reaches exchange (.split index) roster s.env)
    (hreads : roster.Reads index s.client) :
    Leaves (Reader.finalize (World.endpoint exchange.site)) s
      (fun _ s' => ∃ later, first.Reaches exchange (.split index) later s'.env ∧
        later.taken = roster.taken ∧ ∀ handle, s'.client.link.session = some handle →
          later.seats handle.index = some (.split index, []))
      (fun _ _ => True) (fun _ => True) := by
  obtain ⟨reader, journal, env⟩ := s
  obtain ⟨-, -, -, handle, consumer, of, hlink, hmark, -, hseat, -, -⟩ := hreads
  dsimp only at h hlink hmark hseat
  simp only [Reader.finalize, Scene.leaves_within]
  refine Leaves.mono_done (h.leaves_finalize hmark hseat) ?_
  rintro _ s' ⟨later, hlater, htaken, hsettled⟩
  refine ⟨later, hlater, htaken, fun other hother => ?_⟩
  obtain rfl := Option.some.inj (hlink.symm.trans hother)
  exact hsettled

/-! ## Bounded reads -/

/-- A read is under way for a split, and its records are those of the numbers that it took. -/
structure Gathers (roster : Roster) (index : Nat) (read : BoundedRead Record) : Prop where
  reads : roster.Reads index read.reader
  records : List.Forall₂ IsRecord (own index roster.taken) read.records

/-- A read goes on for a split. It may have to start its reader. -/
def Follows (exchange : Exchange) (roster : Roster) (index : Nat) (read : BoundedRead Record) :
    Prop :=
  (roster.Awaits exchange index read.reader ∧ read.records = []) ∨ roster.Gathers index read

/-- A read that looks for a message gathers its record. -/
theorem Follows.leaves_collect {s : Scene (BoundedRead Record) World}
    (h : roster.Follows exchange index s.client) (hvalid : roster.Valid exchange)
    (hosts : s.env.Hosts exchange.site roster.broker) :
    Leaves (BoundedRead.collect (World.endpoint exchange.site)) s
      (fun _ s' => ∃ later, roster.Reaches exchange (.split index) later s'.env ∧
        later.Gathers index s'.client)
      (fun _ _ => True) (fun _ => True) := by
  obtain ⟨read, journal, env⟩ := s
  dsimp only at h hosts
  have hrecords : List.Forall₂ IsRecord (own index roster.taken) read.records := by
    rcases h with ⟨hawaits, hnone⟩ | hgathers
    · rw [hawaits.taken, hnone]
      exact .nil
    · exact hgathers.records
  -- The split is asked for the first time here, or it has a reader already.
  have hlook : Leaves (if read.reader.state = .uninitialized
        then Reader.start (World.endpoint exchange.site)
        else Reader.advance (World.endpoint exchange.site))
      ⟨read.reader, journal, env⟩ (fun found s' => Looked exchange index roster roster found s')
      (fun _ _ => True) (fun _ => True) := by
    rcases h with ⟨hawaits, -⟩ | hgathers
    · rw [if_pos (by rw [hawaits.created]; rfl)]
      exact hawaits.leaves_start hvalid hosts
    · rw [if_neg (by rw [hgathers.reads.state]; decide)]
      have hreaches : roster.Reaches exchange (.split index) roster env := ⟨hvalid.goes, hosts⟩
      exact hreaches.leaves_advance hgathers.reads
  simp only [BoundedRead.collect, leaves_bind, Scene.leaves_get, BoundedRead.withReader,
    Scene.leaves_within]
  refine hlook.mono_done ?_
  rintro found ⟨reader, journal, env⟩ ⟨later, numbers, hreaches, hreads, hown, hmore⟩
  dsimp only at hreaches hreads hmore
  cases found with
  | false =>
    refine ⟨later, hreaches, hreads, ?_⟩
    obtain rfl := List.forall₂_nil_right_iff.1 hmore
    rwa [hown, List.append_nil]
  | true =>
    simp only [if_true, leaves_bind, Scene.leaves_get, Reader.leaves_current] at hmore ⊢
    cases hcurrent : reader.current with
    | none => trivial
    | some current =>
      rw [hcurrent] at hmore
      simp only [Scene.leaves_modify, leaves_pure]
      refine ⟨later, hreaches, hreads, ?_⟩
      rw [hown]
      exact List.rel_append hrecords hmore

/-- A read that polls gathers the records of the numbers that it took. -/
theorem Follows.leaves_poll {s : Scene (BoundedRead Record) World}
    (h : roster.Follows exchange index s.client) (hvalid : roster.Valid exchange)
    (hosts : s.env.Hosts exchange.site roster.broker) (chance : Nat) :
    Leaves (BoundedRead.poll (World.endpoint exchange.site) chance) s
      (fun _ s' => ∃ later, roster.Reaches exchange (.split index) later s'.env ∧
        later.Gathers index s'.client)
      (fun _ _ => True) (fun _ => True) := by
  simp only [BoundedRead.poll, leaves_bind]
  refine (h.leaves_collect hvalid hosts).mono_done ?_
  rintro found s' ⟨later, hreaches, hgathers⟩
  simp only [Scene.leaves_clock, Scene.leaves_get]
  split
  · exact ⟨later, hreaches, hgathers.reads, hgathers.records⟩
  · exact ⟨later, hreaches, hgathers⟩

/-- A read gathers records until it pauses or is over. -/
theorem Follows.leaves_untilPause {s : Scene (BoundedRead Record) World}
    (h : roster.Follows exchange index s.client) (hvalid : roster.Valid exchange)
    (hosts : s.env.Hosts exchange.site roster.broker) (chance budget : Nat) :
    Leaves (BoundedRead.untilPause (World.endpoint exchange.site) chance budget) s
      (fun _ s' => ∃ later, roster.Reaches exchange (.split index) later s'.env ∧
        later.Gathers index s'.client)
      (fun _ _ => True) (fun _ => True) := by
  induction budget generalizing s roster with
  | zero => trivial
  | succ budget ih =>
    simp only [BoundedRead.untilPause, leaves_bind]
    refine (h.leaves_poll hvalid hosts chance).mono_done ?_
    rintro turn s' ⟨later, hreaches, hgathers⟩
    cases turn with
    | finish => exact ⟨later, hreaches, hgathers⟩
    | pauseFor milliseconds => exact ⟨later, hreaches, hgathers⟩
    | pollAgain =>
      refine (ih (.inr hgathers) hreaches.goes.valid hreaches.hosts).mono_done ?_
      rintro _ s'' ⟨last, hlast, hgathers⟩
      exact ⟨last, hreaches.trans hlast, hgathers⟩

/-- A read that is over keeps what it gathered, and nothing is left to acknowledge. -/
theorem Gathers.leaves_conclude {s : Scene (BoundedRead Record) World}
    (h : roster.Gathers index s.client) (hvalid : roster.Valid exchange)
    (hosts : s.env.Hosts exchange.site roster.broker) :
    Leaves (BoundedRead.conclude (World.endpoint exchange.site) (.ok ())) s
      (fun records s' => ∃ later, roster.Reaches exchange (.split index) later s'.env ∧
        List.Forall₂ IsRecord (own index later.taken) records)
      (fun _ _ => True) (fun _ => True) := by
  obtain ⟨read, journal, env⟩ := s
  dsimp only at h hosts
  have hreaches : roster.Reaches exchange (.split index) roster env := ⟨hvalid.goes, hosts⟩
  simp only [BoundedRead.conclude, leaves_bind, leaves_attempt, BoundedRead.withReader,
    Scene.leaves_within]
  refine Leaves.mono (hreaches.leaves_finalizeReader h.reads) ?_ ?_ (fun _ => id)
  · -- Everything was acknowledged, so closing puts nothing back.
    rintro count ⟨reader, journal, env⟩ ⟨later, hlater, htaken, hseat⟩
    dsimp only at hlater hseat
    have hkept : List.Forall₂ IsRecord (own index later.taken) read.records := by
      rw [htaken]
      exact h.records
    refine Leaves.mono (Reaches.leaves_close hlater hseat) ?_ ?_ (fun _ => id)
    · rintro _ s' ⟨after, hafter, -⟩
      exact ⟨_, hafter, hkept⟩
    · rintro failure s' ⟨after, hafter, -⟩
      exact ⟨_, hafter, hkept⟩
  · intro error s' _
    simp only [leaves_fail, Scene.leaves_note]
    exact .of_forall (fun _ _ => trivial) (fun _ _ => trivial) fun _ => trivial

/-- A read that failed ends with its failure. -/
theorem leaves_conclude_failed (s : Scene (BoundedRead Record) World) (error : ConnectorError)
    {done : List (Timestamped Record) → Scene (BoundedRead Record) World → Prop} :
    Leaves (BoundedRead.conclude (World.endpoint exchange.site) (.error error)) s done
      (fun _ _ => True) (fun _ => True) := by
  simp only [BoundedRead.conclude, leaves_bind, leaves_attempt, leaves_pure, leaves_fail,
    Scene.leaves_note]
  exact .of_forall (fun _ _ => trivial) (fun _ _ => trivial) fun _ => trivial

/-! ## The writer -/

/-- A writer can send: it sits at an open session with a producer of its own. -/
structure Writes (exchange : Exchange) (roster : Roster) (writer : Writer String) : Prop where
  destination : writer.config.destination = .fixed exchange.write
  mapper : writer.config.mapper = messageOf
  fixed : writer.fixedDestination = some exchange.write
  failures : writer.failures.records = []
  seated : ∃ handle producer session, writer.link.session = some handle ∧
    writer.producer = some producer ∧ roster.seats handle.index = some (.writer, []) ∧
      roster.broker.producers[producer.index]? = some { bound := none, session := handle.index } ∧
        roster.broker.sessions[handle.index]? = some session ∧ session.closed = false

/-- A writer that acquires its resources can send. -/
theorem Prepares.leaves_acquireWriter {s : Scene (Writer String) World}
    (h : first.Prepares exchange .writer roster s.env)
    (hdestination : s.client.config.destination = .fixed exchange.write)
    (hmapper : s.client.config.mapper = messageOf) (hfailures : s.client.failures.records = []) :
    Leaves (Writer.acquire (World.endpoint exchange.site)) s
      (fun _ s' => ∃ later, first.Prepares exchange .writer later s'.env ∧
        later.Writes exchange s'.client)
      (fun _ _ => True) (fun _ => True) := by
  obtain ⟨writer, journal, env⟩ := s
  dsimp only at h hdestination hmapper hfailures
  simp only [Writer.acquire, leaves_bind, Scene.leaves_get, Writer.withLink, Scene.leaves_within,
    hdestination, Scene.leaves_modify]
  refine Leaves.mono_done (h.leaves_acquire _ _) ?_
  rintro handle ⟨link, journal, env⟩ ⟨hlink, later, session, h, hseat, hsession, hopen⟩
  dsimp only at hlink h
  refine h.reaches.leaves_setupStep _ fun _ resolved broker env hresolved hosts => ?_
  obtain ⟨-, rfl, rfl⟩ := Broker.named_of_resolve hresolved
  replace h := h.plain rfl hresolved hosts
  refine h.reaches.leaves_setupStep _ fun now producer broker env hcreated hosts => ?_
  have hgoes := h.reaches.goes.valid.goes_producer (.inl ⟨handle, none, rfl⟩)
    (congrArg Prod.snd hcreated)
  have hquiet : (later.broker.perform now (.createProducer handle none)).2.contents =
      later.broker.contents := Broker.contents_perform_of_quiet _ _ trivial
  rw [show later.broker.perform now (.createProducer handle none) = (.ok producer, broker) from
    hcreated] at hquiet
  refine ⟨_, h.next rfl hcreated hgoes rfl hosts, hdestination, hmapper, rfl, hfailures, handle,
    producer, session, hlink, rfl, hseat, Broker.producers_of_createProducer hcreated,
    (congrArg (·.sessions[handle.index]?) hquiet).trans hsession, hopen⟩

/-- A writer that is set up can send. -/
theorem Prepares.leaves_setup {s : Scene (Writer String) World} {config : WriteConfig String}
    (h : first.Prepares exchange .writer roster s.env) (hclient : s.client = { config := config })
    (hdestination : config.destination = .fixed exchange.write)
    (hmapper : config.mapper = messageOf) :
    Leaves (Writer.setup (World.endpoint exchange.site)) s
      (fun _ s' => ∃ later, first.Prepares exchange .writer later s'.env ∧
        later.Writes exchange s'.client)
      (fun _ _ => True) (fun _ => True) := by
  obtain ⟨writer, journal, env⟩ := s
  dsimp only at h hclient
  subst hclient
  simp only [Writer.setup, Writer.releaseLeftovers, leaves_bind, Scene.leaves_get, reduceCtorEq,
    if_false, Link.isEmpty, Option.isNone_none, Bool.and_self, if_true, leaves_pure, leaves_attempt]
  refine Leaves.mono (h.leaves_acquireWriter hdestination hmapper rfl) ?_ ?_ (fun _ => id)
  · rintro _ s' ⟨later, h, hwrites⟩
    exact ⟨later, h, hwrites.destination, hwrites.mapper, hwrites.fixed, hwrites.failures,
      hwrites.seated⟩
  · intro error s' _
    simp only [Scene.leaves_note, leaves_fail]
    exact .of_forall (fun _ _ => trivial) (fun _ _ => trivial) fun _ => trivial

/-- A text that a loopback writes is not empty. -/
theorem isEmpty_payload (number : Nat) : ("record-" ++ toString number).isEmpty = false := by
  simp [String.isEmpty]

/-- The next record is sent. -/
theorem Writes.leaves_process {s : Scene (Writer String) World}
    (h : roster.Writes exchange s.client) (hvalid : roster.Valid exchange)
    (hosts : s.env.Hosts exchange.site roster.broker) :
    Leaves (Writer.process (World.endpoint exchange.site)
        ("record-" ++ toString roster.broker.messageCount)) s
      (fun outcome s' => outcome.isSent = true ∧ ∃ later,
        roster.Reaches exchange .writer later s'.env ∧ later.Writes exchange s'.client ∧
          later.broker.messageCount = roster.broker.messageCount + 1)
      (fun _ _ => True) (fun _ => True) := by
  obtain ⟨writer, journal, env⟩ := s
  obtain ⟨hdestination, hmapper, hfixed, hfailures, handle, producer, session, hlink, hproducer,
    hseat, hown, hsession, hopen⟩ := h
  dsimp only at hdestination hmapper hfixed hfailures hlink hproducer hosts
  have hreaches : roster.Reaches exchange .writer roster env := ⟨hvalid.goes, hosts⟩
  simp only [Writer.process, leaves_bind, Scene.leaves_get, hlink, hproducer, hmapper, messageOf,
    isEmpty_payload, Bool.false_eq_true, if_false, Writer.dispatch, hdestination, hfixed,
    Writer.deliver, leaves_attempt]
  generalize hmessage : ({ Message.ofText _ with properties := _ } : Message) = message
  have htext : message.text? = some ("record-" ++ toString roster.broker.messageCount) := by
    rw [← hmessage]
    rfl
  refine hreaches.leaves_ask ?_ ?_
  · intro now id after env hgranted hosts
    obtain ⟨_, sent, hperform, hgoes, hcount, hproducers, hsessions⟩ :=
      hvalid.goes_send hown hsession hopen htext now
    obtain ⟨-, rfl⟩ := Prod.mk.inj (hperform.symm.trans hgranted)
    refine ⟨rfl, _, ⟨hgoes, hosts⟩, ?_, hcount⟩
    exact ⟨hdestination, hmapper, hfixed, hfailures, handle, producer, session, hlink, hproducer,
      hseat, hproducers ▸ hown, hsessions ▸ hsession, hopen⟩
  · intro now error env hrefused _
    obtain ⟨_, _, hperform, -⟩ := hvalid.goes_send hown hsession hopen htext now
    rw [hperform] at hrefused
    cases hrefused

/-- A writer that is torn down puts nothing back, whether it can release everything or not. -/
theorem Writes.leaves_teardown {s : Scene (Writer String) World}
    (h : roster.Writes exchange s.client) (hvalid : roster.Valid exchange)
    (hosts : s.env.Hosts exchange.site roster.broker) :
    Leaves (Writer.teardown (World.endpoint exchange.site)) s
      (fun _ s' => s'.client.failures = s.client.failures ∧
        roster.GivesBack exchange .writer roster s'.env)
      (fun _ s' => s'.client.failures = s.client.failures ∧
        roster.GivesBack exchange .writer roster s'.env)
      (fun _ => True) := by
  obtain ⟨writer, journal, env⟩ := s
  obtain ⟨-, -, -, -, handle, producer, session, hlink, hproducer, hseat, -, -, -⟩ := h
  dsimp only at hlink hproducer hosts
  have hreaches : roster.Reaches exchange .writer roster env := ⟨hvalid.goes, hosts⟩
  simp only [Writer.teardown, leaves_bind, leaves_attempt, Writer.release, Writer.releaseProducer,
    Scene.leaves_get, hproducer, Scene.leaves_modify, Writer.withLink, Scene.leaves_within]
  refine hreaches.leaves_release _ (by simp) ?_ fun ofProducer closed journal env h hclosed => ?_
  · exact fun _ _ _ hgranted =>
      hvalid.goes_producer (.inr ⟨producer, rfl⟩) (congrArg Prod.snd hgranted)
  have hseat' : ∀ other, writer.link.session = some other →
      ({ roster with broker := closed } : Roster).seats other.index = some (.writer, []) := by
    intro other hother
    obtain rfl := Option.some.inj (hlink.symm.trans hother)
    exact hseat
  refine Leaves.mono (h.leaves_releaseLink hseat') ?_ (fun _ _ => False.elim) (fun _ => id)
  rintro ofLink s' ⟨released, h, hreleased⟩
  split
  · exact ⟨rfl, released, h, hreleased.trans hclosed⟩
  · exact ⟨rfl, released, h, hreleased.trans hclosed⟩

end Roster

end Loopback

end BrokerConnector
