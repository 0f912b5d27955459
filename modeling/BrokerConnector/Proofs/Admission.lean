import BrokerConnector.Proofs.Broker.Request
import BrokerConnector.World

/-!
# What a broker's credentials are used for

A broker looks at the credentials that it requires on one occasion, when a client connects, and it
never changes them. So a broker that requires other credentials does the same in answer to every
request but that one (`Broker.perform_requiring`), and so do its site and a world of such brokers:
whatever happens there, the credentials stand beside it (`World.requiring`).

A client that connects presents credentials that are right or wrong (`Credentials.Satisfies`). Two
brokers that differ in their credentials treat two clients alike if both present right credentials,
or both wrong ones for one user (`Broker.connect_requiring`): what a refusal tells is the user.
-/

namespace BrokerConnector

/-! ## Right and wrong credentials -/

namespace Credentials

/-- What is presented is right: nothing is required, or just that. -/
def Satisfies (given required : Option Credentials) : Prop :=
  ∀ expected, required = some expected → given = some expected

instance (given required : Option Credentials) : Decidable (Satisfies given required) :=
  match required with
  | none => .isTrue fun _ h => nomatch h
  | some expected =>
    decidable_of_iff (given = some expected)
      ⟨fun h _ he => Option.some.inj he ▸ h, fun h => h expected rfl⟩

/-- The user that is presented, as a refusal names it. -/
def user (given : Option Credentials) : String :=
  match given with
  | none => "<anonymous>"
  | some given => given.username

end Credentials

/-! ## Brokers -/

namespace Broker

/-- A broker with other required credentials. -/
def requiring (required : Option Credentials) (broker : Broker) : Broker :=
  { broker with credentials := required }

variable (required : Option Credentials) (broker : Broker)

/-- Clients with right credentials are welcome, and others are refused by the name of their user. -/
theorem admission_eq (given : Option Credentials) :
    broker.admission given =
      if Credentials.Satisfies given broker.credentials then .ok ()
      else .error (.authentication (Credentials.user given)) := by
  unfold admission Credentials.Satisfies
  cases broker.credentials with
  | none => simp
  | some expected =>
    cases given with
    | none => simp [Credentials.user]
    | some given => simp [Credentials.user, eq_comm]

/-- A reply of a broker with other required credentials. -/
def Reply.requiring {α : Type} (required : Option Credentials) (reply : Reply α) : Reply α :=
  (reply.1, reply.2.requiring required)

@[simp]
theorem openConnection?_requiring (connection : ConnectionHandle) :
    (broker.requiring required).openConnection? connection = broker.openConnection? connection :=
  rfl

@[simp]
theorem openSession?_requiring (index : Nat) :
    (broker.requiring required).openSession? index = broker.openSession? index :=
  rfl

@[simp]
theorem openConsumer?_requiring (consumer : ConsumerHandle) :
    (broker.requiring required).openConsumer? consumer = broker.openConsumer? consumer :=
  rfl

@[simp]
theorem openProducer?_requiring (producer : ProducerHandle) :
    (broker.requiring required).openProducer? producer = broker.openProducer? producer :=
  rfl

@[simp]
theorem isStarted_requiring (connection : Nat) :
    (broker.requiring required).isStarted connection = broker.isStarted connection :=
  rfl

@[simp]
theorem sendRefusal?_requiring (producer : Producer) (destination : Destination) :
    (broker.requiring required).sendRefusal? producer destination =
      broker.sendRefusal? producer destination :=
  rfl

@[simp]
theorem failingReceive_requiring :
    (broker.requiring required).failingReceive = broker.failingReceive :=
  rfl

@[simp]
theorem failingSessionClose_requiring :
    (broker.requiring required).failingSessionClose = broker.failingSessionClose :=
  rfl

@[simp]
theorem unavailable_requiring : (broker.requiring required).unavailable = broker.unavailable :=
  rfl

theorem deliver_requiring (destination : Destination) (message : Message) :
    (broker.requiring required).deliver destination message =
      (broker.deliver destination message).requiring required := by
  cases destination <;> rfl

theorem publish_requiring (now : Int64) (destination : Destination) (message : Message) :
    (broker.requiring required).publish now destination message =
      ((broker.publish now destination message).1,
        (broker.publish now destination message).2.requiring required) := by
  unfold publish
  cases message.id with
  | some id => exact congrArg (Prod.mk id) (deliver_requiring required broker destination _)
  | none =>
    exact congrArg (Prod.mk _)
      (deliver_requiring required { broker with messageCount := broker.messageCount + 1 }
        destination _)

theorem take_requiring (now : Int64) (index : Nat) (consumer : Consumer) :
    (broker.requiring required).take now index consumer =
      ((broker.take now index consumer).1,
        (broker.take now index consumer).2.requiring required) := by
  unfold take
  cases consumer.destination <;> rfl

theorem receive_requiring (now : Int64) (handle : ConsumerHandle) :
    (broker.requiring required).receive now handle =
      (broker.receive now handle).requiring required := by
  simp only [receive, openConsumer?_requiring, openSession?_requiring, failingReceive_requiring,
    isStarted_requiring, take_requiring]
  cases broker.openConsumer? handle with
  | error error => rfl
  | ok found =>
    dsimp only
    cases broker.openSession? found.session with
    | error error => rfl
    | ok session =>
      dsimp only
      by_cases hfailing : broker.failingReceive = true
      · simp only [if_pos hfailing]
        rfl
      · by_cases hstarted : broker.isStarted session.connection = true
        · simp only [if_neg hfailing, if_pos hstarted]
          generalize broker.take now handle.index found = result
          obtain ⟨next, rest⟩ := result
          cases next with
          | none => rfl
          | some message =>
            dsimp only
            split <;> rfl
        · simp only [if_neg hfailing, if_neg hstarted]
          rfl

/-- What a broker requires matters to no request but one for a connection. -/
theorem perform_requiring (now : Int64) {request : BrokerRequest}
    (h : ∀ given, request ≠ .connect given) :
    (broker.requiring required).perform now request =
      (broker.perform now request).requiring required := by
  -- Every check reads what two such brokers have in common, and both take the same branch.
  cases request with
  | connect given => exact (h given rfl).elim
  | receive consumer => exact receive_requiring required broker now consumer
  | startConnection connection | stopConnection connection =>
    simp only [perform, startConnection, stopConnection, changeConnection,
      openConnection?_requiring]
    cases broker.openConnection? connection <;> rfl
  | closeConnection connection | createSession connection mode =>
    simp only [perform, closeConnection, createSession, openConnection?_requiring]
    cases broker.openConnection? connection <;> rfl
  | resolve session destination =>
    simp only [perform, resolve]
    split <;> rfl
  | createConsumer session destination | createProducer session bound =>
    simp only [perform, createConsumer, createProducer, openSession?_requiring]
    cases broker.openSession? session.index <;> rfl
  | acknowledge session id =>
    simp only [perform, acknowledge, openSession?_requiring]
    cases broker.openSession? session.index with
    | error error => rfl
    | ok found =>
      dsimp only
      cases found.mode with
      | auto => rfl
      | client =>
        dsimp only
        split <;> rfl
  | closeSession session =>
    by_cases hfailing : broker.failingSessionClose = true
    · simp only [perform, closeSession, failingSessionClose_requiring, hfailing, if_true]
      rfl
    · simp only [perform, closeSession, failingSessionClose_requiring, hfailing,
        openSession?_requiring]
      cases broker.openSession? session.index <;> rfl
  | closeConsumer consumer =>
    simp only [perform, closeConsumer, openConsumer?_requiring]
    cases broker.openConsumer? consumer <;> rfl
  | closeProducer producer =>
    simp only [perform, closeProducer, openProducer?_requiring]
    cases broker.openProducer? producer <;> rfl
  | send producer destination message =>
    simp only [perform, send, openProducer?_requiring, openSession?_requiring,
      sendRefusal?_requiring]
    cases broker.openProducer? producer with
    | error error => rfl
    | ok found =>
      dsimp only
      cases broker.openSession? found.session with
      | error error => rfl
      | ok session =>
        dsimp only
        cases broker.sendRefusal? found destination with
        | some error => rfl
        | none => cases destination <;> rfl
  | queueDepth queue =>
    by_cases hunavailable : broker.unavailable = true
    · simp only [perform, queueDepth, unavailable_requiring, hunavailable, if_true]
      rfl
    · simp only [perform, queueDepth, unavailable_requiring, hunavailable]
      rfl

/-- A client with right credentials is served as any client is where nothing is required. -/
theorem connect_of_satisfies {given : Option Credentials}
    (h : Credentials.Satisfies given required) :
    (broker.requiring required).connect given =
      ((broker.requiring none).connect none).requiring required := by
  have hadmitted : (broker.requiring required).admission given = .ok () := by
    rw [admission_eq]
    exact if_pos h
  have hanyone : (broker.requiring none).admission none = .ok () := rfl
  simp only [connect, hadmitted, hanyone]
  by_cases hunavailable : broker.unavailable = true
  · have hclosed : ∀ other, (broker.requiring other).unavailable = true := fun _ => hunavailable
    rw [if_pos (hclosed required), if_pos (hclosed none)]
    rfl
  · have hopen : ∀ other, ¬ (broker.requiring other).unavailable = true := fun _ => hunavailable
    rw [if_neg (hopen required), if_neg (hopen none)]
    rfl

/-- A client with wrong credentials is told its user. -/
theorem connect_of_not_satisfies {given : Option Credentials}
    (h : ¬ Credentials.Satisfies given required) :
    (broker.requiring required).connect given =
      (broker.refuse (.authentication (Credentials.user given))).requiring required := by
  have hrefused : (broker.requiring required).admission given =
      .error (.authentication (Credentials.user given)) := by
    rw [admission_eq]
    exact if_neg h
  simp only [connect, hrefused]
  rfl

/-- Two brokers that differ in what they require treat two clients alike if both present right
credentials, or both wrong ones. If the clients present one user, they are told the same. -/
theorem connect_requiring {required required' given given' : Option Credentials}
    (h : Credentials.Satisfies given required ↔ Credentials.Satisfies given' required') :
    (Credentials.user given = Credentials.user given' →
      ((broker.requiring required).connect given).1 =
        ((broker.requiring required').connect given').1) ∧
      ∃ later : Broker, ((broker.requiring required).connect given).2 = later.requiring required ∧
        ((broker.requiring required').connect given').2 = later.requiring required' := by
  by_cases hright : Credentials.Satisfies given required
  · rw [connect_of_satisfies _ _ hright, connect_of_satisfies _ _ (h.1 hright)]
    exact ⟨fun _ => rfl, _, rfl, rfl⟩
  · rw [connect_of_not_satisfies _ _ hright,
      connect_of_not_satisfies _ _ fun hright' => hright (h.2 hright')]
    exact ⟨fun husers => by rw [husers]; rfl, broker, rfl, rfl⟩

/-- What a broker requires matters to nothing that happens there but an attempt to connect. -/
theorem operate_requiring (now : Int64) {operation : Operation}
    (h : ∀ given, operation ≠ .request (.connect given)) :
    (broker.requiring required).operate now operation =
      (broker.operate now operation).requiring required := by
  cases operation with
  | request request =>
    have hquiet : ∀ given, request ≠ .connect given := fun given he => h given (by rw [he])
    exact congrArg Prod.snd (perform_requiring required broker now hquiet)
  | publish destination message =>
    exact congrArg Prod.snd (publish_requiring required broker now destination message)
  | reject destination => rfl
  | turn switch on => cases switch <;> rfl

end Broker

/-! ## Sites -/

namespace Site

/-- A site whose broker requires other credentials. -/
def requiring (required : Option Credentials) (site : Site) : Site :=
  { site with broker := site.broker.requiring required }

variable (required : Option Credentials) (site : Site) (now : Int64)

theorem forward_requiring {request : BrokerRequest} (h : ∀ given, request ≠ .connect given) :
    (site.requiring required).forward now request =
      ((site.forward now request).1, (site.forward now request).2.requiring required) := by
  simp only [forward, requiring, site.broker.perform_requiring required now h]
  rfl

theorem guarded_requiring {request : BrokerRequest} (h : ∀ given, request ≠ .connect given) :
    (site.requiring required).guarded now request =
      ((site.guarded now request).1, (site.guarded now request).2.requiring required) := by
  unfold guarded
  cases request.point? with
  | none => exact forward_requiring required site now h
  | some point =>
    have hfaults : (site.requiring required).faults = site.faults := rfl
    dsimp only
    rw [hfaults]
    generalize Fault.consult point site.faults = consulted
    obtain ⟨met, faults⟩ := consulted
    rcases met with - | ⟨error | -⟩
    · exact forward_requiring required { site with faults := faults } now h
    · rfl
    · rfl

/-- What a broker requires matters to no request to its site but one for a connection. -/
theorem perform_requiring {request : BrokerRequest} (h : ∀ given, request ≠ .connect given) :
    (site.requiring required).perform now request =
      ((site.perform now request).1, (site.perform now request).2.requiring required) := by
  have hguarded := guarded_requiring required site now h
  cases request with
  | receive consumer =>
    simp only [perform, hguarded]
    generalize site.guarded now (.receive consumer) = reply
    obtain ⟨outcome, later⟩ := reply
    rcases outcome with (- | message) | - | - <;> rfl
  | _ => exact hguarded

/-- Two sites whose brokers differ in what they require treat two clients alike if both present
right credentials, or both wrong ones for one user. -/
theorem connect_requiring {required required' given given' : Option Credentials}
    (husers : Credentials.user given = Credentials.user given')
    (h : Credentials.Satisfies given required ↔ Credentials.Satisfies given' required') :
    ((site.requiring required).perform now (.connect given)).1 =
        ((site.requiring required').perform now (.connect given')).1 ∧
      ∃ later : Site,
        ((site.requiring required).perform now (.connect given)).2 = later.requiring required ∧
        ((site.requiring required').perform now (.connect given')).2 =
          later.requiring required' := by
  obtain ⟨hreply, later, hlater, hlater'⟩ := site.broker.connect_requiring h
  refine ⟨congrArg Outcome.ofExcept (hreply husers), { site with broker := later }, ?_, ?_⟩
  · exact congrArg (fun broker => { site with broker := broker }) hlater
  · exact congrArg (fun broker => { site with broker := broker }) hlater'

end Site

/-! ## Worlds -/

namespace World

/-- A world whose brokers, by their positions, require other credentials. -/
def requiring (required : Nat → Option Credentials) (world : World) : World :=
  { world with sites := world.sites.mapIdx fun index site => site.requiring (required index) }

/-- Two worlds that differ in what their brokers require and in nothing else. -/
def Differ (required required' : Nat → Option Credentials) (first second : World) : Prop :=
  ∃ world : World, first = world.requiring required ∧ second = world.requiring required'

variable (required : Nat → Option Credentials) (world : World)

theorem getElem?_sites_requiring (index : Nat) :
    (world.requiring required).sites[index]? =
      world.sites[index]?.map (Site.requiring (required index)) :=
  List.getElem?_mapIdx

/-- A site that is replaced keeps what its broker requires. -/
theorem set_sites_requiring (index : Nat) (site : Site) :
    { world.requiring required with
      sites := (world.requiring required).sites.set index (site.requiring (required index)) } =
      { world with sites := world.sites.set index site }.requiring required := by
  simp only [requiring, List.mapIdx_set]

/-- What brokers require matters to no request but one for a connection. -/
theorem perform_requiring (site : Nat) {request : BrokerRequest}
    (h : ∀ given, request ≠ .connect given) :
    (world.requiring required).perform site request =
      ((world.perform site request).1, (world.perform site request).2.requiring required) := by
  unfold perform
  rw [getElem?_sites_requiring]
  cases world.sites[site]? with
  | none => rfl
  | some found =>
    have htime : (world.requiring required).timeOfDay = world.timeOfDay := rfl
    simp only [Option.map_some, htime, found.perform_requiring (required site) world.timeOfDay h]
    generalize found.perform world.timeOfDay request = reply
    obtain ⟨outcome, later⟩ := reply
    exact congrArg (Prod.mk outcome) (set_sites_requiring required world site later)

theorem publish_requiring (site : Nat) (destination : Destination) (message : Message) :
    (world.requiring required).publish site destination message =
      ((world.publish site destination message).1,
        (world.publish site destination message).2.requiring required) := by
  unfold publish
  rw [getElem?_sites_requiring]
  cases world.sites[site]? with
  | none => rfl
  | some found =>
    have htime : (world.requiring required).timeOfDay = world.timeOfDay := rfl
    have hbroker : (found.requiring (required site)).broker =
        found.broker.requiring (required site) := rfl
    simp only [Option.map_some, htime, hbroker, Broker.publish_requiring]
    generalize found.broker.publish world.timeOfDay destination message = reply
    obtain ⟨id, later⟩ := reply
    exact congrArg (Prod.mk id)
      (set_sites_requiring required world site { found with broker := later })

/-! ### Estimators and time -/

theorem broker_requiring (site : Nat) :
    (world.requiring required).broker site =
      if site < world.sites.length then (world.broker site).requiring (required site)
      else world.broker site := by
  unfold broker
  rw [getElem?_sites_requiring]
  split
  · rename_i hlt
    rw [List.getElem?_eq_getElem hlt]
    rfl
  · rename_i hge
    rw [List.getElem?_eq_none (by omega)]
    rfl

theorem report_requiring (plan : EstimatorPlan) :
    (world.requiring required).report plan = world.report plan := by
  cases plan with
  | noInformation => rfl
  | queueDepth site queue interval =>
    simp only [report, broker_requiring]
    split
    · have hquiet : ∀ given, BrokerRequest.queueDepth queue ≠ .connect given := nofun
      have hdepth := congrArg Prod.fst
        ((world.broker site).perform_requiring (required site) world.timeOfDay hquiet)
      exact hdepth
    · rfl

theorem createEstimator_requiring (plan : EstimatorPlan) :
    (world.requiring required).createEstimator plan =
      ((world.createEstimator plan).1, (world.createEstimator plan).2.requiring required) :=
  rfl

theorem startEstimator_requiring (estimator : EstimatorHandle) :
    (world.requiring required).startEstimator estimator =
      ((world.startEstimator estimator).1,
        (world.startEstimator estimator).2.requiring required) := by
  have hestimators : (world.requiring required).estimators = world.estimators := rfl
  have hclock : (world.requiring required).clock = world.clock := rfl
  simp only [startEstimator, hestimators, hclock, report_requiring]
  cases world.estimators[estimator.index]? with
  | none => rfl
  | some found =>
    dsimp only
    cases found.plan with
    | noInformation => rfl
    | queueDepth site queue interval =>
      dsimp only
      split <;> rfl

theorem stopEstimator_requiring (estimator : EstimatorHandle) :
    (world.requiring required).stopEstimator estimator =
      (world.stopEstimator estimator).requiring required := by
  have hestimators : (world.requiring required).estimators = world.estimators := rfl
  simp only [stopEstimator, hestimators]
  cases world.estimators[estimator.index]? <;> rfl

theorem publishDue_requiring :
    (world.requiring required).publishDue = world.publishDue.requiring required := by
  have hfold : ∀ (due : List Publication) (world : World),
      due.foldl (fun world publication =>
        (world.publish publication.site publication.destination publication.message).2)
          (world.requiring required) =
        (due.foldl (fun world publication =>
          (world.publish publication.site publication.destination publication.message).2)
            world).requiring required := by
    intro due
    induction due with
    | nil => exact fun _ => rfl
    | cons first rest ih =>
      intro world
      rw [List.foldl_cons, List.foldl_cons, publish_requiring, ih]
  exact hfold (world.planned.filter (·.due ≤ world.clock))
    { world with planned := world.planned.filter (world.clock < ·.due) }

theorem fire_requiring :
    (world.requiring required).fire = (world.fire.1.requiring required, world.fire.2) := by
  have hpoll : (world.publishDue.requiring required).pollDue = world.publishDue.pollDue := by
    funext estimator
    have hclock : (world.publishDue.requiring required).clock = world.publishDue.clock := rfl
    simp only [pollDue, hclock, report_requiring]
  have hestimators :
      (world.publishDue.requiring required).estimators = world.publishDue.estimators := rfl
  simp only [fire, publishDue_requiring, hpoll, hestimators]
  rfl

theorem passUntil_requiring (target budget : Nat) :
    passUntil target budget (world.requiring required) =
      ((passUntil target budget world).1.requiring required,
        (passUntil target budget world).2) := by
  induction budget generalizing world with
  | zero => rfl
  | succ budget ih =>
    have hdue : (world.requiring required).nextDue? = world.nextDue? := rfl
    have hatEvent : ∀ due, { world.requiring required with
        clock := max due ((world.requiring required).clock + 1) } =
        { world with clock := max due (world.clock + 1) }.requiring required := fun _ => rfl
    simp only [passUntil, hdue, hatEvent, fire_requiring, ih]
    cases world.nextDue? with
    | none => rfl
    | some due =>
      dsimp only
      split <;> rfl

/-- While time passes, it does not matter what brokers require. -/
theorem pass_requiring (milliseconds : Nat) :
    (world.requiring required).pass milliseconds =
      ((world.pass milliseconds).1.requiring required, (world.pass milliseconds).2) :=
  passUntil_requiring required world _ milliseconds

/-! ### What a client sees -/

/-- What brokers require matters to no request but one for a connection. -/
theorem answer_requiring (site : Nat) {request : Request}
    (h : ∀ given, request ≠ .broker (.connect given)) :
    answer site request (world.requiring required) =
      ((answer site request world).1, (answer site request world).2.requiring required) := by
  cases request with
  | broker request =>
    exact perform_requiring required world site fun given he => h given (by rw [he])
  | startEstimator plan =>
    simp only [answer, createEstimator_requiring, startEstimator_requiring]
    generalize (world.createEstimator plan).2.startEstimator (world.createEstimator plan).1 = result
    obtain ⟨started, later⟩ := result
    cases started <;> rfl
  | stopEstimator estimator =>
    exact congrArg (Prod.mk _) (stopEstimator_requiring required world estimator)

/-- Two worlds whose brokers differ in what they require treat two clients of a broker alike if both
present right credentials, or both wrong ones for one user. -/
theorem connect_requiring {required required' : Nat → Option Credentials} {site : Nat}
    {given given' : Option Credentials}
    (husers : Credentials.user given = Credentials.user given')
    (h : Credentials.Satisfies given (required site) ↔
      Credentials.Satisfies given' (required' site)) :
    ((world.requiring required).perform site (.connect given)).1 =
        ((world.requiring required').perform site (.connect given')).1 ∧
      Differ required required' ((world.requiring required).perform site (.connect given)).2
        ((world.requiring required').perform site (.connect given')).2 := by
  unfold perform
  simp only [getElem?_sites_requiring]
  cases world.sites[site]? with
  | none => exact ⟨rfl, world, rfl, rfl⟩
  | some found =>
    obtain ⟨houtcome, later, hlater, hlater'⟩ := found.connect_requiring world.timeOfDay husers h
    refine ⟨houtcome, { world with sites := world.sites.set site later }, ?_, ?_⟩
    · rw [← set_sites_requiring, ← hlater]
      rfl
    · rw [← set_sites_requiring, ← hlater']
      rfl

end World

end BrokerConnector
