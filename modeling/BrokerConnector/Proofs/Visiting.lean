import BrokerConnector.Proofs.Bounded
import BrokerConnector.Proofs.Broker.Visit
import BrokerConnector.Proofs.Sharing

/-!
# A reader alone at its queue

A reader that shares a broker with clients that publish, and that no call fails for, visits its
queue. This module tells what each of its calls does to the visit (`Visits`): how it opens what it
needs, takes a message, acknowledges what it took and closes everything.

Time is not part of a shared broker. `Endpoint.clocked` lets the clock show whatever it likes.
-/

namespace BrokerConnector

open BrokerConnector.Action

/-! ## Clocks -/

/-- Surroundings with the number of requests and pauses so far. -/
structure Clocked (σ : Type) where
  env : σ
  ticks : Nat := 0

/-- An endpoint whose clock shows what it is told to, by the number of requests and pauses. -/
def Endpoint.clocked {σ : Type} (endpoint : Endpoint σ) (clock : Nat → Nat) :
    Endpoint (Clocked σ) where
  answer request clocked :=
    let (outcome, env) := endpoint.answer request clocked.env
    (outcome, ⟨env, clocked.ticks + 1⟩)
  clock clocked := clock clocked.ticks
  sleep milliseconds clocked :=
    let (env, notices) := endpoint.sleep milliseconds clocked.env
    (⟨env, clocked.ticks + 1⟩, notices)

/-! ## What becomes of a shared broker -/

namespace Shared

variable {schedule : Schedule} {name : String} {first second : Shared}

/-- Whether every request so far was granted. -/
def isServed (shared : Shared) : Bool :=
  shared.log.all (·.outcome.isDone)

/-- Along requests and pauses everything grows. -/
theorem grows_of_clocked_steps {clock : Nat → Nat} {allowed : Request → Prop}
    {before after : Clocked Shared}
    (h : ((Shared.endpoint schedule).clocked clock).Steps allowed before after) :
    before.env.Grows after.env := by
  induction h with
  | refl => exact .refl _
  | tail _ hstep ih =>
    cases hstep with
    | answer request _ => exact ih.trans (grows_answer request _)
    | sleep milliseconds => exact ih

/-- A queue whose messages suit a read. None expires while it waits: those that last are never found
expired by a request, and the others always. The mapper succeeds on those that last. -/
structure Suits {α : Type} (schedule : Schedule) (config : ReadConfig α) (name : String)
    (lasts : Message → Bool) (before : Broker) (shared : Shared) : Prop where
  lasting : ∀ number exchange, shared.log[number]? = some exchange →
    ∀ message ∈ exchange.before.queue name, message.isExpired (schedule number).now = !lasts message
  mapped : ∀ message ∈ before.stock shared.broker name, lasts message = true →
    ∃ value, config.mapper message = .ok value

/-- Messages that suit a read at its end suit it before. -/
theorem Suits.of_grows {α : Type} {config : ReadConfig α} {lasts : Message → Bool}
    {before : Broker} (h : second.Suits schedule config name lasts before)
    (hgrows : first.Grows second) : first.Suits schedule config name lasts before where
  lasting number exchange hexchange := by
    obtain ⟨hlt, rfl⟩ := List.getElem?_eq_some_iff.1 hexchange
    exact h.lasting number _ (List.prefix_iff_getElem?.1 hgrows.log number hlt)
  mapped message hmem := by
    obtain ⟨later, hlater⟩ := hgrows.accepted (.queue name)
    refine h.mapped message ?_
    rw [Broker.stock, ← hlater, List.drop_append, ← List.append_assoc]
    exact List.mem_append_left _ hmem

end Shared

/-! ## Requests -/

/-- A shared broker shows what a client did in its visit, and whether every request was granted. -/
structure Visits (before : Broker) (name : String) (visit : Visit) (served : Bool)
    (env : Clocked Shared) : Prop where
  shows : before.Shows name visit env.env.broker
  served : env.env.isServed = served

section

variable {schedule : Schedule} {before : Broker} {name : String} {visit visit' : Visit}
  {served : Bool} {shared : Shared}

/-- Others that publish leave the visit of a client as it is. -/
theorem Broker.Shows.others (h : before.Shows name visit shared.broker)
    {operations : List (Int64 × Operation)}
    (hcalm : ∀ entry ∈ operations, ∃ destination message, entry.2 = .publish destination message) :
    before.Shows name visit (shared.others operations).broker := by
  induction operations generalizing shared with
  | nil => exact h
  | cons entry rest ih =>
    obtain ⟨now, operation⟩ := entry
    obtain ⟨destination, message, rfl⟩ := hcalm _ List.mem_cons_self
    exact ih (h.publish now destination message) fun other hother =>
      hcalm other (List.mem_cons_of_mem _ hother)

namespace Visits

/-- A request that is granted leaves a client as well served as it was. -/
theorem granted {request : Request} {answer : request.Answer} {after : Broker}
    {env env' : Clocked Shared} (h : Visits before name visit served env)
    (hlog : shared.log = env.env.log) (hshows : before.Shows name visit' after)
    (henv : env'.env = shared.add request (.done answer) after) :
    Visits before name visit' served env' := by
  constructor
  · rw [henv]
    exact hshows
  · rw [henv, Shared.isServed, Shared.add, List.all_append, hlog]
    exact (Bool.and_true _).trans h.served

/-- A client that is refused a request is not served any more. -/
theorem of_refused {request : Request} {error : BrokerError} {env : Clocked Shared}
    (hshows : before.Shows name visit shared.broker)
    (henv : env.env = shared.add request (.failed error) shared.broker) :
    Visits before name visit false env := by
  constructor
  · rw [henv]
    exact hshows
  · rw [henv, Shared.isServed, Shared.add, List.all_append]
    exact Bool.and_false _

section

variable {ρ : Type} {clock : Nat → Nat} {s : Scene ρ (Clocked Shared)}
  {dropped : Scene ρ (Clocked Shared) → Prop}

variable (hcalm : schedule.Publishes) (hflawless : schedule.NeverFails)
include hcalm hflawless

/-- A request is answered as the broker performs it when others have published. -/
theorem leaves_reply {request : BrokerRequest}
    {done : request.Answer → Scene ρ (Clocked Shared) → Prop}
    {failed : BrokerError → Scene ρ (Clocked Shared) → Prop}
    (h : Visits before name visit served s.env)
    (replied : ∀ shared : Shared, shared.log = s.env.env.log →
      before.Shows name visit shared.broker → ∀ env : Clocked Shared,
      match shared.broker.perform (schedule shared.log.length).now request with
      | (.ok answer, after) => env.env = shared.add (.broker request) (.done answer) after →
          done answer { s with env := env }
      | (.error error, after) => env.env = shared.add (.broker request) (.failed error) after →
          failed error { s with env := env }) :
    Leaves (Scene.ask ((Shared.endpoint schedule).clocked clock) (.broker request)) s done failed
      dropped := by
  let occasion := schedule s.env.env.log.length
  let ready := s.env.env.others occasion.others
  have hlog : ready.log = s.env.env.log := Shared.log_others _ _
  have hreply : occasion.reply (.broker request) ready.broker =
      (.ofExcept (ready.broker.perform occasion.now request).1,
        (ready.broker.perform occasion.now request).2) := by
    rw [Occasion.reply, hflawless]
  have hanswer : ((Shared.endpoint schedule).clocked clock).answer (.broker request) s.env =
      ((occasion.reply (.broker request) ready.broker).1,
        ⟨ready.add (.broker request) (occasion.reply (.broker request) ready.broker).1
          (occasion.reply (.broker request) ready.broker).2, s.env.ticks + 1⟩) := rfl
  have hnow : (schedule ready.log.length).now = occasion.now := by rw [hlog]
  have hready := replied ready hlog (h.shows.others (hcalm _))
  rw [hreply] at hanswer
  rw [hnow] at hready
  unfold Leaves
  rw [Scene.ask_apply, hanswer]
  generalize ready.broker.perform occasion.now request = result at hready
  obtain ⟨reply, after⟩ := result
  cases reply with
  | ok answer => exact hready _ rfl
  | error error => exact hready _ rfl

/-- A request that the broker grants whatever others have published. -/
theorem leaves_granted {request : BrokerRequest}
    {done : request.Answer → Scene ρ (Clocked Shared) → Prop}
    {failed : BrokerError → Scene ρ (Clocked Shared) → Prop}
    (h : Visits before name visit served s.env)
    (granted : ∀ now broker, before.Shows name visit broker → ∃ answer after,
      broker.perform now request = (.ok answer, after) ∧ ∃ visit', before.Shows name visit' after ∧
        ∀ env, Visits before name visit' served env → done answer { s with env := env }) :
    Leaves (Scene.ask ((Shared.endpoint schedule).clocked clock) (.broker request)) s done failed
      dropped := by
  refine h.leaves_reply hcalm hflawless fun shared hlog hshows env => ?_
  obtain ⟨answer, after, hperform, visit', hshows', hdone⟩ := granted _ shared.broker hshows
  rw [hperform]
  exact fun henv => hdone env (h.granted hlog hshows' henv)

/-- A request of an estimator is granted and leaves the visit as it is. -/
theorem leaves_estimator {request : Request}
    {done : request.Answer → Scene ρ (Clocked Shared) → Prop}
    {failed : BrokerError → Scene ρ (Clocked Shared) → Prop}
    (h : Visits before name visit served s.env) (hestimator : ∀ asked, request ≠ .broker asked)
    (granted : ∀ answer env, Visits before name visit served env →
      done answer { s with env := env }) :
    Leaves (Scene.ask ((Shared.endpoint schedule).clocked clock) request) s done failed
      dropped := by
  let occasion := schedule s.env.env.log.length
  let ready := s.env.env.others occasion.others
  have hlog : ready.log = s.env.env.log := Shared.log_others _ _
  obtain ⟨answer, hreply⟩ : ∃ answer, occasion.reply request ready.broker =
      (.done answer, ready.broker) := by
    unfold Occasion.reply
    rw [hflawless]
    cases request with
    | broker asked => exact (hestimator asked rfl).elim
    | startEstimator plan => exact ⟨_, rfl⟩
    | stopEstimator estimator => exact ⟨_, rfl⟩
  have hanswer : ((Shared.endpoint schedule).clocked clock).answer request s.env =
      ((occasion.reply request ready.broker).1,
        ⟨ready.add request (occasion.reply request ready.broker).1
          (occasion.reply request ready.broker).2, s.env.ticks + 1⟩) := rfl
  unfold Leaves
  rw [Scene.ask_apply, hanswer, hreply]
  exact granted answer _ (h.granted hlog (h.shows.others (hcalm _)) rfl)

/-- A release that the broker grants whatever others have published. -/
theorem leaves_release {request : BrokerRequest} (told : BrokerError → Notice)
    {done : List BrokerError → Scene ρ (Clocked Shared) → Prop}
    {failed : ConnectorError → Scene ρ (Clocked Shared) → Prop}
    (h : Visits before name visit served s.env)
    (granted : ∀ now broker, before.Shows name visit broker → ∃ answer after,
      broker.perform now request = (.ok answer, after) ∧ ∃ visit', before.Shows name visit' after ∧
        ∀ env, Visits before name visit' served env → done [] { s with env := env }) :
    Leaves (Scene.release ((Shared.endpoint schedule).clocked clock) (.broker request) told) s done
      failed dropped := by
  rw [Scene.leaves_release]
  exact h.leaves_granted hcalm hflawless granted

end

end Visits

/-! ## Opening -/

section

variable {clock : Nat → Nat} {α : Type}

/-- What a reader has that is at work at its queue. -/
structure Reader.Equipped (before : Broker) (reader : Reader α) : Prop where
  connection : reader.link.connection = some ⟨before.connections.length⟩
  session : ∃ handle, reader.link.session = some handle ∧ reader.mark.session = some handle ∧
    handle.index = before.sessions.length
  consumer : reader.consumer = some ⟨before.consumers.length⟩
  skipped : reader.skipped = []

namespace Visits

variable (hcalm : schedule.Publishes) (hflawless : schedule.NeverFails)
include hcalm hflawless

/-- A link is acquired: there is a connection that is started, and a session on it. -/
theorem leaves_acquireLink {s : Scene Link (Clocked Shared)} {credentials : Option Credentials}
    {failed : ConnectorError → Scene Link (Clocked Shared) → Prop}
    {dropped : Scene Link (Clocked Shared) → Prop} (hwelcomes : before.Welcomes credentials)
    (h : Visits before name {} served s.env) :
    Leaves (Link.acquire ((Shared.endpoint schedule).clocked clock) credentials .client) s
      (fun handle s' => handle.index = before.sessions.length ∧
        s'.client = ⟨some ⟨before.connections.length⟩, some handle⟩ ∧
        ∃ connection session, Visits before name
          { connections := [{ id := connection, started := true }]
            sessions := [{
              id := session
              connection := before.connections.length
              mode := .client }] } served s'.env) failed dropped := by
  simp only [Link.acquire, setupStep, leaves_bind, leaves_mapError, Scene.leaves_modify,
    leaves_pure]
  refine h.leaves_granted hcalm hflawless fun now broker hshows => ?_
  obtain ⟨connection, after, hperform, hshows'⟩ := hshows.connect hwelcomes now rfl
  refine ⟨_, after, hperform, _, hshows', fun env h₁ => ?_⟩
  refine h₁.leaves_granted hcalm hflawless fun now broker hshows => ?_
  obtain ⟨after, hperform, hshows'⟩ := hshows.startConnection now rfl rfl
  refine ⟨_, after, hperform, _, hshows', fun env h₂ => ?_⟩
  refine h₂.leaves_granted hcalm hflawless fun now broker hshows => ?_
  obtain ⟨session, after, hperform, hshows'⟩ := hshows.createSession now rfl rfl rfl .client
  exact ⟨_, after, hperform, _, hshows', fun env h₃ => ⟨rfl, rfl, connection, session, h₃⟩⟩

/-- A reader without entries acquires its resources and is at work then. -/
theorem leaves_acquire {s : Scene (Reader α) (Clocked Shared)}
    {failed : ConnectorError → Scene (Reader α) (Clocked Shared) → Prop}
    {dropped : Scene (Reader α) (Clocked Shared) → Prop}
    (hwelcomes : before.Welcomes s.client.config.credentials)
    (hqueue : s.client.config.destination = .queue name) (hnamed : Text.isBlank name = false)
    (hpending : s.client.mark.pending = []) (hskipped : s.client.skipped = [])
    (h : Visits before name {} served s.env) :
    Leaves (Reader.acquire ((Shared.endpoint schedule).clocked clock)) s
      (fun _ s' => s'.client.config = s.client.config ∧ s'.client.mark.pending = [] ∧
        s'.client.Equipped before ∧ ∃ connection session, Visits before name
          { connections := [{ id := connection, started := true }]
            sessions := [{
              id := session
              connection := before.connections.length
              mode := .client }]
            consumers := [{ destination := .queue name, session := before.sessions.length }] }
          served s'.env) failed dropped := by
  simp only [Reader.acquire, leaves_bind, Scene.leaves_get, Reader.withLink, Scene.leaves_within,
    setupStep, leaves_mapError, Scene.leaves_modify, Scene.leaves_modifyJournaled]
  refine (leaves_acquireLink hcalm hflawless hwelcomes h).mono_done ?_
  rintro handle ⟨link, journal, env⟩ ⟨hhandle, hlink, connection, session, h₁⟩
  dsimp only at hlink h₁
  refine h₁.leaves_granted hcalm hflawless fun now broker hshows => ?_
  refine ⟨.queue name, broker, ?_, _, hshows, fun env h₂ => ?_⟩
  · rw [hqueue]
    exact broker.resolve_eq_ok now handle hnamed
  refine h₂.leaves_granted hcalm hflawless fun now broker hshows => ?_
  obtain ⟨after, hperform, hshows'⟩ := hshows.createConsumer now rfl rfl rfl hhandle
  refine ⟨_, after, hperform, _, hshows', fun env h₃ => ?_⟩
  refine h₃.leaves_estimator hcalm hflawless (by simp) fun estimator env h₄ => ?_
  refine ⟨rfl, Reader.pending_attach _ _ _, ?_, connection, session, hhandle ▸ h₄⟩
  refine ⟨congrArg Link.connection hlink, ⟨handle, congrArg Link.session hlink, rfl, hhandle⟩, rfl,
    ?_⟩
  simp [Reader.attach, Mark.stale, hpending, hskipped]

end Visits

/-! ## Taking messages -/

/-- A client at work that has acknowledged and released nothing. What it took of the messages that
last is what its session holds. -/
structure Visit.Gathers (before : Broker) (name : String) (lasts : Message → Bool)
    (taken : List Message) (held : List Delivery) (visit : Visit) : Prop where
  works : visit.Works before name held
  gone : visit.gone.filter lasts = taken
  back : visit.back = []
  acknowledged : visit.acknowledged = []
  released : visit.released = []
  holds : ∀ id, id ∈ held.map (·.id) ↔ some id ∈ taken.map (·.id)

variable {lasts : Message → Bool} {taken : List Message} {held : List Delivery}
  {broker after : Broker} {now : Int64} {answer : Option Message} {expired : List Message}

/-- What a client is given is part of the stock. -/
theorem Broker.Receives.mem_stock {message : Message}
    (h : Broker.Receives before broker name now visit held (some message) expired visit' after) :
    message ∈ before.stock after name := by
  obtain ⟨rest, -, hstock⟩ := h.shows.queue
  have hgone : visit'.gone = visit.gone ++ (expired ++ [message]) := by rw [h.changed]; rfl
  rw [hstock, hgone]
  simp

/-- A client takes the message that it is given. None of those lasts that left the queue before. -/
theorem Visit.Gathers.receive (h : visit.Gathers before name lasts taken held)
    (hreceives : Broker.Receives before broker name now visit held answer expired visit' after)
    (hlasting : ∀ message ∈ broker.queue name, message.isExpired now = !lasts message) :
    ∃ held', visit'.Gathers before name lasts (taken ++ answer.toList) held' := by
  have hexpired : expired.filter lasts = [] :=
    Shared.filter_lasts_eq_nil
      (fun message hmem => hlasting message (hreceives.outdated message hmem).1)
      fun message hmem => (hreceives.outdated message hmem).2
  have hgone : visit'.gone = visit.gone ++ (expired ++ answer.toList) := by
    rw [hreceives.changed]
  have hkept : visit'.back = [] ∧ visit'.acknowledged = [] ∧ visit'.released = [] := by
    rw [hreceives.changed]
    exact ⟨h.back, h.acknowledged, h.released⟩
  obtain ⟨hback, hacknowledged, hreleased⟩ := hkept
  cases answer with
  | none =>
    rw [Option.toList_none, List.append_nil] at hgone ⊢
    exact ⟨held, hreceives.nothing rfl, by rw [hgone, List.filter_append, hexpired, h.gone,
      List.append_nil], hback, hacknowledged, hreleased, h.holds⟩
  | some message =>
    -- A message that is given has not expired, so it is one of those that last.
    obtain ⟨hmem, hunexpired, id, hid, hworks⟩ := hreceives.given message rfl
    have hmessage : lasts message = true := by simpa [hunexpired] using hlasting message hmem
    refine ⟨_, hworks, ?_, hback, hacknowledged, hreleased, fun other => ?_⟩
    · rw [hgone, List.filter_append, List.filter_append, hexpired, h.gone]
      simp [hmessage]
    · rw [Broker.mem_map_heldWith, h.holds other]
      simp [hid, eq_comm]

/-- The messages of a queue suited a request that is in the log. -/
theorem Shared.Suits.lasting_add {config : ReadConfig α} {request : Request}
    {outcome : Outcome BrokerError request.Answer}
    (h : (shared.add request outcome after).Suits schedule config name lasts before) :
    ∀ message ∈ shared.broker.queue name,
      message.isExpired (schedule shared.log.length).now = !lasts message :=
  h.lasting _ _ List.getElem?_concat_length

namespace Reader

variable {config : ReadConfig α}

/-- A reader at work has taken some messages that last. Its mark lists them. -/
structure Gathers (before : Broker) (name : String) (config : ReadConfig α)
    (lasts : Message → Bool) (taken : List Message) (s : Scene (Reader α) (Clocked Shared)) :
    Prop where
  same : s.client.config = config
  state : s.client.state = .consuming
  equipped : s.client.Equipped before
  listed : s.client.mark.pending.map (some ·.id) = taken.map (·.id)
  visited : ∃ visit held, visit.Gathers before name lasts taken held ∧
    Visits before name visit true s.env

/-- Time that passes changes nothing of what a reader has taken. -/
theorem Gathers.env {s s' : Scene (Reader α) (Clocked Shared)}
    (h : Gathers before name config lasts taken s) (client : s'.client = s.client)
    (env : s'.env.env = s.env.env) : Gathers before name config lasts taken s' := by
  obtain ⟨visit, held, hgathers, hshows, hserved⟩ := h.visited
  exact ⟨client ▸ h.same, client ▸ h.state, client ▸ h.equipped, client ▸ h.listed,
    visit, held, hgathers, env ▸ hshows, env ▸ hserved⟩

/-- A reader looked for a message. What it took is current. -/
structure Looked (before : Broker) (name : String) (config : ReadConfig α)
    (lasts : Message → Bool) (taken : List Message) (found : Bool)
    (s : Scene (Reader α) (Clocked Shared)) : Prop where
  found : s.client.current.isSome = found
  gathers : ∃ more, Gathers before name config lasts (taken ++ more) s ∧
    List.Forall₂ config.Yields more s.client.current.toList

variable (hcalm : schedule.Publishes) (hflawless : schedule.NeverFails)
include hcalm hflawless

/-- A reader at work looks for a message, and fails only if the messages do not suit it. -/
theorem Gathers.leaves_advance {s : Scene (Reader α) (Clocked Shared)}
    {dropped : Scene (Reader α) (Clocked Shared) → Prop}
    (hwelcomes : before.Welcomes config.credentials)
    (h : Gathers before name config lasts taken s) :
    Leaves (advance ((Shared.endpoint schedule).clocked clock)) s
      (fun found s' => s'.env.env.Suits schedule config name lasts before →
        Looked before name config lasts taken found s')
      (fun _ s' => ¬ s'.env.env.Suits schedule config name lasts before) dropped := by
  obtain ⟨reader, journal, env⟩ := s
  obtain ⟨hsame, hstate, hequipped, hlisted, visit, held, hgathers, hvisits⟩ := h
  dsimp only at hsame hstate hequipped hlisted hvisits
  simp only [advance, leaves_bind, Scene.leaves_get, hstate, ne_eq, not_true_eq_false, if_false,
    Scene.leaves_modify, hequipped.consumer, hequipped.skipped, List.length_nil]
  unfold poll
  rw [leaves_bind, leaves_mapError]
  refine hvisits.leaves_reply hcalm hflawless fun shared hlog hshows env => ?_
  obtain ⟨answer, expired, visit', after, hreceives⟩ := hshows.receive hgathers.works
    hgathers.back (hwelcomes.of_terms hshows.terms).delivers (schedule shared.log.length).now
  rw [hreceives.granted]
  intro henv
  have hvisits' := hvisits.granted hlog hreceives.shows henv
  have hreceived (hsuits : env.env.Suits schedule config name lasts before) :
      ∃ held', visit'.Gathers before name lasts (taken ++ answer.toList) held' := by
    rw [henv] at hsuits
    exact hgathers.receive hreceives hsuits.lasting_add
  cases answer with
  | none =>
    intro hsuits
    obtain ⟨held', hgathers'⟩ := hreceived hsuits
    refine ⟨rfl, [], ⟨hsame, rfl, ?_, ?_, visit', held', hgathers', hvisits'⟩, .nil⟩
    · exact ⟨hequipped.connection, hequipped.session, rfl, rfl⟩
    · rwa [List.append_nil]
  | some message =>
    obtain ⟨hmem, hunexpired, id, hid, -⟩ := hreceives.given message rfl
    simp only [hid, leaves_bind, Scene.leaves_modifyJournaled, emit, Scene.leaves_get, track,
      Mark.add, hsame]
    cases hmapped : config.mapper message with
    | error reason =>
      intro hsuits
      -- A message that is not expired now is one that lasts, and those are mapped.
      have hlasts : lasts message = true := by
        rw [henv] at hsuits
        simpa [hunexpired] using hsuits.lasting_add message hmem
      have hstock : message ∈ before.stock env.env.broker name := by
        rw [henv]
        exact hreceives.mem_stock
      obtain ⟨value, hvalue⟩ := hsuits.mapped message hstock hlasts
      rw [hmapped] at hvalue
      cases hvalue
    | ok value =>
      intro hsuits
      obtain ⟨held', hgathers'⟩ := hreceived hsuits
      refine ⟨rfl, [message], ⟨rfl, rfl, ?_, ?_, visit', held', hgathers', hvisits'⟩, ?_⟩
      · exact ⟨hequipped.connection, hequipped.session, rfl, rfl⟩
      · simp [hlisted, hid]
      · exact .cons ⟨by simp [hid], hmapped, rfl⟩ .nil

/-- A reader that starts looks for a message, and fails only if the messages do not suit it. -/
theorem leaves_start_looking {s : Scene (Reader α) (Clocked Shared)}
    {dropped : Scene (Reader α) (Clocked Shared) → Prop}
    (hwelcomes : before.Welcomes config.credentials) (hqueue : config.destination = .queue name)
    (hnamed : Text.isBlank name = false) (hcreated : s.client = create config none)
    (h : Visits before name {} true s.env) :
    Leaves (start ((Shared.endpoint schedule).clocked clock)) s
      (fun found s' => s'.env.env.Suits schedule config name lasts before →
        Looked before name config lasts [] found s')
      (fun _ s' => ¬ s'.env.env.Suits schedule config name lasts before) dropped := by
  obtain ⟨reader, journal, env⟩ := s
  dsimp only at hcreated h
  subst hcreated
  simp only [start, leaves_bind, Scene.leaves_get, create, ne_eq, not_true_eq_false, if_false,
    Scene.leaves_modify, leaves_attempt]
  refine (h.leaves_acquire hcalm hflawless hwelcomes hqueue hnamed rfl rfl).mono_done ?_
  rintro - ⟨reader, journal, env⟩ ⟨hsame, hpending, hequipped, connection, session, h⟩
  dsimp only at hsame hpending hequipped h
  refine Gathers.leaves_advance hcalm hflawless hwelcomes ⟨hsame, rfl, ?_, ?_, ?_⟩
  · exact ⟨hequipped.connection, hequipped.session, hequipped.consumer, hequipped.skipped⟩
  · rw [hpending]
    rfl
  · refine ⟨_, [], ⟨⟨⟨connection, rfl⟩, ⟨session, rfl⟩, rfl⟩, rfl, rfl, rfl, rfl, ?_⟩, h⟩
    simp

/-- A reader may look for a message: it was just created, or it is at work. -/
inductive Looks (before : Broker) (name : String) (config : ReadConfig α)
    (lasts : Message → Bool) : List Message → Scene (Reader α) (Clocked Shared) → Prop where
  | created {s : Scene (Reader α) (Clocked Shared)} (created : s.client = create config none)
    (visits : Visits before name {} true s.env) : Looks before name config lasts [] s
  | working {taken : List Message} {s : Scene (Reader α) (Clocked Shared)}
    (gathers : Gathers before name config lasts taken s) : Looks before name config lasts taken s

/-- A reader looks for a message, and is started first if need be. -/
theorem Looks.leaves_look {s : Scene (Reader α) (Clocked Shared)}
    {dropped : Scene (Reader α) (Clocked Shared) → Prop}
    (hwelcomes : before.Welcomes config.credentials) (hqueue : config.destination = .queue name)
    (hnamed : Text.isBlank name = false) (h : Looks before name config lasts taken s) :
    Leaves (if s.client.state = .uninitialized
        then start ((Shared.endpoint schedule).clocked clock)
        else advance ((Shared.endpoint schedule).clocked clock)) s
      (fun found s' => s'.env.env.Suits schedule config name lasts before →
        Looked before name config lasts taken found s')
      (fun _ s' => ¬ s'.env.env.Suits schedule config name lasts before) dropped := by
  cases h with
  | created created visits =>
    rw [if_pos (by rw [created]; rfl)]
    exact leaves_start_looking hcalm hflawless hwelcomes hqueue hnamed created visits
  | working gathers =>
    rw [if_neg (by rw [gathers.state]; decide)]
    exact gathers.leaves_advance hcalm hflawless hwelcomes

end Reader

/-! ## Acknowledging -/

/-- What becomes of a visit when the entries of a mark are acknowledged one after another. The
session holds none of them any more. Each was acknowledged unless the client was refused one, and
none is refused that the session holds. -/
structure Visit.Settles (before : Broker) (name : String) (held : List Delivery)
    (entries : List PendingDelivery) (visit : Visit) (served : Bool) (visit' : Visit)
    (served' : Bool) : Prop where
  works : visit'.Works before name (held.filter (·.id ∉ entries.map (·.id)))
  changed : visit' = { visit with
    sessions := visit'.sessions, acknowledged := visit'.acknowledged }
  paid : served' = true →
    served = true ∧ visit'.acknowledged = visit.acknowledged ++ entries.map (·.id)
  served : (entries.map (·.id)).Nodup → (∀ entry ∈ entries, entry.id ∈ held.map (·.id)) →
    served' = served

namespace Visit.Settles

variable {middle : Visit} {entry : PendingDelivery} {entries : List PendingDelivery}
  {served served' : Bool}

/-- Nothing is acknowledged when nothing is listed. -/
theorem nil (hworks : visit.Works before name held) :
    Settles before name held [] visit served visit served where
  works := by simpa using hworks
  changed := rfl
  paid hserved := ⟨hserved, (List.append_nil _).symm⟩
  served _ _ := rfl

/-- The first entry is acknowledged. -/
theorem cons (hmiddle : middle = { visit with
      sessions := middle.sessions, acknowledged := visit.acknowledged ++ [entry.id] })
    (h : Settles before name (held.filter (·.id ≠ entry.id)) entries middle served visit' served') :
    Settles before name held (entry :: entries) visit served visit' served' where
  works := by
    have hfilter : held.filter (·.id ∉ (entry :: entries).map (·.id)) =
        (held.filter (·.id ≠ entry.id)).filter (·.id ∉ entries.map (·.id)) := by
      rw [List.filter_filter]
      refine List.filter_congr fun delivery _ => ?_
      simp [Bool.and_comm]
    rw [hfilter]
    exact h.works
  changed := by
    have hchanged := h.changed
    rw [hmiddle] at hchanged
    exact hchanged
  paid hserved := by
    obtain ⟨hserved, hpaid⟩ := h.paid hserved
    rw [hmiddle] at hpaid
    exact ⟨hserved, by rw [hpaid, List.append_assoc]; rfl⟩
  served hnodup hheld := by
    rw [List.map_cons, List.nodup_cons] at hnodup
    refine h.served hnodup.2 fun other hother => ?_
    obtain ⟨delivery, hdelivery, hid⟩ :=
      List.mem_map.1 (hheld other (List.mem_cons_of_mem _ hother))
    refine List.mem_map.2 ⟨delivery, List.mem_filter.2 ⟨hdelivery, decide_eq_true ?_⟩, hid⟩
    rintro heq
    exact hnodup.1 (heq ▸ hid ▸ List.mem_map_of_mem hother)

/-- The first entry is refused, since the session does not hold it. -/
theorem skip (hheld : entry.id ∉ held.map (·.id))
    (h : Settles before name held entries visit false visit' served') :
    Settles before name held (entry :: entries) visit served visit' served' where
  works := by
    have hfilter : held.filter (·.id ∉ (entry :: entries).map (·.id)) =
        held.filter (·.id ∉ entries.map (·.id)) := by
      refine List.filter_congr fun delivery hdelivery => ?_
      have hne : delivery.id ≠ entry.id := fun heq => hheld (heq ▸ List.mem_map_of_mem hdelivery)
      simp [hne]
    rw [hfilter]
    exact h.works
  changed := h.changed
  paid hserved := absurd (h.paid hserved).1 Bool.false_ne_true
  served _ hall := (hheld (hall entry List.mem_cons_self)).elim

end Visit.Settles

section

variable (hcalm : schedule.Publishes) (hflawless : schedule.NeverFails)
include hcalm hflawless

/-- The entries of a mark are acknowledged one after another, and nothing else fails. -/
theorem Visits.leaves_settle {s : Scene Mark (Clocked Shared)} {handle : SessionHandle}
    {failed : ConnectorError → Scene Mark (Clocked Shared) → Prop}
    {dropped : Scene Mark (Clocked Shared) → Prop} (hhandle : handle.index = before.sessions.length)
    (entries : List PendingDelivery) (hworks : visit.Works before name held)
    (h : Visits before name visit served s.env) :
    Leaves (Mark.settle ((Shared.endpoint schedule).clocked clock) handle entries) s
      (fun settlement s' => settlement.failure = none ∧ s'.client = s.client ∧
        ∃ visit' served', Visit.Settles before name held entries visit served visit' served' ∧
          Visits before name visit' served' s'.env) failed dropped := by
  induction entries generalizing s visit held served with
  | nil => exact ⟨rfl, rfl, visit, served, .nil hworks, h⟩
  | cons entry entries ih =>
    simp only [Mark.settle, leaves_bind, leaves_attempt]
    refine h.leaves_reply hcalm hflawless fun shared hlog hshows env => ?_
    by_cases hheld : entry.id ∈ held.map (·.id)
    · obtain ⟨middle, after, hperform, hworks', hmiddle, hshows'⟩ :=
        hshows.acknowledge hworks hhandle hheld (schedule shared.log.length).now
      rw [hperform]
      intro henv
      refine (ih hworks' (h.granted hlog hshows' henv)).mono_done ?_
      rintro others s' ⟨hfailure, hclient, visit', served', hsettles, hvisits⟩
      exact ⟨hfailure, hclient, visit', served', hsettles.cons hmiddle, hvisits⟩
    · rw [hshows.acknowledge_of_not_mem hworks hhandle hheld]
      intro henv
      simp only [BrokerError.isNotPending, if_true, leaves_bind, Scene.leaves_note]
      refine (ih hworks (of_refused hshows henv)).mono_done ?_
      rintro others s' ⟨hfailure, hclient, visit', served', hsettles, hvisits⟩
      exact ⟨hfailure, hclient, visit', served', hsettles.skip hheld, hvisits⟩

end

/-! ## Leaving -/

/-- What a client took of the messages that last is what left the queue. It acknowledged all of it
unless it was refused something, and it was refused nothing if no two messages that it took have the
same identifier. -/
structure Visit.Pays (lasts : Message → Bool) (taken : List Message) (served : Bool)
    (visit : Visit) : Prop where
  gone : visit.gone.filter lasts = taken
  back : visit.back = []
  paid : served = true → visit.acknowledged.map some = taken.map (·.id)
  served : (taken.map (·.id)).Nodup → served = true

/-- What a client has opened and closed again. -/
structure Visit.Closes (before : Broker) (name : String) (visit : Visit) : Prop where
  connections : ∃ id, visit.connections = [{ id := id, closed := true }]
  sessions : ∃ id, visit.sessions =
    [{ id := id, connection := before.connections.length, mode := .client, closed := true }]
  consumers : visit.consumers =
    [{ destination := .queue name, session := before.sessions.length, closed := true }]
  released : visit.released = [.consumer, .session, .connection]

/-- A client that settled what its mark lists has paid for what it took. Nothing is held then. -/
theorem Visit.Settles.pays {entries : List PendingDelivery} {served : Bool}
    (h : Settles before name held entries visit true visit' served)
    (hgathers : visit.Gathers before name lasts taken held)
    (hlisted : entries.map (some ·.id) = taken.map (·.id)) :
    visit'.Works before name [] ∧ visit'.released = [] ∧ visit'.Pays lasts taken served := by
  have hids : (entries.map (·.id)).map some = taken.map (·.id) := by
    rw [List.map_map]
    exact hlisted
  have hmem (id : MessageId) : id ∈ held.map (·.id) ↔ id ∈ entries.map (·.id) := by
    rw [hgathers.holds, ← hids]
    simp
  have hnone : held.filter (·.id ∉ entries.map (·.id)) = [] := by
    refine List.filter_eq_nil_iff.2 fun delivery hdelivery => ?_
    simpa using (hmem delivery.id).1 (List.mem_map_of_mem hdelivery)
  refine ⟨hnone ▸ h.works, ?_, ?_, ?_, fun hserved => ?_, fun hnodup => ?_⟩
  · rw [h.changed]
    exact hgathers.released
  · rw [h.changed]
    exact hgathers.gone
  · rw [h.changed]
    exact hgathers.back
  · rw [(h.paid hserved).2, hgathers.acknowledged, List.nil_append, hids]
  · rw [← hids] at hnodup
    exact h.served hnodup.of_map fun entry hentry => (hmem _).2 (List.mem_map_of_mem hentry)

namespace Reader

variable {config : ReadConfig α}

/-- A reader that finalized its mark can be closed and puts nothing back then. -/
structure Leaving (before : Broker) (name : String) (lasts : Message → Bool)
    (taken : List Message) (s : Scene (Reader α) (Clocked Shared)) : Prop where
  equipped : s.client.Equipped before
  visited : ∃ visit served, visit.Works before name [] ∧ visit.released = [] ∧
    visit.Pays lasts taken served ∧ Visits before name visit served s.env

/-- The visit of a reader is over. -/
def Departed (before : Broker) (name : String) (lasts : Message → Bool) (taken : List Message)
    (env : Clocked Shared) : Prop :=
  ∃ visit served, Visits before name visit served env ∧ visit.Closes before name ∧
    visit.Pays lasts taken served

variable (hcalm : schedule.Publishes) (hflawless : schedule.NeverFails)
include hcalm hflawless

/-- A reader at work finalizes its mark. -/
theorem Gathers.leaves_finalize {s : Scene (Reader α) (Clocked Shared)}
    {failed : ConnectorError → Scene (Reader α) (Clocked Shared) → Prop}
    {dropped : Scene (Reader α) (Clocked Shared) → Prop}
    (h : Gathers before name config lasts taken s) :
    Leaves (finalize ((Shared.endpoint schedule).clocked clock)) s
      (fun _ s' => Leaving before name lasts taken s') failed dropped := by
  obtain ⟨reader, journal, env⟩ := s
  obtain ⟨-, -, hequipped, hlisted, visit, held, hgathers, hvisits⟩ := h
  dsimp only at hequipped hlisted hvisits
  obtain ⟨handle, hlink, hmark, hhandle⟩ := hequipped.session
  simp only [finalize, Scene.leaves_within, Mark.finalize, leaves_bind, Scene.leaves_get]
  split
  · rename_i hempty
    rw [List.isEmpty_iff.1 hempty] at hlisted
    obtain ⟨hworks, hreleased, hpays⟩ :=
      (Visit.Settles.nil hgathers.works).pays hgathers hlisted
    exact ⟨hequipped, visit, true, hworks, hreleased, hpays, hvisits⟩
  · simp only [hmark, leaves_bind, Scene.leaves_modifyJournaled, Scene.leaves_count]
    refine (hvisits.leaves_settle hcalm hflawless hhandle _ hgathers.works).mono_done ?_
    rintro settlement ⟨mark, journal, env⟩ ⟨hfailure, hclient, visit', served', hsettles, hvisits'⟩
    dsimp only at hclient hvisits'
    subst hclient
    obtain ⟨hworks, hreleased, hpays⟩ := hsettles.pays hgathers hlisted
    simp only [hfailure, leaves_pure]
    refine ⟨⟨hequipped.connection, ⟨handle, hlink, ?_, hhandle⟩, hequipped.consumer,
      hequipped.skipped⟩, visit', served', hworks, hreleased, hpays, hvisits'⟩
    rw [Mark.session_dropSettled, hmark]

/-- A reader that finalized its mark releases what it has. -/
theorem Leaving.leaves_close {credentials : Option Credentials}
    {s : Scene (Reader α) (Clocked Shared)}
    {failed : ConnectorError → Scene (Reader α) (Clocked Shared) → Prop}
    {dropped : Scene (Reader α) (Clocked Shared) → Prop}
    (hwelcomes : before.Welcomes credentials) (h : Leaving before name lasts taken s) :
    Leaves (close ((Shared.endpoint schedule).clocked clock)) s
      (fun _ s' => Departed before name lasts taken s'.env) failed dropped := by
  obtain ⟨reader, journal, env⟩ := s
  obtain ⟨hequipped, visit, served, ⟨⟨connection, hconnections⟩, ⟨session, hsessions⟩, hconsumers⟩,
    hreleased, hpays, hvisits⟩ := h
  dsimp only at hequipped hvisits
  obtain ⟨handle, hlink, -, hhandle⟩ := hequipped.session
  -- The visit is taken apart, so that every release below computes what is left of it.
  obtain ⟨connections, sessions, consumers, gone, back, acknowledged, released⟩ := visit
  dsimp only at hconnections hsessions hconsumers hreleased
  subst hconnections hsessions hconsumers hreleased
  simp only [close, releaseConsumer, hequipped.consumer, leaves_bind, Scene.leaves_get,
    Scene.leaves_modify]
  refine hvisits.leaves_release hcalm hflawless _ fun now broker hshows => ?_
  obtain ⟨after, hperform, hshows'⟩ := hshows.closeConsumer now rfl rfl
  refine ⟨(), after, hperform, _, hshows', fun env h₁ => ?_⟩
  simp only [withLink, Scene.leaves_within, Link.release, Link.releaseSession, leaves_bind,
    Scene.leaves_get, hlink, Scene.leaves_modify]
  refine h₁.leaves_release hcalm hflawless _ fun now broker hshows => ?_
  obtain ⟨after, hperform, hshows'⟩ := hshows.closeSession now rfl rfl
    (hwelcomes.of_terms hshows.terms).closesSessions hhandle
  refine ⟨(), after, hperform, _, hshows', fun env h₂ => ?_⟩
  simp only [Link.releaseConnection, leaves_bind, Scene.leaves_get, hequipped.connection,
    Scene.leaves_modify]
  refine h₂.leaves_release hcalm hflawless _ fun now broker hshows => ?_
  obtain ⟨after, hperform, hshows'⟩ := hshows.stopConnection now rfl rfl
  refine ⟨(), after, hperform, _, hshows', fun env h₃ => ?_⟩
  refine h₃.leaves_release hcalm hflawless _ fun now broker hshows => ?_
  obtain ⟨after, hperform, hshows'⟩ := hshows.closeConnection now rfl rfl
  refine ⟨(), after, hperform, _, hshows', fun env h₄ => ?_⟩
  obtain ⟨visit, h₄, hcloses, hpays⟩ : ∃ visit, Visits before name visit served env ∧
      visit.Closes before name ∧ visit.Pays lasts taken served :=
    ⟨_, h₄, ⟨⟨connection, rfl⟩, ⟨session, rfl⟩, rfl, rfl⟩,
      hpays.gone, hpays.back, hpays.paid, hpays.served⟩
  -- The broker is left. The estimator is not one of its resources.
  simp only [releaseEstimator, leaves_bind, Scene.leaves_get]
  cases reader.estimator with
  | none => exact ⟨visit, served, h₄, hcloses, hpays⟩
  | some estimator =>
    simp only [leaves_bind, Scene.leaves_modify, leaves_attempt]
    exact h₄.leaves_estimator hcalm hflawless (by simp) fun _ env h₅ =>
      ⟨visit, served, h₅, hcloses, hpays⟩

end Reader

end

end

end BrokerConnector
