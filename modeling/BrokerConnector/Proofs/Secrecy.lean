import BrokerConnector.Proofs.Accounting
import BrokerConnector.Proofs.Admission
import BrokerConnector.Proofs.Equipment
import BrokerConnector.Proofs.Presenting
import Mathlib.Data.List.Forall2

/-!
# Passwords reach no text

Two runs are compared that differ in passwords: in the one that a read or a write is configured
with, in those that brokers require and in those that other clients present. The shown forms of
credentials, configurations and brokers are the same, because a password is shown by a mask. So is
whatever readers and writers report, as long as every attempt to connect presents right credentials
in both runs or wrong ones in both. That is shown step by step: what is done with a client ends in
one way in both runs and leaves them as much alike as they were (`Scene.Tandem`), so the same holds
of all that is done with it, whatever happens meanwhile (`World.tandem_course`).

It is not enough that an attempt is refused in both runs. A broker that takes no connections looks at
the credentials before it says so, and so tells wrong ones from right ones.
-/

namespace BrokerConnector

/-! ## Shown forms -/

/-- Credentials show whether there is a password, and nothing else of it. -/
theorem Credentials.debug_congr {first second : Credentials}
    (husername : first.username = second.username)
    (hpassword : first.password.isSome = second.password.isSome) : first.debug = second.debug := by
  obtain ⟨username, password⟩ := first
  obtain ⟨username', password'⟩ := second
  obtain rfl : username = username' := husername
  cases password with
  | none =>
    cases password' with
    | none => rfl
    | some _ => cases hpassword
  | some _ =>
    cases password' with
    | none => cases hpassword
    | some _ => rfl

namespace Broker

/-- What a broker keeps in tables. -/
structure Tables where
  waiting : List Waiting
  consumers : List Consumer
  accepted : List (Destination × Message)
  acknowledged : List MessageId
  releases : List ResourceKind
  rejected : List Destination

/-- The texts that show the tables of a broker. -/
structure TableTexts where
  queues : String
  subscribers : String
  history : String
  acknowledgments : String
  released : String
  rejected : String

/-- The tables of a broker. -/
def tables (broker : Broker) : Tables where
  waiting := broker.waiting
  consumers := broker.consumers
  accepted := broker.accepted
  acknowledged := broker.acknowledged
  releases := broker.releases
  rejected := broker.rejected

/-- A broker as a value that is shown. How a table is shown, with its entries in which order, is a
matter of its own. -/
def debug (shown : Tables → TableTexts) (broker : Broker) : String :=
  let texts := shown broker.tables
  Text.structureOf "InMemoryBroker"
    [("state", Text.structureOf "BrokerState"
      [("queues", texts.queues),
       ("subscribers", texts.subscribers),
       ("history", texts.history),
       ("acknowledgments", texts.acknowledgments),
       ("released", texts.released),
       ("rejected", texts.rejected),
       ("credentials", Text.optional (broker.credentials.map Credentials.debug)),
       ("unavailable", Text.truth broker.unavailable),
       ("failing_session_close", Text.truth broker.failingSessionClose),
       ("failing_receive", Text.truth broker.failingReceive),
       ("next_message_id", toString broker.messageCount),
       ("next_resource_id", toString broker.resourceCount)])]

/-- A broker shows of the credentials that it requires what they show. -/
theorem debug_requiring (shown : Tables → TableTexts) (broker : Broker)
    {required required' : Option Credentials}
    (h : required.map Credentials.debug = required'.map Credentials.debug) :
    (broker.requiring required).debug shown = (broker.requiring required').debug shown := by
  simp only [debug, tables, requiring, h]

end Broker

/-! ## Calls in two runs -/

namespace Scene

variable {ρ σ τ ε α : Type}

/-- Two calls end in one way for a client that is changed in one way or the other, with one journal,
in surroundings that are related. The client that they leave is changed in the same two ways, and
the surroundings are related again. -/
def Tandem (view view' : ρ → ρ) (related : σ → τ → Prop) (call : Action (Scene ρ σ) ε α)
    (call' : Action (Scene ρ τ) ε α) : Prop :=
  ∀ client journal env env', related env env' →
    ∃ outcome client' journal' after after',
      call ⟨view client, journal, env⟩ = (outcome, ⟨view client', journal', after⟩) ∧
      call' ⟨view' client, journal, env'⟩ = (outcome, ⟨view' client', journal', after'⟩) ∧
      related after after'

/-- Calls that follow two calls which agree go in tandem. -/
theorem Tandem.of_agree {view view' : ρ → ρ} {related : σ → τ → Prop}
    {call followed : Action (Scene ρ σ) ε α} {call' followed' : Action (Scene ρ τ) ε α}
    (h : Follows view call followed) (h' : Follows view' call' followed')
    (hagree : Agree related followed followed') : Tandem view view' related call call' := by
  intro client journal env env' henv
  obtain ⟨outcome, client', journal', after, after', hcall, hcall', hafter⟩ :=
    hagree client journal env env' henv
  have hview := h ⟨client, journal, env⟩
  have hview' := h' ⟨client, journal, env'⟩
  rw [hcall] at hview
  rw [hcall'] at hview'
  exact ⟨outcome, client', journal', after, after', hview, hview', hafter⟩

end Scene

namespace World

variable {required required' : Nat → Option Credentials} {site : Nat}
  {given given' : Option Credentials}

/-- Clients of a broker that present right credentials, or wrong ones for one user, cannot tell two
worlds that differ in what brokers require. -/
theorem alike_presenting (husers : Credentials.user given = Credentials.user given')
    (h : Credentials.Satisfies given (required site) ↔
      Credentials.Satisfies given' (required' site)) :
    ((endpoint site).presenting given).Alike ((endpoint site).presenting given') (fun _ => True)
      (Differ required required') where
  answer request _ world world' hworlds := by
    obtain ⟨base, rfl, rfl⟩ := hworlds
    by_cases hconnect : ∃ own, request = .broker (.connect own)
    · obtain ⟨own, rfl⟩ := hconnect
      exact base.connect_requiring husers h
    · have hquiet : ∀ own, request ≠ .broker (.connect own) := fun own he => hconnect ⟨own, he⟩
      have hsame : ∀ presented, ((endpoint site).presenting presented).answer request =
          answer site request := by
        intro presented
        cases request with
        | broker request =>
          cases request with
          | connect own => exact (hquiet own rfl).elim
          | _ => rfl
        | _ => rfl
      rw [hsame, hsame, answer_requiring required base site hquiet,
        answer_requiring required' base site hquiet]
      exact ⟨rfl, (answer site request base).2, rfl, rfl⟩
  clock := by
    rintro _ _ ⟨base, rfl, rfl⟩
    rfl
  sleep milliseconds := by
    rintro _ _ ⟨base, rfl, rfl⟩
    have hpass : ∀ other, (endpoint site).sleep milliseconds (base.requiring other) =
        ((base.pass milliseconds).1.requiring other, (base.pass milliseconds).2) :=
      fun other => pass_requiring other base milliseconds
    have hsleep : ∀ presented, ((endpoint site).presenting presented).sleep =
        (endpoint site).sleep := fun _ => rfl
    rw [hsleep, hsleep, hpass, hpass]
    exact ⟨rfl, (base.pass milliseconds).1, rfl, rfl⟩

/-! ## What happens meanwhile -/

/-- What can happen in a world between two calls of a client. -/
inductive Incident where
  /-- Another client or an operator does something at a broker. -/
  | operate (site : Nat) (operation : Operation)
  | inject (site : Nat) (fault : Fault)
  | plan (publications : List Publication)
  | pass (milliseconds : Nat)
  deriving DecidableEq

/-- A world after something happened. -/
def meet (world : World) : Incident → World
  | .operate site operation => world.changeSite site fun found =>
    { found with broker := found.broker.operate world.timeOfDay operation }
  | .inject site fault => world.changeSite site (·.inject fault)
  | .plan publications => { world with planned := publications }
  | .pass milliseconds => (world.pass milliseconds).1

/-- The same happens in both runs, but a client that connects may present other credentials: right
ones in both runs, or wrong ones in both. -/
inductive Incident.Alike (required required' : Nat → Option Credentials) :
    Incident → Incident → Prop where
  | same (incident : Incident)
    (quiet : ∀ site given, incident ≠ .operate site (.request (.connect given))) :
    Alike required required' incident incident
  | attempt (site : Nat) (given given' : Option Credentials)
    (satisfies : Credentials.Satisfies given (required site) ↔
      Credentials.Satisfies given' (required' site)) :
    Alike required required' (.operate site (.request (.connect given)))
      (.operate site (.request (.connect given')))

/-- Sites that are changed to sites which differ in what is required leave such worlds. -/
theorem differ_changeSite (world : World) {change change' : Site → Site}
    (h : ∀ found : Site, ∃ later : Site,
      change (found.requiring (required site)) = later.requiring (required site) ∧
      change' (found.requiring (required' site)) = later.requiring (required' site)) :
    Differ required required' ((world.requiring required).changeSite site change)
      ((world.requiring required').changeSite site change') := by
  unfold changeSite
  simp only [getElem?_sites_requiring]
  cases world.sites[site]? with
  | none => exact ⟨world, rfl, rfl⟩
  | some found =>
    obtain ⟨later, hlater, hlater'⟩ := h found
    refine ⟨{ world with sites := world.sites.set site later }, ?_, ?_⟩
    · simp only [Option.map_some, hlater, set_sites_requiring]
    · simp only [Option.map_some, hlater', set_sites_requiring]

/-- What happens alike leaves worlds that differ in what brokers require only. -/
theorem Incident.Alike.differ {incident incident' : Incident}
    (h : incident.Alike required required' incident') {first second : World}
    (hworlds : Differ required required' first second) :
    Differ required required' (first.meet incident) (second.meet incident') := by
  obtain ⟨world, rfl, rfl⟩ := hworlds
  cases h with
  | same _ quiet =>
    cases incident with
    | operate site operation =>
      have hquiet : ∀ given, operation ≠ .request (.connect given) :=
        fun given he => quiet site given (by rw [he])
      refine differ_changeSite world fun found => ?_
      refine ⟨{ found with broker := found.broker.operate world.timeOfDay operation }, ?_, ?_⟩
      · exact congrArg (fun broker => { found with broker := broker })
          (found.broker.operate_requiring (required site) world.timeOfDay hquiet)
      · exact congrArg (fun broker => { found with broker := broker })
          (found.broker.operate_requiring (required' site) world.timeOfDay hquiet)
    | inject site fault =>
      exact differ_changeSite world fun found => ⟨found.inject fault, rfl, rfl⟩
    | plan publications => exact ⟨{ world with planned := publications }, rfl, rfl⟩
    | pass milliseconds =>
      refine ⟨(world.pass milliseconds).1, ?_, ?_⟩
      · exact congrArg Prod.fst (pass_requiring required world milliseconds)
      · exact congrArg Prod.fst (pass_requiring required' world milliseconds)
  | attempt site given given' satisfies =>
    refine differ_changeSite world fun found => ?_
    obtain ⟨later, hlater, hlater'⟩ := (found.broker.connect_requiring satisfies).2
    refine ⟨{ found with broker := later }, ?_, ?_⟩
    · exact congrArg (fun broker => { found with broker := broker }) hlater
    · exact congrArg (fun broker => { found with broker := broker }) hlater'

/-! ## Courses -/

/-- What comes next for a client: it is used, or something happens meanwhile. -/
inductive Happening (υ : Type) where
  | use (use : υ)
  | meanwhile (incident : Incident)
  deriving DecidableEq

/-- A client is used in one way after another while things happen. Every call of it tells how it
ended. -/
def course {ρ υ : Type} (use : υ → Call ρ World Unit) :
    List (Happening υ) → Scene ρ World → List (Outcome ConnectorError Unit) × Scene ρ World
  | [], s => ([], s)
  | .use next :: rest, s =>
    let (outcome, s) := use next s
    let (outcomes, s) := course use rest s
    (outcome :: outcomes, s)
  | .meanwhile incident :: rest, s => course use rest { s with env := s.env.meet incident }

/-- A client is used in the same way in both runs, while things happen alike. -/
inductive Happening.Alike {υ : Type} (required required' : Nat → Option Credentials) :
    Happening υ → Happening υ → Prop where
  | use (next : υ) : Alike required required' (.use next) (.use next)
  | meanwhile {incident incident' : Incident} (h : incident.Alike required required' incident') :
    Alike required required' (.meanwhile incident) (.meanwhile incident')

/-- Whatever is done with a client ends in one way in both runs, if each single thing does. -/
theorem tandem_course {ρ υ : Type} {view view' : ρ → ρ} {use use' : υ → Call ρ World Unit}
    (huse : ∀ next, Scene.Tandem view view' (Differ required required') (use next) (use' next))
    {happenings happenings' : List (Happening υ)}
    (h : List.Forall₂ (Happening.Alike required required') happenings happenings')
    (client : ρ) (journal : Journal) {first second : World}
    (hworlds : Differ required required' first second) :
    ∃ outcomes client' journal' after after',
      course use happenings ⟨view client, journal, first⟩ =
        (outcomes, ⟨view client', journal', after⟩) ∧
      course use' happenings' ⟨view' client, journal, second⟩ =
        (outcomes, ⟨view' client', journal', after'⟩) ∧
      Differ required required' after after' := by
  induction h generalizing client journal first second with
  | nil => exact ⟨[], client, journal, first, second, rfl, rfl, hworlds⟩
  | cons hnext _ ih =>
    cases hnext with
    | use next =>
      obtain ⟨outcome, client₁, journal₁, first₁, second₁, hcall, hcall', hworlds₁⟩ :=
        huse next client journal first second hworlds
      obtain ⟨outcomes, client', journal', after, after', hrest, hrest', hafter⟩ :=
        ih client₁ journal₁ hworlds₁
      refine ⟨outcome :: outcomes, client', journal', after, after', ?_, ?_, hafter⟩
      · rw [course, hcall]
        simp only [hrest]
      · rw [course, hcall']
        simp only [hrest']
    | meanwhile hincident => exact ih client journal (hincident.differ hworlds)

/-- What two runs report is the same: how the calls ended, and what the journal has. -/
def Reports {ρ : Type} (run run' : List (Outcome ConnectorError Unit) × Scene ρ World) : Prop :=
  run.1 = run'.1 ∧ run.2.journal = run'.2.journal

theorem reports_course {ρ υ : Type} {view view' : ρ → ρ} {use use' : υ → Call ρ World Unit}
    (huse : ∀ next, Scene.Tandem view view' (Differ required required') (use next) (use' next))
    {happenings happenings' : List (Happening υ)}
    (h : List.Forall₂ (Happening.Alike required required') happenings happenings')
    (client : ρ) (journal : Journal) {first second : World}
    (hworlds : Differ required required' first second) :
    Reports (course use happenings ⟨view client, journal, first⟩)
      (course use' happenings' ⟨view' client, journal, second⟩) := by
  obtain ⟨outcomes, client', journal', after, after', hrun, hrun', -⟩ :=
    tandem_course huse h client journal hworlds
  rw [hrun, hrun']
  exact ⟨rfl, rfl⟩

end World

/-! ## Clients -/

section

variable {α ρ : Type} {required required' : Nat → Option Credentials} {site : Nat}
  {given given' : Option Credentials}

/-- Uses a reader. -/
def Reader.Use.call {σ : Type} (endpoint : Endpoint σ) : Use → Call (Reader α) σ Unit
  | start => do let _ ← Reader.start endpoint
  | advance => do let _ ← Reader.advance endpoint
  | finalize => do let _ ← Reader.finalize endpoint
  | close => Reader.close endpoint

/-- Reads with a bounded reader. The choice of each pause and a number of polls are given. -/
def BoundedReader.use {σ : Type} (bounded : BoundedReader α) (endpoint : Endpoint σ)
    (choice : (Nat → Nat) × Nat) : Call Unit σ Unit := do
  let _ ← bounded.read endpoint choice.1 choice.2

variable (husers : Credentials.user given = Credentials.user given')
  (h : Credentials.Satisfies given (required site) ↔
    Credentials.Satisfies given' (required' site))
include husers h

/-- A reader is used alike in both runs. -/
theorem Reader.tandem_use (next : Use) :
    Scene.Tandem (presenting (α := α) given) (presenting given')
      (World.Differ required required') (next.call (World.endpoint site))
      (next.call (World.endpoint site)) := by
  have halike := World.alike_presenting husers h
  cases next with
  | start =>
    exact .of_agree (.bind (follows_start _ given) fun _ => .pure _)
      (.bind (follows_start _ given') fun _ => .pure _)
      (.bind (agree_start halike) fun _ => .pure _)
  | advance =>
    exact .of_agree (.bind (follows_advance _ given) fun _ => .pure _)
      (.bind (follows_advance _ given') fun _ => .pure _)
      (.bind (agree_advance halike) fun _ => .pure _)
  | finalize =>
    exact .of_agree (.bind (follows_finalize _ given) fun _ => .pure _)
      (.bind (follows_finalize _ given') fun _ => .pure _)
      (.bind (agree_finalize halike) fun _ => .pure _)
  | close =>
    exact .of_agree (follows_close _ given) (follows_close _ given')
      (agree_close (halike.mono fun _ _ => trivial))

/-- A bounded reader reads alike in both runs. -/
theorem BoundedReader.tandem_use (bounded : BoundedReader α) (choice : (Nat → Nat) × Nat) :
    Scene.Tandem id id (World.Differ required required')
      ((bounded.presenting given).use (World.endpoint site) choice)
      ((bounded.presenting given').use (World.endpoint site) choice) :=
  .of_agree (.bind (follows_read _ given _ _ bounded) fun _ => .pure _)
    (.bind (follows_read _ given' _ _ bounded) fun _ => .pure _)
    (.bind (agree_read (World.alike_presenting husers h) _ _ bounded) fun _ => .pure _)

/-- A writer is used alike in both runs. -/
theorem Writer.tandem_use (next : Use ρ) :
    Scene.Tandem (presenting given) (presenting given') (World.Differ required required')
      (use (World.endpoint site) next) (use (World.endpoint site) next) := by
  have halike := World.alike_presenting husers h
  have hidle := halike.mono fun request (_ : request.isIdle = true) => trivial
  cases next with
  | setUp =>
    exact .of_agree (follows_setup _ given) (follows_setup _ given') (agree_setup hidle)
  | process record =>
    exact .of_agree (.bind (follows_process _ given record) fun _ => .pure _)
      (.bind (follows_process _ given' record) fun _ => .pure _)
      (.bind (agree_process halike record) fun _ => .pure _)
  | writeAll records =>
    exact .of_agree (.bind (follows_writeAll _ given records) fun _ => .pure _)
      (.bind (follows_writeAll _ given' records) fun _ => .pure _)
      (.bind (agree_writeAll halike records) fun _ => .pure _)
  | tearDown =>
    exact .of_agree (follows_teardown _ given) (follows_teardown _ given') (agree_teardown hidle)
  | drainFailures | closeFailures =>
    simp only [use]
    exact .of_agree (.modify fun _ => rfl) (.modify fun _ => rfl) (.modify _)

end

/-! ## Configurations -/

/-- Credentials with another password. -/
def Credentials.withPassword (password : String) (credentials : Credentials) : Credentials :=
  { credentials with password := some password }

/-- The user of credentials does not depend on the password. -/
theorem Credentials.user_withPassword (credentials : Option Credentials)
    (first second : String) :
    user (credentials.map (withPassword first)) = user (credentials.map (withPassword second)) := by
  cases credentials <;> rfl

/-- A password is shown as any other. -/
theorem Credentials.debug_withPassword (credentials : Option Credentials)
    (first second : String) :
    (credentials.map (withPassword first)).map debug =
      (credentials.map (withPassword second)).map debug := by
  cases credentials with
  | none => rfl
  | some credentials => exact congrArg some (debug_congr rfl rfl)

namespace ReadBuilder

variable {α : Type}

/-- A password reaches a configuration as the password of its credentials, and nothing else. -/
theorem build_password (builder : ReadBuilder α) (password : String) :
    build { builder with password := some password } =
      (build { builder with password := some "" }).map fun config =>
        { config with
          credentials := config.credentials.map (Credentials.withPassword password) } := by
  obtain ⟨factory, queue, topic, username, -, maxNumRecords, maxReadTime, mapper, estimator⟩ :=
    builder
  unfold build
  cases factory with
  | none => rfl
  | some factory =>
    cases Destination.ofRead queue topic with
    | error fault => rfl
    | ok destination =>
      cases mapper with
      | none => rfl
      | some mapper => cases username <;> rfl

end ReadBuilder

namespace WriteBuilder

variable {ρ : Type}

/-- A password reaches a configuration as the password of its credentials, and nothing else. -/
theorem build_password (builder : WriteBuilder ρ) (password : String) :
    build { builder with password := some password } =
      (build { builder with password := some "" }).map fun config =>
        { config with
          credentials := config.credentials.map (Credentials.withPassword password) } := by
  obtain ⟨factory, queue, topic, topicName, username, -, mapper⟩ := builder
  unfold build
  cases factory with
  | none => rfl
  | some factory =>
    cases WriteDestination.ofWrite queue topic topicName with
    | error fault => rfl
    | ok destination =>
      cases mapper with
      | none => rfl
      | some mapper => cases username <;> rfl

end WriteBuilder

/-! ## All together -/

section

variable {α ρ : Type} {required required' : Nat → Option Credentials}

/-- Readers of two configurations, one in each of two runs, report the same. -/
structure ReadConfig.Indistinct (required required' : Nat → Option Credentials)
    (config config' : ReadConfig α) : Prop where
  /-- Whatever is done with a reader, one that begins with a restored mark or without one. -/
  reader : ∀ (mark : Option Mark) (journal : Journal) (world world' : World),
    World.Differ required required' world world' →
    ∀ happenings happenings' : List (World.Happening Reader.Use),
      List.Forall₂ (World.Happening.Alike required required') happenings happenings' →
      World.Reports
        (World.course (Reader.Use.call (World.endpoint config.factory.site)) happenings
          ⟨Reader.create config mark, journal, world⟩)
        (World.course (Reader.Use.call (World.endpoint config'.factory.site)) happenings'
          ⟨Reader.create config' mark, journal, world'⟩)
  /-- Whatever is read by a split of a bounded reader. -/
  bounded : ∀ (isBounded : config.isBounded = true) (isBounded' : config'.isBounded = true)
    (index : Nat) (journal : Journal) (world world' : World),
    World.Differ required required' world world' →
    ∀ happenings happenings' : List (World.Happening ((Nat → Nat) × Nat)),
      List.Forall₂ (World.Happening.Alike required required') happenings happenings' →
      World.Reports
        (World.course (BoundedReader.use ⟨⟨config, index⟩, isBounded⟩
          (World.endpoint config.factory.site)) happenings ⟨(), journal, world⟩)
        (World.course (BoundedReader.use ⟨⟨config', index⟩, isBounded'⟩
          (World.endpoint config'.factory.site)) happenings' ⟨(), journal, world'⟩)

/-- Writers of two configurations, one in each of two runs, report the same whatever is done with
them. -/
def WriteConfig.Indistinct (required required' : Nat → Option Credentials)
    (config config' : WriteConfig ρ) : Prop :=
  ∀ (journal : Journal) (world world' : World), World.Differ required required' world world' →
    ∀ happenings happenings' : List (World.Happening (Writer.Use ρ)),
      List.Forall₂ (World.Happening.Alike required required') happenings happenings' →
      World.Reports
        (World.course (Writer.use (World.endpoint config.factory.site)) happenings
          ⟨{ config := config }, journal, world⟩)
        (World.course (Writer.use (World.endpoint config'.factory.site)) happenings'
          ⟨{ config := config' }, journal, world'⟩)

variable {given given' : Option Credentials}

/-- Reads that differ in their credentials, both right or both wrong ones for one user. -/
theorem ReadConfig.indistinct (config : ReadConfig α)
    (husers : Credentials.user given = Credentials.user given')
    (h : Credentials.Satisfies given (required config.factory.site) ↔
      Credentials.Satisfies given' (required' config.factory.site)) :
    Indistinct required required' { config with credentials := given }
      { config with credentials := given' } where
  reader mark journal _ _ hworlds _ _ hhappenings :=
    World.reports_course (Reader.tandem_use husers h) hhappenings (Reader.create config mark)
      journal hworlds
  bounded isBounded _ index journal _ _ hworlds _ _ hhappenings :=
    World.reports_course
      (BoundedReader.tandem_use husers h ⟨⟨{ config with credentials := given }, index⟩, isBounded⟩)
      hhappenings () journal hworlds

/-- Writes that differ in their credentials, both right or both wrong ones for one user. -/
theorem WriteConfig.indistinct (config : WriteConfig ρ)
    (husers : Credentials.user given = Credentials.user given')
    (h : Credentials.Satisfies given (required config.factory.site) ↔
      Credentials.Satisfies given' (required' config.factory.site)) :
    Indistinct required required' { config with credentials := given }
      { config with credentials := given' } :=
  fun journal _ _ hworlds _ _ hhappenings =>
    World.reports_course (Writer.tandem_use husers h) hhappenings { config := config } journal
      hworlds

end

/-- Passwords reach no text. Credentials, the brokers that require them, and the configurations that
are built of two reads or two writes are shown alike if they differ in a password only, and where
none is built the fault is the same. Whatever is done with their readers and writers, how every call
ends and what the journal has are the same, where brokers differ in the credentials that they
require: provided that whoever connects, the readers and writers and all others, presents right
credentials in both runs or wrong ones in both. -/
theorem passwords_reach_no_text {α ρ : Type} (first second : String)
    (required required' : Nat → Option Credentials) :
    (∀ user, Credentials.debug ⟨user, some first⟩ = Credentials.debug ⟨user, some second⟩) ∧
    (∀ (shown : Broker.Tables → Broker.TableTexts) (broker : Broker) (user : String),
      (broker.requiring (some ⟨user, some first⟩)).debug shown =
        (broker.requiring (some ⟨user, some second⟩)).debug shown) ∧
    (∀ builder : ReadBuilder α,
      let one : ReadBuilder α := { builder with password := some first }
      let other : ReadBuilder α := { builder with password := some second }
      one.build.map (fun config => (config.debug, config.credentials.map Credentials.debug)) =
          other.build.map
            (fun config => (config.debug, config.credentials.map Credentials.debug)) ∧
        ∀ config config', one.build = .ok config → other.build = .ok config' →
          (Credentials.Satisfies config.credentials (required config.factory.site) ↔
            Credentials.Satisfies config'.credentials (required' config'.factory.site)) →
          config.Indistinct required required' config') ∧
    ∀ builder : WriteBuilder ρ,
      let one : WriteBuilder ρ := { builder with password := some first }
      let other : WriteBuilder ρ := { builder with password := some second }
      one.build.map (fun config => (config.debug, config.credentials.map Credentials.debug)) =
          other.build.map
            (fun config => (config.debug, config.credentials.map Credentials.debug)) ∧
        ∀ config config', one.build = .ok config → other.build = .ok config' →
          (Credentials.Satisfies config.credentials (required config.factory.site) ↔
            Credentials.Satisfies config'.credentials (required' config'.factory.site)) →
          config.Indistinct required required' config' := by
  refine ⟨fun user => Credentials.debug_congr rfl rfl, fun shown broker user => ?_,
    fun builder => ?_, fun builder => ?_⟩
  · exact broker.debug_requiring shown (congrArg some (Credentials.debug_congr rfl rfl))
  · -- Both builders build what one with an empty password builds, each with its own put in.
    simp only [builder.build_password first, builder.build_password second]
    generalize ({ builder with password := some "" } : ReadBuilder α).build = built
    cases built with
    | error fault => exact ⟨rfl, fun config config' hconfig => by cases hconfig⟩
    | ok base =>
      refine ⟨?_, ?_⟩
      · simp only [Except.map, ReadConfig.debug,
          Credentials.debug_withPassword base.credentials first second]
      · rintro _ _ ⟨⟩ ⟨⟩ h
        exact base.indistinct (Credentials.user_withPassword _ _ _) h
  · simp only [builder.build_password first, builder.build_password second]
    generalize ({ builder with password := some "" } : WriteBuilder ρ).build = built
    cases built with
    | error fault => exact ⟨rfl, fun config config' hconfig => by cases hconfig⟩
    | ok base =>
      refine ⟨?_, ?_⟩
      · simp only [Except.map, WriteConfig.debug,
          Credentials.debug_withPassword base.credentials first second]
      · rintro _ _ ⟨⟩ ⟨⟩ h
        exact base.indistinct (Credentials.user_withPassword _ _ _) h

/-! ### Orders -/

/-- A read of orders by a user whose password is not set yet. -/
def ordersRead : ReadBuilder Unit where
  factory := some ⟨0, "Broker"⟩
  queue := some "orders"
  username := some "app"
  mapper := some fun _ => .ok ()

/-- A write of orders by a user whose password is not set yet. -/
def ordersWrite : WriteBuilder Unit where
  factory := some ⟨0, "Broker"⟩
  queue := some "orders"
  username := some "app"
  mapper := some fun _ _ => .ok { body := .text "order" }

/-- What a broker requires of the user of orders. -/
def ordersPassword (password : String) : Nat → Option Credentials :=
  fun _ => some ⟨"app", some password⟩

/-- A world with one broker. -/
def ordersWorld : World where
  timeOfDay := 0
  sites := [{}]

/-- A client with a password connects at a broker, which takes no connections from then on, and a
writer of orders is set up. -/
def ordersCourse (password : String) : List (World.Happening (Writer.Use Unit)) :=
  [.meanwhile (.operate 0 (.request (.connect (some ⟨"app", some password⟩)))),
   .meanwhile (.operate 0 (.turn .unavailable true)),
   .use .setUp]

/-- A broker requires one password and another broker another one. A reader that presents a third
or a fourth password is refused by the name of its user. A writer that presents the right one cannot
be set up either once the broker takes no connections, and its failure is the same too. -/
theorem passwords_of_orders :
    let world := ordersWorld.requiring (ordersPassword "one")
    let world' := ordersWorld.requiring (ordersPassword "two")
    (∃ config config' : ReadConfig Unit,
      ReadBuilder.build { ordersRead with password := some "three" } = .ok config ∧
      ReadBuilder.build { ordersRead with password := some "four" } = .ok config' ∧
      config.debug = config'.debug ∧
      (World.course (Reader.Use.call (World.endpoint 0)) [.use Reader.Use.start]
        ⟨Reader.create config none, {}, world⟩).1 =
          [.failed (.setup .connect (.authentication "app"))] ∧
      (World.course (Reader.Use.call (World.endpoint 0)) [.use Reader.Use.start]
        ⟨Reader.create config' none, {}, world'⟩).1 =
          [.failed (.setup .connect (.authentication "app"))]) ∧
    ∃ config config' : WriteConfig Unit,
      WriteBuilder.build { ordersWrite with password := some "one" } = .ok config ∧
      WriteBuilder.build { ordersWrite with password := some "two" } = .ok config' ∧
      (World.course (Writer.use (World.endpoint 0)) (ordersCourse "one")
        ⟨{ config := config }, {}, world⟩).1 =
          [.failed (.setup .connect (.unavailable "in-memory broker refuses connections"))] ∧
      (World.course (Writer.use (World.endpoint 0)) (ordersCourse "two")
        ⟨{ config := config' }, {}, world'⟩).1 =
          [.failed (.setup .connect (.unavailable "in-memory broker refuses connections"))] := by
  intro world world'
  have hworlds : World.Differ (ordersPassword "one") (ordersPassword "two") world world' :=
    ⟨ordersWorld, rfl, rfl⟩
  constructor
  · obtain ⟨-, -, hread, -⟩ := @passwords_reach_no_text Unit Unit "three" "four"
      (ordersPassword "one") (ordersPassword "two")
    obtain ⟨hshown, hreads⟩ := hread ordersRead
    have hreports := (hreads _ _ rfl rfl (by decide)).reader none {} world world' hworlds
      [.use .start] [.use .start] (.cons (.use _) .nil)
    refine ⟨_, _, rfl, rfl, congrArg Prod.fst (Except.ok.inj hshown), ?_, ?_⟩
    · decide +kernel
    · exact hreports.1.symm.trans (by decide +kernel)
  · obtain ⟨-, -, -, hwrite⟩ := @passwords_reach_no_text Unit Unit "one" "two"
      (ordersPassword "one") (ordersPassword "two")
    have hreports := (hwrite ordersWrite).2 _ _ rfl rfl (by decide) {} world world' hworlds
      (ordersCourse "one") (ordersCourse "two")
      (.cons (.meanwhile (.attempt 0 _ _ (by decide)))
        (.cons (.meanwhile (.same _ nofun)) (.cons (.use _) .nil)))
    refine ⟨_, _, rfl, rfl, ?_, ?_⟩
    · decide +kernel
    · exact hreports.1.symm.trans (by decide +kernel)

/-- Passwords that are right at one broker and wrong at another, neither of which takes connections:
each attempt is refused, one because there are no connections to be had, and the other, before that,
because of the password. So the failures of two readers tell which one had the right password. -/
theorem refusals_of_unavailable :
    let closed : World := { timeOfDay := 0, sites := [{ broker := { unavailable := true } }] }
    let world := closed.requiring (ordersPassword "one")
    let world' := closed.requiring (ordersPassword "two")
    ∃ config config' : ReadConfig Unit,
      ReadBuilder.build { ordersRead with password := some "one" } = .ok config ∧
      ReadBuilder.build { ordersRead with password := some "three" } = .ok config' ∧
      (world.perform 0 (.connect config.credentials)).1 =
        .failed (.unavailable "in-memory broker refuses connections") ∧
      (world'.perform 0 (.connect config'.credentials)).1 = .failed (.authentication "app") ∧
      (Reader.start (World.endpoint 0) ⟨Reader.create config none, {}, world⟩).1 =
        .failed (.setup .connect (.unavailable "in-memory broker refuses connections")) ∧
      (Reader.start (World.endpoint 0) ⟨Reader.create config' none, {}, world'⟩).1 =
        .failed (.setup .connect (.authentication "app")) ∧
      ConnectorError.message
          (.setup .connect (.unavailable "in-memory broker refuses connections")) ≠
        ConnectorError.message (.setup .connect (.authentication "app")) := by
  refine ⟨_, _, rfl, rfl, ?_, ?_, ?_, ?_, ?_⟩ <;> decide +kernel

end BrokerConnector
