import BrokerConnector.Proofs.Broker.Grants
import BrokerConnector.Proofs.Ledger

/-!
# Links to a shared broker

The requests of a client that shares a broker with others, and how its link is acquired and
released. A link that is acquired has a session that holds nothing. A link that is released asks to
close its session, and between that and everything around it others are at work.
-/

namespace BrokerConnector

open BrokerConnector.Action

variable {ρ : Type} {schedule : Schedule} {calm : Prop}

namespace Scene

/-- Time passes before a request is granted or not. -/
theorem ensures_request {s : Scene ρ Shared} {request : BrokerRequest} {kept : Nat → Prop}
    {done : request.Answer → Scene ρ Shared → Prop}
    {failed : BrokerError → Scene ρ Shared → Prop} (hcalm : calm → schedule.Publishes)
    (hkept : ∀ index, kept index → index ∈ s.env.sessions)
    (granted : ∀ (middle : Shared) now answer broker,
      Shared.Passes calm True kept s.env middle →
      middle.broker.perform now request = (.ok answer, broker) →
      done answer { s with env := middle.add (.broker request) (.done answer) broker })
    (refused : ∀ (middle : Shared) number error,
      Shared.Passes calm True kept s.env middle →
      (schedule number).failure (.broker request) = some error ∨
        (middle.broker.perform (schedule number).now request).1 = .error error →
      failed error { s with
        env := middle.add (.broker request) (.failed error) middle.broker }) :
    Ensures (ask (Shared.endpoint schedule) (.broker request)) s done failed := by
  have hothers : ∀ number, Shared.Passes calm True kept s.env
      (s.env.others (schedule number).others) := fun number =>
    s.env.passes_others _ hkept fun h => hcalm h number
  refine ensures_ask (fun number answer broker h => ?_) fun number error h => ?_
  · exact granted _ _ answer broker (hothers number) h
  · exact refused _ number error (hothers number) h

/-- A quiet request passes, granted or not. -/
theorem ensures_quiet {s : Scene ρ Shared} {request : BrokerRequest} (steady : Prop)
    {kept : Nat → Prop} {done : request.Answer → Scene ρ Shared → Prop}
    {failed : BrokerError → Scene ρ Shared → Prop} (hcalm : calm → schedule.Publishes)
    (hquiet : request.isQuiet = true) (hsteady : steady → request.isSteady = true)
    (hkept : ∀ index, kept index → index ∈ s.env.sessions)
    (granted : ∀ (middle : Shared) now answer broker,
      middle.broker.perform now request = (.ok answer, broker) →
      Shared.Passes calm steady kept s.env (middle.add (.broker request) (.done answer) broker) →
      done answer { s with env := middle.add (.broker request) (.done answer) broker })
    (refused : ∀ error env, Shared.Passes calm True kept s.env env →
      failed error { s with env := env }) :
    Ensures (ask (Shared.endpoint schedule) (.broker request)) s done failed := by
  refine ensures_request hcalm hkept ?_ ?_
  · intro middle now answer broker hpasses h
    exact granted middle now answer broker h
      ((hpasses.mono id (fun _ => trivial) fun _ => id).trans
        (Shared.passes_granted h hquiet hsteady))
  · intro middle number error hpasses _
    exact refused error _ (hpasses.trans (Shared.passes_failed _ error))

end Scene

namespace Shared

/-- A session that was opened here is open, holds nothing, and delivers in a calm time. -/
structure Offers (calm : Prop) (handle : SessionHandle) (shared : Shared) : Prop where
  opened : handle.index ∈ shared.sessions
  fresh : ∃ session, shared.broker.sessions[handle.index]? = some session ∧
    session.mode = .client ∧ session.closed = false ∧ session.held = [] ∧
      (calm → shared.broker.isStarted session.connection = true)

variable {handle : SessionHandle} {first second : Shared}

/-- Connections that stay the same deliver as before. -/
theorem isStarted_of_passes {steady : Prop} {kept : Nat → Prop} {connection : Nat} (hcalm : calm)
    (hsteady : steady) (h : Passes calm steady kept first second)
    (hstarted : first.broker.isStarted connection = true) :
    second.broker.isStarted connection = true := by
  unfold Broker.isStarted at hstarted ⊢
  rwa [h.connections hcalm hsteady]

/-- A session is offered as long as it is left alone. -/
theorem Offers.passes (h : first.Offers calm handle)
    (hpasses : Passes calm True (· = handle.index) first second) :
    second.Offers calm handle := by
  obtain ⟨session, found, client, isOpen, empty, started⟩ := h.fresh
  refine ⟨hpasses.sessions h.opened, session, hpasses.spares.sessions _ _ rfl found, client, isOpen,
    empty, fun hc => isStarted_of_passes hc trivial hpasses (started hc)⟩

/-- A session that was just opened on a connection that is started is offered. -/
theorem offers_createSession {connection : ConnectionHandle} {now : Int64} {broker : Broker}
    (h : first.broker.perform now (.createSession connection .client) = (.ok handle, broker))
    (started : calm → broker.isStarted connection.index = true) :
    (first.add (.broker (.createSession connection .client)) (.done handle) broker).Offers calm
      handle where
  opened := by
    rw [sessions_add]
    exact List.mem_append_right _ (by simp [Exchange.opened?])
  fresh := ⟨_, (Broker.sessions_of_createSession h).1, rfl, rfl, rfl, started⟩

/-- How a request to close a session ends, and what failed. -/
inductive Closing (handle : SessionHandle) (shared : Shared) :
    List BrokerError → Shared → Prop where
  | granted (now : Int64) (broker : Broker)
    (h : shared.broker.perform now (.closeSession handle) = (.ok (), broker)) :
    Closing handle shared [] (shared.add (.broker (.closeSession handle)) (.done ()) broker)
  | refused (error : BrokerError) :
    Closing handle shared [error]
      (shared.add (.broker (.closeSession handle)) (.failed error) shared.broker)

/-- Sessions that were opened stay known when one is closed. -/
theorem Closing.sessions {errors : List BrokerError}
    (h : Closing handle first errors second) : first.sessions ⊆ second.sessions := by
  cases h with
  | granted => exact first.subset_sessions_add _ _ _
  | refused => exact first.subset_sessions_add _ _ _

/-- What a link that is released does: it asks to close the session that it has, if any. -/
def Releases (calm : Prop) (kept : Nat → Prop) (first : Shared) (session : Option SessionHandle)
    (errors : List BrokerError) (second : Shared) : Prop :=
  match session with
  | none => Passes calm False kept first second
  | some handle => ∃ middle after ofSession, Passes calm True kept first middle ∧
    Closing handle middle ofSession after ∧ Passes calm False kept after second ∧
      (errors = [] → ofSession = [])

namespace Releases

variable {kept : Nat → Prop} {third : Shared} {session : Option SessionHandle}
  {errors : List BrokerError}

/-- Time passes before a release. -/
theorem before (h : Passes calm True kept first second)
    (hreleases : second.Releases calm kept session errors third) :
    first.Releases calm kept session errors third := by
  cases session with
  | none => exact (h.mono id (fun _ => trivial) fun _ => id).trans hreleases
  | some handle =>
    obtain ⟨middle, after, ofSession, hpasses, hrest⟩ := hreleases
    exact ⟨middle, after, ofSession, h.trans hpasses, hrest⟩

/-- Time passes after a release. -/
theorem after (hreleases : first.Releases calm kept session errors second)
    (h : Passes calm False kept second third) :
    first.Releases calm kept session errors third := by
  cases session with
  | none => exact Passes.trans hreleases h
  | some handle =>
    obtain ⟨middle, after, ofSession, hpasses, hclosing, hpasses', herrors⟩ := hreleases
    exact ⟨middle, after, ofSession, hpasses, hclosing, hpasses'.trans h, herrors⟩

/-- More may have failed. -/
theorem mono {more : List BrokerError} (hreleases : first.Releases calm kept session errors second)
    (hmore : more = [] → errors = []) : first.Releases calm kept session more second := by
  cases session with
  | none => exact hreleases
  | some handle =>
    obtain ⟨middle, after, ofSession, hpasses, hclosing, hpasses', herrors⟩ := hreleases
    exact ⟨middle, after, ofSession, hpasses, hclosing, hpasses', fun h => herrors (hmore h)⟩

/-- Sessions that were opened stay known. -/
theorem sessions (hreleases : first.Releases calm kept session errors second) :
    first.sessions ⊆ second.sessions := by
  cases session with
  | none => exact Passes.sessions hreleases
  | some handle =>
    obtain ⟨middle, after, ofSession, hpasses, hclosing, hpasses', -⟩ := hreleases
    exact fun index h => hpasses'.sessions (hclosing.sessions (hpasses.sessions h))

/-- The log of a release is what passed before and after it around the request itself. -/
theorem log {handle : SessionHandle}
    (hreleases : first.Releases calm kept (some handle) errors second) :
    ∃ (middle : Shared) (outcome : Outcome BrokerError Unit) (broker : Broker)
      (earlier later : List Exchange), Passes calm True kept first middle ∧
      second.log.drop first.log.length =
        earlier ++ ⟨.broker (.closeSession handle), outcome, middle.broker, broker⟩ :: later ∧
      (∀ exchange ∈ earlier ++ later, ∀ other, exchange.closed? = some other → ¬kept other.index) ∧
      (errors = [] → outcome = .done ()) ∧
      (outcome = .done () → ∃ now,
        middle.broker.perform now (.closeSession handle) = (.ok (), broker)) ∧
      Contents.Spares kept broker.contents second.broker.contents := by
  obtain ⟨middle, after, ofSession, hpasses, hclosing, hpasses', herrors⟩ := hreleases
  obtain ⟨earlier, hearlier, hquiet⟩ := hpasses.log
  obtain ⟨later, hlater, hquiet'⟩ := hpasses'.log
  have hothers : ∀ exchange ∈ earlier ++ later, ∀ other, exchange.closed? = some other →
      ¬kept other.index := fun exchange hmem =>
    (List.mem_append.1 hmem).elim (fun h => (hquiet exchange h).2) fun h => (hquiet' exchange h).2
  have hlog : ∀ outcome broker, after = middle.add (.broker (.closeSession handle)) outcome broker →
      second.log.drop first.log.length =
        earlier ++ ⟨.broker (.closeSession handle), outcome, middle.broker, broker⟩ :: later := by
    rintro outcome broker rfl
    rw [hlater, add, hearlier, List.append_assoc, List.append_assoc, List.drop_left]
    rfl
  cases hclosing with
  | granted now broker h =>
    exact ⟨middle, .done (), broker, earlier, later, hpasses, hlog _ _ rfl, hothers, fun _ => rfl,
      fun _ => ⟨now, h⟩, hpasses'.spares⟩
  | refused error =>
    exact ⟨middle, .failed error, _, earlier, later, hpasses, hlog _ _ rfl, hothers,
      fun h => (List.cons_ne_nil _ _ (herrors h)).elim, by simp, hpasses'.spares⟩

/-- A session that is kept while a link is released is closed by the release itself, if at all. -/
theorem closed {handle other : SessionHandle} {exchange : Exchange}
    (hreleases : first.Releases calm kept (some handle) errors second)
    (hmem : exchange ∈ second.log.drop first.log.length)
    (hclosed : exchange.closed? = some other) (hkept : kept other.index) :
    ∃ middle now broker, Passes calm True kept first middle ∧
      middle.broker.perform now (.closeSession handle) = (.ok (), broker) ∧
        exchange = ⟨.broker (.closeSession handle), .done (), middle.broker, broker⟩ ∧
          Contents.Spares kept broker.contents second.broker.contents := by
  obtain ⟨middle, outcome, broker, earlier, later, hpasses, hlog, hothers, -, hgranted, hspares⟩ :=
    hreleases.log
  rw [hlog, List.mem_append, List.mem_cons, or_left_comm, ← List.mem_append] at hmem
  rcases hmem with rfl | hmem
  · cases outcome with
    | done answer =>
      obtain ⟨now, h⟩ := hgranted rfl
      exact ⟨middle, now, broker, hpasses, h, rfl, hspares⟩
    | failed error => cases hclosed
    | abandoned => cases hclosed
  · exact (hothers exchange hmem other hclosed hkept).elim

/-- A link that is released without a failure closes its session. -/
theorem exists_closed {handle : SessionHandle}
    (hreleases : first.Releases calm kept (some handle) [] second) :
    ∃ exchange ∈ second.log.drop first.log.length, exchange.closed? = some handle := by
  obtain ⟨middle, outcome, broker, earlier, later, -, hlog, -, hdone, -, -⟩ := hreleases.log
  obtain rfl := hdone rfl
  rw [hlog]
  exact ⟨_, List.mem_append_right _ List.mem_cons_self, rfl⟩

end Releases

end Shared

namespace Link

/-- A link that is acquired has a fresh session. One that is not has none. -/
theorem ensures_acquire (hcalm : calm → schedule.Publishes) (credentials : Option Credentials)
    (s : Scene Link Shared) (hsession : s.client.session = none) :
    Ensures (acquire (Shared.endpoint schedule) credentials .client) s
      (fun handle s' => s'.client.session = some handle ∧ s'.env.Offers calm handle ∧
        Shared.Passes calm False (fun _ => False) s.env s'.env)
      (fun _ s' => s'.client.session = none ∧
        Shared.Passes calm False (fun _ => False) s.env s'.env) := by
  simp only [acquire, setupStep, ensures_bind, ensures_mapError, Scene.ensures_modify,
    ensures_pure]
  refine Scene.ensures_quiet False hcalm rfl False.elim (fun _ => False.elim) ?_ ?_
  · intro middle now connection broker _ hconnect
    refine Scene.ensures_quiet False hcalm rfl False.elim (fun _ => False.elim) ?_ ?_
    · intro middle' now' _ broker' hgranted hstart
      have hstarted := Broker.isStarted_of_startConnection hgranted
      refine Scene.ensures_quiet True hcalm rfl (fun _ => rfl) (fun _ => False.elim) ?_ ?_
      · intro middle'' now'' handle broker'' hgranted' hcreate
        refine ⟨trivial, Shared.offers_createSession hgranted' fun hc => ?_, ?_⟩
        · exact Shared.isStarted_of_passes hc trivial hcreate hstarted
        · exact (hconnect.trans hstart).trans (hcreate.mono id False.elim fun _ => id)
      · intro error env hpasses
        exact ⟨hsession, (hconnect.trans hstart).trans (hpasses.mono id False.elim fun _ => id)⟩
    · intro error env hpasses
      exact ⟨hsession, hconnect.trans (hpasses.mono id False.elim fun _ => id)⟩
  · intro error env hpasses
    exact ⟨hsession, hpasses.mono id False.elim fun _ => id⟩

/-- A link that releases its session asks for it once. A failure is listed. -/
theorem ensures_releaseSession (hcalm : calm → schedule.Publishes) {kept : Nat → Prop}
    (s : Scene Link Shared) (hkept : ∀ index, kept index → index ∈ s.env.sessions) :
    Ensures (releaseSession (Shared.endpoint schedule)) s
      (fun errors s' => s'.client = { s.client with session := none } ∧
        match s.client.session with
        | none => errors = [] ∧ s'.env = s.env
        | some handle => ∃ middle, Shared.Passes calm True kept s.env middle ∧
          middle.Closing handle errors s'.env)
      (fun _ _ => False) := by
  simp only [releaseSession, ensures_bind, Scene.ensures_get]
  cases hsession : s.client.session with
  | none =>
    refine ⟨?_, rfl, rfl⟩
    rw [← hsession]
  | some handle =>
    simp only [ensures_bind, Scene.ensures_modify, Scene.ensures_release]
    have hothers : ∀ number, Shared.Passes calm True kept s.env
        (s.env.others (schedule number).others) := fun number =>
      s.env.passes_others _ hkept fun h => hcalm h number
    refine Scene.ensures_ask (fun number _ broker hgranted => ?_) fun number error _ => ?_
    · exact ⟨rfl, _, hothers number, .granted _ broker hgranted⟩
    · exact ⟨rfl, _, hothers number, .refused error⟩

/-- A link that releases its connection leaves deliveries alone. -/
theorem ensures_releaseConnection (hcalm : calm → schedule.Publishes) {kept : Nat → Prop}
    (s : Scene Link Shared) (hkept : ∀ index, kept index → index ∈ s.env.sessions) :
    Ensures (releaseConnection (Shared.endpoint schedule)) s
      (fun _ s' => s'.client = { s.client with connection := none } ∧
        Shared.Passes calm False kept s.env s'.env ∧ (s.client.connection = none → s'.env = s.env))
      (fun _ _ => False) := by
  simp only [releaseConnection, ensures_bind, Scene.ensures_get]
  cases hconnection : s.client.connection with
  | none =>
    refine ⟨?_, .refl _ _ _ _, fun _ => rfl⟩
    rw [← hconnection]
  | some connection =>
    simp only [ensures_bind, Scene.ensures_modify, Scene.ensures_release, ensures_pure]
    have hstop : ∀ {s' : Scene Link Shared}, s'.client = { s.client with connection := none } →
        Shared.Passes calm False kept s.env s'.env →
        Ensures (Scene.ask (Shared.endpoint schedule) (.broker (.closeConnection connection))) s'
          (fun _ s'' => s''.client = { s.client with connection := none } ∧
            Shared.Passes calm False kept s.env s''.env)
          (fun _ s'' => s''.client = { s.client with connection := none } ∧
            Shared.Passes calm False kept s.env s''.env) := by
      intro s' hclient hpasses
      refine Scene.ensures_quiet False hcalm rfl False.elim
        (fun index h => hpasses.sessions (hkept index h)) ?_ ?_
      · intro middle now answer broker _ hclosed
        exact ⟨hclient, hpasses.trans hclosed⟩
      · intro error env hclosed
        exact ⟨hclient, hpasses.trans (hclosed.mono id False.elim fun _ => id)⟩
    refine Scene.ensures_quiet False hcalm rfl False.elim hkept ?_ ?_
    · intro middle now answer broker _ hstopped
      exact (hstop rfl hstopped).mono (fun _ _ h => ⟨h.1, h.2, by simp⟩)
        fun _ _ h => ⟨h.1, h.2, by simp⟩
    · intro error env hpasses
      exact (hstop rfl (hpasses.mono id False.elim fun _ => id)).mono
        (fun _ _ h => ⟨h.1, h.2, by simp⟩) fun _ _ h => ⟨h.1, h.2, by simp⟩

/-- A link that is released is empty. -/
theorem ensures_release (hcalm : calm → schedule.Publishes) {kept : Nat → Prop}
    (s : Scene Link Shared) (hkept : ∀ index, kept index → index ∈ s.env.sessions) :
    Ensures (release (Shared.endpoint schedule)) s
      (fun errors s' => s'.client = {} ∧
        s.env.Releases calm kept s.client.session errors s'.env ∧
          (s.client = {} → s'.env = s.env))
      (fun _ _ => False) := by
  simp only [release, ensures_bind, ensures_pure]
  refine (ensures_releaseSession hcalm s hkept).mono ?_ fun _ _ => id
  rintro ofSession s' ⟨hclient, hreleased⟩
  cases hsession : s.client.session with
  | none =>
    rw [hsession] at hreleased
    obtain ⟨rfl, henv⟩ := hreleased
    refine (ensures_releaseConnection hcalm s' (by rwa [henv])).mono ?_ fun _ _ => id
    rintro ofConnection s'' ⟨hclient', hpasses, hidle⟩
    refine ⟨by rw [hclient', hclient], by rwa [← henv], fun hempty => ?_⟩
    rw [hidle (by rw [hclient, hempty]), henv]
  | some handle =>
    rw [hsession] at hreleased
    obtain ⟨middle, hpasses, hclosing⟩ := hreleased
    refine (ensures_releaseConnection hcalm s' fun index h =>
      hclosing.sessions (hpasses.sessions (hkept index h))).mono ?_ fun _ _ => id
    rintro ofConnection s'' ⟨hclient', hpasses', -⟩
    refine ⟨by rw [hclient', hclient], ⟨middle, s'.env, ofSession, hpasses, hclosing, hpasses', ?_⟩,
      fun hempty => ?_⟩
    · exact fun h => (List.append_eq_nil_iff.1 h).1
    · rw [hempty] at hsession
      cases hsession

end Link

namespace Ledger

/-- A ledger whose link is released lets go of its session, and closes it unless that failed. -/
theorem steps_of_releases {name : String} {ledger : Ledger} {session : Option SessionHandle}
    {errors : List BrokerError} {env : Shared}
    (hsession : ∀ handle consumer, ledger.hold = .held handle consumer → session = some handle)
    (h : ledger.env.Releases calm ledger.hold.Keeps session errors env) :
    Steps False name ledger { ledger with hold := .gone, env := env } ∧
      (errors = [] → ledger.hold.isHeld →
        Steps calm name ledger { ledger with hold := .gone, env := env }) := by
  obtain ⟨pending, skipped, hold, delivered, before⟩ := ledger
  -- A session that no ledger is attached to may be closed like any other.
  have hpasses : ¬hold.isHeld → Shared.Passes False (hold.isHeld = true) hold.Keeps before env := by
    intro hfree
    have hkept : ∀ index, ¬hold.Keeps index := by
      rintro index ⟨handle, consumer, rfl, -⟩
      exact hfree rfl
    cases session with
    | none => exact Shared.Passes.mono h False.elim (fun hheld => hfree hheld) fun _ => id
    | some handle =>
      obtain ⟨middle, after, ofSession, hbefore, hclosing, hafter, -⟩ := h
      have hclosed : Shared.Passes False False hold.Keeps middle after := by
        cases hclosing with
        | granted now broker h => exact Shared.passes_closeSession h (hkept _)
        | refused error => exact Shared.passes_failed _ error
      exact (((hbefore.mono False.elim False.elim fun _ => id).trans hclosed).trans
        (hafter.mono False.elim False.elim fun _ => id)).mono id hfree fun _ => id
  cases hold with
  | free =>
    have hpassed := hpasses Bool.false_ne_true
    refine ⟨.tail (.single (.pass env hpassed)) (.leave rfl), fun _ hheld => ?_⟩
    cases hheld
  | gone =>
    have hpassed := hpasses Bool.false_ne_true
    refine ⟨.single (.pass env hpassed), fun _ hheld => ?_⟩
    cases hheld
  | held handle consumer =>
    obtain rfl := hsession handle consumer rfl
    obtain ⟨middle, after, ofSession, hpasses, hclosing, hpasses', herrors⟩ := h
    have hbefore : Steps calm name ⟨pending, skipped, .held handle consumer, delivered, before⟩
        ⟨pending, skipped, .held handle consumer, delivered, middle⟩ :=
      .single (.pass middle (hpasses.mono id (fun _ => trivial) fun _ => id))
    have hafter : Steps calm name ⟨pending, skipped, .gone, delivered, after⟩
        ⟨pending, skipped, .gone, delivered, env⟩ :=
      .single (.pass env (hpasses'.mono id (by simp [Hold.isHeld]) (by simp [Hold.Keeps])))
    cases hclosing with
    | granted now broker hgranted =>
      have hsteps := (hbefore.tail (.release handle consumer now broker rfl hgranted)).trans hafter
      exact ⟨Steps.rough hsteps, fun _ _ => hsteps⟩
    | refused error =>
      have hfailed := hbefore.rough.tail
        (.pass _ (Shared.passes_failed (.broker (.closeSession handle)) error))
      exact ⟨(hfailed.tail (.letGo id rfl)).trans hafter.rough, fun h _ => by cases herrors h⟩

end Ledger

end BrokerConnector
