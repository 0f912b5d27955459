import BrokerConnector.Proofs.Chain
import BrokerConnector.Proofs.Pool

/-!
# A reader at its seat

What one reader does to the books that it keeps with the others (`Crew.Pool`). A reader waits until
it is started, and is at work on its seat from then on (`Pool.Place`). When it is started it sits
down at a session that is new, so nobody else sits there (`ensures_acquire`). When it looks for a
message it takes the first one of the queue that is not expired, or it leaves the queue empty
(`ensures_poll`). When it is finalized it acknowledges everything that waits at its seat and nothing
else (`ensures_finalize`).

Each call is described by the books before and after it, with what the others do in between as part
of the call. So the runs of several readers need no more than these descriptions.
-/

namespace BrokerConnector

open BrokerConnector.Action

variable {schedule : Schedule} {name : String}

/-- A link that is acquired has a session that nobody else is at, and whoever is at work goes on. -/
theorem Link.ensures_acquire_apart (hcalm : schedule.Publishes) (credentials : Option Credentials)
    (s : Scene Link Shared) :
    Ensures (acquire (Shared.endpoint schedule) credentials .client) s
      (fun handle s' => s.env.Proceeds s'.env ∧ s'.env.Offers True handle ∧
        ∀ index session, index ∈ s.env.sessions → s.env.broker.sessions[index]? = some session →
          index ≠ handle.index)
      (fun _ _ => True) := by
  simp only [acquire, setupStep, ensures_bind, ensures_mapError, Scene.ensures_modify,
    ensures_pure]
  refine Scene.ensures_gentle hcalm rfl ?_
  intro middle now connection broker hbefore _ hconnect
  refine Scene.ensures_gentle hcalm rfl ?_
  intro middle' now' _ broker' hbefore' hstart hstarts
  have hstarted := Broker.isStarted_of_startConnection hstart
  refine Scene.ensures_gentle hcalm rfl ?_
  intro middle'' now'' handle broker'' hbefore'' hcreate hcreates
  have hto := (((hbefore.trans hconnect).trans hbefore').trans hstarts).trans hbefore''
  refine ⟨hto.trans hcreates, Shared.offers_createSession hcreate fun _ => ?_, ?_⟩
  · exact hcreates.started _ (hbefore''.started _ hstarted)
  · -- The new session is the last one, so it is none of those that were there before.
    intro index session hopened found he
    have hlt := (List.getElem?_eq_some_iff.1
      (hto.passes.spares.sessions index session hopened found)).1
    rw [he, (Broker.sessions_of_createSession hcreate).2] at hlt
    exact Nat.lt_irrefl _ hlt

namespace Crew

variable {α : Type} {lasts : Message → Bool} {config : ReadConfig α} {pool : Pool} {index : Nat}
  {seat : Seat}

/-- What a reader has when it acquired its resources. -/
structure Sits (name : String) (s : Scene (Reader α) Shared) (seat : Seat)
    (s' : Scene (Reader α) Shared) : Prop where
  config : s'.client.config = s.client.config
  session : s'.client.mark.session = some seat.session
  consumer : s'.client.consumer = some seat.consumer
  pending : s'.client.mark.pending = []
  skipped : s'.client.skipped = s.client.skipped ++ s.client.mark.pending.map (·.id)
  proceeds : s.env.Proceeds s'.env
  seated : Seated name s'.env seat []
  fresh : ∀ index session, index ∈ s.env.sessions →
    s.env.broker.sessions[index]? = some session → index ≠ seat.session.index

/-- A reader that acquires its resources sits at a session of its own. -/
theorem ensures_acquire (hcalm : schedule.Publishes) (s : Scene (Reader α) Shared)
    (hdestination : s.client.config.destination = .queue name) :
    Ensures (Reader.acquire (Shared.endpoint schedule)) s
      (fun _ s' => ∃ seat, Sits name s seat s') (fun _ _ => True) := by
  simp only [Reader.acquire, ensures_bind, Scene.ensures_get, Reader.withLink,
    Scene.ensures_within, setupStep, ensures_mapError, Scene.ensures_modify,
    Scene.ensures_modifyJournaled]
  refine (Link.ensures_acquire_apart hcalm _ _).mono ?_ fun _ _ _ => trivial
  rintro handle s₁ ⟨hlink, hoffers, hfresh⟩
  refine Scene.ensures_gentle hcalm rfl ?_
  intro middle now destination broker hbefore hresolve hresolves
  obtain ⟨-, rfl, -⟩ := Broker.named_of_resolve hresolve
  refine Scene.ensures_gentle hcalm rfl ?_
  intro middle' now' consumer broker' hbefore' hcreate hcreates
  obtain ⟨of, hof, hqueue, hindex⟩ := Broker.consumers_of_createConsumer hcreate
  have hto := ((hbefore.trans hresolves).trans hbefore').trans hcreates
  obtain ⟨hopened, session, found, client, isOpen, empty, started⟩ := hoffers.proceeds hto
  have hseated : Seated name _ ⟨handle, consumer⟩ [] :=
    ⟨hopened, ⟨session, found, client, isOpen, by rw [empty]; rfl⟩,
      ⟨of, hof, hqueue.trans hdestination, hindex⟩, session, found, started trivial⟩
  refine Scene.ensures_ask_estimator (by simp) fun number outcome => ⟨?_, fun _ => trivial⟩
  have hasked := (Shared.proceeds_others (hcalm number)).trans
    (((middle'.add (.broker (.createConsumer handle s.client.config.destination)) (.done consumer)
      broker').others (schedule number).others).proceeds_estimator outcome (by simp))
  exact fun estimator => ⟨⟨handle, consumer⟩, rfl, rfl, rfl, Reader.pending_attach _ _ _, rfl,
    (hlink.trans hto).trans hasked, hseated.proceeds hasked, hfresh⟩

/-! ## The calls of one reader -/

/-- Where a reader is between its calls: it waits for its start, or it is at work on its seat. -/
inductive Pool.Place (pool : Pool) (index : Nat) (reader : Reader α) : Prop where
  | waiting (vacant : pool.seats index = none) (state : reader.state = .uninitialized)
    (pending : reader.mark.pending = [])
  | working (seat : Seat) (taken : pool.seats index = some seat) (state : reader.state = .consuming)
    (session : reader.mark.session = some seat.session)
    (consumer : reader.consumer = some seat.consumer)

/-- A reader is where the books say. -/
structure Pool.Stands (config : ReadConfig α) (pool : Pool) (index : Nat) (reader : Reader α) :
    Prop where
  config : reader.config = config
  skipped : reader.skipped = []
  pending : reader.mark.pending = pool.pending index
  place : pool.Place index reader

/-- A reader stays where it is when the books change for others only. -/
theorem Pool.Stands.of_eq {reader : Reader α} {after : Pool}
    (h : pool.Stands config index reader) (hseats : after.seats index = pool.seats index)
    (hpending : after.pending index = pool.pending index) : after.Stands config index reader := by
  obtain ⟨config, skipped, pending, place⟩ := h
  refine ⟨config, skipped, pending.trans hpending.symm, ?_⟩
  cases place with
  | waiting vacant state pending => exact .waiting (hseats.trans vacant) state pending
  | working seat taken state session consumer =>
    exact .working seat (hseats.trans taken) state session consumer

/-- A reader that sat down did so at a session where nobody else sits. -/
theorem Sits.even {s s' : Scene (Reader α) Shared} (h : Sits name s seat s')
    (heven : pool.Even lasts name) (henv : pool.env = s.env) (hpending : pool.pending index = []) :
    (pool.sit index seat s'.env).Even lasts name := by
  refine heven.sit (henv ▸ h.proceeds) hpending h.seated fun other seat' hother => ?_
  obtain ⟨hopened, ⟨session, found, -⟩, -, -⟩ := heven.seated other seat' hother
  rw [henv] at hopened found
  exact h.fresh _ session hopened found

/-- A reader that sat down and had nothing to do before is at work on its seat. -/
theorem Sits.stands {s s' : Scene (Reader α) Shared} (h : Sits name s seat s')
    (hconfig : s.client.config = config) (hskipped : s.client.skipped = [])
    (hpending : s.client.mark.pending = []) (hbooks : pool.pending index = []) :
    (pool.sit index seat s'.env).Stands config index { s'.client with state := .consuming } where
  config := h.config.trans hconfig
  skipped := by
    change s'.client.skipped = []
    rw [h.skipped, hskipped, hpending]
    rfl
  pending := h.pending.trans hbooks.symm
  place := .working seat (Function.update_self _ _ _) rfl h.session h.consumer

/-- The books after a call by which a reader looked for its next message. If it found nothing, the
queue is empty. -/
structure Pool.Looked (lasts : Message → Bool) (name : String) (config : ReadConfig α)
    (pool : Pool) (index : Nat) (outcome : Outcome ConnectorError Bool)
    (s : Scene (Reader α) Shared) (after : Pool) : Prop where
  even : after.Even lasts name
  env : after.env = s.env
  stands : after.Stands config index s.client
  others : ∀ other, other ≠ index →
    after.seats other = pool.seats other ∧ after.pending other = pool.pending other
  taken : ∃ new, after.taken = pool.taken ++ new.map (index, ·) ∧
    List.Forall₂ (Emission.Maps config) new (Reader.emission? outcome s).toList
  paid : after.paid = pool.paid
  gone : pool.gone <+: after.gone
  nothing : outcome = .done false → s.env.broker.queue name = []

/-- What a call leaves by which a reader looked for its next message. -/
def Pool.Looks (schedule : Schedule) (lasts : Message → Bool) (name : String)
    (config : ReadConfig α) (pool : Pool) (index : Nat) (outcome : Outcome ConnectorError Bool)
    (s : Scene (Reader α) Shared) : Prop :=
  s.env.Settles schedule name lasts →
    ∃ after, pool.Looked lasts name config index outcome s after

section

variable {s : Scene (Reader α) Shared}

/-- A call that asks for nothing and keeps where the reader is leaves the books as they are. -/
theorem Pool.Looked.still {error : ConnectorError} {s : Scene (Reader α) Shared}
    (heven : pool.Even lasts name) (henv : pool.env = s.env)
    (hstands : pool.Stands config index s.client) :
    pool.Looked lasts name config index (.failed error) s pool where
  even := heven
  env := henv
  stands := hstands
  others := fun _ _ => ⟨rfl, rfl⟩
  taken := ⟨[], (List.append_nil _).symm, .nil⟩
  paid := rfl
  gone := List.prefix_rfl
  nothing := fun he => by cases he

/-- A reader that took a seat before it looked for a message leaves the other seats alone. -/
theorem Pool.Looked.of_seats {seats : Nat → Option Seat} {env : Shared}
    {outcome : Outcome ConnectorError Bool} {s : Scene (Reader α) Shared} {after : Pool}
    (h : Pool.Looked lasts name config { pool with seats := seats, env := env } index outcome s
      after)
    (hseats : ∀ other, other ≠ index → seats other = pool.seats other) :
    pool.Looked lasts name config index outcome s after :=
  { h with others := fun other hother =>
      ⟨(h.others other hother).1.trans (hseats other hother), (h.others other hother).2⟩ }

/-- To sit down and then look for a message is to look for a message. -/
theorem Pool.Looks.of_sit {env : Shared} {outcome : Outcome ConnectorError Bool}
    (h : (pool.sit index seat env).Looks schedule lasts name config index outcome s) :
    pool.Looks schedule lasts name config index outcome s := by
  intro hsettles
  obtain ⟨after, hafter⟩ := h hsettles
  exact ⟨after, hafter.of_seats fun other hother => Function.update_of_ne hother _ _⟩

/-- A reader that polls on its seat emits the next message of the queue that is not expired. -/
theorem ensures_poll (hcalm : schedule.Publishes)
    (htotal : ∀ message, ∃ value, config.mapper message = .ok value)
    (heven : pool.Even lasts name) (henv : pool.env = s.env)
    (hstands : pool.Stands config index s.client) (hseat : pool.seats index = some seat)
    (hstate : s.client.state = .consuming) (hsession : s.client.mark.session = some seat.session)
    (hconsumer : s.client.consumer = some seat.consumer) :
    Ensures (Reader.poll (Shared.endpoint schedule) seat.consumer 0) s
      (fun found => pool.Looks schedule lasts name config index (.done found))
      (fun error => pool.Looks schedule lasts name config index (.failed error)) := by
  have hothers : ∀ number, pool.env.Proceeds (s.env.others (schedule number).others) := by
    intro number
    rw [henv]
    exact Shared.proceeds_others (hcalm number)
  unfold Reader.poll
  simp only [ensures_bind, ensures_mapError]
  refine Scene.ensures_ask_numbered ?_ ?_
  · intro number answer broker hnumber hgranted
    have heven' := heven.proceeds (hothers number)
    -- The schedule numbers requests as the log does, which tells the moment of this one.
    have hlog : number = (s.env.others (schedule number).others).log.length := by
      rw [Shared.log_others, hnumber]
    cases answer with
    | none =>
      intro hsettles
      obtain ⟨hempty, expired, hafter⟩ := heven'.findNothing hseat hlog hgranted hsettles
      exact ⟨_, hafter, rfl, hstands.of_eq rfl rfl, fun _ _ => ⟨rfl, rfl⟩,
        ⟨[], (List.append_nil _).symm, .nil⟩, rfl, List.prefix_append _ _, fun _ => hempty⟩
    | some message =>
      obtain ⟨id, hid⟩ := heven'.exists_id hseat hgranted
      simp only [hid, ensures_bind, Scene.ensures_modifyJournaled]
      refine (Reader.ensures_emit _ message id).mono ?_ ?_
      · rintro found s' ⟨rfl, value, hvalue, hclient, henv'⟩ hsettles
        rw [henv'] at hsettles
        obtain ⟨expired, hafter⟩ := heven'.receive hseat hlog hgranted hid hsettles
        refine ⟨_, hafter, henv'.symm, ?_, ?_, ⟨[message], rfl, ?_⟩, rfl, List.prefix_append _ _,
          fun he => by cases he⟩
        · rw [hclient]
          refine ⟨hstands.config, hstands.skipped, ?_, .working seat hseat hstate hsession
            hconsumer⟩
          change s.client.mark.pending ++ _ = Function.update pool.pending index _ index
          rw [Function.update_self, hstands.pending]
        · intro other hother
          exact ⟨rfl, Function.update_of_ne hother _ _⟩
        · have hreceived : s'.env.received.getLast? = some message := by
            rw [henv', Shared.received_add]
            exact List.getLast?_concat
          have hemission : Reader.emission? (.done true) s' =
              some ⟨id, value, message.timestamp⟩ := by
            simp [Reader.emission?, Reader.current, hreceived, hid, hclient]
          rw [hemission]
          exact .cons ⟨hid, hstands.config ▸ hvalue, rfl⟩ .nil
      · rintro error s' ⟨-, reason, hreason⟩
        -- The mapper is total, so this failure does not occur.
        obtain ⟨value, hvalue⟩ := htotal message
        rw [← hstands.config] at hvalue
        cases hvalue.symm.trans hreason
  · intro number error _ _ hsettles
    have hfailed := (hothers number).trans
      (Shared.proceeds_failed (.broker (.receive seat.consumer)) error)
    exact ⟨_, Pool.Looked.of_seats (.still (heven.proceeds hfailed) rfl (hstands.of_eq rfl rfl))
      fun _ _ => rfl⟩

/-- A reader that advances at work emits the next message of the queue that is not expired. -/
theorem ensures_advance (hcalm : schedule.Publishes)
    (htotal : ∀ message, ∃ value, config.mapper message = .ok value)
    (heven : pool.Even lasts name) (henv : pool.env = s.env)
    (hstands : pool.Stands config index s.client) :
    Ensures (Reader.advance (Shared.endpoint schedule)) s
      (fun found => pool.Looks schedule lasts name config index (.done found))
      (fun error => pool.Looks schedule lasts name config index (.failed error)) := by
  simp only [Reader.advance, ensures_bind, Scene.ensures_get]
  split
  · exact fun _ => ⟨pool, .still heven henv hstands⟩
  · rename_i hstate
    simp only [ensures_bind, Scene.ensures_modify]
    cases hstands.place with
    | waiting vacant state =>
      rw [state] at hstate
      simp at hstate
    | working seat taken state session consumer =>
      -- Nothing was restored, so nothing is to be skipped.
      have hnone : s.client.skipped.length = 0 := by rw [hstands.skipped, List.length_nil]
      split
      · rename_i hconsumer
        cases hconsumer.symm.trans consumer
      · rename_i handle hconsumer
        obtain rfl := Option.some.inj (hconsumer.symm.trans consumer)
        rw [hnone]
        exact ensures_poll hcalm htotal heven henv ⟨hstands.config, hstands.skipped,
          hstands.pending, .working seat taken state session consumer⟩ taken state session consumer

/-- A reader that is started sits down at a session of its own and emits the next message of the
queue that is not expired. If it cannot get a session, it is closed. -/
theorem ensures_start (hcalm : schedule.Publishes)
    (htotal : ∀ message, ∃ value, config.mapper message = .ok value)
    (hqueue : config.destination = .queue name)
    (heven : pool.Even lasts name) (henv : pool.env = s.env)
    (hstands : pool.Stands config index s.client) :
    Ensures (Reader.start (Shared.endpoint schedule)) s
      (fun found => pool.Looks schedule lasts name config index (.done found))
      (fun error s' => s'.client.state = .closed ∨
        pool.Looks schedule lasts name config index (.failed error) s') := by
  simp only [Reader.start, ensures_bind, Scene.ensures_get]
  split
  · exact .inr fun _ => ⟨pool, .still heven henv hstands⟩
  · rename_i hstate
    simp only [ensures_bind, Scene.ensures_modify, ensures_attempt]
    -- A reader that was not started yet sits nowhere and lists nothing.
    have hidle : s.client.mark.pending = [] := by
      cases hstands.place with
      | waiting vacant state pending => exact pending
      | working seat taken state =>
        rw [state] at hstate
        simp at hstate
    have hpending : pool.pending index = [] := hstands.pending.symm.trans hidle
    let connecting : Scene (Reader α) Shared :=
      { s with client := { s.client with state := .connecting } }
    have hdestination : connecting.client.config.destination = .queue name := by
      rw [← hqueue, ← hstands.config]
    refine (ensures_acquire hcalm connecting hdestination).mono ?_ ?_
    · -- The reader sits down, and looks for its first message.
      rintro _ s' ⟨seat, hsits⟩
      let working : Scene (Reader α) Shared :=
        { s' with client := { s'.client with state := .consuming } }
      have hseated : (pool.sit index seat working.env).Even lasts name :=
        hsits.even heven henv hpending
      have hstands' : (pool.sit index seat working.env).Stands config index working.client :=
        hsits.stands hstands.config hstands.skipped hidle hpending
      have hsame : (pool.sit index seat working.env).env = working.env := rfl
      have hadvance := ensures_advance hcalm htotal hseated hsame hstands'
      exact hadvance.mono (fun _ _ h => h.of_sit) fun _ _ h => .inr h.of_sit
    · intro error s' _
      simp only [Scene.ensures_note, ensures_fail]
      -- However the close ends, the reader is closed.
      have hclose : Ensures (Reader.close (Shared.endpoint schedule))
          { s' with journal := s'.journal.note (.readerNotStarted error) }
          (fun _ s'' => s''.client.state = .closed) (fun _ s'' => s''.client.state = .closed) := by
        refine (Reader.ensures_close False.elim _ fun _ => False.elim).mono
          (fun _ _ h => h.retired.state) ?_
        rintro failure s'' ⟨errors, h⟩
        exact h.retired.state
      exact hclose.mono (fun _ _ => .inl) fun _ _ => .inl

/-- A reader that settles what waits for its acknowledgment acknowledges all of it. -/
theorem ensures_settle (hcalm : schedule.Publishes) (hflawless : schedule.NeverFails)
    {entries : List PendingDelivery} {s : Scene Mark Shared} (heven : pool.Even lasts name)
    (henv : pool.env = s.env) (hseat : pool.seats index = some seat)
    (hpending : pool.pending index = entries) :
    Ensures (Mark.settle (Shared.endpoint schedule) seat.session entries) s
      (fun settlement s' =>
        settlement = { acknowledged := entries.length, settled := entries.length } ∧
          s'.client = s.client ∧ (pool.settle index s'.env).Even lasts name)
      (fun _ _ => False) := by
  induction entries generalizing pool s with
  | nil =>
    refine ⟨rfl, rfl, ?_⟩
    rw [Pool.settle_of_nil hpending, ← henv]
    exact heven
  | cons entry rest ih =>
    have hothers : ∀ number, Pool.Even lasts name
        { pool with env := s.env.others (schedule number).others } := by
      intro number
      refine heven.proceeds ?_
      rw [henv]
      exact Shared.proceeds_others (hcalm number)
    simp only [Mark.settle, ensures_bind, ensures_attempt]
    refine Scene.ensures_ask ?_ ?_
    · intro number answer broker hgranted
      let asked : Pool := { pool with env := s.env.others (schedule number).others }
      have hasked : asked.pending index = entry :: rest := hpending
      have hpaid := (hothers number).acknowledge hseat hpending hgranted
      simp only [ensures_pure]
      refine (ih hpaid rfl hseat (Function.update_self _ _ _)).mono ?_ fun _ _ => id
      rintro settlement s' ⟨rfl, hclient, hsettled⟩
      rw [Pool.settle_pay hasked] at hsettled
      exact ⟨rfl, hclient, hsettled⟩
    · -- The session holds the message and no request fails, so the broker does not refuse.
      intro number error hrefused
      have hentry : entry ∈ pool.pending index := by simp [hpending]
      obtain ⟨after, hgranted⟩ := (hothers number).granted hseat hentry (schedule number).now
      rcases hrefused with hfailure | hrefused
      · cases hfailure.symm.trans (hflawless _ _)
      · rw [hgranted] at hrefused
        cases hrefused

/-- A reader that is finalized acknowledges everything that waits for it, and tells how much that
is. -/
theorem ensures_finalize (hcalm : schedule.Publishes) (hflawless : schedule.NeverFails)
    (heven : pool.Even lasts name) (henv : pool.env = s.env)
    (hstands : pool.Stands config index s.client) :
    Ensures (Reader.finalize (Shared.endpoint schedule)) s
      (fun count s' => count = (pool.pending index).length ∧
        (pool.settle index s'.env).Even lasts name ∧
          (pool.settle index s'.env).Stands config index s'.client)
      (fun _ _ => False) := by
  simp only [Reader.finalize, Scene.ensures_within, Mark.finalize, ensures_bind, Scene.ensures_get]
  split
  · rename_i hempty
    have hpending : pool.pending index = [] :=
      hstands.pending.symm.trans (List.isEmpty_iff.1 hempty)
    simp only [ensures_pure]
    rw [hpending, Pool.settle_of_nil hpending, ← henv]
    exact ⟨rfl, heven, hstands⟩
  · rename_i hsome
    cases hstands.place with
    | waiting vacant state pending =>
      rw [pending] at hsome
      simp at hsome
    | working seat taken state session consumer =>
      split
      · rename_i hnone
        cases hnone.symm.trans session
      · rename_i handle hsession
        obtain rfl := Option.some.inj (hsession.symm.trans session)
        rw [hstands.pending]
        simp only [ensures_bind, Scene.ensures_modifyJournaled, Scene.ensures_count]
        refine (ensures_settle hcalm hflawless heven henv taken rfl).mono ?_ fun _ _ => id
        rintro settlement s' ⟨rfl, hclient, heven'⟩
        refine ⟨rfl, heven', hstands.config, hstands.skipped, ?_, .working seat taken state ?_
          consumer⟩
        · rw [hclient]
          change (s.client.mark.dropSettled _ _).1.pending =
            Function.update pool.pending index [] index
          rw [Mark.pending_dropSettled, hstands.pending, List.drop_length, Function.update_self]
        · rw [hclient]
          exact (Mark.session_dropSettled _ _ _).trans session

end

end Crew

end BrokerConnector
