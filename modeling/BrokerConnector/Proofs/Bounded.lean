import BrokerConnector.Bounded
import BrokerConnector.Proofs.Receipts
import BrokerConnector.Proofs.World

/-!
# Bounded reads and what they acknowledge

A bounded read collects one record for each message that it receives, and acknowledges nothing until
it has them all. If anything fails before, it ends with that failure and every message is left to
the broker. Only when an acknowledgment fails after another one was granted does a read fail that
acknowledged something (`acknowledges_what_it_returns`).
-/

namespace BrokerConnector

open BrokerConnector.Action

/-- The message that was received. -/
def Receipt.message? : Receipt → Option Message
  | .done message => message
  | _ => none

/-- The messages that were received, in order. -/
def Recorded.messages {σ : Type} (recorded : Recorded σ) : List Message :=
  recorded.receipts.filterMap (·.message?)

/-- The record that a reader makes of a message. -/
structure ReadConfig.Yields {α : Type} (config : ReadConfig α) (message : Message)
    (record : Timestamped α) : Prop where
  identified : message.id.isSome
  mapped : config.mapper message = .ok record.value
  timestamp : record.timestamp = message.timestamp

/-- A call that emits a record received a message that yields it. -/
theorem ReadConfig.yields_of_verdict {α : Type} {config : ReadConfig α} {receipt : Receipt}
    {current : Option (Timestamped α)} (h : (.done true, current) = config.verdict receipt) :
    ∃ message record, receipt = .done (some message) ∧ current = some record ∧
      config.Yields message record := by
  unfold ReadConfig.verdict at h
  split at h
  · simp at h
  · simp at h
  · simp at h
  · rename_i message
    split at h
    · simp at h
    · rename_i id hid
      split at h
      · simp at h
      · rename_i value hmapped
        obtain ⟨-, rfl⟩ := Prod.mk.inj h
        exact ⟨message, _, rfl, rfl, by simp [hid], hmapped, rfl⟩

/-- A call that finds nothing was given nothing. -/
theorem ReadConfig.eq_none_of_verdict {α : Type} {config : ReadConfig α} {receipt : Receipt}
    {current : Option (Timestamped α)} (h : (.done false, current) = config.verdict receipt) :
    receipt = .done none := by
  unfold ReadConfig.verdict at h
  split at h
  · rfl
  · simp at h
  · simp at h
  · split at h
    · simp at h
    · split at h <;> simp at h

/-! ## One poll -/

namespace BoundedRead

variable {α σ : Type} {config : ReadConfig α} {endpoint : Endpoint σ}

/-- A reader that a bounded read polls: it did not start yet, or it is at work and lists what it
received. -/
inductive Ready (s : Scene (Reader α) (Recorded σ)) : Prop where
  | fresh (state : s.client.state = .uninitialized) (session : s.client.mark.session = none)
    (pending : s.client.mark.pending = []) (skipped : s.client.skipped = [])
    (events : s.env.events = [])
  | working (state : s.client.state ≠ .uninitialized) (work : s.client.isAtWork = true)
    (awaits : Reader.Awaits [] s.env.receipts s.client.skipped)
    (pending : s.client.mark.pending = s.env.receipts.filterMap (·.delivery?))

/-- A read between two polls. Nothing was told but what was received, and there is one record for
each message. -/
structure Reading (config : ReadConfig α) (s : Scene (BoundedRead α) (Recorded σ)) : Prop where
  same : s.client.reader.config = config
  events : s.env.events = s.env.receipts.map .received
  yields : List.Forall₂ config.Yields s.env.messages s.client.records
  ready : Ready { client := s.client.reader, journal := s.journal, env := s.env }

/-- A read that acknowledged nothing. -/
def Unacknowledged (s : Scene (BoundedRead α) (Recorded σ)) : Prop :=
  s.env.events = s.env.receipts.map .received

/-- What a reader that was polled received: one thing, which settles how the poll ends. -/
structure Polled (r : Scene (Reader α) (Recorded σ)) (outcome : Outcome ConnectorError Bool)
    (receipt : Receipt) (r' : Scene (Reader α) (Recorded σ)) : Prop where
  same : r'.client.config = r.client.config
  events : r'.env.events = r.env.events ++ [.received receipt]
  ready : Ready r'
  verdict : (outcome, r'.client.current) = r.client.config.verdict receipt

/-- A reader at work that is polled is still ready. -/
theorem polled_of_searching {r w r' : Scene (Reader α) (Recorded σ)}
    {outcome : Outcome ConnectorError Bool} (same : w.client.config = r.client.config)
    (events : w.env.events = r.env.events) (work : w.client.isAtWork = true)
    (pending : w.client.mark.pending = w.env.receipts.filterMap (·.delivery?))
    (h : Reader.Searching [] w outcome r') : ∃ receipt, Polled r outcome receipt r' := by
  -- Nothing is to be skipped, so the first receipt ends the search.
  obtain ⟨receipts, hsearched⟩ := h
  obtain ⟨receipt, hone, hverdict⟩ := hsearched.accounted.receipts_eq
  replace hone : receipts = [receipt] := hone
  subst hone
  refine ⟨receipt, hsearched.config.trans same, ?_, ?_, ?_⟩
  · rw [hsearched.events, events]
    rfl
  · have hwork := hsearched.isAtWork work
    refine .working ?_ hwork ?_ ?_
    · rw [Reader.state_of_isAtWork hwork]
      exact fun hstate => ReaderState.noConfusion hstate
    · rw [hsearched.receipts]
      exact hsearched.awaits
    · rw [hsearched.pending, hsearched.receipts, pending, List.filterMap_append]
  · rw [← same]
    exact hverdict

/-- A reader that is polled receives one thing, or stops before it is at work. -/
theorem leaves_poll_reader (r : Scene (Reader α) (Recorded σ)) (hready : Ready r) :
    Leaves (if r.client.state = .uninitialized then Reader.start endpoint.recorded
        else Reader.advance endpoint.recorded) r
      (fun found r' => ∃ receipt, Polled r (.done found) receipt r')
      (fun error r' => (∃ receipt, Polled r (.failed error) receipt r') ∨
        r'.env.events = r.env.events)
      (fun r' => (∃ receipt, Polled r .abandoned receipt r') ∨ r'.env.events = r.env.events) := by
  cases hready with
  | fresh state session pending skipped events =>
    have hreceipts : r.env.receipts = [] := by
      rw [Recorded.receipts, events]
      rfl
    rw [if_pos state]
    have hstarted : ∀ outcome r', Reader.Started r outcome r' →
        ∃ receipt, Polled r outcome receipt r' := by
      rintro outcome r' ⟨working, hsame, hwork, hnone, hevents, hsearching⟩
      rw [pending] at hsearching
      refine polled_of_searching hsame hevents hwork ?_ hsearching
      rw [hnone, Recorded.receipts, hevents, events]
      rfl
    refine (Reader.leaves_start endpoint r state session skipped hreceipts).mono
      (fun _ => hstarted _) ?_ ?_
    · exact fun _ r' h => h.imp (hstarted _ r') (·.events)
    · exact fun r' h => h.imp (hstarted _ r') (·.events)
  | working state work awaits pending =>
    rw [if_neg state]
    have hpolled : ∀ outcome r', Reader.Searching [] r outcome r' →
        ∃ receipt, Polled r outcome receipt r' :=
      fun outcome r' h => polled_of_searching rfl rfl work pending h
    exact (Reader.leaves_advance endpoint work awaits).mono (fun _ => hpolled _)
      (fun _ r' h => .inl (hpolled _ r' h)) (fun r' h => .inl (hpolled _ r' h))

/-- One more thing was received, and nothing else was told. -/
theorem Polled.receipts {r r' : Scene (Reader α) (Recorded σ)}
    {outcome : Outcome ConnectorError Bool} {receipt : Receipt} (h : Polled r outcome receipt r') :
    r'.env.receipts = r.env.receipts ++ [receipt] := by
  rw [Recorded.receipts, h.events, List.filterMap_append]
  rfl

/-- A poll acknowledges nothing. -/
theorem Polled.unacknowledged {r r' : Scene (Reader α) (Recorded σ)}
    {outcome : Outcome ConnectorError Bool} {receipt : Receipt} (h : Polled r outcome receipt r')
    (hevents : r.env.events = r.env.receipts.map .received) :
    r'.env.events = r'.env.receipts.map .received := by
  rw [h.events, h.receipts, hevents, List.map_append]
  rfl

/-- A read that collects the next record goes on, or ends with nothing acknowledged. -/
theorem leaves_collect {s : Scene (BoundedRead α) (Recorded σ)} (h : Reading config s) :
    Leaves (collect endpoint.recorded) s (fun _ => Reading config) (fun _ => Unacknowledged)
      Unacknowledged := by
  let r : Scene (Reader α) (Recorded σ) :=
    { client := s.client.reader, journal := s.journal, env := s.env }
  have hfailed : ∀ outcome (r' : Scene (Reader α) (Recorded σ)),
      (∃ receipt, Polled r outcome receipt r') ∨ r'.env.events = r.env.events →
        r'.env.events = r'.env.receipts.map .received := by
    rintro outcome r' (⟨receipt, hpolled⟩ | hsame)
    · exact hpolled.unacknowledged h.events
    · rw [Recorded.receipts, hsame]
      exact h.events
  simp only [collect, withReader, leaves_bind, Scene.leaves_get, Scene.leaves_within]
  refine (leaves_poll_reader r h.ready).mono ?_ (fun _ r' => hfailed _ r') (fun r' => hfailed _ r')
  rintro found r' ⟨receipt, hpolled⟩
  -- What was received settles both whether a record is collected and which one.
  have hsame : r'.client.config = config := hpolled.same.trans h.same
  have hverdict := hpolled.verdict
  rw [show r.client.config = config from h.same] at hverdict
  have hmessages : r'.env.messages = s.env.messages ++ receipt.message?.toList := by
    rw [Recorded.messages, hpolled.receipts, List.filterMap_append]
    cases hmessage : receipt.message? <;> simp [Recorded.messages, r, hmessage]
  cases found with
  | false =>
    obtain rfl := ReadConfig.eq_none_of_verdict hverdict
    refine ⟨hsame, hpolled.unacknowledged h.events, ?_, hpolled.ready⟩
    rw [hmessages]
    simpa [Receipt.message?] using h.yields
  | true =>
    obtain ⟨message, record, rfl, hcurrent, hyields⟩ := ReadConfig.yields_of_verdict hverdict
    simp only [if_true, leaves_bind, Scene.leaves_get, Reader.leaves_current, hcurrent,
      Scene.leaves_modify, leaves_pure]
    refine ⟨hsame, hpolled.unacknowledged h.events, ?_, hpolled.ready⟩
    rw [hmessages]
    exact List.rel_append h.yields (.cons hyields .nil)

/-- A reader stays ready while nothing is told. -/
theorem Ready.env {r r' : Scene (Reader α) (Recorded σ)} (h : Ready r)
    (client : r'.client = r.client) (events : r'.env.events = r.env.events) : Ready r' := by
  have hreceipts : r'.env.receipts = r.env.receipts := by
    rw [Recorded.receipts, events, Recorded.receipts]
  cases h with
  | fresh state session pending skipped nothing =>
    rw [← client] at state session pending skipped
    exact .fresh state session pending skipped (events.trans nothing)
  | working state work awaits pending =>
    rw [← client] at state work
    refine .working state work ?_ ?_
    · rw [hreceipts, client]
      exact awaits
    · rw [hreceipts, client]
      exact pending

/-- A read goes on as it was while nothing is told. -/
theorem Reading.env {s s' : Scene (BoundedRead α) (Recorded σ)} (h : Reading config s)
    (reader : s'.client.reader = s.client.reader) (records : s'.client.records = s.client.records)
    (events : s'.env.events = s.env.events) : Reading config s' := by
  have hreceipts : s'.env.receipts = s.env.receipts := by
    rw [Recorded.receipts, events, Recorded.receipts]
  refine ⟨by rw [reader, h.same], ?_, ?_, h.ready.env reader events⟩
  · rw [events, hreceipts]
    exact h.events
  · rw [records, Recorded.messages, hreceipts]
    exact h.yields

/-! ## One read -/

/-- A read that polls goes on, or ends with nothing acknowledged. -/
theorem leaves_poll {s : Scene (BoundedRead α) (Recorded σ)} (h : Reading config s)
    (chance : Nat) :
    Leaves (poll endpoint.recorded chance) s (fun _ => Reading config) (fun _ => Unacknowledged)
      Unacknowledged := by
  simp only [poll, leaves_bind, Scene.leaves_clock, Scene.leaves_get]
  refine (leaves_collect h).mono ?_ (fun _ _ => id) (fun _ => id)
  intro found s' hreading
  split
  · exact hreading.env rfl rfl rfl
  · exact hreading

/-- A read that polls and pauses until there is nothing more to do has one record for each message,
or ends with nothing acknowledged. -/
theorem leaves_run {s : Scene (BoundedRead α) (Recorded σ)} (h : Reading config s)
    (chance : Nat → Nat) (budget : Nat) :
    Leaves (run endpoint.recorded chance budget) s (fun _ => Reading config)
      (fun _ => Unacknowledged) Unacknowledged := by
  -- The induction is on the budget, and `Reading` is what every turn preserves.
  induction budget generalizing s with
  | zero => exact h.events
  | succ budget ih =>
    simp only [run, leaves_bind]
    refine (leaves_poll h (chance budget)).mono ?_ (fun _ _ => id) (fun _ => id)
    intro turn s' hreading
    split
    · exact hreading
    · exact ih hreading
    · simp only [leaves_bind, Scene.leaves_pause]
      exact ih (hreading.env rfl rfl rfl)

/-- Where nothing is told but what was received, nothing is acknowledged. -/
theorem Unacknowledged.acknowledged_eq_nil {s : Scene (BoundedRead α) (Recorded σ)}
    (h : Unacknowledged s) : s.env.acknowledged = [] := by
  unfold Unacknowledged at h
  rw [Recorded.acknowledged, h, List.filterMap_map]
  exact List.filterMap_eq_nil_iff.2 fun _ _ => rfl

/-- What is known of a read that is over. It acknowledged no more than it received, it returns one
record for each message, and it failed with something acknowledged only on a later
acknowledgment. -/
structure Concluded (config : ReadConfig α)
    (outcome : Outcome ConnectorError (List (Timestamped α))) (recorded : Recorded σ) : Prop where
  moderate : recorded.acknowledged.Sublist (recorded.receipts.filterMap (·.id?))
  yields : ∀ records, outcome = .done records →
    List.Forall₂ config.Yields recorded.messages records
  excused : ∀ error, outcome = .failed error → recorded.acknowledged ≠ [] →
    ∃ id refusal, error = .broker refusal ∧ refusal.isNotPending = false ∧
      recorded.events.getLast? = some (.acknowledgment id (.failed refusal))

/-- What is known of a read depends on what was told alone. -/
theorem Concluded.env {outcome : Outcome ConnectorError (List (Timestamped α))}
    {recorded recorded' : Recorded σ} (h : Concluded config outcome recorded)
    (events : recorded'.events = recorded.events) : Concluded config outcome recorded' := by
  have hreceipts : recorded'.receipts = recorded.receipts := by
    rw [Recorded.receipts, events, Recorded.receipts]
  have hacknowledged : recorded'.acknowledged = recorded.acknowledged := by
    rw [Recorded.acknowledged, events, Recorded.acknowledged]
  constructor
  · rw [hacknowledged, hreceipts]
    exact h.moderate
  · rw [Recorded.messages, hreceipts]
    exact h.yields
  · rw [hacknowledged, events]
    exact h.excused

/-- A read that acknowledged nothing and returns nothing is over in order. -/
theorem Unacknowledged.concluded {s : Scene (BoundedRead α) (Recorded σ)} (h : Unacknowledged s)
    {outcome : Outcome ConnectorError (List (Timestamped α))} (hdone : outcome.isDone = false) :
    Concluded config outcome s.env := by
  have hnone := h.acknowledged_eq_nil
  refine ⟨?_, ?_, fun _ _ hsome => (hsome hnone).elim⟩
  · rw [hnone]
    exact List.nil_sublist _
  · rintro records rfl
    cases hdone

/-- A read whose entries were settled is over in order. -/
theorem concluded_of_settling {s : Scene (BoundedRead α) (Recorded σ)} (h : Reading config s)
    {entries : List PendingDelivery} {events : List Event} {count : Nat}
    {settled : Outcome BrokerError Unit} (hsettling : Mark.Settling entries events count settled)
    (hentries : entries = s.env.receipts.filterMap (·.delivery?)) {recorded : Recorded σ}
    (hevents : recorded.events = s.env.events ++ events)
    {outcome : Outcome ConnectorError (List (Timestamped α))}
    (hdone : ∀ records, outcome = .done records → records = s.client.records)
    (hfailed : ∀ error, outcome = .failed error → ∃ refusal, error = .broker refusal ∧
      settled = .failed refusal) : Concluded config outcome recorded := by
  have hreceipts : recorded.receipts = s.env.receipts := by
    rw [Recorded.receipts, hevents, List.filterMap_append, hsettling.receipts_eq_nil,
      List.append_nil]
    rfl
  have hacknowledged : recorded.acknowledged = events.filterMap (·.acknowledged?) := by
    have hnone : s.env.acknowledged = [] := Unacknowledged.acknowledged_eq_nil h.events
    rw [Recorded.acknowledged, hevents, List.filterMap_append, ← Recorded.acknowledged, hnone,
      List.nil_append]
  constructor
  · rw [hacknowledged, hreceipts, ← Receipt.map_id_entries, ← hentries]
    exact hsettling.acknowledged_sublist
  · intro records hrecords
    rw [Recorded.messages, hreceipts, hdone records hrecords]
    exact h.yields
  · intro error herror _
    obtain ⟨refusal, rfl, rfl⟩ := hfailed error herror
    obtain ⟨hrefused, id, hlast⟩ := hsettling.getLast?_of_failed
    refine ⟨id, refusal, rfl, hrefused, ?_⟩
    rw [hevents, List.getLast?_append, hlast]
    rfl

/-- A read lists what it received. -/
theorem Reading.pending {s : Scene (BoundedRead α) (Recorded σ)} (h : Reading config s) :
    s.client.reader.mark.pending = s.env.receipts.filterMap (·.delivery?) := by
  cases h.ready with
  | fresh state session pending skipped events =>
    refine pending.trans ?_
    rw [Recorded.receipts, show s.env.events = [] from events]
    rfl
  | working state work awaits pending => exact pending

/-- A read whose reader is closed keeps its records. -/
theorem leaves_close_reader (s : Scene (BoundedRead α) (Recorded σ)) :
    Leaves (withReader (Reader.close endpoint.recorded)) s
      (fun _ s' => s'.client.records = s.client.records ∧ s'.env.events = s.env.events)
      (fun _ s' => s'.client.records = s.client.records ∧ s'.env.events = s.env.events)
      (fun s' => s'.client.records = s.client.records ∧ s'.env.events = s.env.events) := by
  refine Scene.leaves_idle ?_ (.of_agree fun _ h => .within (Reader.agree_close h))
  rw [withReader, Scene.leaves_within]
  exact .of_forall (fun _ _ => rfl) (fun _ _ => rfl) fun _ => rfl

/-- A read whose reader is finalized acknowledges what it received, up to the first acknowledgment
that fails. -/
theorem leaves_finalize_reader {s : Scene (BoundedRead α) (Recorded σ)} (h : Reading config s) :
    Leaves (withReader (Reader.finalize endpoint.recorded)) s
      (fun _ s' => s'.client.records = s.client.records ∧
        Concluded config (.done s.client.records) s'.env)
      (fun error s' => Concluded config (.failed error) s'.env)
      (fun s' => Concluded config .abandoned s'.env) := by
  simp only [withReader, Scene.leaves_within, Reader.finalize]
  refine (Mark.leaves_finalize endpoint _).mono ?_ ?_ ?_
  · rintro acknowledged s' ⟨events, count, hfinalizing, hsettling⟩
    refine ⟨trivial, concluded_of_settling h hsettling h.pending hfinalizing.told ?_ ?_⟩
    · rintro records hrecords
      exact (Outcome.done.inj hrecords).symm
    · rintro error hfailed
      cases hfailed
  · rintro error s' ⟨events, count, hfinalizing, hdetached | ⟨refusal, rfl, hsettling⟩⟩
    · have hevents : s'.env.events = s.env.events := by
        rw [hfinalizing.told, (hfinalizing.detached hdetached).1, List.append_nil]
      exact (Unacknowledged.concluded h.events rfl).env hevents
    · refine concluded_of_settling h hsettling h.pending hfinalizing.told ?_ ?_
      · rintro records hrecords
        cases hrecords
      · rintro error hfailed
        exact ⟨refusal, (Outcome.failed.inj hfailed).symm, rfl⟩
  · rintro s' ⟨events, count, hfinalizing, hsettling⟩
    refine concluded_of_settling h hsettling h.pending hfinalizing.told ?_ ?_
    · rintro records hrecords
      cases hrecords
    · rintro error hfailed
      cases hfailed

/-- What is known of a read that returns its records is known if it is abandoned. -/
theorem Concluded.abandoned {records : List (Timestamped α)} {recorded : Recorded σ}
    (h : Concluded config (.done records) recorded) : Concluded config .abandoned recorded where
  moderate := h.moderate
  yields _ hdone := by cases hdone
  excused _ hfailed := by cases hfailed

/-- A read that found everything acknowledges what it received, and closes its reader. -/
theorem leaves_conclude_ok {s : Scene (BoundedRead α) (Recorded σ)} (h : Reading config s) :
    Leaves (conclude endpoint.recorded (.ok ())) s
      (fun records s' => Concluded config (.done records) s'.env)
      (fun error s' => Concluded config (.failed error) s'.env)
      (fun s' => Concluded config .abandoned s'.env) := by
  simp only [conclude, leaves_bind, leaves_attempt]
  refine (leaves_finalize_reader h).mono ?_ ?_ (fun _ => id)
  · rintro acknowledged s₁ ⟨hrecords, hconcluded⟩
    have hreturned : ∀ s₂ : Scene (BoundedRead α) (Recorded σ),
        s₂.client.records = s₁.client.records ∧ s₂.env.events = s₁.env.events →
          Concluded config (.done s₂.client.records) s₂.env := by
      rintro s₂ ⟨hsame, hevents⟩
      rw [hsame, hrecords]
      exact hconcluded.env hevents
    refine (leaves_close_reader s₁).mono ?_ ?_ ?_
    · exact fun _ s₂ hclosed => hreturned s₂ hclosed
    · exact fun _ s₂ hclosed => hreturned s₂ hclosed
    · exact fun s₂ hclosed => (hreturned s₂ hclosed).abandoned
  · intro error s₁ hconcluded
    refine (leaves_close_reader s₁).mono ?_ ?_ ?_
    · exact fun _ s₂ hclosed => hconcluded.env hclosed.2
    · exact fun _ s₂ hclosed => hconcluded.env hclosed.2
    · rintro s₂ ⟨-, hevents⟩
      have hsame := hconcluded.env hevents
      exact ⟨hsame.moderate, by simp, by simp⟩

/-- A read that failed closes its reader and acknowledges nothing. -/
theorem leaves_conclude_error {s : Scene (BoundedRead α) (Recorded σ)} (h : Unacknowledged s)
    (error : ConnectorError) :
    Leaves (conclude endpoint.recorded (.error error)) s
      (fun records s' => Concluded config (.done records) s'.env)
      (fun error s' => Concluded config (.failed error) s'.env)
      (fun s' => Concluded config .abandoned s'.env) := by
  simp only [conclude, leaves_bind, leaves_attempt, leaves_pure]
  refine (leaves_close_reader s).mono ?_ ?_ ?_
  · exact fun _ s' hclosed => (h.concluded rfl).env hclosed.2
  · exact fun _ s' hclosed => (h.concluded rfl).env hclosed.2
  · exact fun s' hclosed => (h.concluded rfl).env hclosed.2

end BoundedRead

namespace BoundedReader

variable {α σ : Type}

/-- A read that is over acknowledged no more than it received, and failed with something
acknowledged only on a later acknowledgment. -/
theorem concluded_read (endpoint : Endpoint σ) (chance : Nat → Nat) (budget : Nat)
    (bounded : BoundedReader α) (journal : Journal) (env : σ) :
    let result := bounded.read endpoint.recorded chance budget
      { client := (), journal := journal, env := { env := env } }
    BoundedRead.Concluded bounded.source.config result.1 result.2.env := by
  intro result
  have hread : Leaves (bounded.read endpoint.recorded chance budget)
      { client := (), journal := journal, env := { env := env } }
      (fun records s' => BoundedRead.Concluded bounded.source.config (.done records) s'.env)
      (fun error s' => BoundedRead.Concluded bounded.source.config (.failed error) s'.env)
      (fun s' => BoundedRead.Concluded bounded.source.config .abandoned s'.env) := by
    unfold read
    split
    · refine ⟨.refl _, ?_, by simp⟩
      rintro records hdone
      obtain rfl := Outcome.done.inj hdone
      exact .nil
    · simp only [leaves_bind, Scene.leaves_clock, Scene.leaves_alone, leaves_attempt]
      have hbegin : BoundedRead.Reading bounded.source.config
          { client := bounded.begin (endpoint.clock env), journal := journal
            env := ({ env := env } : Recorded σ) } :=
        ⟨rfl, rfl, .nil, .fresh rfl rfl rfl rfl rfl⟩
      refine (BoundedRead.leaves_run hbegin chance budget).mono ?_ ?_ ?_
      · exact fun _ s' h => BoundedRead.leaves_conclude_ok h
      · exact fun error s' h => BoundedRead.leaves_conclude_error h error
      · exact fun s' h => BoundedRead.Unacknowledged.concluded h rfl
  exact hread.result fun outcome (s' : Scene Unit (Recorded σ)) =>
    BoundedRead.Concluded bounded.source.config outcome s'.env

/-- A read of surroundings that are not recorded ends as it does when they are. -/
theorem read_unrecorded (endpoint : Endpoint σ) (chance : Nat → Nat) (budget : Nat)
    (bounded : BoundedReader α) (journal : Journal) (env : σ) :
    bounded.read endpoint chance budget { client := (), journal := journal, env := env } =
      let result := bounded.read endpoint.recorded chance budget
        { client := (), journal := journal, env := { env := env } }
      (result.1, result.2.unrecorded) :=
  (agree_read endpoint.recorded_alike chance budget bounded).unrecorded
    { client := (), journal := journal, env := { env := env } }

/-- **A read acknowledges what it returns.** Whatever a broker with faults in front of it holds and
answers, what a read adds to the acknowledgments of the broker are messages that the read received,
each at most as often as it did. If the read returns, it returns the record of each message that it
received. If it fails with anything acknowledged, it fails because the broker refused a later
acknowledgment; so whatever else a read fails with, it acknowledged nothing. What was received is
known from the same read of surroundings that are recorded. -/
theorem acknowledges_what_it_returns (site : Nat) (chance : Nat → Nat) (budget : Nat)
    (bounded : BoundedReader α) (journal : Journal) (world : World) :
    let result := bounded.read (World.endpoint site) chance budget
      { client := (), journal := journal, env := world }
    let recorded := (bounded.read (World.endpoint site).recorded chance budget
      { client := (), journal := journal, env := { env := world } }).2.env
    recorded.env = result.2.env ∧
    ∃ granted,
      result.2.env.acknowledged site = world.acknowledged site ++ granted ∧
      granted.Sublist (recorded.receipts.filterMap (·.id?)) ∧
      (∀ records, result.1 = .done records →
        List.Forall₂ bounded.source.config.Yields recorded.messages records) ∧
      (∀ error, result.1 = .failed error → granted ≠ [] →
        ∃ id refusal, error = .broker refusal ∧ refusal.isNotPending = false ∧
          recorded.events.getLast? = some (.acknowledgment id (.failed refusal))) := by
  intro result recorded
  have hconcluded := concluded_read (World.endpoint site) chance budget bounded journal world
  have hasks : Scene.Asks (World.endpoint site).recorded (fun _ => True)
      (bounded.read (World.endpoint site).recorded chance budget) :=
    .of_agree fun _ h => agree_read h chance budget bounded
  have hsteps : (World.endpoint site).recorded.Steps (fun _ => True) { env := world } recorded :=
    hasks { client := (), journal := journal, env := { env := world } }
  have hsame := read_unrecorded (World.endpoint site) chance budget bounded journal world
  have hended : result.1 = (bounded.read (World.endpoint site).recorded chance budget
      { client := (), journal := journal, env := { env := world } }).1 := congrArg Prod.fst hsame
  have henv : result.2.env = recorded.env := congrArg (·.2.env) hsame
  obtain ⟨granted, told, hgranted, htold, hsub⟩ := World.acknowledged_of_steps site hsteps
  have hall : recorded.acknowledged = told := htold
  rw [henv, hended]
  refine ⟨rfl, granted, hgranted, ?_, hconcluded.yields, ?_⟩
  · exact hsub.trans (hall ▸ hconcluded.moderate)
  · intro error hfailed hsome
    refine hconcluded.excused error hfailed ?_
    rintro hnone
    rw [hall] at hnone
    rw [hnone] at hsub
    exact hsome (List.sublist_nil.1 hsub)

/-- A broker with two messages on a queue, in front of which the second acknowledgment fails. -/
def refusingWorld : World where
  timeOfDay := 1
  sites := [{
    broker := .after none (Reader.publishing "orders" ["A", "B"])
    faults := [{
      point := .sessionAcknowledge
      after := 1
      times := 1
      effect := .fail (.unavailable "gone") }] }]

/-- A read of two texts of a queue. -/
def twoTextsOf (queue : String) : BoundedReader String where
  source := { config := { Reader.textsOf queue with maxNumRecords := some 2 } }
  isBounded := rfl

/-- A read fails with a message acknowledged: the broker refuses the second acknowledgment after it
granted the first. -/
theorem acknowledges_unreturned_refusingWorld :
    let result := (twoTextsOf "orders").read (World.endpoint 0) (fun _ => 0) 4
      { client := (), journal := {}, env := refusingWorld }
    result.1 = .failed (.broker (.unavailable "gone")) ∧
    (refusingWorld.broker 0).acknowledged = [] ∧
    (result.2.env.broker 0).acknowledged = [⟨"A"⟩] := by
  decide +kernel

end BoundedReader

end BrokerConnector
