import BrokerConnector.Proofs.Calls
import BrokerConnector.Proofs.Recording

/-!
# What a reader makes of what it receives

A reader that looks for a message receives until something comes that it is not to skip. What is
shown here of its calls holds against any endpoint, abandoned calls included: each receipt of a
message with an identifier is listed in the mark, a receipt is passed over exactly if its message
comes back for the first time, and the last receipt settles how the call ends (`leaves_poll`).

A mark that is finalized asks for the acknowledgment of its entries in order. `Mark.Settling` tells
how far that goes: an entry is settled when its acknowledgment is granted or the broker does not
know it, and the first one that is not ends the finalization.
-/

namespace BrokerConnector

open BrokerConnector.Action

namespace Receipt

/-- The identifier of the message that was received. -/
def id? : Receipt → Option MessageId
  | .done (some message) => message.id
  | _ => none

/-- The entry that a mark makes of what was received. -/
def delivery? : Receipt → Option PendingDelivery
  | .done (some message) => message.id.map (⟨·, message.timestamp⟩)
  | _ => none

/-- A message that was listed comes back, for the first time. -/
def Returns (listed : List MessageId) (earlier : List Receipt) (receipt : Receipt) : Prop :=
  ∃ id, receipt.id? = some id ∧ id ∈ listed ∧ id ∉ earlier.filterMap (·.id?)

/-- The entry of a message is listed under the identifier of the message. -/
theorem map_id_delivery? (receipt : Receipt) : receipt.delivery?.map (·.id) = receipt.id? := by
  unfold delivery? id?
  split
  · rw [Option.map_map]
    exact Option.map_id'
  · rfl

/-- The messages that were received are those that were listed. -/
theorem map_id_entries (receipts : List Receipt) :
    (receipts.filterMap (·.delivery?)).map (·.id) = receipts.filterMap (·.id?) := by
  rw [List.map_filterMap]
  exact congrArg (receipts.filterMap ·) (funext map_id_delivery?)

end Receipt

namespace Link

variable {σ : Type}

/-- The release of a link lists what failed and does not fail. -/
theorem leaves_release (endpoint : Endpoint σ) (s : Scene Link σ) :
    Leaves (release endpoint) s (fun _ _ => True) (fun _ _ => False) (fun _ => True) := by
  -- A release that is refused is noted, and the next one is tried.
  have hrelease : ∀ (request : Request) (told : BrokerError → Notice) (s : Scene Link σ),
      Leaves (Scene.release endpoint request told : Call Link σ (List BrokerError)) s
        (fun _ _ => True) (fun _ _ => False) (fun _ => True) := by
    intro request told s
    rw [Scene.leaves_release]
    exact .of_forall (fun _ _ => trivial) (fun _ _ => trivial) fun _ => trivial
  have hsession : Leaves (releaseSession endpoint) s (fun _ _ => True) (fun _ _ => False)
      (fun _ => True) := by
    simp only [releaseSession, leaves_bind, Scene.leaves_get]
    cases s.client.session with
    | none => trivial
    | some session => exact hrelease _ _ _
  have hconnection : ∀ s : Scene Link σ, Leaves (releaseConnection endpoint) s
      (fun _ _ => True) (fun _ _ => False) (fun _ => True) := by
    intro s
    simp only [releaseConnection, leaves_bind, Scene.leaves_get]
    cases s.client.connection with
    | none => trivial
    | some connection =>
      simp only [leaves_bind, Scene.leaves_modify]
      refine (hrelease _ _ _).mono ?_ (fun _ _ => id) (fun _ => id)
      intro stopping s' _
      exact (hrelease _ _ _).mono (fun _ _ _ => trivial) (fun _ _ => id) (fun _ => id)
  simp only [release, leaves_bind, leaves_pure]
  exact hsession.mono (fun _ _ _ => hconnection _) (fun _ _ => id) (fun _ => id)

end Link

/-- How a call that looks for a message ends when this was received last, and the record that is
current then. -/
def ReadConfig.verdict {α : Type} (config : ReadConfig α) :
    Receipt → Outcome ConnectorError Bool × Option (Timestamped α)
  | .done none => (.done false, none)
  | .failed error => (.failed (.broker error), none)
  | .abandoned => (.abandoned, none)
  | .done (some message) =>
    match message.id with
    | none => (.failed (.checkpoint "received a message without identifier"), none)
    | some id =>
      match config.mapper message with
      | .error reason => (.failed (.mapping id.text reason), none)
      | .ok value => (.done true, some ⟨value, message.timestamp⟩)

namespace Reader

variable {α σ : Type}

/-- A call that looked for a message: what was received on the way, how the call ended and the
record that was current then. -/
structure Poll (α : Type) where
  receipts : List Receipt
  outcome : Outcome ConnectorError Bool
  current : Option (Timestamped α)

/-- A poll passes over what comes back for the first time, and the first receipt that does not
settles how it ends. -/
structure Poll.Accounted (config : ReadConfig α) (listed : List MessageId)
    (earlier : List Receipt) (poll : Poll α) : Prop where
  returns : ∀ before receipt after, poll.receipts = before ++ receipt :: after →
    (after ≠ [] ↔ receipt.Returns listed (earlier ++ before))
  verdict : ∃ last, poll.receipts.getLast? = some last ∧
    (poll.outcome, poll.current) = config.verdict last

/-- A poll that passes over nothing. -/
theorem Poll.Accounted.singleton {config : ReadConfig α} {listed : List MessageId}
    {earlier : List Receipt} {receipt : Receipt} {outcome : Outcome ConnectorError Bool}
    {current : Option (Timestamped α)} (hreturns : ¬ receipt.Returns listed earlier)
    (hverdict : (outcome, current) = config.verdict receipt) :
    Poll.Accounted config listed earlier ⟨[receipt], outcome, current⟩ := by
  refine ⟨?_, receipt, rfl, hverdict⟩
  intro before other after h
  cases before with
  | nil =>
    obtain ⟨rfl, rfl⟩ := List.cons.inj h
    simpa using hreturns
  | cons first before =>
    have hnil := (List.cons.inj h).2
    simp at hnil

/-- A poll that passes over one more message. -/
theorem Poll.Accounted.cons {config : ReadConfig α} {listed : List MessageId}
    {earlier receipts : List Receipt} {receipt : Receipt} {outcome : Outcome ConnectorError Bool}
    {current : Option (Timestamped α)} (hreturns : receipt.Returns listed earlier)
    (h : Poll.Accounted config listed (earlier ++ [receipt]) ⟨receipts, outcome, current⟩) :
    Poll.Accounted config listed earlier ⟨receipt :: receipts, outcome, current⟩ := by
  obtain ⟨last, hlast, hverdict⟩ := h.verdict
  have hne : receipts ≠ [] := by
    rintro rfl
    cases hlast
  refine ⟨?_, last, ?_, hverdict⟩
  · intro before other after hsplit
    cases before with
    | nil =>
      obtain ⟨rfl, rfl⟩ := List.cons.inj hsplit
      rw [List.append_nil]
      exact iff_of_true hne hreturns
    | cons first before =>
      obtain ⟨rfl, hrest⟩ := List.cons.inj hsplit
      have hother := h.returns before other after hrest
      rwa [List.append_assoc] at hother
  · rw [List.getLast?_cons, hlast]
    rfl

/-- What a poll passes over was listed. -/
theorem Poll.Accounted.mem_listed {config : ReadConfig α} {listed : List MessageId}
    {earlier : List Receipt} {poll : Poll α} (h : poll.Accounted config listed earlier)
    {id : MessageId} (hid : id ∈ poll.receipts.dropLast.filterMap (·.id?)) : id ∈ listed := by
  obtain ⟨receipt, hreceipt, hsome⟩ := List.mem_filterMap.1 hid
  obtain ⟨before, after, hsplit⟩ := List.append_of_mem hreceipt
  obtain ⟨last, hlast, -⟩ := h.verdict
  have hwhole : poll.receipts = before ++ receipt :: (after ++ [last]) := by
    rw [← List.dropLast_append_getLast? last hlast, hsplit, List.append_assoc]
    rfl
  obtain ⟨id', hid', hlisted, -⟩ := (h.returns before receipt _ hwhole).1 (by simp)
  obtain rfl := Option.some.inj (hsome.symm.trans hid')
  exact hlisted

/-- A poll passes over nothing if nothing is listed. -/
theorem Poll.Accounted.receipts_eq {config : ReadConfig α} {earlier : List Receipt} {poll : Poll α}
    (h : poll.Accounted config [] earlier) :
    ∃ last, poll.receipts = [last] ∧ (poll.outcome, poll.current) = config.verdict last := by
  obtain ⟨last, hlast, hverdict⟩ := h.verdict
  refine ⟨last, ?_, hverdict⟩
  obtain ⟨first, rest, hreceipts⟩ : ∃ first rest, poll.receipts = first :: rest := by
    refine List.exists_cons_of_ne_nil fun hnil => ?_
    rw [hnil] at hlast
    cases hlast
  have hrest : rest = [] := by
    by_contra hne
    obtain ⟨id, -, hlisted, -⟩ := (h.returns [] first rest hreceipts).1 hne
    cases hlisted
  rw [hreceipts, hrest] at hlast
  have hone : first = last := Option.some.inj hlast
  rw [hreceipts, hrest, hone]

/-! ## What is still to be skipped -/

/-- The messages to skip are those that were listed and did not come back yet. -/
def Awaits (listed : List MessageId) (earlier : List Receipt) (skipped : List MessageId) : Prop :=
  ∀ id, id ∈ skipped ↔ id ∈ listed ∧ id ∉ earlier.filterMap (·.id?)

namespace Awaits

variable {listed skipped : List MessageId} {earlier : List Receipt} {receipt : Receipt}

/-- What comes back for the first time is to be skipped. -/
theorem returns_iff (h : Awaits listed earlier skipped) :
    receipt.Returns listed earlier ↔ ∃ id, receipt.id? = some id ∧ id ∈ skipped := by
  unfold Receipt.Returns
  exact exists_congr fun id => and_congr_right fun _ => (h id).symm

/-- A message that does not come back leaves those to skip as they are. -/
theorem pass (h : Awaits listed earlier skipped) (hreturns : ¬ receipt.Returns listed earlier) :
    Awaits listed (earlier ++ [receipt]) skipped := by
  intro id
  rw [h.returns_iff] at hreturns
  have hother : id ∈ skipped → receipt.id? ≠ some id := fun hskipped he =>
    hreturns ⟨id, he, hskipped⟩
  rw [List.filterMap_append, List.mem_append, not_or, ← and_assoc, ← h id]
  refine ⟨fun hskipped => ⟨hskipped, ?_⟩, And.left⟩
  simpa using hother hskipped

/-- A message that comes back is not to be skipped any more. -/
theorem unskip {id : MessageId} (h : Awaits listed earlier skipped)
    (hid : receipt.id? = some id) :
    Awaits listed (earlier ++ [receipt]) (skipped.filter (· ≠ id)) := by
  intro other
  rw [List.mem_filter, h other, List.filterMap_append, List.mem_append, not_or, ← and_assoc]
  refine and_congr_right fun _ => ?_
  simp [hid]

end Awaits

/-! ## Acquiring and closing -/

/-- A reader that acquired its resources lists nothing, and is to skip what it listed before. -/
structure Acquired (before after : Reader α) : Prop where
  config : after.config = before.config
  pending : after.mark.pending = []
  skipped : after.skipped = before.skipped ++ before.mark.pending.map (·.id)
  consumer : after.consumer.isSome = true

/-- A reader that stopped while it acquired its resources has its mark as it was, or attached. -/
structure Halted (before after : Reader α) : Prop where
  config : after.config = before.config
  state : after.state = before.state
  mark : after.mark = before.mark ∨ after.mark.pending = []

/-- A reader acquires its resources or stops on the way. -/
theorem leaves_acquire (endpoint : Endpoint σ) (s : Scene (Reader α) σ) :
    Leaves (acquire endpoint) s (fun _ s' => Acquired s.client s'.client)
      (fun _ s' => Halted s.client s'.client) (fun s' => Halted s.client s'.client) := by
  simp only [acquire, leaves_bind, Scene.leaves_get, withLink, Scene.leaves_within, setupStep,
    leaves_mapError, Scene.leaves_modify, Scene.leaves_modifyJournaled]
  refine .of_forall ?_ (fun _ _ => ⟨rfl, rfl, .inl rfl⟩) (fun _ => ⟨rfl, rfl, .inl rfl⟩)
  intro session s₁
  refine Scene.leaves_ask ?_ (fun _ _ _ => ⟨rfl, rfl, .inl rfl⟩) (fun _ _ => ⟨rfl, rfl, .inl rfl⟩)
  intro destination env _
  refine Scene.leaves_ask ?_ (fun _ _ _ => ⟨rfl, rfl, .inl rfl⟩) (fun _ _ => ⟨rfl, rfl, .inl rfl⟩)
  intro consumer env _
  -- From here on the mark is attached.
  refine Scene.leaves_ask ?_ (fun _ _ _ => ⟨rfl, rfl, .inr ?_⟩) (fun _ _ => ⟨rfl, rfl, .inr ?_⟩)
  · intro estimator env _
    exact ⟨rfl, pending_attach _ _ _, rfl, rfl⟩
  · exact pending_attach _ _ _
  · exact pending_attach _ _ _

/-- A reader that is closed, or stopped on the way, keeps what it lists and what it is to skip. -/
structure Parted (before after : Reader α) : Prop where
  config : after.config = before.config
  pending : after.mark.pending = before.mark.pending
  session : after.mark.session = before.mark.session ∨ after.mark.session = none
  skipped : after.skipped = before.skipped
  state : after.state = before.state ∨ after.state = .closed

/-- A reader that is left alone parts. -/
theorem Parted.refl (reader : Reader α) : Parted reader reader :=
  ⟨rfl, rfl, .inl rfl, rfl, .inl rfl⟩

/-- A mark that is detached or empty stays so when its reader is closed. -/
theorem Parted.mark {before after : Reader α} (h : Parted before after)
    (hmark : before.mark.session = none ∨ before.mark.pending = []) :
    after.mark.session = none ∨ after.mark.pending = [] := by
  rcases hmark with hsession | hpending
  · rcases h.session with hsame | hnone
    · exact .inl (hsame.trans hsession)
    · exact .inl hnone
  · exact .inr (h.pending.trans hpending)

/-- A reader that releases its consumer does not fail. -/
theorem leaves_releaseConsumer (endpoint : Endpoint σ) (s : Scene (Reader α) σ) :
    Leaves (releaseConsumer endpoint) s
      (fun _ s' => ∃ consumer, s'.client = { s.client with consumer := consumer })
      (fun _ _ => False)
      (fun s' => ∃ consumer, s'.client = { s.client with consumer := consumer }) := by
  simp only [releaseConsumer, leaves_bind, Scene.leaves_get]
  cases s.client.consumer with
  | none => exact ⟨s.client.consumer, rfl⟩
  | some consumer =>
    simp only [leaves_bind, Scene.leaves_modify, Scene.leaves_release]
    exact Scene.leaves_ask (fun _ _ _ => ⟨none, rfl⟩) (fun _ _ _ => ⟨none, rfl⟩)
      (fun _ _ => ⟨none, rfl⟩)

/-- A reader that stops its estimator does not fail. -/
theorem leaves_releaseEstimator (endpoint : Endpoint σ) (s : Scene (Reader α) σ) :
    Leaves (releaseEstimator endpoint) s
      (fun _ s' => ∃ estimator, s'.client = { s.client with estimator := estimator })
      (fun _ _ => False)
      (fun s' => ∃ estimator, s'.client = { s.client with estimator := estimator }) := by
  simp only [releaseEstimator, leaves_bind, Scene.leaves_get]
  cases s.client.estimator with
  | none => exact ⟨s.client.estimator, rfl⟩
  | some estimator =>
    simp only [leaves_bind, Scene.leaves_modify, leaves_attempt, leaves_pure]
    exact Scene.leaves_ask (fun _ _ _ => ⟨none, rfl⟩) (fun _ _ _ => ⟨none, rfl⟩)
      (fun _ _ => ⟨none, rfl⟩)

/-- A reader is closed or stops on the way. -/
theorem leaves_close (endpoint : Endpoint σ) (s : Scene (Reader α) σ) :
    Leaves (close endpoint) s
      (fun _ s' => Parted s.client s'.client ∧ s'.client.state = .closed)
      (fun _ s' => Parted s.client s'.client ∧ s'.client.state = .closed)
      (fun s' => Parted s.client s'.client) := by
  -- The consumer, the link and the estimator go in this order. Only when all of them are gone does
  -- the mark lose its session.
  simp only [close, leaves_bind, withLink, Scene.leaves_within, Scene.leaves_modifyJournaled]
  refine (leaves_releaseConsumer endpoint s).mono ?_ (fun _ _ => False.elim) ?_
  · rintro ofConsumer s₁ ⟨consumer, hclient₁⟩
    refine (Link.leaves_release endpoint _).mono ?_ (fun _ _ => False.elim) ?_
    · intro ofLink s₂ _
      refine (leaves_releaseEstimator endpoint _).mono ?_ (fun _ _ => False.elim) ?_
      · rintro _ s₃ ⟨estimator, hclient₃⟩
        have hparted : Parted s.client (retire s₃.client s₃.journal).1 := by
          rw [hclient₃, hclient₁]
          exact ⟨rfl, by simp [retire, Mark.detach], .inr rfl, rfl, .inr rfl⟩
        split
        · exact ⟨hparted, rfl⟩
        · exact ⟨hparted, rfl⟩
      · rintro s₃ ⟨estimator, hclient₃⟩
        rw [hclient₃, hclient₁]
        exact ⟨rfl, rfl, .inl rfl, rfl, .inl rfl⟩
    · intro s₂ _
      rw [hclient₁]
      exact ⟨rfl, rfl, .inl rfl, rfl, .inl rfl⟩
  · rintro s₁ ⟨consumer, hclient₁⟩
    rw [hclient₁]
    exact ⟨rfl, rfl, .inl rfl, rfl, .inl rfl⟩

/-! ## Looking for a message -/

/-- What a reader that looked for a message did from one scene to another, and what it received. -/
structure Searched (listed : List MessageId) (s : Scene (Reader α) (Recorded σ))
    (outcome : Outcome ConnectorError Bool) (receipts : List Receipt)
    (s' : Scene (Reader α) (Recorded σ)) : Prop where
  config : s'.client.config = s.client.config
  state : s'.client.state = s.client.state
  consumer : s'.client.consumer = s.client.consumer
  session : s'.client.mark.session = s.client.mark.session
  events : s'.env.events = s.env.events ++ receipts.map .received
  pending : s'.client.mark.pending = s.client.mark.pending ++ receipts.filterMap (·.delivery?)
  awaits : Awaits listed (s.env.receipts ++ receipts) s'.client.skipped
  accounted : Poll.Accounted s.client.config listed s.env.receipts
    ⟨receipts, outcome, s'.client.current⟩

/-- What is received in a search is recorded. -/
theorem Searched.receipts {listed : List MessageId} {s s' : Scene (Reader α) (Recorded σ)}
    {outcome : Outcome ConnectorError Bool} {receipts : List Receipt}
    (h : Searched listed s outcome receipts s') :
    s'.env.receipts = s.env.receipts ++ receipts := by
  rw [Recorded.receipts, h.events, List.filterMap_append, ← Recorded.receipts, List.filterMap_map]
  congr 1
  exact List.filterMap_some

section

variable {listed : List MessageId} {s s' s'' : Scene (Reader α) (Recorded σ)}
  {outcome : Outcome ConnectorError Bool} {receipt : Receipt}

/-- What a reader did that received one thing. -/
structure Received (s : Scene (Reader α) (Recorded σ)) (receipt : Receipt)
    (s' : Scene (Reader α) (Recorded σ)) : Prop where
  config : s'.client.config = s.client.config
  state : s'.client.state = s.client.state
  consumer : s'.client.consumer = s.client.consumer
  session : s'.client.mark.session = s.client.mark.session
  events : s'.env.events = s.env.events ++ [.received receipt]
  pending : s'.client.mark.pending = s.client.mark.pending ++ [receipt].filterMap (·.delivery?)

/-- A search that is over with its first receipt. -/
theorem Received.searched (h : Received s receipt s')
    (hawaits : Awaits listed s.env.receipts s.client.skipped)
    (hskipped : s'.client.skipped = s.client.skipped)
    (hreturns : ¬ receipt.Returns listed s.env.receipts)
    (hverdict : (outcome, s'.client.current) = s.client.config.verdict receipt) :
    Searched listed s outcome [receipt] s' where
  config := h.config
  state := h.state
  consumer := h.consumer
  session := h.session
  events := h.events
  pending := h.pending
  awaits := by
    rw [hskipped]
    exact hawaits.pass hreturns
  accounted := .singleton hreturns hverdict

/-- A search that goes on after its first receipt. -/
theorem Searched.cons {receipts : List Receipt} (hreceived : Received s receipt s')
    (hreturns : receipt.Returns listed s.env.receipts)
    (h : Searched listed s' outcome receipts s'') :
    Searched listed s outcome (receipt :: receipts) s'' := by
  have hreceipts : s'.env.receipts = s.env.receipts ++ [receipt] := by
    rw [Recorded.receipts, hreceived.events, List.filterMap_append]
    rfl
  constructor
  · exact h.config.trans hreceived.config
  · exact h.state.trans hreceived.state
  · exact h.consumer.trans hreceived.consumer
  · exact h.session.trans hreceived.session
  · rw [h.events, hreceived.events, List.append_assoc]
    rfl
  · rw [h.pending, hreceived.pending, List.append_assoc, ← List.filterMap_append]
    rfl
  · have hawaits := h.awaits
    rwa [hreceipts, List.append_assoc] at hawaits
  · have haccounted := h.accounted
    rw [hreceipts, hreceived.config] at haccounted
    exact haccounted.cons hreturns

/-- What a reader does with a message that it has listed, if it may skip up to `budget` more. -/
def resume (endpoint : Endpoint σ) (consumer : ConsumerHandle) (message : Message)
    (id : MessageId) : Nat → Call (Reader α) σ Bool
  | 0 => emit message id
  | budget + 1 => do
    if id ∈ (← Scene.get).skipped then
      Scene.modify (unskip id)
      Scene.count .redeliveriesSkipped 1
      poll endpoint consumer budget
    else
      emit message id

variable {endpoint : Endpoint σ} {consumer : ConsumerHandle}

/-- A reader after it listed a message. -/
def tracked (s : Scene (Reader α) (Recorded σ)) (env : σ) (message : Message) (id : MessageId) :
    Scene (Reader α) (Recorded σ) where
  client := (track id message.timestamp s.client s.journal).1
  journal := (track id message.timestamp s.client s.journal).2
  env := s.env.told env (.received (.done (some message)))

/-- A message that was listed was received. -/
theorem received_tracked (s : Scene (Reader α) (Recorded σ)) (env : σ) {message : Message}
    {id : MessageId} (hid : message.id = some id) :
    Received s (.done (some message)) (tracked s env message id) := by
  refine ⟨rfl, rfl, rfl, rfl, rfl, ?_⟩
  simp [tracked, track, Mark.add, Receipt.delivery?, hid]

/-- A reader after it listed a message that it is to skip. -/
def passed (s : Scene (Reader α) (Recorded σ)) (env : σ) (message : Message) (id : MessageId) :
    Scene (Reader α) (Recorded σ) where
  client := unskip id (tracked s env message id).client
  journal := (tracked s env message id).journal.change .redeliveriesSkipped 1
  env := (tracked s env message id).env

/-- A message that is skipped was received. -/
theorem received_passed (s : Scene (Reader α) (Recorded σ)) (env : σ) {message : Message}
    {id : MessageId} (hid : message.id = some id) :
    Received s (.done (some message)) (passed s env message id) :=
  ⟨rfl, rfl, rfl, rfl, rfl, (received_tracked s env hid).pending⟩

/-- A search with this outcome was made, whatever was received. -/
def Searching (listed : List MessageId) (s : Scene (Reader α) (Recorded σ))
    (outcome : Outcome ConnectorError Bool) (s' : Scene (Reader α) (Recorded σ)) : Prop :=
  ∃ receipts, Searched listed s outcome receipts s'

/-- A search that goes on after its first receipt. -/
theorem Searching.cons (hreceived : Received s receipt s')
    (hreturns : receipt.Returns listed s.env.receipts) (h : Searching listed s' outcome s'') :
    Searching listed s outcome s'' := by
  obtain ⟨receipts, h⟩ := h
  exact ⟨receipt :: receipts, h.cons hreceived hreturns⟩

/-- A message that comes back is to be skipped. -/
theorem Awaits.returns_message_iff {skipped : List MessageId} {earlier : List Receipt}
    {message : Message} {id : MessageId} (h : Awaits listed earlier skipped)
    (hid : message.id = some id) :
    Receipt.Returns listed earlier (.done (some message)) ↔ id ∈ skipped := by
  rw [h.returns_iff]
  have hreceipt : Receipt.id? (.done (some message)) = some id := hid
  rw [hreceipt]
  simp

/-- A reader emits a message that it has listed and is not to skip, unless it cannot map it. -/
theorem leaves_emit (hawaits : Awaits listed s.env.receipts s.client.skipped)
    (hcurrent : s.client.current = none) (env : σ) {message : Message} {id : MessageId}
    (hid : message.id = some id) (hskipped : id ∉ s.client.skipped) :
    Leaves (emit message id) (tracked s env message id)
      (fun found => Searching listed s (.done found))
      (fun error => Searching listed s (.failed error)) (Searching listed s .abandoned) := by
  have hreturns : ¬ Receipt.Returns listed s.env.receipts (.done (some message)) := fun h =>
    hskipped ((hawaits.returns_message_iff hid).1 h)
  have hreceived := received_tracked s env hid
  simp only [emit, leaves_bind, Scene.leaves_get]
  -- The mapper settles how the search ends.
  cases hmapped : (tracked s env message id).client.config.mapper message with
  | error reason =>
    refine ⟨_, hreceived.searched hawaits rfl hreturns ?_⟩
    change (_, s.client.current) = _
    have hmapped' : s.client.config.mapper message = .error reason := hmapped
    simp only [ReadConfig.verdict, hid, hmapped', hcurrent]
  | ok value =>
    simp only [leaves_bind, Scene.leaves_count, Scene.leaves_modify, leaves_pure]
    have hmapped' : s.client.config.mapper message = .ok value := hmapped
    refine ⟨_, Received.searched ⟨rfl, rfl, rfl, rfl, rfl, hreceived.pending⟩ hawaits rfl
      hreturns ?_⟩
    simp only [ReadConfig.verdict, hid, hmapped', current]

/-- A reader that polls asks for a message, and goes on when it is given one that it can list. -/
theorem leaves_poll_of_receive (budget : Nat)
    (hawaits : Awaits listed s.env.receipts s.client.skipped) (hcurrent : s.client.current = none)
    (hresume : ∀ env message id, message.id = some id →
      Leaves (resume endpoint.recorded consumer message id budget) (tracked s env message id)
        (fun found => Searching listed s (.done found))
        (fun error => Searching listed s (.failed error)) (Searching listed s .abandoned)) :
    Leaves (poll endpoint.recorded consumer budget) s
      (fun found => Searching listed s (.done found))
      (fun error => Searching listed s (.failed error)) (Searching listed s .abandoned) := by
  have hnone : ∀ {receipt : Receipt}, receipt.id? = none →
      ¬ receipt.Returns listed s.env.receipts := by
    rintro receipt h ⟨id, hid, -⟩
    rw [h] at hid
    cases hid
  -- Whatever has no identifier ends the search. Only a message that has one can come back.
  unfold poll
  simp only [leaves_bind, leaves_mapError]
  refine Scene.leaves_receive ?_ ?_ ?_
  · intro answer env
    cases answer with
    | none =>
      refine ⟨[.done none], Received.searched ⟨rfl, rfl, rfl, rfl, rfl, ?_⟩ hawaits rfl
        (hnone rfl) ?_⟩
      · exact (List.append_nil _).symm
      · exact congrArg _ hcurrent
    | some message =>
      cases hid : message.id with
      | none =>
        simp only [hid]
        refine ⟨[.done (some message)], Received.searched ⟨rfl, rfl, rfl, rfl, rfl, ?_⟩ hawaits rfl
          (hnone hid) ?_⟩
        · simp [Receipt.delivery?, hid]
        · simp only [ReadConfig.verdict, hid, hcurrent]
      | some id =>
        simp only [hid]
        exact hresume env message id hid
  · intro error env
    refine ⟨[.failed error], Received.searched ⟨rfl, rfl, rfl, rfl, rfl, ?_⟩ hawaits rfl
      (hnone rfl) ?_⟩
    · exact (List.append_nil _).symm
    · exact congrArg _ hcurrent
  · intro env
    refine ⟨[.abandoned], Received.searched ⟨rfl, rfl, rfl, rfl, rfl, ?_⟩ hawaits rfl
      (hnone rfl) ?_⟩
    · exact (List.append_nil _).symm
    · exact congrArg _ hcurrent

/-- A reader that polls makes a search. -/
theorem leaves_poll (endpoint : Endpoint σ) (consumer : ConsumerHandle) (budget : Nat)
    (s : Scene (Reader α) (Recorded σ))
    (hawaits : Awaits listed s.env.receipts s.client.skipped)
    (hcurrent : s.client.current = none) (hbudget : s.client.skipped.length ≤ budget) :
    Leaves (poll endpoint.recorded consumer budget) s
      (fun found => Searching listed s (.done found))
      (fun error => Searching listed s (.failed error)) (Searching listed s .abandoned) := by
  -- The induction is on the budget: every message that is skipped leaves fewer to skip.
  induction budget generalizing s with
  | zero =>
    refine leaves_poll_of_receive 0 hawaits hcurrent fun env message id hid => ?_
    have hempty : s.client.skipped = [] := List.eq_nil_of_length_eq_zero (by omega)
    exact leaves_emit hawaits hcurrent env hid (by simp [hempty])
  | succ budget ih =>
    refine leaves_poll_of_receive (budget + 1) hawaits hcurrent fun env message id hid => ?_
    simp only [resume, leaves_bind, Scene.leaves_get]
    split
    · rename_i hskipped
      replace hskipped : id ∈ s.client.skipped := hskipped
      simp only [leaves_bind, Scene.leaves_modify, Scene.leaves_count]
      have hreturns : Receipt.Returns listed s.env.receipts (.done (some message)) :=
        (hawaits.returns_message_iff hid).2 hskipped
      have hfewer : (s.client.skipped.filter (· ≠ id)).length < s.client.skipped.length :=
        List.length_filter_lt_length_iff_exists.2 ⟨id, hskipped, by simp⟩
      have hpassed := received_passed s env hid
      have hpoll : Leaves (poll endpoint.recorded consumer budget) (passed s env message id)
          (fun found => Searching listed (passed s env message id) (.done found))
          (fun error => Searching listed (passed s env message id) (.failed error))
          (Searching listed (passed s env message id) .abandoned) := by
        refine ih _ ?_ hcurrent ?_
        · have hreceipts : (passed s env message id).env.receipts =
              s.env.receipts ++ [.done (some message)] := s.env.receipts_told_received _ _
          rw [hreceipts]
          exact hawaits.unskip hid
        · show (s.client.skipped.filter (· ≠ id)).length ≤ budget
          omega
      exact hpoll.mono (fun _ _ h => h.cons hpassed hreturns)
        (fun _ _ h => h.cons hpassed hreturns) (fun _ h => h.cons hpassed hreturns)
    · rename_i hskipped
      exact leaves_emit hawaits hcurrent env hid hskipped

/-! ## Starting and advancing -/

/-- Whether a reader can look for messages. -/
def isAtWork (reader : Reader α) : Bool :=
  reader.state = .consuming && reader.consumer.isSome

/-- A reader at work that advances makes a search. -/
theorem leaves_advance (endpoint : Endpoint σ) (hwork : s.client.isAtWork = true)
    (hawaits : Awaits listed s.env.receipts s.client.skipped) :
    Leaves (advance endpoint.recorded) s (fun found => Searching listed s (.done found))
      (fun error => Searching listed s (.failed error)) (Searching listed s .abandoned) := by
  obtain ⟨hstate, hconsumer⟩ : s.client.state = .consuming ∧ s.client.consumer.isSome = true := by
    simpa [isAtWork] using hwork
  simp only [advance, leaves_bind, Scene.leaves_get]
  rw [if_neg (by simp [hstate])]
  simp only [leaves_bind, Scene.leaves_modify]
  split
  · rename_i hnone
    rw [hnone] at hconsumer
    cases hconsumer
  · rename_i consumer _
    let cleared : Scene (Reader α) (Recorded σ) :=
      { s with client := { s.client with record := none, timestamp := none } }
    have hpoll := leaves_poll endpoint consumer s.client.skipped.length cleared hawaits rfl
      (Nat.le_refl _)
    -- A search does not depend on the record that was current before.
    have hsame : ∀ outcome s', Searching listed cleared outcome s' →
        Searching listed s outcome s' := by
      rintro outcome s' ⟨receipts, h⟩
      exact ⟨receipts, h.config, h.state, h.consumer, h.session, h.events, h.pending, h.awaits,
        h.accounted⟩
    exact hpoll.mono (fun _ => hsame _) (fun _ => hsame _) (hsame _)

/-- A reader at work is consuming. -/
theorem state_of_isAtWork {reader : Reader α} (hwork : reader.isAtWork = true) :
    reader.state = .consuming := by
  unfold isAtWork at hwork
  exact of_decide_eq_true (Bool.and_eq_true_iff.1 hwork).1

/-- A reader that is not at work does not look for a message. -/
theorem advance_of_not_isAtWork (endpoint : Endpoint σ) {s : Scene (Reader α) σ}
    (hwork : s.client.isAtWork = false) :
    ∃ error record timestamp, advance endpoint s = (.failed error,
      { s with client := { s.client with record := record, timestamp := timestamp } }) := by
  by_cases hstate : s.client.state = .consuming
  · have hconsumer : s.client.consumer = none := by simpa [isAtWork, hstate] using hwork
    simp [advance, bind_apply, hstate, hconsumer]
  · exact ⟨.invalidState ("can not advance a reader that is " ++ s.client.state.label),
      s.client.record, s.client.timestamp, by simp [advance, bind_apply, hstate]⟩

/-- A reader is started only once. -/
theorem start_of_ne_uninitialized (endpoint : Endpoint σ) {s : Scene (Reader α) σ}
    (hstate : s.client.state ≠ .uninitialized) :
    start endpoint s = (.failed (.invalidState
      ("a reader can only be started once, it is " ++ s.client.state.label)), s) := by
  simp [start, bind_apply, hstate]

/-- A reader that makes a search is still at work. -/
theorem Searched.isAtWork {receipts : List Receipt} (h : Searched listed s outcome receipts s')
    (hwork : s.client.isAtWork = true) : s'.client.isAtWork = true := by
  rw [Reader.isAtWork, h.state, h.consumer]
  exact hwork

/-- A reader that started acquired its resources and made its first search. -/
def Started (s : Scene (Reader α) (Recorded σ)) (outcome : Outcome ConnectorError Bool)
    (s' : Scene (Reader α) (Recorded σ)) : Prop :=
  ∃ working : Scene (Reader α) (Recorded σ), working.client.config = s.client.config ∧
    working.client.isAtWork = true ∧ working.client.mark.pending = [] ∧
    working.env.events = s.env.events ∧
    Searching (s.client.mark.pending.map (·.id)) working outcome s'

/-- A reader that started is at work. -/
theorem Started.isAtWork (h : Started s outcome s') : s'.client.isAtWork = true := by
  obtain ⟨working, -, hwork, -, -, receipts, hsearched⟩ := h
  exact hsearched.isAtWork hwork

/-- A reader that stopped before it was at work. -/
structure Stopped (s s' : Scene (Reader α) (Recorded σ)) : Prop where
  config : s'.client.config = s.client.config
  state : s'.client.state = .connecting ∨ s'.client.state = .closed
  mark : s'.client.mark.session = none ∨ s'.client.mark.pending = []
  pending : s'.client.mark.pending = s.client.mark.pending ∨ s'.client.mark.pending = []
  events : s'.env.events = s.env.events

/-- A reader that stopped does not look for messages. -/
theorem Stopped.not_consuming (h : Stopped s s') : s'.client.state ≠ .consuming := by
  rcases h.state with hconnecting | hclosed
  · simp [hconnecting]
  · simp [hclosed]

/-- A reader that stopped was started. -/
theorem Stopped.not_uninitialized (h : Stopped s s') : s'.client.state ≠ .uninitialized := by
  rcases h.state with hconnecting | hclosed
  · simp [hconnecting]
  · simp [hclosed]

/-- A reader that stopped stays stopped as it parts with what it has. -/
theorem Stopped.parted {middle : Scene (Reader α) (Recorded σ)} (h : Stopped s middle)
    (hparted : Parted middle.client s'.client) (hevents : s'.env.events = middle.env.events) :
    Stopped s s' where
  config := hparted.config.trans h.config
  state := by
    rcases hparted.state with hsame | hclosed
    · rw [hsame]
      exact h.state
    · exact .inr hclosed
  mark := hparted.mark h.mark
  pending := by
    rw [hparted.pending]
    exact h.pending
  events := hevents.trans h.events

/-- A reader starts, or stops before it is at work. -/
theorem leaves_start (endpoint : Endpoint σ) (s : Scene (Reader α) (Recorded σ))
    (hstate : s.client.state = .uninitialized) (hsession : s.client.mark.session = none)
    (hskipped : s.client.skipped = []) (hreceipts : s.env.receipts = []) :
    Leaves (start endpoint.recorded) s (fun found => Started s (.done found))
      (fun error s' => Started s (.failed error) s' ∨ Stopped s s')
      (fun s' => Started s .abandoned s' ∨ Stopped s s') := by
  simp only [start, leaves_bind, Scene.leaves_get]
  rw [if_neg (by simp [hstate])]
  simp only [leaves_bind, Scene.leaves_modify, leaves_attempt]
  let connecting : Scene (Reader α) (Recorded σ) :=
    { s with client := { s.client with state := .connecting } }
  have hacquire := Scene.leaves_idle (leaves_acquire endpoint.recorded connecting)
    (asks_acquire endpoint.recorded)
  have hhalt : ∀ s', Halted connecting.client s'.client ∧ s'.env.events = connecting.env.events →
      Stopped s s' := by
    rintro s' ⟨hhalted, hevents⟩
    refine ⟨hhalted.config, .inl hhalted.state, hhalted.mark.imp_left fun hsame => ?_,
      hhalted.mark.imp_left fun hsame => ?_, hevents⟩
    · rw [hsame]
      exact hsession
    · rw [hsame]
  refine hacquire.mono ?_ ?_ fun s₁ h => .inr (hhalt s₁ h)
  -- A reader that acquired everything is at work and looks for its first message.
  · rintro _ s₁ ⟨hacquired, hevents⟩
    let working : Scene (Reader α) (Recorded σ) :=
      { s₁ with client := { s₁.client with state := .consuming } }
    have hwork : working.client.isAtWork = true := by
      simpa [isAtWork, working] using hacquired.consumer
    have hawaits : Awaits (s.client.mark.pending.map (·.id)) working.env.receipts
        working.client.skipped := by
      have hreceipts' : working.env.receipts = [] := by
        rw [Recorded.receipts, show working.env.events = s.env.events from hevents]
        exact hreceipts
      intro id
      rw [hreceipts', show working.client.skipped = _ from hacquired.skipped]
      simp [connecting, hskipped]
    have hstarted : ∀ outcome s', Searching _ working outcome s' → Started s outcome s' :=
      fun _ _ h => ⟨working, hacquired.config, hwork, hacquired.pending, hevents, h⟩
    exact (leaves_advance endpoint hwork hawaits).mono (fun _ => hstarted _)
      (fun _ s' h => .inl (hstarted _ s' h)) (fun s' h => .inl (hstarted _ s' h))
  -- One that failed closes what it has, and may be abandoned while it does.
  · rintro error s₁ hhalted
    simp only [Scene.leaves_note]
    have hclose := Scene.leaves_idle (leaves_close endpoint.recorded
      { s₁ with journal := s₁.journal.note (.readerNotStarted error) })
      (asks_close endpoint.recorded)
    have hstopped : ∀ s', Parted s₁.client s'.client → s'.env.events = s₁.env.events →
        Stopped s s' := fun s' => (hhalt s₁ hhalted).parted
    refine hclose.mono ?_ ?_ ?_
    · exact fun _ s' h => .inr (hstopped s' h.1.1 h.2)
    · exact fun _ s' h => .inr (hstopped _ h.1.1 h.2)
    · exact fun s' h => .inr (hstopped s' h.1 h.2)

end

end Reader

/-! ## Finalizing -/

namespace Mark

variable {σ : Type} {endpoint : Endpoint σ}

/-- How far the acknowledgments of entries went: what was told, how many entries were settled and
how it ended. -/
inductive Settling : List PendingDelivery → List Event → Nat → Outcome BrokerError Unit → Prop where
  | all : Settling [] [] 0 (.done ())
  | granted (entry : PendingDelivery) {rest : List PendingDelivery} {events : List Event}
    {count : Nat} {outcome : Outcome BrokerError Unit} (h : Settling rest events count outcome) :
    Settling (entry :: rest) (.acknowledgment entry.id (.done ()) :: events) (count + 1) outcome
  /-- The session does not hold the entry. -/
  | denied (entry : PendingDelivery) {rest : List PendingDelivery} {events : List Event}
    {count : Nat} {outcome : Outcome BrokerError Unit} {error : BrokerError}
    (hdenied : error.isNotPending = true) (h : Settling rest events count outcome) :
    Settling (entry :: rest) (.acknowledgment entry.id (.failed error) :: events) (count + 1)
      outcome
  | refused (entry : PendingDelivery) (rest : List PendingDelivery) {error : BrokerError}
    (hrefused : error.isNotPending = false) :
    Settling (entry :: rest) [.acknowledgment entry.id (.failed error)] 0 (.failed error)
  | unanswered (entry : PendingDelivery) (rest : List PendingDelivery) :
    Settling (entry :: rest) [.acknowledgment entry.id .abandoned] 0 .abandoned

namespace Settling

variable {entries : List PendingDelivery} {events : List Event} {count : Nat}
  {outcome : Outcome BrokerError Unit}

/-- Nothing is told but how acknowledgments of the entries ended. -/
theorem exists_of_mem (h : Settling entries events count outcome) {event : Event}
    (hevent : event ∈ events) :
    ∃ id outcome, event = .acknowledgment id outcome ∧ id ∈ entries.map (·.id) := by
  induction h with
  | all => cases hevent
  | granted entry _ ih | denied entry _ _ ih =>
    rcases List.mem_cons.1 hevent with rfl | hrest
    · exact ⟨entry.id, _, rfl, List.mem_cons_self⟩
    · obtain ⟨id, outcome, he, hid⟩ := ih hrest
      exact ⟨id, outcome, he, List.mem_cons_of_mem _ hid⟩
  | refused entry rest _ | unanswered entry rest =>
    obtain rfl := List.mem_singleton.1 hevent
    exact ⟨entry.id, _, rfl, List.mem_cons_self⟩

/-- Nothing is received meanwhile. -/
theorem receipts_eq_nil (h : Settling entries events count outcome) :
    events.filterMap (·.receipt?) = [] := by
  refine List.filterMap_eq_nil_iff.2 fun event hevent => ?_
  obtain ⟨id, outcome, rfl, -⟩ := h.exists_of_mem hevent
  rfl

/-- Entries are acknowledged in order, each once at most. -/
theorem acknowledged_sublist (h : Settling entries events count outcome) :
    (events.filterMap (·.acknowledged?)).Sublist (entries.map (·.id)) := by
  induction h with
  | all => exact .refl _
  | granted entry _ ih => exact ih.cons_cons entry.id
  | denied entry _ _ ih => exact ih.cons entry.id
  | refused entry rest _ | unanswered entry rest => exact List.nil_sublist _

/-- If an acknowledgment is refused, nothing is told after it. -/
theorem getLast?_of_failed {refusal : BrokerError}
    (h : Settling entries events count (.failed refusal)) :
    refusal.isNotPending = false ∧
      ∃ id, events.getLast? = some (.acknowledgment id (.failed refusal)) := by
  generalize hfailed : Outcome.failed refusal = outcome at h
  induction h with
  | all => cases hfailed
  | granted entry _ ih | denied entry _ _ ih =>
    obtain ⟨hrefused, id, hlast⟩ := ih hfailed
    refine ⟨hrefused, id, ?_⟩
    rw [List.getLast?_cons, hlast]
    rfl
  | refused entry rest hrefused =>
    obtain rfl := Outcome.failed.inj hfailed
    exact ⟨hrefused, entry.id, rfl⟩
  | unanswered => cases hfailed

end Settling

/-- What is left when the acknowledgments of entries were asked for in order. -/
def Asked (s : Scene Mark (Recorded σ)) (entries : List PendingDelivery) (count : Nat)
    (outcome : Outcome BrokerError Unit) (s' : Scene Mark (Recorded σ)) : Prop :=
  s'.client = s.client ∧
    ∃ events, s'.env.events = s.env.events ++ events ∧ Settling entries events count outcome

/-- One more acknowledgment was asked for before. -/
theorem Asked.cons {s middle s' : Scene Mark (Recorded σ)} {entry : PendingDelivery}
    {rest : List PendingDelivery} {count : Nat} {outcome : Outcome BrokerError Unit} {event : Event}
    (h : Asked middle rest count outcome s') (client : middle.client = s.client)
    (hevent : middle.env.events = s.env.events ++ [event])
    (hsettling : ∀ events, Settling rest events count outcome →
      Settling (entry :: rest) (event :: events) (count + 1) outcome) :
    Asked s (entry :: rest) (count + 1) outcome s' := by
  obtain ⟨hclient, events, hevents, hrest⟩ := h
  refine ⟨hclient.trans client, event :: events, ?_, hsettling events hrest⟩
  rw [hevents, hevent, List.append_assoc, List.singleton_append]

/-- The acknowledgments of entries are asked for in order. -/
theorem leaves_settle (session : SessionHandle) (entries : List PendingDelivery)
    (s : Scene Mark (Recorded σ)) :
    Leaves (settle endpoint.recorded session entries) s
      (fun settlement => Asked s entries settlement.settled
        (settlement.failure.elim (.done ()) .failed))
      (fun _ _ => False) (fun s' => ∃ count, Asked s entries count .abandoned s') := by
  -- The induction is on the entries: each one that is settled puts its event before those of the
  -- rest, and the first one that is not is the last one asked for.
  induction entries generalizing s with
  | nil => exact ⟨rfl, [], (List.append_nil _).symm, .all⟩
  | cons entry rest ih =>
    simp only [settle, leaves_bind, leaves_attempt]
    refine Scene.leaves_acknowledge ?_ ?_ ?_
    · intro env
      simp only [leaves_pure]
      refine (ih _).mono ?_ (fun _ _ => id) ?_
      · exact fun _ _ h => h.cons rfl rfl fun _ => .granted entry
      · rintro s' ⟨count, h⟩
        exact ⟨count + 1, h.cons rfl rfl fun _ => .granted entry⟩
    · intro error env
      split
      · rename_i hdenied
        simp only [leaves_bind, Scene.leaves_note, leaves_pure]
        refine (ih _).mono ?_ (fun _ _ => id) ?_
        · exact fun _ _ h => h.cons rfl rfl fun _ => .denied entry hdenied
        · rintro s' ⟨count, h⟩
          exact ⟨count + 1, h.cons rfl rfl fun _ => .denied entry hdenied⟩
      · rename_i hrefused
        exact ⟨rfl, _, rfl, .refused entry rest (by simpa using hrefused)⟩
    · intro env
      exact ⟨0, rfl, _, rfl, .unanswered entry rest⟩

/-- What a mark that is finalized leaves: a number of entries from the front are gone, and nothing
was asked for but acknowledgments of entries, by the session that the mark is attached to. -/
structure Finalizing (s : Scene Mark (Recorded σ)) (events : List Event) (gone : Nat)
    (s' : Scene Mark (Recorded σ)) : Prop where
  told : s'.env.events = s.env.events ++ events
  session : s'.client.session = s.client.session
  pending : s'.client.pending = s.client.pending.drop gone
  detached : s.client.session = none → events = [] ∧ s'.client = s.client
  acknowledges : ∀ event ∈ events, ∃ id outcome, event = .acknowledgment id outcome ∧
    id ∈ s.client.pending.map (·.id)

/-- A mark that asks for nothing stays as it is. -/
theorem Finalizing.idle (s : Scene Mark (Recorded σ)) : Finalizing s [] 0 s where
  told := (List.append_nil _).symm
  session := rfl
  pending := rfl
  detached _ := ⟨rfl, rfl⟩
  acknowledges := by simp

/-- A mark that is detached or empty asks for nothing. -/
theorem Finalizing.eq_nil {s s' : Scene Mark (Recorded σ)} {events : List Event} {gone : Nat}
    (h : Finalizing s events gone s') (hmark : s.client.session = none ∨ s.client.pending = []) :
    events = [] ∧ s'.client.pending = s.client.pending := by
  rcases hmark with hsession | hpending
  · obtain ⟨hnil, hclient⟩ := h.detached hsession
    exact ⟨hnil, by rw [hclient]⟩
  · refine ⟨List.eq_nil_iff_forall_not_mem.2 fun event hevent => ?_, ?_⟩
    · obtain ⟨id, outcome, -, hid⟩ := h.acknowledges event hevent
      rw [hpending] at hid
      cases hid
    · rw [h.pending, hpending, List.drop_nil]

/-- A mark that is finalized receives nothing: acknowledgments are no receipts. -/
theorem Finalizing.receipts {s s' : Scene Mark (Recorded σ)} {events : List Event} {gone : Nat}
    (h : Finalizing s events gone s') : s'.env.receipts = s.env.receipts := by
  have hnone : events.filterMap (·.receipt?) = [] := by
    refine List.filterMap_eq_nil_iff.2 fun event hevent => ?_
    obtain ⟨id, outcome, rfl, -⟩ := h.acknowledges event hevent
    rfl
  rw [Recorded.receipts, h.told, List.filterMap_append, hnone, List.append_nil]
  rfl

/-- What a mark lists is what was taken from its front, and what is left. -/
theorem Finalizing.taken {s s' : Scene Mark (Recorded σ)} {events : List Event} {gone : Nat}
    (h : Finalizing s events gone s') :
    s.client.pending.take (s.client.pending.length - s'.client.pending.length) ++
      s'.client.pending = s.client.pending := by
  rw [h.pending, List.length_drop]
  rcases Nat.le_total gone s.client.pending.length with hle | hge
  · rw [Nat.sub_sub_self hle, List.take_append_drop]
  · rw [Nat.sub_eq_zero_of_le hge, List.drop_eq_nil_of_le hge, Nat.sub_zero, List.take_length,
      List.append_nil]

/-- A mark that is finalized settles its entries, up to the first acknowledgment that fails. What
it settled is gone then, and the rest stays; nothing is gone if it is abandoned. A detached mark with
entries asks for nothing. -/
theorem leaves_finalize (endpoint : Endpoint σ) (s : Scene Mark (Recorded σ)) :
    Leaves (finalize endpoint.recorded) s
      (fun _ s' => ∃ events count, Finalizing s events count s' ∧
        Settling s.client.pending events count (.done ()))
      (fun error s' => ∃ events count, Finalizing s events count s' ∧ (s.client.session = none ∨
        ∃ refusal, error = .broker refusal ∧
          Settling s.client.pending events count (.failed refusal)))
      (fun s' => ∃ events count, Finalizing s events 0 s' ∧
        Settling s.client.pending events count .abandoned) := by
  simp only [finalize, leaves_bind, Scene.leaves_get]
  split
  · rename_i hempty
    refine ⟨[], 0, .idle s, ?_⟩
    rw [List.isEmpty_iff.1 hempty]
    exact .all
  · cases hsession : s.client.session with
    | none => exact ⟨[], 0, .idle s, .inl rfl⟩
    | some session =>
      have hattached : s.client.session ≠ none := by simp [hsession]
      simp only [leaves_bind, Scene.leaves_modifyJournaled, Scene.leaves_count]
      refine (leaves_settle session s.client.pending s).mono ?_ (fun _ _ => False.elim) ?_
      · rintro settlement s' ⟨hclient, events, hevents, hsettling⟩
        -- The entries that were settled leave the mark, whether or not an acknowledgment failed.
        have hfinalizing : Finalizing s events settlement.settled
            { client := (s'.client.dropSettled settlement.settled s'.journal).1
              journal := (s'.client.dropSettled settlement.settled s'.journal).2.change
                .acknowledged settlement.acknowledged
              env := s'.env } := by
          refine ⟨hevents, ?_, ?_, fun h => (hattached h).elim, ?_⟩
          · rw [session_dropSettled, hclient]
          · rw [pending_dropSettled, hclient]
          · exact fun event hevent => hsettling.exists_of_mem hevent
        split
        · rename_i refusal hfailure
          rw [hfailure] at hsettling
          exact ⟨events, settlement.settled, hfinalizing, .inr ⟨refusal, rfl, hsettling⟩⟩
        · rename_i hfailure
          rw [hfailure] at hsettling
          exact ⟨events, settlement.settled, hfinalizing, hsettling⟩
      · rintro s' ⟨count, hclient, events, hevents, hsettling⟩
        refine ⟨events, count, ⟨hevents, ?_, ?_, ?_, ?_⟩, hsettling⟩
        · rw [hclient]
        · rw [hclient]
          rfl
        · exact fun h => (hattached h).elim
        · exact fun event hevent => hsettling.exists_of_mem hevent

end Mark

end BrokerConnector
