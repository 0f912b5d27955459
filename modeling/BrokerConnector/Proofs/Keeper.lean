import BrokerConnector.Proofs.Calls
import BrokerConnector.Proofs.Interruption
import Mathlib.Data.List.Induction
import Mathlib.Data.List.Nodup

/-!
# Marks that are finalized again and again

A keeper collects the messages of a session on a mark and finalizes it from time to time, and any of
its requests may get lost or fail. `Keeper.Tended` relates what it ever listed, what the session
holds and what was paid for: an entry was paid for exactly if the session does not hold it any more,
and what the session still holds waits on the mark. No call breaks this, so in the end each entry
was paid for once.
-/

namespace BrokerConnector

open BrokerConnector.Action

/-! ## Keepers -/

/-- A mark with every entry that it ever listed, and the consumers that its entries come from. -/
structure Keeper where
  mark : Mark
  given : List PendingDelivery
  consumers : List ConsumerHandle

namespace Keeper

variable {σ : Type} (endpoint : Endpoint σ)

/-- Opens a consumer of a session. -/
def subscribe (session : SessionHandle) (destination : Destination) : Call Keeper σ Unit := do
  let consumer ← (Scene.ask endpoint
    (.broker (.createConsumer session destination))).mapError .broker
  Scene.modify fun keeper => { keeper with consumers := keeper.consumers ++ [consumer] }

/-- Lists a message. -/
def list (keeper : Keeper) (entry : PendingDelivery) (journal : Journal) : Keeper × Journal :=
  let (mark, journal) := keeper.mark.add entry.id entry.timestamp journal
  ({ keeper with mark := mark, given := keeper.given ++ [entry] }, journal)

/-- Receives a message through a consumer and lists it, if there is one. -/
def collect (position : Nat) : Call Keeper σ Unit := do
  let keeper ← Scene.get
  match keeper.consumers[position]? with
  | none => return ()
  | some consumer =>
    let received ← (Scene.ask endpoint (.broker (.receive consumer))).mapError .broker
    match received.bind fun message => message.id.map (⟨·, message.timestamp⟩) with
    | some entry => Scene.modifyJournaled fun keeper journal => keeper.list entry journal
    | none => return ()

/-- Finalizes the mark. -/
def finalize : Call Keeper σ Nat :=
  Scene.within (·.mark) (fun mark keeper => { keeper with mark := mark }) (Mark.finalize endpoint)

/-- What is done with a keeper. -/
inductive Move where
  | subscribe (destination : Destination)
  | collect (position : Nat)
  | finalize
  deriving DecidableEq, Inhabited

/-- The call of a move. What it answers is not looked at. -/
def Move.call (session : SessionHandle) : Move → Call Keeper σ Unit
  | subscribe destination => Keeper.subscribe endpoint session destination
  | collect position => Keeper.collect endpoint position
  | finalize => do
    let _ ← Keeper.finalize endpoint

/-- What moves leave, however each of them ends. -/
def run (session : SessionHandle) (moves : List Move) (s : Scene Keeper σ) : Scene Keeper σ :=
  moves.foldl (fun s move => (move.call endpoint session s).2) s

/-- A keeper forgets no entry. -/
theorem given_prefix (session : SessionHandle) (move : Move) (s : Scene Keeper σ) :
    s.client.given <+: (move.call endpoint session s).2.client.given := by
  refine Leaves.result (fun _ (s' : Scene Keeper σ) => s.client.given <+: s'.client.given) ?_
  cases move with
  | subscribe destination =>
    simp only [Move.call, subscribe, leaves_bind, leaves_mapError]
    exact Scene.leaves_ask (fun _ _ _ => List.prefix_refl _) (fun _ _ _ => List.prefix_refl _)
      fun _ _ => List.prefix_refl _
  | collect position =>
    simp only [Move.call, collect, leaves_bind, Scene.leaves_get]
    split
    · exact List.prefix_refl _
    · simp only [leaves_bind, leaves_mapError]
      refine Scene.leaves_ask (fun received env _ => ?_) (fun _ _ _ => List.prefix_refl _)
        fun _ _ => List.prefix_refl _
      split
      · exact List.prefix_append _ _
      · exact List.prefix_refl _
  | finalize =>
    simp only [Move.call, Keeper.finalize, leaves_bind, Scene.leaves_within]
    exact .of_forall (fun _ _ => List.prefix_refl _) (fun _ _ => List.prefix_refl _)
      fun _ => List.prefix_refl _

variable {schedule : Schedule} {lost : Nat → Bool} {session : SessionHandle}

/-- A keeper begins with the entries of a mark that is attached to a session which holds them, and
with consumers of that session. -/
structure Ready (session : SessionHandle) (start : Scene Keeper (Counted Shared)) : Prop where
  attached : start.client.mark.session = some session
  has : start.env.env.Has session
  given : start.client.given = start.client.mark.pending
  held : ∀ entry ∈ start.client.mark.pending, start.env.env.Holds session entry.id
  consumers : ∀ consumer ∈ start.client.consumers, ∃ of,
    start.env.env.broker.consumers[consumer.index]? = some of ∧ of.session = session.index

instance (session : SessionHandle) (start : Scene Keeper (Counted Shared)) :
    Decidable (Ready session start) :=
  decidable_of_iff (start.client.mark.session = some session ∧ start.env.env.Has session ∧
      start.client.given = start.client.mark.pending ∧
      (∀ entry ∈ start.client.mark.pending, start.env.env.Holds session entry.id) ∧
      ∀ consumer ∈ start.client.consumers,
        ∃ of ∈ start.env.env.broker.consumers[consumer.index]?, of.session = session.index)
    ⟨fun h => ⟨h.1, h.2.1, h.2.2.1, h.2.2.2.1, h.2.2.2.2⟩,
      fun h => ⟨h.attached, h.has, h.given, h.held, h.consumers⟩⟩

/-- How a keeper stands with its session since it began. -/
structure Tended (schedule : Schedule) (session : SessionHandle)
    (start s : Scene Keeper (Counted Shared)) : Prop where
  attached : s.client.mark.session = some session
  has : s.env.env.Has session
  listed : s.client.mark.pending ⊆ s.client.given
  /-- What the session still holds waits for its acknowledgment. -/
  waits : ∀ entry ∈ s.client.given, s.env.env.Holds session entry.id →
    entry ∈ s.client.mark.pending
  /-- An entry was paid for once if the session does not hold it, and else not at all. -/
  settled : ∃ paid, Shared.Tends schedule session paid start.env.env s.env.env ∧
    paid ⊆ s.client.given.map (·.id) ∧ ∀ entry ∈ s.client.given,
      (s.env.env.Holds session entry.id → paid.count entry.id = 0) ∧
      (¬s.env.env.Holds session entry.id → paid.count entry.id = 1)
  consumers : ∀ consumer ∈ s.client.consumers, ∃ of,
    s.env.env.broker.consumers[consumer.index]? = some of ∧ of.session = session.index

variable {start s : Scene Keeper (Counted Shared)}

/-- At first nothing was paid for. -/
theorem Ready.tended (h : Ready session start) : Tended schedule session start start where
  attached := h.attached
  has := h.has
  listed := by
    rw [h.given]
    exact List.Subset.refl _
  waits := fun entry hentry _ => h.given ▸ hentry
  settled := by
    refine ⟨[], (Shared.Pays.refl _).tends, by simp, fun entry hentry => ⟨fun _ => rfl, ?_⟩⟩
    rw [h.given] at hentry
    exact fun hnot => (hnot (h.held entry hentry)).elim
  consumers := h.consumers

namespace Tended

/-- Consumers that stay where they are stay those of their session. -/
theorem consumers_of_tends {paid : List MessageId} {env : Shared}
    (h : Tended schedule session start s)
    (htends : Shared.Tends schedule session paid s.env.env env) :
    ∀ consumer ∈ s.client.consumers, ∃ of,
      env.broker.consumers[consumer.index]? = some of ∧ of.session = session.index := by
  intro consumer hconsumer
  obtain ⟨of, hof, hsession⟩ := h.consumers consumer hconsumer
  obtain ⟨later, hlater, hsame⟩ := htends.consumers _ of hof
  exact ⟨later, hlater, hsame.trans hsession⟩

/-- A keeper stands as before when nothing was paid for and nothing listed. -/
theorem passes {s' : Scene Keeper (Counted Shared)} (h : Tended schedule session start s)
    (hclient : s'.client = s.client)
    (hpays : Shared.Pays schedule session [] s.env.env s'.env.env) :
    Tended schedule session start s' where
  attached := by rw [hclient, h.attached]
  has := hpays.tends.has h.has
  listed := by
    rw [hclient]
    exact h.listed
  waits := by
    intro entry hentry hheld
    rw [hclient] at hentry ⊢
    exact h.waits entry hentry ((hpays.held _).1 hheld).1
  settled := by
    obtain ⟨paid, htends, hsub, hsettled⟩ := h.settled
    refine ⟨paid ++ [], htends.trans hpays.tends, ?_, ?_⟩
    · rwa [List.append_nil, hclient]
    · intro entry hentry
      rw [hclient] at hentry
      rw [List.append_nil, hpays.held]
      simpa using hsettled entry hentry
  consumers := by
    rw [hclient]
    exact h.consumers_of_tends hpays.tends

/-- A keeper whose mark was finalized, however that ended. Each entry that was held and is not held
any more was paid for. -/
theorem trims {s' : Scene Keeper (Counted Shared)} (h : Tended schedule session start s)
    (hgiven : s'.client.given = s.client.given)
    (hconsumers : s'.client.consumers = s.client.consumers)
    (htrimmed : Mark.Trimmed schedule session
      { client := s.client.mark, journal := s.journal, env := s.env }
      { client := s'.client.mark, journal := s'.journal, env := s'.env }) :
    Tended schedule session start s' := by
  obtain ⟨hattached, count, hpending, ⟨paid', hpays, hsub'⟩, hover⟩ := htrimmed
  dsimp only at hattached hpending hpays hsub' hover
  obtain ⟨paid, htends, hsub, hsettled⟩ := h.settled
  refine ⟨hattached.trans h.attached, hpays.tends.has h.has, ?_, ?_,
    ⟨paid ++ paid', htends.trans hpays.tends, ?_, ?_⟩, ?_⟩
  · rw [hgiven, hpending]
    exact fun entry hentry => h.listed (List.mem_of_mem_drop hentry)
  · intro entry hentry hheld
    rw [hgiven] at hentry
    have hbefore := h.waits entry hentry ((hpays.held _).1 hheld).1
    rw [← List.take_append_drop count s.client.mark.pending] at hbefore
    rw [hpending]
    exact (List.mem_append.1 hbefore).resolve_left fun htaken => hover entry htaken hheld
  · rw [hgiven]
    refine List.append_subset.2 ⟨hsub, fun id hid => ?_⟩
    obtain ⟨entry, hentry, rfl⟩ := List.mem_map.1 (hsub' hid)
    exact List.mem_map_of_mem (h.listed hentry)
  · intro entry hentry
    rw [hgiven] at hentry
    obtain ⟨hunpaid, hpaid⟩ := hsettled entry hentry
    -- An entry is paid for in this finalization if the session still held it, and before if not.
    rw [List.count_append]
    constructor
    · intro hheld
      obtain ⟨hbefore, hnot⟩ := (hpays.held _).1 hheld
      rw [hunpaid hbefore, List.count_eq_zero_of_not_mem hnot]
    · intro hgone
      by_cases hbefore : s.env.env.Holds session entry.id
      · have hmem : entry.id ∈ paid' := by
          by_contra hnot
          exact hgone ((hpays.held _).2 ⟨hbefore, hnot⟩)
        rw [hunpaid hbefore, List.count_eq_one_of_mem hpays.nodup hmem]
      · have hnot : entry.id ∉ paid' := fun hmem => hbefore (hpays.were _ hmem)
        rw [hpaid hbefore, List.count_eq_zero_of_not_mem hnot]
  · rw [hconsumers]
    exact h.consumers_of_tends hpays.tends

/-- A keeper that lists a message which its session has just received. -/
theorem lists {s' : Scene Keeper (Counted Shared)} {entry : PendingDelivery}
    (h : Tended schedule session start s)
    (hmark : s'.client.mark.pending = s.client.mark.pending ++ [entry])
    (hattached : s'.client.mark.session = s.client.mark.session)
    (hgiven : s'.client.given = s.client.given ++ [entry])
    (hconsumers : s'.client.consumers = s.client.consumers)
    (htends : Shared.Tends schedule session [] s.env.env s'.env.env)
    (hheld : ∀ id, s'.env.env.Holds session id ↔ s.env.env.Holds session id ∨ id = entry.id)
    (hdistinct : (s'.client.given.map (·.id)).Nodup) :
    Tended schedule session start s' := by
  rw [hgiven, List.map_append, List.map_singleton] at hdistinct
  have hfresh : entry.id ∉ s.client.given.map (·.id) := fun hmem =>
    (List.nodup_append.1 hdistinct).2.2 _ hmem _ (List.mem_singleton_self _) rfl
  have hother : ∀ other ∈ s.client.given, other.id ≠ entry.id := fun other hmem he =>
    hfresh (he ▸ List.mem_map_of_mem hmem)
  obtain ⟨paid, htends', hsub, hsettled⟩ := h.settled
  refine ⟨hattached.trans h.attached, htends.has h.has, ?_, ?_,
    ⟨paid ++ [], htends'.trans htends, ?_, ?_⟩, ?_⟩
  · rw [hmark, hgiven]
    exact List.append_subset.2 ⟨fun other hmem => List.mem_append_left _ (h.listed hmem),
      List.subset_append_right _ _⟩
  · intro other hmem hholds
    rw [hgiven] at hmem
    rw [hmark]
    rcases List.mem_append.1 hmem with hmem | hmem
    · refine List.mem_append_left _ (h.waits other hmem ?_)
      exact ((hheld _).1 hholds).resolve_right (hother other hmem)
    · exact List.mem_append_right _ hmem
  · rw [List.append_nil, hgiven, List.map_append]
    exact fun id hid => List.mem_append_left _ (hsub hid)
  · intro other hmem
    rw [List.append_nil, hheld]
    rw [hgiven] at hmem
    rcases List.mem_append.1 hmem with hmem | hmem
    · simpa [hother other hmem] using hsettled other hmem
    · obtain rfl := List.mem_singleton.1 hmem
      -- Nothing is paid for that was not listed before.
      refine ⟨fun _ => List.count_eq_zero_of_not_mem fun hpaid => hfresh (hsub hpaid), ?_⟩
      exact fun hnot => (hnot (.inr rfl)).elim
  · rw [hconsumers]
    exact h.consumers_of_tends htends

/-- A keeper opens a consumer. -/
theorem subscribe (h : Tended schedule session start s) (destination : Destination) :
    Tended schedule session start
      (Keeper.subscribe ((Shared.endpoint schedule).losing lost) session destination s).2 := by
  refine Leaves.result (fun _ (s' : Scene Keeper (Counted Shared)) =>
    Tended schedule session start s') ?_
  simp only [Keeper.subscribe, leaves_bind, leaves_mapError, Scene.leaves_modify]
  refine Scene.leaves_ask_losing ?_ ?_ ?_
  · intro number consumer broker hgranted
    have hothers := Shared.pays_others schedule h.has number
    have hpays := hothers.trans (Shared.pays_granted (hothers.tends.has h.has) rfl hgranted)
    let env := (s.env.env.others (schedule number).others).add
      (.broker (.createConsumer session destination)) (.done consumer) broker
    have hpassed : Tended schedule session start { s with env := s.env.next env } :=
      h.passes rfl hpays
    obtain ⟨of, hof, -, hsession⟩ := Broker.consumers_of_createConsumer hgranted
    refine ⟨hpassed.attached, hpassed.has, hpassed.listed, hpassed.waits, hpassed.settled, ?_⟩
    intro other hother
    rcases List.mem_append.1 hother with hother | hother
    · exact hpassed.consumers other hother
    · rw [List.mem_singleton.1 hother]
      exact ⟨of, hof, hsession⟩
  · intro number error _
    have hothers := Shared.pays_others schedule h.has number
    exact h.passes rfl (hothers.trans (Shared.pays_failed (hothers.tends.has h.has) _ error))
  · exact fun _ => h.passes rfl (.refl _)

/-- A keeper asks a consumer for a message and lists what it is given. -/
theorem collect (h : Tended schedule session start s) (position : Nat)
    (hdistinct : ((Keeper.collect ((Shared.endpoint schedule).losing lost)
      position s).2.client.given.map (·.id)).Nodup) :
    Tended schedule session start
      (Keeper.collect ((Shared.endpoint schedule).losing lost) position s).2 := by
  revert hdistinct
  refine Leaves.result (fun _ (s' : Scene Keeper (Counted Shared)) =>
    (s'.client.given.map (·.id)).Nodup → Tended schedule session start s') ?_
  simp only [Keeper.collect, leaves_bind, Scene.leaves_get]
  split
  · exact fun _ => h
  · rename_i consumer hconsumer
    obtain ⟨of, hof, hsession⟩ := h.consumers consumer (List.mem_of_getElem? hconsumer)
    simp only [leaves_bind, leaves_mapError]
    refine Scene.leaves_ask_losing ?_ ?_ ?_
    · intro number answer broker hgranted
      have hothers := Shared.pays_others schedule h.has number
      obtain ⟨of', hof', hsession'⟩ := hothers.tends.consumers _ of hof
      obtain ⟨htends, hheld⟩ := Shared.tends_receive (hothers.tends.has h.has) hgranted hof'
        (hsession'.trans hsession)
      -- What the others did and the receive count as one step.
      have hboth := hothers.tends.trans htends
      have hholds := fun id => (hheld id).trans (or_congr_left (by simpa using hothers.held id))
      cases hentry : answer.bind fun message => message.id.map
          (PendingDelivery.mk · message.timestamp) with
      | some entry =>
        intro hdistinct
        obtain ⟨message, rfl, hlisted⟩ := Option.bind_eq_some_iff.1 hentry
        obtain ⟨id, hid, rfl⟩ := Option.map_eq_some_iff.1 hlisted
        refine h.lists rfl rfl rfl rfl hboth (fun other => ?_) hdistinct
        exact (hholds other).trans (or_congr_right (by simp [hid, eq_comm]))
      | none =>
        intro _
        have hanonymous : answer.bind (·.id) = none := by
          cases answer with
          | none => rfl
          | some message => simpa using hentry
        refine h.passes rfl ⟨hboth, List.nodup_nil, by simp, fun id => ?_⟩
        exact (hholds id).trans (by simp [hanonymous])
    · intro number error _ _
      have hothers := Shared.pays_others schedule h.has number
      exact h.passes rfl (hothers.trans (Shared.pays_failed (hothers.tends.has h.has) _ error))
    · exact fun _ _ => h.passes rfl (.refl _)

/-- What a keeper's finalization leaves, and what the mark lists when it is over. A finalization
that is dropped leaves the keeper as it was. -/
theorem leaves_finalize (h : Tended schedule session start s) (hhonest : schedule.NeverDenies)
    (lost : Nat → Bool) :
    Leaves (Keeper.finalize ((Shared.endpoint schedule).losing lost)) s
      (fun _ s' => Tended schedule session start s' ∧ s'.client.given = s.client.given ∧
        s'.client.mark.pending = [])
      (fun _ s' => Tended schedule session start s' ∧ ¬s.env.Clear schedule lost session)
      (fun s' => Tended schedule session start s' ∧ s'.client = s.client ∧
        ¬s.env.Clear schedule lost session) := by
  rw [Keeper.finalize, Scene.leaves_within]
  refine (Mark.leaves_finalize_losing hhonest
    { client := s.client.mark, journal := s.journal, env := s.env } h.attached h.has).mono ?_ ?_ ?_
  · rintro _ s' ⟨htrimmed, hnone⟩
    exact ⟨h.trims rfl rfl htrimmed, rfl, hnone⟩
  · rintro _ s' ⟨htrimmed, hclear⟩
    exact ⟨h.trims rfl rfl htrimmed, hclear⟩
  · rintro ⟨mark, journal, env⟩ ⟨rfl, hpaid, hclear⟩
    exact ⟨h.trims rfl rfl ⟨rfl, 0, rfl, hpaid⟩, rfl, hclear⟩

/-- Whatever is done with a keeper, it stands as it should if it does not list a message twice. -/
theorem call (h : Tended schedule session start s) (hhonest : schedule.NeverDenies) (move : Move)
    (hdistinct : ((move.call ((Shared.endpoint schedule).losing lost) session
      s).2.client.given.map (·.id)).Nodup) :
    Tended schedule session start
      (move.call ((Shared.endpoint schedule).losing lost) session s).2 := by
  cases move with
  | subscribe destination => exact h.subscribe destination
  | collect position => exact h.collect position hdistinct
  | finalize =>
    refine Leaves.result (fun _ (s' : Scene Keeper (Counted Shared)) =>
      Tended schedule session start s') ?_
    simp only [Move.call, leaves_bind, leaves_pure]
    exact (h.leaves_finalize hhonest lost).mono (fun _ _ => And.left) (fun _ _ => And.left)
      fun _ => And.left

/-- A keeper stands as it should after any moves. -/
theorem run (h : Tended schedule session start start) (hhonest : schedule.NeverDenies)
    (moves : List Move)
    (hdistinct : ((run ((Shared.endpoint schedule).losing lost) session moves
      start).client.given.map (·.id)).Nodup) :
    Tended schedule session start
      (Keeper.run ((Shared.endpoint schedule).losing lost) session moves start) := by
  -- The last move only adds to what was listed, so what came before it lists no message twice.
  induction moves using List.reverseRecOn with
  | nil => exact h
  | append_singleton moves move ih =>
    rw [Keeper.run, List.foldl_append, List.foldl_cons, List.foldl_nil] at hdistinct ⊢
    refine (ih ?_).call hhonest move hdistinct
    refine hdistinct.sublist (List.Sublist.map _ (List.IsPrefix.sublist ?_))
    exact given_prefix _ session move _

end Tended

/-- **Interrupted finalizations acknowledge each entry once.** However often finalizations of a mark
are dropped because a request gets lost, or fail, and whatever messages are received and listed
between them: a finalization that is dropped leaves the mark as it was, and once one comes to its
end, the mark is empty and every entry that it ever listed was acknowledged exactly once. The broker
counts one acknowledgment more than at first for each of them that no other client acknowledges
meanwhile. A finalization comes to its end if no request of it is lost or fails while the session
is open. -/
theorem acknowledges_once_despite_interruptions (hhonest : schedule.NeverDenies)
    (hstart : Ready session start) {moves : List Move}
    (hs : run ((Shared.endpoint schedule).losing lost) session moves start = s)
    (hdistinct : (s.client.given.map (·.id)).Nodup) {outcome : Outcome ConnectorError Nat}
    {last : Scene Keeper (Counted Shared)}
    (hlast : finalize ((Shared.endpoint schedule).losing lost) s = (outcome, last)) :
    (outcome = .abandoned → last.client = s.client) ∧
    (∀ count, outcome = .done count → last.client.mark.pending = [] ∧
      ∀ entry ∈ s.client.given,
        last.env.env.acknowledged.count entry.id = start.env.env.acknowledged.count entry.id + 1 ∧
        (schedule.Ignores entry.id → last.env.env.broker.acknowledgmentCount entry.id =
          start.env.env.broker.acknowledgmentCount entry.id + 1)) ∧
    (s.env.Clear schedule lost session → ∃ count, outcome = .done count) := by
  subst hs
  have hleaves := (hstart.tended.run hhonest moves hdistinct).leaves_finalize hhonest lost
  unfold Leaves at hleaves
  rw [hlast] at hleaves
  cases outcome with
  | done count =>
    obtain ⟨htended, hgiven, hnone⟩ := hleaves
    obtain ⟨paid, htends, -, hsettled⟩ := htended.settled
    refine ⟨fun h => (by cases h), fun _ _ => ⟨hnone, fun entry hentry => ?_⟩,
      fun _ => ⟨count, rfl⟩⟩
    rw [← hgiven] at hentry
    -- Nothing waits any more, so the session holds no entry, and each was paid for.
    have hpaid : paid.count entry.id = 1 := by
      refine (hsettled entry hentry).2 fun hheld => ?_
      have hwaits := htended.waits entry hentry hheld
      rw [hnone] at hwaits
      cases hwaits
    constructor
    · rw [htends.acknowledged, List.count_append, hpaid]
    · intro hignores
      rw [htends.counted _ hignores, hpaid]
  | failed error =>
    exact ⟨fun h => (by cases h), fun _ h => (by cases h), fun h => (hleaves.2 h).elim⟩
  | abandoned =>
    obtain ⟨-, hclient, hclear⟩ := hleaves
    exact ⟨fun _ => hclient, fun _ h => (by cases h), fun h => (hclear h).elim⟩

/-- A shared broker after requests of a client that nobody disturbs. -/
def afterRequests (shared : Shared) (requests : List BrokerRequest) : Shared :=
  requests.foldl (fun shared request =>
    (Shared.answer Reader.undisturbed (.broker request) shared).2) shared

/-- The first session of the first connection of a broker, and the second one. -/
def firstSession : SessionHandle := ⟨0, "session-1-2", .client⟩
def secondSession : SessionHandle := ⟨1, "session-1-3", .client⟩

/-- A keeper of messages that a session received. -/
def keeping (session : SessionHandle) (ids : List MessageId) (consumer : ConsumerHandle) : Keeper :=
  let pending := ids.map (PendingDelivery.mk · 1)
  { mark :=
      { sessionId := some session.id, pending := pending, session := some session
        tracked := pending.length }
    given := pending
    consumers := [consumer] }

/-- A session received two of the three messages of a queue. -/
def twoReceived : Scene Keeper (Counted Shared) where
  client := keeping firstSession [⟨"A"⟩, ⟨"B"⟩] ⟨0⟩
  journal := {}
  env.env := afterRequests { broker := .after none (Reader.publishing "orders" ["A", "B", "C"]) }
    [.connect none, .startConnection ⟨0⟩, .createSession ⟨0⟩ .client,
      .createConsumer firstSession (.queue "orders"), .receive ⟨0⟩, .receive ⟨0⟩]

/-- The second acknowledgment of the first finalization gets lost, and so does the third of the
next. -/
def lostTwice (number : Nat) : Bool :=
  number == 1 || number == 5

/-- A finalization is dropped, a third message is received, and another finalization is dropped. -/
def twiceInterrupted : Scene Keeper (Counted Shared) :=
  run ((Shared.endpoint Reader.undisturbed).losing lostTwice) firstSession
    [.finalize, .collect 0, .finalize] twoReceived

/-- The finalization after that. -/
def thirdAttempt : Outcome ConnectorError Nat × Scene Keeper (Counted Shared) :=
  finalize ((Shared.endpoint Reader.undisturbed).losing lostTwice) twiceInterrupted

/-- The third finalization acknowledges the message that is left, and all three messages are
acknowledged once. -/
theorem acknowledges_once_despite_interruptions_thirdAttempt :
    Ready firstSession twoReceived ∧
    twiceInterrupted.client.mark.pending.map (·.id) = [⟨"A"⟩, ⟨"B"⟩, ⟨"C"⟩] ∧
    thirdAttempt.1 = .done 1 ∧ thirdAttempt.2.client.mark.pending = [] ∧
    ∀ entry ∈ twiceInterrupted.client.given,
      thirdAttempt.2.env.env.broker.acknowledgmentCount entry.id = 1 := by
  have hready : Ready firstSession twoReceived := by decide +kernel
  have hdistinct : (twiceInterrupted.client.given.map (·.id)).Nodup := by decide +kernel
  have hdone : thirdAttempt.1 = .done 1 := by decide +kernel
  obtain ⟨-, hsettled, -⟩ := acknowledges_once_despite_interruptions
    Reader.neverDenies_undisturbed hready rfl hdistinct (Prod.eta thirdAttempt).symm
  obtain ⟨hnone, hcounts⟩ := hsettled 1 hdone
  refine ⟨hready, by decide +kernel, hdone, hnone, fun entry hentry => ?_⟩
  have hignores : Reader.undisturbed.Ignores entry.id := by
    simp [Schedule.Ignores, Reader.undisturbed]
  have hfirst : twoReceived.env.env.broker.acknowledged = [] := by decide +kernel
  calc thirdAttempt.2.env.env.broker.acknowledgmentCount entry.id
      = twoReceived.env.env.broker.acknowledgmentCount entry.id + 1 :=
        (hcounts entry hentry).2 hignores
    _ = 1 := by rw [Broker.acknowledgmentCount, hfirst, List.count_nil]

/-- Two sessions received a message of a topic, and the first one acknowledged it. -/
def twoSubscribers : Scene Keeper (Counted Shared) where
  client := keeping secondSession [⟨"A"⟩] ⟨1⟩
  journal := {}
  env.env :=
    let subscribed := afterRequests { broker := {} }
      [.connect none, .startConnection ⟨0⟩, .createSession ⟨0⟩ .client, .createSession ⟨0⟩ .client,
        .createConsumer firstSession (.topic "news"), .createConsumer secondSession (.topic "news")]
    afterRequests
      (subscribed.others [(1, .publish (.topic "news") { Message.ofText "A" with id := some ⟨"A"⟩ })])
      [.receive ⟨0⟩, .receive ⟨1⟩, .acknowledge firstSession ⟨"A"⟩]

/-- A message of a topic is acknowledged once for every session that received it, so a finalization
that comes to its end can leave it acknowledged twice. -/
theorem acknowledged_twice_twoSubscribers :
    let endpoint := (Shared.endpoint Reader.undisturbed).losing fun _ => false
    let last := finalize endpoint twoSubscribers
    Ready secondSession twoSubscribers ∧ last.1 = .done 1 ∧ last.2.client.mark.pending = [] ∧
    last.2.client.given.map (·.id) = [⟨"A"⟩] ∧
    last.2.env.env.broker.acknowledgmentCount ⟨"A"⟩ = 2 := by
  decide +kernel

end Keeper

end BrokerConnector
