import BrokerConnector.Proofs.Chain
import BrokerConnector.Proofs.Memory

/-!
# Messages that are emitted twice

A reader skips the messages that its mark listed when it began, so that nothing is emitted twice
along a chain of readers. What it was to skip and did not receive is not in its own mark, though,
and the next reader does not know of it. `emits_once_iff` tells what this comes down to: no message
is emitted twice along a chain if and only if no reader receives a message that one before it was
still to skip when it parted.

`Life.Accounts` is what is shown of one life, and `Linked` says of lives that they account one after
another. The rest is about lists of lives.
-/

namespace BrokerConnector

namespace Life

variable {α : Type} {name : String} {life : Life α}

/-- What became, in a life, of the messages that it began with and of those that it received. The
contents are those of the broker at its beginning. -/
structure Accounts (name : String) (base : List MessageId) (before : Contents) (life : Life α) :
    Prop where
  sound : life.broker.contents.Sound
  spares : Contents.Spares (fun _ => False) before life.broker.contents
  listed : ∀ id ∈ life.listed, id ∈ base ∨ id ∈ life.received
  skipped : ∀ id ∈ life.skipped, id ∈ base ∧ id ∉ life.listed ∧ id ∉ life.received
  known : ∀ id, id ∈ base ∨ id ∈ life.received →
    id ∈ life.listed ∨ id ∈ life.skipped ∨ life.broker.contents.Spent name id
  emitted : ∀ id, id ∈ life.emittedIds ↔ id ∈ life.received ∧ id ∉ base
  fresh : ∀ id ∈ life.received, ¬before.Spent name id

/-- Every life accounts for its messages. -/
theorem accounts_ended {part : Part} (hhonest : part.schedule.NeverDenies) {config : ReadConfig α}
    (hqueue : config.destination = .queue name)
    (htotal : ∀ message, ∃ value, config.mapper message = .ok value) {restored : Option Mark}
    (hrestored : ∀ mark, restored = some mark → mark.isAttached = false) {journal : Journal}
    {broker : Broker} (hsound : broker.contents.Sound)
    (hlife : part.ended config restored journal broker = life)
    (hdistinct : life.broker.contents.Distinct name) :
    life.Accounts name ((restored.getD {}).pending.map (·.id)) broker.contents := by
  let opening := Reader.opening config restored journal broker
  have hopening : Reader.Standing opening .free :=
    Reader.standing_opening config hrestored journal broker
  have hfirst : Reader.Emits False name opening .free [] opening [] :=
    ⟨.free, [], hopening, .refl hopening.attends, .nil⟩
  -- First what the part takes, then what it does when it leaves.
  have htaken : Reader.Emits False name opening .free []
      (part.taken config restored journal broker).scene
      (part.taken config restored journal broker).emitted := by
    have hnone : Reader.Emits False name opening .free [] (Life.mk opening [] []).scene
        (Life.mk opening [] []).emitted := hfirst
    exact hnone.run hhonest hqueue htotal part.moves
  have hended := htaken.run hhonest hqueue htotal part.leaving
  change Reader.Emits False name opening .free []
    (part.ended config restored journal broker).scene
    (part.ended config restored journal broker).emitted at hended
  rw [hlife] at hended
  obtain ⟨hold, delivered, -, hleads, hmaps⟩ := hended
  rw [List.nil_append] at hleads
  have hcoherent : (opening.ledger .free []).Coherent name :=
    Ledger.coherent_of_not_held hsound rfl
  -- Nothing was received yet, so what is listed is what the reader was restored with.
  have hremembers : (opening.ledger .free []).Remembers name
      ((restored.getD {}).pending.map (·.id)) [] := by
    refine ⟨fun _ => ⟨rfl, rfl, rfl⟩, fun id hid => .inl hid, ?_, ?_, ?_⟩
    · exact fun id hid => (List.not_mem_nil hid).elim
    · exact fun id hid => .inl (hid.resolve_right (by simp))
    · simp [Scene.ledger]
  obtain ⟨new, hnew, hafter, hfresh⟩ := hremembers.steps hcoherent hleads.steps hdistinct
  have hreceived : life.received = [] ++ new.filterMap (·.id) := by
    rw [Life.received]
    exact congrArg (List.filterMap _) hnew
  rw [← hreceived] at hafter
  refine ⟨(hcoherent.steps hleads.steps).sound, Ledger.Steps.spares hleads.steps, hafter.listed,
    hafter.skipped, hafter.known, fun id => ?_, fun id hid => ?_⟩
  · have hdelivered := hafter.delivered id
    change some id ∈ delivered.map (·.id) ↔ _ at hdelivered
    rw [Emission.map_id_of_maps hmaps] at hdelivered
    rw [← hdelivered, emittedIds]
    simp
  · rw [hreceived, List.nil_append] at hid
    obtain ⟨message, hmessage, hmid⟩ := List.mem_filterMap.1 hid
    exact hfresh message hmessage id hmid

end Life

/-- Lives that account for their messages one after another, the first of which began with some
messages at a broker with some contents. -/
def Linked {α : Type} (name : String) : List MessageId → Contents → List (Life α) → Prop
  | _, _, [] => True
  | base, before, life :: rest =>
    life.Accounts name base before ∧ life.broker.contents.Distinct name ∧
      Linked name life.listed life.broker.contents rest

section

variable {α : Type} {name : String} {base : List MessageId} {before : Contents}
  {lives : List (Life α)} {id : MessageId}

/-- A message that is not emitted by any life and that the first one did not begin with is not
received by any. -/
theorem not_mem_received (h : Linked name base before lives) (hbase : id ∉ base)
    (hemitted : ∀ life ∈ lives, id ∉ life.emittedIds) : ∀ life ∈ lives, id ∉ life.received := by
  induction lives generalizing base before with
  | nil => simp
  | cons first rest ih =>
    obtain ⟨haccounts, -, hrest⟩ := h
    have hfirst : id ∉ first.received := fun hreceived =>
      hemitted first List.mem_cons_self ((haccounts.emitted id).2 ⟨hreceived, hbase⟩)
    have hlisted : id ∉ first.listed := fun hlisted =>
      (haccounts.listed id hlisted).elim hbase hfirst
    have hothers := ih hrest hlisted fun life hmem => hemitted life (List.mem_cons_of_mem _ hmem)
    intro life hmem
    rcases List.mem_cons.1 hmem with rfl | hmem
    · exact hfirst
    · exact hothers life hmem

/-- A message that a life emits, it received. -/
theorem mem_received_of_emitted (h : Linked name base before lives) {life : Life α}
    (hmem : life ∈ lives) (hemitted : id ∈ life.emittedIds) : id ∈ life.received := by
  induction lives generalizing base before with
  | nil => cases hmem
  | cons first rest ih =>
    obtain ⟨haccounts, -, hrest⟩ := h
    rcases List.mem_cons.1 hmem with rfl | hmem
    · exact ((haccounts.emitted id).1 hemitted).1
    · exact ih hrest hmem

/-- If no life receives what one before it was still to skip, then what the first one began with is
not emitted by any, and neither is what is out of circulation. -/
theorem not_mem_emittedIds (h : Linked name base before lives)
    (hskipped : lives.Pairwise fun earlier later => ∀ id ∈ earlier.skipped, id ∉ later.received)
    (hknown : id ∈ base ∨ before.Spent name id) : ∀ life ∈ lives, id ∉ life.emittedIds := by
  induction lives generalizing base before with
  | nil => simp
  | cons first rest ih =>
    obtain ⟨haccounts, hdistinct, hrest⟩ := h
    obtain ⟨hfirst, hothers⟩ := List.pairwise_cons.1 hskipped
    intro life hmem hemitted
    rcases List.mem_cons.1 hmem with rfl | hmem
    · obtain ⟨hreceived, hnot⟩ := (haccounts.emitted id).1 hemitted
      exact hknown.elim hnot (haccounts.fresh id hreceived)
    · have hafter : id ∈ first.listed ∨ id ∈ first.skipped ∨
          first.broker.contents.Spent name id := by
        rcases hknown with hbase | hspent
        · exact haccounts.known id (.inl hbase)
        · exact .inr (.inr (hspent.of_spares haccounts.spares hdistinct))
      rcases hafter with hlisted | hskips | hspent
      · exact ih hrest hothers (.inl hlisted) life hmem hemitted
      · exact hfirst life hmem id hskips (mem_received_of_emitted hrest hmem hemitted)
      · exact ih hrest hothers (.inr hspent) life hmem hemitted

/-- If no life receives what one before it was still to skip, nothing is emitted twice. -/
theorem pairwise_emittedIds (h : Linked name base before lives)
    (hskipped : lives.Pairwise fun earlier later => ∀ id ∈ earlier.skipped, id ∉ later.received) :
    lives.Pairwise fun earlier later => ∀ id ∈ earlier.emittedIds, id ∉ later.emittedIds := by
  induction lives generalizing base before with
  | nil => exact .nil
  | cons first rest ih =>
    obtain ⟨haccounts, -, hrest⟩ := h
    obtain ⟨-, hothers⟩ := List.pairwise_cons.1 hskipped
    refine List.pairwise_cons.2 ⟨fun later hlater id hemitted => ?_, ih hrest hothers⟩
    have hreceived := ((haccounts.emitted id).1 hemitted).1
    have hknown : id ∈ first.listed ∨ first.broker.contents.Spent name id :=
      (haccounts.known id (.inr hreceived)).imp_right fun hrest =>
        hrest.resolve_left fun hskips => (haccounts.skipped id hskips).2.2 hreceived
    exact not_mem_emittedIds hrest hothers hknown later hlater

/-- If nothing is emitted twice, no life receives what one before it was still to skip. -/
theorem pairwise_skipped (h : Linked name base before lives)
    (hbase : ∀ id ∈ base, ∀ life ∈ lives, id ∉ life.emittedIds)
    (hemitted : lives.Pairwise fun earlier later => ∀ id ∈ earlier.emittedIds,
      id ∉ later.emittedIds) :
    lives.Pairwise fun earlier later => ∀ id ∈ earlier.skipped, id ∉ later.received := by
  induction lives generalizing base before with
  | nil => exact .nil
  | cons first rest ih =>
    obtain ⟨haccounts, -, hrest⟩ := h
    obtain ⟨hfirst, hothers⟩ := List.pairwise_cons.1 hemitted
    have hlater : ∀ id ∈ base, ∀ life ∈ rest, id ∉ life.emittedIds := fun id hid life hmem =>
      hbase id hid life (List.mem_cons_of_mem _ hmem)
    refine List.pairwise_cons.2 ⟨fun later hmem id hskips => ?_, ih hrest ?_ hothers⟩
    · obtain ⟨hid, hlisted, -⟩ := haccounts.skipped id hskips
      exact not_mem_received hrest hlisted (hlater id hid) later hmem
    · -- What the first life leaves listed it began with, or it received and emitted it.
      intro id hlisted life hmem
      by_cases hid : id ∈ base
      · exact hlater id hid life hmem
      · have hreceived := (haccounts.listed id hlisted).resolve_left hid
        exact hfirst life hmem id ((haccounts.emitted id).2 ⟨hreceived, hid⟩)

end

/-- The lives of a chain account for their messages one after another. -/
theorem linked_chain {α : Type} {name : String} {config : ReadConfig α}
    (hqueue : config.destination = .queue name)
    (htotal : ∀ message, ∃ value, config.mapper message = .ok value) {parts : List Part}
    (hhonest : ∀ part ∈ parts, part.schedule.NeverDenies)
    (hleaving : ∀ part ∈ parts, ∀ move ∈ part.leaving, move.isParting = true)
    (restored : Option Mark)
    (hrestored : ∀ mark, restored = some mark → mark.isAttached = false) {journal : Journal}
    {broker : Broker} (hsound : broker.contents.Sound)
    (hfits : ∀ life ∈ chain config restored journal broker parts, life.scene.client.mark.Fits)
    (hdistinct : ∀ life ∈ chain config restored journal broker parts,
      life.broker.contents.Distinct name) :
    Linked name ((restored.getD {}).pending.map (·.id)) broker.contents
      (chain config restored journal broker parts) := by
  induction parts generalizing restored journal broker with
  | nil => trivial
  | cons part rest ih =>
    obtain ⟨life, hlife⟩ : ∃ life, part.ended config restored journal broker = life := ⟨_, rfl⟩
    have hmem : life ∈ chain config restored journal broker (part :: rest) := by
      rw [chain, hlife]
      exact List.mem_cons_self
    obtain ⟨mark, hdetached, hpending, hchain⟩ := chain_cons config restored journal broker rest
      (hleaving part List.mem_cons_self) hlife (hfits life hmem)
    rw [hchain] at hfits hdistinct ⊢
    have haccounts := Life.accounts_ended (hhonest part List.mem_cons_self) hqueue htotal hrestored
      hsound hlife (hdistinct life List.mem_cons_self)
    refine ⟨haccounts, hdistinct life List.mem_cons_self, ?_⟩
    have hnext := ih (fun part hpart => hhonest part (List.mem_cons_of_mem _ hpart))
      (fun part hpart => hleaving part (List.mem_cons_of_mem _ hpart))
      (some mark) (by rintro _ ⟨rfl⟩; exact hdetached) haccounts.sound
      (fun later hlater => hfits later (List.mem_cons_of_mem _ hlater))
      fun later hlater => hdistinct later (List.mem_cons_of_mem _ hlater)
    rw [Option.getD_some, hpending] at hnext
    exact hnext

/-- No message is emitted by one reader of a chain and again by a later one, if and only if no
reader receives a message that one before it was still to skip when it parted. This holds of every
chain of readers of a queue, whatever is done with the readers and around them, as long as no
identifier is accepted twice for the queue, the mapper never fails, and no acknowledgment fails as
if the session did not hold the delivery. -/
theorem emits_once_iff {α : Type} {name : String} {config : ReadConfig α}
    (hqueue : config.destination = .queue name)
    (htotal : ∀ message, ∃ value, config.mapper message = .ok value) (journal : Journal)
    (credentials : Option Credentials) (earlier : List (Int64 × Operation)) {parts : List Part}
    (hhonest : ∀ part ∈ parts, part.schedule.NeverDenies)
    (hleaving : ∀ part ∈ parts, ∀ move ∈ part.leaving, move.isParting = true)
    {lives : List (Life α)}
    (hlives : chain config none journal (.after credentials earlier) parts = lives)
    (hfits : ∀ life ∈ lives, life.scene.client.mark.Fits)
    (hdistinct : ∀ life ∈ lives, ((life.broker.published (.queue name)).map (·.id)).Nodup) :
    (lives.Pairwise fun earlier later => ∀ id ∈ earlier.emittedIds, id ∉ later.emittedIds) ↔
      lives.Pairwise fun earlier later => ∀ id ∈ earlier.skipped, id ∉ later.received := by
  subst hlives
  have hlinked := linked_chain hqueue htotal hhonest hleaving none (by simp)
    (Broker.sound_after credentials earlier) hfits hdistinct
  exact ⟨pairwise_skipped hlinked (by simp), pairwise_emittedIds hlinked⟩

/-- The second reader starts while the first still holds its session, and skips what comes back when
it is closed. -/
def overlappingParts : List Part :=
  [⟨Reader.undisturbed, [.start, .advance], []⟩,
    ⟨Reader.undisturbed, [.start,
      .others [(1, .request (.closeSession ⟨0, "session-1-2", .client⟩))], .advance, .finalize],
      [.close]⟩,
    ⟨Reader.undisturbed, [.start], []⟩]

/-- A chain in which a session is closed late. Its last reader finds nothing left. -/
theorem emits_once_iff_overlappingParts :
    let lives := chain (Reader.textsOf "orders") none {}
      (.after none (Reader.publishing "orders" ["A", "B", "C"])) overlappingParts
    lives.map (·.emittedIds) = [[⟨"A"⟩, ⟨"B"⟩], [⟨"C"⟩], []] ∧
      lives.Pairwise fun earlier later => ∀ id ∈ earlier.skipped, id ∉ later.received := by
  refine ⟨by decide +kernel, ?_⟩
  have hhonest : ∀ part ∈ overlappingParts, part.schedule.NeverDenies := by
    simpa [overlappingParts] using Reader.neverDenies_undisturbed
  exact (emits_once_iff rfl (fun _ => ⟨_, rfl⟩) {} none _ hhonest
    (by decide) rfl (by decide +kernel) (by decide +kernel)).1 (by decide +kernel)

/-- The second reader starts while nothing is received, and parts before it skipped anything. -/
def interruptedParts : List Part :=
  [⟨Reader.undisturbed, [.start], [.close]⟩,
    ⟨Reader.undisturbed, [.others [(1, .turn .failingReceive true)], .start], [.close]⟩,
    ⟨Reader.undisturbed, [.others [(1, .turn .failingReceive false)], .start], []⟩]

/-- A message that one reader emitted, a later one emits again. The reader between them was to skip
it, and its mark does not tell. -/
theorem emits_twice_interruptedParts :
    let lives := chain (Reader.textsOf "orders") none {}
      (.after none (Reader.publishing "orders" ["A"])) interruptedParts
    (∀ part ∈ interruptedParts, part.schedule.NeverDenies ∧
      ∀ move ∈ part.leaving, move.isParting = true) ∧
    (∀ life ∈ lives, life.scene.client.mark.Fits ∧
      ((life.broker.published (.queue "orders")).map (·.id)).Nodup) ∧
    lives.map (·.emittedIds) = [[⟨"A"⟩], [], [⟨"A"⟩]] ∧
    ¬lives.Pairwise fun earlier later => ∀ id ∈ earlier.emittedIds, id ∉ later.emittedIds := by
  refine ⟨?_, by decide +kernel, by decide +kernel, by decide +kernel⟩
  simp [interruptedParts, Reader.neverDenies_undisturbed, Reader.Move.isParting]

end BrokerConnector
