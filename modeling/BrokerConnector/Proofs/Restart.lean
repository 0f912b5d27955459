import BrokerConnector.Proofs.Chain
import BrokerConnector.Proofs.Order
import Mathlib.Data.List.Induction

/-!
# Restarts do not show

A reader that is stopped and started again from its mark goes on where it stopped, as long as calls
do not fail. `CaughtUp` says of a reader between two calls that it is in order with its queue and
has nothing left to skip. It stays so: a call that reads goes on until it delivers a message, and
then everything that came back has been received before, or until nothing waits.

So a reader that is closed leaves behind what its mark lists, in front of its queue, and the next
one is caught up again as soon as it started. Along a chain of readers everything that was accepted
is emitted once and in order (`emits_history_in_order`).
-/

namespace BrokerConnector

open BrokerConnector.Action

namespace Reader

variable {α : Type} {schedule : Schedule} {name : String} {s s' : Scene (Reader α) Shared}
  {hold hold' : Hold} {delivered delivered' : List Message}

/-- A reader that is in order with its queue and has nothing left to skip. What was delivered, it
and those before it delivered. -/
structure CaughtUp (name : String) (s : Scene (Reader α) Shared) (hold : Hold)
    (delivered : List Message) : Prop where
  standing : Standing s hold
  coherent : (s.ledger hold delivered).Coherent name
  inOrder : (s.ledger hold delivered).InOrder name
  skipped : s.client.skipped = []

/-- A reader that did something in calm surroundings is caught up if it has nothing to skip. -/
theorem CaughtUp.of_leads (h : CaughtUp name s hold delivered) (standing : Standing s' hold')
    (hleads : Leads True name s hold delivered s' hold' delivered')
    (hdistinct : s'.env.broker.contents.Distinct name)
    (hlasting : s'.env.broker.contents.Lasting name)
    (skipped : (s'.ledger hold' delivered').InOrder name → s'.client.skipped = []) :
    CaughtUp name s' hold' delivered' := by
  have horder : (s'.ledger hold' delivered').InOrder name :=
    h.inOrder.steps h.coherent hleads.steps hdistinct hlasting
  exact ⟨standing, h.coherent.steps hleads.steps, horder, skipped horder⟩

/-- A reader that found its next message, or that nothing waits, has nothing left to skip. -/
theorem Found.skipped_eq_nil {found : Bool}
    (h : Found True name s hold delivered s' hold' found delivered')
    (hbefore : (s.ledger hold delivered).InOrder name)
    (hcoherent : (s.ledger hold delivered).Coherent name)
    (hafter : (s'.ledger hold' delivered').InOrder name)
    (hdistinct : s'.env.broker.contents.Distinct name)
    (hlasting : s'.env.broker.contents.Lasting name) : s'.client.skipped = [] := by
  cases h with
  | message message id value identified received last mapped current =>
    rcases List.eq_nil_or_concat' s'.client.skipped with hnone | ⟨front, next, hskipped⟩
    · exact hnone
    · -- The last message in order is listed, so it cannot be the last one to be skipped as well.
      have horder := hafter.order
      have hlast := congrArg List.getLast? horder
      simp only [Scene.ledger, hskipped, List.map_append, List.map_cons, List.map_nil,
        ← List.append_assoc, List.getLast?_concat, identified, Option.some.injEq] at hlast
      have hlisted : id ∈ (s'.ledger hold' (delivered ++ [message])).listed :=
        List.mem_map_of_mem (f := PendingDelivery.id) (List.mem_of_getLast? last)
      have hnodup := (List.nodup_append.1 (hafter.nodup hdistinct)).2.1
      refine ((List.nodup_append.1 hnodup).2.2 id hlisted id ?_ rfl).elim
      change id ∈ s'.client.skipped
      rw [hskipped, ← hlast]
      simp
  | nothing exhausted =>
    obtain ⟨last, handle, consumer, now, broker, hsteps, hheld, hgranted, hend⟩ := exhausted
    have hspares := Broker.spares_granted hgranted
    have hbroker : broker = s'.env.broker := (congrArg (fun ledger => ledger.env.broker) hend).symm
    rw [hbroker] at hspares
    have hdistinct' : last.env.broker.contents.Distinct name := .of_spares hspares hdistinct
    have hlasting' : last.env.broker.contents.Lasting name := .of_spares hspares hlasting
    have hlast := (hbefore.steps hcoherent hsteps hdistinct' hlasting').exhausted
      (hcoherent.steps hsteps) hlasting' hheld hgranted
    rw [← hlast.1]
    exact congrArg Ledger.skipped hend

/-- A move in which others do nothing but publish. -/
def Move.Publishes : Move → Prop
  | others operations => ∀ entry ∈ operations, ∃ destination message,
      entry.2 = .publish destination message
  | _ => True

/-- What a reader ends with that stays caught up and emits records. -/
def Proceeds (name : String) (s : Scene (Reader α) Shared) (delivered : List Message)
    (s' : Scene (Reader α) Shared) (emitted : List (Emission α)) : Prop :=
  ∃ hold' new, CaughtUp name s' hold' (delivered ++ new) ∧ s'.client.config = s.client.config ∧
    List.Forall₂ (Emission.Maps s.client.config) new emitted

/-- A reader that arrives at its next message is caught up. -/
theorem CaughtUp.arrives {found : Bool} (h : CaughtUp name s hold delivered)
    (harrives : Arrives True name s hold delivered found s')
    (hdistinct : s'.env.broker.contents.Distinct name)
    (hlasting : s'.env.broker.contents.Lasting name) :
    Proceeds name s delivered s' (emission? (.done found) s').toList := by
  obtain ⟨handle, consumer, delivered', hstanding, hleads, hfound⟩ := harrives
  have hafter : CaughtUp name s' (.held handle consumer) delivered' :=
    h.of_leads hstanding hleads hdistinct hlasting fun horder =>
      hfound.skipped_eq_nil h.inOrder h.coherent horder hdistinct hlasting
  obtain ⟨new, rfl, hmaps⟩ := hfound.emission
  rw [hleads.config] at hmaps
  exact ⟨_, new, hafter, hleads.config, hmaps⟩

/-- A reader that stays caught up and delivers nothing. -/
theorem CaughtUp.rests (h : CaughtUp name s hold delivered) (standing : Standing s' hold')
    (hleads : Leads True name s hold delivered s' hold' delivered)
    (skipped : s'.client.skipped = s.client.skipped)
    (hdistinct : s'.env.broker.contents.Distinct name)
    (hlasting : s'.env.broker.contents.Lasting name) : Proceeds name s delivered s' [] := by
  refine ⟨hold', [], ?_, hleads.config, .nil⟩
  rw [List.append_nil]
  exact h.of_leads standing hleads hdistinct hlasting fun _ => skipped.trans h.skipped

/-- Whatever a reader does in calm surroundings, it stays caught up if no call fails. Only a reader
that is finalized may fail. -/
theorem CaughtUp.move (hcalm : schedule.Publishes) (hhonest : schedule.NeverDenies)
    (h : CaughtUp name s hold delivered) (hqueue : s.client.config.destination = .queue name)
    {move : Move} (hmove : move.Publishes)
    (hsucceeds : succeeds schedule s move = true ∨ move = .finalize)
    (hdistinct : (Reader.move schedule s move).env.broker.contents.Distinct name)
    (hlasting : (Reader.move schedule s move).env.broker.contents.Lasting name) :
    Proceeds name s delivered (Reader.move schedule s move) (emissions schedule s move) := by
  cases move with
  | start =>
    obtain ⟨found, houtcome, harrives⟩ := (ensures_start (fun _ => hcalm) h.standing
      hqueue).of_isDone (hsucceeds.resolve_right (by simp))
    rw [emissions, houtcome]
    exact h.arrives harrives hdistinct hlasting
  | advance =>
    obtain ⟨found, houtcome, harrives⟩ := (ensures_advance_of_standing (fun _ => hcalm)
      h.standing).of_isDone (hsucceeds.resolve_right (by simp))
    rw [emissions, houtcome]
    exact h.arrives harrives hdistinct hlasting
  | finalize =>
    have hfinalize : Ensures (finalize (Shared.endpoint schedule)) s
        (fun _ => Finalized True name s hold delivered)
        (fun _ => Finalized True name s hold delivered) :=
      (ensures_finalize (fun _ => hcalm) hhonest h.standing).mono (fun _ _ h => h.1) fun _ _ => id
    have hfinalized := hfinalize.state
    exact h.rests hfinalized.standing hfinalized.leads hfinalized.skipped hdistinct hlasting
  | close =>
    obtain ⟨-, -, hclosed⟩ := (ensures_close_of_standing (fun _ => hcalm) h.standing).of_isDone
      (hsucceeds.resolve_right (by simp))
    exact h.rests hclosed.retired.standing (hclosed.granted rfl) hclosed.retired.skipped hdistinct
      hlasting
  | others operations =>
    obtain ⟨hstanding, hleads⟩ := h.standing.others fun _ => hmove
    exact h.rests hstanding hleads rfl hdistinct hlasting

/-- A reader that is finalized lists nothing, unless that fails. -/
theorem CaughtUp.pending_of_finalize (hhonest : schedule.NeverDenies)
    (h : CaughtUp name s hold delivered) (hsucceeds : succeeds schedule s .finalize = true) :
    (Reader.move schedule s .finalize).client.mark.pending = [] := by
  have hfinalize : Ensures (finalize (Shared.endpoint schedule)) s
      (fun _ s' => Finalized False name s hold delivered s' ∧ s'.client.mark.pending = [])
      (fun _ s' => Finalized False name s hold delivered s') :=
    ensures_finalize False.elim hhonest h.standing
  obtain ⟨-, -, -, hpending⟩ := hfinalize.of_isDone hsucceeds
  exact hpending

/-- A reader is closed, unless that fails. -/
theorem state_of_close (hsucceeds : succeeds schedule s .close = true) :
    (Reader.move schedule s .close).client.state = .closed := by
  have hclose : Ensures (close (Shared.endpoint schedule)) s
      (fun _ => Closing False (fun _ => False) s [])
      (fun _ s' => ∃ errors, Closing False (fun _ => False) s errors s') :=
    ensures_close False.elim s fun _ => False.elim
  obtain ⟨-, -, hclosed⟩ := hclose.of_isDone hsucceeds
  exact hclosed.retired.state

/-- A reader that is caught up and closed has let go of its session. -/
theorem CaughtUp.hold_of_closed (h : CaughtUp name s hold delivered)
    (hclosed : s.client.state = .closed) : hold = .gone := by
  cases h.standing with
  | fresh state => simp [state] at hclosed
  | working _ _ state => simp [state] at hclosed
  | closed => rfl

/-- The next reader is caught up from the beginning. -/
theorem CaughtUp.next (h : CaughtUp name s .gone delivered) {mark : Mark}
    (hdetached : mark.isAttached = false) (hpending : mark.pending = s.client.mark.pending)
    (config : ReadConfig α) (journal : Journal) :
    CaughtUp name (opening config (some mark) journal s.env.broker) .free delivered := by
  have hledger : (opening config (some mark) journal s.env.broker).ledger .free delivered =
      ⟨s.client.mark.pending, [], .free, delivered, ⟨s.env.broker, []⟩⟩ := by
    rw [Scene.ledger, ← hpending]
    rfl
  refine ⟨standing_opening config (by rintro _ ⟨rfl⟩; exact hdetached) journal _,
    Ledger.coherent_of_not_held h.coherent.sound rfl, ?_, rfl⟩
  rw [hledger]
  have horder := h.inOrder.order
  obtain ⟨returned, fresh, hwaiting, hback, hhistory⟩ := h.inOrder.queue
  simp only [Scene.ledger, h.skipped] at horder hback
  exact ⟨fun _ => rfl, horder, ⟨returned, fresh, hwaiting, hback, hhistory⟩, by simp⟩

end Reader

/-! ## Lives -/

namespace Life

variable {α : Type} {schedule : Schedule} {name : String} {config : ReadConfig α}
  {delivered : List Message} {life : Life α}

theorem run_concat (schedule : Schedule) (moves : List Reader.Move) (last : Reader.Move)
    (life : Life α) :
    life.run schedule (moves ++ [last]) = (life.run schedule moves).move schedule last := by
  rw [run, List.foldl_append]
  rfl

theorem run_append (schedule : Schedule) (first second : List Reader.Move) (life : Life α) :
    life.run schedule (first ++ second) = (life.run schedule first).run schedule second :=
  List.foldl_append

/-- A life is that of a reader in its surroundings. -/
theorem scene_run (schedule : Schedule) (moves : List Reader.Move) (life : Life α) :
    (life.run schedule moves).scene = Reader.run schedule moves life.scene := by
  induction moves generalizing life with
  | nil => rfl
  | cons first rest ih => exact ih _

/-- A life in which everything was emitted that was accepted next for the queue, up to some point.
Other lives delivered the messages before. -/
structure Proceeds (name : String) (config : ReadConfig α) (delivered : List Message)
    (life : Life α) : Prop where
  same : life.scene.client.config = config
  reads : ∃ hold new, Reader.CaughtUp name life.scene hold (delivered ++ new) ∧
    List.Forall₂ (Emission.Maps config) new life.emitted
  /-- When it was just finalized, nothing is listed. -/
  settled : life.attempts.getLast? = some ⟨.finalize, true⟩ → life.scene.client.mark.pending = []
  /-- When it was just closed, it is. -/
  closed : life.attempts.getLast? = some ⟨.close, true⟩ → life.scene.client.state = .closed

/-- A life proceeds with every move. -/
theorem Proceeds.move (h : life.Proceeds name config delivered) (hcalm : schedule.Publishes)
    (hhonest : schedule.NeverDenies) (hqueue : config.destination = .queue name)
    {move : Reader.Move} (hmove : move.Publishes)
    (hattempts : ∀ attempt ∈ (life.move schedule move).attempts,
      attempt.succeeded = true ∨ attempt.move = .finalize)
    (hdistinct : (life.move schedule move).broker.contents.Distinct name)
    (hlasting : (life.move schedule move).broker.contents.Lasting name) :
    (life.move schedule move).Proceeds name config delivered := by
  obtain ⟨hold, new, hcaught, hmaps⟩ := h.reads
  have hlast : (life.move schedule move).attempts.getLast? =
      some ⟨move, Reader.succeeds schedule life.scene move⟩ := List.getLast?_concat
  have hsucceeds := hattempts _ (List.mem_of_getLast? hlast)
  obtain ⟨hold', new', hcaught', hconfig, hmaps'⟩ := hcaught.move hcalm hhonest
    (by rw [h.same, hqueue]) hmove hsucceeds hdistinct hlasting
  rw [h.same] at hconfig hmaps'
  refine ⟨hconfig, ⟨hold', new ++ new', ?_, List.rel_append hmaps hmaps'⟩, ?_, ?_⟩
  · rw [← List.append_assoc]
    exact hcaught'
  · intro hfinalized
    obtain ⟨rfl, hdone⟩ := Attempt.mk.inj (Option.some.inj (hlast.symm.trans hfinalized))
    exact hcaught.pending_of_finalize hhonest hdone
  · intro hclosed
    obtain ⟨rfl, hdone⟩ := Attempt.mk.inj (Option.some.inj (hlast.symm.trans hclosed))
    exact Reader.state_of_close hdone

/-- A life proceeds with every run. -/
theorem Proceeds.run (h : life.Proceeds name config delivered) (hcalm : schedule.Publishes)
    (hhonest : schedule.NeverDenies) (hqueue : config.destination = .queue name)
    {moves : List Reader.Move} (hmoves : ∀ move ∈ moves, move.Publishes)
    (hattempts : ∀ attempt ∈ (life.run schedule moves).attempts,
      attempt.succeeded = true ∨ attempt.move = .finalize)
    (hdistinct : (life.run schedule moves).broker.contents.Distinct name)
    (hlasting : (life.run schedule moves).broker.contents.Lasting name) :
    (life.run schedule moves).Proceeds name config delivered := by
  -- The induction is on the moves from the last, since the condition is on the broker in the end.
  induction moves using List.reverseRecOn with
  | nil => exact h
  | append_singleton moves last ih =>
    rw [run_concat] at hattempts hdistinct hlasting ⊢
    obtain ⟨hold, new, hcaught, -⟩ := h.reads
    have hspares : Contents.Spares (fun _ => False) (life.run schedule moves).broker.contents
        ((life.run schedule moves).move schedule last).broker.contents := by
      obtain ⟨hold', delivered', hstanding, hleads⟩ : Reader.Continues name _ hold [] _ :=
        hcaught.standing.run hhonest (by rw [h.same, hqueue]) moves
      rw [← scene_run] at hstanding hleads
      obtain ⟨_, _, -, hleads'⟩ : Reader.Continues name _ hold' [] _ :=
        hstanding.move hhonest (by rw [hleads.config, h.same, hqueue]) last
      exact Ledger.Steps.spares hleads'.steps
    have hmiddle := ih (fun move hmove => hmoves move (List.mem_append_left _ hmove))
      (fun attempt hattempt => hattempts attempt (List.mem_append_left _ hattempt))
      (.of_spares hspares hdistinct) (.of_spares hspares hlasting)
    exact hmiddle.move hcalm hhonest hqueue (hmoves last (by simp)) hattempts hdistinct hlasting

end Life

/-- A life in which no call failed but finalizations, at a broker where the messages of a queue have
names of their own and do not expire. -/
structure Life.Smooth {α : Type} (name : String) (life : Life α) : Prop where
  attempts : ∀ attempt ∈ life.attempts, attempt.succeeded = true ∨ attempt.move = .finalize
  fits : life.scene.client.mark.Fits
  distinct : ((life.broker.published (.queue name)).map (·.id)).Nodup
  lasting : ∀ message ∈ life.broker.published (.queue name), message.expiration ≤ 0

instance {α : Type} (name : String) (life : Life α) : Decidable (life.Smooth name) :=
  decidable_of_iff ((∀ attempt ∈ life.attempts, attempt.succeeded = true ∨
      attempt.move = .finalize) ∧ life.scene.client.mark.Fits ∧
      ((life.broker.published (.queue name)).map (·.id)).Nodup ∧
      ∀ message ∈ life.broker.published (.queue name), message.expiration ≤ 0)
    ⟨fun h => ⟨h.1, h.2.1, h.2.2.1, h.2.2.2⟩, fun h => ⟨h.attempts, h.fits, h.distinct, h.lasting⟩⟩

/-- A part of a chain around which others do nothing but publish. -/
structure Part.Calm (part : Part) : Prop where
  publishes : part.schedule.Publishes
  honest : part.schedule.NeverDenies
  moves : ∀ move ∈ part.moves ++ part.leaving, move.Publishes
  parting : ∀ move ∈ part.leaving, move.isParting = true

section

variable {α : Type} {name : String} {config : ReadConfig α}

/-- A calm part of a chain is a life that proceeds. -/
theorem Part.Calm.proceeds {part : Part} (hcalm : part.Calm)
    (hqueue : config.destination = .queue name) {restored : Option Mark} {journal : Journal}
    {broker : Broker} {delivered : List Message}
    (hopening :
      Reader.CaughtUp name (Reader.opening config restored journal broker) .free delivered)
    {life : Life α} (hlife : part.ended config restored journal broker = life)
    (hsmooth : life.Smooth name) : life.Proceeds name config delivered := by
  let opened : Life α := { scene := Reader.opening config restored journal broker }
  have hopened : opened.Proceeds name config delivered := by
    refine ⟨rfl, ⟨.free, [], ?_, .nil⟩, by simp [opened], by simp [opened]⟩
    rw [List.append_nil]
    exact hopening
  have hended : opened.run part.schedule (part.moves ++ part.leaving) = life := by
    rw [Life.run_append]
    exact hlife
  subst hended
  exact hopened.run hcalm.publishes hcalm.honest hqueue hcalm.moves hsmooth.attempts
    hsmooth.distinct hsmooth.lasting

/-- Along a chain of readers in calm surroundings, of which each is closed before the next begins,
the last one is caught up, and what was delivered is what was emitted. -/
theorem caughtUp_chain (hqueue : config.destination = .queue name) {parts : List Part}
    (hcalm : ∀ part ∈ parts, part.Calm) (restored : Option Mark) (journal : Journal)
    (broker : Broker) {delivered : List Message}
    (hopening :
      Reader.CaughtUp name (Reader.opening config restored journal broker) .free delivered)
    {lives : List (Life α)} (hlives : chain config restored journal broker parts = lives)
    (hsmooth : ∀ life ∈ lives, life.Smooth name)
    (hclosed : ∀ life ∈ lives.dropLast, life.attempts.getLast? = some ⟨.close, true⟩)
    {last : Life α} (hlast : lives.getLast? = some last) :
    ∃ hold new, Reader.CaughtUp name last.scene hold (delivered ++ new) ∧
      List.Forall₂ (Emission.Maps config) new (lives.flatMap (·.emitted)) ∧
        (last.attempts.getLast? = some ⟨.finalize, true⟩ →
          last.scene.client.mark.pending = []) := by
  induction parts generalizing restored journal broker delivered lives with
  | nil =>
    subst hlives
    cases hlast
  | cons part rest ih =>
    obtain ⟨life, hlife⟩ : ∃ life, part.ended config restored journal broker = life := ⟨_, rfl⟩
    have hpart := hcalm part List.mem_cons_self
    have hmem : life ∈ lives := by
      rw [← hlives, chain, hlife]
      exact List.mem_cons_self
    obtain ⟨mark, hdetached, hpending, hchain⟩ := chain_cons config restored journal broker rest
      hpart.parting hlife (hsmooth life hmem).fits
    have hproceeds := hpart.proceeds hqueue hopening hlife (hsmooth life hmem)
    obtain ⟨hold, new, hcaught, hmaps⟩ := hproceeds.reads
    rw [hlives] at hchain
    generalize hothers : chain config (some mark) life.scene.journal life.broker rest = others
      at hchain
    subst hchain
    cases others with
    | nil =>
      obtain rfl : life = last := by simpa using hlast
      refine ⟨hold, new, hcaught, ?_, hproceeds.settled⟩
      simpa using hmaps
    | cons second others =>
      -- A part that was closed with success let go of its session, so the next one begins free.
      have hgone : hold = .gone :=
        hcaught.hold_of_closed (hproceeds.closed (hclosed life List.mem_cons_self))
      subst hgone
      obtain ⟨hold', new', hcaught', hmaps', hsettled⟩ :=
        ih (fun part hpart => hcalm part (List.mem_cons_of_mem _ hpart)) (some mark) _ _
          (hcaught.next hdetached hpending config life.scene.journal) hothers
          (fun later hlater => hsmooth later (List.mem_cons_of_mem _ hlater))
          (fun later hlater => hclosed later (List.mem_cons_of_mem _ hlater)) hlast
      rw [List.append_assoc] at hcaught'
      exact ⟨hold', new ++ new', hcaught', List.rel_append hmaps hmaps', hsettled⟩

/-- Before the first reader begins, nothing happened but that messages were accepted. -/
theorem Broker.appends_operateAll (broker : Broker) {operations : List (Int64 × Operation)}
    (h : ∀ entry ∈ operations, ∃ destination message, entry.2 = .publish destination message) :
    Contents.Appends broker.contents (broker.operateAll operations).contents := by
  induction operations generalizing broker with
  | nil => exact .refl _
  | cons entry rest ih =>
    obtain ⟨destination, message, hentry⟩ := h entry List.mem_cons_self
    refine .trans ?_ (ih _ fun other hother => h other (List.mem_cons_of_mem _ hother))
    exact broker.appends_operate entry.1 (by rw [hentry]; rfl)

/-- The first reader is caught up from the beginning. -/
theorem caughtUp_opening (config : ReadConfig α) (journal : Journal)
    (credentials : Option Credentials) {earlier : List (Int64 × Operation)}
    (h : ∀ entry ∈ earlier, ∃ destination message, entry.2 = .publish destination message) :
    Reader.CaughtUp name (Reader.opening config none journal (.after credentials earlier)) .free
      [] := by
  have happends := Broker.appends_operateAll { credentials := credentials } h
  obtain ⟨new, hqueue, hhistory⟩ := happends.queue name
  have hacknowledged : (Broker.after credentials earlier).acknowledged = [] := by
    obtain ⟨-, -, -, hsame⟩ := happends
    exact hsame
  refine ⟨Reader.standing_opening config (by simp) journal _,
    Ledger.coherent_of_not_held (Broker.sound_after credentials earlier) rfl, ?_, rfl⟩
  refine ⟨fun _ => rfl, ?_, ⟨[], new, hqueue, rfl, hhistory⟩, by simp [Scene.ledger]⟩
  change ((Broker.after credentials earlier).acknowledged ++ []).map some = []
  rw [hacknowledged]
  rfl

end

/-- What the readers of a chain emit, one after another, is what the mapper makes of the messages
accepted for the queue, in order, up to some message: none is emitted twice and none is left out. If
the last reader was just finalized, every message whose record was emitted is acknowledged exactly
once. This holds of every chain of readers of a queue, however often they are stopped and started
again, as long as others do nothing but publish, each reader is closed before the next begins, and
no call fails but finalizations. -/
theorem emits_history_in_order {α : Type} {name : String} {config : ReadConfig α}
    (hqueue : config.destination = .queue name) (journal : Journal)
    (credentials : Option Credentials) {earlier : List (Int64 × Operation)}
    (hearlier : ∀ entry ∈ earlier, ∃ destination message, entry.2 = .publish destination message)
    {parts : List Part} (hcalm : ∀ part ∈ parts, part.Calm) {lives : List (Life α)}
    (hlives : chain config none journal (.after credentials earlier) parts = lives)
    (hsmooth : ∀ life ∈ lives, life.Smooth name)
    (hclosed : ∀ life ∈ lives.dropLast, life.attempts.getLast? = some ⟨.close, true⟩)
    {last : Life α} (hlast : lives.getLast? = some last) :
    lives.length = parts.length ∧
    (∃ read, read <+: last.broker.published (.queue name) ∧
      List.Forall₂ (Emission.Maps config) read (lives.flatMap (·.emitted))) ∧
    (lives.flatMap (·.emittedIds)).Nodup ∧
    (last.attempts.getLast? = some ⟨.finalize, true⟩ → ∀ id ∈ lives.flatMap (·.emittedIds),
      last.broker.acknowledgmentCount id = 1) := by
  obtain ⟨hold, new, hcaught, hmaps, hsettled⟩ := caughtUp_chain hqueue hcalm none journal _
    (caughtUp_opening config journal credentials hearlier) hlives hsmooth hclosed hlast
  rw [List.nil_append] at hcaught
  have hdistinct : last.broker.contents.Distinct name :=
    (hsmooth last (List.mem_of_getLast? hlast)).distinct
  obtain ⟨returned, fresh, -, -, hread⟩ := hcaught.inOrder.queue
  have hhistory : last.broker.published (.queue name) = new ++ fresh := hread
  have hids : (lives.flatMap (·.emittedIds)).map some = new.map (·.id) := by
    rw [Emission.map_id_of_maps hmaps]
    simp [Life.emittedIds, List.map_flatMap, Function.comp_def]
  refine ⟨?_, ⟨new, ⟨fresh, hhistory.symm⟩, hmaps⟩, ?_, fun hfinalized id hid => ?_⟩
  · rw [← hlives] at hsmooth ⊢
    exact length_chain config none journal _ (fun part hpart => (hcalm part hpart).parting)
      fun life hlife => (hsmooth life hlife).fits
  · have hall : ((new ++ fresh).map (·.id)).Nodup := by
      rw [← hhistory]
      exact hdistinct
    rw [List.map_append, ← hids] at hall
    exact List.Nodup.of_map some (List.nodup_append.1 hall).1
  · have horder := hcaught.inOrder.order
    have hnodup := hcaught.inOrder.nodup hdistinct
    simp only [Ledger.listed, Scene.ledger, hsettled hfinalized, hcaught.skipped, List.map_nil,
      List.append_nil] at horder hnodup
    have hmem : some id ∈ last.scene.env.broker.acknowledged.map some := by
      rw [horder, ← hids]
      exact List.mem_map_of_mem hid
    obtain ⟨other, hother, he⟩ := List.mem_map.1 hmem
    obtain rfl := Option.some.inj he
    exact List.count_eq_one_of_mem hnodup hother

/-- A reader fails to acknowledge one of the messages that it emitted. It is stopped and started
again twice, and acknowledges everything in the end. -/
def restartedParts : List Part :=
  [⟨Reader.strainedSchedule, [.start, .advance, .finalize], [.close]⟩,
    ⟨Reader.undisturbed, [.start], [.close]⟩,
    ⟨Reader.undisturbed, [.start, .advance, .finalize], []⟩]

/-- The second reader skips what the first one failed to acknowledge, and the third one acknowledges
it. -/
theorem emits_history_in_order_restartedParts :
    let lives := chain (Reader.textsOf "orders") none {}
      (.after none (Reader.publishing "orders" ["A", "B", "C"])) restartedParts
    lives.map (·.emittedIds) = [[⟨"A"⟩, ⟨"B"⟩], [⟨"C"⟩], [⟨"D"⟩]] ∧
      ∃ last, lives.getLast? = some last ∧ ∀ id ∈ lives.flatMap (·.emittedIds),
        last.broker.acknowledgmentCount id = 1 := by
  intro lives
  have hcalm : ∀ part ∈ restartedParts, part.Calm := by
    simp only [restartedParts, List.forall_mem_cons]
    refine ⟨⟨Reader.publishes_strainedSchedule, Reader.neverDenies_strainedSchedule, ?_, by decide⟩,
      ⟨Reader.publishes_undisturbed, Reader.neverDenies_undisturbed, ?_, by decide⟩,
      ⟨Reader.publishes_undisturbed, Reader.neverDenies_undisturbed, ?_, by decide⟩, by simp⟩
    · simp [Reader.Move.Publishes]
    · simp [Reader.Move.Publishes]
    · simp [Reader.Move.Publishes]
  have hsmooth : ∀ life ∈ lives, life.Smooth "orders" := by decide +kernel
  obtain ⟨last, hlast⟩ : ∃ last, lives.getLast? = some last :=
    Option.isSome_iff_exists.1 (by decide +kernel)
  have hfinalized : lives.getLast?.bind (·.attempts.getLast?) = some ⟨.finalize, true⟩ := by
    decide +kernel
  rw [hlast] at hfinalized
  refine ⟨by decide +kernel, last, hlast, ?_⟩
  exact (emits_history_in_order rfl {} none (by simp [Reader.publishing]) hcalm rfl hsmooth
    (by decide +kernel) hlast).2.2.2 hfinalized

end BrokerConnector
