import BrokerConnector.Proofs.Calls
import BrokerConnector.Proofs.Codec
import Mathlib.Data.List.Forall2

/-!
# Chains of readers

A reader that is restarted goes on from the mark of the one before, which is written to bytes and
read back. A `Life` is one reader in its surroundings with what it emitted. In a `chain` each life
begins with the mark that the one before left. The mark is taken after the last call that reads or
finalizes; the reader may be closed before or after that, and its session may as well be closed by
others while the next reader is at work, or never.

What a call emits is the current record, and its message is the one that was received last. So the
emitted records are, one for one, what the mapper makes of the messages that the ledger of the
reader counts as delivered.
-/

namespace BrokerConnector

open BrokerConnector.Action

/-- A record, with the identifier of the message that it was made of. -/
structure Emission (α : Type) where
  id : MessageId
  record : Timestamped α
  deriving DecidableEq, Inhabited

/-- An emission is what the mapper of a configuration makes of a message. -/
def Emission.Maps {α : Type} (config : ReadConfig α) (message : Message) (emission : Emission α) :
    Prop :=
  message.id = some emission.id ∧ config.mapper message = .ok emission.record.value ∧
    emission.record.timestamp = message.timestamp

/-- The mapper turns messages into records under the same identifiers. -/
theorem Emission.map_id_of_maps {α : Type} {config : ReadConfig α} {delivered : List Message}
    {emitted : List (Emission α)} (h : List.Forall₂ (Emission.Maps config) delivered emitted) :
    delivered.map (·.id) = emitted.map fun emission => some emission.id := by
  induction h with
  | nil => rfl
  | cons hfirst _ ih => rw [List.map_cons, List.map_cons, hfirst.1, ih]

namespace Reader

/-- Whether a move may follow when the mark was taken: nothing is read or finalized any more. -/
def Move.isParting : Move → Bool
  | close | others _ => true
  | _ => false

variable {α : Type} {schedule : Schedule} {calm : Prop} {name : String}

/-- What a call emitted that looked for the next message, if it found one. -/
def emission? (outcome : Outcome ConnectorError Bool) (s : Scene (Reader α) Shared) :
    Option (Emission α) :=
  match outcome, s.env.received.getLast?.bind (·.id), s.client.current with
  | .done true, some id, some record => some ⟨id, record⟩
  | _, _, _ => none

/-- What a move emits. -/
def emissions (schedule : Schedule) (s : Scene (Reader α) Shared) : Move → List (Emission α)
  | .start =>
    (emission? (start (Shared.endpoint schedule) s).1
      (start (Shared.endpoint schedule) s).2).toList
  | .advance =>
    (emission? (advance (Shared.endpoint schedule) s).1
      (advance (Shared.endpoint schedule) s).2).toList
  | _ => []

/-- Whether a move succeeds. Others always do what they do. -/
def succeeds (schedule : Schedule) (s : Scene (Reader α) Shared) : Move → Bool
  | .start => (start (Shared.endpoint schedule) s).1.isDone
  | .advance => (advance (Shared.endpoint schedule) s).1.isDone
  | .finalize => (finalize (Shared.endpoint schedule) s).1.isDone
  | .close => (close (Shared.endpoint schedule) s).1.isDone
  | .others _ => true

/-- What a reader ends with when it emitted records. -/
def Emits (calm : Prop) (name : String) (s : Scene (Reader α) Shared) (hold : Hold)
    (delivered : List Message) (s' : Scene (Reader α) Shared) (emitted : List (Emission α)) :
    Prop :=
  ∃ hold' new, Standing s' hold' ∧ Leads calm name s hold delivered s' hold' (delivered ++ new) ∧
    List.Forall₂ (Emission.Maps s.client.config) new emitted

variable {s s' : Scene (Reader α) Shared} {hold hold' : Hold}
  {delivered delivered' : List Message} {found : Bool}

/-- What a reader found is what it emits. -/
theorem Found.emission (h : Found calm name s hold delivered s' hold' found delivered') :
    ∃ new, delivered' = delivered ++ new ∧ List.Forall₂ (Emission.Maps s'.client.config) new
      (emission? (.done found) s').toList := by
  cases h with
  | message message id value identified received last mapped current =>
    refine ⟨[message], rfl, ?_⟩
    simp only [emission?, received, Option.bind_some, identified, current, Option.toList_some]
    exact .cons ⟨identified, mapped, rfl⟩ .nil
  | nothing => exact ⟨[], by simp, .nil⟩

/-- A reader that moved to its next message emits what it found. -/
theorem Arrives.emits (h : Arrives calm name s hold delivered found s') :
    Emits calm name s hold delivered s' (emission? (.done found) s').toList := by
  obtain ⟨handle, consumer, delivered', hstanding, hleads, hfound⟩ := h
  obtain ⟨new, rfl, hmaps⟩ := hfound.emission
  rw [hleads.config] at hmaps
  exact ⟨_, new, hstanding, hleads, hmaps⟩

/-- A reader whose mapper never fails emits nothing when it failed to move to its next message. -/
theorem Stumbles.emits (h : Stumbles name s hold delivered s')
    (htotal : ∀ message, ∃ value, s.client.config.mapper message = .ok value) :
    Emits False name s hold delivered s' [] := by
  obtain ⟨hold', delivered', hstanding, hleads, rfl | ⟨message, reason, rfl, hreason⟩⟩ := h
  · refine ⟨hold', [], hstanding, ?_, .nil⟩
    rw [List.append_nil]
    exact hleads
  · obtain ⟨value, hvalue⟩ := htotal message
    cases hvalue.symm.trans hreason

/-- A reader whose mapper never fails emits, with every move, what the mapper makes of the messages
that it delivers. -/
theorem Standing.emits (hhonest : schedule.NeverDenies)
    (hdestination : s.client.config.destination = .queue name)
    (htotal : ∀ message, ∃ value, s.client.config.mapper message = .ok value)
    (hstanding : Standing s hold) (move : Move) :
    Emits False name s hold delivered (Reader.move schedule s move)
      (emissions schedule s move) := by
  have hrests : ∀ {move : Move}, move.isReading = false →
      Emits False name s hold delivered (Reader.move schedule s move) [] := by
    intro move hmove
    obtain ⟨hold', hstanding', hleads⟩ : Rests name s hold delivered
      (Reader.move schedule s move) := hstanding.rests hhonest hmove
    refine ⟨hold', [], hstanding', ?_, .nil⟩
    rw [List.append_nil]
    exact hleads
  have hreads : ∀ {call : Call (Reader α) Shared Bool},
      Ensures call s (Arrives False name s hold delivered)
        (fun _ => Stumbles name s hold delivered) →
      Emits False name s hold delivered (call s).2
        (emission? (call s).1 (call s).2).toList := by
    intro call h
    rcases h.outcome with ⟨found, houtcome, harrives⟩ | ⟨error, houtcome, hstumbles⟩
    · rw [houtcome]
      exact harrives.emits
    · rw [houtcome]
      exact hstumbles.emits htotal
  cases move with
  | start => exact hreads (ensures_start False.elim hstanding hdestination)
  | advance => exact hreads (ensures_advance_of_standing False.elim hstanding)
  | finalize => exact hrests rfl
  | close => exact hrests rfl
  | others operations => exact hrests rfl

/-- What is emitted in one stretch and in the next, is emitted in both. -/
theorem Emits.trans {s'' : Scene (Reader α) Shared} {emitted emitted' : List (Emission α)}
    (h : Emits calm name s hold delivered s' emitted)
    (hnext : ∀ hold' new, Standing s' hold' → s'.client.config = s.client.config →
      Emits calm name s' hold' (delivered ++ new) s'' emitted') :
    Emits calm name s hold delivered s'' (emitted ++ emitted') := by
  obtain ⟨hold', new, hstanding, hleads, hmaps⟩ := h
  obtain ⟨hold'', new', hstanding', hleads', hmaps'⟩ := hnext hold' new hstanding hleads.config
  rw [hleads.config] at hmaps'
  refine ⟨hold'', new ++ new', hstanding', ?_, List.rel_append hmaps hmaps'⟩
  rw [← List.append_assoc]
  exact hleads.trans hleads'

/-- A reader that is closed, or around which others are at work, keeps what its mark is written
with. -/
theorem mark_of_parting (s : Scene (Reader α) Shared) {move : Move} (h : move.isParting = true) :
    (Reader.move schedule s move).client.mark.pending = s.client.mark.pending ∧
      (Reader.move schedule s move).client.mark.sessionId = s.client.mark.sessionId := by
  cases move with
  | start => cases h
  | advance => cases h
  | finalize => cases h
  | others operations => exact ⟨rfl, rfl⟩
  | close =>
    let Kept (s' : Scene (Reader α) Shared) : Prop :=
      s'.client.mark.pending = s.client.mark.pending ∧
        s'.client.mark.sessionId = s.client.mark.sessionId
    have hclose : Ensures (close (Shared.endpoint schedule)) s
        (fun _ => Closing False (fun _ => False) s [])
        (fun _ s' => ∃ errors, Closing False (fun _ => False) s errors s') :=
      ensures_close False.elim s fun _ => False.elim
    have hkept : Ensures (close (Shared.endpoint schedule)) s (fun _ => Kept) (fun _ => Kept) := by
      refine hclose.mono (fun _ _ h => ⟨h.retired.pending, h.retired.sessionId⟩) ?_
      rintro error s' ⟨errors, h⟩
      exact ⟨h.retired.pending, h.retired.sessionId⟩
    exact hkept.state

end Reader

/-! ## Lives -/

/-- A move that was made, and whether it succeeded. -/
structure Attempt where
  move : Reader.Move
  succeeded : Bool
  deriving DecidableEq, Inhabited

/-- A reader in its surroundings, with what it emitted and what was done so far. -/
structure Life (α : Type) where
  scene : Scene (Reader α) Shared
  emitted : List (Emission α) := []
  attempts : List Attempt := []

namespace Life

variable {α : Type} {schedule : Schedule} {calm : Prop} {name : String}

/-- A life after a move. -/
def move (schedule : Schedule) (life : Life α) (move : Reader.Move) : Life α where
  scene := Reader.move schedule life.scene move
  emitted := life.emitted ++ Reader.emissions schedule life.scene move
  attempts := life.attempts ++ [⟨move, Reader.succeeds schedule life.scene move⟩]

/-- A life after moves in order. -/
def run (schedule : Schedule) (moves : List Reader.Move) (life : Life α) : Life α :=
  moves.foldl (move schedule) life

/-- The messages that were received in a life. -/
def received (life : Life α) : List MessageId :=
  life.scene.env.received.filterMap (·.id)

/-- The messages that are listed at the end of a life. -/
def listed (life : Life α) : List MessageId :=
  life.scene.client.mark.pending.map (·.id)

/-- The messages that are to be skipped at the end of a life. -/
def skipped (life : Life α) : List MessageId :=
  life.scene.client.skipped

/-- The messages whose records were emitted in a life. -/
def emittedIds (life : Life α) : List MessageId :=
  life.emitted.map (·.id)

/-- The broker at the end of a life. -/
def broker (life : Life α) : Broker :=
  life.scene.env.broker

variable {life : Life α}

/-- A life that only parts keeps what its mark is written with. -/
theorem parting_run {moves : List Reader.Move} (h : ∀ move ∈ moves, move.isParting = true) :
    (life.run schedule moves).scene.client.mark.pending = life.scene.client.mark.pending ∧
      (life.run schedule moves).scene.client.mark.sessionId =
        life.scene.client.mark.sessionId := by
  induction moves generalizing life with
  | nil => exact ⟨rfl, rfl⟩
  | cons first rest ih =>
    obtain ⟨hpending, hsession⟩ := ih fun move hmove => h move (List.mem_cons_of_mem _ hmove)
    obtain ⟨hpending', hsession'⟩ :=
      Reader.mark_of_parting life.scene (h first List.mem_cons_self)
    exact ⟨hpending.trans hpending', hsession.trans hsession'⟩

end Life

/-- What is emitted in a life is what the mapper makes of the messages delivered in it. -/
theorem Reader.Emits.run {α : Type} {schedule : Schedule} {name : String}
    {s : Scene (Reader α) Shared} {life : Life α}
    (h : Emits False name s .free [] life.scene life.emitted) (hhonest : schedule.NeverDenies)
    (hdestination : s.client.config.destination = .queue name)
    (htotal : ∀ message, ∃ value, s.client.config.mapper message = .ok value)
    (moves : List Move) :
    Emits False name s .free [] (life.run schedule moves).scene
      (life.run schedule moves).emitted := by
  induction moves generalizing life with
  | nil => exact h
  | cons first rest ih =>
    refine ih (h.trans fun hold' new hstanding hconfig => ?_)
    exact hstanding.emits hhonest (by rw [hconfig, hdestination]) (by rw [hconfig]; exact htotal)
      first

/-- One life in a chain: what happens around it, what is done with the reader until its mark is
taken, and what is done with it afterwards. -/
structure Part where
  schedule : Schedule
  moves : List Reader.Move
  leaving : List Reader.Move := []

namespace Part

variable {α : Type}

/-- A life when its mark is taken. -/
def taken (part : Part) (config : ReadConfig α) (restored : Option Mark) (journal : Journal)
    (broker : Broker) : Life α :=
  Life.run part.schedule part.moves { scene := Reader.opening config restored journal broker }

/-- A life when it is over. -/
def ended (part : Part) (config : ReadConfig α) (restored : Option Mark) (journal : Journal)
    (broker : Broker) : Life α :=
  Life.run part.schedule part.leaving (part.taken config restored journal broker)

end Part

/-- Lives of which each begins with the mark of the one before, as it is read back from its bytes,
at the broker that the one before left. A chain ends where a mark cannot be read. -/
def chain {α : Type} (config : ReadConfig α) (restored : Option Mark) (journal : Journal)
    (broker : Broker) : List Part → List (Life α)
  | [] => []
  | part :: rest =>
    let life := part.ended config restored journal broker
    life :: match Mark.decode
        (part.taken config restored journal broker).scene.client.mark.encode with
      | .ok mark => chain config (some mark) life.scene.journal life.broker rest
      | .error _ => []

/-- The mark that a reader begins with lists what the reader before listed when it parted. -/
theorem chain_cons {α : Type} (config : ReadConfig α) (restored : Option Mark) (journal : Journal)
    (broker : Broker) {part : Part} (rest : List Part)
    (hleaving : ∀ move ∈ part.leaving, move.isParting = true) {life : Life α}
    (hlife : part.ended config restored journal broker = life)
    (hfits : life.scene.client.mark.Fits) :
    ∃ mark : Mark, mark.isAttached = false ∧ mark.pending = life.scene.client.mark.pending ∧
      chain config restored journal broker (part :: rest) =
        life :: chain config (some mark) life.scene.journal life.broker rest := by
  let taken := (part.taken config restored journal broker).scene.client.mark
  obtain ⟨hpending, hsession⟩ : life.scene.client.mark.pending = taken.pending ∧
      life.scene.client.mark.sessionId = taken.sessionId := by
    rw [← hlife]
    exact Life.parting_run hleaving
  have htaken : taken.Fits := by
    refine ⟨?_, ?_, ?_⟩
    · rw [← hsession]
      exact hfits.session
    · rw [← hpending]
      exact hfits.entries
    · rw [← hpending]
      exact hfits.ids
  refine ⟨{ sessionId := taken.sessionId, pending := taken.pending }, rfl, hpending.symm, ?_⟩
  rw [chain, Mark.decode_encode htaken, hlife]

/-- A chain has a life for each of its parts. -/
theorem length_chain {α : Type} (config : ReadConfig α) (restored : Option Mark) (journal : Journal)
    (broker : Broker) {parts : List Part}
    (hleaving : ∀ part ∈ parts, ∀ move ∈ part.leaving, move.isParting = true)
    (hfits : ∀ life ∈ chain config restored journal broker parts, life.scene.client.mark.Fits) :
    (chain config restored journal broker parts).length = parts.length := by
  induction parts generalizing restored journal broker with
  | nil => rfl
  | cons part rest ih =>
    obtain ⟨life, hlife⟩ : ∃ life, part.ended config restored journal broker = life := ⟨_, rfl⟩
    have hmem : life ∈ chain config restored journal broker (part :: rest) := by
      rw [chain, hlife]
      exact List.mem_cons_self
    obtain ⟨mark, -, -, hchain⟩ := chain_cons config restored journal broker rest
      (hleaving part List.mem_cons_self) hlife (hfits life hmem)
    rw [hchain] at hfits ⊢
    rw [List.length_cons, List.length_cons, ih (some mark) _ _
      (fun part hpart => hleaving part (List.mem_cons_of_mem _ hpart))
      fun later hlater => hfits later (List.mem_cons_of_mem _ hlater)]

end BrokerConnector
