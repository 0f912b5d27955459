import BrokerConnector.Proofs.Carriage
import BrokerConnector.Proofs.Seats
import Mathlib.Algebra.Ring.Nat

/-!
# Splits of a queue

The readers of the splits of a source share a broker, with marks and connections of their own. A
`Course` is such a crew with what its calls came to. Its moves are the calls of the readers, in any
order, and what another client publishes.

Through all moves the readers keep the books of a `Pool` (`Course.Accounts`), as long as none of
them is closed. `Accounts.move` says so of one move and `exists_accounts_run` of a run. What the
books show is that nothing is emitted twice, that each reader emits in the order of the queue, and
that everything was emitted once a reader finds nothing more (`Accounts.shares`). When every reader
was finalized, nothing waits any longer, so what was acknowledged is what was emitted
(`Accounts.settled`). `splits_share_messages` puts both together.

That the messages of the queue are distinct and settled is assumed of the end of a run. Since the
log and what was accepted only grow (`Shared.Grows`), it holds of every point of the run.
-/

namespace BrokerConnector

open BrokerConnector.Action

variable {schedule : Schedule} {name : String}

/-- The value that a call ended with. -/
def Outcome.value? {ε α : Type} : Outcome ε α → Option α
  | done value => some value
  | failed _ => none
  | abandoned => none

@[simp]
theorem Outcome.value?_done {ε α : Type} (value : α) :
    (done value : Outcome ε α).value? = some value :=
  rfl

namespace Crew

variable {α : Type} {lasts : Message → Bool} {config : ReadConfig α} {pool : Pool} {index : Nat}

/-! ## Runs -/

/-- What is done with readers, each named by its position, or with the broker. -/
inductive Move where
  | start (index : Nat)
  | advance (index : Nat)
  | finalize (index : Nat)
  /-- Another client publishes a message. -/
  | publish (now : Int64) (destination : Destination) (message : Message)
  deriving DecidableEq, Inhabited

/-- A call by which a reader looked for its next message. -/
structure Look (α : Type) where
  reader : Nat
  outcome : Outcome ConnectorError Bool
  emission : Option (Emission α)
  /-- What had been accepted for the destination of the reader when the call was over. -/
  accepted : List Message

/-- Readers that share a broker, with what their calls came to. -/
structure Course (α : Type) where
  scene : Scene (List (Reader α)) Shared
  looks : List (Look α) := []
  /-- How the finalizations ended. -/
  finalizations : List (Outcome ConnectorError Nat) := []

namespace Course

/-- The readers of the splits of a source, at a broker that was just opened. None begins with a
mark. -/
def opening (source : Source α) (desired : UInt64) (journal : Journal)
    (credentials : Option Credentials) : Course α where
  scene :=
    { client := (source.split desired).map fun split => Reader.create split.config none
      journal := journal
      env := { broker := { credentials := credentials } } }

/-- The broker as it is. -/
def broker (course : Course α) : Broker :=
  course.scene.env.broker

/-- What one of the readers sees. -/
def seenBy (course : Course α) (reader : Reader α) : Scene (Reader α) Shared where
  client := reader
  journal := course.scene.journal
  env := course.scene.env

/-- The scene after one of the readers, by its position, made a call. -/
def returned (course : Course α) (index : Nat) (s : Scene (Reader α) Shared) :
    Scene (List (Reader α)) Shared where
  client := course.scene.client.set index s.client
  journal := s.journal
  env := s.env

/-- A course after one of the readers looked for its next message. -/
def looked (course : Course α) (index : Nat) (destination : Destination)
    (outcome : Outcome ConnectorError Bool) (s : Scene (Reader α) Shared) : Course α :=
  { course with
    scene := course.returned index s
    looks := course.looks ++ [⟨index, outcome, Reader.emission? outcome s,
      s.env.broker.published destination⟩] }

/-- A course after one of the readers, if there is one, looked for its next message. -/
def look (course : Course α) (index : Nat) (call : Call (Reader α) Shared Bool) : Course α :=
  match course.scene.client[index]? with
  | none => course
  | some reader =>
    let result := call (course.seenBy reader)
    course.looked index reader.config.destination result.1 result.2

/-- A course after one of the readers, if there is one, was finalized. -/
def finalize (schedule : Schedule) (course : Course α) (index : Nat) : Course α :=
  match course.scene.client[index]? with
  | none => course
  | some reader =>
    let result := Reader.finalize (Shared.endpoint schedule) (course.seenBy reader)
    { course with
      scene := course.returned index result.2
      finalizations := course.finalizations ++ [result.1] }

/-- A course after one more move. -/
def move (schedule : Schedule) (course : Course α) : Move → Course α
  | .start index => course.look index (Reader.start (Shared.endpoint schedule))
  | .advance index => course.look index (Reader.advance (Shared.endpoint schedule))
  | .finalize index => course.finalize schedule index
  | .publish now destination message =>
    { course with
      scene := { course.scene with
        env := course.scene.env.others [(now, .publish destination message)] } }

/-- A course after moves in order. -/
def run (schedule : Schedule) (moves : List Move) (course : Course α) : Course α :=
  moves.foldl (move schedule) course

/-- What was emitted, in order, each with the reader that did. -/
def tagged (course : Course α) : List (Nat × Emission α) :=
  course.looks.filterMap fun look => look.emission.map (look.reader, ·)

/-- What was emitted by any of the readers, in order. -/
def emissions (course : Course α) : List (Emission α) :=
  course.tagged.map (·.2)

/-- What one of the readers emitted, in order. -/
def emittedBy (course : Course α) (index : Nat) : List (Emission α) :=
  own index course.tagged

/-- What a reader emitted when it looked for its next message is the last of all. -/
theorem tagged_looked (course : Course α) (index : Nat) (destination : Destination)
    (outcome : Outcome ConnectorError Bool) (s : Scene (Reader α) Shared) :
    (course.looked index destination outcome s).tagged = course.tagged ++
      (Reader.emission? outcome s).toList.map (index, ·) := by
  simp only [tagged, looked, List.filterMap_append]
  cases Reader.emission? outcome s <;> rfl

/-- How many acknowledgments the finalizations counted. -/
def acknowledged (course : Course α) : Nat :=
  (course.finalizations.filterMap (·.value?)).sum

end Course

end Crew

/-! ## What only grows -/

/-- What was accepted stays the first part of what is accepted. -/
theorem Broker.published_prefix (broker : Broker) (operations : List (Int64 × Operation))
    (destination : Destination) :
    broker.published destination <+: (broker.operateAll operations).published destination := by
  obtain ⟨new, hnew, -, -⟩ := (broker.spares_operateAll operations).accepted
  have haccepted : (broker.operateAll operations).accepted = broker.accepted ++ new := hnew
  rw [published, published, haccepted, List.filter_append, List.map_append]
  exact List.prefix_append _ _

namespace Shared

variable {lasts : Message → Bool} {first second third : Shared}

/-- Requests and what others do only add to what was asked and to what was accepted. -/
structure Grows (first second : Shared) : Prop where
  log : first.log <+: second.log
  accepted : ∀ destination, first.broker.published destination <+:
    second.broker.published destination

theorem Grows.refl (shared : Shared) : shared.Grows shared :=
  ⟨List.prefix_rfl, fun _ => List.prefix_rfl⟩

theorem Grows.trans (h : first.Grows second) (h' : second.Grows third) : first.Grows third :=
  ⟨h.log.trans h'.log, fun destination => (h.accepted destination).trans (h'.accepted destination)⟩

/-- Messages that settle later settle before. -/
theorem Settles.of_grows (h : second.Settles schedule name lasts) (hgrows : first.Grows second) :
    first.Settles schedule name lasts where
  distinct := h.distinct.sublist ((hgrows.accepted _).sublist.map _)
  lasting := by
    intro number exchange hexchange
    obtain ⟨hlt, rfl⟩ := List.getElem?_eq_some_iff.1 hexchange
    exact h.lasting number _ (List.prefix_iff_getElem?.1 hgrows.log number hlt)

/-- Others ask for nothing here. -/
theorem grows_others (shared : Shared) (entries : List (Int64 × Operation)) :
    shared.Grows (shared.others entries) := by
  refine ⟨(shared.log_others entries).symm ▸ List.prefix_rfl, fun destination => ?_⟩
  obtain ⟨operations, hoperations⟩ := shared.exists_operateAll_others entries
  rw [hoperations]
  exact shared.broker.published_prefix operations destination

/-- A request is added to those before it. -/
theorem grows_answer (request : Request) (shared : Shared) :
    shared.Grows (answer schedule request shared).2 := by
  refine ⟨?_, fun destination => ?_⟩
  · change _ <+: (shared.others _).log ++ [_]
    rw [log_others]
    exact List.prefix_append _ _
  · obtain ⟨operations, hoperations⟩ := shared.exists_operateAll_answer schedule request
    rw [hoperations]
    exact shared.broker.published_prefix operations destination

/-- Along requests everything grows. -/
theorem grows_of_steps {allowed : Request → Prop}
    (h : (endpoint schedule).Steps allowed first second) : first.Grows second := by
  induction h with
  | refl => exact .refl _
  | @tail middle last _ hstep ih =>
    refine ih.trans ?_
    cases hstep with
    | answer request hallowed => exact grows_answer request middle
    | sleep milliseconds => exact .refl _

end Shared

namespace Crew

namespace Course

variable {course : Course α} {reader : Reader α}

/-- What is known only grows when a reader looks for its next message. -/
theorem grows_look (course : Course α) (index : Nat) {call : Call (Reader α) Shared Bool}
    {allowed : Request → Prop}
    (hcall : ∀ s, (Shared.endpoint schedule).Steps allowed s.env (call s).2.env) :
    course.scene.env.Grows (course.look index call).scene.env := by
  unfold look
  split
  · exact .refl _
  · rename_i reader _
    exact Shared.grows_of_steps (hcall (course.seenBy reader))

/-- What is known only grows with every move. -/
theorem grows_move (schedule : Schedule) (course : Course α) (move : Move) :
    course.scene.env.Grows (course.move schedule move).scene.env := by
  cases move with
  | start index => exact course.grows_look index (Reader.Use.start.steps _)
  | advance index => exact course.grows_look index (Reader.Use.advance.steps _)
  | finalize index =>
    simp only [Course.move, Course.finalize]
    split
    · exact .refl _
    · rename_i reader _
      exact Shared.grows_of_steps
        (Reader.Use.finalize.steps (Shared.endpoint schedule) (course.seenBy reader))
  | publish now destination message => exact course.scene.env.grows_others _

/-- None of the readers is closed. -/
def IsOpen (course : Course α) : Prop :=
  ∀ reader ∈ course.scene.client, reader.state ≠ .closed

/-- A reader that is closed stays closed, so where none is closed later, none is before. -/
theorem IsOpen.of_returned {index : Nat} {s : Scene (Reader α) Shared}
    (h : ∀ reader ∈ (course.returned index s).client, reader.state ≠ .closed)
    (hreader : course.scene.client[index]? = some reader)
    (hstays : reader.state = .closed → s.client.state = .closed) : course.IsOpen := by
  intro other hother hclosed
  obtain ⟨position, hposition⟩ := List.getElem?_of_mem hother
  by_cases he : index = position
  · subst he
    obtain rfl := Option.some.inj (hreader.symm.trans hposition)
    have hlt := (List.getElem?_eq_some_iff.1 hreader).1
    exact h s.client (List.mem_of_getElem? (List.getElem?_set_self hlt)) (hstays hclosed)
  · exact h other (List.mem_of_getElem? ((List.getElem?_set_ne he).trans hposition)) hclosed

/-- Where no reader is closed after one looked for its next message, none was before. -/
theorem IsOpen.of_look {index : Nat} {call : Call (Reader α) Shared Bool}
    (h : (course.look index call).IsOpen)
    (hstays : ∀ s : Scene (Reader α) Shared, s.client.state = .closed →
      (call s).2.client.state = .closed) : course.IsOpen := by
  unfold look at h
  split at h
  · exact h
  · rename_i reader hreader
    exact of_returned h hreader (hstays (course.seenBy reader))

/-- Where no reader is closed after a move, none was before. -/
theorem IsOpen.of_move {move : Move} (h : (course.move schedule move).IsOpen) :
    course.IsOpen := by
  cases move with
  | start index =>
    refine of_look h fun s hclosed => ?_
    rw [Reader.start_of_ne_uninitialized _ (by simp [hclosed])]
    exact hclosed
  | advance index =>
    refine of_look h fun s hclosed => ?_
    have hidle : s.client.isAtWork = false := by simp [Reader.isAtWork, hclosed]
    obtain ⟨error, record, timestamp, hadvance⟩ := Reader.advance_of_not_isAtWork
      (Shared.endpoint schedule) hidle
    rw [hadvance]
    exact hclosed
  | finalize index =>
    simp only [Course.move, Course.finalize] at h
    split at h
    · exact h
    · rename_i reader hreader
      exact of_returned h hreader id
  | publish => exact h

/-! ## The books of a run -/

/-- A message that a reader took is what it emitted. -/
def Emits (config : ReadConfig α) (taken : Nat × Message) (emitted : Nat × Emission α) : Prop :=
  taken.1 = emitted.1 ∧ Emission.Maps config taken.2 emitted.2

/-- What belongs to each reader is what it emitted. -/
theorem own_emits {taken : List (Nat × Message)} {tagged : List (Nat × Emission α)}
    (h : List.Forall₂ (Emits config) taken tagged) (index : Nat) :
    List.Forall₂ (Emission.Maps config) (own index taken) (own index tagged) := by
  induction h with
  | nil => exact .nil
  | @cons first second _ _ hfirst _ ih =>
    by_cases he : first.1 = index
    · simpa [own, he, ← hfirst.1] using List.Forall₂.cons hfirst.2 ih
    · simpa [own, he, ← hfirst.1] using ih

/-- A course whose readers keep their books. -/
structure Accounts (lasts : Message → Bool) (name : String) (config : ReadConfig α) (pool : Pool)
    (course : Course α) : Prop where
  env : pool.env = course.scene.env
  even : pool.Even lasts name
  stands : ∀ index reader, course.scene.client[index]? = some reader →
    pool.Stands config index reader
  vacant : ∀ index, course.scene.client[index]? = none → pool.pending index = []
  emitted : List.Forall₂ (Emits config) pool.taken course.tagged
  /-- Whenever a reader found nothing, everything that had been accepted was gone. -/
  nothing : ∀ look ∈ course.looks, look.outcome = .done false → look.accepted <+: pool.gone
  finalized : ∀ outcome ∈ course.finalizations, outcome.isDone = true
  counted : course.acknowledged = pool.paid.length

namespace Accounts

variable {after : Pool} {s : Scene (Reader α) Shared}

/-- When one reader returned from a call, the others are where they were. -/
theorem stands_returned (h : Accounts lasts name config pool course)
    (hreader : course.scene.client[index]? = some reader)
    (hown : after.Stands config index s.client)
    (hothers : ∀ other, other ≠ index →
      after.seats other = pool.seats other ∧ after.pending other = pool.pending other)
    (other : Nat) (found : Reader α)
    (hfound : (course.returned index s).client[other]? = some found) :
    after.Stands config other found := by
  by_cases he : index = other
  · subst he
    have hlt := (List.getElem?_eq_some_iff.1 hreader).1
    obtain rfl := Option.some.inj ((List.getElem?_set_self hlt).symm.trans hfound)
    exact hown
  · obtain ⟨hseats, hpending⟩ := hothers other (Ne.symm he)
    have hbefore := h.stands other found ((List.getElem?_set_ne he).symm.trans hfound)
    exact hbefore.of_eq hseats hpending

/-- When one reader returned from a call, nothing waits for readers that there are not. -/
theorem vacant_returned (h : Accounts lasts name config pool course)
    (hreader : course.scene.client[index]? = some reader)
    (hothers : ∀ other, other ≠ index → after.pending other = pool.pending other)
    (other : Nat) (hnone : (course.returned index s).client[other]? = none) :
    after.pending other = [] := by
  have hlt := (List.getElem?_eq_some_iff.1 hreader).1
  have hle : course.scene.client.length ≤ other := by
    simpa [returned] using hnone
  rw [hothers other (by omega)]
  exact h.vacant other (List.getElem?_eq_none_iff.2 hle)

/-- A reader that looked for its next message is in the books again. -/
theorem look (h : Accounts lasts name config pool course)
    (hqueue : config.destination = .queue name) {call : Call (Reader α) Shared Bool}
    (hcall : ∀ reader, course.scene.client[index]? = some reader →
      (call (course.seenBy reader)).2.client.state = .closed ∨
        pool.Looks schedule lasts name config index (call (course.seenBy reader)).1
          (call (course.seenBy reader)).2)
    (hopen : (course.look index call).IsOpen)
    (hsettles : (course.look index call).scene.env.Settles schedule name lasts) :
    ∃ after, Accounts lasts name config after (course.look index call) := by
  cases hreader : course.scene.client[index]? with
  | none =>
    rw [Course.look, hreader]
    exact ⟨pool, h⟩
  | some reader =>
    have hcalled := hcall reader hreader
    simp only [Course.look, hreader] at hopen hsettles ⊢
    generalize call (course.seenBy reader) = result at hopen hsettles hcalled ⊢
    obtain ⟨outcome, s⟩ := result
    have hlt := (List.getElem?_eq_some_iff.1 hreader).1
    have hnot : s.client.state ≠ .closed :=
      hopen s.client (List.mem_of_getElem? (List.getElem?_set_self hlt))
    obtain ⟨after, hafter⟩ := hcalled.resolve_left hnot hsettles
    refine ⟨after, hafter.env, hafter.even, h.stands_returned hreader hafter.stands hafter.others,
      h.vacant_returned hreader fun other hother => (hafter.others other hother).2, ?_, ?_,
      h.finalized, h.counted.trans (by rw [hafter.paid])⟩
    · obtain ⟨new, hnew, hmaps⟩ := hafter.taken
      rw [hnew, tagged_looked]
      refine List.rel_append h.emitted ?_
      exact List.forall₂_map_left_iff.2 (List.forall₂_map_right_iff.2
        (hmaps.imp fun _ _ hmap => ⟨rfl, hmap⟩))
    · intro look hlook hnothing
      rcases List.mem_append.1 hlook with hlook | hlook
      · exact (h.nothing look hlook hnothing).trans hafter.gone
      · obtain rfl := List.mem_singleton.1 hlook
        have hempty := hafter.nothing hnothing
        have haccepted := hafter.even.queue
        rw [hafter.env, hempty, List.append_nil] at haccepted
        change s.env.broker.published reader.config.destination <+: after.gone
        rw [(h.stands index reader hreader).config, hqueue]
        exact haccepted ▸ List.prefix_rfl

/-- A reader that is finalized acknowledges what waits for it, and nothing else changes. -/
theorem finalize (h : Accounts lasts name config pool course) (hcalm : schedule.Publishes)
    (hflawless : schedule.NeverFails) (index : Nat) :
    ∃ env, Accounts lasts name config (pool.settle index env)
      (course.move schedule (.finalize index)) := by
  cases hreader : course.scene.client[index]? with
  | none =>
    refine ⟨pool.env, ?_⟩
    rw [Pool.settle_of_nil (h.vacant index hreader), Course.move, Course.finalize, hreader]
    exact h
  | some reader =>
    have henv : pool.env = (course.seenBy reader).env := h.env
    have hfinalized := ensures_finalize hcalm hflawless h.even henv
      (h.stands index reader hreader)
    simp only [Course.move, Course.finalize, hreader]
    rcases hfinalized.outcome with ⟨count, hdone, rfl, heven, hstands⟩ | ⟨error, -, hfalse⟩
    · generalize Reader.finalize (Shared.endpoint schedule) (course.seenBy reader) = result
        at hdone heven hstands ⊢
      obtain ⟨outcome, s⟩ := result
      obtain rfl : outcome = .done _ := hdone
      refine ⟨s.env, rfl, heven, ?_, ?_, h.emitted, h.nothing, ?_, ?_⟩
      · exact h.stands_returned hreader hstands fun other hother =>
          ⟨rfl, Function.update_of_ne hother _ _⟩
      · exact h.vacant_returned hreader fun other hother => Function.update_of_ne hother _ _
      · intro outcome houtcome
        rcases List.mem_append.1 houtcome with hbefore | hlast
        · exact h.finalized outcome hbefore
        · rw [List.mem_singleton.1 hlast]
          rfl
      · have hcounted := h.counted
        simp only [acknowledged, Pool.settle, List.filterMap_append, List.sum_append,
          List.length_append, List.length_map] at hcounted ⊢
        simp [hcounted]
    · exact hfalse.elim

/-- What another client publishes waits for the readers. -/
theorem publish (h : Accounts lasts name config pool course) (now : Int64)
    (destination : Destination) (message : Message) :
    ∃ after, Accounts lasts name config after
      (course.move schedule (.publish now destination message)) := by
  have hproceeds : pool.env.Proceeds
      (course.scene.env.others [(now, .publish destination message)]) := by
    rw [h.env]
    exact Shared.proceeds_others (by simp)
  exact ⟨_, rfl, h.even.proceeds hproceeds,
    fun index reader hreader => (h.stands index reader hreader).of_eq rfl rfl, h.vacant, h.emitted,
    h.nothing, h.finalized, h.counted⟩

/-- Whatever is done, readers keep their books, as long as none of them is closed. -/
theorem move (h : Accounts lasts name config pool course) (hcalm : schedule.Publishes)
    (hflawless : schedule.NeverFails)
    (htotal : ∀ message, ∃ value, config.mapper message = .ok value)
    (hqueue : config.destination = .queue name) (move : Move)
    (hopen : (course.move schedule move).IsOpen)
    (hsettles : (course.move schedule move).scene.env.Settles schedule name lasts) :
    ∃ after, Accounts lasts name config after (course.move schedule move) := by
  cases move with
  | start index =>
    refine h.look hqueue (fun reader hreader => ?_) hopen hsettles
    have henv : pool.env = (course.seenBy reader).env := h.env
    have hstart := ensures_start hcalm htotal hqueue h.even henv (h.stands index reader hreader)
    rcases hstart.outcome with ⟨found, hdone, hlooks⟩ | ⟨error, hfailed, hclosed | hlooks⟩
    · exact .inr (hdone ▸ hlooks)
    · exact .inl hclosed
    · exact .inr (hfailed ▸ hlooks)
  | advance index =>
    refine h.look hqueue (fun reader hreader => .inr ?_) hopen hsettles
    have henv : pool.env = (course.seenBy reader).env := h.env
    have hadvance := ensures_advance hcalm htotal h.even henv (h.stands index reader hreader)
    rcases hadvance.outcome with ⟨found, hdone, hlooks⟩ | ⟨error, hfailed, hlooks⟩
    · exact hdone ▸ hlooks
    · exact hfailed ▸ hlooks
  | finalize index =>
    obtain ⟨env, hafter⟩ := h.finalize hcalm hflawless index
    exact ⟨_, hafter⟩
  | publish now destination message => exact h.publish now destination message

end Accounts

/-- Readers begin with empty books. -/
theorem accounts_opening (lasts : Message → Bool) (name : String) (source : Source α)
    (desired : UInt64) (journal : Journal) (credentials : Option Credentials) :
    Accounts lasts name source.config
      ⟨fun _ => none, fun _ => [], [], [], [], { broker := { credentials := credentials } }⟩
      (opening source desired journal credentials) where
  env := rfl
  even := {
    sound := Broker.sound_after credentials []
    seated := by simp
    apart := by simp
    queue := rfl
    taken := rfl
    nodup := List.nodup_nil
    paid := rfl
    settled := fun _ => rfl }
  stands := by
    intro index reader hreader
    obtain ⟨split, hsplit, rfl⟩ := List.mem_map.1 (List.mem_of_getElem? hreader)
    obtain ⟨position, -, rfl⟩ := List.mem_map.1 hsplit
    exact ⟨rfl, rfl, rfl, .waiting rfl rfl rfl⟩
  vacant := fun _ _ => rfl
  emitted := .nil
  nothing := by simp [opening]
  finalized := by simp [opening]
  counted := rfl

/-- Readers keep their books through every run in which none of them is closed. -/
theorem exists_accounts_run {source : Source α} (hqueue : source.config.destination = .queue name)
    (htotal : ∀ message, ∃ value, source.config.mapper message = .ok value) (desired : UInt64)
    (journal : Journal) (credentials : Option Credentials) (hcalm : schedule.Publishes)
    (hflawless : schedule.NeverFails) (moves : List Move)
    (hopen : ((opening source desired journal credentials).run schedule moves).IsOpen)
    (hsettles : ((opening source desired journal credentials).run schedule moves).scene.env.Settles
      schedule name lasts) :
    ∃ pool, Accounts lasts name source.config pool
      ((opening source desired journal credentials).run schedule moves) := by
  -- From the right, as what is assumed of the end of a run holds before its last move too.
  induction moves using List.reverseRecOn with
  | nil => exact ⟨_, accounts_opening lasts name source desired journal credentials⟩
  | append_singleton moves last ih =>
    have hrun : (opening source desired journal credentials).run schedule (moves ++ [last]) =
        ((opening source desired journal credentials).run schedule moves).move schedule last :=
      List.foldl_append
    rw [hrun] at hopen hsettles ⊢
    obtain ⟨pool, hpool⟩ := ih hopen.of_move
      (hsettles.of_grows (grows_move schedule _ last))
    exact hpool.move hcalm hflawless htotal hqueue last hopen hsettles

/-- Finalizing readers in any order leaves nothing to those that are finalized. -/
theorem Accounts.run_finalize (h : Accounts lasts name config pool course)
    (hcalm : schedule.Publishes) (hflawless : schedule.NeverFails) (order : List Nat) :
    ∃ after, Accounts lasts name config after (course.run schedule (order.map .finalize)) ∧
      after.taken = pool.taken ∧
        ∀ index, index ∈ order ∨ pool.pending index = [] → after.pending index = [] := by
  induction order generalizing pool course with
  | nil => exact ⟨pool, h, rfl, by simp⟩
  | cons first rest ih =>
    obtain ⟨env, hfirst⟩ := h.finalize hcalm hflawless first
    obtain ⟨after, hafter, htaken, hpending⟩ := ih hfirst
    refine ⟨after, hafter, htaken, fun index hindex => hpending index ?_⟩
    change index ∈ rest ∨ Function.update pool.pending first [] index = []
    by_cases he : index = first
    · exact .inr (he ▸ Function.update_self _ _ _)
    · rw [Function.update_of_ne he]
      exact hindex.imp_left fun hmem => (List.mem_cons.1 hmem).resolve_left he

/-! ## What readers share -/

/-- Readers share a queue. -/
structure Shares (lasts : Message → Bool) (name : String) (config : ReadConfig α)
    (course : Course α) : Prop where
  /-- No message is emitted twice, by one reader or by two. -/
  once : (course.emissions.map (·.id)).Nodup
  /-- Each reader emits messages that are not expired, in the order in which they were accepted. -/
  ordered : ∀ index, ∃ messages, messages.Sublist
    ((course.broker.published (.queue name)).filter lasts) ∧
      List.Forall₂ (Emission.Maps config) messages (course.emittedBy index)
  /-- If a reader found nothing and nothing was accepted since, every message that is not expired
  was emitted by exactly one reader, and the queue is empty. -/
  complete : ∀ look ∈ course.looks, look.outcome = .done false →
    look.accepted = course.broker.published (.queue name) →
      course.broker.queue name = [] ∧
        ∀ message ∈ course.broker.published (.queue name), lasts message = true →
          ∃! index, ∃ emission ∈ course.emittedBy index, message.id = some emission.id

/-- Where nothing is emitted twice, an identifier tells the reader that emitted it. -/
theorem reader_unique (course : Course α) (honce : (course.emissions.map (·.id)).Nodup)
    {first second : Nat} {emission another : Emission α}
    (hfirst : emission ∈ course.emittedBy first) (hsecond : another ∈ course.emittedBy second)
    (hid : emission.id = another.id) : first = second := by
  rw [emissions, List.map_map] at honce
  have hentry := List.inj_on_of_nodup_map honce (mem_own.1 hfirst) (mem_own.1 hsecond) hid
  exact congrArg Prod.fst hentry

/-- Readers acknowledged what they emitted: no finalization failed, each message was acknowledged
exactly once, and the finalizations counted as many. -/
structure Settled (emissions : List (Emission α)) (course : Course α) : Prop where
  done : ∀ outcome ∈ course.finalizations, outcome.isDone = true
  once : ∀ emission ∈ emissions, course.broker.acknowledgmentCount emission.id = 1
  total : course.acknowledged = emissions.length

namespace Accounts

/-- The messages that readers took are those that they emitted. -/
theorem map_id_taken (h : Accounts lasts name config pool course) :
    pool.taken.map (·.2.id) = (course.emissions.map (·.id)).map some := by
  have hmaps : List.Forall₂ (Emission.Maps config) (pool.taken.map (·.2)) course.emissions :=
    List.forall₂_map_left_iff.2 (List.forall₂_map_right_iff.2
      (h.emitted.imp fun _ _ hemits => hemits.2))
  simpa [Function.comp_def] using Emission.map_id_of_maps hmaps

/-- A message that a reader took it emitted. -/
theorem exists_emission (h : Accounts lasts name config pool course) {message : Message}
    (hmem : (index, message) ∈ pool.taken) :
    ∃ emission ∈ course.emittedBy index, message.id = some emission.id := by
  have hid : message.id ∈ (own index pool.taken).map (·.id) :=
    List.mem_map_of_mem (mem_own.2 hmem)
  rw [Emission.map_id_of_maps (own_emits h.emitted index)] at hid
  obtain ⟨emission, hemission, hsame⟩ := List.mem_map.1 hid
  exact ⟨emission, hemission, hsame.symm⟩

/-- The books of readers show that they share the queue. -/
theorem shares (h : Accounts lasts name config pool course) :
    Shares lasts name config course := by
  have hbroker : pool.env.broker = course.broker := congrArg Shared.broker h.env
  have hpublished := h.even.queue
  rw [hbroker] at hpublished
  have honce : (course.emissions.map (·.id)).Nodup := by
    refine List.Nodup.of_map some ?_
    rw [← h.map_id_taken]
    exact h.even.nodup
  refine ⟨honce, fun index => ⟨own index pool.taken, ?_, own_emits h.emitted index⟩, ?_⟩
  · refine (own_sublist index pool.taken).trans ?_
    rw [h.even.taken, hpublished]
    exact (List.sublist_append_left _ _).filter _
  · -- Everything had left the queue when the reader found nothing, and nothing was accepted since.
    intro look hlook hnothing haccepted
    have hgone := (h.nothing look hlook hnothing).length_le
    have hlength := congrArg List.length hpublished
    rw [haccepted] at hgone
    rw [List.length_append] at hlength
    have hempty : course.broker.queue name = [] := List.eq_nil_of_length_eq_zero (by omega)
    refine ⟨hempty, fun message hmessage hlive => ?_⟩
    rw [hpublished, hempty, List.append_nil] at hmessage
    have htaken : message ∈ pool.taken.map (·.2) := by
      rw [h.even.taken]
      exact List.mem_filter.2 ⟨hmessage, hlive⟩
    obtain ⟨⟨index, _⟩, hentry, rfl⟩ := List.mem_map.1 htaken
    obtain ⟨emission, hemission, hid⟩ := h.exists_emission hentry
    refine ⟨index, ⟨emission, hemission, hid⟩, ?_⟩
    rintro other ⟨another, hanother, hid'⟩
    exact course.reader_unique honce hanother hemission (Option.some.inj (hid'.symm.trans hid))

/-- Once nothing waits for its acknowledgment, readers acknowledged what they took. -/
theorem settled (h : Accounts lasts name config pool course)
    (hpending : ∀ index, pool.pending index = []) {emissions : List (Emission α)}
    (hids : pool.taken.map (·.2.id) = (emissions.map (·.id)).map some) :
    Settled emissions course := by
  have hbroker : pool.env.broker = course.broker := congrArg Shared.broker h.env
  have hperm : course.broker.acknowledged.Perm (emissions.map (·.id)) := by
    rw [← List.map_perm_map_iff (fun _ _ => Option.some.inj), ← hids, ← hbroker]
    exact h.even.perm_of_pending hpending
  have hnodup : (emissions.map (·.id)).Nodup := by
    refine List.Nodup.of_map some ?_
    rw [← hids]
    exact h.even.nodup
  refine ⟨h.finalized, fun emission hemission => ?_, ?_⟩
  · rw [Broker.acknowledgmentCount, hperm.count_eq]
    exact List.count_eq_one_of_mem hnodup (List.mem_map_of_mem hemission)
  · have hpaid := congrArg List.length h.even.paid
    rw [List.length_map, hbroker, hperm.length_eq, List.length_map] at hpaid
    exact h.counted.trans hpaid

end Accounts

/-- The readers of the splits of a queue share its messages, without loss and without duplicates.
Whatever is published, before the first call or later, and in whatever order the readers are
started, advanced and finalized, each emits in the order of the queue and none what was emitted
before. Nothing is left once one of them finds nothing, until more is published. When every reader
was finalized then, in any order, each emission was acknowledged exactly once, and the counts that
all finalizations returned add up to the number of emissions. -/
theorem splits_share_messages {source : Source α}
    (hqueue : source.config.destination = .queue name)
    (htotal : ∀ message, ∃ value, source.config.mapper message = .ok value) (desired : UInt64)
    (journal : Journal) (credentials : Option Credentials) (hcalm : schedule.Publishes)
    (hflawless : schedule.NeverFails) (moves : List Move) {course : Course α}
    (hcourse : (opening source desired journal credentials).run schedule moves = course)
    (hopen : course.IsOpen) (hsettles : course.scene.env.Settles schedule name lasts) :
    course.Shares lasts name source.config ∧
      ∀ order : List Nat, (∀ index < course.scene.client.length, index ∈ order) →
        (course.run schedule (order.map .finalize)).Settled course.emissions := by
  subst hcourse
  obtain ⟨pool, hpool⟩ := exists_accounts_run hqueue htotal desired journal credentials hcalm
    hflawless moves hopen hsettles
  refine ⟨hpool.shares, fun order hall => ?_⟩
  obtain ⟨after, hafter, htaken, hpending⟩ := hpool.run_finalize hcalm hflawless order
  refine hafter.settled (fun index => hpending index ?_) (htaken ▸ hpool.map_id_taken)
  rcases Nat.lt_or_ge index
    ((opening source desired journal credentials).run schedule moves).scene.client.length with
    hlt | hge
  · exact .inl (hall index hlt)
  · exact .inr (hpool.vacant index (List.getElem?_eq_none_iff.2 hge))

/-- Time passes, and another client publishes once while a reader is being started. -/
def passingSchedule : Schedule := fun number =>
  { others := if number = 19 then Reader.publishing "orders" ["E"] else []
    now := 10 + Int64.ofNat number }

/-- Another client publishes an order under a name of its own. -/
def publishOrder (name : String) (expiration : Int64) : Move :=
  .publish 9 (.queue "orders")
    { Message.ofText name with id := some ⟨name⟩, expiration := expiration }

/-- Whether a message has no moment from which on it is expired. -/
def neverExpires (message : Message) : Bool :=
  message.expiration = 0

/-- Three readers share the orders. One is finalized in between, and one advances before it is
started. Two orders are expired when they are published. -/
def sharedCourse : Course String :=
  (opening ⟨Reader.textsOf "orders", 0⟩ 3 {} none).run passingSchedule
    [publishOrder "A" 0, publishOrder "B" 5, publishOrder "C" 0, .start 0, .advance 1, .start 1,
      .finalize 0, publishOrder "D" 12, .start 2, .advance 0, .advance 1, .advance 2]

/-- Each of the readers emits one order, and finds no more. -/
theorem splits_share_messages_sharedCourse :
    sharedCourse.tagged.map (fun entry => (entry.1, entry.2.record.value)) =
        [(0, "A"), (1, "C"), (2, "E")] ∧
      (∃ look ∈ sharedCourse.looks, look.outcome = .done false ∧
        look.accepted = sharedCourse.broker.published (.queue "orders")) ∧
      sharedCourse.Shares neverExpires "orders" (Reader.textsOf "orders") ∧
      (sharedCourse.run passingSchedule ([2, 0, 1].map .finalize)).Settled
        sharedCourse.emissions := by
  have hcalm : passingSchedule.Publishes := by
    intro number entry hentry
    simp only [passingSchedule] at hentry
    split at hentry
    · obtain rfl := List.mem_singleton.1 hentry
      exact ⟨_, _, rfl⟩
    · cases hentry
  have hopen : sharedCourse.IsOpen := by
    unfold IsOpen
    decide +kernel
  have hfound : (sharedCourse.scene.env.log.zipIdx.all fun entry =>
      (entry.1.before.published (.queue "orders")).all fun message =>
        message.isExpired (passingSchedule entry.2).now = !neverExpires message) = true := by
    decide +kernel
  have hsettles : sharedCourse.scene.env.Settles passingSchedule "orders" neverExpires := by
    refine ⟨by decide +kernel, fun number exchange hexchange message hmessage => ?_⟩
    have hentry : (exchange, number) ∈ sharedCourse.scene.env.log.zipIdx :=
      List.mem_zipIdx_iff_getElem?.2 hexchange
    simpa using List.all_eq_true.1 (List.all_eq_true.1 hfound _ hentry) message hmessage
  have hall : ∀ index < sharedCourse.scene.client.length, index ∈ [2, 0, 1] := by decide +kernel
  have hqueue : (⟨Reader.textsOf "orders", 0⟩ : Source String).config.destination =
      .queue "orders" := rfl
  obtain ⟨hshares, hfinalize⟩ := splits_share_messages hqueue (fun _ => ⟨_, rfl⟩) 3 {} none hcalm
    (fun _ _ => rfl) _ rfl hopen hsettles
  exact ⟨by decide +kernel, by decide +kernel, hshares, hfinalize [2, 0, 1] hall⟩

end Course

end Crew

end BrokerConnector
