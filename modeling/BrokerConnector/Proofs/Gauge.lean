import BrokerConnector.Mark.Codec
import BrokerConnector.Proofs.Receipts
import Mathlib.Data.List.Basic

/-!
# The gauge of pending acknowledgments

One metric counts the messages that wait for their acknowledgment in all marks of a process. It is
moved by many hands: a mark adds to it entry by entry, and takes from it when it is attached to a
fresh session, detached from a session that is gone, finalized or dropped. Each of them moves the
gauge by as much as it moves the count that the mark keeps of its own entries
(`Change.gauge_apply`), so the gauge is the sum of these counts whatever becomes of the marks
(`Process.Exact`).

Whatever a reader does to its mark is a list of three changes: an entry is added, the mark is
attached to a session, or it is detached from it. `Scene.Affects` says so of a call, abandoned calls
included. A finalization is no such change, because how many entries it removes depends on the
broker.
-/

namespace BrokerConnector

open BrokerConnector.Action

/-- The number of messages that wait for their acknowledgment. -/
def Journal.gauge (journal : Journal) : Int :=
  journal.value .pendingAcknowledgments

namespace Mark

/-! ## What changes the count of a mark -/

/-- What a reader does to its mark. -/
inductive Change where
  /-- A consumed message is listed. -/
  | add (id : MessageId) (timestamp : Int64)
  /-- A fresh session is opened. -/
  | attach (session : SessionHandle)
  /-- The session is gone. -/
  | release
  deriving DecidableEq

/-- Whether a change lists a message. -/
def Change.isAdd : Change → Bool
  | add _ _ => true
  | _ => false

/-- A mark and the journal after a change. -/
def Change.apply (mark : Mark) (journal : Journal) : Change → Mark × Journal
  | add id timestamp => mark.add id timestamp journal
  | attach session => mark.attach session journal
  | release => mark.detach journal

/-- A mark and the journal after changes in order. -/
def applyAll (mark : Mark) (journal : Journal) : List Change → Mark × Journal
  | [] => (mark, journal)
  | change :: rest => applyAll (change.apply mark journal).1 (change.apply mark journal).2 rest

/-- A mark counts no more entries than it has, and all of them while it is attached. -/
structure Tallied (mark : Mark) : Prop where
  bounded : mark.tracked ≤ mark.pending.length
  attached : mark.isAttached = true → mark.tracked = mark.pending.length

/-- A mark that counts nothing counts its entries unless it is attached and has some. -/
theorem tallied_of_uncounted {mark : Mark} (hnone : mark.tracked = 0)
    (hempty : mark.isAttached = true → mark.pending = []) : mark.Tallied where
  bounded := hnone ▸ Nat.zero_le _
  attached hattached := by
    rw [hnone, hempty hattached]
    rfl

/-- A mark counts less when entries are removed. -/
theorem untrack_fst (mark : Mark) (removed : Nat) (journal : Journal) :
    (mark.untrack removed journal).1 =
      { mark with tracked := mark.tracked - min removed mark.tracked } := by
  unfold untrack
  dsimp only
  split
  · rename_i hnone
    rw [hnone, Nat.sub_zero]
  · rfl

/-- The gauge sinks by as much as a mark counts less. -/
theorem gauge_untrack (mark : Mark) (removed : Nat) (journal : Journal) :
    (mark.untrack removed journal).2.gauge = journal.gauge - (min removed mark.tracked : Nat) := by
  unfold untrack Journal.gauge
  dsimp only
  split
  · rename_i hnone
    rw [hnone]
    simp
  · rw [Journal.value_change_self]
    omega

namespace Change

/-- What becomes of a mark does not depend on the journal. -/
theorem apply_fst (change : Change) (mark : Mark) (journal other : Journal) :
    (change.apply mark journal).1 = (change.apply mark other).1 := by
  cases change <;> simp only [apply, Mark.add, Mark.attach, detach, untrack_fst]

/-- The gauge moves by as much as the count of the mark. -/
theorem gauge_apply (change : Change) (mark : Mark) (journal : Journal) :
    (change.apply mark journal).2.gauge =
      journal.gauge + ((change.apply mark journal).1.tracked - mark.tracked) := by
  cases change with
  | add id timestamp =>
    simp only [apply, Mark.add, Journal.gauge, Journal.value_change_self]
    omega
  | attach session =>
    simp only [apply, Mark.attach, gauge_untrack, untrack_fst]
    omega
  | release =>
    simp only [apply, detach, gauge_untrack, untrack_fst]
    omega

/-- A change leaves a mark that counts its entries. -/
theorem tallied_apply (change : Change) {mark : Mark} (h : mark.Tallied) (journal : Journal) :
    (change.apply mark journal).1.Tallied := by
  have hbounded := h.bounded
  cases change with
  | add id timestamp =>
    refine ⟨?_, fun hattached => ?_⟩
    · simpa [apply, Mark.add] using hbounded
    · have hall := h.attached hattached
      simpa [apply, Mark.add] using hall
  | attach session =>
    refine tallied_of_uncounted ?_ fun _ => ?_
    · simp only [apply, Mark.attach, untrack_fst]
      omega
    · simp only [apply, Mark.attach, untrack_fst]
  | release =>
    refine tallied_of_uncounted ?_ fun hattached => ?_
    · simp only [apply, detach, untrack_fst]
      omega
    · simp [apply, detach, isAttached] at hattached

/-- Only an added entry makes a mark count that counted nothing. -/
theorem tracked_apply_eq_zero {change : Change} {mark : Mark} (journal : Journal)
    (h : change = .release ∨ change.isAdd = false ∧ mark.tracked = 0) :
    (change.apply mark journal).1.tracked = 0 := by
  rcases h with rfl | ⟨hadd, hnone⟩
  · simp only [apply, detach, untrack_fst]
    omega
  · cases change with
    | add id timestamp => cases hadd
    | attach session => simp only [apply, Mark.attach, untrack_fst, hnone, Nat.zero_sub]
    | release => simp only [apply, detach, untrack_fst, hnone, Nat.zero_sub]

end Change

theorem applyAll_append (mark : Mark) (journal : Journal) (first second : List Change) :
    mark.applyAll journal (first ++ second) =
      (mark.applyAll journal first).1.applyAll (mark.applyAll journal first).2 second := by
  induction first generalizing mark journal with
  | nil => rfl
  | cons change rest ih => exact ih _ _

/-- What becomes of a mark in changes does not depend on the journal, and the gauge moves alike. -/
theorem applyAll_of_gauge_eq (changes : List Change) (mark : Mark) {journal other : Journal}
    (h : journal.gauge = other.gauge) :
    (mark.applyAll journal changes).1 = (mark.applyAll other changes).1 ∧
      (mark.applyAll journal changes).2.gauge = (mark.applyAll other changes).2.gauge := by
  induction changes generalizing mark journal other with
  | nil => exact ⟨rfl, h⟩
  | cons change rest ih =>
    have hmark := change.apply_fst mark journal other
    have hgauge : (change.apply mark journal).2.gauge = (change.apply mark other).2.gauge := by
      rw [change.gauge_apply, change.gauge_apply, h, hmark]
    rw [applyAll, applyAll, hmark]
    exact ih _ hgauge

end Mark

/-! ## What calls do to a mark -/

namespace Scene

variable {ρ ρ' σ ε ε' α β : Type} {part : ρ → Mark} {allowed : Mark.Change → Prop}

/-- From one scene to another, a mark underwent changes, and nothing else moved the gauge. -/
structure Undergoes (part : ρ → Mark) (changes : List Mark.Change) (before after : Scene ρ σ) :
    Prop where
  mark : part after.client = ((part before.client).applyAll before.journal changes).1
  gauge : after.journal.gauge = ((part before.client).applyAll before.journal changes).2.gauge

/-- A mark undergoes some changes and then others. -/
theorem Undergoes.append {first second : List Mark.Change} {before middle after : Scene ρ σ}
    (h : Undergoes part first before middle) (h' : Undergoes part second middle after) :
    Undergoes part (first ++ second) before after := by
  -- The journal of `middle` may hold more than the first changes wrote, but its gauge is theirs.
  obtain ⟨hmark, hgauge⟩ := Mark.applyAll_of_gauge_eq second (part middle.client) h.gauge
  rw [h.mark] at hmark hgauge
  constructor
  · rw [h'.mark, Mark.applyAll_append, ← hmark, ← h.mark]
  · rw [h'.gauge, Mark.applyAll_append, ← hgauge, ← h.mark]

/-- Nothing happens to a mark that is as it was while the gauge is as it was. -/
theorem undergoes_nil {before after : Scene ρ σ} (mark : part after.client = part before.client)
    (gauge : after.journal.gauge = before.journal.gauge) : Undergoes part [] before after :=
  ⟨mark, gauge⟩

/-- However a call ends or is left, it did to a mark nothing but allowed changes. -/
def Affects (part : ρ → Mark) (allowed : Mark.Change → Prop) (call : Action (Scene ρ σ) ε α) :
    Prop :=
  ∀ s, ∃ changes, (∀ change ∈ changes, allowed change) ∧ Undergoes part changes s (call s).2

/-- A call that changes neither a mark nor the gauge. -/
abbrev Spares (part : ρ → Mark) (call : Action (Scene ρ σ) ε α) : Prop :=
  Affects part (fun _ => False) call

/-- A mark that is spared undergoes nothing. -/
theorem Spares.undergoes {call : Action (Scene ρ σ) ε α} (h : Spares part call) (s : Scene ρ σ) :
    Undergoes part [] s (call s).2 := by
  obtain ⟨changes, hnone, hchanges⟩ := h s
  obtain rfl := List.eq_nil_iff_forall_not_mem.2 hnone
  exact hchanges

namespace Affects

/-- A call that leaves mark and gauge as they are does nothing. -/
theorem of_eq {call : Action (Scene ρ σ) ε α}
    (h : ∀ s, part (call s).2.client = part s.client ∧
      (call s).2.journal.gauge = s.journal.gauge) : Affects part allowed call :=
  fun s => ⟨[], by simp, undergoes_nil (h s).1 (h s).2⟩

protected theorem mono {call : Action (Scene ρ σ) ε α} {allowed' : Mark.Change → Prop}
    (h : Affects part allowed call) (hmore : ∀ change, allowed change → allowed' change) :
    Affects part allowed' call := by
  intro s
  obtain ⟨changes, hall, hchanges⟩ := h s
  exact ⟨changes, fun change hchange => hmore change (hall change hchange), hchanges⟩

protected theorem pure (value : α) :
    Affects part allowed (pure value : Action (Scene ρ σ) ε α) :=
  of_eq fun _ => ⟨rfl, rfl⟩

protected theorem fail (error : ε) :
    Affects part allowed (fail error : Action (Scene ρ σ) ε α) :=
  of_eq fun _ => ⟨rfl, rfl⟩

protected theorem get : Affects part allowed (get : Action (Scene ρ σ) ε ρ) :=
  of_eq fun _ => ⟨rfl, rfl⟩

protected theorem modify {change : ρ → ρ} (h : ∀ client, part (change client) = part client) :
    Affects part allowed (modify change : Action (Scene ρ σ) ε Unit) :=
  of_eq fun s => ⟨h s.client, rfl⟩

protected theorem note (notice : Notice) :
    Affects part allowed (note notice : Action (Scene ρ σ) ε Unit) :=
  of_eq fun _ => ⟨rfl, rfl⟩

protected theorem count {metric : Metric} (h : metric ≠ .pendingAcknowledgments) (amount : Int) :
    Affects part allowed (count metric amount : Action (Scene ρ σ) ε Unit) :=
  of_eq fun s => ⟨rfl, s.journal.value_change_of_ne amount h.symm⟩

protected theorem ask (endpoint : Endpoint σ) (request : Request) :
    Affects part allowed (ask (ρ := ρ) endpoint request) :=
  of_eq fun _ => ⟨rfl, rfl⟩

/-- A change of the mark is a change. -/
protected theorem modifyJournaled (change : Mark.Change) {change' : ρ → Journal → ρ × Journal}
    (hallowed : allowed change)
    (h : ∀ client journal,
      part (change' client journal).1 = (change.apply (part client) journal).1 ∧
        (change' client journal).2 = (change.apply (part client) journal).2) :
    Affects part allowed (modifyJournaled change' : Action (Scene ρ σ) ε Unit) := by
  intro s
  refine ⟨[change], by simpa using hallowed, (h s.client s.journal).1, ?_⟩
  exact congrArg Journal.gauge (h s.client s.journal).2

/-- One call after another does what both do. -/
protected theorem bind {first : Action (Scene ρ σ) ε β} {next : β → Action (Scene ρ σ) ε α}
    (hfirst : Affects part allowed first) (hnext : ∀ value, Affects part allowed (next value)) :
    Affects part allowed (first >>= next) := by
  intro s
  obtain ⟨changes, hall, hchanges⟩ := hfirst s
  rw [bind_apply]
  generalize first s = result at hchanges
  obtain ⟨outcome, middle⟩ := result
  cases outcome with
  | done value =>
    obtain ⟨others, hothers, hmore⟩ := hnext value middle
    refine ⟨changes ++ others, fun change hchange => ?_, hchanges.append hmore⟩
    exact (List.mem_append.1 hchange).elim (hall change) (hothers change)
  | failed error => exact ⟨changes, hall, hchanges⟩
  | abandoned => exact ⟨changes, hall, hchanges⟩

protected theorem attempt {call : Action (Scene ρ σ) ε' α} (h : Affects part allowed call) :
    Affects part allowed (attempt call : Action (Scene ρ σ) ε (Except ε' α)) := by
  intro s
  obtain ⟨changes, hall, hchanges⟩ := h s
  refine ⟨changes, hall, ?_⟩
  unfold attempt
  generalize call s = result at hchanges
  obtain ⟨outcome, after⟩ := result
  cases outcome <;> exact hchanges

protected theorem mapError {call : Action (Scene ρ σ) ε' α} (tell : ε' → ε)
    (h : Affects part allowed call) : Affects part allowed (mapError tell call) := by
  intro s
  obtain ⟨changes, hall, hchanges⟩ := h s
  refine ⟨changes, hall, ?_⟩
  unfold mapError
  generalize call s = result at hchanges
  obtain ⟨outcome, after⟩ := result
  cases outcome <;> exact hchanges

protected theorem release (endpoint : Endpoint σ) (request : Request)
    (told : BrokerError → Notice) :
    Affects part allowed (release endpoint request told : Action (Scene ρ σ) ε _) := by
  refine .bind (.attempt (.ask endpoint request)) fun answer => ?_
  cases answer with
  | ok => exact .pure _
  | error error => exact .bind (.note _) fun _ => .pure _

/-- A call of a part of the client that has nothing to do with the mark does nothing to it. -/
protected theorem within {field : ρ → ρ'} {put : ρ' → ρ → ρ} {call : Action (Scene ρ' σ) ε α}
    (h : Spares (fun _ => ({} : Mark)) call)
    (hput : ∀ inner client, part (put inner client) = part client) :
    Affects part allowed (within field put call) := by
  refine of_eq fun s => ⟨hput _ _, ?_⟩
  exact (h.undergoes { client := field s.client, journal := s.journal, env := s.env }).gauge

end Affects

end Scene

/-! ## Finalization -/

namespace Mark

variable {σ : Type}

/-- Acknowledgments alone change neither the mark nor the gauge. -/
theorem spares_settle (endpoint : Endpoint σ) (session : SessionHandle)
    (entries : List PendingDelivery) : Scene.Spares id (settle endpoint session entries) := by
  induction entries with
  | nil => exact .pure _
  | cons entry rest ih =>
    refine .bind (.attempt (.ask endpoint _)) fun answer => ?_
    cases answer with
    | ok => exact .bind ih fun _ => .pure _
    | error error =>
      dsimp only
      split
      · exact .bind (.note _) fun _ => .bind ih fun _ => .pure _
      · exact .pure _

/-- A mark that was finalized lost as many entries as it counts less, from the front. An attached
mark may have lost any, and another one none. -/
structure Settles (before after : Scene Mark σ) : Prop where
  mark : ∃ gone, after.client = (before.client.dropSettled gone before.journal).1 ∧
    (before.client.isAttached = false → gone = 0)
  gauge : after.journal.gauge =
    before.journal.gauge + (after.client.tracked - before.client.tracked)

/-- A mark that is as it was settled nothing. -/
theorem settles_of_eq {before after : Scene Mark σ} (hmark : after.client = before.client)
    (hgauge : after.journal.gauge = before.journal.gauge) : Settles before after := by
  refine ⟨⟨0, ?_, fun _ => rfl⟩, ?_⟩
  · rw [hmark, dropSettled, untrack_fst]
    simp
  · rw [hmark, hgauge]
    omega

/-- However a finalization ends or is left, the gauge sinks by as much as the mark counts less. -/
theorem settles_finalize (endpoint : Endpoint σ) (s : Scene Mark σ) :
    Settles s (finalize endpoint s).2 := by
  have hleaves : Leaves (finalize endpoint) s (fun _ => Settles s) (fun _ => Settles s)
      (Settles s) := by
    simp only [finalize, leaves_bind, Scene.leaves_get]
    split
    · exact settles_of_eq rfl rfl
    · cases hsession : s.client.session with
      | none => exact settles_of_eq rfl rfl
      | some session =>
        simp only [leaves_bind, Scene.leaves_modifyJournaled, Scene.leaves_count]
        -- Entries are dropped when all acknowledgments are over, so a finalization that is left on
        -- the way dropped none.
        have hspares := (spares_settle endpoint session s.client.pending).undergoes s
        refine (leaves_of_state hspares).mono ?_ ?_ ?_
        · intro settlement middle hmiddle
          have hmark : middle.client = s.client := hmiddle.mark
          have hgauge : middle.journal.gauge = s.journal.gauge := hmiddle.gauge
          have hsettles : Settles s
              { client := (middle.client.dropSettled settlement.settled middle.journal).1
                journal := (middle.client.dropSettled settlement.settled middle.journal).2.change
                  .acknowledged settlement.acknowledged
                env := middle.env } := by
            refine ⟨⟨settlement.settled, ?_, fun hdetached => ?_⟩, ?_⟩
            · simp only [hmark, dropSettled, untrack_fst]
            · simp [isAttached, hsession] at hdetached
            · rw [Journal.gauge, Journal.value_change_of_ne _ _ (by simp), ← Journal.gauge]
              simp only [hmark, dropSettled, gauge_untrack, untrack_fst, hgauge]
              omega
          split <;> exact hsettles
        · exact fun _ _ h => settles_of_eq h.mark h.gauge
        · exact fun _ h => settles_of_eq h.mark h.gauge
  exact Leaves.result (fun _ => Settles s) hleaves

/-- A finalization leaves a mark that counts its entries. -/
theorem Settles.tallied {before after : Scene Mark σ} (h : Settles before after)
    (hbefore : before.client.Tallied) : after.client.Tallied := by
  obtain ⟨gone, hmark, hdetached⟩ := h.mark
  have hbounded := hbefore.bounded
  rw [dropSettled, untrack_fst] at hmark
  rw [hmark]
  cases hattached : before.client.isAttached with
  | false =>
    obtain rfl := hdetached hattached
    refine ⟨by simpa using hbounded, fun hstill => ?_⟩
    have hstill : before.client.isAttached = true := hstill
    rw [hattached] at hstill
    cases hstill
  | true =>
    have hall := hbefore.attached hattached
    constructor
    · simp only [List.length_drop]
      omega
    · intro _
      simp only [List.length_drop]
      omega

/-- A finalization counts nothing. -/
theorem Settles.tracked_le {before after : Scene Mark σ} (h : Settles before after) :
    after.client.tracked ≤ before.client.tracked := by
  obtain ⟨gone, hmark, -⟩ := h.mark
  rw [hmark, dropSettled, untrack_fst]
  exact Nat.sub_le _ _

end Mark

/-! ## Readers -/

namespace Link

variable {σ : Type}

/-- A link has nothing to do with a mark. -/
theorem spares_acquire (endpoint : Endpoint σ) (credentials : Option Credentials)
    (mode : AcknowledgeMode) :
    Scene.Spares (fun _ => ({} : Mark)) (acquire endpoint credentials mode) := by
  refine .bind (.mapError _ (.ask endpoint _)) fun connection => ?_
  refine .bind (.modify fun _ => rfl) fun _ => ?_
  refine .bind (.mapError _ (.ask endpoint _)) fun _ => ?_
  refine .bind (.mapError _ (.ask endpoint _)) fun session => ?_
  exact .bind (.modify fun _ => rfl) fun _ => .pure _

/-- Neither has its release. -/
theorem spares_release (endpoint : Endpoint σ) :
    Scene.Spares (fun _ => ({} : Mark)) (release endpoint) := by
  have hsession : Scene.Spares (fun _ => ({} : Mark)) (releaseSession endpoint) := by
    refine .bind .get fun link => ?_
    cases link.session with
    | none => exact .pure _
    | some session => exact .bind (.modify fun _ => rfl) fun _ => .release endpoint _ _
  have hconnection : Scene.Spares (fun _ => ({} : Mark)) (releaseConnection endpoint) := by
    refine .bind .get fun link => ?_
    cases link.connection with
    | none => exact .pure _
    | some connection =>
      refine .bind (.modify fun _ => rfl) fun _ => .bind (.release endpoint _ _) fun _ => ?_
      exact .bind (.release endpoint _ _) fun _ => .pure _
  exact .bind hsession fun _ => .bind hconnection fun _ => .pure _

end Link

namespace Reader

variable {α σ : Type}

/-- A reader that releases its consumer does nothing to its mark. -/
theorem spares_releaseConsumer (endpoint : Endpoint σ) :
    Scene.Spares mark (releaseConsumer (α := α) endpoint) := by
  refine .bind .get fun reader => ?_
  cases reader.consumer with
  | none => exact .pure _
  | some consumer => exact .bind (.modify fun _ => rfl) fun _ => .release endpoint _ _

/-- A reader that stops its estimator does nothing to its mark. -/
theorem spares_releaseEstimator (endpoint : Endpoint σ) :
    Scene.Spares mark (releaseEstimator (α := α) endpoint) := by
  refine .bind .get fun reader => ?_
  cases reader.estimator with
  | none => exact .pure _
  | some estimator =>
    refine .bind (.modify fun _ => rfl) fun _ => .bind (.attempt (.ask endpoint _)) fun _ => ?_
    exact .pure _

/-- A reader that is closed releases its mark once everything else is gone, however that ended. A
close that is left before does nothing to the mark. -/
theorem leaves_close_mark (endpoint : Endpoint σ) (s : Scene (Reader α) σ) :
    Leaves (close endpoint) s (fun _ => Scene.Undergoes mark [.release] s)
      (fun _ => Scene.Undergoes mark [.release] s) (Scene.Undergoes mark [] s) := by
  have hlink : ∀ s, Leaves (withLink (α := α) (Link.release endpoint)) s (fun _ _ => True)
      (fun _ _ => False) (fun _ => True) := by
    intro s
    rw [withLink, Scene.leaves_within]
    exact Link.leaves_release endpoint _
  have hspares : Scene.Spares mark (withLink (α := α) (Link.release endpoint)) :=
    .within (Link.spares_release endpoint) fun _ _ => rfl
  -- None of the three fails, and none of them does anything to the mark.
  simp only [close, leaves_bind, Scene.leaves_modifyJournaled]
  refine ((leaves_releaseConsumer endpoint s).and
    ((spares_releaseConsumer endpoint).undergoes s)).mono ?_ (fun _ _ h => h.1.elim) fun _ h => h.2
  rintro ofConsumer s₁ ⟨-, h₁⟩
  refine ((hlink s₁).and (hspares.undergoes s₁)).mono ?_ (fun _ _ h => h.1.elim)
    fun _ h => h₁.append h.2
  rintro ofLink s₂ ⟨-, h₂⟩
  refine ((leaves_releaseEstimator endpoint s₂).and
    ((spares_releaseEstimator endpoint).undergoes s₂)).mono ?_ (fun _ _ h => h.1.elim)
    fun _ h => (h₁.append h₂).append h.2
  rintro - s₃ ⟨-, h₃⟩
  have hreleased : Scene.Undergoes mark [.release] s₃
      { s₃ with
        client := (retire s₃.client s₃.journal).1, journal := (retire s₃.client s₃.journal).2 } :=
    ⟨rfl, rfl⟩
  have hclosed := ((h₁.append h₂).append h₃).append hreleased
  split <;> exact hclosed

/-- A reader that looks for a message adds what it receives to its mark. -/
theorem affects_advance (endpoint : Endpoint σ) :
    Scene.Affects mark (·.isAdd = true) (advance (α := α) endpoint) := by
  have hemit : ∀ message id, Scene.Affects mark (·.isAdd = true)
      (emit (α := α) (σ := σ) message id) := by
    intro message id
    refine .bind .get fun reader => ?_
    dsimp only
    split
    · exact .fail _
    · refine .bind (.count (by simp) _) fun _ => .bind (.modify fun _ => rfl) fun _ => ?_
      exact .pure _
  have htrack : ∀ id timestamp, Scene.Affects mark (·.isAdd = true)
      (Scene.modifyJournaled (track id timestamp) : Call (Reader α) σ Unit) :=
    fun id timestamp => .modifyJournaled (.add id timestamp) rfl fun _ _ => ⟨rfl, rfl⟩
  -- A poll goes on behind each message that it passes over, so this is by induction on how many it
  -- may pass over.
  have hpoll : ∀ consumer budget, Scene.Affects mark (·.isAdd = true)
      (poll (α := α) endpoint consumer budget) := by
    intro consumer budget
    induction budget with
    | zero =>
      unfold poll
      refine .bind (.mapError _ (.ask endpoint _)) fun received => ?_
      cases received with
      | none => exact .pure _
      | some message =>
        dsimp only
        split
        · exact .fail _
        · exact .bind (htrack _ _) fun _ => hemit _ _
    | succ budget ih =>
      unfold poll
      refine .bind (.mapError _ (.ask endpoint _)) fun received => ?_
      cases received with
      | none => exact .pure _
      | some message =>
        dsimp only
        split
        · exact .fail _
        · refine .bind (htrack _ _) fun _ => .bind .get fun reader => ?_
          split
          · refine .bind (.modify fun _ => rfl) fun _ => ?_
            exact .bind (.count (by simp) _) fun _ => ih
          · exact hemit _ _
  refine .bind .get fun reader => ?_
  split
  · exact .fail _
  · refine .bind (.modify fun _ => rfl) fun _ => ?_
    split
    · exact .fail _
    · exact hpoll _ _

/-- A reader that starts attaches, adds to or releases its mark. -/
theorem affects_start (endpoint : Endpoint σ) :
    Scene.Affects mark (fun _ => True) (start (α := α) endpoint) := by
  have hacquire : Scene.Affects mark (fun _ => True) (acquire (α := α) endpoint) := by
    refine .bind .get fun reader => ?_
    refine .bind (.within (Link.spares_acquire endpoint _ _) fun _ _ => rfl) fun session => ?_
    refine .bind (.mapError _ (.ask endpoint _)) fun destination => ?_
    refine .bind (.mapError _ (.ask endpoint _)) fun consumer => ?_
    refine .bind (.modify fun _ => rfl) fun _ => ?_
    refine .bind (.modifyJournaled (.attach session) trivial fun _ _ => ⟨rfl, rfl⟩) fun _ => ?_
    refine .bind (.mapError _ (.ask endpoint _)) fun estimator => ?_
    exact .modify fun _ => rfl
  have hclose : Scene.Affects mark (fun _ => True) (close (α := α) endpoint) := by
    intro s
    have hleaves := leaves_close_mark endpoint s
    refine Leaves.result (fun _ s' => ∃ changes, (∀ change ∈ changes, True) ∧
      Scene.Undergoes mark changes s s') (hleaves.mono ?_ ?_ ?_)
    · exact fun _ _ h => ⟨_, fun _ _ => trivial, h⟩
    · exact fun _ _ h => ⟨_, fun _ _ => trivial, h⟩
    · exact fun _ h => ⟨_, fun _ _ => trivial, h⟩
  refine .bind .get fun reader => ?_
  split
  · exact .fail _
  · refine .bind (.modify fun _ => rfl) fun _ => .bind (.attempt hacquire) fun result => ?_
    cases result with
    | ok =>
      refine .bind (.modify fun _ => rfl) fun _ => ?_
      exact (affects_advance endpoint).mono fun _ _ => trivial
    | error error =>
      refine .bind (.note _) fun _ => .bind (.attempt hclose) fun result => ?_
      cases result with
      | ok => exact .fail _
      | error failure => exact .bind (.note _) fun _ => .fail _

end Reader

end BrokerConnector
