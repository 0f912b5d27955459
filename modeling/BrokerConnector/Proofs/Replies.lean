import BrokerConnector.Proofs.Mirror
import BrokerConnector.Proofs.Receipts

/-!
# Marks that are finalized again and again

A finalization that ends settles entries from the front of the mark, up to the first acknowledgment
that fails for good, and the next one goes on from there. `Endpoint.Tells` lists what a session
answers when it is asked for acknowledgments one after the other, each answer depending on all that
was asked before. Against any endpoint, then, each entry that left a mark was settled by one answer
(`Mark.Outlived`), however additions and finalizations follow each other.
-/

namespace BrokerConnector

open BrokerConnector.Action

/-! ## Answers -/

namespace Event

/-- The message that is settled: it was acknowledged, or the session does not hold it. -/
def settled? : Event → Option MessageId
  | acknowledgment id (.done ()) => some id
  | acknowledgment id (.failed error) => if error.isNotPending then some id else none
  | _ => none

/-- What was acknowledged is settled. -/
theorem settled?_of_acknowledged? {event : Event} {id : MessageId}
    (h : event.acknowledged? = some id) : event.settled? = some id := by
  unfold acknowledged? at h
  split at h
  · exact h
  · cases h

/-- What was acknowledged was settled in the same order. -/
theorem acknowledged_sublist_settled (events : List Event) :
    (events.filterMap (·.acknowledged?)).Sublist (events.filterMap (·.settled?)) := by
  induction events with
  | nil => exact .refl _
  | cons event rest ih =>
    cases hacknowledged : event.acknowledged? with
    | none =>
      rw [List.filterMap_cons_none hacknowledged]
      refine ih.trans ?_
      rw [List.filterMap_cons]
      split
      · exact .refl _
      · exact List.sublist_cons_self _ _
    | some id =>
      rw [List.filterMap_cons_some hacknowledged,
        List.filterMap_cons_some (settled?_of_acknowledged? hacknowledged)]
      exact ih.cons_cons id

end Event

namespace Endpoint

variable {σ : Type} {endpoint : Endpoint σ} {session : Option SessionHandle}

/-- What a session tells that is asked for acknowledgments one after the other. Without a session
nothing is asked. -/
inductive Tells (endpoint : Endpoint σ) (session : Option SessionHandle) :
    σ → List Event → σ → Prop where
  | nothing (env : σ) : Tells endpoint session env [] env
  | asked {handle : SessionHandle} {id : MessageId} {outcome : Outcome BrokerError Unit}
    {env env' env'' : σ} {events : List Event} (attached : session = some handle)
    (h : endpoint.answer (.broker (.acknowledge handle id)) env = (outcome, env'))
    (rest : Tells endpoint session env' events env'') :
    Tells endpoint session env (.acknowledgment id outcome :: events) env''

/-- A session that goes on tells more. -/
theorem Tells.append {env env' env'' : σ} {events later : List Event}
    (h : endpoint.Tells session env events env')
    (hlater : endpoint.Tells session env' later env'') :
    endpoint.Tells session env (events ++ later) env'' := by
  induction h with
  | nothing => exact hlater
  | asked attached hanswer _ ih => exact .asked attached hanswer (ih hlater)

/-- A session leaves a request for an acknowledgment unanswered. -/
def Unanswered (endpoint : Endpoint σ) (session : Option SessionHandle) : Prop :=
  ∃ handle id env, session = some handle ∧
    (endpoint.answer (.broker (.acknowledge handle id)) env).1 = .abandoned

end Endpoint

/-! ## One finalization -/

namespace Mark

variable {σ : Type} {endpoint : Endpoint σ}

namespace Settling

variable {entries : List PendingDelivery} {events : List Event} {count : Nat}
  {outcome : Outcome BrokerError Unit}

/-- Entries are settled from the front, each by one answer. -/
theorem settled_eq (h : Settling entries events count outcome) :
    events.filterMap (·.settled?) = (entries.take count).map (·.id) := by
  induction h with
  | all => rfl
  | granted entry _ ih =>
    rw [List.take_succ_cons, List.map_cons, ← ih]
    rfl
  | denied entry hdenied _ ih =>
    rw [List.take_succ_cons, List.map_cons, ← ih]
    exact List.filterMap_cons_some (by simp [Event.settled?, hdenied])
  | refused entry rest hrefused => simp [Event.settled?, hrefused]
  | unanswered entry rest => rfl

/-- Acknowledgments that end are asked for of all entries. -/
theorem count_eq (h : Settling entries events count (.done ())) : count = entries.length := by
  generalize hdone : Outcome.done () = outcome at h
  induction h with
  | all => rfl
  | granted entry _ ih | denied entry _ _ ih => rw [ih hdone, List.length_cons]
  | refused | unanswered => cases hdone

/-- Acknowledgments that end in a failure stop at an entry, which is the last asked for. -/
theorem exists_drop_eq {refusal : BrokerError}
    (h : Settling entries events count (.failed refusal)) :
    ∃ entry rest, entries.drop count = entry :: rest ∧
      events.getLast? = some (.acknowledgment entry.id (.failed refusal)) := by
  generalize hfailed : Outcome.failed refusal = outcome at h
  induction h with
  | all => cases hfailed
  | granted entry _ ih | denied entry _ _ ih =>
    obtain ⟨stop, rest, hdrop, hlast⟩ := ih hfailed
    refine ⟨stop, rest, hdrop, ?_⟩
    rw [List.getLast?_cons, hlast]
    rfl
  | refused entry rest _ =>
    obtain rfl := Outcome.failed.inj hfailed
    exact ⟨entry, rest, rfl, rfl⟩
  | unanswered => cases hfailed

end Settling

/-- A mark that loses entries has no earlier watermark. -/
theorem watermark_le_of_drop {mark mark' : Mark} {count : Nat}
    (h : mark'.pending = mark.pending.drop count) : mark.watermark ≤ mark'.watermark := by
  by_cases hempty : mark'.pending = []
  · rw [watermark, watermark, hempty]
    exact Int64.le_maxValue _
  · obtain ⟨entry, hentry, heq⟩ := exists_watermark_eq hempty
    rw [heq]
    refine watermark_le ?_
    rw [h] at hentry
    exact List.mem_of_mem_drop hentry

/-- What settling entries leaves: the journal got notices only, and the settlement counts the
answers. -/
structure Replied (endpoint : Endpoint σ) (session : SessionHandle)
    (entries : List PendingDelivery) (s : Scene Mark σ) (settlement : Settlement)
    (events : List Event) (s' : Scene Mark σ) : Prop where
  client : s'.client = s.client
  metrics : s'.journal.metrics = s.journal.metrics
  told : endpoint.Tells (some session) s.env events s'.env
  settling : Settling entries events settlement.settled
    (settlement.failure.elim (.done ()) .failed)
  acknowledged : settlement.acknowledged = (events.filterMap (·.acknowledged?)).length

/-- Entries are settled by what the session tells. -/
theorem leaves_settle_replied (session : SessionHandle) (entries : List PendingDelivery)
    (s : Scene Mark σ) :
    Leaves (settle endpoint session entries) s
      (fun settlement s' => ∃ events, Replied endpoint session entries s settlement events s')
      (fun _ _ => False) (fun _ => endpoint.Unanswered (some session)) := by
  -- The induction is on the entries: each answer that settles an entry comes before those of the
  -- rest.
  induction entries generalizing s with
  | nil => exact ⟨[], rfl, rfl, .nothing _, .all, rfl⟩
  | cons entry rest ih =>
    simp only [settle, leaves_bind, leaves_attempt]
    refine Scene.leaves_ask ?_ ?_ ?_
    · intro answer env hanswer
      simp only [leaves_pure]
      refine (ih _).mono ?_ (fun _ _ => id) (fun _ => id)
      rintro settlement s' ⟨events, h⟩
      exact ⟨_, h.client, h.metrics, .asked rfl hanswer h.told, .granted entry h.settling,
        congrArg (· + 1) h.acknowledged⟩
    · intro error env hanswer
      split
      · rename_i hdenied
        simp only [leaves_bind, Scene.leaves_note, leaves_pure]
        refine (ih _).mono ?_ (fun _ _ => id) (fun _ => id)
        rintro settlement s' ⟨events, h⟩
        exact ⟨_, h.client, h.metrics, .asked rfl hanswer h.told,
          .denied entry hdenied h.settling, h.acknowledged⟩
      · rename_i hrefused
        exact ⟨_, rfl, rfl, .asked rfl hanswer (.nothing _),
          .refused entry rest (by simpa using hrefused), rfl⟩
    · intro env hanswer
      exact ⟨session, entry.id, s.env, rfl, congrArg Prod.fst hanswer⟩

/-- A mark that counts fewer entries leaves what was acknowledged as it was counted. -/
theorem acknowledged_untrack (mark : Mark) (removed : Nat) (journal : Journal) :
    (mark.untrack removed journal).2.value .acknowledged = journal.value .acknowledged := by
  unfold untrack
  dsimp only
  split
  · rfl
  · exact Journal.value_change_of_ne _ _ (by simp)

/-- What a call leaves of a mark that settles entries from its front: as many are gone as the
session settled, and those that it acknowledged are counted. -/
structure Drained (endpoint : Endpoint σ) (s : Scene Mark σ) (events : List Event) (count : Nat)
    (s' : Scene Mark σ) : Prop where
  session : s'.client.session = s.client.session
  told : endpoint.Tells s.client.session s.env events s'.env
  pending : s'.client.pending = s.client.pending.drop count
  settled : events.filterMap (·.settled?) = (s.client.pending.take count).map (·.id)
  counted : s'.journal.value .acknowledged =
    s.journal.value .acknowledged + (events.filterMap (·.acknowledged?)).length

/-- A call that asks for nothing drains nothing. -/
theorem Drained.idle (endpoint : Endpoint σ) (s : Scene Mark σ) : Drained endpoint s [] 0 s where
  session := rfl
  told := .nothing _
  pending := rfl
  settled := rfl
  counted := (Int.add_zero _).symm

/-- A mark that is drained has no earlier watermark. -/
theorem Drained.watermark_le {s s' : Scene Mark σ} {events : List Event} {count : Nat}
    (h : Drained endpoint s events count s') : s.client.watermark ≤ s'.client.watermark :=
  watermark_le_of_drop h.pending

/-- A finalization that ends with a number acknowledged that many entries, and all are gone. -/
def Emptied (endpoint : Endpoint σ) (s : Scene Mark σ) (acknowledged : Nat) (s' : Scene Mark σ) :
    Prop :=
  ∃ events, Drained endpoint s events s.client.pending.length s' ∧
    Settling s.client.pending events s.client.pending.length (.done ()) ∧
    s'.client.pending = [] ∧ acknowledged = (events.filterMap (·.acknowledged?)).length

/-- A finalization that the session ended stopped at the entry whose acknowledgment failed, which
is the first that is left and the last that was asked for. -/
def Stuck (endpoint : Endpoint σ) (s : Scene Mark σ) (error : ConnectorError) (s' : Scene Mark σ) :
    Prop :=
  ∃ events count refusal entry rest, Drained endpoint s events count s' ∧
    Settling s.client.pending events count (.failed refusal) ∧
    error = .broker refusal ∧ refusal.isNotPending = false ∧
    s'.client.pending = entry :: rest ∧
    events.getLast? = some (.acknowledgment entry.id (.failed refusal))

/-- A finalization of an attached mark empties it or is stuck, unless the session leaves it
unanswered. -/
theorem leaves_finalize_attached {session : SessionHandle} {s : Scene Mark σ}
    (hattached : s.client.session = some session) :
    Leaves (finalize endpoint) s (Emptied endpoint s) (Stuck endpoint s)
      (fun _ => endpoint.Unanswered s.client.session) := by
  simp only [finalize, leaves_bind, Scene.leaves_get]
  split
  · rename_i hempty
    have hnil := List.isEmpty_iff.1 hempty
    refine ⟨[], ?_, ?_, hnil, rfl⟩
    · rw [hnil]
      exact .idle endpoint s
    · rw [hnil]
      exact .all
  · rw [hattached]
    simp only [leaves_bind, Scene.leaves_modifyJournaled, Scene.leaves_count]
    refine (leaves_settle_replied session s.client.pending s).mono ?_ (fun _ _ => False.elim)
      (fun _ => id)
    rintro settlement s₁ ⟨events, h⟩
    -- Whether an acknowledgment failed or not, the settled entries go and are counted.
    have hdrained : Drained endpoint s events settlement.settled
        { client := (s₁.client.dropSettled settlement.settled s₁.journal).1
          journal := (s₁.client.dropSettled settlement.settled s₁.journal).2.change
            .acknowledged settlement.acknowledged
          env := s₁.env } := by
      refine ⟨?_, ?_, ?_, h.settling.settled_eq, ?_⟩
      · rw [session_dropSettled, h.client]
      · rw [hattached]
        exact h.told
      · rw [pending_dropSettled, h.client]
      · rw [Journal.value_change_self, dropSettled, acknowledged_untrack, h.acknowledged,
          Journal.value, h.metrics]
        rfl
    have hsettling := h.settling
    split
    · rename_i refusal hfailure
      rw [hfailure] at hsettling
      obtain ⟨entry, rest, hdrop, hlast⟩ := hsettling.exists_drop_eq
      exact ⟨events, settlement.settled, refusal, entry, rest, hdrained, hsettling, rfl,
        hsettling.getLast?_of_failed.1, hdrained.pending.trans hdrop, hlast⟩
    · rename_i hfailure
      rw [hfailure] at hsettling
      have hcount : settlement.settled = s.client.pending.length := hsettling.count_eq
      refine ⟨events, ?_, ?_, ?_, h.acknowledged⟩
      · rw [← hcount]
        exact hdrained
      · rw [← hcount]
        exact hsettling
      · rw [hdrained.pending, hcount, List.drop_length]

/-- A detached mark with entries is not finalized and stays as it is. -/
theorem finalize_detached (endpoint : Endpoint σ) {s : Scene Mark σ}
    (hdetached : s.client.session = none) (hpending : s.client.pending ≠ []) :
    finalize endpoint s = (.failed (.checkpoint (toString s.client.pending.length ++
      " pending messages but the mark is not attached to a session")), s) := by
  have hempty : s.client.pending.isEmpty = false := by simpa using hpending
  simp only [finalize, bind_apply, Scene.get_apply, hempty, hdetached]
  rfl

/-- A finalization, of an attached mark or a detached one, drains it. -/
theorem leaves_finalize_drained (s : Scene Mark σ) :
    Leaves (finalize endpoint) s (fun _ s' => ∃ events count, Drained endpoint s events count s')
      (fun _ s' => ∃ events count, Drained endpoint s events count s')
      (fun _ => endpoint.Unanswered s.client.session) := by
  cases hsession : s.client.session with
  | some session =>
    rw [← hsession]
    refine (leaves_finalize_attached hsession).mono ?_ ?_ (fun _ => id)
    · rintro _ s' ⟨events, h, -⟩
      exact ⟨events, _, h⟩
    · rintro _ s' ⟨events, count, _, _, _, h, -⟩
      exact ⟨events, count, h⟩
  | none =>
    by_cases hpending : s.client.pending = []
    · simp only [finalize, leaves_bind, Scene.leaves_get, hpending]
      exact ⟨[], 0, .idle endpoint s⟩
    · unfold Leaves
      rw [finalize_detached endpoint hsession hpending]
      exact ⟨[], 0, .idle endpoint s⟩

/-! ## Additions and finalizations in any order -/

/-- What is done to a mark while its reader is at work. -/
inductive Turn where
  | add (id : MessageId) (timestamp : Int64)
  | finalize
  deriving DecidableEq

/-- The entry that the turn adds. -/
def Turn.added? : Turn → Option PendingDelivery
  | add id timestamp => some ⟨id, timestamp⟩
  | finalize => none

/-- Additions and finalizations in order, with the results of the finalizations. -/
def course (endpoint : Endpoint σ) : List Turn → Call Mark σ (List (Except ConnectorError Nat))
  | [] => return []
  | .add id timestamp :: rest => do
    Scene.modifyJournaled fun mark journal => mark.add id timestamp journal
    course endpoint rest
  | .finalize :: rest => do
    let result ← (finalize endpoint).attempt
    return result :: (← course endpoint rest)

/-- What additions and finalizations leave: each entry that is gone was settled by one answer of the
session, in the order in which the entries were added. -/
structure Outlived (endpoint : Endpoint σ) (s : Scene Mark σ) (added : List PendingDelivery)
    (events : List Event) (gone : List PendingDelivery) (s' : Scene Mark σ) : Prop where
  session : s'.client.session = s.client.session
  told : endpoint.Tells s.client.session s.env events s'.env
  entries : s.client.pending ++ added = gone ++ s'.client.pending
  settled : events.filterMap (·.settled?) = gone.map (·.id)
  counted : s'.journal.value .acknowledged =
    s.journal.value .acknowledged + (events.filterMap (·.acknowledged?)).length

namespace Outlived

variable {s s₁ s' : Scene Mark σ} {added added' gone gone' : List PendingDelivery}
  {events events' : List Event}

/-- A mark that is drained loses entries that were settled. -/
theorem of_drained {count : Nat} (h : Drained endpoint s events count s') :
    Outlived endpoint s [] events (s.client.pending.take count) s' where
  session := h.session
  told := h.told
  entries := by rw [h.pending, List.append_nil, List.take_append_drop]
  settled := h.settled
  counted := h.counted

/-- An entry that is added is not gone. -/
theorem of_add (s : Scene Mark σ) (id : MessageId) (timestamp : Int64) :
    Outlived endpoint s [⟨id, timestamp⟩] [] []
      { s with
        client := (s.client.add id timestamp s.journal).1
        journal := (s.client.add id timestamp s.journal).2 } where
  session := rfl
  told := .nothing _
  entries := rfl
  settled := rfl
  counted := by
    rw [List.filterMap_nil, List.length_nil, Int.natCast_zero, Int.add_zero]
    exact Journal.value_change_of_ne _ _ (by simp)

/-- What comes later settles what was left. -/
theorem trans (h : Outlived endpoint s added events gone s₁)
    (hlater : Outlived endpoint s₁ added' events' gone' s') :
    Outlived endpoint s (added ++ added') (events ++ events') (gone ++ gone') s' where
  session := hlater.session.trans h.session
  told := h.told.append (h.session ▸ hlater.told)
  entries := by
    rw [← List.append_assoc, h.entries, List.append_assoc, hlater.entries, List.append_assoc]
  settled := by rw [List.filterMap_append, h.settled, hlater.settled, List.map_append]
  counted := by
    rw [hlater.counted, h.counted, List.filterMap_append, List.length_append, Int.natCast_add,
      Int.add_assoc]

/-- Entries are acknowledged in the order in which they were added. -/
theorem acknowledged_sublist (h : Outlived endpoint s added events gone s') :
    (events.filterMap (·.acknowledged?)).Sublist
      ((s.client.pending ++ added).map (·.id)) := by
  have hgone : (gone.map (·.id)).Sublist ((s.client.pending ++ added).map (·.id)) := by
    rw [h.entries]
    exact (List.sublist_append_left gone _).map _
  exact (h.settled ▸ Event.acknowledged_sublist_settled events).trans hgone

end Outlived

/-- Additions and finalizations in any order settle each entry that is gone by one answer. -/
theorem leaves_course (turns : List Turn) (s : Scene Mark σ) :
    Leaves (course endpoint turns) s
      (fun _ s' => ∃ events gone,
        Outlived endpoint s (turns.filterMap (·.added?)) events gone s')
      (fun _ _ => False) (fun _ => endpoint.Unanswered s.client.session) := by
  -- The induction is on what is done: each turn leaves a mark for which the rest holds.
  induction turns generalizing s with
  | nil => exact ⟨[], [], .of_drained (.idle endpoint s)⟩
  | cons turn rest ih =>
    have hlater : ∀ {added events gone s₁}, Outlived endpoint s added events gone s₁ →
        Leaves (course endpoint rest) s₁
          (fun _ s' => ∃ events gone,
            Outlived endpoint s (added ++ rest.filterMap (·.added?)) events gone s')
          (fun _ _ => False) (fun _ => endpoint.Unanswered s.client.session) := by
      intro added events gone s₁ h
      refine (ih s₁).mono ?_ (fun _ _ => id) (fun _ hunanswered => h.session ▸ hunanswered)
      rintro _ s' ⟨events', gone', h'⟩
      exact ⟨_, _, h.trans h'⟩
    cases turn with
    | add id timestamp =>
      simp only [course, leaves_bind, Scene.leaves_modifyJournaled]
      exact hlater (.of_add s id timestamp)
    | finalize =>
      simp only [course, leaves_bind, leaves_attempt, leaves_pure]
      refine (leaves_finalize_drained s).mono ?_ ?_ (fun _ => id)
      · rintro _ s₁ ⟨events, count, h⟩
        exact hlater (.of_drained h)
      · rintro _ s₁ ⟨events, count, h⟩
        exact hlater (.of_drained h)

/-- Against any endpoint, a finalization of an attached mark asks for the acknowledgment of its
entries in order and stops at the first one that fails for good. What was settled is gone then, the
rest stays, the watermark is no earlier, and the result is that failure or the number of entries
that were acknowledged; only a session that answers nothing leaves it without a result. A detached
mark with entries is not finalized and nothing changes. So however additions and finalizations
follow each other, each entry that is gone was settled by one answer, entries are acknowledged in
the order in which they were added, and as many are counted as were acknowledged. -/
theorem finalize_settles_in_order (endpoint : Endpoint σ) (s : Scene Mark σ) :
    (∀ session, s.client.session = some session →
      Leaves (finalize endpoint) s
        (fun acknowledged s' => Emptied endpoint s acknowledged s' ∧
          s.client.watermark ≤ s'.client.watermark)
        (fun error s' => Stuck endpoint s error s' ∧ s.client.watermark ≤ s'.client.watermark)
        (fun _ => endpoint.Unanswered (some session))) ∧
    (s.client.session = none → s.client.pending ≠ [] →
      finalize endpoint s = (.failed (.checkpoint (toString s.client.pending.length ++
        " pending messages but the mark is not attached to a session")), s)) ∧
    ∀ turns : List Turn, Leaves (course endpoint turns) s
      (fun _ s' => ∃ events gone,
        Outlived endpoint s (turns.filterMap (·.added?)) events gone s' ∧
        (events.filterMap (·.acknowledged?)).Sublist
          ((s.client.pending ++ turns.filterMap (·.added?)).map (·.id)))
      (fun _ _ => False) (fun _ => endpoint.Unanswered s.client.session) := by
  refine ⟨fun session hattached => ?_, finalize_detached endpoint, fun turns => ?_⟩
  · rw [← hattached]
    refine (leaves_finalize_attached hattached).mono ?_ ?_ (fun _ => id)
    · rintro acknowledged s' ⟨events, h, hrest⟩
      exact ⟨⟨events, h, hrest⟩, h.watermark_le⟩
    · rintro error s' ⟨events, count, refusal, entry, rest, h, hrest⟩
      exact ⟨⟨events, count, refusal, entry, rest, h, hrest⟩, h.watermark_le⟩
  · refine (leaves_course turns s).mono ?_ (fun _ _ => id) (fun _ => id)
    rintro _ s' ⟨events, gone, h⟩
    exact ⟨events, gone, h, h.acknowledged_sublist⟩

/-! ## A session that fails once -/

/-- Surroundings that answer requests for acknowledgments from a list, and nothing else. -/
def scripted : Endpoint (List (Outcome BrokerError Unit)) where
  answer
    | .broker (.acknowledge _ _), outcome :: rest => (outcome, rest)
    | _, script => (.abandoned, script)
  clock _ := 0
  sleep _ script := (script, [])

/-- A mark with three entries, attached to a session that does not hold the second one and fails
once at the third. -/
def failingOnce : Scene Mark (List (Outcome BrokerError Unit)) where
  client := {
    sessionId := some "session-1-2"
    pending := [⟨⟨"m1"⟩, 10⟩, ⟨⟨"m2"⟩, 20⟩, ⟨⟨"m3"⟩, 30⟩]
    session := some ⟨0, "session-1-2", .client⟩
    tracked := 3 }
  journal := {}
  env := [.done (), .failed (.notPending "m2"), .failed (.unavailable "gone"), .done (), .done ()]

/-- A finalization, another entry and a finalization again. -/
def resuming : List Turn :=
  [.finalize, .add ⟨"m4"⟩ 40, .finalize]

/-- The second finalization goes on where the session failed the first one, and all entries are gone
in the end. -/
theorem finalize_settles_in_order_failingOnce :
    (finalize scripted failingOnce).2.client.pending = [⟨⟨"m3"⟩, 30⟩] ∧
      (course scripted resuming failingOnce).1 =
        .done [.error (.broker (.unavailable "gone")), .ok 2] ∧
      (course scripted resuming failingOnce).2.client.pending = [] ∧
      Leaves (course scripted resuming) failingOnce
        (fun _ s' => ∃ events gone,
          Outlived scripted failingOnce (resuming.filterMap (·.added?)) events gone s' ∧
          (events.filterMap (·.acknowledged?)).Sublist
            ((failingOnce.client.pending ++ resuming.filterMap (·.added?)).map (·.id)))
        (fun _ _ => False) (fun _ => scripted.Unanswered failingOnce.client.session) := by
  refine ⟨by decide +kernel, by decide +kernel, by decide +kernel, ?_⟩
  -- What a call leaves is a match on its outcome, which is not to be computed once more.
  generalize failingOnce = s
  exact (finalize_settles_in_order scripted s).2.2 resuming

end Mark

end BrokerConnector
