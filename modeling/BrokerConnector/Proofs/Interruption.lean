import BrokerConnector.Proofs.Payment
import BrokerConnector.Proofs.Settlement

/-!
# Finalizations that are interrupted

A request can get lost on its way to the broker. Nobody answers it, so the call that made it waits
until its caller drops it. A finalization that is dropped has paid for some entries at the broker,
while the mark lists them all as before. The next one asks for them again, is told that the session
does not hold them, and goes on with the rest.

`Endpoint.losing` loses requests of a client. `Mark.leaves_finalize_losing` says what a finalization
leaves, whether it comes to its end, fails or is dropped.
-/

namespace BrokerConnector

open BrokerConnector.Action

/-! ## Requests that get lost -/

/-- Surroundings with the number of requests that were made of them. -/
structure Counted (σ : Type) where
  env : σ
  asked : Nat := 0

/-- The surroundings after one more request. -/
def Counted.next {σ : Type} (counted : Counted σ) (env : σ) : Counted σ where
  env := env
  asked := counted.asked + 1

/-- Surroundings that some requests do not reach, by their number. Nobody answers these. -/
def Endpoint.losing {σ : Type} (endpoint : Endpoint σ) (lost : Nat → Bool) :
    Endpoint (Counted σ) where
  answer request counted :=
    if lost counted.asked then (.abandoned, counted.next counted.env)
    else
      let (outcome, env) := endpoint.answer request counted.env
      (outcome, counted.next env)
  clock counted := endpoint.clock counted.env
  sleep milliseconds counted :=
    let (env, notices) := endpoint.sleep milliseconds counted.env
    ({ counted with env := env }, notices)

/-- A request of the broker is granted or refused after the others have done what they like, or it
is lost. -/
theorem Scene.leaves_ask_losing {ρ : Type} {schedule : Schedule} {lost : Nat → Bool}
    {s : Scene ρ (Counted Shared)} {request : BrokerRequest}
    {done : request.Answer → Scene ρ (Counted Shared) → Prop}
    {failed : BrokerError → Scene ρ (Counted Shared) → Prop}
    {dropped : Scene ρ (Counted Shared) → Prop}
    (granted : ∀ number answer broker,
      (s.env.env.others (schedule number).others).broker.perform (schedule number).now request =
          (.ok answer, broker) →
        done answer { s with
          env := s.env.next ((s.env.env.others (schedule number).others).add (.broker request)
            (.done answer) broker) })
    (refused : ∀ number error,
      (schedule number).failure (.broker request) = some error ∨
          ((s.env.env.others (schedule number).others).broker.perform (schedule number).now
            request).1 = .error error →
        failed error { s with
          env := s.env.next ((s.env.env.others (schedule number).others).add (.broker request)
            (.failed error) (s.env.env.others (schedule number).others).broker) })
    (unanswered : lost s.env.asked = true →
      dropped { s with env := s.env.next s.env.env }) :
    Leaves (ask ((Shared.endpoint schedule).losing lost) (.broker request)) s done failed
      dropped := by
  unfold Leaves
  rw [ask_apply]
  simp only [Endpoint.losing, Shared.endpoint, Shared.answer]
  by_cases hlost : lost s.env.asked = true
  · rw [if_pos hlost]
    exact unanswered hlost
  · rw [if_neg hlost]
    rcases (schedule s.env.env.log.length).reply_broker request
      (s.env.env.others (schedule s.env.env.log.length).others).broker with
      ⟨answer, after, hreply, hperform⟩ | ⟨error, hreply, hrefused⟩
    · rw [hreply]
      exact granted _ answer after hperform
    · rw [hreply]
      exact refused _ error hrefused

/-! ## Marks -/

/-- From now on no request is lost, none fails before it reaches the broker, and the session is
open. -/
structure Counted.Clear (schedule : Schedule) (lost : Nat → Bool) (session : SessionHandle)
    (counted : Counted Shared) : Prop where
  answers : ∀ number, counted.asked ≤ number → lost number = false
  succeeds : ∀ number request, (schedule number).failure request = none
  opens : counted.env.Opens session

/-- Surroundings that are clear stay clear. -/
theorem Counted.Clear.next {schedule : Schedule} {lost : Nat → Bool} {session : SessionHandle}
    {counted : Counted Shared} {paid : List MessageId} {env : Shared}
    (h : counted.Clear schedule lost session)
    (htends : Shared.Tends schedule session paid counted.env env) :
    (counted.next env).Clear schedule lost session where
  answers := fun number hnumber => h.answers number (Nat.le_of_succ_le hnumber)
  succeeds := h.succeeds
  opens := htends.opens h.opens

namespace Mark

variable {schedule : Schedule} {lost : Nat → Bool} {session : SessionHandle}

/-- Some of the entries were paid for, and the session holds none of the first ones. -/
structure Paid (schedule : Schedule) (session : SessionHandle) (entries : List PendingDelivery)
    (count : Nat) (before after : Shared) : Prop where
  pays : ∃ paid, Shared.Pays schedule session paid before after ∧ paid ⊆ entries.map (·.id)
  gone : ∀ entry ∈ entries.take count, ¬after.Holds session entry.id

/-- One more entry is over when the session does not hold it. -/
theorem Paid.cons {entry : PendingDelivery} {rest : List PendingDelivery} {count : Nat}
    {paid : List MessageId} {first second third : Shared}
    (h : Paid schedule session rest count second third)
    (hpays : Shared.Pays schedule session paid first second) (hpaid : paid ⊆ [entry.id])
    (hover : ¬second.Holds session entry.id) :
    Paid schedule session (entry :: rest) (count + 1) first third := by
  obtain ⟨paid', hpays', hsub⟩ := h.pays
  refine ⟨⟨paid ++ paid', hpays.trans hpays', ?_⟩, ?_⟩
  · rw [List.map_cons]
    exact List.append_subset.2 ⟨fun id hid => by simp [List.mem_singleton.1 (hpaid hid)],
      fun id hid => List.mem_cons_of_mem _ (hsub hid)⟩
  · intro other hother
    rw [List.take_succ_cons] at hother
    rcases List.mem_cons.1 hother with rfl | hother
    · exact fun hheld => hover ((hpays'.held _).1 hheld).1
    · exact h.gone other hother

/-- Less may be said to be over. -/
theorem Paid.zero {entries : List PendingDelivery} {count : Nat} {first second : Shared}
    (h : Paid schedule session entries count first second) :
    Paid schedule session entries 0 first second :=
  ⟨h.pays, by simp⟩

/-- A mark pays for entries in order. What the broker denies was paid for before. Only a request
that is lost or fails keeps it from going on to the end. -/
theorem leaves_settle_losing (hhonest : schedule.NeverDenies) (entries : List PendingDelivery)
    (s : Scene Mark (Counted Shared)) (hhas : s.env.env.Has session) :
    Leaves (settle ((Shared.endpoint schedule).losing lost) session entries) s
      (fun settlement s' => s'.client = s.client ∧
        Paid schedule session entries settlement.settled s.env.env s'.env.env ∧
        (settlement.failure = none → settlement.settled = entries.length) ∧
        (s.env.Clear schedule lost session → settlement.failure = none))
      (fun _ _ => False)
      (fun s' => s'.client = s.client ∧
        Paid schedule session entries 0 s.env.env s'.env.env ∧
        ¬s.env.Clear schedule lost session) := by
  induction entries generalizing s with
  | nil => exact ⟨rfl, ⟨⟨[], .refl _, by simp⟩, by simp⟩, fun _ => rfl, fun _ => rfl⟩
  | cons entry rest ih =>
    -- What the rest leads to, when the first entry is over.
    have hrest : ∀ (s' : Scene Mark (Counted Shared)) (env : Shared) (paid : List MessageId)
        (add : Nat), s'.client = s.client → s'.env = s.env.next env →
        Shared.Pays schedule session paid s.env.env env → paid ⊆ [entry.id] →
        ¬env.Holds session entry.id →
        Leaves (settle ((Shared.endpoint schedule).losing lost) session rest >>= fun others =>
            return { others with
              acknowledged := others.acknowledged + add, settled := others.settled + 1 }) s'
          (fun settlement s'' => s''.client = s.client ∧
            Paid schedule session (entry :: rest) settlement.settled s.env.env s''.env.env ∧
            (settlement.failure = none → settlement.settled = (entry :: rest).length) ∧
            (s.env.Clear schedule lost session → settlement.failure = none))
          (fun _ _ => False)
          (fun s'' => s''.client = s.client ∧
            Paid schedule session (entry :: rest) 0 s.env.env s''.env.env ∧
            ¬s.env.Clear schedule lost session) := by
      rintro ⟨client, journal, counted⟩ env paid add rfl rfl hpays hpaid hover
      simp only [leaves_bind, leaves_pure]
      refine (ih ⟨s.client, journal, s.env.next env⟩ (hpays.tends.has hhas)).mono ?_
        (fun _ _ => False.elim) ?_
      · rintro settlement s'' ⟨hclient, hrest, hall, hclear⟩
        refine ⟨hclient, hrest.cons hpays hpaid hover, fun hnone => ?_, fun h => ?_⟩
        · show settlement.settled + 1 = rest.length + 1
          rw [hall hnone]
        · exact hclear (h.next hpays.tends)
      · rintro s'' ⟨hclient, hrest, hclear⟩
        exact ⟨hclient, (hrest.cons hpays hpaid hover).zero,
          fun h => hclear (h.next hpays.tends)⟩
    simp only [settle]
    rw [leaves_bind, leaves_attempt]
    refine Scene.leaves_ask_losing ?_ ?_ ?_
    · intro number answer broker hgranted
      have hothers := Shared.pays_others schedule hhas number
      have hpays := hothers.trans (Shared.pays_acknowledge (hothers.tends.has hhas) hgranted)
      refine hrest _ _ _ 1 rfl rfl hpays (by simp) fun hheld => ?_
      exact ((hpays.held _).1 hheld).2 (by simp)
    · intro number error hrefused
      have hothers := Shared.pays_others schedule hhas number
      have hpays := hothers.trans (Shared.pays_failed (hothers.tends.has hhas)
        (.broker (.acknowledge session entry.id)) error)
      obtain ⟨-, found, hfound, hclient⟩ := hothers.tends.has hhas
      dsimp only
      split
      · rename_i hnot
        have hdenied := hrefused.resolve_left fun hf => by
          rw [hhonest _ _ _ _ hf] at hnot
          cases hnot
        rw [leaves_bind, Scene.leaves_note]
        refine hrest _ _ _ 0 rfl rfl hpays (by simp) fun hheld => ?_
        rw [Broker.isNotPending_of_acknowledge hdenied hfound ((Shared.holds_iff hfound).1 hheld)]
          at hnot
        cases hnot
      · rename_i hnot
        refine ⟨rfl, ⟨⟨_, hpays, by simp⟩, by simp⟩, by simp, fun hclear => ?_⟩
        have hdenied := hrefused.resolve_left fun hf => by
          rw [hclear.succeeds] at hf
          cases hf
        obtain ⟨other, hother, hopen⟩ := hothers.tends.opens hclear.opens
        exact (hnot (Broker.isNotPending_of_isOpen hdenied hother hopen)).elim
    · -- A request that is lost does not reach the broker, so nothing is paid for.
      intro hlost
      refine ⟨rfl, ⟨⟨[], .refl _, by simp⟩, by simp⟩, fun hclear => ?_⟩
      rw [hclear.answers _ (Nat.le_refl _)] at hlost
      cases hlost

/-- What a mark that is finalized removes of its entries is over. -/
structure Trimmed (schedule : Schedule) (session : SessionHandle)
    (s s' : Scene Mark (Counted Shared)) : Prop where
  attached : s'.client.session = s.client.session
  removed : ∃ count, s'.client.pending = s.client.pending.drop count ∧
    Paid schedule session s.client.pending count s.env.env s'.env.env

/-- A mark that is finalized to the end has no entries left. One that is dropped has all of them.
-/
theorem leaves_finalize_losing (hhonest : schedule.NeverDenies) (s : Scene Mark (Counted Shared))
    (hattached : s.client.session = some session) (hhas : s.env.env.Has session) :
    Leaves (finalize ((Shared.endpoint schedule).losing lost)) s
      (fun _ s' => Trimmed schedule session s s' ∧ s'.client.pending = [])
      (fun _ s' => Trimmed schedule session s s' ∧ ¬s.env.Clear schedule lost session)
      (fun s' => s'.client = s.client ∧
        Paid schedule session s.client.pending 0 s.env.env s'.env.env ∧
        ¬s.env.Clear schedule lost session) := by
  simp only [finalize, leaves_bind, Scene.leaves_get]
  split
  · rename_i hempty
    refine ⟨⟨rfl, 0, rfl, ⟨⟨[], .refl _, by simp⟩, by simp⟩⟩, List.isEmpty_iff.1 hempty⟩
  · rw [hattached]
    simp only [leaves_bind, Scene.leaves_modifyJournaled, Scene.leaves_count]
    refine (leaves_settle_losing hhonest s.client.pending s hhas).mono ?_ (fun _ _ => False.elim)
      fun _ h => h
    rintro settlement s' ⟨hclient, hpaid, hall, hclear⟩
    -- The settled entries go, whether or not an acknowledgment failed.
    have htrimmed : Trimmed schedule session s
        { client := (s'.client.dropSettled settlement.settled s'.journal).1
          journal := (s'.client.dropSettled settlement.settled s'.journal).2.change .acknowledged
            settlement.acknowledged
          env := s'.env } := by
      refine ⟨?_, settlement.settled, ?_, hpaid⟩
      · rw [session_dropSettled, hclient]
      · rw [pending_dropSettled, hclient]
    split
    · rename_i error hfailure
      refine ⟨htrimmed, fun h => ?_⟩
      rw [hclear h] at hfailure
      cases hfailure
    · rename_i hnone
      refine ⟨htrimmed, ?_⟩
      rw [pending_dropSettled, hclient, hall hnone, List.drop_length]

end Mark

end BrokerConnector
