import BrokerConnector.Proofs.Link

/-!
# Marks that are finalized

Entries are acknowledged in order, each in a transition of its own, up to the first failure. A mark
that is finalized notes nothing unless the broker denied one of its entries on the way.
-/

namespace BrokerConnector

open BrokerConnector.Action

variable {schedule : Schedule} {calm : Prop}

namespace Mark

variable (mark : Mark) (journal : Journal)

@[simp]
theorem pending_untrack (removed : Nat) :
    (mark.untrack removed journal).1.pending = mark.pending := by
  unfold untrack
  dsimp only
  split <;> rfl

@[simp]
theorem session_untrack (removed : Nat) :
    (mark.untrack removed journal).1.session = mark.session := by
  unfold untrack
  dsimp only
  split <;> rfl

@[simp]
theorem sessionId_untrack (removed : Nat) :
    (mark.untrack removed journal).1.sessionId = mark.sessionId := by
  unfold untrack
  dsimp only
  split <;> rfl

@[simp]
theorem notices_untrack (removed : Nat) :
    (mark.untrack removed journal).2.notices = journal.notices := by
  unfold untrack
  dsimp only
  split <;> rfl

@[simp]
theorem pending_dropSettled (count : Nat) :
    (mark.dropSettled count journal).1.pending = mark.pending.drop count :=
  pending_untrack _ _ _

@[simp]
theorem session_dropSettled (count : Nat) :
    (mark.dropSettled count journal).1.session = mark.session :=
  session_untrack _ _ _

@[simp]
theorem notices_dropSettled (count : Nat) :
    (mark.dropSettled count journal).2.notices = journal.notices :=
  notices_untrack _ _ _

/-- How far the acknowledgments of entries went, with the surroundings and the journal before and
after. Either nothing was dropped, or the broker denied an entry on the way. -/
structure Settled (calm : Prop) (name : String) (hold : Hold) (skipped : List MessageId)
    (delivered : List Message) (entries : List PendingDelivery) (s : Scene Mark Shared)
    (settlement : Settlement) (s' : Scene Mark Shared) : Prop where
  client : s'.client = s.client
  steps : Ledger.Steps calm name ⟨entries, skipped, hold, delivered, s.env⟩
    ⟨entries.drop settlement.settled, skipped, hold, delivered, s'.env⟩
  all : settlement.failure = none → settlement.settled = entries.length
  sessions : s.env.sessions ⊆ s'.env.sessions
  dropped : s'.journal = s.journal ∨
    Ledger.Disputed calm name ⟨entries, skipped, hold, delivered, s.env⟩
      ⟨entries.drop settlement.settled, skipped, hold, delivered, s'.env⟩

/-- One more entry was settled before. -/
theorem Settled.cons {name : String} {hold : Hold} {skipped : List MessageId}
    {delivered : List Message} {entry : PendingDelivery} {rest : List PendingDelivery}
    {s s' s'' : Scene Mark Shared} {settlement settlement' : Settlement}
    (h : Settled calm name hold skipped delivered rest s' settlement s'')
    (client : s'.client = s.client) (sessions : s.env.sessions ⊆ s'.env.sessions)
    (settled : settlement'.settled = settlement.settled + 1)
    (failure : settlement'.failure = settlement.failure)
    {middle : Ledger}
    (hbefore : Ledger.Steps calm name ⟨entry :: rest, skipped, hold, delivered, s.env⟩ middle)
    (hstep : Ledger.Step calm name middle ⟨rest, skipped, hold, delivered, s'.env⟩)
    (hdropped : s'.journal = s.journal ∨ middle.Denied) :
    Settled calm name hold skipped delivered (entry :: rest) s settlement' s'' := by
  have hsteps := (hbefore.tail hstep).trans h.steps
  have hdrop : (entry :: rest).drop settlement'.settled = rest.drop settlement.settled := by
    rw [settled, List.drop_succ_cons]
  constructor
  · exact h.client.trans client
  · rw [hdrop]
    exact hsteps
  · intro hnone
    rw [settled, h.all (failure ▸ hnone), List.length_cons]
  · exact fun index hi => h.sessions (sessions hi)
  · rw [hdrop]
    rcases hdropped with hjournal | hdenied
    · rcases h.dropped with hsame | ⟨denied, hdenied, hto, hfrom⟩
      · exact .inl (hsame.trans hjournal)
      · exact .inr ⟨denied, hdenied, (hbefore.tail hstep).trans hto, hfrom⟩
    · exact .inr ⟨middle, hdenied, hbefore, (Relation.ReflTransGen.single hstep).trans h.steps⟩

/-- The acknowledgments of entries settle them in order, up to the first failure. -/
theorem ensures_settle {name : String} {handle : SessionHandle} {consumer : ConsumerHandle}
    {skipped : List MessageId} {delivered : List Message} (hcalm : calm → schedule.Publishes)
    (hhonest : schedule.NeverDenies)
    (entries : List PendingDelivery) (s : Scene Mark Shared)
    (hopened : handle.index ∈ s.env.sessions) :
    Ensures (settle (Shared.endpoint schedule) handle entries) s
      (fun settlement s' => Settled calm name (.held handle consumer) skipped delivered entries s
        settlement s')
      (fun _ _ => False) := by
  induction entries generalizing s with
  | nil =>
    exact ⟨rfl, .refl, fun _ => rfl, List.Subset.refl _, .inl rfl⟩
  | cons entry rest ih =>
    have hkept : ∀ index, index = handle.index → index ∈ s.env.sessions := fun index h =>
      h ▸ hopened
    -- What others do before the answer comes is a step of its own.
    have hpass : ∀ env, Shared.Passes calm True (· = handle.index) s.env env →
        Ledger.Steps calm name ⟨entry :: rest, skipped, .held handle consumer, delivered, s.env⟩
          ⟨entry :: rest, skipped, .held handle consumer, delivered, env⟩ := by
      intro env h
      refine .single (.pass env (h.mono id (fun _ => trivial) ?_))
      rintro index ⟨_, _, he, hindex⟩
      cases he
      exact hindex.symm
    simp only [settle, ensures_bind, ensures_attempt]
    refine Scene.ensures_request hcalm hkept ?_ ?_
    · intro middle now answer broker hpasses hgranted
      have hsub := middle.subset_sessions_add (.broker (.acknowledge handle entry.id))
        (.done answer) broker
      simp only [ensures_pure]
      refine (ih _ (hsub (hpasses.sessions hopened))).mono ?_ fun _ _ => False.elim
      intro settlement s' h
      refine h.cons rfl (fun index hi => hsub (hpasses.sessions hi)) rfl rfl (hpass _ hpasses)
        (.acknowledge handle consumer now broker entry rest rfl rfl hgranted) (.inl rfl)
    · intro middle number error hpasses hrefused
      have hsub := middle.subset_sessions_add (.broker (.acknowledge handle entry.id))
        (.failed error) middle.broker
      split
      · rename_i hnot
        -- A schedule never makes up a denial, so the broker itself does not know of the delivery.
        have hdenied := hrefused.resolve_left fun hf => by
          rw [hhonest _ _ _ _ hf] at hnot
          cases hnot
        simp only [ensures_bind, ensures_pure, Scene.ensures_note]
        refine (ih _ (hsub (hpasses.sessions hopened))).mono ?_ fun _ _ => False.elim
        intro settlement s' h
        refine h.cons rfl (fun index hi => hsub (hpasses.sessions hi)) rfl rfl (hpass _ hpasses)
          (.drop handle consumer _ error entry rest rfl rfl hdenied hnot) (.inr ?_)
        exact ⟨handle, consumer, entry, rest, _, error, rfl, rfl, hdenied, hnot⟩
      · refine ⟨rfl, ?_, by simp, fun index hi => hsub (hpasses.sessions hi), .inl rfl⟩
        exact hpass _ (hpasses.trans (Shared.passes_failed _ error))

/-- What a mark ends with when it was finalized. Nothing is noted unless the broker denied an
entry. -/
structure Finalized (calm : Prop) (name : String) (hold : Hold) (skipped : List MessageId)
    (delivered : List Message) (s s' : Scene Mark Shared) : Prop where
  session : s'.client.session = s.client.session
  sessions : s.env.sessions ⊆ s'.env.sessions
  steps : Ledger.Steps calm name ⟨s.client.pending, skipped, hold, delivered, s.env⟩
    ⟨s'.client.pending, skipped, hold, delivered, s'.env⟩
  noticed : s'.journal.notices = s.journal.notices ∨
    Ledger.Disputed calm name ⟨s.client.pending, skipped, hold, delivered, s.env⟩
      ⟨s'.client.pending, skipped, hold, delivered, s'.env⟩

/-- A mark that is finalized settles its entries in order. If that did not fail, none is left. A
detached mark asks for nothing. -/
theorem ensures_finalize {name : String} {hold : Hold} {skipped : List MessageId}
    {delivered : List Message} (hcalm : calm → schedule.Publishes) (hhonest : schedule.NeverDenies)
    (s : Scene Mark Shared)
    (hheld : ∀ handle, s.client.session = some handle →
      handle.index ∈ s.env.sessions ∧ ∃ consumer, hold = .held handle consumer) :
    Ensures (finalize (Shared.endpoint schedule)) s
      (fun _ s' => Finalized calm name hold skipped delivered s s' ∧ s'.client.pending = [])
      (fun _ s' => Finalized calm name hold skipped delivered s s') := by
  simp only [finalize, ensures_bind, Scene.ensures_get]
  split
  · rename_i hempty
    exact ⟨⟨rfl, List.Subset.refl _, .refl, .inl rfl⟩, List.isEmpty_iff.1 hempty⟩
  · cases hsession : s.client.session with
    | none => exact ⟨rfl, List.Subset.refl _, .refl, .inl rfl⟩
    | some handle =>
      obtain ⟨hopened, consumer, rfl⟩ := hheld handle hsession
      simp only [ensures_bind, Scene.ensures_modifyJournaled, Scene.ensures_count]
      have hsettle : Ensures (settle (Shared.endpoint schedule) handle s.client.pending) s
          (Settled calm name (.held handle consumer) skipped delivered s.client.pending s)
          (fun _ _ => False) := ensures_settle hcalm hhonest s.client.pending s hopened
      refine hsettle.mono ?_ fun _ _ => False.elim
      intro settlement s' h
      -- The settled entries go, whether or not an acknowledgment failed.
      have hfinalized : Finalized calm name (.held handle consumer) skipped delivered s
          { client := (s'.client.dropSettled settlement.settled s'.journal).1
            journal := (s'.client.dropSettled settlement.settled s'.journal).2.change .acknowledged
              settlement.acknowledged
            env := s'.env } := by
        constructor
        · rw [session_dropSettled, h.client]
        · exact h.sessions
        · rw [pending_dropSettled, h.client]
          exact h.steps
        · rw [pending_dropSettled, h.client]
          refine h.dropped.imp_left fun hjournal => ?_
          rw [← hjournal]
          exact notices_dropSettled _ _ _
      split
      · exact hfinalized
      · rename_i hnone
        refine ⟨hfinalized, ?_⟩
        rw [pending_dropSettled, h.client, h.all hnone, List.drop_length]

end Mark

end BrokerConnector
