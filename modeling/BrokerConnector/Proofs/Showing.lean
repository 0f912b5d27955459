import BrokerConnector.Proofs.Accounting
import BrokerConnector.Proofs.Bounded
import BrokerConnector.Proofs.Mirror

/-!
# What a reader shows

A reader shows the record of the message that it received last, if the call that received it emitted
it and the reader is still consuming. Every call that looks for a message forgets the record first
and sets it again only when it emits one; a reader that is not consuming shows nothing, and a
finalization changes only the mark. The record and its timestamp are kept apart, but no call ends
between the two (`Displays`). So along a course the current record is always that of the last poll
(`Course.Shows`), and what is told about polls tells what is shown (`shows_what_was_emitted_last`).
-/

namespace BrokerConnector

open BrokerConnector.Action

/-- A call leaves a record exactly if it emitted one. -/
theorem ReadConfig.isSome_iff_of_verdict {α : Type} {config : ReadConfig α} {receipt : Receipt}
    {outcome : Outcome ConnectorError Bool} {current : Option (Timestamped α)}
    (h : (outcome, current) = config.verdict receipt) :
    current.isSome = true ↔ outcome = .done true := by
  unfold ReadConfig.verdict at h
  split at h
  · simp_all
  · simp_all
  · simp_all
  · split at h
    · simp_all
    · split at h <;> simp_all

namespace Reader

variable {α σ : Type} {s : Scene (Reader α) σ}

/-- A reader that shows a record together with its timestamp, or neither of them. -/
def Displays (reader : Reader α) (current : Option (Timestamped α)) : Prop :=
  reader.record = current.map (·.value) ∧ reader.timestamp = current.map (·.timestamp)

/-- What a reader displays is its current record. -/
theorem Displays.current_eq {reader : Reader α} {shown : Option (Timestamped α)}
    (h : reader.Displays shown) : reader.current = shown := by
  obtain ⟨hrecord, htimestamp⟩ := h
  cases shown with
  | none => simp only [current, hrecord, Option.map_none]
  | some shown => simp only [current, hrecord, htimestamp, Option.map_some]

theorem currentValue_eq_ok_iff {reader : Reader α} {value : α} :
    reader.currentValue = .ok value ↔ reader.record = some value := by
  unfold currentValue
  cases reader.record <;> simp

theorem currentTimestamp_eq_ok_iff {reader : Reader α} {timestamp : Int64} :
    reader.currentTimestamp = .ok timestamp ↔ reader.timestamp = some timestamp := by
  unfold currentTimestamp
  cases reader.timestamp <;> simp

/-! ## What the calls leave shown -/

/-- A reader that shows nothing shows what it emits, and nothing if it cannot map the message. -/
theorem leaves_emit_displays (message : Message) (id : MessageId)
    (hblank : s.client.Displays none) :
    Leaves (emit message id) s (fun _ s' => ∃ shown, s'.client.Displays shown)
      (fun _ s' => s'.client.Displays none) (fun s' => s'.client.Displays none) := by
  simp only [emit, leaves_bind, Scene.leaves_get]
  split
  · exact hblank
  · rename_i value _
    exact ⟨some ⟨value, message.timestamp⟩, rfl, rfl⟩

/-- A reader that polls shows nothing until it goes on with a message that it listed. -/
theorem leaves_poll_of_resume {endpoint : Endpoint σ} {consumer : ConsumerHandle} {budget : Nat}
    (hblank : s.client.Displays none)
    (hresume : ∀ (s' : Scene (Reader α) σ) message id, s'.client.Displays none →
      Leaves (resume endpoint consumer message id budget) s'
        (fun _ s'' => ∃ shown, s''.client.Displays shown) (fun _ s'' => s''.client.Displays none)
        (fun s'' => s''.client.Displays none)) :
    Leaves (poll endpoint consumer budget) s (fun _ s' => ∃ shown, s'.client.Displays shown)
      (fun _ s' => s'.client.Displays none) (fun s' => s'.client.Displays none) := by
  unfold poll
  simp only [leaves_bind, leaves_mapError]
  refine Scene.leaves_ask ?_ (fun _ _ _ => hblank) (fun _ _ => hblank)
  intro answer env _
  cases answer with
  | none => exact ⟨none, hblank⟩
  | some message =>
    cases hid : message.id with
    | none =>
      simp only [hid]
      exact hblank
    | some id =>
      simp only [hid, leaves_bind, Scene.leaves_modifyJournaled]
      exact hresume _ message id hblank

/-- A search that fails or is abandoned shows nothing. -/
theorem leaves_poll_displays (endpoint : Endpoint σ) (consumer : ConsumerHandle) (budget : Nat)
    (hblank : s.client.Displays none) :
    Leaves (poll endpoint consumer budget) s (fun _ s' => ∃ shown, s'.client.Displays shown)
      (fun _ s' => s'.client.Displays none) (fun s' => s'.client.Displays none) := by
  -- The induction is on the budget: a message that is skipped leaves nothing shown to the next one.
  induction budget generalizing s with
  | zero => exact leaves_poll_of_resume hblank fun _ message id => leaves_emit_displays message id
  | succ budget ih =>
    refine leaves_poll_of_resume hblank fun s' message id hnone => ?_
    simp only [resume, leaves_bind, Scene.leaves_get]
    split
    · simp only [leaves_bind, Scene.leaves_modify, Scene.leaves_count]
      exact ih hnone
    · exact leaves_emit_displays message id hnone

/-- A reader that is consuming and fails to advance shows nothing. -/
theorem leaves_advance_displays (endpoint : Endpoint σ) (hstate : s.client.state = .consuming) :
    Leaves (advance endpoint) s (fun _ s' => ∃ shown, s'.client.Displays shown)
      (fun _ s' => s'.client.Displays none) (fun s' => s'.client.Displays none) := by
  simp only [advance, leaves_bind, Scene.leaves_get]
  rw [if_neg fun h => h hstate]
  simp only [leaves_bind, Scene.leaves_modify]
  split
  · exact ⟨rfl, rfl⟩
  · exact leaves_poll_displays endpoint _ _ ⟨rfl, rfl⟩

/-- A reader shows what it showed while it acquires its resources. -/
theorem leaves_acquire_displays (endpoint : Endpoint σ) {shown : Option (Timestamped α)}
    (hdisplays : s.client.Displays shown) :
    Leaves (acquire endpoint) s (fun _ s' => s'.client.Displays shown)
      (fun _ s' => s'.client.Displays shown) (fun s' => s'.client.Displays shown) := by
  simp only [acquire, leaves_bind, Scene.leaves_get, withLink, Scene.leaves_within, setupStep,
    leaves_mapError, Scene.leaves_modify, Scene.leaves_modifyJournaled]
  refine .of_forall ?_ (fun _ _ => hdisplays) (fun _ => hdisplays)
  intro session s₁
  refine Scene.leaves_ask ?_ (fun _ _ _ => hdisplays) (fun _ _ => hdisplays)
  intro destination env _
  refine Scene.leaves_ask ?_ (fun _ _ _ => hdisplays) (fun _ _ => hdisplays)
  intro consumer env _
  exact Scene.leaves_ask (fun _ _ _ => hdisplays) (fun _ _ _ => hdisplays) (fun _ _ => hdisplays)

/-- A reader that was closed shows nothing. While it is closed it shows what it showed. -/
theorem leaves_close_displays (endpoint : Endpoint σ) {shown : Option (Timestamped α)}
    (hdisplays : s.client.Displays shown) :
    Leaves (close endpoint) s (fun _ s' => s'.client.Displays none)
      (fun _ s' => s'.client.Displays none) (fun s' => s'.client.Displays shown) := by
  simp only [close, leaves_bind, withLink, Scene.leaves_within, Scene.leaves_modifyJournaled]
  refine (leaves_releaseConsumer endpoint s).mono ?_ (fun _ _ => False.elim) ?_
  · rintro ofConsumer s₁ ⟨consumer, hclient₁⟩
    refine (Link.leaves_release endpoint _).mono ?_ (fun _ _ => False.elim) ?_
    · intro ofLink s₂ _
      refine (leaves_releaseEstimator endpoint _).mono ?_ (fun _ _ => False.elim) ?_
      · intro _ s₃ _
        split
        · exact ⟨rfl, rfl⟩
        · exact ⟨rfl, rfl⟩
      · rintro s₃ ⟨estimator, hclient₃⟩
        rw [hclient₃, hclient₁]
        exact hdisplays
    · intro s₂ _
      rw [hclient₁]
      exact hdisplays
  · rintro s₁ ⟨consumer, hclient₁⟩
    rw [hclient₁]
    exact hdisplays

/-- A reader that shows nothing and fails to start still shows nothing. -/
theorem leaves_start_displays (endpoint : Endpoint σ) (hblank : s.client.Displays none) :
    Leaves (start endpoint) s (fun _ s' => ∃ shown, s'.client.Displays shown)
      (fun _ s' => s'.client.Displays none) (fun s' => s'.client.Displays none) := by
  simp only [start, leaves_bind, Scene.leaves_get]
  split
  · exact hblank
  · simp only [leaves_bind, Scene.leaves_modify, leaves_attempt]
    let connecting : Scene (Reader α) σ :=
      { s with client := { s.client with state := .connecting } }
    have hconnecting : connecting.client.Displays none := hblank
    refine (leaves_acquire_displays endpoint hconnecting).mono ?_ ?_ (fun _ => id)
    · exact fun _ _ _ => leaves_advance_displays endpoint rfl
    · intro error s₁ h
      simp only [Scene.leaves_note]
      exact leaves_close_displays endpoint h

/-! ## Courses -/

namespace Course

variable {endpoint : Endpoint σ} {config : ReadConfig α} {listed : List MessageId}
  {course : Course α σ}

/-- Whenever the reader is closed, that comes to an end. -/
def Closes (endpoint : Endpoint σ) (course : Course α σ) (uses : List Use) : Prop :=
  ∀ before after, uses = before ++ .close :: after →
    (close endpoint.recorded (course.run endpoint before).scene).1 ≠ .abandoned

/-- A reader shows what its last poll left, and that only while it is consuming. -/
structure Shows (course : Course α σ) : Prop where
  working : course.scene.client.state = .consuming → course.scene.client.isAtWork = true ∧
    ∃ poll, course.polls.getLast? = some poll ∧ course.scene.client.Displays poll.current
  idle : course.scene.client.state ≠ .consuming → course.scene.client.Displays none

/-- A reader always shows its current record with its timestamp. -/
theorem Shows.displays (h : course.Shows) :
    course.scene.client.Displays course.scene.client.current := by
  by_cases hstate : course.scene.client.state = .consuming
  · obtain ⟨-, poll, -, hdisplays⟩ := h.working hstate
    rwa [hdisplays.current_eq]
  · rw [(h.idle hstate).current_eq]
    exact h.idle hstate

/-- A call that looked for a message leaves what its poll left. -/
theorem Shows.polled (course : Course α σ) (outcome : Outcome ConnectorError Bool)
    {scene : Scene (Reader α) (Recorded σ)} (hwork : scene.client.isAtWork = true)
    {shown : Option (Timestamped α)} (hdisplays : scene.client.Displays shown) :
    (course.polled outcome scene).Shows := by
  refine ⟨fun _ => ⟨hwork, _, List.getLast?_concat .., ?_⟩,
    fun hidle => (hidle (state_of_isAtWork hwork)).elim⟩
  change scene.client.Displays scene.client.current
  rwa [hdisplays.current_eq]

/-- A reader that is not consuming any more shows nothing. -/
theorem Shows.moved {scene : Scene (Reader α) (Recorded σ)}
    (hidle : scene.client.state ≠ .consuming) (hblank : scene.client.Displays none) :
    (course.moved scene).Shows :=
  ⟨fun hconsuming => (hidle hconsuming).elim, fun _ => hblank⟩

/-- A reader shows its last poll when it is started. -/
theorem Shows.start (h : course.Shows) (hsound : course.Sound config listed) :
    (course.use endpoint .start).Shows := by
  have huse : course.use endpoint .start =
      if course.scene.client.state = .uninitialized ∧
          (Reader.start endpoint.recorded course.scene).2.client.isAtWork then
        course.polled (Reader.start endpoint.recorded course.scene).1
          (Reader.start endpoint.recorded course.scene).2
      else course.moved (Reader.start endpoint.recorded course.scene).2 := rfl
  by_cases hstate : course.scene.client.state = .uninitialized
  · rcases hsound with hunstarted | hbalanced
    · obtain ⟨hsession, hskipped, -⟩ := hunstarted.fresh hstate
      have hreceipts : course.scene.env.receipts = [] := by
        rw [Recorded.receipts, hunstarted.events]
        rfl
      have hstopped : ∀ s' : Scene (Reader α) (Recorded σ), Stopped course.scene s' →
          s'.client.state ≠ .consuming := by
        intro s' hstopped
        rcases hstopped.state with hconnecting | hclosed
        · simp [hconnecting]
        · simp [hclosed]
      -- Either the reader polled, or it holds nothing and shows nothing.
      have hended : ((Reader.start endpoint.recorded course.scene).2.client.isAtWork = true ∧
            ∃ shown, (Reader.start endpoint.recorded course.scene).2.client.Displays shown) ∨
          (Reader.start endpoint.recorded course.scene).2.client.state ≠ .consuming ∧
            (Reader.start endpoint.recorded course.scene).2.client.Displays none := by
        refine (((leaves_start endpoint course.scene hstate hsession hskipped hreceipts).both
          (leaves_start_displays endpoint.recorded (h.idle hunstarted.idle))).mono
            ?_ ?_ ?_).result fun _ (s' : Scene (Reader α) (Recorded σ)) =>
              (s'.client.isAtWork = true ∧ ∃ shown, s'.client.Displays shown) ∨
                s'.client.state ≠ .consuming ∧ s'.client.Displays none
        · exact fun _ _ hboth => .inl ⟨hboth.1.isAtWork, hboth.2⟩
        · exact fun _ s' hboth => hboth.1.imp (fun hs => ⟨Started.isAtWork hs, none, hboth.2⟩)
            fun hs => ⟨hstopped s' hs, hboth.2⟩
        · exact fun s' hboth => hboth.1.imp (fun hs => ⟨Started.isAtWork hs, none, hboth.2⟩)
            fun hs => ⟨hstopped s' hs, hboth.2⟩
      rcases hended with ⟨hwork, shown, hdisplays⟩ | ⟨hidle, hblank⟩
      · rw [huse, if_pos ⟨hstate, hwork⟩]
        exact .polled course _ hwork hdisplays
      · rw [huse, if_neg (by simp [isAtWork, hidle])]
        exact .moved hidle hblank
    · exact (hbalanced.state hstate).elim
  · rw [huse, if_neg fun hfresh => hstate hfresh.1, start_of_ne_uninitialized _ hstate]
    exact h

/-- A reader shows its last poll when it is advanced. -/
theorem Shows.advance (h : course.Shows) (hsound : course.Sound config listed) :
    (course.use endpoint .advance).Shows := by
  have huse : course.use endpoint .advance =
      if course.scene.client.isAtWork then
        course.polled (Reader.advance endpoint.recorded course.scene).1
          (Reader.advance endpoint.recorded course.scene).2
      else course.moved (Reader.advance endpoint.recorded course.scene).2 := rfl
  by_cases hstate : course.scene.client.state = .consuming
  · have hwork := (h.working hstate).1
    rcases hsound with hunstarted | hbalanced
    · exact (hunstarted.idle hstate).elim
    · obtain ⟨receipts, hsearched⟩ := (leaves_advance endpoint hwork hbalanced.awaits).result
        (Searching listed course.scene)
      obtain ⟨shown, hdisplays⟩ := ((leaves_advance_displays endpoint.recorded hstate).mono
        (fun _ _ => id) (fun _ _ hblank => ⟨none, hblank⟩) fun _ hblank => ⟨none, hblank⟩).result
          fun _ (s' : Scene (Reader α) (Recorded σ)) => ∃ shown, s'.client.Displays shown
      rw [huse, if_pos hwork]
      exact .polled course _ (hsearched.isAtWork hwork) hdisplays
  · have hidle : course.scene.client.isAtWork = false := by simp [isAtWork, hstate]
    have hsame : (Reader.advance endpoint.recorded course.scene).2 = course.scene := by
      simp [Reader.advance, bind_apply, hstate]
    rw [huse, hidle, if_neg Bool.false_ne_true, hsame]
    exact h

/-- A reader shows what it showed when it is finalized. -/
theorem Shows.finalize (h : course.Shows) : (course.use endpoint .finalize).Shows :=
  ⟨h.working, h.idle⟩

/-- A reader that was closed shows nothing. -/
theorem Shows.close (h : course.Shows)
    (hends : (Reader.close endpoint.recorded course.scene).1 ≠ .abandoned) :
    (course.use endpoint .close).Shows := by
  have hclosed : (Reader.close endpoint.recorded course.scene).2.client.state = .closed ∧
      (Reader.close endpoint.recorded course.scene).2.client.Displays none := by
    refine (((leaves_close endpoint.recorded course.scene).both
      (leaves_close_displays endpoint.recorded h.displays)).mono ?_ ?_ ?_).result
        (fun outcome (s' : Scene (Reader α) (Recorded σ)) => outcome ≠ .abandoned →
          s'.client.state = .closed ∧ s'.client.Displays none) hends
    · exact fun _ _ hboth _ => ⟨hboth.1.2, hboth.2⟩
    · exact fun _ _ hboth _ => ⟨hboth.1.2, hboth.2⟩
    · exact fun _ _ hends => (hends rfl).elim
  have huse : course.use endpoint .close =
      course.moved (Reader.close endpoint.recorded course.scene).2 := rfl
  rw [huse]
  exact .moved (by simp [hclosed.1]) hclosed.2

/-- A reader shows its last poll, whatever is done. -/
theorem Shows.run (h : course.Shows) (hsound : course.Sound config listed) {uses : List Use}
    (hcloses : course.Closes endpoint uses) : (course.run endpoint uses).Shows := by
  induction uses generalizing course with
  | nil => exact h
  | cons first rest ih =>
    have hrest : (course.use endpoint first).Closes endpoint rest :=
      fun before after hsplit => hcloses (first :: before) after (congrArg (first :: ·) hsplit)
    cases first with
    | start => exact ih (h.start hsound) hsound.start hrest
    | advance => exact ih (h.advance hsound) hsound.advance hrest
    | finalize => exact ih h.finalize hsound.finalize hrest
    | close => exact ih (h.close (hcloses [] rest rfl)) hsound.close hrest

/-! ## What is shown -/

/-- The last poll of a reader in balance ended as its last receipt settles. -/
theorem Balanced.getLast?_receipts (h : course.Balanced config listed) {poll : Poll α}
    (hlast : course.polls.getLast? = some poll) :
    ∃ last, course.receipts.getLast? = some last ∧
      (poll.outcome, poll.current) = config.verdict last := by
  obtain ⟨earlier, hpolls⟩ := List.getLast?_eq_some_iff.1 hlast
  obtain ⟨last, hreceipt, hverdict⟩ := (h.accounted earlier poll [] hpolls).verdict
  refine ⟨last, ?_, hverdict⟩
  rw [h.receipts, hpolls, List.flatMap_append, List.flatMap_singleton, List.getLast?_append,
    hreceipt]
  rfl

/-- The watermark is no later than the timestamp of a message that was received and is not settled
yet. -/
theorem Balanced.watermark_le (h : course.Balanced config listed) {before after : List (Poll α)}
    {poll : Poll α} (hpolls : course.polls = before ++ poll :: after) {message : Message}
    (hlast : poll.receipts.getLast? = some (.done (some message)))
    (hidentified : message.id.isSome)
    (hkept : course.settled.length ≤
      ((before.flatMap (·.receipts) ++ poll.receipts.dropLast).filterMap (·.delivery?)).length) :
    course.scene.client.watermark ≤ message.timestamp := by
  obtain ⟨id, hid⟩ := Option.isSome_iff_exists.1 hidentified
  have hreceipts : course.receipts = (before.flatMap (·.receipts) ++ poll.receipts.dropLast) ++
      .done (some message) :: after.flatMap (·.receipts) := by
    rw [h.receipts, hpolls, List.flatMap_append, List.flatMap_cons,
      ← List.dropLast_append_getLast? _ hlast]
    simp
  have hentry : Receipt.delivery? (.done (some message)) = some ⟨id, message.timestamp⟩ := by
    simp [Receipt.delivery?, hid]
  have hbalance := h.balance
  rw [hreceipts, List.filterMap_append, List.filterMap_cons_some hentry] at hbalance
  have hpending := congrArg (List.drop course.settled.length) hbalance
  rw [List.drop_left, List.drop_append_of_le_length hkept] at hpending
  have hmem : ⟨id, message.timestamp⟩ ∈ course.pending := by
    rw [hpending]
    exact List.mem_append_right _ List.mem_cons_self
  exact Mark.watermark_le hmem

/-- A reader is consuming, and its last poll emitted a record. -/
def EmittedLast (course : Course α σ) : Prop :=
  course.scene.client.state = .consuming ∧
    ∃ poll, course.polls.getLast? = some poll ∧ poll.outcome = .done true

/-- A reader that is consuming is in balance. -/
theorem Sound.balanced (h : course.Sound config listed)
    (hstate : course.scene.client.state = .consuming) : course.Balanced config listed :=
  h.resolve_left fun hunstarted => hunstarted.idle hstate

/-- A reader shows a record exactly if it is consuming and its last poll emitted one. -/
theorem Shows.isSome_current_iff (h : course.Shows) (hsound : course.Sound config listed) :
    course.scene.client.current.isSome = true ↔ course.EmittedLast := by
  by_cases hstate : course.scene.client.state = .consuming
  · obtain ⟨-, poll, hlast, hdisplays⟩ := h.working hstate
    obtain ⟨receipt, -, hverdict⟩ := (hsound.balanced hstate).getLast?_receipts hlast
    rw [hdisplays.current_eq, ReadConfig.isSome_iff_of_verdict hverdict]
    refine ⟨fun hemitted => ⟨hstate, poll, hlast, hemitted⟩, ?_⟩
    rintro ⟨-, other, hother, hemitted⟩
    rwa [← Option.some.inj (hlast.symm.trans hother)] at hemitted
  · rw [(h.idle hstate).current_eq]
    simp [EmittedLast, hstate]

/-- What a reader shows is made of the message that it received last. -/
theorem Shows.exists_message (h : course.Shows) (hsound : course.Sound config listed)
    {shown : Timestamped α} (hshown : course.scene.client.current = some shown) :
    ∃ message, course.receipts.getLast? = some (.done (some message)) ∧
      config.mapper message = .ok shown.value ∧ shown.timestamp = message.timestamp := by
  obtain ⟨hstate, poll, hlast, hemitted⟩ :=
    (h.isSome_current_iff hsound).1 (by rw [hshown]; rfl)
  obtain ⟨-, other, hother, hdisplays⟩ := h.working hstate
  obtain rfl := Option.some.inj (hlast.symm.trans hother)
  obtain ⟨receipt, hreceipt, hverdict⟩ := (hsound.balanced hstate).getLast?_receipts hlast
  rw [hemitted, ← hdisplays.current_eq, hshown] at hverdict
  obtain ⟨message, record, rfl, hrecord, hyields⟩ := ReadConfig.yields_of_verdict hverdict
  obtain rfl := Option.some.inj hrecord
  exact ⟨message, hreceipt, hyields.mapped, hyields.timestamp⟩

/-- A use that looked for a message adds one poll, which left what is shown then, and settles
nothing. -/
theorem use_polls (endpoint : Endpoint σ) (course : Course α σ) (use : Use) :
    (course.use endpoint use).polls = course.polls ∨
      (course.use endpoint use).settled = course.settled ∧
        ∃ poll, (course.use endpoint use).polls = course.polls ++ [poll] ∧
          poll.current = (course.use endpoint use).scene.client.current := by
  cases use with
  | start | advance =>
    simp only [Course.use]
    split
    · exact .inr ⟨rfl, _, rfl, rfl⟩
    · exact .inl rfl
  | finalize | close => exact .inl rfl

/-- A sound course settled no more than it received. -/
theorem Sound.length_settled_le (h : course.Sound config listed) :
    course.settled.length ≤
      ((course.polls.flatMap (·.receipts)).filterMap (·.delivery?)).length := by
  rcases h with hunstarted | hbalanced
  · simp [hunstarted.settled]
  · rw [← hbalanced.receipts, ← hbalanced.balance, List.length_append]
    exact Nat.le_add_right _ _

/-- The watermark is no later than the timestamp of a message that was emitted and is not settled
yet. -/
theorem Sound.watermark_le (h : course.Sound config listed) {before after : List (Poll α)}
    {poll : Poll α} (hpolls : course.polls = before ++ poll :: after)
    (hemitted : poll.outcome = .done true) {message : Message}
    (hlast : poll.receipts.getLast? = some (.done (some message)))
    (hkept : course.settled.length ≤
      ((before.flatMap (·.receipts) ++ poll.receipts.dropLast).filterMap (·.delivery?)).length) :
    course.scene.client.watermark ≤ message.timestamp := by
  rcases h with hunstarted | hbalanced
  · rw [hunstarted.polls] at hpolls
    simp at hpolls
  · obtain ⟨last, hreceipt, hverdict⟩ := (hbalanced.accounted before poll after hpolls).verdict
    rw [hemitted, ← Option.some.inj (hlast.symm.trans hreceipt)] at hverdict
    obtain ⟨other, _, hother, -, hyields⟩ := ReadConfig.yields_of_verdict hverdict
    obtain rfl : message = other := by simpa using hother
    exact hbalanced.watermark_le hpolls hlast hyields.identified hkept

/-- When a poll returns that emitted a record, its message is not settled yet. -/
theorem Sound.shown_of_use (h : course.Sound config listed) {use : Use}
    (hafter : (course.use endpoint use).Sound config listed) {poll : Poll α}
    (hpolls : (course.use endpoint use).polls = course.polls ++ [poll])
    (hemitted : poll.outcome = .done true) :
    ∃ shown, (course.use endpoint use).scene.client.current = some shown ∧
      (course.use endpoint use).scene.client.watermark ≤ shown.timestamp := by
  rcases course.use_polls endpoint use with hsame | ⟨hsettled, other, hother, hcurrent⟩
  · rw [hsame] at hpolls
    simp at hpolls
  · -- Nothing was settled since the message came, which is behind all that was received before.
    obtain rfl : poll = other := by simpa using hpolls.symm.trans hother
    have hbalanced : (course.use endpoint use).Balanced config listed := by
      refine hafter.resolve_left fun hunstarted => ?_
      rw [hunstarted.polls] at hpolls
      simp at hpolls
    obtain ⟨last, hreceipt, hverdict⟩ := (hbalanced.accounted course.polls poll [] hpolls).verdict
    rw [hemitted] at hverdict
    obtain ⟨message, shown, rfl, hshown, hyields⟩ := ReadConfig.yields_of_verdict hverdict
    refine ⟨shown, hcurrent.symm.trans hshown, ?_⟩
    rw [hyields.timestamp]
    refine hafter.watermark_le hpolls hemitted hreceipt ?_
    rw [hsettled, List.filterMap_append, List.length_append]
    exact Nat.le_add_right_of_le h.length_settled_le

/-- A reader that is started and closed at will, and that is never left while it is closed, shows
the record of its last poll. It shows one exactly while it is consuming and that poll emitted one:
then it shows what the mapper makes of the message that it received last, with the timestamp of that
message. The watermark is no later than the timestamp of any message that was emitted and that no
finalization took from the mark; when the poll returns, this is so of the record that is shown. A
call that the state of the reader does not allow is refused and changes nothing, and a finalization
leaves what is shown. -/
theorem shows_what_was_emitted_last (endpoint : Endpoint σ) (config : ReadConfig α)
    {restored : Option Mark} (hrestored : ∀ mark, restored = some mark → mark.session = none)
    (journal : Journal) (env : σ) (uses : List Use)
    (hcloses : (opening config restored journal env).Closes endpoint uses) :
    let course := (opening config restored journal env).run endpoint uses
    let reader := course.scene.client
    (reader.state = .consuming → reader.isAtWork = true) ∧
    ((∃ value, reader.currentValue = .ok value) ↔ course.EmittedLast) ∧
    ((∃ timestamp, reader.currentTimestamp = .ok timestamp) ↔ course.EmittedLast) ∧
    (∀ value, reader.currentValue = .ok value →
      ∃ message, course.receipts.getLast? = some (.done (some message)) ∧
        config.mapper message = .ok value ∧ reader.currentTimestamp = .ok message.timestamp) ∧
    (∀ before poll after, course.polls = before ++ poll :: after → poll.outcome = .done true →
      ∀ message, poll.receipts.getLast? = some (.done (some message)) →
      course.settled.length ≤
        ((before.flatMap (·.receipts) ++ poll.receipts.dropLast).filterMap (·.delivery?)).length →
      reader.watermark ≤ message.timestamp) ∧
    (∀ earlier use poll, uses = earlier ++ [use] →
      course.polls = ((opening config restored journal env).run endpoint earlier).polls ++ [poll] →
      poll.outcome = .done true →
      ∃ timestamp, reader.currentTimestamp = .ok timestamp ∧ reader.watermark ≤ timestamp) ∧
    (reader.state ≠ .uninitialized →
      ∃ reason, start endpoint.recorded course.scene =
        (.failed (.invalidState reason), course.scene)) ∧
    (reader.state ≠ .consuming →
      ∃ reason, advance endpoint.recorded course.scene =
        (.failed (.invalidState reason), course.scene)) ∧
    (finalize endpoint.recorded course.scene).2.client.currentValue = reader.currentValue ∧
    (finalize endpoint.recorded course.scene).2.client.currentTimestamp =
      reader.currentTimestamp := by
  intro course reader
  have hopening := unstarted_opening config hrestored journal env
  have hfirst : (opening config restored journal env).Shows :=
    ⟨fun hconsuming => (hopening.idle hconsuming).elim, fun _ => ⟨rfl, rfl⟩⟩
  have hshows : course.Shows := hfirst.run (.inl hopening) hcloses
  have hsound : course.Sound config ((restored.getD {}).pending.map (·.id)) :=
    Sound.run (.inl hopening) uses
  have hsome : reader.current.isSome = true ↔ course.EmittedLast := hshows.isSome_current_iff hsound
  obtain ⟨hrecord, htimestamp⟩ : reader.Displays reader.current := hshows.displays
  refine ⟨fun hstate => (hshows.working hstate).1, ?value, ?timestamp, ?message,
    fun before poll after hpolls hemitted message hlast hkept =>
      hsound.watermark_le hpolls hemitted hlast hkept,
    ?poll, fun hstate => ⟨_, start_of_ne_uninitialized endpoint.recorded hstate⟩, ?rejected, rfl,
    rfl⟩
  case value =>
    simp only [currentValue_eq_ok_iff, hrecord]
    rw [← hsome, ← Option.isSome_iff_exists, Option.isSome_map]
  case timestamp =>
    simp only [currentTimestamp_eq_ok_iff, htimestamp]
    rw [← hsome, ← Option.isSome_iff_exists, Option.isSome_map]
  case message =>
    intro value hvalue
    rw [currentValue_eq_ok_iff, hrecord] at hvalue
    obtain ⟨shown, hshown, rfl⟩ := Option.map_eq_some_iff.1 hvalue
    obtain ⟨message, hreceipt, hmapped, hsame⟩ := hshows.exists_message hsound hshown
    refine ⟨message, hreceipt, hmapped, ?_⟩
    rw [currentTimestamp_eq_ok_iff, htimestamp, hshown, ← hsame]
    rfl
  case poll =>
    rintro earlier use poll rfl hpolls hemitted
    -- Only the last use may have emitted the poll, so what is shown is compared with the run before
    -- it.
    have hrun : course = ((opening config restored journal env).run endpoint earlier).use endpoint
        use := List.foldl_concat ..
    have hearlier : ((opening config restored journal env).run endpoint earlier).Sound config
        ((restored.getD {}).pending.map (·.id)) := Sound.run (.inl hopening) earlier
    obtain ⟨shown, hshown, hwatermark⟩ :=
      hearlier.shown_of_use (hrun ▸ hsound) (hrun ▸ hpolls) hemitted
    rw [← hrun] at hshown hwatermark
    refine ⟨shown.timestamp, ?_, hwatermark⟩
    rw [currentTimestamp_eq_ok_iff, htimestamp, hshown]
    rfl
  case rejected =>
    intro hstate
    refine ⟨"can not advance a reader that is " ++ reader.state.label, ?_⟩
    simp [Reader.advance, bind_apply, hstate, reader]

/-- What is done with a reader of three messages, of which it cannot map the second. -/
def watchedUses : List Use :=
  [.start, .advance, .finalize, .advance]

/-- The reader is advanced over the message that it cannot map, and finalized before it goes on. -/
def watchedCourse : Course String Shared :=
  (opening (pickyTextsOf "orders") none {}
    { broker := .after none (publishing "orders" ["A", "B", "C"]) }).run
      (Shared.endpoint undisturbed) watchedUses

/-- The third message is shown, and it alone is listed. -/
theorem shows_what_was_emitted_last_watchedCourse :
    watchedCourse.polls.map (·.outcome) =
      [.done true, .failed (.mapping "B" "refused B"), .done true] ∧
    watchedCourse.settled.map (·.id) = [⟨"A"⟩, ⟨"B"⟩] ∧
    watchedCourse.scene.client.currentValue = .ok "C" ∧
    watchedCourse.EmittedLast ∧
    ∃ message, watchedCourse.receipts.getLast? = some (.done (some message)) ∧
      watchedCourse.scene.client.currentTimestamp = .ok message.timestamp := by
  have hcloses : (opening (pickyTextsOf "orders") none {}
      { broker := .after none (publishing "orders" ["A", "B", "C"]) }).Closes
        (Shared.endpoint undisturbed) watchedUses := by
    intro before after hsplit
    have hclose : Use.close ∈ watchedUses := by simp [hsplit]
    exact absurd hclose (by decide)
  have hvalue : watchedCourse.scene.client.currentValue = .ok "C" :=
    currentValue_eq_ok_iff.2 (by decide +kernel)
  have hrun : (opening (pickyTextsOf "orders") none {}
      { broker := .after none (publishing "orders" ["A", "B", "C"]) }).run
        (Shared.endpoint undisturbed) watchedUses = watchedCourse := rfl
  have hshows := shows_what_was_emitted_last (Shared.endpoint undisturbed) (pickyTextsOf "orders")
    (by simp) {} { broker := .after none (publishing "orders" ["A", "B", "C"]) } watchedUses hcloses
  rw [hrun] at hshows
  obtain ⟨-, hemitted, -, hmessage, -⟩ := hshows
  obtain ⟨message, hreceipt, -, htimestamp⟩ := hmessage "C" hvalue
  exact ⟨by decide +kernel, by decide +kernel, hvalue, hemitted.1 ⟨"C", hvalue⟩, message, hreceipt,
    htimestamp⟩

end Course

end Reader

end BrokerConnector
