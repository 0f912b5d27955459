import BrokerConnector.Proofs.Codec
import BrokerConnector.Proofs.Receipts

/-!
# What becomes of every message that a reader receives

A course is what is done with a reader: it is started, advanced, finalized and closed in any order.
It keeps every call that looked for a message and the entries that finalizations took from the mark.
The reader goes as it goes without that record (`Course.useAll_unrecorded`).
Whatever the surroundings answer, or leave unanswered, a course is either unstarted, and nothing was
received, or in balance: the entries that were taken, and then those that are left, are the messages
that were received with an identifier, in order (`accounts_for_receipts`).

The messages that a restored reader passes over are those of its mark, so the reader before it
received them. That is not to say that it emitted them: a message is listed before it is mapped
(`passes_over_received`).
-/

namespace BrokerConnector

open BrokerConnector.Action

namespace Reader

/-- What is done with a reader. -/
inductive Use where
  | start
  | advance
  | finalize
  | close
  deriving DecidableEq, Inhabited

/-- A reader with the calls that looked for a message, and the entries that finalizations took from
its mark. -/
structure Course (α σ : Type) where
  scene : Scene (Reader α) (Recorded σ)
  polls : List (Poll α) := []
  settled : List PendingDelivery := []

variable {α σ : Type}

/-- Uses a reader. A call that looks for a message tells how it ended: a reader looks for one when
it advances at work, or when it starts for the first time and is at work then. -/
def Use.apply (endpoint : Endpoint σ) (s : Scene (Reader α) σ) :
    Use → Option (Outcome ConnectorError Bool) × Scene (Reader α) σ
  | start =>
    let (outcome, after) := Reader.start endpoint s
    (if s.client.state = .uninitialized ∧ after.client.isAtWork then some outcome else none, after)
  | advance =>
    let (outcome, after) := Reader.advance endpoint s
    (if s.client.isAtWork then some outcome else none, after)
  | finalize => (none, (Reader.finalize endpoint s).2)
  | close => (none, (Reader.close endpoint s).2)

/-- Uses a reader in one way after another, and lists how the calls ended that looked for a
message. -/
def useAll (endpoint : Endpoint σ) :
    List Use → Scene (Reader α) σ → List (Outcome ConnectorError Bool) × Scene (Reader α) σ
  | [], s => ([], s)
  | first :: rest, s =>
    let (outcome, s) := first.apply endpoint s
    let (outcomes, s) := useAll endpoint rest s
    (outcome.toList ++ outcomes, s)

/-- A reader is used alike in the surroundings that are seen of its own. -/
theorem Use.apply_through {τ : Type} {endpoint : Endpoint σ} {other : Endpoint τ} {view : σ → τ}
    (h : endpoint.Alike other (fun _ => True) fun env env' => view env = env')
    (s : Scene (Reader α) σ) (use : Use) :
    use.apply other (s.through view) =
      ((use.apply endpoint s).1, (use.apply endpoint s).2.through view) := by
  have hidle : endpoint.Alike other (·.isIdle = true) (fun env env' => view env = env') :=
    h.mono fun _ _ => trivial
  cases use with
  | start => simp only [apply, (agree_start h).through s]; rfl
  | advance => simp only [apply, (agree_advance h).through s]; rfl
  | finalize => simp only [apply, (agree_finalize h).through s]
  | close => simp only [apply, (agree_close hidle).through s]

/-- A reader is used alike, in one way after another, in the surroundings that are seen of its
own. -/
theorem useAll_through {τ : Type} {endpoint : Endpoint σ} {other : Endpoint τ} {view : σ → τ}
    (h : endpoint.Alike other (fun _ => True) fun env env' => view env = env')
    (uses : List Use) (s : Scene (Reader α) σ) :
    useAll other uses (s.through view) =
      ((useAll endpoint uses s).1, (useAll endpoint uses s).2.through view) := by
  induction uses generalizing s with
  | nil => rfl
  | cons first rest ih => simp only [useAll, Use.apply_through h, ih]

/-- A reader is used alike whether its surroundings are recorded or not. -/
theorem Use.apply_unrecorded (endpoint : Endpoint σ) (s : Scene (Reader α) (Recorded σ))
    (use : Use) :
    use.apply endpoint s.unrecorded =
      ((use.apply endpoint.recorded s).1, (use.apply endpoint.recorded s).2.unrecorded) :=
  apply_through endpoint.recorded_alike s use

namespace Course

/-- A reader that begins with a mark or without one. -/
def opening (config : ReadConfig α) (restored : Option Mark) (journal : Journal) (env : σ) :
    Course α σ where
  scene := { client := create config restored, journal := journal, env := { env := env } }

/-- A course goes on in another scene. -/
def moved (course : Course α σ) (scene : Scene (Reader α) (Recorded σ)) : Course α σ :=
  { course with scene := scene }

/-- A course goes on after a call that looked for a message. -/
def polled (course : Course α σ) (outcome : Outcome ConnectorError Bool)
    (scene : Scene (Reader α) (Recorded σ)) : Course α σ where
  scene := scene
  polls := course.polls ++
    [⟨scene.env.receipts.drop course.scene.env.receipts.length, outcome, scene.client.current⟩]
  settled := course.settled

/-- The entries that are listed. -/
def pending (course : Course α σ) : List PendingDelivery :=
  course.scene.client.mark.pending

/-- A course after one more use. A reader looks for a message when it advances at work, or when it
starts for the first time and is at work then. -/
def use (endpoint : Endpoint σ) (course : Course α σ) : Use → Course α σ
  | .start =>
    let (outcome, scene) := start endpoint.recorded course.scene
    if course.scene.client.state = .uninitialized ∧ scene.client.isAtWork then
      course.polled outcome scene
    else course.moved scene
  | .advance =>
    let (outcome, scene) := advance endpoint.recorded course.scene
    if course.scene.client.isAtWork then course.polled outcome scene else course.moved scene
  | .finalize =>
    let scene := (finalize endpoint.recorded course.scene).2
    { course.moved scene with
      settled := course.settled ++
        course.pending.take (course.pending.length - scene.client.mark.pending.length) }
  | .close => course.moved (close endpoint.recorded course.scene).2

/-- A course after uses in order. -/
def run (endpoint : Endpoint σ) (uses : List Use) (course : Course α σ) : Course α σ :=
  uses.foldl (use endpoint) course

/-- A use of a course is a use of its reader. -/
theorem use_eq (endpoint : Endpoint σ) (course : Course α σ) (use : Use) :
    (course.use endpoint use).scene = (use.apply endpoint.recorded course.scene).2 ∧
      (course.use endpoint use).polls.map (·.outcome) = course.polls.map (·.outcome) ++
        (use.apply endpoint.recorded course.scene).1.toList := by
  cases use with
  | start | advance =>
    simp only [Course.use, Use.apply]
    split
    · exact ⟨rfl, List.map_append⟩
    · exact ⟨rfl, (List.append_nil _).symm⟩
  | finalize | close => exact ⟨rfl, (List.append_nil _).symm⟩

/-- The reader of a course goes as it goes without the recording. -/
theorem useAll_unrecorded (endpoint : Endpoint σ) (uses : List Use) (course : Course α σ) :
    (course.run endpoint uses).polls.map (·.outcome) =
        course.polls.map (·.outcome) ++ (useAll endpoint uses course.scene.unrecorded).1 ∧
      (course.run endpoint uses).scene.unrecorded =
        (useAll endpoint uses course.scene.unrecorded).2 := by
  induction uses generalizing course with
  | nil => exact ⟨(List.append_nil _).symm, rfl⟩
  | cons first rest ih =>
    obtain ⟨hscene, houtcomes⟩ := course.use_eq endpoint first
    obtain ⟨hpolls, hend⟩ := ih (course.use endpoint first)
    have hfirst := first.apply_unrecorded endpoint course.scene
    rw [← hscene] at hfirst
    simp only [useAll, hfirst]
    refine ⟨?_, hend⟩
    rw [← List.append_assoc, ← houtcomes]
    exact hpolls

/-- What was received so far. -/
def receipts (course : Course α σ) : List Receipt :=
  course.scene.env.receipts

/-! ## Two phases -/

/-- A reader that did not look for a message yet. Nothing can be asked of its mark. -/
structure Unstarted (config : ReadConfig α) (listed : List MessageId) (course : Course α σ) :
    Prop where
  same : course.scene.client.config = config
  polls : course.polls = []
  settled : course.settled = []
  events : course.scene.env.events = []
  idle : course.scene.client.state ≠ .consuming
  mark : course.scene.client.mark.session = none ∨ course.pending = []
  pending : course.pending.map (·.id) ⊆ listed
  fresh : course.scene.client.state = .uninitialized →
    course.scene.client.mark.session = none ∧ course.scene.client.skipped = [] ∧
      course.pending.map (·.id) = listed

/-- A reader that looked for messages accounts for everything that it received. -/
structure Balanced (config : ReadConfig α) (listed : List MessageId) (course : Course α σ) :
    Prop where
  same : course.scene.client.config = config
  polls : course.polls ≠ []
  state : course.scene.client.state ≠ .uninitialized
  receipts : course.receipts = course.polls.flatMap (·.receipts)
  accounted : ∀ earlier poll later, course.polls = earlier ++ poll :: later →
    poll.Accounted config listed (earlier.flatMap (·.receipts))
  awaits : Awaits listed course.receipts course.scene.client.skipped
  balance : course.settled ++ course.pending = course.receipts.filterMap (·.delivery?)
  acknowledges : ∀ id outcome, Event.acknowledgment id outcome ∈ course.scene.env.events →
    id ∈ course.receipts.filterMap (·.id?)

/-- A course that is unstarted or in balance. -/
def Sound (config : ReadConfig α) (listed : List MessageId) (course : Course α σ) : Prop :=
  course.Unstarted config listed ∨ course.Balanced config listed

variable {config : ReadConfig α} {listed : List MessageId} {course : Course α σ}
  {endpoint : Endpoint σ}

/-- A course that begins with a detached mark is unstarted. -/
theorem unstarted_opening (config : ReadConfig α) {restored : Option Mark}
    (hrestored : ∀ mark, restored = some mark → mark.session = none) (journal : Journal)
    (env : σ) :
    (opening config restored journal env).Unstarted config
      ((restored.getD {}).pending.map (·.id)) := by
  have hdetached : (restored.getD {}).session = none := by
    cases restored with
    | none => rfl
    | some mark => exact hrestored mark rfl
  refine ⟨rfl, rfl, rfl, rfl, ?_, .inl hdetached, List.Subset.refl _,
    fun _ => ⟨hdetached, rfl, rfl⟩⟩
  simp [opening, create]

/-- What a reader in balance lists, it received. -/
theorem Balanced.mem_ids_of_mem_pending (h : course.Balanced config listed) {id : MessageId}
    (hid : id ∈ course.pending.map (·.id)) : id ∈ course.receipts.filterMap (·.id?) := by
  rw [← Receipt.map_id_entries, ← h.balance, List.map_append]
  exact List.mem_append_right _ hid

/-- A list of polls that is one longer has one more poll at its end. -/
theorem accounted_concat (polls : List (Poll α)) {poll : Poll α}
    (hpolls : ∀ earlier poll later, polls = earlier ++ poll :: later →
      poll.Accounted config listed (earlier.flatMap (·.receipts)))
    (hpoll : poll.Accounted config listed (polls.flatMap (·.receipts)))
    (earlier : List (Poll α)) (other : Poll α) (later : List (Poll α))
    (h : polls ++ [poll] = earlier ++ other :: later) :
    other.Accounted config listed (earlier.flatMap (·.receipts)) := by
  rcases List.eq_nil_or_concat' later with rfl | ⟨front, last, rfl⟩
  · obtain ⟨rfl, hlast⟩ := List.append_inj' h rfl
    obtain rfl := List.singleton_inj.1 hlast
    exact hpoll
  · have hfront : polls ++ [poll] = (earlier ++ other :: front) ++ [last] := by
      rw [h, List.append_assoc]
      rfl
    exact hpolls earlier other front (List.append_inj' hfront rfl).1

/-- A reader that makes a search stays in balance. -/
theorem Balanced.polled (h : course.Balanced config listed) {outcome : Outcome ConnectorError Bool}
    {scene : Scene (Reader α) (Recorded σ)} (hsearch : Searching listed course.scene outcome scene) :
    (course.polled outcome scene).Balanced config listed := by
  obtain ⟨receipts, hsearched⟩ := hsearch
  -- What the search received is what the course has more of: its last poll.
  have hreceipts : (course.polled outcome scene).receipts = course.receipts ++ receipts :=
    hsearched.receipts
  have hnew : scene.env.receipts.drop course.scene.env.receipts.length = receipts := by
    rw [hsearched.receipts, List.drop_left]
  have hpolls : (course.polled outcome scene).polls =
      course.polls ++ [⟨receipts, outcome, scene.client.current⟩] := by
    rw [← hnew]
    rfl
  constructor
  · exact hsearched.config.trans h.same
  · simp [hpolls]
  · exact fun hstate => h.state (hsearched.state.symm.trans hstate)
  · rw [hreceipts, hpolls, List.flatMap_append, h.receipts]
    simp
  · rw [hpolls]
    refine accounted_concat _ h.accounted ?_
    rw [← h.receipts, ← h.same]
    exact hsearched.accounted
  · rw [hreceipts]
    exact hsearched.awaits
  · have hpending : (course.polled outcome scene).pending =
        course.pending ++ receipts.filterMap (·.delivery?) := hsearched.pending
    rw [hpending, ← List.append_assoc, hreceipts, List.filterMap_append, ← h.balance]
    rfl
  · intro id other hevent
    rw [hreceipts, List.filterMap_append]
    have hevents : (course.polled outcome scene).scene.env.events =
        course.scene.env.events ++ receipts.map .received := hsearched.events
    rw [hevents, List.mem_append] at hevent
    rcases hevent with hbefore | hnew
    · exact List.mem_append_left _ (h.acknowledges id other hbefore)
    · simp at hnew

/-- A reader that makes its first search comes into balance. -/
theorem Unstarted.polled (h : course.Unstarted config listed)
    (hstate : course.scene.client.state = .uninitialized) {outcome : Outcome ConnectorError Bool}
    {scene : Scene (Reader α) (Recorded σ)} (hstarted : Started course.scene outcome scene) :
    (course.polled outcome scene).Balanced config listed := by
  -- The mark was listed until the reader was at work, and is empty from then on.
  obtain ⟨working, hconfig, hwork, hpending, hevents, receipts, hsearched⟩ := hstarted
  have hlisted : course.scene.client.mark.pending.map (·.id) = listed := (h.fresh hstate).2.2
  rw [hlisted] at hsearched
  have hnone : course.scene.env.receipts = [] := by
    rw [Recorded.receipts, h.events]
    rfl
  have hworking : working.env.receipts = [] := by
    rw [Recorded.receipts, hevents, h.events]
    rfl
  have hreceipts : (course.polled outcome scene).receipts = receipts := by
    refine hsearched.receipts.trans ?_
    rw [hworking, List.nil_append]
  have hpolls : (course.polled outcome scene).polls =
      [⟨receipts, outcome, scene.client.current⟩] := by
    rw [Course.polled, h.polls, hnone, List.length_nil, List.drop_zero, List.nil_append]
    exact congrArg (fun receipts => [Poll.mk receipts outcome scene.client.current]) hreceipts
  constructor
  · exact hsearched.config.trans (hconfig.trans h.same)
  · simp [hpolls]
  · intro hfresh
    have hconsuming : working.client.state = .consuming := by
      have hboth : working.client.state = .consuming ∧ working.client.consumer.isSome = true := by
        simpa [isAtWork] using hwork
      exact hboth.1
    have hsame := hsearched.state
    rw [hconsuming] at hsame
    exact ReaderState.noConfusion (hfresh.symm.trans hsame)
  · simp [hreceipts, hpolls]
  · rw [hpolls]
    refine accounted_concat [] (by simp) ?_
    have haccounted := hsearched.accounted
    rw [hworking, hconfig, h.same] at haccounted
    exact haccounted
  · have hawaits := hsearched.awaits
    rw [hworking, List.nil_append] at hawaits
    rw [hreceipts]
    exact hawaits
  · have hentries : (course.polled outcome scene).pending = receipts.filterMap (·.delivery?) := by
      refine hsearched.pending.trans ?_
      rw [hpending, List.nil_append]
    rw [hentries, hreceipts, Course.polled, h.settled, List.nil_append]
  · intro id other hevent
    have htold : (course.polled outcome scene).scene.env.events = receipts.map .received := by
      refine hsearched.events.trans ?_
      rw [hevents, h.events, List.nil_append]
    rw [htold] at hevent
    simp at hevent

/-- A reader that only parts stays unstarted. -/
theorem Unstarted.parted (h : course.Unstarted config listed)
    {scene : Scene (Reader α) (Recorded σ)} (hparted : Parted course.scene.client scene.client)
    (hevents : scene.env.events = course.scene.env.events) :
    (course.moved scene).Unstarted config listed := by
  have hpending : (course.moved scene).pending = course.pending := hparted.pending
  refine ⟨hparted.config.trans h.same, h.polls, h.settled, hevents.trans h.events, ?_,
    hparted.mark h.mark, ?_, ?_⟩
  -- Closing changes the state to one that is not consuming, if at all.
  · rcases hparted.state with hsame | hclosed
    · exact fun hstate => h.idle (hsame.symm.trans hstate)
    · exact fun hstate => ReaderState.noConfusion (hclosed.symm.trans hstate)
  · rw [hpending]
    exact h.pending
  · intro hfresh
    rcases hparted.state with hsame | hclosed
    · obtain ⟨hsession, hskipped, hlisted⟩ := h.fresh (hsame.symm.trans hfresh)
      refine ⟨?_, hparted.skipped.trans hskipped, ?_⟩
      · exact hparted.session.elim (fun hsession' => hsession'.trans hsession) id
      · rw [hpending, hlisted]
    · exact ReaderState.noConfusion (hclosed.symm.trans hfresh)

/-- A reader that only parts stays in balance. -/
theorem Balanced.parted (h : course.Balanced config listed)
    {scene : Scene (Reader α) (Recorded σ)} (hparted : Parted course.scene.client scene.client)
    (hevents : scene.env.events = course.scene.env.events) :
    (course.moved scene).Balanced config listed := by
  have hreceipts : (course.moved scene).receipts = course.receipts := by
    show scene.env.events.filterMap _ = course.scene.env.events.filterMap _
    rw [hevents]
  have hpending : (course.moved scene).pending = course.pending := hparted.pending
  refine ⟨hparted.config.trans h.same, h.polls, ?_, hreceipts.trans h.receipts, h.accounted, ?_, ?_,
    ?_⟩
  · rcases hparted.state with hsame | hclosed
    · exact fun hstate => h.state (hsame.symm.trans hstate)
    · exact fun hstate => ReaderState.noConfusion (hclosed.symm.trans hstate)
  · rw [hreceipts, show (course.moved scene).scene.client.skipped = _ from hparted.skipped]
    exact h.awaits
  · rw [hpending, hreceipts, ← h.balance]
    rfl
  · intro id outcome hevent
    rw [hreceipts]
    exact h.acknowledges id outcome (hevents ▸ hevent)

/-- A course that only parts stays sound. -/
theorem Sound.parted (h : course.Sound config listed) {scene : Scene (Reader α) (Recorded σ)}
    (hparted : Parted course.scene.client scene.client)
    (hevents : scene.env.events = course.scene.env.events) :
    (course.moved scene).Sound config listed :=
  h.imp (·.parted hparted hevents) (·.parted hparted hevents)

/-- A course is unstarted when its reader stopped before it was at work. -/
theorem Unstarted.stopped (h : course.Unstarted config listed)
    {scene : Scene (Reader α) (Recorded σ)} (hstopped : Stopped course.scene scene) :
    (course.moved scene).Unstarted config listed where
  same := hstopped.config.trans h.same
  polls := h.polls
  settled := h.settled
  events := hstopped.events.trans h.events
  idle := hstopped.not_consuming
  mark := hstopped.mark
  pending := by
    rcases hstopped.pending with hsame | hnil
    · rw [show (course.moved scene).pending = course.pending from hsame]
      exact h.pending
    · rw [show (course.moved scene).pending = [] from hnil]
      exact List.nil_subset _
  fresh := fun hfresh => (hstopped.not_uninitialized hfresh).elim

/-- A course stays sound when its reader is started. -/
theorem Sound.start (h : course.Sound config listed) :
    (course.use endpoint .start).Sound config listed := by
  have huse : course.use endpoint .start =
      if course.scene.client.state = .uninitialized ∧
          (Reader.start endpoint.recorded course.scene).2.client.isAtWork then
        course.polled (Reader.start endpoint.recorded course.scene).1
          (Reader.start endpoint.recorded course.scene).2
      else course.moved (Reader.start endpoint.recorded course.scene).2 := rfl
  rw [huse]
  by_cases hstate : course.scene.client.state = .uninitialized
  · rcases h with hunstarted | hbalanced
    · obtain ⟨hsession, hskipped, -⟩ := hunstarted.fresh hstate
      have hreceipts : course.scene.env.receipts = [] := by
        rw [Recorded.receipts, hunstarted.events]
        rfl
      have hstart : Started course.scene (Reader.start endpoint.recorded course.scene).1
          (Reader.start endpoint.recorded course.scene).2 ∨
            Stopped course.scene (Reader.start endpoint.recorded course.scene).2 :=
        ((leaves_start endpoint course.scene hstate hsession hskipped hreceipts).mono
          (fun _ _ => .inl) (fun _ _ => id) fun _ => id).result
            fun outcome s' => Started course.scene outcome s' ∨ Stopped course.scene s'
      generalize Reader.start endpoint.recorded course.scene = result at hstart
      rcases hstart with hstarted | hstopped
      · have hwork : result.2.client.isAtWork = true := hstarted.isAtWork
        rw [if_pos ⟨hstate, hwork⟩]
        exact .inr (hunstarted.polled hstate hstarted)
      · rw [if_neg (by simp [isAtWork, hstopped.not_consuming])]
        exact .inl (hunstarted.stopped hstopped)
    · exact (hbalanced.state hstate).elim
  · rw [if_neg fun hfresh => hstate hfresh.1, start_of_ne_uninitialized _ hstate]
    exact h.parted (.refl _) rfl

/-- A course stays sound when its reader is advanced. -/
theorem Sound.advance (h : course.Sound config listed) :
    (course.use endpoint .advance).Sound config listed := by
  have huse : course.use endpoint .advance =
      if course.scene.client.isAtWork then
        course.polled (Reader.advance endpoint.recorded course.scene).1
          (Reader.advance endpoint.recorded course.scene).2
      else course.moved (Reader.advance endpoint.recorded course.scene).2 := rfl
  rw [huse]
  cases hwork : course.scene.client.isAtWork with
  | true =>
    rw [if_pos rfl]
    rcases h with hunstarted | hbalanced
    · have hconsuming : course.scene.client.state = .consuming :=
        state_of_isAtWork hwork
      exact (hunstarted.idle hconsuming).elim
    · have hadvance := (leaves_advance endpoint hwork hbalanced.awaits).result
        (Searching listed course.scene)
      exact .inr (hbalanced.polled hadvance)
  | false =>
    obtain ⟨error, record, timestamp, hadvance⟩ := advance_of_not_isAtWork endpoint.recorded hwork
    rw [if_neg Bool.false_ne_true, hadvance]
    exact h.parted ⟨rfl, rfl, .inl rfl, rfl, .inl rfl⟩ rfl

/-- A course stays sound when its reader is closed. -/
theorem Sound.close (h : course.Sound config listed) :
    (course.use endpoint .close).Sound config listed := by
  have hparted : Parted course.scene.client
      (Reader.close endpoint.recorded course.scene).2.client :=
    ((leaves_close endpoint.recorded course.scene).mono (fun _ _ => And.left) (fun _ _ => And.left)
      fun _ => id).result fun _ (s' : Scene (Reader α) (Recorded σ)) =>
        Parted course.scene.client s'.client
  exact h.parted hparted (Recorded.events_of_idle (asks_close endpoint.recorded course.scene))

/-- The mark of the reader of a course, where it is. -/
def marked (course : Course α σ) : Scene Mark (Recorded σ) where
  client := course.scene.client.mark
  journal := course.scene.journal
  env := course.scene.env

/-- A course goes on after its mark was finalized. -/
def finalized (course : Course α σ) (after : Scene Mark (Recorded σ)) : Course α σ where
  scene :=
    { client := { course.scene.client with mark := after.client }
      journal := after.journal
      env := after.env }
  polls := course.polls
  settled := course.settled ++
    course.pending.take (course.pending.length - after.client.pending.length)

variable {events : List Event} {gone : Nat} {after : Scene Mark (Recorded σ)}

/-- A course is unstarted after its mark was finalized: there was nothing to ask of it. -/
theorem Unstarted.finalized (h : course.Unstarted config listed)
    (hfinalizing : Mark.Finalizing course.marked events gone after) :
    (course.finalized after).Unstarted config listed := by
  obtain ⟨rfl, hpending⟩ := hfinalizing.eq_nil h.mark
  constructor
  · exact h.same
  · exact h.polls
  · show course.settled ++ _ = []
    rw [h.settled, hpending]
    simp [marked, Course.pending]
  · exact hfinalizing.told.trans ((List.append_nil _).trans h.events)
  · exact h.idle
  · exact h.mark.imp hfinalizing.session.trans hpending.trans
  · show after.client.pending.map (·.id) ⊆ listed
    rw [hpending]
    exact h.pending
  · intro hfresh
    obtain ⟨hsession, hskipped, hlisted⟩ := h.fresh hfresh
    refine ⟨hfinalizing.session.trans hsession, hskipped, ?_⟩
    show after.client.pending.map (·.id) = listed
    rw [hpending]
    exact hlisted

/-- A course stays in balance after its mark was finalized. -/
theorem Balanced.finalized (h : course.Balanced config listed)
    (hfinalizing : Mark.Finalizing course.marked events gone after) :
    (course.finalized after).Balanced config listed := by
  -- Nothing was received, so only the entries and the events change.
  have hreceipts : after.env.receipts = course.receipts := hfinalizing.receipts
  constructor
  · exact h.same
  · exact h.polls
  · exact h.state
  · exact hreceipts.trans h.receipts
  · exact h.accounted
  · show Awaits listed after.env.receipts course.scene.client.skipped
    rw [hreceipts]
    exact h.awaits
  · show (course.settled ++ _) ++ after.client.pending = after.env.receipts.filterMap (·.delivery?)
    rw [hreceipts, List.append_assoc, ← h.balance]
    exact congrArg (course.settled ++ ·) hfinalizing.taken
  · intro id outcome hevent
    show id ∈ after.env.receipts.filterMap (·.id?)
    rw [hreceipts]
    replace hevent : Event.acknowledgment id outcome ∈ course.marked.env.events ++ events := by
      rw [← hfinalizing.told]
      exact hevent
    rcases List.mem_append.1 hevent with hbefore | hnew
    · exact h.acknowledges id outcome hbefore
    · obtain ⟨id', outcome', he, hid⟩ := hfinalizing.acknowledges _ hnew
      obtain ⟨rfl, -⟩ := Event.acknowledgment.inj he
      exact h.mem_ids_of_mem_pending hid

/-- A course stays sound when its reader is finalized. -/
theorem Sound.finalize (h : course.Sound config listed) :
    (course.use endpoint .finalize).Sound config listed := by
  obtain ⟨events, gone, hfinalizing⟩ : ∃ events gone, Mark.Finalizing course.marked events gone
      (Mark.finalize endpoint.recorded course.marked).2 := by
    refine ((Mark.leaves_finalize endpoint course.marked).mono ?_ ?_ ?_).result fun _ s' =>
      ∃ events gone, Mark.Finalizing course.marked events gone s'
    · rintro _ _ ⟨events, gone, h, _⟩
      exact ⟨events, gone, h⟩
    · rintro _ _ ⟨events, gone, h, _⟩
      exact ⟨events, gone, h⟩
    · rintro _ ⟨events, _, h, _⟩
      exact ⟨events, 0, h⟩
  exact h.imp (·.finalized hfinalizing) (·.finalized hfinalizing)

/-- A course stays sound, whatever is done. -/
theorem Sound.run (h : course.Sound config listed) (uses : List Use) :
    (course.run endpoint uses).Sound config listed := by
  induction uses generalizing course with
  | nil => exact h
  | cons first rest ih =>
    refine ih ?_
    cases first with
    | start => exact h.start
    | advance => exact h.advance
    | finalize => exact h.finalize
    | close => exact h.close

/-! ## What courses account for -/

/-- Every message that a reader receives is accounted for. Whatever the surroundings answer or leave
unanswered, and whatever is done with the reader, its calls end as they do without the recording.
What was received, the calls that looked for messages received, and each of them passes over exactly
what comes back of the restored mark for the first time, until the last receipt settles how it ends.
A reader that is consuming looked for a message. From then on the mark lists what was received with
an identifier, once for each receipt and in order, less what finalizations took from its front;
nothing else was ever to be acknowledged. -/
theorem accounts_for_receipts (endpoint : Endpoint σ) (config : ReadConfig α)
    {restored : Option Mark} (hrestored : ∀ mark, restored = some mark → mark.session = none)
    (journal : Journal) (env : σ) (uses : List Use) :
    let course := (opening config restored journal env).run endpoint uses
    let listed := (restored.getD {}).pending.map (·.id)
    useAll endpoint uses { client := create config restored, journal := journal, env := env } =
      (course.polls.map (·.outcome), course.scene.unrecorded) ∧
    course.receipts = course.polls.flatMap (·.receipts) ∧
    (∀ earlier poll later, course.polls = earlier ++ poll :: later →
      poll.Accounted config listed (earlier.flatMap (·.receipts))) ∧
    (course.scene.client.state = .consuming → course.polls ≠ []) ∧
    (course.polls ≠ [] →
      course.settled ++ course.pending = course.receipts.filterMap (·.delivery?)) ∧
    (∀ id outcome, Event.acknowledgment id outcome ∈ course.scene.env.events →
      id ∈ course.receipts.filterMap (·.id?)) := by
  intro course listed
  have hsound : course.Sound config listed :=
    Sound.run (.inl (unstarted_opening config hrestored journal env)) uses
  have hsame := useAll_unrecorded endpoint uses (opening config restored journal env)
  refine ⟨Prod.ext hsame.1.symm hsame.2.symm, ?_⟩
  rcases hsound with hunstarted | hbalanced
  · have hreceipts : course.receipts = [] := by
      rw [receipts, Recorded.receipts, hunstarted.events]
      rfl
    refine ⟨?_, ?_, ?_, ?_, ?_⟩
    · rw [hreceipts, hunstarted.polls]
      rfl
    · intro earlier poll later hsplit
      rw [hunstarted.polls] at hsplit
      simp at hsplit
    · exact fun hconsuming => (hunstarted.idle hconsuming).elim
    · exact fun hpolls => (hpolls hunstarted.polls).elim
    · intro id outcome hevent
      rw [hunstarted.events] at hevent
      cases hevent
  · exact ⟨hbalanced.receipts, hbalanced.accounted, fun _ => hbalanced.polls,
      fun _ => hbalanced.balance, hbalanced.acknowledges⟩

/-- A read of the texts of a queue that refuses the text `B`. -/
def pickyTextsOf (queue : String) : ReadConfig String :=
  { textsOf queue with
    mapper := fun message =>
      match message.text? with
      | some "B" => .error "refused B"
      | text => .ok (text.getD "") }

/-- A reader begins with a mark that lists two messages, of which one is still on the queue. It
fails to map another one and is finalized and closed. -/
def restoredCourse : Course String Shared :=
  (opening (pickyTextsOf "orders") (some { pending := [⟨⟨"A"⟩, 5⟩, ⟨⟨"X"⟩, 7⟩] }) {}
    { broker := .after none (publishing "orders" ["A", "B", "C"]) }).run
      (Shared.endpoint undisturbed) [.start, .finalize, .advance, .advance, .close]

/-- The first call passes over the message that comes back and lists it, as it lists the one that it
fails to map. -/
theorem accounts_for_receipts_restoredCourse :
    restoredCourse.polls.map (·.receipts.filterMap (·.id?)) = [[⟨"A"⟩, ⟨"B"⟩], [⟨"C"⟩], []] ∧
    restoredCourse.polls.map (·.outcome) =
      [.failed (.mapping "B" "refused B"), .done true, .done false] ∧
    restoredCourse.settled.map (·.id) = [⟨"A"⟩, ⟨"B"⟩] ∧
    restoredCourse.settled ++ restoredCourse.pending =
      restoredCourse.receipts.filterMap (·.delivery?) := by
  refine ⟨by decide +kernel, by decide +kernel, by decide +kernel, ?_⟩
  have hpolls : restoredCourse.polls ≠ [] := by
    have hlength : restoredCourse.polls.length = 3 := by decide +kernel
    intro hnil
    rw [hnil] at hlength
    cases hlength
  exact (accounts_for_receipts (Shared.endpoint undisturbed) (pickyTextsOf "orders")
    (by simp) {} _ _).2.2.2.2.1 hpolls

/-! ## What a restored reader passes over -/

/-- The messages that were passed over. -/
def passedOver (course : Course α σ) : List MessageId :=
  course.polls.flatMap fun poll => poll.receipts.dropLast.filterMap (·.id?)

/-- The messages whose records were emitted. -/
def emitted (course : Course α σ) : List MessageId :=
  (course.polls.filter (·.outcome = .done true)).filterMap fun poll =>
    poll.receipts.getLast?.bind (·.id?)

/-- What a course passes over was listed. -/
theorem Sound.mem_listed (h : course.Sound config listed) {id : MessageId}
    (hid : id ∈ course.passedOver) : id ∈ listed := by
  obtain ⟨poll, hpoll, hid⟩ := List.mem_flatMap.1 hid
  rcases h with hunstarted | hbalanced
  · rw [hunstarted.polls] at hpoll
    cases hpoll
  · obtain ⟨earlier, later, hsplit⟩ := List.append_of_mem hpoll
    exact (hbalanced.accounted earlier poll later hsplit).mem_listed hid

/-- A reader that began without a mark received every message that it lists, each in a call that
looked for one message alone. -/
theorem Sound.exists_poll (h : course.Sound config []) {id : MessageId}
    (hid : id ∈ course.pending.map (·.id)) :
    ∃ poll ∈ course.polls, ∃ message, poll.receipts = [.done (some message)] ∧
      message.id = some id ∧ (poll.outcome, poll.current) =
        config.verdict (.done (some message)) := by
  rcases h with hunstarted | hbalanced
  · cases hunstarted.pending hid
  · have hreceived := hbalanced.mem_ids_of_mem_pending hid
    obtain ⟨receipt, hreceipt, hsome⟩ := List.mem_filterMap.1 hreceived
    rw [hbalanced.receipts] at hreceipt
    obtain ⟨poll, hpoll, hreceipt⟩ := List.mem_flatMap.1 hreceipt
    obtain ⟨earlier, later, hsplit⟩ := List.append_of_mem hpoll
    obtain ⟨last, hlast, hverdict⟩ := (hbalanced.accounted earlier poll later hsplit).receipts_eq
    rw [hlast] at hreceipt
    obtain rfl := List.mem_singleton.1 hreceipt
    obtain ⟨message, rfl, hmessage⟩ : ∃ message, receipt = .done (some message) ∧
        message.id = some id := by
      unfold Receipt.id? at hsome
      split at hsome
      · exact ⟨_, rfl, hsome⟩
      · cases hsome
    exact ⟨poll, hpoll, message, hlast, hmessage, hverdict⟩

/-- A message that a restored reader passes over was received by the reader that its mark comes
from, if that one began without a mark. It was emitted there if the mapper can map it. If not, the
call that received it failed, and it is passed over all the same: it was listed before it was
mapped. -/
theorem passes_over_received {β τ : Type} {endpoint : Endpoint σ} {config : ReadConfig α}
    {journal : Journal} {env : σ} {uses : List Use} {first : Course α σ}
    (hfirst : (opening config none journal env).run endpoint uses = first)
    (hfits : first.scene.client.mark.Fits) {mark : Mark}
    (hmark : Mark.decode first.scene.client.mark.encode = .ok mark) {endpoint' : Endpoint τ}
    {config' : ReadConfig β} {journal' : Journal} {env' : τ} {uses' : List Use}
    {second : Course β τ}
    (hsecond : (opening config' (some mark) journal' env').run endpoint' uses' = second)
    {id : MessageId} (hid : id ∈ second.passedOver) :
    ∃ poll ∈ first.polls, ∃ message,
      poll.receipts = [.done (some message)] ∧ message.id = some id ∧
      match config.mapper message with
      | .ok value => poll.outcome = .done true ∧ poll.current = some ⟨value, message.timestamp⟩
      | .error reason =>
        poll.outcome = .failed (.mapping id.text reason) ∧ poll.current = none := by
  have hdecoded : mark =
      { sessionId := first.scene.client.mark.sessionId, pending := first.pending } :=
    Except.ok.inj (hmark.symm.trans (Mark.decode_encode hfits))
  have hnone : ∀ other, (none : Option Mark) = some other → other.session = none := by simp
  have hsound : first.Sound config [] := by
    rw [← hfirst]
    exact Sound.run (.inl (unstarted_opening config hnone journal env)) uses
  have hdetached : ∀ other, some mark = some other → other.session = none := by
    rintro other he
    rw [← Option.some.inj he, hdecoded]
  have hsound' : second.Sound config' (mark.pending.map (·.id)) := by
    rw [← hsecond]
    exact Sound.run (.inl (unstarted_opening config' hdetached journal' env')) uses'
  have hlisted : id ∈ first.pending.map (·.id) := by
    have hmem := hsound'.mem_listed hid
    rwa [hdecoded] at hmem
  obtain ⟨poll, hpoll, message, hreceipts, hmessage, hverdict⟩ := hsound.exists_poll hlisted
  refine ⟨poll, hpoll, message, hreceipts, hmessage, ?_⟩
  simp only [ReadConfig.verdict, hmessage] at hverdict
  split at hverdict
  · rename_i reason hmapper
    rw [hmapper]
    exact Prod.mk.inj hverdict
  · rename_i value hmapper
    rw [hmapper]
    exact Prod.mk.inj hverdict

/-- A reader without a mark emits one message, fails to map the next one, and is closed. -/
def failedCourse : Course String Shared :=
  (opening (pickyTextsOf "orders") none {}
    { broker := .after none (publishing "orders" ["A", "B", "C"]) }).run
      (Shared.endpoint undisturbed) [.start, .advance, .close]

/-- The mark that the failed reader leaves. -/
def failedMark : Mark :=
  { sessionId := some "session-1-2", pending := [⟨⟨"A"⟩, 1⟩, ⟨⟨"B"⟩, 1⟩] }

/-- A reader begins with the mark of the failed one, at the broker that it left. -/
def resumedCourse : Course String Shared :=
  (opening (pickyTextsOf "orders") (some failedMark) {}
    { broker := failedCourse.scene.env.env.broker }).run (Shared.endpoint undisturbed) [.start]

/-- The second reader passes over a message that the first one received and failed to map. -/
theorem passes_over_received_failedCourse :
    failedCourse.scene.client.mark.Fits ∧
    Mark.decode failedCourse.scene.client.mark.encode = .ok failedMark ∧
    ⟨"B"⟩ ∈ resumedCourse.passedOver ∧
    ∃ poll ∈ failedCourse.polls, ∃ message,
      poll.receipts = [.done (some message)] ∧ message.id = some ⟨"B"⟩ := by
  have hfits : failedCourse.scene.client.mark.Fits := by decide +kernel
  have hmark : Mark.decode failedCourse.scene.client.mark.encode = .ok failedMark := by
    decide +kernel
  have hid : ⟨"B"⟩ ∈ resumedCourse.passedOver := by decide +kernel
  have hfirst : (opening (pickyTextsOf "orders") none {}
      { broker := .after none (publishing "orders" ["A", "B", "C"]) }).run
        (Shared.endpoint undisturbed) [.start, .advance, .close] = failedCourse := rfl
  have hsecond : (opening (pickyTextsOf "orders") (some failedMark) {}
      { broker := failedCourse.scene.env.env.broker }).run
        (Shared.endpoint undisturbed) [.start] = resumedCourse := rfl
  obtain ⟨poll, hpoll, message, hreceipts, hmessage, -⟩ :=
    passes_over_received hfirst hfits hmark hsecond hid
  exact ⟨hfits, hmark, hid, poll, hpoll, message, hreceipts, hmessage⟩

/-- A message is passed over that was never emitted: the first reader failed to map it, its mark
lists it all the same, and the second reader skips it. -/
theorem passes_over_unemitted_failedCourse :
    Mark.decode failedCourse.scene.client.mark.encode = .ok failedMark ∧
    failedCourse.polls.map (·.outcome) = [.done true, .failed (.mapping "B" "refused B")] ∧
    failedCourse.emitted = [⟨"A"⟩] ∧
    ¬∀ id ∈ resumedCourse.passedOver, id ∈ failedCourse.emitted := by
  decide +kernel

end Course

end Reader

end BrokerConnector
