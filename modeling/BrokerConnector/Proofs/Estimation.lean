import BrokerConnector.World

/-!
# When queue depth estimators poll

An estimator is started and stopped while time passes, other estimators come and go, and the brokers
of the world change in any way. What it was told is kept beside the run as a log of readings
(`World.readingsAll`). The log and the state determine each other: while an estimator runs, its
state is what the readings make of the state before, and every reading is taken when it is due
(`World.Keeps`).

So the moments of the polls are those of the schedule, whatever they were answered: the moment of
the start and then one period after the other (`World.polls_on_schedule`).
-/

namespace BrokerConnector

/-- What an estimator was told when it asked. -/
structure Reading where
  moment : Nat
  report : Except BrokerError Nat

/-- The depths that were told. A poll that failed told none. -/
def Reading.depths (readings : List Reading) : List Nat :=
  readings.filterMap (·.report.toOption)

theorem Reading.depths_append (readings others : List Reading) :
    depths (readings ++ others) = depths readings ++ depths others :=
  List.filterMap_append

/-! ## One estimator -/

namespace DepthEstimator

variable (estimator : DepthEstimator) (first : Reading) (readings others : List Reading)

/-- An estimator that polled. -/
def told (readings : List Reading) : DepthEstimator :=
  readings.foldl (fun estimator reading => estimator.poll reading.moment reading.report) estimator

@[simp] theorem told_nil : estimator.told [] = estimator :=
  rfl

@[simp] theorem told_cons :
    estimator.told (first :: readings) = (estimator.poll first.moment first.report).told readings :=
  rfl

theorem told_append : estimator.told (readings ++ others) = (estimator.told readings).told others :=
  List.foldl_append

@[simp] theorem period_poll (now : Nat) (report : Except BrokerError Nat) :
    (estimator.poll now report).period = estimator.period :=
  rfl

/-- The period of an estimator stays. -/
@[simp] theorem period_told : (estimator.told readings).period = estimator.period := by
  induction readings generalizing estimator with
  | nil => rfl
  | cons first rest ih => rw [told_cons, ih, period_poll]

/-- The depth that an estimator keeps is the one that it was told last. -/
theorem lastDepth_told :
    (estimator.told readings).lastDepth =
      (Reading.depths readings).getLast?.getD estimator.lastDepth := by
  induction readings generalizing estimator with
  | nil => rfl
  | cons first rest ih =>
    obtain ⟨moment, report⟩ := first
    rw [told_cons, ih]
    cases report with
    | error error => rfl
    | ok depth =>
      show _ = ([depth] ++ Reading.depths rest).getLast?.getD estimator.lastDepth
      rw [List.getLast?_append]
      cases (Reading.depths rest).getLast? <;> rfl

/-- Readings are punctual if each is taken when it is due. -/
def Punctual : DepthEstimator → List Reading → Prop
  | _, [] => True
  | estimator, first :: rest =>
    estimator.nextPoll = some first.moment ∧
      (estimator.poll first.moment first.report).Punctual rest

variable {estimator readings others}

/-- Punctual readings one after the other are punctual. -/
theorem Punctual.append (h : estimator.Punctual readings)
    (hothers : (estimator.told readings).Punctual others) :
    estimator.Punctual (readings ++ others) := by
  induction readings generalizing estimator with
  | nil => exact hothers
  | cons first rest ih => exact ⟨h.1, ih h.2 hothers⟩

/-- An estimator that is stopped does not poll. -/
theorem Punctual.eq_nil (h : estimator.Punctual readings) (hstopped : estimator.nextPoll = none) :
    readings = [] := by
  cases readings with
  | nil => rfl
  | cons first rest =>
    have hdue := h.1
    rw [hstopped] at hdue
    cases hdue

/-- An estimator that runs polls once in every period. -/
theorem Punctual.moments (h : estimator.Punctual readings) {due : Nat}
    (hdue : estimator.nextPoll = some due) :
    readings.map (·.moment) = List.range' due readings.length estimator.period ∧
      (estimator.told readings).nextPoll = some (due + readings.length * estimator.period) := by
  induction readings generalizing estimator due with
  | nil => exact ⟨rfl, by simpa using hdue⟩
  | cons first rest ih =>
    obtain rfl : first.moment = due := Option.some.inj (h.1.symm.trans hdue)
    obtain ⟨hmoments, hnext⟩ := ih h.2 rfl
    refine ⟨congrArg (first.moment :: ·) hmoments, hnext.trans (congrArg some ?_)⟩
    show first.moment + estimator.period + rest.length * estimator.period = _
    rw [List.length_cons, Nat.add_mul, Nat.one_mul]
    omega

/-- An estimator that takes in punctual readings runs if it ran before. -/
theorem Punctual.isRunning_told (h : estimator.Punctual readings) :
    (estimator.told readings).isRunning = estimator.isRunning := by
  cases hnext : estimator.nextPoll with
  | none => rw [h.eq_nil hnext, told_nil]
  | some due => rw [isRunning, isRunning, (h.moments hnext).2, hnext]; rfl

end DepthEstimator

namespace World

/-! ## What can happen, and what is told -/

/-- What can happen beside an estimator, or to it. -/
inductive Occurrence where
  | create (plan : EstimatorPlan)
  | start (estimator : EstimatorHandle)
  | stop (estimator : EstimatorHandle)
  | pass (milliseconds : Nat)
  /-- Whatever else decides what is reported, now or later. -/
  | change (timeOfDay : Int64) (sites : List Site) (planned : List Publication)
  deriving DecidableEq

/-- A world after something happened. -/
def occur (world : World) : Occurrence → World
  | .create plan => (world.createEstimator plan).2
  | .start estimator => (world.startEstimator estimator).2
  | .stop estimator => world.stopEstimator estimator
  | .pass milliseconds => (world.pass milliseconds).1
  | .change timeOfDay sites planned =>
    { world with timeOfDay := timeOfDay, sites := sites, planned := planned }

/-- A world after one thing happened after the other. -/
def occurAll (world : World) (occurrences : List Occurrence) : World :=
  occurrences.foldl occur world

/-- Whether an estimator polls. -/
def isPolling (world : World) (estimator : EstimatorHandle) : Bool :=
  world.estimators[estimator.index]?.any (·.depth.isRunning)

/-- What an estimator is told when it is started. -/
def readingsOfStart (world : World) (estimator : EstimatorHandle) : List Reading :=
  match world.estimators[estimator.index]? with
  | some ⟨.queueDepth site queue interval, depth⟩ =>
    if depth.isRunning then []
    else [⟨world.clock, world.report (.queueDepth site queue interval)⟩]
  | _ => []

/-- What an estimator is told when everything is done that is due. -/
def readingsDue (world : World) (estimator : EstimatorHandle) : List Reading :=
  match world.estimators[estimator.index]? with
  | some ⟨plan, depth⟩ =>
    if depth.nextPoll.any (· ≤ world.clock) then [⟨world.clock, world.publishDue.report plan⟩]
    else []
  | none => []

/-- A world at the moment of its next event. -/
def atEvent (world : World) (due : Nat) : World :=
  { world with clock := max due (world.clock + 1) }

/-- What an estimator is told while the clock moves to `target`, event by event. -/
def readingsUntil (estimator : EstimatorHandle) (target : Nat) : Nat → World → List Reading
  | 0, _ => []
  | budget + 1, world =>
    match world.nextDue? with
    | none => []
    | some due =>
      if due ≤ target then
        (world.atEvent due).readingsDue estimator ++
          readingsUntil estimator target budget (world.atEvent due).fire.1
      else []

/-- What an estimator is told while something happens. -/
def readings (world : World) (estimator : EstimatorHandle) : Occurrence → List Reading
  | .start other => if other = estimator then world.readingsOfStart estimator else []
  | .pass milliseconds => readingsUntil estimator (world.clock + milliseconds) milliseconds world
  | _ => []

/-- What an estimator is told while one thing happens after the other. -/
def readingsAll (estimator : EstimatorHandle) : List Occurrence → World → List Reading
  | [], _ => []
  | first :: rest, world =>
    world.readings estimator first ++ readingsAll estimator rest (world.occur first)

/-! ## The clock -/

/-- No poll is overdue. -/
def PollsAhead (world : World) : Prop :=
  ∀ found ∈ world.estimators, ∀ due, found.depth.nextPoll = some due → world.clock < due

/-- Publishing what is due leaves everything else as it is. -/
theorem publishDue_rest (world : World) :
    world.publishDue.clock = world.clock ∧ world.publishDue.estimators = world.estimators ∧
      world.publishDue.planned = world.planned.filter (world.clock < ·.due) := by
  unfold publishDue
  generalize world.planned.filter (·.due ≤ world.clock) = due
  -- The publications go on in a world of their own, so the statement is about any such world.
  suffices h : ∀ other : World,
      let after := due.foldl (fun world publication =>
        (world.publish publication.site publication.destination publication.message).2) other
      after.clock = other.clock ∧ after.estimators = other.estimators ∧
        after.planned = other.planned from
    h { world with planned := world.planned.filter (world.clock < ·.due) }
  intro other
  induction due generalizing other with
  | nil => exact ⟨rfl, rfl, rfl⟩
  | cons first rest ih =>
    obtain ⟨hclock, hestimators, hplanned⟩ :=
      ih (other.publish first.site first.destination first.message).2
    have hpublish : ∀ site destination message,
        (other.publish site destination message).2.clock = other.clock ∧
          (other.publish site destination message).2.estimators = other.estimators ∧
          (other.publish site destination message).2.planned = other.planned := by
      intro site destination message
      unfold publish
      split <;> exact ⟨rfl, rfl, rfl⟩
    obtain ⟨hclock', hestimators', hplanned'⟩ :=
      hpublish first.site first.destination first.message
    exact ⟨hclock.trans hclock', hestimators.trans hestimators', hplanned.trans hplanned'⟩

/-- Between two worlds an estimator did nothing but take in readings, each when it was due. -/
structure Keeps (world after : World) (estimator : EstimatorHandle) (readings : List Reading) :
    Prop where
  told : ∀ plan depth, world.estimators[estimator.index]? = some ⟨plan, depth⟩ →
    after.estimators[estimator.index]? = some ⟨plan, depth.told readings⟩ ∧
      depth.Punctual readings
  past : ∀ reading ∈ readings, reading.moment ≤ after.clock
  clock : world.clock ≤ after.clock

variable {world after last : World} {estimator : EstimatorHandle} {readings others : List Reading}

/-- An estimator that is left alone takes in nothing. -/
theorem Keeps.of_eq
    (h : ∀ plan depth, world.estimators[estimator.index]? = some ⟨plan, depth⟩ →
      after.estimators[estimator.index]? = some ⟨plan, depth⟩)
    (hclock : world.clock ≤ after.clock) : Keeps world after estimator [] :=
  ⟨fun plan depth hentry => ⟨h plan depth hentry, trivial⟩, by simp, hclock⟩

theorem Keeps.trans (h : Keeps world after estimator readings)
    (hlast : Keeps after last estimator others) :
    Keeps world last estimator (readings ++ others) where
  told plan depth hentry := by
    obtain ⟨hafter, hpunctual⟩ := h.told plan depth hentry
    obtain ⟨hend, hothers⟩ := hlast.told plan _ hafter
    exact ⟨by rw [hend, DepthEstimator.told_append], hpunctual.append hothers⟩
  past reading hreading := by
    rcases List.mem_append.1 hreading with hfirst | hnext
    · exact Nat.le_trans (h.past reading hfirst) hlast.clock
    · exact hlast.past reading hnext
  clock := Nat.le_trans h.clock hlast.clock

/-- When everything is done that is due, an estimator polls if its poll is due. No poll is overdue
then. -/
theorem keeps_fire (estimator : EstimatorHandle)
    (hdue : ∀ found ∈ world.estimators, ∀ due, found.depth.nextPoll = some due →
      world.clock ≤ due) :
    Keeps world world.fire.1 estimator (world.readingsDue estimator) ∧ world.fire.1.PollsAhead := by
  obtain ⟨hclock, hestimators, -⟩ := world.publishDue_rest
  have hfired : world.fire.1.estimators =
      world.estimators.map fun found => (world.publishDue.pollDue found).1 := by
    simp only [fire, List.map_map, hestimators]
    rfl
  have hmoment : world.fire.1.clock = world.clock := hclock
  refine ⟨⟨fun plan depth hentry => ?_, fun reading hreading => ?_, Nat.le_of_eq hmoment.symm⟩, ?_⟩
  · have hmem := List.mem_of_getElem? hentry
    rw [hfired, List.getElem?_map, hentry, readingsDue, hentry]
    cases hnext : depth.nextPoll with
    | none => simp [pollDue, hnext, DepthEstimator.Punctual]
    | some due =>
      -- No poll was missed, so one that is reached is made at its own moment.
      by_cases hreached : due ≤ world.clock
      · obtain rfl : due = world.clock := Nat.le_antisymm hreached (hdue _ hmem due hnext)
        simp [pollDue, hnext, hclock, DepthEstimator.Punctual]
      · simp [pollDue, hnext, hclock, hreached, DepthEstimator.Punctual]
  · unfold readingsDue at hreading
    split at hreading
    · split at hreading
      · rw [List.mem_singleton.1 hreading]
        exact Nat.le_of_eq hmoment.symm
      · cases hreading
    · cases hreading
  · intro found hfound due hnext
    rw [hfired] at hfound
    obtain ⟨before, hbefore, rfl⟩ := List.mem_map.1 hfound
    rw [hmoment]
    -- A poll that was made comes again a period later, and the others were not reached.
    unfold pollDue at hnext
    split at hnext
    · rename_i hnone
      rw [hnone] at hnext
      cases hnext
    · rename_i due' hdue'
      split at hnext
      · have hpoll : due' + before.depth.period = due := Option.some.inj hnext
        have hpos := before.depth.period_pos
        have hle := hdue before hbefore due' hdue'
        omega
      · rename_i hlater
        rw [hclock] at hlater
        rw [hdue'] at hnext
        obtain rfl := Option.some.inj hnext
        exact Nat.lt_of_not_le hlater

/-- The next event is a publication or the poll of an estimator. It is not after any such poll. -/
theorem nextDue?_eq_some {due : Nat} (h : world.nextDue? = some due) :
    (∀ found ∈ world.estimators, ∀ poll, found.depth.nextPoll = some poll → due ≤ poll) ∧
      ((∃ publication ∈ world.planned, publication.due = due) ∨
        ∃ found ∈ world.estimators, found.depth.nextPoll = some due) := by
  obtain ⟨hmem, hle⟩ := List.min?_eq_some_iff.1 h
  refine ⟨fun found hfound poll hpoll => hle poll ?_, ?_⟩
  · exact List.mem_append_right _ (List.mem_filterMap.2 ⟨found, hfound, hpoll⟩)
  · exact (List.mem_append.1 hmem).imp List.mem_map.1 List.mem_filterMap.1

/-- Where nothing is to happen, no estimator runs. -/
theorem nextDue?_eq_none (h : world.nextDue? = none) :
    ∀ found ∈ world.estimators, found.depth.nextPoll = none := by
  intro found hfound
  have hnone := (List.append_eq_nil_iff.1 (List.min?_eq_none_iff.1 h)).2
  exact List.filterMap_eq_nil_iff.1 hnone found hfound

/-- While the clock moves to `target`, an estimator does nothing but poll when its poll is due. Only
publications can be overdue, and those are made in the first event. -/
theorem keeps_passUntil (estimator : EstimatorHandle) {target : Nat} (budget : Nat)
    (hahead : world.PollsAhead) (hbudget : target ≤ world.clock + budget)
    (hclock : world.clock ≤ target)
    (hplanned : world.clock < target ∨
      ∀ publication ∈ world.planned, world.clock < publication.due) :
    Keeps world (passUntil target budget world).1 estimator
        (readingsUntil estimator target budget world) ∧
      (passUntil target budget world).1.PollsAhead ∧
      (passUntil target budget world).1.clock = target := by
  -- The induction is on the budget: every event moves the clock, so a step for each moment will do.
  induction budget generalizing world with
  | zero =>
    obtain rfl : world.clock = target := Nat.le_antisymm hclock hbudget
    exact ⟨.of_eq (fun _ _ => id) (Nat.le_refl _), hahead, rfl⟩
  | succ budget ih =>
    unfold passUntil readingsUntil
    cases hnext : world.nextDue? with
    | none =>
      refine ⟨.of_eq (fun _ _ => id) hclock, fun found hfound due hdue => ?_, rfl⟩
      rw [nextDue?_eq_none hnext found hfound] at hdue
      cases hdue
    | some due =>
      obtain ⟨hfirst, hwhich⟩ := nextDue?_eq_some hnext
      by_cases hreached : due ≤ target
      · -- The event is made one step after the clock at least. There is a step left: either the
        -- target is ahead, or whatever is due is.
        have hevent : max due (world.clock + 1) ≤ target := by
          rcases hplanned with hbefore | hlater
          · omega
          · rcases hwhich with ⟨publication, hpublication, rfl⟩ | ⟨found, hfound, hpoll⟩
            · have hless := hlater publication hpublication
              omega
            · have hless := hahead found hfound due hpoll
              omega
        have hdue : ∀ found ∈ (world.atEvent due).estimators, ∀ poll,
            found.depth.nextPoll = some poll → (world.atEvent due).clock ≤ poll :=
          fun found hfound poll hpoll =>
            Nat.max_le.2 ⟨hfirst found hfound poll hpoll, hahead found hfound poll hpoll⟩
        obtain ⟨hfire, hfired⟩ := keeps_fire estimator hdue
        obtain ⟨hmoment, -, hrest⟩ := (world.atEvent due).publishDue_rest
        have hmoment' : (world.atEvent due).fire.1.clock = max due (world.clock + 1) := hmoment
        obtain ⟨hkeeps, hend, htarget⟩ := ih hfired (by omega) (by omega) <| .inr <| by
          intro publication hpublication
          have hmem : publication ∈ (world.atEvent due).publishDue.planned := hpublication
          rw [hrest] at hmem
          rw [hmoment']
          exact of_decide_eq_true (List.mem_filter.1 hmem).2
        simp only [if_pos hreached]
        refine ⟨Keeps.trans ⟨hfire.told, hfire.past, ?_⟩ hkeeps, hend, htarget⟩
        omega
      · simp only [if_neg hreached]
        refine ⟨.of_eq (fun _ _ => id) hclock, fun found hfound poll hpoll => ?_, trivial⟩
        have hle := hfirst found hfound poll hpoll
        show target < poll
        omega

/-- While time passes, an estimator does nothing but poll when its poll is due. -/
theorem keeps_pass (estimator : EstimatorHandle) (hahead : world.PollsAhead) (milliseconds : Nat) :
    Keeps world (world.pass milliseconds).1 estimator
        (world.readings estimator (.pass milliseconds)) ∧
      (world.pass milliseconds).1.PollsAhead := by
  cases milliseconds with
  | zero => exact ⟨.of_eq (fun _ _ => id) (Nat.le_refl _), hahead⟩
  | succ milliseconds =>
    obtain ⟨hkeeps, hend, -⟩ := keeps_passUntil estimator (milliseconds + 1) hahead
      (Nat.le_refl _) (by omega) (.inl (by omega))
    exact ⟨hkeeps, hend⟩

/-! ## Starting and stopping -/

/-- An estimator whose state is set is set, and no other is. -/
theorem getElem?_setDepth (world : World) (index : Nat) (depth : DepthEstimator) (other : Nat) :
    (world.setDepth index depth).estimators[other]? =
      world.estimators[other]?.map fun found =>
        if index = other then { found with depth := depth } else found :=
  List.getElem?_modify _ _ _ _

/-- An estimator whose state is set to what it is stays. -/
theorem setDepth_self {index : Nat} {found : Estimator}
    (h : world.estimators[index]? = some found) : world.setDepth index found.depth = world := by
  have hsame : (world.setDepth index found.depth).estimators = world.estimators := by
    refine List.ext_getElem? fun other => ?_
    rw [getElem?_setDepth]
    by_cases hother : index = other
    · rw [← hother, h]
      simp
    · simp [hother]
  exact congrArg (fun estimators => { world with estimators := estimators }) hsame

/-- An estimator whose next poll is ahead can be set. -/
theorem PollsAhead.setDepth (h : world.PollsAhead) {index : Nat} {depth : DepthEstimator}
    (hdepth : ∀ due, depth.nextPoll = some due → world.clock < due) :
    (world.setDepth index depth).PollsAhead := by
  intro found hfound due hdue
  obtain ⟨other, hother⟩ := List.mem_iff_getElem?.1 hfound
  rw [getElem?_setDepth, Option.map_eq_some_iff] at hother
  obtain ⟨before, hbefore, rfl⟩ := hother
  split at hdue
  · exact hdepth due hdue
  · exact h before (List.mem_of_getElem? hbefore) due hdue

/-- What happens when an estimator of a queue is started. One that runs is not asked. -/
theorem startEstimator_eq (world : World) (estimator : EstimatorHandle) {site interval : Nat}
    {queue : String} {depth : DepthEstimator}
    (h : world.estimators[estimator.index]? = some ⟨.queueDepth site queue interval, depth⟩) :
    world.startEstimator estimator =
      if depth.isRunning then (.ok (), world)
      else
        match world.report (.queueDepth site queue interval) with
        | .ok reported =>
          (.ok (), world.setDepth estimator.index (depth.poll world.clock (.ok reported)))
        | .error error => (.error error, world) := by
  simp only [startEstimator, h, DepthEstimator.start]
  by_cases hrunning : depth.isRunning = true
  · simp only [hrunning, if_true]
    exact congrArg (Prod.mk _) (setDepth_self h)
  · simp only [hrunning]
    cases world.report (.queueDepth site queue interval) <;> rfl

/-- Whatever happens, no poll is overdue. -/
theorem PollsAhead.occur (h : world.PollsAhead) (occurrence : Occurrence) :
    (world.occur occurrence).PollsAhead := by
  cases occurrence with
  | create plan =>
    intro found hfound due hdue
    rcases List.mem_append.1 hfound with hold | hnew
    · exact h found hold due hdue
    · rw [List.mem_singleton.1 hnew] at hdue
      cases hdue
  | start estimator =>
    show (world.startEstimator estimator).2.PollsAhead
    cases hfound : world.estimators[estimator.index]? with
    | none => simpa only [startEstimator, hfound] using h
    | some found =>
      obtain ⟨plan, depth⟩ := found
      cases plan with
      | noInformation => simpa only [startEstimator, hfound] using h
      | queueDepth site queue interval =>
        rw [startEstimator_eq world estimator hfound]
        split
        · exact h
        · split
          · refine h.setDepth fun due hdue => ?_
            obtain rfl : world.clock + depth.period = due := Option.some.inj hdue
            have hpos := depth.period_pos
            omega
          · exact h
  | stop estimator =>
    show (world.stopEstimator estimator).PollsAhead
    unfold stopEstimator
    split
    · exact h
    · exact h.setDepth fun due hdue => by cases hdue
  | pass milliseconds => exact (keeps_pass ⟨0⟩ h milliseconds).2
  | change timeOfDay sites planned => exact h

theorem PollsAhead.occurAll (h : world.PollsAhead) (occurrences : List Occurrence) :
    (world.occurAll occurrences).PollsAhead := by
  induction occurrences generalizing world with
  | nil => exact h
  | cons first rest ih => exact ih (h.occur first)

/-- Starting an estimator sets at most its own state. -/
theorem startEstimator_cases (world : World) (estimator : EstimatorHandle) :
    (world.startEstimator estimator).2 = world ∨
      ∃ depth, (world.startEstimator estimator).2 = world.setDepth estimator.index depth := by
  unfold startEstimator
  split
  · exact .inl rfl
  · split
    · exact .inl rfl
    · split
      · exact .inr ⟨_, rfl⟩
      · exact .inl rfl

/-- An estimator is left alone when the state of another one is set. -/
theorem keeps_setDepth {other : EstimatorHandle} (hother : other ≠ estimator)
    (depth : DepthEstimator) : Keeps world (world.setDepth other.index depth) estimator [] := by
  have hindex : other.index ≠ estimator.index := fun h => hother (congrArg EstimatorHandle.mk h)
  refine .of_eq (fun plan depth hentry => ?_) (Nat.le_refl _)
  rw [getElem?_setDepth, hentry]
  simp [hindex]

/-- What changes whether an estimator polls: stopping it while it does, starting it while it does
not. -/
def turns (estimator : EstimatorHandle) (polling : Bool) : Occurrence :=
  if polling then .stop estimator else .start estimator

variable {site interval : Nat} {queue : String} {depth : DepthEstimator}

/-- Unless it is started or stopped, an estimator does nothing but poll when its poll is due. To
start it while it runs and to stop it while it does not is to do nothing. -/
theorem keeps_occur (hahead : world.PollsAhead)
    (hentry : world.estimators[estimator.index]? = some ⟨.queueDepth site queue interval, depth⟩)
    {occurrence : Occurrence} (h : occurrence ≠ turns estimator depth.isRunning) :
    Keeps world (world.occur occurrence) estimator (world.readings estimator occurrence) := by
  cases occurrence with
  | create plan =>
    refine .of_eq (fun plan' depth' hfound => ?_) (Nat.le_refl _)
    show (world.estimators ++ _)[estimator.index]? = _
    rw [List.getElem?_append_left (List.getElem?_eq_some_iff.1 hfound).1, hfound]
  | start other =>
    by_cases hother : other = estimator
    · subst hother
      -- It does not turn this estimator, so the estimator was running and is left as it was.
      have hrunning : depth.isRunning = true := by
        cases hpolling : depth.isRunning with
        | true => rfl
        | false => exact absurd (by rw [hpolling]; rfl) h
      have hnothing : world.readings other (.start other) = [] := by
        simp [readings, readingsOfStart, hentry, hrunning]
      rw [hnothing, occur, startEstimator_eq world other hentry, if_pos hrunning]
      exact .of_eq (fun _ _ => id) (Nat.le_refl _)
    · have hnothing : world.readings estimator (.start other) = [] := if_neg hother
      rw [hnothing, occur]
      rcases world.startEstimator_cases other with hsame | ⟨changed, hchanged⟩
      · rw [hsame]
        exact .of_eq (fun _ _ => id) (Nat.le_refl _)
      · rw [hchanged]
        exact keeps_setDepth hother changed
  | stop other =>
    show Keeps world (world.stopEstimator other) estimator []
    unfold stopEstimator
    split
    · exact .of_eq (fun _ _ => id) (Nat.le_refl _)
    · rename_i found hfound
      by_cases hother : other = estimator
      · subst hother
        -- Here it was stopped already.
        have hstopped : depth.nextPoll = none := by
          cases hnext : depth.nextPoll with
          | none => rfl
          | some due => exact absurd (by simp [turns, DepthEstimator.isRunning, hnext]) h
        obtain rfl : _ = found := Option.some.inj (hentry.symm.trans hfound)
        have hsame : depth.stop = depth := by rw [DepthEstimator.stop, ← hstopped]
        rw [hsame, setDepth_self hfound]
        exact .of_eq (fun _ _ => id) (Nat.le_refl _)
      · exact keeps_setDepth hother _
  | pass milliseconds => exact (keeps_pass estimator hahead milliseconds).1
  | change timeOfDay sites planned => exact .of_eq (fun _ _ => id) (Nat.le_refl _)

/-- So does an estimator while many things happen, but not what changes whether it polls. -/
theorem keeps_occurAll (hahead : world.PollsAhead)
    (hentry : world.estimators[estimator.index]? = some ⟨.queueDepth site queue interval, depth⟩)
    {occurrences : List Occurrence} (h : turns estimator depth.isRunning ∉ occurrences) :
    Keeps world (world.occurAll occurrences) estimator
      (readingsAll estimator occurrences world) := by
  induction occurrences generalizing world depth with
  | nil => exact .of_eq (fun _ _ => id) (Nat.le_refl _)
  | cons first rest ih =>
    have hfirst : first ≠ turns estimator depth.isRunning := fun he =>
      h (he ▸ List.mem_cons_self)
    have hkeeps := keeps_occur hahead hentry hfirst
    obtain ⟨hafter, hpunctual⟩ := hkeeps.told _ _ hentry
    refine hkeeps.trans (ih (hahead.occur first) hafter ?_)
    rw [hpunctual.isRunning_told]
    exact fun hmem => h (List.mem_cons_of_mem _ hmem)

/-- Whatever happens, the depth that an estimator keeps is the one that it was told last. -/
theorem lastDepth_occur (hahead : world.PollsAhead)
    (hentry : world.estimators[estimator.index]? = some ⟨.queueDepth site queue interval, depth⟩)
    (occurrence : Occurrence) :
    ∃ depth', (world.occur occurrence).estimators[estimator.index]? =
        some ⟨.queueDepth site queue interval, depth'⟩ ∧
      depth'.period = depth.period ∧
      depth'.lastDepth =
        (Reading.depths (world.readings estimator occurrence)).getLast?.getD depth.lastDepth := by
  by_cases hturns : occurrence = turns estimator depth.isRunning
  · cases hrunning : depth.isRunning with
    | true =>
      obtain rfl : occurrence = .stop estimator := by rw [hturns, hrunning]; rfl
      refine ⟨depth.stop, ?_, rfl, rfl⟩
      simp [occur, stopEstimator, hentry, getElem?_setDepth]
    | false =>
      obtain rfl : occurrence = .start estimator := by rw [hturns, hrunning]; rfl
      have hasked : world.readings estimator (.start estimator) =
          [⟨world.clock, world.report (.queueDepth site queue interval)⟩] := by
        simp [readings, readingsOfStart, hentry, hrunning]
      rw [hasked, occur, startEstimator_eq world estimator hentry, hrunning]
      cases hreport : world.report (.queueDepth site queue interval) with
      | error error => exact ⟨depth, hentry, rfl, rfl⟩
      | ok reported =>
        refine ⟨depth.poll world.clock (.ok reported), ?_, rfl, rfl⟩
        simp [getElem?_setDepth, hentry]
  · obtain ⟨hafter, -⟩ := (keeps_occur hahead hentry hturns).told _ _ hentry
    exact ⟨_, hafter, depth.period_told _, depth.lastDepth_told _⟩

theorem lastDepth_occurAll (hahead : world.PollsAhead)
    (hentry : world.estimators[estimator.index]? = some ⟨.queueDepth site queue interval, depth⟩)
    (occurrences : List Occurrence) :
    ∃ depth', (world.occurAll occurrences).estimators[estimator.index]? =
        some ⟨.queueDepth site queue interval, depth'⟩ ∧
      depth'.period = depth.period ∧
      depth'.lastDepth =
        (Reading.depths (readingsAll estimator occurrences world)).getLast?.getD
          depth.lastDepth := by
  induction occurrences generalizing world depth with
  | nil => exact ⟨depth, hentry, rfl, rfl⟩
  | cons first rest ih =>
    obtain ⟨between, hbetween, hperiod, hlast⟩ := lastDepth_occur hahead hentry first
    obtain ⟨depth', hafter, hperiod', hlast'⟩ := ih (hahead.occur first) hbetween
    refine ⟨depth', hafter, hperiod'.trans hperiod, ?_⟩
    rw [hlast', hlast, readingsAll, Reading.depths_append, List.getLast?_append]
    cases (Reading.depths (readingsAll estimator rest (world.occur first))).getLast? <;> rfl

/-! ## The schedule -/

/-- A world that began without estimators, after things happened, has no poll overdue. -/
theorem pollsAhead_occurAll (timeOfDay : Int64) (occurrences : List Occurrence) :
    (({ timeOfDay := timeOfDay } : World).occurAll occurrences).PollsAhead :=
  PollsAhead.occurAll (fun found hfound => by cases hfound) occurrences

/-- What an estimator reports is the depth that it was told last, if no queue is too deep to be
reported. -/
theorem estimate_eq
    (hentry : world.estimators[estimator.index]? = some ⟨.queueDepth site queue interval, depth⟩)
    (hlast : depth.lastDepth = (Reading.depths readings).getLast?.getD unknownDepth)
    (hdepths : ∀ reported ∈ Reading.depths readings, reported < unknownDepth) :
    world.estimate estimator = (Reading.depths readings).getLast? := by
  rw [estimate, hentry]
  show depth.estimate = _
  rw [DepthEstimator.estimate, hlast]
  cases hreported : (Reading.depths readings).getLast? with
  | none => simp
  | some reported =>
    have hless := hdepths reported (List.mem_of_getLast? hreported)
    simp [Nat.ne_of_lt hless]

/-- While an estimator does not run, nothing is asked, and what it reports stays. -/
theorem idle_occurAll (hahead : world.PollsAhead)
    (hentry : world.estimators[estimator.index]? = some ⟨.queueDepth site queue interval, depth⟩)
    (hidle : depth.nextPoll = none) {later : List Occurrence} (hlater : .start estimator ∉ later) :
    readingsAll estimator later world = [] ∧
      (world.occurAll later).isPolling estimator = false ∧
      (world.occurAll later).estimate estimator = world.estimate estimator := by
  have hturns : turns estimator depth.isRunning ∉ later := by
    simpa [turns, DepthEstimator.isRunning, hidle] using hlater
  obtain ⟨hafter, hpunctual⟩ := (keeps_occurAll hahead hentry hturns).told _ _ hentry
  have hnone := hpunctual.eq_nil hidle
  rw [hnone] at hafter
  refine ⟨hnone, ?_, ?_⟩
  · simp [isPolling, hafter, DepthEstimator.isRunning, hidle]
  · simp [estimate, hafter, hentry]

/-- While an estimator runs, it polls once in every period. The last poll is not after the clock and
the next one is, so the clock tells how many there were. -/
theorem polling_occurAll (hahead : world.PollsAhead)
    (hentry : world.estimators[estimator.index]? = some ⟨.queueDepth site queue interval, depth⟩)
    (hnext : depth.nextPoll = some (world.clock + depth.period)) {later : List Occurrence}
    (hlater : .stop estimator ∉ later) :
    (world.occurAll later).isPolling estimator = true ∧
      (readingsAll estimator later world).map (·.moment) =
        List.range' (world.clock + depth.period)
          (((world.occurAll later).clock - world.clock) / depth.period) depth.period := by
  have hturns : turns estimator depth.isRunning ∉ later := by
    simpa [turns, DepthEstimator.isRunning, hnext] using hlater
  have hkeeps := keeps_occurAll hahead hentry hturns
  obtain ⟨hafter, hpunctual⟩ := hkeeps.told _ _ hentry
  obtain ⟨hmoments, hnext'⟩ := hpunctual.moments hnext
  have hahead' := hahead.occurAll later _ (List.mem_of_getElem? hafter) _ hnext'
  have hpast := hkeeps.past
  have hpos := depth.period_pos
  refine ⟨by simp [isPolling, hafter, DepthEstimator.isRunning, hnext'], ?_⟩
  -- With the last poll not after the clock and the next one after it, there is one count left.
  generalize readingsAll estimator later world = readings at *
  generalize (world.occurAll later).clock = clock at *
  have hlast : readings.length * depth.period ≤ clock - world.clock := by
    cases hcount : readings.length with
    | zero => omega
    | succ count =>
      have hmem : world.clock + depth.period + depth.period * count ∈ readings.map (·.moment) := by
        rw [hmoments, hcount]
        exact List.mem_range'.2 ⟨count, by omega, rfl⟩
      obtain ⟨reading, hreading, hmoment⟩ := List.mem_map.1 hmem
      have hreached := hpast reading hreading
      rw [Nat.add_mul, Nat.one_mul, Nat.mul_comm]
      omega
  have hcount : readings.length = (clock - world.clock) / depth.period :=
    (Nat.div_eq_of_lt_le hlast (by rw [Nat.add_mul, Nat.one_mul]; omega)).symm
  rw [hmoments, hcount]

/-- A queue depth estimator polls on schedule. Whatever happens to it, to other estimators and to
the brokers, it reports the depth that it was told last, and nothing as long as no poll told any. It
asks when it is started while it does not run, at that moment. If it is answered, it asks again
after every period until it is stopped, at no other moment. If the first poll fails, so does the
start, and nothing has changed. To start it while it runs is to do nothing. While it does not run,
nothing is asked and what it reports stays. -/
theorem polls_on_schedule (timeOfDay : Int64) (early : List Occurrence) (site interval : Nat)
    (queue : String) (occurrences : List Occurrence) :
    let plan := EstimatorPlan.queueDepth site queue interval
    let period := max interval 1
    let earlier := ({ timeOfDay := timeOfDay } : World).occurAll early
    let estimator := (earlier.createEstimator plan).1
    let created := (earlier.createEstimator plan).2
    let world := created.occurAll occurrences
    let depths := Reading.depths (readingsAll estimator occurrences created)
    ((∀ depth ∈ depths, depth < unknownDepth) → world.estimate estimator = depths.getLast?) ∧
    created.isPolling estimator = false ∧
    (world.isPolling estimator = true →
      world.startEstimator estimator = (.ok (), world) ∧
        world.readings estimator (.start estimator) = []) ∧
    (world.isPolling estimator = false →
      world.readings estimator (.start estimator) = [⟨world.clock, world.report plan⟩] ∧
      (∀ error, world.report plan = .error error →
        world.startEstimator estimator = (.error error, world)) ∧
      (∀ depth, world.report plan = .ok depth →
        (world.startEstimator estimator).1 = .ok () ∧
        ∀ later, .stop estimator ∉ later →
          let after := world.occurAll (.start estimator :: later)
          after.isPolling estimator = true ∧
            (readingsAll estimator (.start estimator :: later) world).map (·.moment) =
              List.range' world.clock ((after.clock - world.clock) / period + 1) period) ∧
      ∀ later, .start estimator ∉ later →
        readingsAll estimator later world = [] ∧
          (world.occurAll later).isPolling estimator = false ∧
          (world.occurAll later).estimate estimator = world.estimate estimator) ∧
    (world.stopEstimator estimator).isPolling estimator = false ∧
    (world.stopEstimator estimator).estimate estimator = world.estimate estimator ∧
    world.readings estimator (.stop estimator) = [] := by
  intro plan period earlier estimator created world depths
  have hcreated : created.PollsAhead :=
    (pollsAhead_occurAll timeOfDay early).occur (.create plan)
  have hnew : created.estimators[estimator.index]? = some ⟨plan, { interval := interval }⟩ :=
    List.getElem?_concat_length
  have hahead : world.PollsAhead := hcreated.occurAll occurrences
  obtain ⟨depth, hentry, hperiod, hlast⟩ := lastDepth_occurAll hcreated hnew occurrences
  replace hentry : world.estimators[estimator.index]? = some ⟨plan, depth⟩ := hentry
  replace hperiod : depth.period = period := hperiod
  have hpolling : world.isPolling estimator = depth.isRunning := by simp [isPolling, hentry]
  have hstart := startEstimator_eq world estimator hentry
  refine ⟨estimate_eq hentry hlast, by simp [isPolling, hnew, DepthEstimator.isRunning], ?running,
    ?idle, ?stopped⟩
  case running =>
    intro hrunning
    rw [hpolling] at hrunning
    refine ⟨by rw [hstart, if_pos hrunning], ?_⟩
    simp [readings, readingsOfStart, hentry, plan, hrunning]
  case idle =>
    intro hstopped
    rw [hpolling] at hstopped
    have hidle : depth.nextPoll = none := by
      simpa [DepthEstimator.isRunning] using hstopped
    have hasked : world.readings estimator (.start estimator) =
        [⟨world.clock, world.report plan⟩] := by
      simp [readings, readingsOfStart, hentry, plan, hstopped]
    rw [hstopped] at hstart
    refine ⟨hasked, fun error herror => ?_, fun reported hreported => ?_, fun later hlater =>
      idle_occurAll hahead hentry hidle hlater⟩
    · rw [hstart]
      simp [plan, herror]
    · obtain ⟨hanswer, hstarted⟩ : (world.startEstimator estimator).1 = .ok () ∧
          (world.startEstimator estimator).2 =
            world.setDepth estimator.index (depth.poll world.clock (.ok reported)) := by
        rw [hstart]
        simp [plan, hreported]
      have hset : (world.occur (.start estimator)).estimators[estimator.index]? =
          some ⟨plan, depth.poll world.clock (.ok reported)⟩ := by
        rw [occur, hstarted, getElem?_setDepth, hentry]
        simp
      have hclock : (world.occur (.start estimator)).clock = world.clock := by
        rw [occur, hstarted]
        rfl
      refine ⟨hanswer, fun later hlater => ?_⟩
      obtain ⟨hpolls, hmoments⟩ := polling_occurAll (hahead.occur (.start estimator)) hset
        (by rw [hclock]; rfl) hlater
      refine ⟨hpolls, ?_⟩
      -- The start is itself the first poll of the schedule.
      rw [readingsAll, hasked, List.map_append, hmoments, hclock, DepthEstimator.period_poll,
        hperiod, List.range'_succ]
      rfl
  case stopped =>
    have hset : (world.stopEstimator estimator).estimators[estimator.index]? =
        some ⟨plan, depth.stop⟩ := by
      simp [stopEstimator, hentry, getElem?_setDepth]
    refine ⟨?_, ?_, rfl⟩
    · simp [isPolling, hset, DepthEstimator.isRunning, DepthEstimator.stop]
    · simp [estimate, hset, hentry, DepthEstimator.estimate, DepthEstimator.stop]

/-- An estimator of a queue that is empty at first is started twice and stopped. Its broker is not
available from the moment 25 on, so a poll fails, and so does the last start. -/
def interruptedRun : List Occurrence :=
  [.change 0 [{}] [⟨15, 0, .queue "orders", .ofText "abc"⟩], .start ⟨0⟩, .pass 25,
   .change 0 [{ broker := { unavailable := true } }] [], .start ⟨0⟩, .pass 10, .stop ⟨0⟩, .pass 10,
   .start ⟨0⟩]

/-- The estimator polls at the moments of its schedule, and reports what it was told last. -/
theorem polls_on_schedule_interruptedRun :
    let created := (({ timeOfDay := 0 } : World).createEstimator (.queueDepth 0 "orders" 10)).2
    let readings := readingsAll ⟨0⟩ interruptedRun created
    readings.map (·.moment) = [0, 10, 20, 30, 45] ∧ Reading.depths readings = [0, 0, 3] ∧
      (created.occurAll interruptedRun).estimate ⟨0⟩ = some 3 := by
  intro created readings
  have hdepths : Reading.depths readings = [0, 0, 3] := by decide +kernel
  have hestimate : (created.occurAll interruptedRun).estimate ⟨0⟩ =
      (Reading.depths readings).getLast? :=
    (polls_on_schedule 0 [] 0 10 "orders" interruptedRun).1 (by decide +kernel)
  refine ⟨by decide +kernel, hdepths, ?_⟩
  rw [hestimate, hdepths]
  rfl

end World

end BrokerConnector
