import BrokerConnector.Proofs.Bounded
import BrokerConnector.Proofs.Promptness
import BrokerConnector.Proofs.Trace

/-!
# How long a bounded read takes

In surroundings whose time passes only while a client lets it (`Endpoint.Punctual`), a read with a
time limit makes progress in one of two ways between two polls: it was given a message, or it lets
at least five milliseconds pass, unless that would take it beyond the deadline. So what is left of
the messages and of the time tells how many polls there can be (`BoundedRead.pollsLeft`), and each
poll lowers it.

`Endpoint.paced` answers like an endpoint and keeps the pauses. None of them lasts beyond the
deadline, and each is between five and five hundred milliseconds long or ends with it.
-/

namespace BrokerConnector

open BrokerConnector.Action

/-! ## Chance -/

/-- Chance selects any pause between half of the longest and the longest, and no other. -/
theorem exists_pauseAfter_eq_iff (idle pause : Nat) :
    (∃ chance, pauseAfter idle chance = pause) ↔
      longestPause idle / 2 ≤ pause ∧ pause ≤ longestPause idle := by
  constructor
  · rintro ⟨chance, rfl⟩
    refine ⟨?_, pauseAfter_le_longestPause idle chance⟩
    exact Nat.le_add_right _ _
  · rintro ⟨hhalf, hlongest⟩
    refine ⟨pause - longestPause idle / 2, ?_⟩
    have hsmall : pause - longestPause idle / 2 <
        longestPause idle - longestPause idle / 2 + 1 := by omega
    show longestPause idle / 2 + _ % _ = pause
    rw [Nat.mod_eq_of_lt hsmall]
    omega

/-! ## Time -/

/-- Time passes only while a client lets it, and exactly as long. -/
structure Endpoint.Punctual {σ : Type} (endpoint : Endpoint σ) : Prop where
  answer : ∀ request env, endpoint.clock (endpoint.answer request env).2 = endpoint.clock env
  sleep : ∀ milliseconds env,
    endpoint.clock (endpoint.sleep milliseconds env).1 = endpoint.clock env + milliseconds

/-- A pause: what the clock shows when it begins, and how many milliseconds it lasts. -/
structure Pause where
  start : Nat
  length : Nat
  deriving DecidableEq

/-- Surroundings with the pauses so far. -/
structure Paced (σ : Type) where
  env : σ
  pauses : List Pause := []

/-- An endpoint that keeps the pauses that it is asked for. -/
def Endpoint.paced {σ : Type} (endpoint : Endpoint σ) : Endpoint (Paced σ) where
  answer request paced :=
    let (outcome, env) := endpoint.answer request paced.env
    (outcome, { paced with env := env })
  clock paced := endpoint.clock paced.env
  sleep milliseconds paced :=
    let (env, notices) := endpoint.sleep milliseconds paced.env
    (⟨env, paced.pauses ++ [⟨endpoint.clock paced.env, milliseconds⟩]⟩, notices)

/-- An endpoint that keeps the pauses answers like the endpoint that it is made from. -/
theorem Endpoint.paced_alike {σ : Type} (endpoint : Endpoint σ) :
    endpoint.paced.Alike endpoint (fun _ => True) fun paced env => paced.env = env := by
  constructor
  · rintro request - paced _ rfl
    exact ⟨rfl, rfl⟩
  · rintro paced _ rfl
    rfl
  · rintro milliseconds paced _ rfl
    exact ⟨rfl, rfl⟩

/-- A scene whose surroundings are traced and paced from now on. -/
def Scene.paced {ρ σ : Type} (s : Scene ρ σ) : Scene ρ (Traced (Paced σ)) where
  client := s.client
  journal := s.journal
  env := ⟨⟨s.env, []⟩, []⟩

/-! ## What a trace tells of messages -/

/-- The event that a request was, if it concerned messages. -/
def Inquiry.event? (inquiry : Inquiry) : Option Event :=
  Event.of? inquiry.request inquiry.outcome

/-- What consumers gave, in order. -/
def Trace.receipts (trace : Trace) : List Receipt :=
  (trace.filterMap (·.event?)).filterMap (·.receipt?)

/-- The messages that were received, in order. -/
def Trace.messages (trace : Trace) : List Message :=
  trace.receipts.filterMap (·.message?)

namespace Recorded

variable {σ : Type} {endpoint : Endpoint σ}

/-- What was received before is followed by what was received later. -/
theorem receipts_prefix {allowed : Request → Prop} {before after : Recorded σ}
    (h : endpoint.recorded.Steps allowed before after) : before.receipts <+: after.receipts := by
  induction h with
  | refl => exact List.prefix_refl _
  | @tail middle _ _ hstep ih =>
    refine ih.trans ?_
    cases hstep with
    | answer request _ =>
      have hevents : (endpoint.recorded.answer request middle).2.receipts =
          middle.receipts ++ ((Event.of? request
            (endpoint.answer request middle.env).1).toList.filterMap (·.receipt?)) :=
        List.filterMap_append
      rw [hevents]
      exact List.prefix_append _ _
    | sleep milliseconds => exact List.prefix_refl _

/-- What is recorded of traced surroundings is what the trace tells of messages. -/
theorem receipts_of_steps {allowed : Request → Prop} {before after : Recorded (Traced σ)}
    (h : endpoint.traced.recorded.Steps allowed before after)
    (hbefore : before.events = before.env.trace.filterMap (·.event?)) :
    after.events = after.env.trace.filterMap (·.event?) := by
  induction h with
  | refl => exact hbefore
  | tail _ hstep ih =>
    cases hstep with
    | answer request _ =>
      show _ ++ _ = List.filterMap _ (_ ++ [_])
      rw [List.filterMap_append, ← ih, List.filterMap_cons, List.filterMap_nil]
      congr 1
    | sleep milliseconds => exact ih

end Recorded

/-! ## Requests take no time -/

namespace Endpoint

variable {σ : Type} {endpoint : Endpoint σ}

/-- An endpoint that keeps the pauses, the requests and what was told about messages. -/
abbrev watched (endpoint : Endpoint σ) : Endpoint (Recorded (Traced (Paced σ))) :=
  endpoint.paced.traced.recorded

/-- Time passes as it does when nothing is kept. -/
theorem Punctual.watched (h : endpoint.Punctual) : endpoint.watched.Punctual where
  answer request env := h.answer request env.env.env.env
  sleep milliseconds env := h.sleep milliseconds env.env.env.env

/-- Requests take no time. -/
theorem Punctual.clock_of_requests (h : endpoint.Punctual) {before after : σ}
    (hrequests : endpoint.Requests before after) :
    endpoint.clock after = endpoint.clock before := by
  induction hrequests with
  | refl => rfl
  | tail _ hstep ih =>
    obtain ⟨request, rfl⟩ := hstep
    exact (h.answer request _).trans ih

/-- Requests are no pauses. -/
theorem pauses_of_requests {before after : Recorded (Traced (Paced σ))}
    (h : endpoint.watched.Requests before after) :
    after.env.env.pauses = before.env.env.pauses := by
  induction h with
  | refl => rfl
  | tail _ hstep ih =>
    obtain ⟨request, rfl⟩ := hstep
    exact ih

/-- A request that is left unanswered is in the trace. -/
theorem not_answered_of_waits {before after : Recorded (Traced σ)}
    (h : endpoint.traced.recorded.Waits before after) : ¬ after.env.trace.Answered := by
  obtain ⟨env, request, -, hanswer⟩ := h
  obtain ⟨houtcome, rfl⟩ := Prod.mk.inj hanswer
  replace houtcome : (endpoint.answer request env.env.env).1 = .abandoned := houtcome
  intro hanswered
  have hlast := hanswered ⟨request, (endpoint.answer request env.env.env).1⟩
    (List.mem_append_right _ (List.mem_singleton_self _))
  simp only [Inquiry.isAnswered, houtcome] at hlast
  cases hlast

end Endpoint

namespace BoundedRead

variable {α σ : Type} {config : ReadConfig α} {endpoint : Endpoint σ}

/-! ## One poll -/

/-- A read that collects the next record was given one thing, and it is a message if there is a
record. -/
theorem leaves_collect_counted {s : Scene (BoundedRead α) (Recorded σ)} (h : Reading config s) :
    Leaves (collect endpoint.recorded) s
      (fun found s' => s'.client.deadline = s.client.deadline ∧
        s'.env.receipts.length = s.env.receipts.length + 1 ∧
        s.env.messages.length ≤ s'.env.messages.length ∧
        (found = true → s'.env.messages.length = s.env.messages.length + 1))
      (fun _ s' => s'.env.receipts.length ≤ s.env.receipts.length + 1)
      (fun s' => s'.env.receipts.length ≤ s.env.receipts.length + 1) := by
  let r : Scene (Reader α) (Recorded σ) :=
    { client := s.client.reader, journal := s.journal, env := s.env }
  -- A poll that fails has received one answer or none.
  have hfailed : ∀ outcome (r' : Scene (Reader α) (Recorded σ)),
      (∃ receipt, Polled r outcome receipt r') ∨ r'.env.events = r.env.events →
        r'.env.receipts.length ≤ r.env.receipts.length + 1 := by
    rintro outcome r' (⟨receipt, hpolled⟩ | hsame)
    · rw [hpolled.receipts, List.length_append]
      exact Nat.le_refl _
    · rw [Recorded.receipts, hsame, ← Recorded.receipts]
      exact Nat.le_succ _
  simp only [collect, withReader, leaves_bind, Scene.leaves_get, Scene.leaves_within]
  refine (leaves_poll_reader r h.ready).mono ?_ (fun _ r' => hfailed _ r') (fun r' => hfailed _ r')
  rintro found r' ⟨receipt, hpolled⟩
  have hverdict := hpolled.verdict
  have hone : r'.env.receipts.length = s.env.receipts.length + 1 := by
    rw [hpolled.receipts, List.length_append]
    rfl
  have hmessages : r'.env.messages = s.env.messages ++ receipt.message?.toList := by
    rw [Recorded.messages, hpolled.receipts, List.filterMap_append]
    cases hmessage : receipt.message? <;> simp [Recorded.messages, r, hmessage]
  have hkept : s.env.messages.length ≤ r'.env.messages.length := by
    rw [hmessages, List.length_append]
    exact Nat.le_add_right _ _
  cases found with
  | false => exact ⟨rfl, hone, hkept, fun hfound => by cases hfound⟩
  | true =>
    obtain ⟨message, record, rfl, hcurrent, -⟩ := ReadConfig.yields_of_verdict hverdict
    simp only [if_true, leaves_bind, Scene.leaves_get, Reader.leaves_current, hcurrent,
      Scene.leaves_modify, leaves_pure]
    refine ⟨trivial, hone, hkept, fun _ => ?_⟩
    rw [hmessages, List.length_append]
    rfl

/-- What a poll of a read with a deadline leaves, when it tells what to do next. -/
structure Turned (endpoint : Endpoint σ) (config : ReadConfig α) (limit : Nat)
    (s : Scene (BoundedRead α) (Recorded (Traced (Paced σ)))) (turn : Turn)
    (s' : Scene (BoundedRead α) (Recorded (Traced (Paced σ)))) : Prop where
  reading : Reading config s'
  deadline : s'.client.deadline = some limit
  clock : endpoint.watched.clock s'.env = endpoint.watched.clock s.env
  pauses : s'.env.env.env.pauses = s.env.env.env.pauses
  polls : s'.env.receipts.length = s.env.receipts.length + 1
  kept : s.env.messages.length ≤ s'.env.messages.length
  found : turn = .pollAgain → s'.env.messages.length = s.env.messages.length + 1
  early : turn ≠ .finish → endpoint.watched.clock s.env < limit
  pause : ∀ milliseconds, turn = .pauseFor milliseconds → ∃ pause, 5 ≤ pause ∧ pause ≤ 500 ∧
    milliseconds = min pause (limit - endpoint.watched.clock s.env)

/-- What a poll leaves when it fails or is dropped. -/
structure Broken (s s' : Scene (BoundedRead α) (Recorded (Traced (Paced σ)))) : Prop where
  pauses : s'.env.env.env.pauses = s.env.env.env.pauses
  polls : s'.env.receipts.length ≤ s.env.receipts.length + 1

/-- A pause lasts half a second at most. -/
theorem pauseAfter_le (idle chance : Nat) : pauseAfter idle chance ≤ 500 :=
  Nat.le_trans (pauseAfter_le_longestPause idle chance) (Nat.min_le_right _ _)

section

variable {read : BoundedRead α} {now chance : Nat} {found : Bool}

/-- A read that goes on is not over its time. -/
theorem isOverdue_of_turn (h : read.turn now found chance ≠ .finish) :
    read.isOverdue now = false := by
  unfold turn at h
  split at h
  · exact absurd rfl h
  · rename_i hmore
    simp only [Bool.or_eq_true, not_or, Bool.not_eq_true] at hmore
    exact hmore.2

/-- A read polls at once only if it found something. -/
theorem found_of_turn (h : read.turn now found chance = .pollAgain) : found = true := by
  unfold turn at h
  split at h
  · cases h
  · split at h
    · assumption
    · cases h

/-- A read pauses as long as chance and the deadline tell. -/
theorem pause_of_turn {milliseconds : Nat}
    (h : read.turn now found chance = .pauseFor milliseconds) :
    milliseconds = read.cutPause now (pauseAfter read.idlePolls chance) := by
  unfold turn at h
  split at h
  · cases h
  · split at h
    · cases h
    · exact (Turn.pauseFor.inj h).symm

end

/-- A poll takes no time and asks for one message. What it tells to do next depends on whether there
was one and on the time that is left. -/
theorem leaves_poll_paced (punctual : endpoint.Punctual)
    {s : Scene (BoundedRead α) (Recorded (Traced (Paced σ)))} (h : Reading config s)
    {limit : Nat} (hdeadline : s.client.deadline = some limit) (chance : Nat) :
    Leaves (poll endpoint.watched chance) s (Turned endpoint config limit s)
      (fun _ => Broken s) (fun s' => Broken s s' ∧ ¬ s'.env.env.trace.Answered) := by
  simp only [poll, leaves_bind, Scene.leaves_clock, Scene.leaves_get]
  have hcollect := ((leaves_collect h).both (leaves_collect_counted h)).both
    (prompt_collect endpoint.watched s)
  refine hcollect.mono ?_ ?_ ?_
  · rintro found s' ⟨⟨hreading, hsame, hpolls, hkept, hfound⟩, hrequests⟩
    have hclock := punctual.watched.clock_of_requests hrequests
    have hpauses := Endpoint.pauses_of_requests hrequests
    have hlast := hsame.trans hdeadline
    have hturned : ∀ s'' : Scene (BoundedRead α) (Recorded (Traced (Paced σ))),
        Reading config s'' → s''.client.deadline = s'.client.deadline → s''.env = s'.env →
        Turned endpoint config limit s
          (s'.client.turn (endpoint.watched.clock s'.env) found chance) s'' := by
      intro s'' hreading hsame henv
      refine ⟨hreading, hsame.trans hlast, henv ▸ hclock, henv ▸ hpauses, henv ▸ hpolls,
        henv ▸ hkept, fun hagain => henv ▸ hfound (found_of_turn hagain), ?_, ?_⟩
      · intro hmore
        have htime := isOverdue_of_turn hmore
        simp only [isOverdue, hlast, decide_eq_false_iff_not, hclock] at htime
        omega
      · intro milliseconds hpause
        refine ⟨_, five_le_pauseAfter s'.client.idlePolls chance, pauseAfter_le _ _, ?_⟩
        rw [pause_of_turn hpause, cutPause, hlast, hclock]
    split
    · exact hturned _ (hreading.env rfl rfl rfl) rfl rfl
    · exact hturned s' hreading rfl rfl
  · rintro error s' ⟨⟨-, hpolls⟩, hrequests⟩
    exact ⟨Endpoint.pauses_of_requests hrequests, hpolls⟩
  · rintro s' ⟨⟨-, hpolls⟩, hwaits⟩
    exact ⟨⟨Endpoint.pauses_of_requests hwaits.requests, hpolls⟩,
      Endpoint.not_answered_of_waits hwaits⟩

/-! ## Pauses -/

/-- A pause of a read that lasts until the clock shows `limit`: it does not begin before the read,
does not end after it, and lasts between five and five hundred milliseconds unless it is cut. -/
structure Within (begun limit : Nat) (pause : Pause) : Prop where
  begins : begun ≤ pause.start
  ends : pause.start + pause.length ≤ limit
  positive : 0 < pause.length
  moderate : pause.length ≤ 500
  cut : 5 ≤ pause.length ∨ pause.start + pause.length = limit

/-- A read whose pauses are in order keeps them in order. -/
theorem leaves_run_pauses (punctual : endpoint.Punctual)
    {s : Scene (BoundedRead α) (Recorded (Traced (Paced σ)))} (h : Reading config s)
    {begun limit : Nat} (hdeadline : s.client.deadline = some limit)
    (hbegun : begun ≤ endpoint.watched.clock s.env)
    (hpauses : ∀ pause ∈ s.env.env.env.pauses, Within begun limit pause) (chance : Nat → Nat)
    (budget : Nat) :
    Leaves (run endpoint.watched chance budget) s
      (fun _ s' => ∀ pause ∈ s'.env.env.env.pauses, Within begun limit pause)
      (fun _ s' => ∀ pause ∈ s'.env.env.env.pauses, Within begun limit pause)
      (fun s' => ∀ pause ∈ s'.env.env.env.pauses, Within begun limit pause) := by
  induction budget generalizing s with
  | zero => exact hpauses
  | succ budget ih =>
    simp only [run, leaves_bind]
    refine (leaves_poll_paced punctual h hdeadline (chance budget)).mono ?_ ?_ ?_
    · intro turn s' hturned
      have hkept : ∀ pause ∈ s'.env.env.env.pauses, Within begun limit pause := by
        rw [hturned.pauses]
        exact hpauses
      cases turn with
      | finish => exact hkept
      | pollAgain => exact ih hturned.reading hturned.deadline (hturned.clock ▸ hbegun) hkept
      | pauseFor milliseconds =>
        obtain ⟨pause, hlong, hshort, hcut⟩ := hturned.pause milliseconds rfl
        have hearly := hturned.early fun he => Turn.noConfusion he
        simp only [leaves_bind, Scene.leaves_pause]
        refine ih (hturned.reading.env rfl rfl rfl) hturned.deadline ?_ ?_
        · rw [punctual.watched.sleep, hturned.clock]
          exact Nat.le_add_right_of_le hbegun
        · intro last hlast
          rcases List.mem_append.1 hlast with hold | hnew
          · exact hkept last hold
          · obtain rfl := List.mem_singleton.1 hnew
            have hstart : endpoint.clock s'.env.env.env.env = endpoint.watched.clock s.env :=
              hturned.clock
            constructor <;> dsimp only <;> omega
    · exact fun error s' hbroken => hbroken.pauses ▸ hpauses
    · exact fun s' hbroken => hbroken.1.pauses ▸ hpauses

/-! ## Polls -/

/-- How many polls there can be when the clock shows `now`, if no more than `available` messages are
received of which `received` were. Behind the deadline there is one more poll. Before it, there is
one for each message, one for every five milliseconds, one behind a pause that the deadline cuts,
and the one that is behind the deadline. -/
def pollsLeft (available received limit now : Nat) : Nat :=
  available - received + if now < limit then (limit - now) / 5 + 2 else 1

/-- There is always another poll. -/
theorem pollsLeft_pos (available received limit now : Nat) :
    0 < pollsLeft available received limit now := by
  unfold pollsLeft
  split <;> omega

/-- A poll that was given a message leaves fewer polls. -/
theorem pollsLeft_of_found {available received limit now : Nat} (hmore : received < available) :
    pollsLeft available (received + 1) limit now < pollsLeft available received limit now := by
  unfold pollsLeft
  omega

/-- A pause leaves fewer polls: it lasts five milliseconds, or up to the deadline. -/
theorem pollsLeft_of_pause {available received received' limit now pause : Nat}
    (hreceived : received ≤ received') (hearly : now < limit) (hlong : 5 ≤ pause) :
    pollsLeft available received' limit (now + min pause (limit - now)) <
      pollsLeft available received limit now := by
  unfold pollsLeft
  rw [if_pos hearly]
  rcases Nat.le_total (limit - now) pause with hcut | hwhole
  · rw [Nat.min_eq_right hcut, if_neg (by omega)]
    omega
  · rw [Nat.min_eq_left hwhole]
    split <;> omega

/-- More messages were received than were available, or no more polls were made than these. -/
def Moderate (available polls : Nat) (recorded : Recorded σ) : Prop :=
  recorded.messages.length ≤ available → recorded.receipts.length ≤ polls

/-- What a read received stays received, whatever the rest of it does. -/
theorem leaves_run_of_lt {s : Scene (BoundedRead α) (Recorded σ)} {available : Nat}
    (hmany : available < s.env.messages.length) (chance : Nat → Nat) (budget : Nat) :
    Leaves (run endpoint.recorded chance budget) s
      (fun _ s' => available < s'.env.messages.length)
      (fun _ s' => available < s'.env.messages.length)
      (fun s' => available < s'.env.messages.length) := by
  have hasks : Scene.Asks endpoint.recorded (fun _ => True)
      (run (α := α) endpoint.recorded chance budget) :=
    .of_agree fun _ h => agree_run h chance budget
  have hmore := ((Recorded.receipts_prefix (hasks s)).filterMap (·.message?)).length_le
  exact leaves_of_state (Nat.lt_of_lt_of_le hmany hmore)

/-- A read makes no more polls than there can be, unless it receives more messages. If it is let
make as many, it is only dropped over a request that is left unanswered. -/
theorem leaves_run_ends (punctual : endpoint.Punctual)
    {s : Scene (BoundedRead α) (Recorded (Traced (Paced σ)))} (h : Reading config s) {limit : Nat}
    (hdeadline : s.client.deadline = some limit) (available : Nat) (chance : Nat → Nat)
    (budget : Nat) {left polls : Nat} (hpolls : polls = s.env.receipts.length + left)
    (hleft : left = pollsLeft available s.env.messages.length limit
      (endpoint.watched.clock s.env)) :
    Leaves (run endpoint.watched chance budget) s
      (fun _ s' => Moderate available polls s'.env) (fun _ s' => Moderate available polls s'.env)
      (fun s' => Moderate available polls s'.env ∧ (left ≤ budget →
        s'.env.messages.length ≤ available → ¬ s'.env.env.trace.Answered)) := by
  have hpos : 0 < left := hleft ▸ pollsLeft_pos _ _ _ _
  -- The induction is on the budget: each poll takes one of it, and lowers what is left by one.
  induction budget generalizing s left polls with
  | zero => exact ⟨fun _ => by omega, fun hle => absurd hle (by omega)⟩
  | succ budget ih =>
    have hrest : ∀ {t : Scene (BoundedRead α) (Recorded (Traced (Paced σ)))}, Reading config t →
        t.client.deadline = some limit → t.env.receipts.length = s.env.receipts.length + 1 →
        pollsLeft available t.env.messages.length limit (endpoint.watched.clock t.env) < left →
        Leaves (run endpoint.watched chance budget) t
          (fun _ s' => Moderate available polls s'.env)
          (fun _ s' => Moderate available polls s'.env)
          (fun s' => Moderate available polls s'.env ∧ (left ≤ budget + 1 →
            s'.env.messages.length ≤ available → ¬ s'.env.env.trace.Answered)) := by
      intro t hreading hlimit hone hless
      have hmoderate : ∀ env : Recorded (Traced (Paced σ)),
          Moderate available (t.env.receipts.length + pollsLeft available t.env.messages.length
            limit (endpoint.watched.clock t.env)) env → Moderate available polls env :=
        fun env hsparing hfew => Nat.le_trans (hsparing hfew) (by omega)
      refine (ih hreading hlimit rfl rfl (pollsLeft_pos _ _ _ _)).mono ?_ ?_ ?_
      · exact fun _ s' => hmoderate s'.env
      · exact fun _ s' => hmoderate s'.env
      · exact fun s' hdropped =>
          ⟨hmoderate s'.env hdropped.1, fun hbudget => hdropped.2 (by omega)⟩
    simp only [run, leaves_bind]
    refine (leaves_poll_paced punctual h hdeadline (chance budget)).mono ?_ ?_ ?_
    · intro turn s' hturned
      have hone := hturned.polls
      cases turn with
      | finish => exact fun _ => by omega
      | pollAgain =>
        by_cases hmany : available < s'.env.messages.length
        · have hfew : ∀ env : Recorded (Traced (Paced σ)), available < env.messages.length →
              Moderate available polls env := fun env hmore hfew => by omega
          refine (leaves_run_of_lt hmany chance budget).mono ?_ ?_ ?_
          · exact fun _ s'' => hfew s''.env
          · exact fun _ s'' => hfew s''.env
          · exact fun s'' hmore => ⟨hfew s''.env hmore, fun _ hless => by omega⟩
        · refine hrest hturned.reading hturned.deadline hone ?_
          rw [hleft, hturned.found rfl, hturned.clock]
          rw [hturned.found rfl] at hmany
          exact pollsLeft_of_found (by omega)
      | pauseFor milliseconds =>
        obtain ⟨pause, hlong, -, hcut⟩ := hturned.pause milliseconds rfl
        have hearly := hturned.early fun he => Turn.noConfusion he
        simp only [leaves_bind, Scene.leaves_pause]
        refine hrest (hturned.reading.env rfl rfl rfl) hturned.deadline hone ?_
        rw [hleft, punctual.watched.sleep, hturned.clock, hcut]
        exact pollsLeft_of_pause hturned.kept hearly hlong
    · exact fun error s' hbroken _ => by have := hbroken.polls; omega
    · exact fun s' hbroken =>
        ⟨fun _ => by have := hbroken.1.polls; omega, fun _ _ => hbroken.2⟩

/-! ## The end of a read -/

/-- A read that is concluded receives nothing. -/
theorem leaves_conclude_received (s : Scene (BoundedRead α) (Recorded σ))
    (result : Except ConnectorError Unit) :
    Leaves (conclude endpoint.recorded result) s
      (fun _ s' => s'.env.receipts = s.env.receipts) (fun _ s' => s'.env.receipts = s.env.receipts)
      (fun s' => s'.env.receipts = s.env.receipts) := by
  -- The close is idle and asks for no message.
  have hclose : ∀ s' : Scene (BoundedRead α) (Recorded σ),
      s'.env.receipts = s.env.receipts →
      Leaves (withReader (Reader.close endpoint.recorded)) s'
        (fun _ s'' => s''.env.receipts = s.env.receipts)
        (fun _ s'' => s''.env.receipts = s.env.receipts)
        (fun s'' => s''.env.receipts = s.env.receipts) := by
    intro s' hsame
    have hevents : ∀ s'' : Scene (BoundedRead α) (Recorded σ), s''.env.events = s'.env.events →
        s''.env.receipts = s.env.receipts := by
      intro s'' hevents
      rw [← hsame, Recorded.receipts, hevents]
      rfl
    refine (leaves_close_reader s').mono ?_ ?_ ?_
    · exact fun _ s'' h => hevents s'' h.2
    · exact fun _ s'' h => hevents s'' h.2
    · exact fun s'' h => hevents s'' h.2
  have hfinalize : Leaves (withReader (Reader.finalize endpoint.recorded)) s
      (fun _ s' => s'.env.receipts = s.env.receipts)
      (fun _ s' => s'.env.receipts = s.env.receipts)
      (fun s' => s'.env.receipts = s.env.receipts) := by
    simp only [withReader, Scene.leaves_within, Reader.finalize]
    refine (Mark.leaves_finalize endpoint _).mono ?_ ?_ ?_
    · rintro _ _ ⟨_, _, h, -⟩
      exact h.receipts
    · rintro _ _ ⟨_, _, h, -⟩
      exact h.receipts
    · rintro _ ⟨_, _, h, -⟩
      exact h.receipts
  cases result with
  | error error =>
    simp only [conclude, leaves_bind, leaves_attempt, leaves_pure]
    exact hclose s rfl
  | ok value =>
    simp only [conclude, leaves_bind, leaves_attempt]
    exact hfinalize.mono (fun _ s' => hclose s') (fun _ s' => hclose s') (fun _ => id)

/-- What is known of a read in punctual surroundings, however it ends: it made no more polls than
these if it received no more messages than were available, and its pauses are in order. -/
structure Timely (available polls begun limit : Nat)
    (recorded : Recorded (Traced (Paced σ))) : Prop where
  moderate : Moderate available polls recorded
  pauses : ∀ pause ∈ recorded.env.env.pauses, Within begun limit pause

/-- A read that is concluded is as timely as it was, and is only dropped over a request that is left
unanswered. -/
theorem leaves_conclude_paced {s : Scene (BoundedRead α) (Recorded (Traced (Paced σ)))}
    {available polls begun limit : Nat} (h : Timely available polls begun limit s.env)
    (result : Except ConnectorError Unit) :
    Leaves (conclude endpoint.watched result) s
      (fun _ s' => Timely available polls begun limit s'.env)
      (fun _ s' => Timely available polls begun limit s'.env)
      (fun s' => Timely available polls begun limit s'.env ∧ ¬ s'.env.env.trace.Answered) := by
  have hkept : ∀ s' : Scene (BoundedRead α) (Recorded (Traced (Paced σ))),
      s'.env.receipts = s.env.receipts → endpoint.watched.Requests s.env s'.env →
      Timely available polls begun limit s'.env := by
    intro s' hreceipts hrequests
    constructor
    · rw [Moderate, Recorded.messages, hreceipts]
      exact h.moderate
    · rw [Endpoint.pauses_of_requests hrequests]
      exact h.pauses
  refine ((leaves_conclude_received s result).both
    (prompt_conclude endpoint.watched result s)).mono ?_ ?_ ?_
  · rintro _ s' ⟨hreceipts, hrequests⟩
    exact hkept s' hreceipts hrequests
  · rintro _ s' ⟨hreceipts, hrequests⟩
    exact hkept s' hreceipts hrequests
  · rintro s' ⟨hreceipts, hwaits⟩
    exact ⟨hkept s' hreceipts hwaits.requests, Endpoint.not_answered_of_waits hwaits⟩

end BoundedRead

namespace BoundedReader

variable {α σ : Type} {endpoint : Endpoint σ}

/-- A read with a time limit makes one poll for each message that is available, one for every five
milliseconds and two more at most. -/
theorem leaves_read_paced (punctual : endpoint.Punctual) (bounded : BoundedReader α)
    {limit : UInt64} (limited : bounded.source.config.maxReadTime = some limit)
    (chance : Nat → Nat) (budget available : Nat) (journal : Journal) (env : σ) {polls : Nat}
    (hpolls : polls = available + limit.toNat / 5 + 2) :
    let begun := endpoint.clock env
    Leaves (bounded.read endpoint.watched chance budget)
      { client := (), journal := journal, env := ⟨⟨⟨env, []⟩, []⟩, []⟩ }
      (fun _ s' => BoundedRead.Timely available polls begun (begun + limit.toNat) s'.env)
      (fun _ s' => BoundedRead.Timely available polls begun (begun + limit.toNat) s'.env)
      (fun s' => BoundedRead.Timely available polls begun (begun + limit.toNat) s'.env ∧
        (polls ≤ budget → s'.env.messages.length ≤ available → ¬ s'.env.env.trace.Answered)) := by
  intro begun
  unfold read
  split
  · exact ⟨fun _ => Nat.zero_le _, fun _ hpause => by cases hpause⟩
  · simp only [leaves_bind, Scene.leaves_clock, Scene.leaves_alone, leaves_attempt]
    let s : Scene (BoundedRead α) (Recorded (Traced (Paced σ))) :=
      { client := bounded.begin begun, journal := journal, env := ⟨⟨⟨env, []⟩, []⟩, []⟩ }
    have hbegin : BoundedRead.Reading bounded.source.config s :=
      ⟨rfl, rfl, .nil, .fresh rfl rfl rfl rfl rfl⟩
    have hdeadline : s.client.deadline = some (begun + limit.toNat) := by
      show bounded.source.config.maxReadTime.map _ = _
      rw [limited]
      rfl
    have hleft : BoundedRead.pollsLeft available 0 (begun + limit.toNat) begun ≤ polls := by
      unfold BoundedRead.pollsLeft
      split <;> omega
    -- That the reader polls a bounded number of times and that it pauses within its time are shown
    -- apart.
    have hends := BoundedRead.leaves_run_ends punctual hbegin hdeadline available chance budget rfl
      rfl
    have hpauses := BoundedRead.leaves_run_pauses punctual hbegin hdeadline (Nat.le_refl _)
      (fun _ hpause => by cases hpause) chance budget
    have htimely : ∀ s' : Scene (BoundedRead α) (Recorded (Traced (Paced σ))),
        BoundedRead.Moderate available
          (0 + BoundedRead.pollsLeft available 0 (begun + limit.toNat) begun) s'.env →
        (∀ pause ∈ s'.env.env.env.pauses, BoundedRead.Within begun (begun + limit.toNat) pause) →
        BoundedRead.Timely available polls begun (begun + limit.toNat) s'.env := by
      intro s' hmoderate hkept
      exact ⟨fun hfew => Nat.le_trans (hmoderate hfew) (by omega), hkept⟩
    refine (hends.both hpauses).mono ?_ ?_ ?_
    · rintro _ s' ⟨hmoderate, hkept⟩
      refine (BoundedRead.leaves_conclude_paced (htimely s' hmoderate hkept) _).mono
        (fun _ _ => id) (fun _ _ => id) ?_
      exact fun _ hdropped => ⟨hdropped.1, fun _ _ => hdropped.2⟩
    · rintro error s' ⟨hmoderate, hkept⟩
      refine (BoundedRead.leaves_conclude_paced (htimely s' hmoderate hkept) _).mono
        (fun _ _ => id) (fun _ _ => id) ?_
      exact fun _ hdropped => ⟨hdropped.1, fun _ _ => hdropped.2⟩
    · rintro s' ⟨⟨hmoderate, hunanswered⟩, hkept⟩
      exact ⟨htimely s' hmoderate hkept, fun hbudget => hunanswered (Nat.le_trans hleft hbudget)⟩

/-- **A read with a time limit ends in time.** In surroundings whose time passes only while the read
lets it, if no more than `available` messages are received, the read asks for a message at most once
for each of them, once for every five milliseconds of the limit and twice more. If it is let make as
many polls and every request is answered, it returns, whatever chance selects and whatever limits
the number of records. Chance selects any pause between half of the longest and the longest. However
the read ends, none of its pauses lasts beyond the deadline, and each lasts between five and five
hundred milliseconds or ends at the deadline. Keeping the requests and the pauses does not change
how the read ends. -/
theorem read_ends_in_time (punctual : endpoint.Punctual) (bounded : BoundedReader α)
    {limit : UInt64} (limited : bounded.source.config.maxReadTime = some limit)
    (chance : Nat → Nat) (budget available : Nat) (s : Scene Unit σ) :
    let result := bounded.read endpoint.paced.traced chance budget s.paced
    let begun := endpoint.clock s.env
    let polls := available + limit.toNat / 5 + 2
    (bounded.read endpoint chance budget s).1 = result.1 ∧
    (result.2.env.trace.messages.length ≤ available →
      result.2.env.trace.receipts.length ≤ polls ∧
      (result.2.env.trace.Answered → polls ≤ budget → result.1 ≠ .abandoned)) ∧
    (∀ pause ∈ result.2.env.env.pauses,
      BoundedRead.Within begun (begun + limit.toNat) pause) ∧
    ∀ idle pause, (∃ chance, pauseAfter idle chance = pause) ↔
      longestPause idle / 2 ≤ pause ∧ pause ≤ longestPause idle := by
  intro result begun polls
  let s₀ : Scene Unit (Recorded (Traced (Paced σ))) :=
    { client := (), journal := s.journal, env := ⟨⟨⟨s.env, []⟩, []⟩, []⟩ }
  have hplain : (bounded.read endpoint chance budget s).1 = result.1 := by
    have htraced := (agree_read endpoint.paced.traced_alike chance budget bounded).through s.paced
    have hpaced := (agree_read endpoint.paced_alike chance budget bounded).through
      (s.paced.through (·.env))
    exact (congrArg Prod.fst hpaced).trans (congrArg Prod.fst htraced)
  have hrecorded : result = ((bounded.read endpoint.watched chance budget s₀).1,
      (bounded.read endpoint.watched chance budget s₀).2.unrecorded) :=
    (agree_read endpoint.paced.traced.recorded_alike chance budget bounded).unrecorded s₀
  have hasks : Scene.Asks endpoint.watched (fun _ => True)
      (bounded.read endpoint.watched chance budget) :=
    .of_agree fun _ h => agree_read h chance budget bounded
  have hevents := Recorded.receipts_of_steps (hasks s₀) rfl
  let post (outcome : Outcome ConnectorError (List (Timestamped α)))
      (s' : Scene Unit (Recorded (Traced (Paced σ)))) : Prop :=
    BoundedRead.Timely available polls begun (begun + limit.toNat) s'.env ∧
    (outcome = .abandoned → polls ≤ budget → s'.env.messages.length ≤ available →
      ¬ s'.env.env.trace.Answered)
  have hread : post (bounded.read endpoint.watched chance budget s₀).1
      (bounded.read endpoint.watched chance budget s₀).2 := by
    refine Leaves.result post ((leaves_read_paced punctual bounded limited chance budget available
      s.journal s.env rfl).mono ?_ ?_ ?_)
    · exact fun _ _ htimely => ⟨htimely, fun he => nomatch he⟩
    · exact fun _ _ htimely => ⟨htimely, fun he => nomatch he⟩
    · exact fun _ hdropped => ⟨hdropped.1, fun _ => hdropped.2⟩
  rw [hrecorded] at hplain ⊢
  generalize bounded.read endpoint.watched chance budget s₀ = ended at *
  obtain ⟨outcome, s'⟩ := ended
  have hreceipts : s'.env.env.trace.receipts = s'.env.receipts := by
    rw [Recorded.receipts, hevents, Trace.receipts]
  have hmessages : s'.env.env.trace.messages = s'.env.messages := by
    rw [Recorded.messages, ← hreceipts, Trace.messages]
  refine ⟨hplain, fun hfew => ⟨?_, fun hanswered hbudget habandoned => ?_⟩, hread.1.pauses,
    exists_pauseAfter_eq_iff⟩
  · exact hreceipts ▸ hread.1.moderate (hmessages ▸ hfew)
  · exact hread.2 habandoned hbudget (hmessages ▸ hfew) hanswered

end BoundedReader

/-! ## Worlds -/

namespace World

/-- However much happens while time passes, it passes up to its end. -/
theorem clock_passUntil (target budget : Nat) (world : World) :
    (passUntil target budget world).1.clock = target := by
  induction budget generalizing world with
  | zero => rfl
  | succ budget ih =>
    rw [passUntil]
    split
    · rfl
    · split
      · exact ih _
      · rfl

/-- Starting an estimator takes no time. -/
theorem clock_startEstimator (world : World) (estimator : EstimatorHandle) :
    (world.startEstimator estimator).2.clock = world.clock := by
  unfold startEstimator
  split
  · rfl
  · split
    · rfl
    · split <;> rfl

/-- In a world, time passes only while a client lets it. -/
theorem punctual_endpoint (site : Nat) : (endpoint site).Punctual where
  sleep milliseconds world := clock_passUntil _ _ _
  answer request world := by
    cases request with
    | broker request =>
      show (world.perform site request).2.clock = world.clock
      unfold perform
      split <;> rfl
    | startEstimator plan =>
      let created := world.createEstimator plan
      have hkept := clock_startEstimator created.2 created.1
      show (answer site (.startEstimator plan) world).2.clock = world.clock
      simp only [answer]
      split
      · rename_i started hstarted
        rw [hstarted] at hkept
        exact hkept
      · rfl
    | stopEstimator estimator =>
      show (world.stopEstimator estimator).clock = world.clock
      unfold stopEstimator
      split <;> rfl

end World

namespace BoundedReader

/-- A broker with a message on a queue, to which another one is published twelve milliseconds
later. -/
def belatedWorld : World where
  timeOfDay := 1
  sites := [{ broker := .after none (Reader.publishing "orders" ["A"]) }]
  planned := [{
    due := 12
    site := 0
    destination := .queue "orders"
    message := { Message.ofText "B" with id := some ⟨"B"⟩ } }]

/-- A read of the texts of a queue that ends after twenty milliseconds. -/
def twentyMillisecondsOf (queue : String) : BoundedReader String where
  source := { config := { Reader.textsOf queue with maxReadTime := some 20 } }
  isBounded := rfl

/-- Two messages become available within twenty milliseconds: the read makes six polls, of eight
that there could be, and returns. -/
theorem read_ends_in_time_belatedWorld :
    let result := (twentyMillisecondsOf "orders").read (World.endpoint 0).paced.traced
      (fun _ => 0) 8 (Scene.paced { client := (), journal := {}, env := belatedWorld })
    result.2.env.trace.Answered ∧ result.2.env.trace.messages.length = 2 ∧
    result.2.env.trace.receipts.length = 6 ∧ result.1 ≠ .abandoned ∧
    result.2.env.env.pauses = [⟨0, 5⟩, ⟨5, 10⟩, ⟨15, 5⟩] ∧
    ∀ pause ∈ result.2.env.env.pauses, BoundedRead.Within 0 20 pause := by
  intro result
  have hanswered : result.2.env.trace.Answered := by decide +kernel
  have htwo : result.2.env.trace.messages.length = 2 := by decide +kernel
  obtain ⟨-, hended, hpauses, -⟩ :=
    read_ends_in_time (World.punctual_endpoint 0) (twentyMillisecondsOf "orders")
      (rfl : _ = some (20 : UInt64)) (fun _ => 0) 8 2
      { client := (), journal := {}, env := belatedWorld }
  exact ⟨hanswered, htwo, by decide +kernel, (hended (Nat.le_of_eq htwo)).2 hanswered (by decide),
    by decide +kernel, hpauses⟩

end BoundedReader

end BrokerConnector
