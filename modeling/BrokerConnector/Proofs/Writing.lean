import BrokerConnector.Proofs.Calls
import BrokerConnector.Proofs.Equipment
import BrokerConnector.Proofs.Recording

/-!
# What becomes of every record that is written

A writer plans a message for a record if its value mapper makes one, and its destination has a name
and is not rejected. The records with a plan are sent in order, and each of them adds its message to
the history of its destination, under the next identifier of the broker. The others go to the
failure output in order and leave no trace at the broker, so that without them the broker would be
told the same (`accounts_for_records`).
-/

namespace BrokerConnector

open BrokerConnector.Action

/-! ## Plans -/

namespace WriteConfig

variable {ρ : Type} (config : WriteConfig ρ)

/-- Where a record goes, if that has a name. -/
def destinationOf? (record : ρ) : Option Destination :=
  let destination :=
    match config.destination with
    | .fixed destination => destination
    | .topicOf name => .topic (name record)
  if Text.isBlank destination.name then none else some destination

/-- Where a record goes and the message that is sent for it: none if the value mapper fails, or if
its destination has no name or is rejected. -/
def plan? (session : SessionHandle) (rejected : List Destination) (record : ρ) :
    Option (Destination × Message) :=
  match config.mapper record session, config.destinationOf? record with
  | .ok message, some destination =>
    if destination ∈ rejected then none else some (destination, message)
  | _, _ => none

variable {config} {session : SessionHandle} {rejected : List Destination} {record : ρ}

/-- Without a message there is no plan. -/
theorem plan?_of_unmapped {reason : String} (h : config.mapper record session = .error reason) :
    config.plan? session rejected record = none := by
  unfold plan?
  rw [h]

/-- Without a destination there is no plan. -/
theorem plan?_of_unnamed (h : config.destinationOf? record = none) :
    config.plan? session rejected record = none := by
  unfold plan?
  rw [h]
  split <;> simp_all

/-- A message for a destination is a plan, unless the destination is rejected. -/
theorem plan?_of_mapped {message : Message} {destination : Destination}
    (hmapped : config.mapper record session = .ok message)
    (hdestination : config.destinationOf? record = some destination) :
    config.plan? session rejected record =
      if destination ∈ rejected then none else some (destination, message) := by
  unfold plan?
  rw [hmapped, hdestination]

end WriteConfig

/-- Where a record was sent to, under which identifier. -/
def WriteOutcome.sent? : WriteOutcome → Option (Destination × MessageId)
  | sent destination id => some (destination, id)
  | failed => none

/-- A planned message that is sent at a moment. -/
structure Sending where
  now : Int64
  destination : Destination
  message : Message

namespace Sending

/-- The plan that is carried out. -/
def plan (sending : Sending) : Destination × Message :=
  (sending.destination, sending.message)

/-- What is accepted under an identifier, for which destination. -/
def entry (sending : Sending) (id : MessageId) : Destination × Message :=
  (sending.destination, sending.message.kept sending.now sending.destination id)

/-- What a broker accepts that gave out a number of identifiers before. -/
def entries (count : Nat) : List Sending → List (Destination × Message)
  | [] => []
  | first :: rest => first.entry (Broker.messageIdOf (count + 1)) :: entries (count + 1) rest

/-- What is accepted in two parts. -/
theorem entries_append (count : Nat) (first second : List Sending) :
    entries count (first ++ second) =
      entries count first ++ entries (count + first.length) second := by
  induction first generalizing count with
  | nil => rfl
  | cons sending rest ih =>
    have hcount : count + 1 + rest.length = count + (sending :: rest).length := by
      rw [List.length_cons]
      omega
    rw [List.cons_append, entries, ih, entries, List.cons_append, hcount]

/-- The same plans that are carried out at one moment are the same sendings. -/
theorem eq_of_plan (now : Int64) {first second : List Sending}
    (hfirst : ∀ sending ∈ first, sending.now = now)
    (hsecond : ∀ sending ∈ second, sending.now = now)
    (h : first.map (·.plan) = second.map (·.plan)) : first = second := by
  induction first generalizing second with
  | nil => exact (List.map_eq_nil_iff.1 h.symm).symm
  | cons sending rest ih =>
    cases second with
    | nil => cases h
    | cons sending' rest' =>
      obtain ⟨hplan, hrest⟩ := List.cons.inj h
      obtain ⟨hdestination, hmessage⟩ := Prod.mk.inj hplan
      have hsame : sending = sending' := by
        have hnow := hfirst sending List.mem_cons_self
        have hnow' := hsecond sending' List.mem_cons_self
        obtain ⟨now₁, destination₁, message₁⟩ := sending
        obtain ⟨now₂, destination₂, message₂⟩ := sending'
        simp_all
      rw [hsame, ih (fun s hs => hfirst s (List.mem_cons_of_mem _ hs))
        (fun s hs => hsecond s (List.mem_cons_of_mem _ hs)) hrest]

end Sending

/-! ## A broker without others -/

/-- A schedule by which others stay away, and no resolution and no send fails on its way. -/
structure Schedule.Quiet (schedule : Schedule) : Prop where
  alone : ∀ number, (schedule number).others = []
  resolve : ∀ number session destination,
    (schedule number).failure (.broker (.resolve session destination)) = none
  send : ∀ number producer destination message,
    (schedule number).failure (.broker (.send producer destination message)) = none

variable {schedule : Schedule}

/-- A request that does not fail on its way ends as the broker answers it. -/
theorem Scene.ensures_ask_quiet {ρ : Type} {s : Scene ρ Shared} {request : BrokerRequest}
    (halone : ∀ number, (schedule number).others = [])
    (hpass : ∀ number, (schedule number).failure (.broker request) = none)
    {done : request.Answer → Scene ρ Shared → Prop}
    {failed : BrokerError → Scene ρ Shared → Prop}
    (granted : ∀ number answer broker,
      s.env.broker.perform (schedule number).now request = (.ok answer, broker) →
        done answer { s with env := s.env.add (.broker request) (.done answer) broker })
    (refused : ∀ number error,
      (s.env.broker.perform (schedule number).now request).1 = .error error →
        failed error { s with
          env := s.env.add (.broker request) (.failed error) s.env.broker }) :
    Ensures (ask (Shared.endpoint schedule) (.broker request)) s done failed := by
  have hothers : ∀ number, s.env.others (schedule number).others = s.env := fun number => by
    rw [halone]
    rfl
  refine ensures_ask ?_ ?_
  · intro number answer broker h
    rw [hothers] at h ⊢
    exact granted number answer broker h
  · intro number error h
    rw [hothers] at h ⊢
    refine refused number error (h.resolve_left ?_)
    rw [hpass]
    simp

/-- Without others, a broker that is asked for nothing but idle requests accepts nothing. -/
theorem Shared.unsent_of_idle (halone : ∀ number, (schedule number).others = [])
    {before after : Shared}
    (h : (Shared.endpoint schedule).Steps (·.isIdle = true) before after) :
    after.broker.accepted = before.broker.accepted ∧
      after.broker.messageCount = before.broker.messageCount ∧
        after.broker.rejected = before.broker.rejected := by
  induction h with
  | refl => exact ⟨rfl, rfl, rfl⟩
  | @tail middle _ _ hstep ih =>
    obtain ⟨haccepted, hcount, hrejected⟩ := ih
    cases hstep with
    | sleep => exact ⟨haccepted, hcount, hrejected⟩
    | answer request hidle =>
      have hsame : ((Shared.endpoint schedule).answer request middle).2.broker.accepted =
            middle.broker.accepted ∧
          ((Shared.endpoint schedule).answer request middle).2.broker.messageCount =
            middle.broker.messageCount ∧
          ((Shared.endpoint schedule).answer request middle).2.broker.rejected =
            middle.broker.rejected := by
        simp only [Shared.endpoint, Shared.answer, halone, Shared.others, Shared.add,
          Occasion.reply]
        split
        · exact ⟨rfl, rfl, rfl⟩
        · cases request with
          | broker request =>
            have hsend : ∀ producer destination message,
                request ≠ .send producer destination message := by
              rintro producer destination message rfl
              cases hidle
            obtain ⟨haccepted', hcount'⟩ := middle.broker.accepted_perform
              (schedule middle.log.length).now request hsend
            exact ⟨haccepted', hcount', middle.broker.rejected_perform _ request⟩
          | startEstimator | stopEstimator => exact ⟨rfl, rfl, rfl⟩
      exact ⟨hsame.1.trans haccepted, hsame.2.1.trans hcount, hsame.2.2.trans hrejected⟩

namespace Writer

variable {ρ : Type}

/-! ## What is written -/

/-- What became of records that a writer processed on a session: the plans that were carried out,
each at its moment, and what the writer and the broker are left with. -/
structure Written (schedule : Schedule) (session : SessionHandle) (producer : ProducerHandle)
    (before after : Scene (Writer ρ) Shared) (records : List ρ) (outcomes : List WriteOutcome)
    (sendings : List Sending) : Prop where
  planned : sendings.map (·.plan) =
    records.filterMap (before.client.config.plan? session before.env.broker.rejected)
  moments : ∀ sending ∈ sendings, ∃ number, sending.now = (schedule number).now
  classified : List.Forall₂ (fun record outcome => outcome.isSent =
    (before.client.config.plan? session before.env.broker.rejected record).isSome) records outcomes
  reported : outcomes.filterMap (fun outcome => outcome.sent?.map fun sent => (sent.1, some sent.2)) =
    (Sending.entries before.env.broker.messageCount sendings).map fun entry => (entry.1, entry.2.id)
  accepted : after.env.broker.accepted = before.env.broker.accepted ++
    Sending.entries before.env.broker.messageCount sendings
  counted : after.env.broker.messageCount = before.env.broker.messageCount + sendings.length
  rejected : after.env.broker.rejected = before.env.broker.rejected
  client : after.client = { before.client with
    failures := { before.client.failures with
      records := before.client.failures.records ++ records.filter fun record =>
        (before.client.config.plan? session before.env.broker.rejected record).isNone } }
  outfits : after.env.Outfits session producer

variable {session : SessionHandle} {producer : ProducerHandle}
  {first second third : Scene (Writer ρ) Shared}

/-- Nothing is written of no records. -/
theorem Written.nil (h : first.env.Outfits session producer) :
    Written schedule session producer first first [] [] [] where
  planned := rfl
  moments := by simp
  classified := .nil
  reported := rfl
  accepted := (List.append_nil _).symm
  counted := rfl
  rejected := rfl
  client := by simp
  outfits := h

/-- What is written in two parts. -/
theorem Written.append {records records' : List ρ} {outcomes outcomes' : List WriteOutcome}
    {sendings sendings' : List Sending}
    (h : Written schedule session producer first second records outcomes sendings)
    (h' : Written schedule session producer second third records' outcomes' sendings') :
    Written schedule session producer first third (records ++ records') (outcomes ++ outcomes')
      (sendings ++ sendings') := by
  -- The first part leaves the configuration and what is rejected, so the plans stay the same; the
  -- second part counts on from where the first one stopped.
  have hconfig : second.client.config = first.client.config := by rw [h.client]
  have hcount := h.counted
  have hplanned := h'.planned
  have hclassified := h'.classified
  have hreported := h'.reported
  have haccepted := h'.accepted
  have hclient := h'.client
  rw [hconfig, h.rejected] at hplanned hclassified hclient
  rw [hcount] at hreported haccepted
  refine ⟨?_, ?_, ?_, ?_, ?_, ?_, ?_, ?_, h'.outfits⟩
  · rw [List.map_append, List.filterMap_append, h.planned, hplanned]
  · intro sending hsending
    exact (List.mem_append.1 hsending).elim (h.moments sending) (h'.moments sending)
  · exact List.rel_append h.classified hclassified
  · rw [List.filterMap_append, Sending.entries_append, List.map_append, h.reported, hreported]
  · rw [haccepted, h.accepted, Sending.entries_append, List.append_assoc]
  · rw [h'.counted, hcount, List.length_append, Nat.add_assoc]
  · rw [h'.rejected, h.rejected]
  · rw [hclient, h.client, List.filter_append, List.append_assoc]

/-- A record without a plan goes to the failure output and leaves no trace at the broker. -/
theorem Written.of_failed {record : ρ}
    (hplan : first.client.config.plan? session first.env.broker.rejected record = none)
    (hopen : first.client.failures.isOpen = true)
    (client : second.client =
      { first.client with failures := first.client.failures.push record })
    (broker : second.env.broker = first.env.broker)
    (outfits : second.env.Outfits session producer) :
    Written schedule session producer first second [record] [.failed] [] where
  planned := by simp [hplan]
  moments := by simp
  classified := .cons (by rw [hplan]; rfl) .nil
  reported := rfl
  accepted := by rw [broker, Sending.entries, List.append_nil]
  counted := by rw [broker, List.length_nil, Nat.add_zero]
  rejected := by rw [broker]
  client := by
    rw [client, FailureOutput.push, if_pos hopen]
    simp [hplan]
  outfits := outfits

/-- A record with a plan adds its message to the history of its destination. -/
theorem Written.of_sent {record : ρ} (sending : Sending) {id : MessageId}
    (hplan : first.client.config.plan? session first.env.broker.rejected record =
      some sending.plan)
    (hmoment : ∃ number, sending.now = (schedule number).now)
    (hid : id = Broker.messageIdOf (first.env.broker.messageCount + 1))
    (client : second.client = first.client)
    (broker : second.env.broker =
      { first.env.broker with messageCount := first.env.broker.messageCount + 1 }.deliver
        sending.destination (sending.entry id).2)
    (outfits : second.env.Outfits session producer) :
    Written schedule session producer first second [record] [.sent sending.destination id]
      [sending] where
  planned := by simp [hplan]
  moments := by
    intro other hother
    rw [List.mem_singleton.1 hother]
    exact hmoment
  classified := .cons (by rw [hplan]; rfl) .nil
  reported := by rw [hid]; rfl
  accepted := by
    rw [broker, Broker.accepted_deliver, hid]
    rfl
  counted := by rw [broker, Broker.messageCount_deliver]; rfl
  rejected := by rw [broker, Broker.rejected_deliver]
  client := by
    rw [client]
    simp [hplan]
  outfits := outfits

/-! ## Processing -/

/-- A mapped record that has a destination is sent, unless the destination is rejected. -/
theorem ensures_deliver (hquiet : schedule.Quiet) {record : ρ} {destination : Destination}
    {message : Message}
    (hplan : first.client.config.plan? session first.env.broker.rejected record =
      if destination ∈ first.env.broker.rejected then none else some (destination, message))
    (hopen : first.client.failures.isOpen = true) {s : Scene (Writer ρ) Shared}
    (client : s.client = first.client) (broker : s.env.broker = first.env.broker)
    (outfits : s.env.Outfits session producer) :
    Ensures (deliver (Shared.endpoint schedule) record producer destination message) s
      (fun outcome s' => ∃ sendings,
        Written schedule session producer first s' [record] [outcome] sendings)
      (fun _ _ => False) := by
  -- The producer is open and bound to nothing, so the broker refuses rejected destinations alone.
  obtain ⟨found, hfound, hfresh⟩ := outfits.isOpen
  have hsend := fun now : Int64 => (Broker.perform_send outfits.producer hfound hfresh destination
    message : s.env.broker.perform now (.send producer destination message) = _)
  simp only [deliver, ensures_bind, ensures_attempt]
  refine Scene.ensures_ask_quiet hquiet.alone (fun number => hquiet.send number _ _ _) ?_ ?_
  · intro number id after hgranted
    have houtfits := outfits.add (.send producer destination message) rfl (by simp)
      (by simp) (schedule number).now (.done id)
    rw [hgranted] at houtfits
    rw [hsend] at hgranted
    split at hgranted
    · cases hgranted
    · rename_i haccepted
      obtain ⟨hid, rfl⟩ := Prod.mk.inj hgranted
      obtain rfl := Except.ok.inj hid
      rw [broker] at haccepted
      rw [if_neg haccepted] at hplan
      let sending : Sending := ⟨(schedule number).now, destination, message⟩
      refine ⟨[sending], .of_sent sending hplan ⟨number, rfl⟩ ?_ client ?_ ?_⟩
      · rw [broker]
      · rw [← broker]
        rfl
      · exact houtfits
  · intro number error hrefused
    have hrejected : destination ∈ first.env.broker.rejected := by
      rw [hsend, broker] at hrefused
      split at hrefused
      · assumption
      · cases hrefused
    rw [if_pos hrejected] at hplan
    exact ⟨[], .of_failed hplan hopen (by rw [client]) broker (outfits.failed _)⟩

/-- A record is sent if it has a plan, and goes to the failure output otherwise. -/
theorem ensures_process (hquiet : schedule.Quiet) (hequipped : Equipped session producer first)
    (hopen : first.client.failures.isOpen = true) (record : ρ) :
    Ensures (process (Shared.endpoint schedule) record) first
      (fun outcome s' => ∃ sendings,
        Written schedule session producer first s' [record] [outcome] sendings)
      (fun _ _ => False) := by
  have houtfits := hequipped.outfits
  simp only [process, ensures_bind, Scene.ensures_get, hequipped.link, hequipped.held]
  cases hmapped : first.client.config.mapper record session with
  | error reason =>
    exact ⟨[], .of_failed (WriteConfig.plan?_of_unmapped hmapped) hopen rfl rfl houtfits⟩
  | ok message =>
    simp only [dispatch, ensures_bind, Scene.ensures_get]
    cases hconfig : first.client.config.destination with
    | fixed destination =>
      -- A fixed destination was resolved when the writer was set up, so it has a name.
      have hfixed : first.client.config.destination.fixed? = some destination := by
        rw [hconfig]
        rfl
      have hnamed : first.client.config.destinationOf? record = some destination := by
        simp [WriteConfig.destinationOf?, hconfig, hequipped.named destination hfixed]
      simp only [hequipped.destination, hfixed]
      exact ensures_deliver hquiet (WriteConfig.plan?_of_mapped hmapped hnamed) hopen rfl rfl
        houtfits
    | topicOf name =>
      -- A topic of the record is resolved first, which is granted exactly if it has a name.
      simp only [ensures_bind, ensures_attempt]
      refine Scene.ensures_ask_quiet hquiet.alone (fun number => hquiet.resolve number _ _) ?_ ?_
      · intro number destination after hgranted
        have houtfits' := houtfits.add (.resolve session (.topic (name record))) rfl
          (by simp) (by simp) (schedule number).now (.done destination)
        rw [hgranted] at houtfits'
        obtain ⟨hname, rfl, rfl⟩ := Broker.named_of_resolve hgranted
        have hnamed : first.client.config.destinationOf? record = some (.topic (name record)) := by
          simp [WriteConfig.destinationOf?, hconfig, hname]
        refine ensures_deliver hquiet (WriteConfig.plan?_of_mapped hmapped hnamed) hopen ?_ ?_ ?_
        · rfl
        · rfl
        · exact houtfits'
      · intro number error hrefused
        rw [Broker.perform_resolve] at hrefused
        have hname : Text.isBlank (name record) = true := by
          by_contra hname
          simp [Destination.name, hname] at hrefused
        have hunnamed : first.client.config.destinationOf? record = none := by
          simp [WriteConfig.destinationOf?, hconfig, Destination.name, hname]
        refine ⟨[], .of_failed (WriteConfig.plan?_of_unnamed hunnamed) hopen ?_ ?_ ?_⟩
        · rfl
        · rfl
        · exact houtfits.failed _

/-- Processes records in order. -/
def processEach {σ : Type} (endpoint : Endpoint σ) : List ρ → Call (Writer ρ) σ (List WriteOutcome)
  | [] => return []
  | record :: rest => do
    let outcome ← process endpoint record
    let outcomes ← processEach endpoint rest
    return outcome :: outcomes

/-- Records that are processed and counted are processed, and then counted. -/
theorem processAll_apply {σ : Type} (endpoint : Endpoint σ) (records : List ρ)
    (summary : WriteSummary) (s : Scene (Writer ρ) σ) :
    processAll endpoint records summary s =
      (do
        let outcomes ← processEach endpoint records
        return outcomes.foldl WriteSummary.add summary : Call (Writer ρ) σ WriteSummary) s := by
  induction records generalizing summary s with
  | nil => rfl
  | cons record rest ih =>
    simp only [processAll, processEach, bind_apply]
    rcases process endpoint record s with ⟨outcome, s'⟩
    cases outcome with
    | done outcome =>
      -- Counting on from the first outcome is counting all of them.
      simp only [ih, bind_apply]
      rcases processEach endpoint rest s' with ⟨outcomes, s''⟩
      cases outcomes <;> rfl
    | failed error => rfl
    | abandoned => rfl

/-- Counting outcomes adds how many of them were sent, and how many were not. -/
theorem foldl_add (outcomes : List WriteOutcome) (summary : WriteSummary) :
    outcomes.foldl WriteSummary.add summary =
      { sent := summary.sent + outcomes.countP (·.isSent)
        failed := summary.failed + outcomes.countP (!·.isSent) } := by
  induction outcomes generalizing summary with
  | nil => rfl
  | cons outcome rest ih =>
    rw [List.foldl_cons, ih, WriteSummary.add]
    cases hsent : outcome.isSent with
    | true => simp [hsent]; omega
    | false => simp [hsent]; omega

/-- As many outcomes are sent as there are records with a plan, and the others are not. -/
theorem foldl_add_of_classified {planned : ρ → Bool} {records : List ρ}
    {outcomes : List WriteOutcome}
    (h : List.Forall₂ (fun record outcome => outcome.isSent = planned record) records outcomes) :
    outcomes.foldl WriteSummary.add {} =
      { sent := records.countP planned, failed := records.countP (!planned ·) } := by
  have hcount : outcomes.countP (·.isSent) = records.countP planned ∧
      outcomes.countP (!·.isSent) = records.countP (!planned ·) := by
    induction h with
    | nil => exact ⟨rfl, rfl⟩
    | cons hfirst _ ih => simp [List.countP_cons, hfirst, ih.1, ih.2]
  rw [foldl_add, hcount.1, hcount.2, Nat.zero_add, Nat.zero_add]

/-- Every record that is processed is sent if it has a plan, and goes to the failure output
otherwise. -/
theorem ensures_processEach (hquiet : schedule.Quiet) (hequipped : Equipped session producer first)
    (hopen : first.client.failures.isOpen = true) (records : List ρ) :
    Ensures (processEach (Shared.endpoint schedule) records) first
      (fun outcomes s' => ∃ sendings,
        Written schedule session producer first s' records outcomes sendings)
      (fun _ _ => False) := by
  -- The induction carries that the writer can send and that its failure output is open: processing
  -- one record changes neither.
  induction records generalizing first with
  | nil => exact ⟨[], .nil hequipped.outfits⟩
  | cons record rest ih =>
    simp only [processEach, ensures_bind, ensures_pure]
    refine (ensures_process hquiet hequipped hopen record).mono ?_ fun _ _ => id
    rintro outcome s' ⟨sendings, hwritten⟩
    have hequipped' : Equipped session producer s' :=
      hequipped.failures hwritten.client hwritten.outfits
    have hopen' : s'.client.failures.isOpen = true := by
      rw [hwritten.client]
      exact hopen
    refine (ih hequipped' hopen').mono ?_ fun _ _ => id
    rintro outcomes s'' ⟨sendings', hwritten'⟩
    exact ⟨sendings ++ sendings', hwritten.append hwritten'⟩

/-! ## What is written of all records -/

/-- Records that are written are processed by the writer that was set up, and their outcomes are
counted. Tearing it down changes neither the failure output nor what the broker accepted. -/
theorem writeAll_apply (hquiet : schedule.Quiet) {s ready : Scene (Writer ρ) Shared}
    (hsetup : setup (Shared.endpoint schedule) s = (.done (), ready))
    (hequipped : Equipped session producer ready)
    (hopen : ready.client.failures.isOpen = true) (records : List ρ) :
    ∃ outcomes sendings written after,
      processEach (Shared.endpoint schedule) records ready = (.done outcomes, written) ∧
      writeAll (Shared.endpoint schedule) records s =
        (.done (outcomes.foldl WriteSummary.add {}), after) ∧
      Written schedule session producer ready written records outcomes sendings ∧
      after.client.failures = written.client.failures ∧
      after.env.broker.accepted = written.env.broker.accepted := by
  have heach : ∃ outcomes sendings written,
      processEach (Shared.endpoint schedule) records ready = (.done outcomes, written) ∧
        Written schedule session producer ready written records outcomes sendings := by
    rcases (ensures_processEach hquiet hequipped hopen records).outcome with
      ⟨outcomes, hdone, sendings, hwritten⟩ | ⟨_, _, hfalse⟩
    · exact ⟨outcomes, sendings, _, Prod.ext hdone rfl, hwritten⟩
    · exact hfalse.elim
  obtain ⟨outcomes, sendings, written, heach, hwritten⟩ := heach
  have hall : processAll (Shared.endpoint schedule) records {} ready =
      (.done (outcomes.foldl WriteSummary.add {}), written) := by
    rw [processAll_apply, bind_apply, heach]
    rfl
  have hasks : Scene.Asks (Shared.endpoint schedule) (·.isIdle = true)
      (teardown (ρ := ρ) (Shared.endpoint schedule)) := .of_agree fun _ h => agree_teardown h
  -- The teardown is idle, so it accepts nothing, and its failure does not change the summary.
  have hdown := (ensures_teardown written).and
    (fun s' => s'.env.broker.accepted = written.env.broker.accepted)
    (Shared.unsent_of_idle hquiet.alone (hasks written)).1
  have hwrite : Ensures (writeAll (Shared.endpoint schedule) records) s
      (fun summary after => summary = outcomes.foldl WriteSummary.add {} ∧
        after.client.failures = written.client.failures ∧
          after.env.broker.accepted = written.env.broker.accepted)
      (fun _ _ => False) := by
    simp only [writeAll, ensures_bind]
    refine .of_apply hsetup (.of_apply hall ?_)
    simp only [ensures_attempt]
    refine hdown.mono ?_ ?_
    · exact fun _ after h => ⟨rfl, h.1.1.failures, h.2⟩
    · exact fun _ after h => ⟨rfl, h.1.1.failures, h.2⟩
  rcases hwrite.outcome with ⟨summary, hdone, rfl, hfailures, haccepted⟩ | ⟨_, _, hfalse⟩
  · exact ⟨outcomes, sendings, written, _, heach, Prod.ext hdone rfl, hwritten, hfailures,
      haccepted⟩
  · exact hfalse.elim

/-- What records come to that a writer writes: what becomes of each of them, and what the failure
output and the broker are left with. -/
structure Account (schedule : Schedule) (session : SessionHandle)
    (before after : Scene (Writer ρ) Shared) (records : List ρ) (outcomes : List WriteOutcome)
    (summary : WriteSummary) : Prop where
  /-- A record is sent exactly if it has a plan. -/
  classified : List.Forall₂ (fun record outcome => outcome.isSent =
    (before.client.config.plan? session before.env.broker.rejected record).isSome) records outcomes
  /-- The records that failed are put out, in order. -/
  failures : after.client.failures.records = before.client.failures.records ++
    records.filter fun record =>
      (before.client.config.plan? session before.env.broker.rejected record).isNone
  /-- The plans are carried out in order, each at its moment. The history of a destination grows by
  their messages, each under the identifier that is told as its outcome. -/
  history : ∃ sendings : List Sending,
    sendings.map (·.plan) =
      records.filterMap (before.client.config.plan? session before.env.broker.rejected) ∧
    (∀ sending ∈ sendings, ∃ number, sending.now = (schedule number).now) ∧
    let entries := Sending.entries before.env.broker.messageCount sendings
    (∀ destination, after.env.broker.published destination =
      before.env.broker.published destination ++
        (entries.filter (·.1 = destination)).map (·.2)) ∧
    outcomes.filterMap (fun outcome => outcome.sent?.map fun sent => (sent.1, some sent.2)) =
      entries.map fun entry => (entry.1, entry.2.id)
  sent : summary.sent = outcomes.countP (·.isSent)
  failed : summary.failed = outcomes.countP (!·.isSent)
  total : summary.sent + summary.failed = records.length

/-- What is written after a setup accounts for every record. -/
theorem Written.account {s ready written after : Scene (Writer ρ) Shared} {records : List ρ}
    {outcomes : List WriteOutcome} {sendings : List Sending}
    (h : Written schedule session producer ready written records outcomes sendings)
    (kept : Kept s.client ready.client)
    (unsent : ready.env.broker.accepted = s.env.broker.accepted ∧
      ready.env.broker.messageCount = s.env.broker.messageCount ∧
        ready.env.broker.rejected = s.env.broker.rejected)
    (failures : after.client.failures = written.client.failures)
    (accepted : after.env.broker.accepted = written.env.broker.accepted) :
    Account schedule session s after records outcomes (outcomes.foldl WriteSummary.add {}) := by
  obtain ⟨haccepted, hcount, hrejected⟩ := unsent
  have hplanned := h.planned
  have hclassified := h.classified
  have hreported := h.reported
  have hadded := h.accepted
  have hclient := h.client
  rw [kept.config, hrejected] at hplanned hclassified hclient
  rw [hcount] at hreported hadded
  rw [haccepted] at hadded
  have hlength : records.length = outcomes.length := hclassified.length_eq
  refine ⟨hclassified, ?_, ⟨sendings, hplanned, h.moments, ?_, hreported⟩, ?_, ?_, ?_⟩
  · rw [failures, hclient, kept.failures]
  · intro destination
    rw [Broker.published, accepted, hadded, List.filter_append, List.map_append, Broker.published]
  · rw [foldl_add]
    exact Nat.zero_add _
  · rw [foldl_add]
    exact Nat.zero_add _
  · rw [foldl_add, hlength, List.length_eq_countP_add_countP (·.isSent)]
    simp only [Nat.zero_add, Bool.not_eq_true, Bool.decide_eq_false]

/-- **A writer accounts for every record.** Whatever was done with a writer before, and whatever
others did meanwhile: if it is set up and nothing but the broker decides about its requests, then
each record is sent exactly if it has a plan, the others go to the failure output, and the broker
accepts the planned messages in order. At one time of day, the broker accepts the same without the
records that fail. -/
theorem accounts_for_records {earlier schedule : Schedule} {config : WriteConfig ρ}
    {journal : Journal} {broker : Broker} {uses : List (Use ρ)}
    {s ready : Scene (Writer ρ) Shared}
    (hs : run (Shared.endpoint earlier) uses (opening config journal broker) = s)
    (hopen : s.client.failures.isOpen = true) (hquiet : schedule.Quiet)
    (hsetup : setup (Shared.endpoint schedule) s = (.done (), ready)) (records : List ρ) :
    ∃ session outcomes summary written after,
      ready.client.link.session = some session ∧
      processEach (Shared.endpoint schedule) records ready = (.done outcomes, written) ∧
      writeAll (Shared.endpoint schedule) records s = (.done summary, after) ∧
      Account schedule session s after records outcomes summary ∧
      ∀ now, (∀ number, (schedule number).now = now) →
        ∃ after',
          writeAll (Shared.endpoint schedule) (records.filter fun record =>
            (s.client.config.plan? session s.env.broker.rejected record).isSome) s =
              (.done { sent := summary.sent, failed := 0 }, after') ∧
          after'.env.broker.accepted = after.env.broker.accepted := by
  have hpoised : Poised s := hs ▸ poised_run (poised_opening config journal broker) uses
  obtain ⟨⟨session, producer, hequipped⟩, hkept⟩ :=
    (ensures_setup hpoised).of_done hsetup
  have hready : ready.client.failures.isOpen = true := by
    rw [hkept.failures]
    exact hopen
  have hunsent : ready.env.broker.accepted = s.env.broker.accepted ∧
      ready.env.broker.messageCount = s.env.broker.messageCount ∧
        ready.env.broker.rejected = s.env.broker.rejected := by
    have hasks : Scene.Asks (Shared.endpoint schedule) (·.isIdle = true)
        (setup (ρ := ρ) (Shared.endpoint schedule)) := .of_agree fun _ h => agree_setup h
    have hidle := hasks s
    rw [hsetup] at hidle
    exact Shared.unsent_of_idle hquiet.alone hidle
  obtain ⟨outcomes, sendings, written, after, heach, hwrite, hwritten, hfailures, haccepted⟩ :=
    writeAll_apply hquiet hsetup hequipped hready records
  refine ⟨session, outcomes, _, written, after, hequipped.link, heach, hwrite,
    hwritten.account hkept hunsent hfailures haccepted, ?_⟩
  intro now hnow
  -- The records with a plan are written after the same setup.
  obtain ⟨outcomes', sendings', written', after', -, hwrite', hwritten', hfailures', haccepted'⟩ :=
    writeAll_apply hquiet hsetup hequipped hready (records.filter fun record =>
      (s.client.config.plan? session s.env.broker.rejected record).isSome)
  have hclassified := hwritten.classified
  have hclassified' := hwritten'.classified
  have hplanned := hwritten.planned
  have hplanned' := hwritten'.planned
  rw [hkept.config, hunsent.2.2] at hclassified hclassified' hplanned hplanned'
  generalize hplan : s.client.config.plan? session s.env.broker.rejected = plan at *
  refine ⟨after', ?_, ?_⟩
  · rw [hwrite', foldl_add_of_classified hclassified, foldl_add_of_classified hclassified']
    simp [List.countP_filter]
  · have hsame : (records.filter fun record => (plan record).isSome).filterMap plan =
        records.filterMap plan := by
      rw [List.filterMap_filter]
      congr 1
      funext record
      cases plan record <;> rfl
    -- The plans are the same, and all of them are carried out at one time of day.
    have hsendings : sendings' = sendings := by
      refine Sending.eq_of_plan now ?_ ?_ ?_
      · intro sending hsending
        obtain ⟨number, hmoment⟩ := hwritten'.moments sending hsending
        rw [hmoment, hnow]
      · intro sending hsending
        obtain ⟨number, hmoment⟩ := hwritten.moments sending hsending
        rw [hmoment, hnow]
      · rw [hplanned', hplanned, hsame]
    rw [haccepted', haccepted, hwritten'.accepted, hwritten.accepted, hsendings]

/-- A write of texts, each to the topic that it comes with. The text `B` is refused. -/
def pickyTexts : WriteConfig (String × String) where
  factory := ⟨0, "broker"⟩
  destination := .topicOf (·.1)
  credentials := none
  mapper record _ := if record.2 = "B" then .error "refused" else .ok (.ofText record.2)

/-- A writer that sent one text and was torn down, in front of a broker that rejects a topic. -/
def usedWriter : Scene (Writer (String × String)) Shared :=
  run (Shared.endpoint Reader.undisturbed) [.setUp, .process ("news", "X"), .tearDown]
    (opening pickyTexts {} { rejected := [.topic "closed"] })

/-- The writer when it is set up again. -/
def readyWriter : Scene (Writer (String × String)) Shared :=
  (setup (Shared.endpoint Reader.undisturbed) usedWriter).2

/-- Of five texts, one is refused, one has no topic and one goes to the topic that is rejected. -/
def mixedTexts : List (String × String) :=
  [("news", "A"), ("news", "B"), ("", "C"), ("closed", "D"), ("news", "E")]

/-- The writer accounts for the five texts: two are sent and three fail. -/
theorem accounts_for_records_mixedTexts :
    usedWriter.client.failures.isOpen = true ∧
    setup (Shared.endpoint Reader.undisturbed) usedWriter = (.done (), readyWriter) ∧
    ∃ session outcomes after,
      readyWriter.client.link.session = some session ∧
      writeAll (Shared.endpoint Reader.undisturbed) mixedTexts usedWriter =
        (.done { sent := 2, failed := 3 }, after) ∧
      Account Reader.undisturbed session usedWriter after mixedTexts outcomes
        { sent := 2, failed := 3 } := by
  have hused : run (Shared.endpoint Reader.undisturbed)
      [.setUp, .process ("news", "X"), .tearDown]
      (opening pickyTexts {} { rejected := [.topic "closed"] }) = usedWriter := rfl
  have hopen : usedWriter.client.failures.isOpen = true := by decide +kernel
  have hquiet : Schedule.Quiet Reader.undisturbed := ⟨fun _ => rfl, fun _ _ _ => rfl,
    fun _ _ _ _ => rfl⟩
  have hdone : (setup (Shared.endpoint Reader.undisturbed) usedWriter).1 = .done () := by
    decide +kernel
  have hsetup : setup (Shared.endpoint Reader.undisturbed) usedWriter = (.done (), readyWriter) :=
    Prod.ext hdone rfl
  have hcount : (writeAll (Shared.endpoint Reader.undisturbed) mixedTexts usedWriter).1 =
      .done { sent := 2, failed := 3 } := by
    decide +kernel
  obtain ⟨session, outcomes, summary, -, after, hsession, -, hwrite, haccount, -⟩ :=
    accounts_for_records hused hopen hquiet hsetup mixedTexts
  have hsummary : summary = { sent := 2, failed := 3 } := by
    rw [hwrite] at hcount
    exact Outcome.done.inj hcount
  subst hsummary
  exact ⟨hopen, hsetup, session, outcomes, after, hsession, hwrite, haccount⟩

end Writer

end BrokerConnector
