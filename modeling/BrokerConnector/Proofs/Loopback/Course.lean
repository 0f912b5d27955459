import BrokerConnector.Proofs.Loopback.Parts

/-!
# A loopback under every schedule

A `Course` is a loopback whose writer and splits take turns in any order: the splits poll once when
it is their turn, the writer sends one record, and between two turns any time passes. A run of the
loopback gives the splits longer turns, in an order that chance decides.
-/

namespace BrokerConnector.Loopback

open BrokerConnector.Action Crew

/-! ## Courses -/

/-- How far the writing is. -/
inductive Writing where
  | waiting (config : WriteConfig String)
  | underway (writer : Writer String) (rest : List String) (summary : WriteSummary)
  | ended (summary : WriteSummary) (failed : List String)
  /-- It failed, and the loopback with it. -/
  | lost

/-- How far the read of a split is. -/
inductive Reading where
  | waiting (bounded : BoundedReader Record)
  | underway (read : BoundedRead Record)
  | ended (records : List (Timestamped Record))
  /-- It failed, and the loopback with it. -/
  | lost

namespace Reading

/-- What was read. -/
def records : Reading → List (Timestamped Record)
  | ended records => records
  | underway read => read.records
  | _ => []

/-- A read that goes on with `read`, or is over with its records. -/
def after (read : BoundedRead Record) : Option (List (Timestamped Record)) → Reading
  | none => underway read
  | some records => ended records

/-- Whether everything was read. -/
def isEnded : Reading → Bool
  | ended _ => true
  | _ => false

end Reading

/-- A loopback on its way. -/
structure Course where
  site : Nat
  count : Nat
  writing : Writing
  readings : List Reading
  journal : Journal
  world : World

/-- Whose turn it is. -/
inductive Move where
  /-- The writer is set up, sends one record or is torn down. -/
  | write
  /-- A split, by its position, polls once, and is over when it has read enough. -/
  | read (split chance : Nat)
  | pass (milliseconds : Nat)
  /-- The time of day is another one. -/
  | setTime (timeOfDay : Int64)
  deriving DecidableEq

/-- The configuration of the writer. -/
def writeConfig (factory : ConnectionFactory) (settings : WriteSettings) :
    Except Failure (WriteConfig String) :=
  ({ WriteBuilder.ofSettings settings with
    factory := some factory, mapper := some messageOf }.build).mapError .writeConfiguration

/-- What follows a call that ended with a value, or one that did not. -/
def afterwards {σ ε α β : Type} (result : Outcome ε α × σ) (done : α → σ → β) (lost : σ → β) : β :=
  match result with
  | (.done value, s) => done value s
  | (_, s) => lost s

/-- Polls once. The result is the records when the read is over. -/
def visit {σ : Type} (endpoint : Endpoint σ) (chance : Nat) :
    Call (BoundedRead Record) σ (Option (List (Timestamped Record))) := do
  match ← (BoundedRead.poll endpoint chance).attempt with
  | .ok .finish =>
    let records ← BoundedRead.conclude endpoint (.ok ())
    return some records
  | .ok _ => return none
  | .error error =>
    let records ← BoundedRead.conclude endpoint (.error error)
    return some records

namespace Course

/-- A loopback on a broker of its own, before anybody had a turn. -/
def opening (timeOfDay : Int64) (configuration : Configuration) : Except Failure Course := do
  let (site, world) := World.addBroker { timeOfDay := timeOfDay }
    { credentials := configuration.broker }
  let readers ← readers ⟨site, "Broker"⟩ configuration.read
  let config ← writeConfig ⟨site, "Broker"⟩ configuration.write
  return {
    site := site
    count := configuration.count
    writing := .waiting config
    readings := readers.map .waiting
    journal := {}
    world := world }

/-- The world as the clients see it. -/
def endpoint (course : Course) : Endpoint World :=
  World.endpoint course.site

/-- A course after a turn of the writer. -/
def wrote {ρ : Type} (course : Course) (writing : Writing) (s : Scene ρ World) : Course :=
  { course with writing := writing, journal := s.journal, world := s.env }

/-- A course after a turn of a split. -/
def readOn {ρ : Type} (course : Course) (split : Nat) (reading : Reading) (s : Scene ρ World) :
    Course :=
  { course with
    readings := course.readings.set split reading, journal := s.journal, world := s.env }

/-- The writer has its turn. -/
def write (course : Course) : Course :=
  match course.writing with
  | .waiting config =>
    afterwards (Writer.setup course.endpoint ⟨{ config := config }, course.journal, course.world⟩)
      (fun _ s => course.wrote (.underway s.client (payloads course.count) {}) s)
      (course.wrote .lost)
  | .underway writer (record :: rest) summary =>
    afterwards (Writer.process course.endpoint record ⟨writer, course.journal, course.world⟩)
      (fun outcome s => course.wrote (.underway s.client rest (summary.add outcome)) s)
      (course.wrote .lost)
  | .underway writer [] summary =>
    let torn : Outcome ConnectorError _ × _ :=
      (Writer.teardown course.endpoint).attempt ⟨writer, course.journal, course.world⟩
    afterwards torn
      (fun _ s => course.wrote (.ended summary s.client.failures.drain.1) s)
      (course.wrote .lost)
  | .ended _ _ => course
  | .lost => course

/-- A split polls. -/
def poll (course : Course) (split chance : Nat) (read : BoundedRead Record) : Course :=
  afterwards (visit course.endpoint chance ⟨read, course.journal, course.world⟩)
    (fun result s => course.readOn split (.after s.client result) s)
    (course.readOn split .lost)

/-- A split has its turn. -/
def read (course : Course) (split chance : Nat) : Course :=
  match course.readings[split]? with
  | some (.waiting bounded) =>
    if bounded.isEmpty then { course with readings := course.readings.set split (.ended []) }
    else course.poll split chance (bounded.begin course.world.clock)
  | some (.underway read) => course.poll split chance read
  | _ => course

/-- A course after one more move. -/
def move (course : Course) : Move → Course
  | .write => course.write
  | .read split chance => course.read split chance
  | .pass milliseconds => { course with world := (course.world.pass milliseconds).1 }
  | .setTime timeOfDay => { course with world := { course.world with timeOfDay := timeOfDay } }

/-- A course after moves in order. -/
def run (course : Course) (moves : List Move) : Course :=
  moves.foldl move course

/-- The report, when the writer and all splits are done. -/
def report? (course : Course) : Option Report :=
  match course.writing with
  | .ended summary failed =>
    if course.readings.all (·.isEnded) then
      some { splits := course.readings.map (·.records), summary := summary, failed := failed }
    else none
  | _ => none

end Course

/-! ## What is kept -/

namespace Roster

variable {exchange : Exchange} {part : Part} {first second roster : Roster} {index : Nat}

/-- The writing is as far as the broker knows. -/
def Wrote (exchange : Exchange) (count : Nat) (roster : Roster) : Writing → Prop
  | .waiting config => config.destination = .fixed exchange.write ∧ config.mapper = messageOf ∧
      roster.broker.messageCount = 0
  | .underway writer rest summary => roster.Writes exchange writer ∧
      summary = { sent := roster.broker.messageCount, failed := 0 } ∧
        payloads count = payloads roster.broker.messageCount ++ rest
  | .ended summary failed => summary = { sent := count, failed := 0 } ∧ failed = [] ∧
      roster.broker.messageCount = count
  | .lost => False

/-- The read of a split is as far as the roster tells. -/
def HasRead (exchange : Exchange) (roster : Roster) (index : Nat) : Reading → Prop
  | .waiting bounded =>
    roster.Awaits exchange index (Reader.create bounded.source.config none)
  | .underway read => roster.Gathers index read
  | .ended records => List.Forall₂ IsRecord (own index roster.taken) records
  | .lost => False

/-- The writing and the reads of all splits are as far as a roster tells that agrees with the
broker. -/
structure Tells (exchange : Exchange) (count : Nat) (roster : Roster) (writing : Writing)
    (readings : List Reading) (world : World) : Prop where
  valid : roster.Valid exchange
  hosts : world.Hosts exchange.site roster.broker
  wrote : roster.Wrote exchange count writing
  read : ∀ index reading, readings[index]? = some reading → roster.HasRead exchange index reading
  splits : readings.length = exchange.read.splitCount exchange.desired

/-- A reader at work stays so while others do something. -/
theorem Goes.reads (h : first.Goes exchange part second) (hpart : .split index ≠ part)
    {reader : Reader Record} (hreads : first.Reads index reader) : second.Reads index reader := by
  obtain ⟨hmapper, hstate, hskipped, handle, consumer, of, hlink, hmark, hconsumer, hseat, hof,
    hindex⟩ := hreads
  obtain ⟨later, hlater, hsession⟩ := h.consumers _ _ hof
  exact ⟨hmapper, hstate, hskipped, handle, consumer, later, hlink, hmark, hconsumer,
    (h.seats _ _ _ hpart hseat).1, hlater, hsession.trans hindex⟩

/-- The read of a split stays as far as it is while others do something. Nobody else subscribes to a
topic. -/
theorem Goes.hasRead (h : first.Goes exchange part second) (hpart : .split index ≠ part)
    (halone : exchange.read.isTopic = true → part = .writer) {reading : Reading}
    (hread : first.HasRead exchange index reading) : second.HasRead exchange index reading := by
  have hown := h.taken index hpart
  cases reading with
  | waiting bounded =>
    refine ⟨hread.created, hread.mapper, hread.destination, hown.trans hread.taken, ?_⟩
    intro htopic
    have hlength := h.subscribers (halone htopic)
    rw [hread.alone htopic] at hlength
    exact List.eq_nil_of_length_eq_zero hlength
  | underway read =>
    refine ⟨h.reads hpart hread.reads, ?_⟩
    rw [hown]
    exact hread.records
  | ended records =>
    change List.Forall₂ IsRecord (own index second.taken) records
    rw [hown]
    exact hread
  | lost => exact hread

/-- The writing stays as far as it is while a split does something. -/
theorem Goes.wrote (h : first.Goes exchange (.split index) second) {count : Nat}
    {writing : Writing} (hwrote : first.Wrote exchange count writing) :
    second.Wrote exchange count writing := by
  obtain ⟨hproducers, hcount⟩ := h.writes (by simp)
  cases writing with
  | waiting config => exact ⟨hwrote.1, hwrote.2.1, hcount.trans hwrote.2.2⟩
  | underway writer rest summary =>
    obtain ⟨hwrites, hsummary, hrest⟩ := hwrote
    obtain ⟨handle, producer, session, hlink, hproducer, hseat, hown, hsession, hopen⟩ :=
      hwrites.seated
    obtain ⟨hseat', hsame⟩ := h.seats _ _ _ (by simp) hseat
    refine ⟨⟨hwrites.destination, hwrites.mapper, hwrites.fixed, hwrites.failures, handle, producer,
      session, hlink, hproducer, hseat', hproducers ▸ hown, hsame.trans hsession, hopen⟩, ?_, ?_⟩
    · rw [hcount]
      exact hsummary
    · rw [hcount]
      exact hrest
  | ended summary failed => exact ⟨hwrote.1, hwrote.2.1, hcount.trans hwrote.2.2⟩
  | lost => exact hwrote

variable {count : Nat} {writing : Writing} {readings : List Reading} {world after : World}

/-- A split had a turn. -/
theorem Tells.readOn (h : first.Tells exchange count writing readings world) {reading : Reading}
    (hindex : index < readings.length)
    (hreaches : first.Reaches exchange (.split index) second after)
    (hread : second.HasRead exchange index reading) :
    second.Tells exchange count writing (readings.set index reading) after where
  valid := hreaches.goes.valid
  hosts := hreaches.hosts
  wrote := hreaches.goes.wrote h.wrote
  read := by
    intro position other hother
    by_cases he : index = position
    · subst he
      rw [List.getElem?_set_self hindex] at hother
      obtain rfl := Option.some.inj hother
      exact hread
    · rw [List.getElem?_set_ne he] at hother
      refine hreaches.goes.hasRead (by simpa using Ne.symm he) ?_ (h.read position other hother)
      intro htopic
      have hsingle := h.splits.trans (Destination.splitCount_of_isTopic htopic _)
      have hlt := (List.getElem?_eq_some_iff.1 hother).1
      omega
  splits := by
    rw [List.length_set]
    exact h.splits

/-- The writer had a turn. -/
theorem Tells.wrote_on (h : first.Tells exchange count writing readings world) {later : Writing}
    (hreaches : first.Reaches exchange .writer second after)
    (hwrote : second.Wrote exchange count later) :
    second.Tells exchange count later readings after where
  valid := hreaches.goes.valid
  hosts := hreaches.hosts
  wrote := hwrote
  read := fun position other hother =>
    hreaches.goes.hasRead (by simp) (fun _ => rfl) (h.read position other hother)
  splits := h.splits

/-- Time passes, or the time of day changes. -/
theorem Tells.of_hosts (h : roster.Tells exchange count writing readings world)
    (hosts : after.Hosts exchange.site roster.broker) :
    roster.Tells exchange count writing readings after :=
  { h with hosts := hosts }

/-! ## Turns -/

/-- A read that goes on for a split may have to begin. -/
theorem HasRead.follows {read : BoundedRead Record} {reading : Reading}
    (h : roster.HasRead exchange index reading)
    (hread : (∃ bounded now, reading = .waiting bounded ∧ read = bounded.begin now) ∨
      reading = .underway read) : roster.Follows exchange index read := by
  rcases hread with ⟨bounded, now, rfl, rfl⟩ | rfl
  · exact .inl ⟨h, rfl⟩
  · exact .inr h

/-- A read that has not begun is over with no records. -/
theorem HasRead.ended_nil {bounded : BoundedReader Record}
    (h : roster.HasRead exchange index (.waiting bounded)) :
    roster.HasRead exchange index (.ended []) := by
  change List.Forall₂ IsRecord (own index roster.taken) []
  rw [h.taken]
  exact .nil

/-- A split that polls goes on or is over. -/
theorem Follows.leaves_visit (s : Scene (BoundedRead Record) World)
    (h : roster.Follows exchange index s.client) (hvalid : roster.Valid exchange)
    (hosts : s.env.Hosts exchange.site roster.broker) (chance : Nat) :
    Leaves (visit (World.endpoint exchange.site) chance) s
      (fun result s' => ∃ later, roster.Reaches exchange (.split index) later s'.env ∧
        later.HasRead exchange index (.after s'.client result))
      (fun _ _ => True) (fun _ => True) := by
  simp only [visit, leaves_bind, leaves_attempt]
  refine (h.leaves_poll hvalid hosts chance).mono ?_ ?_ (fun _ => id)
  · rintro turn s' ⟨later, hreaches, hgathers⟩
    cases turn with
    | finish =>
      simp only [leaves_bind, leaves_pure]
      refine (hgathers.leaves_conclude hreaches.goes.valid hreaches.hosts).mono_done ?_
      rintro records s'' ⟨last, hlast, hrecords⟩
      exact ⟨last, hreaches.trans hlast, hrecords⟩
    | pollAgain => exact ⟨later, hreaches, hgathers⟩
    | pauseFor milliseconds => exact ⟨later, hreaches, hgathers⟩
  · exact fun error s' _ => leaves_conclude_failed s' error

/-- Every record that is left to send is the next one. -/
theorem payloads_eq_append {written : Nat} {record : String} {rest : List String}
    (h : payloads count = payloads written ++ record :: rest) :
    record = "record-" ++ toString written ∧
      payloads count = payloads (written + 1) ++ rest := by
  have hlength := congrArg List.length h
  simp only [payloads, List.length_map, List.length_range, List.length_append,
    List.length_cons] at hlength
  have hrecord : (payloads count)[written]? = some record := by
    rw [h, List.getElem?_append_right (by simp [payloads])]
    simp [payloads]
  have hnext : (payloads count)[written]? = some ("record-" ++ toString written) := by
    simp [payloads, List.getElem?_range (show written < count by omega)]
  obtain rfl := Option.some.inj (hrecord.symm.trans hnext)
  refine ⟨rfl, ?_⟩
  rw [h]
  simp [payloads, List.range_succ]

section

variable (s : Scene (Writer String) World) {config : WriteConfig String} {record : String}
  {rest : List String} {summary : WriteSummary}

/-- A writer that is set up has everything to send. -/
theorem Wrote.leaves_setup (h : roster.Wrote exchange count (.waiting config))
    (hvalid : roster.Valid exchange) (hosts : s.env.Hosts exchange.site roster.broker)
    (hclient : s.client = { config := config }) :
    Leaves (Writer.setup (World.endpoint exchange.site)) s
      (fun _ s' => ∃ later, roster.Reaches exchange .writer later s'.env ∧
        later.Wrote exchange count (.underway s'.client (payloads count) {}))
      (fun _ _ => True) (fun _ => True) := by
  obtain ⟨hdestination, hmapper, hnone⟩ := h
  have hprepares : roster.Prepares exchange .writer roster s.env :=
    ⟨⟨hvalid.goes, hosts⟩, rfl, rfl, rfl⟩
  refine (hprepares.leaves_setup hclient hdestination hmapper).mono_done ?_
  rintro _ s' ⟨later, hlater, hwrites⟩
  have hcount := hlater.count.trans hnone
  refine ⟨later, hlater.reaches, hwrites, ?_, ?_⟩
  · rw [hcount]
  · rw [hcount]
    rfl

/-- A writer that sends a record has the rest to send. -/
theorem Wrote.leaves_process
    (h : roster.Wrote exchange count (.underway s.client (record :: rest) summary))
    (hvalid : roster.Valid exchange) (hosts : s.env.Hosts exchange.site roster.broker) :
    Leaves (Writer.process (World.endpoint exchange.site) record) s
      (fun outcome s' => ∃ later, roster.Reaches exchange .writer later s'.env ∧
        later.Wrote exchange count (.underway s'.client rest (summary.add outcome)))
      (fun _ _ => True) (fun _ => True) := by
  obtain ⟨hwrites, rfl, hpayloads⟩ := h
  obtain ⟨rfl, hrest⟩ := payloads_eq_append hpayloads
  refine (hwrites.leaves_process hvalid hosts).mono_done ?_
  rintro outcome s' ⟨hsent, later, hreaches, hwrites, hcount⟩
  refine ⟨later, hreaches, hwrites, ?_, ?_⟩
  · simp only [WriteSummary.add, hsent, if_true, hcount]
  · rw [hcount]
    exact hrest

/-- A writer that is torn down with nothing left to send has sent everything. -/
theorem Wrote.leaves_teardown {ε : Type}
    (h : roster.Wrote exchange count (.underway s.client [] summary))
    (hvalid : roster.Valid exchange) (hosts : s.env.Hosts exchange.site roster.broker) :
    Leaves (Writer.teardown (World.endpoint exchange.site)).attempt s
      (fun _ s' => ∃ later, roster.Reaches exchange .writer later s'.env ∧
        later.Wrote exchange count (.ended summary s'.client.failures.drain.1))
      (fun (_ : ε) _ => True) (fun _ => True) := by
  obtain ⟨hwrites, rfl, hpayloads⟩ := h
  have hcount : count = roster.broker.messageCount := by
    simpa [payloads] using congrArg List.length hpayloads
  have hfailures : ∀ s' : Scene (Writer String) World, s'.client.failures = s.client.failures →
      s'.client.failures.drain.1 = [] := by
    intro s' hsame
    rw [hsame]
    exact hwrites.failures
  rw [leaves_attempt]
  refine (hwrites.leaves_teardown hvalid hosts).mono ?_ ?_ (fun _ => id)
  · rintro _ s' ⟨hsame, after, hreaches, hafter⟩
    exact ⟨_, hreaches, by rw [hcount], hfailures s' hsame, hafter.trans hcount.symm⟩
  · rintro _ s' ⟨hsame, after, hreaches, hafter⟩
    exact ⟨_, hreaches, by rw [hcount], hfailures s' hsame, hafter.trans hcount.symm⟩

end

end Roster

/-- What follows a call satisfies a condition, when it does so in both cases. -/
theorem leaves_afterwards {σ ε α β : Type} {call : Action σ ε α} {s : σ} {done : α → σ → Prop}
    (h : Leaves call s done (fun _ _ => True) (fun _ => True)) {next : α → σ → β} {lost : σ → β}
    (post : β → Prop) (hdone : ∀ value s', done value s' → post (next value s'))
    (hlost : ∀ s', post (lost s')) : post (afterwards (call s) next lost) := by
  unfold Leaves at h
  generalize call s = result at h
  obtain ⟨outcome, s'⟩ := result
  cases outcome with
  | done value => exact hdone value s' h
  | failed error => exact hlost s'
  | abandoned => exact hlost s'

namespace Course

variable {exchange : Exchange} {count : Nat} {course : Course}

/-- A roster tells how far a course is. -/
structure Told (exchange : Exchange) (count : Nat) (course : Course) : Prop where
  site : course.site = exchange.site
  counts : course.count = count
  roster : ∃ roster : Roster,
    roster.Tells exchange count course.writing course.readings course.world

/-- The writing or a read failed. -/
def Lost (course : Course) : Prop :=
  course.writing = .lost ∨ .lost ∈ course.readings

/-- A roster tells how far a course is, unless something failed. -/
def Kept (exchange : Exchange) (count : Nat) (course : Course) : Prop :=
  Told exchange count course ∨ course.Lost

/-! ## What failed -/

/-- A read that failed stays so while another one goes on. -/
theorem lost_mem_set {readings : List Reading} (hlost : .lost ∈ readings) {split : Nat}
    {old : Reading} (hold : readings[split]? = some old) (hgoes : old ≠ .lost) (reading : Reading) :
    .lost ∈ readings.set split reading := by
  obtain ⟨position, hposition⟩ := List.getElem?_of_mem hlost
  have hne : split ≠ position := by
    rintro rfl
    exact hgoes (Option.some.inj (hold.symm.trans hposition))
  exact List.mem_of_getElem? ((List.getElem?_set_ne hne).trans hposition)

/-- A split that polls changes its own read alone. -/
theorem exists_poll (course : Course) (split chance : Nat) (read : BoundedRead Record) :
    (course.poll split chance read).writing = course.writing ∧
      ∃ reading, (course.poll split chance read).readings = course.readings.set split reading := by
  unfold poll afterwards
  split <;> exact ⟨rfl, _, rfl⟩

/-- The writer leaves the reads alone. -/
theorem readings_write (course : Course) : course.write.readings = course.readings := by
  unfold write afterwards
  split
  · split <;> rfl
  · split <;> rfl
  · dsimp only
    split <;> rfl
  · rfl
  · rfl

/-- A loopback that failed does not recover. -/
theorem Lost.move (h : course.Lost) (move : Move) : (course.move move).Lost := by
  cases move with
  | write =>
    rcases h with hlost | hlost
    · have hsame : course.write = course := by simp only [write, hlost]
      rw [Course.move, hsame]
      exact .inl hlost
    · exact .inr (by rw [Course.move, readings_write]; exact hlost)
  | read split chance =>
    have hset : ∀ {after : Course} {old : Reading}, course.readings[split]? = some old →
        old ≠ .lost → after.writing = course.writing →
          (∃ reading, after.readings = course.readings.set split reading) → after.Lost := by
      rintro after old hold hgoes hwriting ⟨reading, hreadings⟩
      refine h.imp (fun hlost => hwriting.trans hlost) fun hlost => ?_
      rw [hreadings]
      exact lost_mem_set hlost hold hgoes reading
    simp only [Course.move, read]
    split
    · rename_i bounded hbounded
      split
      · exact hset hbounded (by simp) rfl ⟨_, rfl⟩
      · obtain ⟨hwriting, hreadings⟩ := course.exists_poll split chance
          (bounded.begin course.world.clock)
        exact hset hbounded (by simp) hwriting hreadings
    · rename_i read hread
      obtain ⟨hwriting, hreadings⟩ := course.exists_poll split chance read
      exact hset hread (by simp) hwriting hreadings
    · exact h
  | pass milliseconds => exact h
  | setTime timeOfDay => exact h

/-! ## Runs -/

/-- A turn of the writer takes a course to one that a roster tells, unless the writing fails. -/
theorem Told.write (h : Told exchange count course) : Kept exchange count course.write := by
  obtain ⟨hsite, hcount, roster, h⟩ := h
  have hwrote := h.wrote
  have hlost : ∀ s : Scene (Writer String) World, Kept exchange count (course.wrote .lost s) :=
    fun _ => .inr (.inl rfl)
  unfold Course.write endpoint
  rw [hsite, hcount]
  cases hwriting : course.writing with
  | waiting config =>
    rw [hwriting] at hwrote
    refine leaves_afterwards (hwrote.leaves_setup _ h.valid h.hosts rfl)
      (Kept exchange count) ?_ hlost
    rintro _ s ⟨later, hreaches, hlater⟩
    exact .inl ⟨hsite, hcount, later, h.wrote_on hreaches hlater⟩
  | underway writer rest summary =>
    rw [hwriting] at hwrote
    cases rest with
    | nil =>
      refine leaves_afterwards (hwrote.leaves_teardown ⟨writer, course.journal, course.world⟩
        h.valid h.hosts) (Kept exchange count) ?_ hlost
      rintro _ s ⟨later, hreaches, hlater⟩
      exact .inl ⟨hsite, hcount, later, h.wrote_on hreaches hlater⟩
    | cons record rest =>
      refine leaves_afterwards (hwrote.leaves_process ⟨writer, course.journal, course.world⟩
        h.valid h.hosts) (Kept exchange count) ?_ hlost
      rintro outcome s ⟨later, hreaches, hlater⟩
      exact .inl ⟨hsite, hcount, later, h.wrote_on hreaches hlater⟩
  | ended summary failed => exact .inl ⟨hsite, hcount, roster, h⟩
  | lost => exact .inr (.inl hwriting)

/-- A split that polls takes a course to one that a roster tells, unless the read fails. -/
theorem Told.poll (h : Told exchange count course) {split : Nat} {reading : Reading}
    (hreading : course.readings[split]? = some reading) (chance : Nat) {read : BoundedRead Record}
    (hread : (∃ bounded now, reading = .waiting bounded ∧ read = bounded.begin now) ∨
      reading = .underway read) : Kept exchange count (course.poll split chance read) := by
  obtain ⟨hsite, hcount, roster, h⟩ := h
  have hlt := (List.getElem?_eq_some_iff.1 hreading).1
  have hfollows := (h.read split reading hreading).follows hread
  unfold Course.poll endpoint
  rw [hsite]
  refine leaves_afterwards (hfollows.leaves_visit ⟨read, course.journal, course.world⟩ h.valid
    h.hosts chance) (Kept exchange count) ?_ ?_
  · rintro result s ⟨later, hreaches, hlater⟩
    exact .inl ⟨hsite, hcount, later, h.readOn hlt hreaches hlater⟩
  · exact fun s => .inr (.inr (List.mem_of_getElem? (List.getElem?_set_self hlt)))

/-- A turn of a split takes a course to one that a roster tells, unless the read fails. -/
theorem Told.read (h : Told exchange count course) (split chance : Nat) :
    Kept exchange count (course.read split chance) := by
  unfold Course.read
  split
  · rename_i bounded hbounded
    split
    · -- No record is wanted, so the read is over at once.
      obtain ⟨hsite, hcount, roster, h⟩ := h
      have hlt := (List.getElem?_eq_some_iff.1 hbounded).1
      exact .inl ⟨hsite, hcount, roster, h.readOn hlt ⟨h.valid.goes, h.hosts⟩
        (h.read split _ hbounded).ended_nil⟩
    · exact h.poll hbounded chance (.inl ⟨bounded, _, rfl, rfl⟩)
  · rename_i read hread
    exact h.poll hread chance (.inr rfl)
  · exact .inl h

/-- A move takes a course to one that a roster tells, unless something fails. -/
theorem Kept.move (h : Kept exchange count course) (move : Move) :
    Kept exchange count (course.move move) := by
  rcases h with h | hlost
  · cases move with
    | write => exact h.write
    | read split chance => exact h.read split chance
    | pass milliseconds =>
      obtain ⟨hsite, hcount, roster, h⟩ := h
      exact .inl ⟨hsite, hcount, roster, h.of_hosts (h.hosts.pass _)⟩
    | setTime timeOfDay =>
      obtain ⟨hsite, hcount, roster, h⟩ := h
      exact .inl ⟨hsite, hcount, roster, h.of_hosts (h.hosts.of_eq rfl rfl)⟩
  · exact .inr (hlost.move move)

/-- A roster tells how far a course is after any moves, unless something failed. -/
theorem Kept.run (h : Kept exchange count course) (moves : List Move) :
    Kept exchange count (course.run moves) := by
  induction moves generalizing course with
  | nil => exact h
  | cons first rest ih => exact ih (h.move first)

end Course

/-! ## Openings -/

/-- An exchange is as a configuration asks for it. -/
structure Exchange.Suits (exchange : Exchange) (configuration : Configuration) : Prop where
  site : exchange.site = 0
  read : Destination.ofRead configuration.read.queue configuration.read.topic = .ok exchange.read
  desired : exchange.desired = configuration.read.desiredSplits.toNat
  write : WriteDestination.ofWrite configuration.write.queue configuration.write.topic none =
    .ok (.fixed exchange.write : WriteDestination String)

/-- Bounded readers are those of their sources. -/
theorem map_source_of_mapM {sources : List (Source Record)} {bounded : List (BoundedReader Record)}
    (h : sources.mapM BoundedReader.ofSource = .ok bounded) :
    bounded.map (·.source) = sources := by
  induction sources generalizing bounded with
  | nil =>
    obtain rfl := Except.ok.inj h
    rfl
  | cons source rest ih =>
    rw [List.mapM_cons, BoundedReader.ofSource] at h
    by_cases hbounded : source.config.isBounded = true
    · rw [dif_pos hbounded] at h
      cases hrest : rest.mapM BoundedReader.ofSource with
      | error fault => rw [hrest] at h; cases h
      | ok ofRest =>
        rw [hrest] at h
        obtain rfl := Except.ok.inj h
        exact congrArg (source :: ·) (ih hrest)
    · rw [dif_neg hbounded] at h
      cases h

/-- The readers of a configuration are for its splits. -/
theorem readers_of_ok {factory : ConnectionFactory} {settings : ReadSettings}
    {bounded : List (BoundedReader Record)} (h : readers factory settings = .ok bounded) :
    ∃ config : ReadConfig Record,
      Destination.ofRead settings.queue settings.topic = .ok config.destination ∧
        config.mapper = Record.mapper ∧ (∀ reader ∈ bounded, reader.source.config = config) ∧
          bounded.length = config.destination.splitCount settings.desiredSplits.toNat := by
  simp only [readers, ReadBuilder.build, ReadBuilder.ofSettings] at h
  cases hdestination : Destination.ofRead settings.queue settings.topic with
  | error fault => rw [hdestination] at h; cases h
  | ok destination =>
    cases hcredentials : Credentials.resolve settings.username settings.password with
    | error fault => rw [hdestination, hcredentials] at h; cases h
    | ok credentials =>
      rw [hdestination, hcredentials] at h
      let config : ReadConfig Record := {
        factory := factory, destination := destination, credentials := credentials
        maxNumRecords := settings.maxNumRecords, maxReadTime := settings.maxReadTime
        mapper := Record.mapper, estimator := none }
      change ((({ config := config } : Source Record).split settings.desiredSplits).mapM
        BoundedReader.ofSource).mapError Failure.readLimits = .ok bounded at h
      cases hbounded : (({ config := config } : Source Record).split settings.desiredSplits).mapM
        BoundedReader.ofSource with
      | error fault => rw [hbounded] at h; cases h
      | ok ofSources =>
        rw [hbounded] at h
        obtain rfl := Except.ok.inj h
        have hsources := map_source_of_mapM hbounded
        refine ⟨config, rfl, rfl, fun reader hreader => ?_, ?_⟩
        · have hmem : reader.source ∈ ofSources.map (·.source) := List.mem_map_of_mem hreader
          rw [hsources, Source.split, List.mem_map] at hmem
          obtain ⟨_, _, hsource⟩ := hmem
          rw [← hsource]
        · have hlength := congrArg List.length hsources
          simpa only [List.length_map, Source.split, List.length_range] using hlength

/-- The configuration of a writer is for one destination. -/
theorem writeConfig_of_ok {factory : ConnectionFactory} {settings : WriteSettings}
    {config : WriteConfig String} (h : writeConfig factory settings = .ok config) :
    ∃ destination : Destination,
      WriteDestination.ofWrite settings.queue settings.topic none =
        .ok (.fixed destination : WriteDestination String) ∧
          config.destination = .fixed destination ∧ config.mapper = messageOf := by
  simp only [writeConfig, WriteBuilder.build, WriteBuilder.ofSettings] at h
  have hfixed : ∀ destination : WriteDestination String,
      WriteDestination.ofWrite settings.queue settings.topic none = .ok destination →
        ∃ fixed, destination = .fixed fixed := by
    intro destination hdestination
    cases hqueue : settings.queue <;> cases htopic : settings.topic <;>
      rw [hqueue, htopic] at hdestination <;> cases hdestination <;> exact ⟨_, rfl⟩
  cases hdestination :
      (WriteDestination.ofWrite settings.queue settings.topic none :
        Except ConfigurationFault (WriteDestination String)) with
  | error fault => rw [hdestination] at h; cases h
  | ok destination =>
    cases hcredentials : Credentials.resolve settings.username settings.password with
    | error fault => rw [hdestination, hcredentials] at h; cases h
    | ok credentials =>
      obtain ⟨fixed, rfl⟩ := hfixed destination hdestination
      rw [hdestination, hcredentials] at h
      obtain rfl := Except.ok.inj h
      exact ⟨fixed, rfl, rfl, rfl⟩

/-- Nobody sits at a session, and nothing was taken. -/
def Roster.empty (broker : Broker) : Roster where
  seats := fun _ => none
  taken := []
  broker := broker

/-- At the beginning, the empty roster agrees with a broker. -/
theorem Roster.valid_empty {exchange : Exchange} (credentials : Option Credentials) :
    (Roster.empty { credentials := credentials }).Valid exchange where
  accepts := by simp [Roster.empty]
  held := by
    intro index session hsession
    cases hsession
  fresh := fun _ _ => rfl
  supplied := by
    refine ⟨[], ?_, List.nil_sublist _⟩
    cases exchange.read <;> rfl
  bound := by
    intro consumer hconsumer
    cases hconsumer
  single := fun _ => Nat.zero_le 1

/-- Before anybody had a turn, the empty roster tells how far everything is. -/
theorem Roster.exists_tells_empty {configuration : Configuration} {config : WriteConfig String}
    {bounded : List (BoundedReader Record)}
    (hread : readers ⟨0, "Broker"⟩ configuration.read = .ok bounded)
    (hwrite : writeConfig ⟨0, "Broker"⟩ configuration.write = .ok config) (count : Nat)
    (timeOfDay : Int64) :
    ∃ exchange : Exchange, exchange.Suits configuration ∧
      (Roster.empty { credentials := configuration.broker }).Tells exchange count (.waiting config)
        (bounded.map .waiting)
        (World.addBroker { timeOfDay := timeOfDay } { credentials := configuration.broker }).2 := by
  obtain ⟨readConfig, hfrom, hreads, hsources, hlength⟩ := readers_of_ok hread
  obtain ⟨destination, hto, hdestination, hmapper⟩ := writeConfig_of_ok hwrite
  refine ⟨⟨0, readConfig.destination, configuration.read.desiredSplits.toNat, destination⟩,
    ⟨rfl, hfrom, rfl, hto⟩, ?_⟩
  exact {
    valid := Roster.valid_empty _
    hosts := ⟨rfl, rfl⟩
    wrote := ⟨hdestination, hmapper, rfl⟩
    read := by
      intro index reading hreading
      rw [List.getElem?_map, Option.map_eq_some_iff] at hreading
      obtain ⟨reader, hreader, rfl⟩ := hreading
      have hconfig := hsources reader (List.mem_of_getElem? hreader)
      exact ⟨rfl, by rw [hconfig]; exact hreads, by rw [hconfig]; rfl, rfl, fun _ => rfl⟩
    splits := by rw [List.length_map, hlength] }

/-- A loopback that opens is as far as a roster tells. -/
theorem Course.exists_told_opening {timeOfDay : Int64} {configuration : Configuration}
    {course : Course} (h : opening timeOfDay configuration = .ok course) :
    ∃ exchange : Exchange, exchange.Suits configuration ∧
      course.Told exchange configuration.count := by
  have hsite : (World.addBroker { timeOfDay := timeOfDay }
      { credentials := configuration.broker }).1 = 0 := rfl
  simp only [opening, hsite] at h
  cases hread : readers ⟨0, "Broker"⟩ configuration.read with
  | error failure => rw [hread] at h; cases h
  | ok bounded =>
    cases hwrite : writeConfig ⟨0, "Broker"⟩ configuration.write with
    | error failure => rw [hread, hwrite] at h; cases h
    | ok config =>
      rw [hread, hwrite] at h
      obtain rfl := Except.ok.inj h
      obtain ⟨exchange, hsuits, htells⟩ :=
        Roster.exists_tells_empty hread hwrite configuration.count timeOfDay
      exact ⟨exchange, hsuits, hsuits.site.symm, rfl, _, htells⟩

/-! ## Reports -/

/-- A roster tells what a report is about, for an exchange that is as a configuration asks for
it. -/
def Report.IsTold (report : Report) (configuration : Configuration) : Prop :=
  ∃ exchange : Exchange, exchange.Suits configuration ∧ ∃ (roster : Roster) (world : World),
    roster.Tells exchange configuration.count (.ended report.summary report.failed)
      (report.splits.map .ended) world

/-- When every read is over, how far they are is what was read. -/
theorem map_ended_of_all {readings : List Reading} (h : readings.all (·.isEnded) = true) :
    (readings.map (·.records)).map .ended = readings := by
  rw [List.map_map]
  refine (List.map_congr_left fun reading hreading => ?_).trans (List.map_id readings)
  have hended := List.all_eq_true.1 h reading hreading
  cases reading with
  | ended records => rfl
  | waiting bounded => cases hended
  | underway read => cases hended
  | lost => cases hended

/-- A loopback that failed has no report. -/
theorem Course.Lost.report_eq_none {course : Course} (h : course.Lost) : course.report? = none := by
  unfold report?
  split
  · rename_i summary failed hwriting
    refine if_neg fun hended => ?_
    rcases h with hlost | hlost
    · cases hwriting.symm.trans hlost
    · cases List.all_eq_true.1 hended _ hlost
  · rfl

/-- The report of a loopback, after any moves, is about what a roster tells. -/
theorem Course.isTold_report {timeOfDay : Int64} {configuration : Configuration} {course : Course}
    {report : Report} (hopening : opening timeOfDay configuration = .ok course) {moves : List Move}
    (hreport : (course.run moves).report? = some report) : report.IsTold configuration := by
  obtain ⟨exchange, hsuits, htold⟩ := exists_told_opening hopening
  have hkept : Kept exchange configuration.count (course.run moves) := Kept.run (.inl htold) moves
  rcases hkept with ⟨-, -, roster, htells⟩ | hlost
  · unfold report? at hreport
    split at hreport
    · rename_i summary failed hwriting
      split at hreport
      · rename_i hended
        obtain rfl := Option.some.inj hreport
        refine ⟨exchange, hsuits, roster, (course.run moves).world, ?_⟩
        rw [map_ended_of_all hended, ← hwriting]
        exact htells
      · cases hreport
    · cases hreport
  · rw [hlost.report_eq_none] at hreport
    cases hreport

end BrokerConnector.Loopback
