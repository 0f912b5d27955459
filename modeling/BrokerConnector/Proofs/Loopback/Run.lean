import BrokerConnector.Proofs.Loopback.Course

/-!
# Runs of a loopback

A run gives every split its first turn, lets the writer send all records, and then gives the splits
turns until they are over. A turn of a split polls until there is a pause to make. A roster tells
how far the run is after each of these steps (`Roster.Tells`), in whichever order chance lets the
splits take their turns.
-/

namespace BrokerConnector.Loopback

open BrokerConnector.Action Crew

/-- How far a read among several is. -/
def Reading.ofProgress : Progress Record → Reading
  | .pausing read _ => underway read
  | .ended records => ended records

namespace Roster

variable {exchange : Exchange} {roster : Roster} {count : Nat} {writing : Writing}
  {readings : List Reading}

/-! ## Turns of the splits -/

section

variable {s : Scene Unit World} {index : Nat} {reading : Reading}

/-- A split that has a turn goes on to its next pause, or to the end of its read. -/
theorem Tells.leaves_turn (h : roster.Tells exchange count writing readings s.env)
    (hreading : readings[index]? = some reading) {read : BoundedRead Record}
    (hread : (∃ bounded now, reading = .waiting bounded ∧ read = bounded.begin now) ∨
      reading = .underway read) (chance budget : Nat) :
    Leaves (Progress.turn (World.endpoint exchange.site) chance budget read) s
      (fun progress s' => ∃ later : Roster,
        later.Tells exchange count writing (readings.set index (.ofProgress progress)) s'.env)
      (fun _ _ => True) (fun _ => True) := by
  have hlt := (List.getElem?_eq_some_iff.1 hreading).1
  have hfollows := (h.read index reading hreading).follows hread
  simp only [Progress.turn, Scene.leaves_alone, leaves_bind, leaves_attempt]
  refine (Follows.leaves_untilPause hfollows h.valid h.hosts chance budget).mono ?_ ?_
    (fun _ => id)
  · rintro pause s' ⟨later, hreaches, hgathers⟩
    cases pause with
    | some milliseconds =>
      exact ⟨later, h.readOn hlt hreaches hgathers⟩
    | none =>
      simp only [leaves_bind, leaves_pure]
      refine (hgathers.leaves_conclude hreaches.goes.valid hreaches.hosts).mono_done ?_
      rintro records s'' ⟨last, hlast, hrecords⟩
      exact ⟨last, h.readOn hlt (hreaches.trans hlast) hrecords⟩
  · intro error s' _
    simp only [leaves_pure]
    exact leaves_conclude_failed s' error

/-- A split that has its first turn begins, unless no record is wanted. -/
theorem Tells.leaves_begin (h : roster.Tells exchange count writing readings s.env)
    {bounded : BoundedReader Record} (hreading : readings[index]? = some (.waiting bounded))
    (chance budget : Nat) :
    Leaves (Progress.begin (World.endpoint exchange.site) chance budget bounded) s
      (fun progress s' => ∃ later : Roster,
        later.Tells exchange count writing (readings.set index (.ofProgress progress)) s'.env)
      (fun _ _ => True) (fun _ => True) := by
  have hlt := (List.getElem?_eq_some_iff.1 hreading).1
  unfold Progress.begin
  split
  · exact ⟨roster, h.readOn hlt ⟨h.valid.goes, h.hosts⟩ (h.read index _ hreading).ended_nil⟩
  · simp only [leaves_bind, Scene.leaves_clock]
    exact h.leaves_turn hreading (.inl ⟨bounded, _, rfl, rfl⟩) chance budget

/-- The splits that are left have their first turns. -/
theorem Tells.leaves_beginAll (front : List (Progress Record))
    (bounded : List (BoundedReader Record))
    (h : roster.Tells exchange count writing
      (front.map .ofProgress ++ bounded.map .waiting) s.env) (chance : Nat → Nat) (budget : Nat) :
    Leaves (List.mapM.loop (fun (reader, split) => Action.mapError Failure.reading
        (Progress.begin (World.endpoint exchange.site) (chance split) budget reader))
      (bounded.zipIdx front.length) front.reverse) s
      (fun progresses s' => ∃ later : Roster,
        later.Tells exchange count writing (progresses.map .ofProgress) s'.env)
      (fun _ _ => True) (fun _ => True) := by
  -- The splits in front had their turns.
  induction bounded generalizing front roster s with
  | nil =>
    simp only [List.zipIdx_nil, List.mapM.loop, List.reverse_reverse, leaves_pure]
    exact ⟨roster, by simpa using h⟩
  | cons reader rest ih =>
    have hreading : (front.map Reading.ofProgress ++
        (reader :: rest).map Reading.waiting)[front.length]? = some (.waiting reader) := by
      rw [List.getElem?_append_right (by simp)]
      simp
    simp only [List.zipIdx_cons, List.mapM.loop, leaves_bind, leaves_mapError]
    refine (h.leaves_begin hreading _ _).mono_done ?_
    rintro progress s' ⟨later, hlater⟩
    have hset : (front.map Reading.ofProgress ++ (reader :: rest).map Reading.waiting).set
        front.length (.ofProgress progress) =
          (front ++ [progress]).map .ofProgress ++ rest.map .waiting := by
      simp
    rw [hset] at hlater
    have hrest := ih (front ++ [progress]) hlater
    rwa [List.length_append, List.length_singleton, List.reverse_append] at hrest

end

/-! ## Writing -/

section

variable {s : Scene (Writer String) World} {rest : List String} {summary : WriteSummary}

/-- A writer that processes what is left has sent everything. -/
theorem Tells.leaves_processAll
    (h : roster.Tells exchange count (.underway s.client rest summary) readings s.env) :
    Leaves (Writer.processAll (World.endpoint exchange.site) rest summary) s
      (fun summary s' => ∃ later : Roster,
        later.Tells exchange count (.underway s'.client [] summary) readings s'.env)
      (fun _ _ => True) (fun _ => True) := by
  induction rest generalizing roster summary s with
  | nil => exact ⟨roster, h⟩
  | cons record rest ih =>
    simp only [Writer.processAll, leaves_bind]
    refine (h.wrote.leaves_process s h.valid h.hosts).mono_done ?_
    rintro outcome s' ⟨later, hreaches, hlater⟩
    exact ih (h.wrote_on hreaches hlater)

/-- A writer that is set up, sends everything and is torn down has sent everything. -/
theorem Tells.leaves_writeAll {config : WriteConfig String}
    (h : roster.Tells exchange count (.waiting config) readings s.env)
    (hclient : s.client = { config := config }) :
    Leaves (Writer.writeAll (World.endpoint exchange.site) (payloads count)) s
      (fun summary s' => ∃ later : Roster, later.Tells exchange count
        (.ended summary s'.client.failures.drain.1) readings s'.env)
      (fun _ _ => True) (fun _ => True) := by
  simp only [Writer.writeAll, leaves_bind]
  refine (h.wrote.leaves_setup s h.valid h.hosts hclient).mono_done ?_
  rintro _ setup ⟨later, hreaches, hlater⟩
  refine (h.wrote_on hreaches hlater).leaves_processAll.mono_done ?_
  rintro summary sent ⟨last, hlast⟩
  refine (hlast.wrote.leaves_teardown sent hlast.valid hlast.hosts).mono_done ?_
  rintro result torn ⟨final, hreaches, hfinal⟩
  cases result with
  | ok _ => exact ⟨final, hlast.wrote_on hreaches hfinal⟩
  | error failure => exact ⟨final, hlast.wrote_on hreaches hfinal⟩

end

/-- The writing of a loopback sends everything. -/
theorem Tells.leaves_write {s : Scene Unit World} {configuration : Configuration}
    {config : WriteConfig String} {factory : ConnectionFactory}
    (h : roster.Tells exchange configuration.count (.waiting config) readings s.env)
    (hsite : factory.site = exchange.site)
    (hconfig : writeConfig factory configuration.write = .ok config) :
    Leaves (write factory configuration) s
      (fun result s' => ∃ later : Roster, later.Tells exchange configuration.count
        (.ended result.1 result.2) readings s'.env)
      (fun _ _ => True) (fun _ => True) := by
  simp only [write, leaves_bind, leaves_ofExcept, leaves_mapError, Scene.leaves_alone]
  rw [← writeConfig, hconfig, hsite]
  exact Tells.leaves_writeAll h rfl

/-! ## Reading back -/

section

variable {s : Scene Unit World}

/-- A read that wakes pauses at its position. -/
theorem pausing_of_mem_sleepers {reads : List (Progress Record)} {sleeper : Sleeper Record}
    (h : sleeper ∈ Progress.sleepers reads) :
    reads[sleeper.position]? = some (.pausing sleeper.read sleeper.wake) := by
  rw [Progress.sleepers, List.mem_filterMap] at h
  obtain ⟨⟨progress, position⟩, hmem, hsleeper⟩ := h
  rw [List.mk_mem_zipIdx_iff_getElem?] at hmem
  cases progress with
  | pausing read wake =>
    obtain rfl := Option.some.inj hsleeper
    exact hmem
  | ended records => cases hsleeper

/-- The one that wakes first is one of them. -/
theorem foldl_sooner_mem (first : Sleeper Record) (others : List (Sleeper Record)) :
    others.foldl Progress.sooner first ∈ first :: others := by
  induction others generalizing first with
  | nil => exact List.mem_singleton_self first
  | cons second rest ih =>
    have hsooner : Progress.sooner first second = first ∨
        Progress.sooner first second = second := by
      unfold Progress.sooner
      split
      · exact .inr rfl
      · exact .inl rfl
    have hmem := ih (Progress.sooner first second)
    rw [List.foldl_cons]
    rcases List.mem_cons.1 hmem with heq | hrest
    · rw [heq]
      rcases hsooner with hfirst | hsecond
      · simp [hfirst]
      · simp [hsecond]
    · exact List.mem_cons_of_mem _ (List.mem_cons_of_mem _ hrest)

/-- The read that wakes first is one that pauses. -/
theorem pausing_of_next {reads : List (Progress Record)} {sleeper : Sleeper Record}
    (h : Progress.next? reads = some sleeper) :
    reads[sleeper.position]? = some (.pausing sleeper.read sleeper.wake) := by
  unfold Progress.next? at h
  split at h
  · cases h
  · rename_i first others hsleepers
    obtain rfl := Option.some.inj h
    exact pausing_of_mem_sleepers (hsleepers ▸ foldl_sooner_mem first others)

/-- When no read pauses, all are over. -/
theorem ended_of_next {reads : List (Progress Record)} (h : Progress.next? reads = none) :
    reads.map Reading.ofProgress = (reads.map Progress.records).map .ended := by
  have hnone : Progress.sleepers reads = [] := by
    unfold Progress.next? at h
    split at h
    · assumption
    · cases h
  rw [Progress.sleepers, List.filterMap_eq_nil_iff] at hnone
  rw [List.map_map]
  refine List.map_congr_left fun progress hprogress => ?_
  obtain ⟨position, hposition⟩ := List.getElem?_of_mem hprogress
  have hover := hnone (progress, position) (List.mk_mem_zipIdx_iff_getElem?.2 hposition)
  cases progress with
  | pausing read wake => cases hover
  | ended records => rfl

/-- The splits that take turns until they are over have read what the roster tells. -/
theorem Tells.leaves_finish {reads : List (Progress Record)}
    (h : roster.Tells exchange count writing (reads.map .ofProgress) s.env) (chance : Nat → Nat)
    (polls budget : Nat) :
    Leaves (Progress.finish (World.endpoint exchange.site) chance polls budget reads) s
      (fun splits s' => ∃ later : Roster,
        later.Tells exchange count writing (splits.map .ended) s'.env)
      (fun _ _ => True) (fun _ => True) := by
  induction budget generalizing roster reads s with
  | zero => trivial
  | succ budget ih =>
    unfold Progress.finish
    split
    · rename_i hnone
      refine ⟨roster, ?_⟩
      rw [← ended_of_next hnone]
      exact h
    · rename_i sleeper hsleeper
      have hpausing : (reads.map Reading.ofProgress)[sleeper.position]? =
          some (.underway sleeper.read) := by
        rw [List.getElem?_map, pausing_of_next hsleeper]
        rfl
      simp only [leaves_bind, Scene.leaves_clock, Scene.leaves_pause]
      refine (Tells.leaves_turn (h.of_hosts (h.hosts.pass _)) hpausing (.inr rfl) _ _).mono_done ?_
      rintro progress s' ⟨later, hlater⟩
      rw [← List.map_set] at hlater
      exact ih hlater

end

/-! ## Whole runs -/

/-- A loopback that begins with what the empty roster tells ends with what a roster tells. -/
theorem Tells.leaves_exchange {s : Scene Unit World} {configuration : Configuration}
    {factory : ConnectionFactory} {config : WriteConfig String}
    {bounded : List (BoundedReader Record)}
    (h : roster.Tells exchange configuration.count (.waiting config) (bounded.map .waiting) s.env)
    (hsite : factory.site = exchange.site)
    (hread : readers factory configuration.read = .ok bounded)
    (hwrite : writeConfig factory configuration.write = .ok config) (chance : Nat → Nat) :
    Leaves (Loopback.exchange factory chance configuration) s
      (fun report s' => ∃ later : Roster, later.Tells exchange configuration.count
        (.ended report.summary report.failed) (report.splits.map .ended) s'.env)
      (fun _ _ => True) (fun _ => True) := by
  simp only [Loopback.exchange, leaves_bind, leaves_attempt, subscribe, hread, leaves_ofExcept,
    hsite]
  refine (Tells.leaves_beginAll [] bounded h _ _).mono ?_ ?_ (fun _ => id)
  · rintro reads begun ⟨later, hlater⟩
    refine (hlater.leaves_write hsite hwrite).mono_done ?_
    rintro ⟨summary, failed⟩ written ⟨last, hlast⟩
    simp only [readBack, leaves_mapError, hsite]
    exact hlast.leaves_finish _ _ _
  · intro error s' _
    exact .of_forall (fun _ _ => trivial) (fun _ _ => trivial) fun _ => trivial

end Roster

/-- A loopback whose readers or whose writer cannot be configured does not end with a report. -/
theorem leaves_exchange_of_error {s : Scene Unit World} {configuration : Configuration}
    {factory : ConnectionFactory} {failure : Failure}
    (h : readers factory configuration.read = .error failure ∨
      writeConfig factory configuration.write = .error failure) (chance : Nat → Nat) :
    Leaves (exchange factory chance configuration) s (fun _ _ => False) (fun _ _ => True)
      (fun _ => True) := by
  rw [exchange, leaves_bind, leaves_attempt]
  rcases h with hread | hwrite
  · simp only [subscribe, hread, leaves_bind, leaves_ofExcept]
    exact .of_forall (fun _ _ => trivial) (fun _ _ => trivial) fun _ => trivial
  · have hfails : ∀ {next : WriteSummary × List String → Stage Report} (s : Scene Unit World),
        Leaves (write factory configuration >>= next) s (fun _ _ => False) (fun _ _ => True)
          (fun _ => True) := by
      intro next s
      simp only [write, leaves_bind, leaves_ofExcept]
      rw [← writeConfig, hwrite]
      trivial
    exact .of_forall (fun _ s' => hfails s') (fun _ s' => hfails s') fun _ => trivial

/-- A run that ends with a report ends with what a roster tells. -/
theorem isTold_run {configuration : Configuration} {timeOfDay : Int64} {chance : Nat → Nat}
    {report : Report} (h : run timeOfDay chance configuration = .done report) :
    report.IsTold configuration := by
  have hsite : (World.addBroker { timeOfDay := timeOfDay }
      { credentials := configuration.broker }).1 = 0 := rfl
  simp only [run, hsite] at h
  cases hread : readers ⟨0, "Broker"⟩ configuration.read with
  | error failure => exact ((leaves_exchange_of_error (.inl hread) chance).of_done h).elim
  | ok bounded =>
    cases hwrite : writeConfig ⟨0, "Broker"⟩ configuration.write with
    | error failure => exact ((leaves_exchange_of_error (.inr hwrite) chance).of_done h).elim
    | ok config =>
      obtain ⟨exchange, hsuits, htells⟩ :=
        Roster.exists_tells_empty hread hwrite configuration.count timeOfDay
      obtain ⟨later, hlater⟩ :=
        (Roster.Tells.leaves_exchange htells hsuits.site.symm hread hwrite chance).of_done h
      exact ⟨exchange, hsuits, later, _, hlater⟩

end BrokerConnector.Loopback
