import BrokerConnector.Proofs.Loopback.Run

/-!
# What a loopback reports

The report of a loopback tells the truth (`Report.Faithful`): everything was sent, and what was read
back are records of different numbers. No record is read twice, by one split or by two, and each
split reads them in the order in which they were sent. How many are read depends on the schedule,
and is told as it is.

This holds however the loopback comes to its end (`EndsWith`).
-/

namespace BrokerConnector.Loopback

open Crew

namespace Report

/-- The last line of a report: `count` records were sent, none failed, and `read` were read. -/
def summaryText (count read : Nat) : String :=
  "sent " ++ toString count ++ " records, 0 failed, read " ++ toString read ++ " records"

/-- What a report tells of a loopback is right. -/
structure Faithful (report : Report) (configuration : Configuration) : Prop where
  /-- Every record was sent. -/
  sent : report.summary = { sent := configuration.count, failed := 0 } ∧ report.failed = []
  /-- The records are those of different numbers, and each split has them in order. -/
  numbered : ∃ numbers : List (List Nat),
    List.Forall₂ (List.Forall₂ Roster.IsRecord) numbers report.splits ∧
      (∀ ofSplit ∈ numbers, ofSplit.Pairwise (· < ·)) ∧ numbers.flatten.Nodup ∧
        ∀ number ∈ numbers.flatten, number < configuration.count
  distinct : (report.splits.flatten.map (·.value.messageId)).Nodup ∧
    (report.splits.flatten.map (·.value.payload)).Nodup
  written : ∀ record ∈ report.splits.flatten,
    record.value.payload ∈ payloads configuration.count
  /-- As many records are told to be read as there are. -/
  counted : report.splits.flatten.length ≤ configuration.count ∧
    ∀ stamp, (report.lines stamp).getLast? =
      some (summaryText configuration.count report.splits.flatten.length)
  /-- A topic has one split, and a queue as many as are asked for. -/
  splits : report.splits.length =
    if configuration.read.topic.isSome then 1 else max configuration.read.desiredSplits.toNat 1
  /-- The records of a split are told in order, and behind them its watermark, which is the least
  of their timestamps. -/
  watermarks : ∀ stamp split records, report.splits[split]? = some records →
    records.map (recordLine stamp split) ++ [splitLine stamp split records] <:+:
        report.lines stamp ∧
      ((records = [] ∧ splitLine stamp split records =
          "split " ++ toString split ++ ": no records") ∨
        ∃ watermark, watermark ∈ records.map (·.timestamp) ∧
          (∀ record ∈ records, watermark ≤ record.timestamp) ∧
            splitLine stamp split records = "split " ++ toString split ++ ": " ++
              toString records.length ++ " records, low watermark " ++ stamp watermark)
  /-- Nothing is read from elsewhere. -/
  apart : configuration.read.queue ≠ configuration.write.queue ∨
    configuration.read.topic ≠ configuration.write.topic → report.splits.flatten = []

end Report

/-- A loopback can end with a report: in a run, or after its parts had turns in any order. -/
inductive EndsWith (configuration : Configuration) (report : Report) : Prop
  | run (timeOfDay : Int64) (chance : Nat → Nat)
      (ended : run timeOfDay chance configuration = .done report)
  | course (timeOfDay : Int64) (course : Course) (moves : List Move)
      (opened : Course.opening timeOfDay configuration = .ok course)
      (ended : (course.run moves).report? = some report)

/-- A loopback that ends with a report ends with what a roster tells. -/
theorem EndsWith.isTold {configuration : Configuration} {report : Report}
    (h : EndsWith configuration report) : report.IsTold configuration := by
  cases h with
  | run timeOfDay chance ended => exact isTold_run ended
  | course timeOfDay course moves opened ended => exact Course.isTold_report opened ended

/-! ## Records of different numbers -/

/-- Every number gives another text. -/
theorem payload_injective :
    Function.Injective fun number : Nat => "record-" ++ toString number := by
  intro first second h
  have hdigits : toString first = toString second := (String.append_right_inj _).1 h
  refine Broker.messageIdOf_injective ?_
  simp only [Broker.messageIdOf, hdigits]

/-- Every number gives another identifier. -/
theorem identifier_injective :
    Function.Injective fun number : Nat => (Broker.messageIdOf (number + 1)).text := by
  intro first second h
  have hid : Broker.messageIdOf (first + 1) = Broker.messageIdOf (second + 1) :=
    congrArg MessageId.mk h
  exact Nat.succ_injective (Broker.messageIdOf_injective hid)

/-- The records of numbers have their identifiers and their texts. -/
theorem map_of_isRecord {numbers : List Nat} {records : List (Timestamped Record)}
    (h : List.Forall₂ Roster.IsRecord numbers records) :
    records.map (·.value.messageId) =
        numbers.map (fun number => (Broker.messageIdOf (number + 1)).text) ∧
      records.map (·.value.payload) = numbers.map (fun number => "record-" ++ toString number) := by
  induction h with
  | nil => exact ⟨rfl, rfl⟩
  | cons hrecord _ ih => simp [hrecord.id, hrecord.payload, ih.1, ih.2]

/-- What splits took is all different, when everything that was taken is. -/
theorem nodup_flatMap_own {taken : List (Nat × Nat)} (h : (taken.map (·.2)).Nodup) (splits : Nat) :
    ((List.range splits).flatMap (own · taken)).Nodup := by
  rw [List.nodup_flatMap]
  refine ⟨fun index _ => (own_sublist index taken).nodup h, ?_⟩
  refine List.nodup_range.imp_of_mem fun {first second} _ _ hne => ?_
  intro number hfirst hsecond
  have heq := List.inj_on_of_nodup_map h (mem_own.1 hfirst) (mem_own.1 hsecond) rfl
  exact hne (congrArg Prod.fst heq)

/-! ## Watermarks -/

/-- The watermark that is told of records is the least of their timestamps. -/
theorem splitLine_eq (stamp : Int64 → String) (split : Nat) (records : List (Timestamped Record)) :
    (records = [] ∧ Report.splitLine stamp split records =
        "split " ++ toString split ++ ": no records") ∨
      ∃ watermark, watermark ∈ records.map (·.timestamp) ∧
        (∀ record ∈ records, watermark ≤ record.timestamp) ∧
          Report.splitLine stamp split records = "split " ++ toString split ++ ": " ++
            toString records.length ++ " records, low watermark " ++ stamp watermark := by
  unfold Report.splitLine
  cases hmin : (records.map (·.timestamp)).min? with
  | none =>
    rw [List.min?_eq_none_iff, List.map_eq_nil_iff] at hmin
    exact .inl ⟨hmin, rfl⟩
  | some watermark =>
    obtain ⟨hmem, hleast⟩ := List.min?_eq_some_iff.1 hmin
    exact .inr ⟨watermark, hmem, fun record hrecord => hleast _ (List.mem_map_of_mem hrecord), rfl⟩

/-! ## Reports -/

/-- Among the lines of a report are those of each split, together. -/
theorem Report.lines_of_split {report : Report} (stamp : Int64 → String) {split : Nat}
    {records : List (Timestamped Record)} (h : report.splits[split]? = some records) :
    records.map (recordLine stamp split) ++ [splitLine stamp split records] <:+:
      report.lines stamp := by
  have hmem : (records, split) ∈ report.splits.zipIdx := List.mk_mem_zipIdx_iff_getElem?.2 h
  obtain ⟨front, back, hsplits⟩ := List.append_of_mem hmem
  refine List.IsInfix.trans ?_ (List.prefix_append _ _).isInfix
  rw [hsplits, List.flatMap_append, List.flatMap_cons, ← List.append_assoc]
  exact ⟨_, _, rfl⟩

/-- The last line of a report of which everything was sent. -/
theorem Report.summaryLine_eq {report : Report} {count : Nat}
    (h : report.summary = { sent := count, failed := 0 }) :
    report.summaryLine = summaryText count report.splits.flatten.length := by
  have hnone : " records, 0 failed, read " = " records, " ++ toString 0 ++ " failed, read " := by
    decide
  rw [summaryLine, summaryText, readCount, h, hnone]
  simp only [String.append_assoc]

/-- The queue and the topic that settings name for a destination. -/
def named : Destination → Option String × Option String
  | .queue name => (some name, none)
  | .topic name => (none, some name)

namespace Exchange.Suits

variable {exchange : Exchange} {configuration : Configuration}

/-- The settings of a read name where the exchange reads. -/
theorem read_named (h : exchange.Suits configuration) :
    (configuration.read.queue, configuration.read.topic) = named exchange.read := by
  have hread := h.read
  generalize configuration.read.queue = queue, configuration.read.topic = topic,
    exchange.read = destination at hread ⊢
  cases queue <;> cases topic <;> cases hread <;> rfl

/-- The settings of a write name where the exchange writes. -/
theorem write_named (h : exchange.Suits configuration) :
    (configuration.write.queue, configuration.write.topic) = named exchange.write := by
  have hwrite := h.write
  generalize configuration.write.queue = queue, configuration.write.topic = topic,
    exchange.write = destination at hwrite ⊢
  cases queue <;> cases topic <;> cases hwrite <;> rfl

/-- An exchange that writes to where it reads from was asked for by the same names. -/
theorem named_alike (h : exchange.Suits configuration) (hsame : exchange.write = exchange.read) :
    configuration.read.queue = configuration.write.queue ∧
      configuration.read.topic = configuration.write.topic := by
  refine Prod.mk.inj (h.read_named.trans ?_)
  rw [h.write_named, hsame]

/-- The splits of a read are one for a topic, and for a queue as many as are asked for. -/
theorem splitCount (h : exchange.Suits configuration) :
    exchange.read.splitCount exchange.desired =
      if configuration.read.topic.isSome then 1
      else max configuration.read.desiredSplits.toNat 1 := by
  have htopic : configuration.read.topic = (named exchange.read).2 :=
    congrArg Prod.snd h.read_named
  rw [h.desired, htopic]
  cases exchange.read <;> rfl

end Exchange.Suits

/-- What is taken at an exchange are numbers of records in order, and none of them if it writes to
elsewhere. -/
theorem Roster.Valid.taken_sublist {exchange : Exchange} {roster : Roster}
    (h : roster.Valid exchange) :
    (roster.taken.map (·.2)).Sublist (List.range roster.broker.messageCount) ∧
      (exchange.write ≠ exchange.read → roster.taken = []) := by
  obtain ⟨_, -, hsublist⟩ := h.supplied
  have htaken := (List.sublist_append_left _ _).trans hsublist
  by_cases hsame : exchange.write = exchange.read
  · rw [Exchange.offered, if_pos hsame] at htaken
    exact ⟨htaken, fun hne => (hne hsame).elim⟩
  · rw [Exchange.offered, if_neg hsame] at htaken
    have hnone : roster.taken = [] := List.map_eq_nil_iff.1 (List.sublist_nil.1 htaken)
    exact ⟨by simp [hnone], fun _ => hnone⟩

/-- What a roster tells is the truth. -/
theorem Report.IsTold.faithful {configuration : Configuration} {report : Report}
    (h : report.IsTold configuration) : report.Faithful configuration := by
  obtain ⟨exchange, hsuits, roster, world, htells⟩ := h
  obtain ⟨hsummary, hfailed, hcount⟩ := htells.wrote
  obtain ⟨htaken, hapart⟩ := htells.valid.taken_sublist
  rw [hcount] at htaken
  -- The numbers that each split took are those of its records.
  let numbers := (List.range report.splits.length).map (own · roster.taken)
  have hnumbers : List.Forall₂ (List.Forall₂ Roster.IsRecord) numbers report.splits := by
    refine List.forall₂_iff_get.2 ⟨by simp [numbers], fun split _ hsplit => ?_⟩
    have hread : List.Forall₂ Roster.IsRecord (own split roster.taken) report.splits[split] :=
      htells.read split (.ended report.splits[split]) (by simp [hsplit])
    simpa [numbers] using hread
  have hown : ∀ ofSplit ∈ numbers, ofSplit.Sublist (List.range configuration.count) := by
    intro ofSplit hofSplit
    obtain ⟨split, -, rfl⟩ := List.mem_map.1 hofSplit
    exact (own_sublist split roster.taken).trans htaken
  have hnodup : numbers.flatten.Nodup :=
    nodup_flatMap_own (htaken.nodup List.nodup_range) report.splits.length
  have hbound : ∀ number ∈ numbers.flatten, number < configuration.count := by
    intro number hnumber
    obtain ⟨ofSplit, hofSplit, hmem⟩ := List.mem_flatten.1 hnumber
    exact List.mem_range.1 ((hown ofSplit hofSplit).subset hmem)
  have hflat := List.rel_flatten hnumbers
  obtain ⟨hids, hpayloads⟩ := map_of_isRecord hflat
  have hread : report.splits.flatten.length ≤ configuration.count := by
    have hless := (List.subperm_of_subset hnodup fun number hnumber =>
      List.mem_range.2 (hbound number hnumber)).length_le
    rwa [List.length_range, hflat.length_eq] at hless
  exact {
    sent := ⟨hsummary, hfailed⟩
    numbered := ⟨numbers, hnumbers, fun ofSplit hofSplit =>
      List.pairwise_lt_range.sublist (hown ofSplit hofSplit), hnodup, hbound⟩
    distinct := by
      rw [hids, hpayloads]
      exact ⟨hnodup.map identifier_injective, hnodup.map payload_injective⟩
    written := by
      intro record hrecord
      have hmem := List.mem_map_of_mem (f := (·.value.payload)) hrecord
      rw [hpayloads] at hmem
      obtain ⟨number, hnumber, htext⟩ := List.mem_map.1 hmem
      rw [← htext]
      exact List.mem_map_of_mem (List.mem_range.2 (hbound number hnumber))
    counted := by
      refine ⟨hread, fun stamp => ?_⟩
      rw [lines, List.getLast?_concat, summaryLine_eq hsummary]
    splits := by
      rw [← hsuits.splitCount, ← htells.splits, List.length_map]
    watermarks := fun stamp split records hrecords =>
      ⟨lines_of_split stamp hrecords, splitLine_eq stamp split records⟩
    apart := by
      intro hnamed
      have hnone := hapart fun hsame => by
        obtain ⟨hqueue, htopic⟩ := hsuits.named_alike hsame
        exact hnamed.elim (· hqueue) (· htopic)
      have hempty : numbers.flatten = [] := by simp [numbers, hnone, own]
      rw [hempty] at hflat
      exact List.forall₂_nil_left_iff.1 hflat }

/-- However a loopback ends with a report, for whatever file and number of records, the report is
right. -/
theorem faithful_of_endsWith {path content : String} {count : Option Nat}
    {configuration : Configuration} {report : Report}
    (hload : load path (some content) count = .ok configuration)
    (hends : EndsWith configuration report) :
    ∃ file, Configuration.ofFile content = .ok file ∧
      configuration = { file with count := count.getD file.count } ∧
        report.Faithful configuration := by
  have hfaithful := hends.isTold.faithful
  unfold load at hload
  cases hfile : Configuration.ofFile content with
  | error fault => cases fault <;> simp [hfile] at hload
  | ok file =>
    simp only [hfile] at hload
    exact ⟨file, rfl, (Except.ok.inj hload).symm, hfaithful⟩

/-- The file of a loopback with two splits, of which each takes at most two records. -/
def twoSplits : String :=
  "write:\n  queue: orders\nread:\n  queue: orders\n  desired_splits: 2\n" ++
    "  max_num_records: 2\n  max_read_time_ms: 300\n"

/-- Turns in which the splits take records while the writer sends them. -/
def crossedMoves : List Move :=
  [.read 0 0, .write, .write, .read 1 0, .write, .read 0 0, .setTime 990, .write, .read 0 7, .write,
    .pass 300, .read 1 0]

/-- The second split reads the first record here, and the first split the others, of which the last
has the lowest timestamp. -/
theorem faithful_crossedMoves :
    ∃ configuration course report,
      load "loopback.yml" (some twoSplits) (some 3) = .ok configuration ∧
        Course.opening 1000 configuration = .ok course ∧
          (course.run crossedMoves).report? = some report ∧
            report.lines toString =
              ["split=0 id=ID:danube-mq-2 timestamp=1000 payload=record-1",
                "split=0 id=ID:danube-mq-3 timestamp=990 payload=record-2",
                "split 0: 2 records, low watermark 990",
                "split=1 id=ID:danube-mq-1 timestamp=1000 payload=record-0",
                "split 1: 1 records, low watermark 1000",
                "sent 3 records, 0 failed, read 3 records"] ∧
              report.Faithful configuration := by
  have hlines : ((load "loopback.yml" (some twoSplits) (some 3)).toOption.bind
      fun configuration => (Course.opening 1000 configuration).toOption.bind
        fun course => (course.run crossedMoves).report?.map (·.lines toString)) = some
          ["split=0 id=ID:danube-mq-2 timestamp=1000 payload=record-1",
            "split=0 id=ID:danube-mq-3 timestamp=990 payload=record-2",
            "split 0: 2 records, low watermark 990",
            "split=1 id=ID:danube-mq-1 timestamp=1000 payload=record-0",
            "split 1: 1 records, low watermark 1000",
            "sent 3 records, 0 failed, read 3 records"] := by
    decide +kernel
  cases hload : load "loopback.yml" (some twoSplits) (some 3) with
  | error failure => rw [hload] at hlines; cases hlines
  | ok configuration =>
    cases hopening : Course.opening 1000 configuration with
    | error failure => simp [hload, hopening, Except.toOption] at hlines
    | ok course =>
      simp only [hload, hopening, Except.toOption, Option.bind_some, Option.map_eq_some_iff]
        at hlines
      obtain ⟨report, hreport, hlines⟩ := hlines
      obtain ⟨_, _, _, hfaithful⟩ :=
        faithful_of_endsWith hload (.course 1000 course crossedMoves hopening hreport)
      exact ⟨configuration, course, report, rfl, hopening, hreport, hlines, hfaithful⟩

/-- In a run without any choices of chance the splits share the records as well. -/
example : ((load "loopback.yml" (some twoSplits) (some 3)).toOption.map fun configuration =>
    match run 1000 (fun _ => 0) configuration with
    | .done report => report.splits.map List.length
    | _ => []) = some [2, 1] := by
  decide +kernel

end BrokerConnector.Loopback
