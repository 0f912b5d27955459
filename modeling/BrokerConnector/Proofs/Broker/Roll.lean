import BrokerConnector.Proofs.Broker.Redelivery
import Mathlib.Logic.Function.Basic

/-!
# The roll of a queue

A message that goes back to its queue passes the messages that wait there, so what leaves a queue is
not in the order in which it was accepted. But no message passes a fresh one, that is one that never
left the queue: what waits is what came back, and behind it what is fresh, in order.

Messages may share an identifier, or be equal altogether, so a message is told from the others by
its `Ticket`, the number under which it was accepted. A `Roll` is a list of the tickets of one queue
that is kept beside the broker: it moves the ticket of a message whenever the broker moves the
message (`Roll.follow`). Everything that can happen to a ticket keeps the roll `InTurn`.
-/

namespace BrokerConnector

/-! ## Tickets -/

/-- A message of a queue, with its number among those that were accepted for the queue. -/
structure Ticket where
  number : Nat
  message : Message
  deriving DecidableEq

/-- The ticket of a message that is put back. -/
def Ticket.flagged (ticket : Ticket) : Ticket :=
  { ticket with message := { ticket.message with redelivered := true } }

/-- How a ticket leaves its queue. -/
inductive Exit where
  /-- A consumer of a session, by its position, received it. -/
  | received (session : Nat) (mode : AcknowledgeMode) (ticket : Ticket)
  /-- A receive found it expired. -/
  | discarded (ticket : Ticket)
  deriving DecidableEq

namespace Exit

/-- The ticket that leaves. -/
def ticket : Exit → Ticket
  | received _ _ ticket => ticket
  | discarded ticket => ticket

/-- The departure of the message of a ticket. -/
def departure (name : String) : Exit → Departure
  | received session mode ticket => .received session mode (.queue name) ticket.message
  | discarded ticket => .discarded (.queue name) ticket.message

/-- The numbers of the tickets that leave. -/
def numbers (exits : List Exit) : List Nat :=
  exits.map (·.ticket.number)

/-- The exits of tickets that did not leave before. -/
def firsts : List Exit → List Exit
  | [] => []
  | exit :: later => exit :: (firsts later).filter (·.ticket.number ≠ exit.ticket.number)

/-- A ticket leaves for the first time if it leaves at all. -/
theorem mem_numbers_firsts {number : Nat} (exits : List Exit) :
    number ∈ numbers (firsts exits) ↔ number ∈ numbers exits := by
  induction exits with
  | nil => rfl
  | cons exit later ih =>
    by_cases he : exit.ticket.number = number
    · simp [numbers, firsts, he]
    · have hkept : number ∈ numbers ((firsts later).filter
          (·.ticket.number ≠ exit.ticket.number)) ↔ number ∈ numbers (firsts later) := by
        simp only [numbers, List.mem_map, List.mem_filter, decide_eq_true_eq]
        constructor
        · rintro ⟨other, ⟨hother, -⟩, hnumber⟩
          exact ⟨other, hother, hnumber⟩
        · rintro ⟨other, hother, rfl⟩
          exact ⟨other, ⟨hother, Ne.symm he⟩, rfl⟩
      change number ∈ exit.ticket.number :: numbers _ ↔ number ∈ exit.ticket.number :: numbers later
      rw [List.mem_cons, List.mem_cons, hkept, ih]

/-- An exit is a first one unless the ticket left before. -/
theorem firsts_concat (exits : List Exit) (exit : Exit) :
    firsts (exits ++ [exit]) =
      firsts exits ++ if exit.ticket.number ∈ numbers exits then [] else [exit] := by
  induction exits with
  | nil => rfl
  | cons first later ih =>
    rw [List.cons_append, firsts, ih, List.filter_append, firsts, List.cons_append]
    congr 2
    by_cases he : exit.ticket.number = first.ticket.number
    · have hmem : exit.ticket.number ∈ numbers (first :: later) := he ▸ List.mem_cons_self
      rw [if_pos hmem]
      split
      · rfl
      · simp [he]
    · have hiff : exit.ticket.number ∈ numbers (first :: later) ↔
          exit.ticket.number ∈ numbers later := by
        simp [numbers, he]
      simp only [hiff]
      split
      · rfl
      · simp [he]

end Exit

/-! ## The roll -/

/-- What becomes of the tickets of a queue. -/
structure Roll where
  /-- The tickets that were given out, in order. -/
  accepted : List Ticket := []
  waiting : List Ticket := []
  /-- What each session, by its position, holds, in the order of delivery. -/
  held : Nat → List Ticket := fun _ => []
  /-- How tickets left the queue, in order. -/
  exits : List Exit := []
  /-- What was put back, in order, with the session that had held it. -/
  returned : List (Nat × Ticket) := []

namespace Roll

/-- A message is accepted under the next number. -/
def accept (roll : Roll) (message : Message) : Roll :=
  let ticket : Ticket := ⟨roll.accepted.length, message⟩
  { roll with accepted := roll.accepted ++ [ticket], waiting := roll.waiting ++ [ticket] }

/-- A message is accepted, if it is one for the queue. -/
def enter (name : String) (roll : Roll) : Option (Destination × Message) → Roll
  | some (destination, message) =>
    if destination = .queue name then roll.accept message else roll
  | none => roll

/-- A session lets go of what it holds under an identifier. -/
def release (roll : Roll) (session : Nat) (id : Option MessageId) : Roll :=
  { roll with
    held :=
      Function.update roll.held session ((roll.held session).filter (·.message.id ≠ id)) }

/-- A session holds a ticket, in place of what it held under the identifier. -/
def hold (roll : Roll) (session : Nat) (ticket : Ticket) : Roll :=
  { roll with
    held := Function.update roll.held session
      ((roll.held session).filter (·.message.id ≠ ticket.message.id) ++ [ticket]) }

/-- The first ticket leaves the queue. -/
def leave (roll : Roll) (rest : List Ticket) (exit : Exit) : Roll :=
  { roll with waiting := rest, exits := roll.exits ++ [exit] }

/-- The first ticket is discarded. -/
def discard (roll : Roll) : Roll :=
  match roll.waiting with
  | [] => roll
  | first :: rest => roll.leave rest (.discarded first)

/-- The first ticket goes to a session, which holds it if it is in client mode. -/
def receive (roll : Roll) (session : Nat) (mode : AcknowledgeMode) : Roll :=
  match roll.waiting with
  | [] => roll
  | first :: rest =>
    let roll := roll.leave rest (.received session mode first)
    if mode = .client ∧ first.message.id.isSome then roll.hold session first else roll

/-- A message departs. What a session receives from elsewhere takes the place of what it held under
the same identifier. -/
def depart (name : String) (roll : Roll) : Departure → Roll
  | .discarded destination _ => if destination = .queue name then roll.discard else roll
  | .received session mode destination message =>
    if destination = .queue name then roll.receive session mode
    else if mode = .client ∧ message.id.isSome then roll.release session message.id
    else roll

/-- What a session holds is put back in front of the queue. -/
def putBack (roll : Roll) (session : Nat) : Roll :=
  { roll with
    waiting := (roll.held session).map Ticket.flagged ++ roll.waiting
    held := Function.update roll.held session []
    returned := roll.returned ++ (roll.held session).map (session, ·) }

/-- The roll of a queue after an operation of the broker. -/
def follow (name : String) (broker : Broker) (now : Int64) (roll : Roll) : Operation → Roll
  | .request (.acknowledge session id) =>
    match (broker.acknowledge session id).1 with
    | .ok () => roll.release session.index (some id)
    | .error _ => roll
  | .request (.closeSession session) =>
    match (broker.closeSession session).1 with
    | .ok () => roll.putBack session.index
    | .error _ => roll
  | operation =>
    ((broker.departures now operation).foldl (depart name) roll).enter name
      ((broker.submission? now operation).map (·.entry))

/-- The roll of a queue after operations in order. -/
def followAll (name : String) (broker : Broker) (roll : Roll) : List (Int64 × Operation) → Roll
  | [] => roll
  | (now, operation) :: rest =>
    (roll.follow name broker now operation).followAll name (broker.operate now operation) rest

/-- The roll of a queue since the broker was opened. -/
def after (name : String) (credentials : Option Credentials)
    (operations : List (Int64 × Operation)) : Roll :=
  followAll name { credentials := credentials } {} operations

theorem followAll_append (name : String) (broker : Broker) (roll : Roll)
    (first second : List (Int64 × Operation)) :
    roll.followAll name broker (first ++ second) =
      (roll.followAll name broker first).followAll name (broker.operateAll first) second := by
  induction first generalizing broker roll with
  | nil => rfl
  | cons entry rest ih => exact ih _ _

/-- The last operation of a run is followed last. -/
theorem after_concat (name : String) (credentials : Option Credentials)
    (operations : List (Int64 × Operation)) (now : Int64) (operation : Operation) :
    after name credentials (operations ++ [(now, operation)]) =
      (after name credentials operations).follow name (.after credentials operations) now
        operation :=
  followAll_append _ _ _ _ _

/-! ## The order of tickets -/

/-- A ticket that a session in client mode received and put back. -/
def Returned (roll : Roll) (ticket : Ticket) : Prop :=
  ∃ session original, .received session .client original ∈ roll.exits ∧
    (session, original) ∈ roll.returned ∧ ticket = original.flagged

/-- What waits came back or is fresh, and no fresh ticket was passed by another one. -/
structure InTurn (roll : Roll) (back fresh : List Ticket) : Prop where
  waiting : roll.waiting = back ++ fresh
  back : ∀ ticket ∈ back, roll.Returned ticket
  /-- The tickets left in the order in which they were given out, up to the fresh ones. -/
  accepted : roll.accepted = (Exit.firsts roll.exits).map (·.ticket) ++ fresh
  numbered : roll.accepted.map (·.number) = List.range roll.accepted.length
  held : ∀ session, ∀ ticket ∈ roll.held session, .received session .client ticket ∈ roll.exits

variable {roll : Roll} {back fresh : List Ticket} {first : Ticket} {rest : List Ticket}

/-- A ticket that came back left before. -/
theorem Returned.mem_numbers {ticket : Ticket} (h : roll.Returned ticket) :
    ticket.number ∈ Exit.numbers roll.exits := by
  obtain ⟨session, original, hexit, -, rfl⟩ := h
  exact List.mem_map.2 ⟨_, hexit, rfl⟩

/-- A ticket that came back did so whatever happens later. -/
theorem Returned.mono {later : Roll} {ticket : Ticket} (h : roll.Returned ticket)
    (exits : roll.exits ⊆ later.exits) (returned : roll.returned ⊆ later.returned) :
    later.Returned ticket := by
  obtain ⟨session, original, hexit, hback, rfl⟩ := h
  exact ⟨session, original, exits hexit, returned hback, rfl⟩

/-- No fresh ticket left. -/
theorem InTurn.not_mem_numbers (h : roll.InTurn back fresh) {ticket : Ticket}
    (hfresh : ticket ∈ fresh) : ticket.number ∉ Exit.numbers roll.exits := by
  intro hleft
  -- No number is given out twice, and `accepted` lists the first exits before the fresh tickets.
  have hnodup : (roll.accepted.map (·.number)).Nodup := h.numbered ▸ List.nodup_range
  rw [h.accepted, List.map_append, List.map_map] at hnodup
  exact (List.nodup_append.1 hnodup).2.2 _ ((Exit.mem_numbers_firsts _).2 hleft) _
    (List.mem_map_of_mem hfresh) rfl

/-- An accepted message is the last fresh one. -/
theorem InTurn.accept (h : roll.InTurn back fresh) (message : Message) :
    (roll.accept message).InTurn back (fresh ++ [⟨roll.accepted.length, message⟩]) where
  waiting := by
    change roll.waiting ++ _ = _
    rw [h.waiting, List.append_assoc]
  back := fun ticket hticket =>
    (h.back ticket hticket).mono (List.Subset.refl _) (List.Subset.refl _)
  accepted := by
    change roll.accepted ++ _ = _
    rw [h.accepted, List.append_assoc]
    rfl
  numbered := by
    change (roll.accepted ++ [_]).map _ = List.range (roll.accepted ++ [_]).length
    rw [List.map_append, h.numbered, List.length_append, List.length_singleton, List.range_succ]
    rfl
  held := h.held

/-- A session may hold any tickets that it received. -/
theorem InTurn.keep (h : roll.InTurn back fresh) (session : Nat) {tickets : List Ticket}
    (hreceived : ∀ ticket ∈ tickets, .received session .client ticket ∈ roll.exits) :
    InTurn { roll with held := Function.update roll.held session tickets } back fresh where
  waiting := h.waiting
  back := h.back
  accepted := h.accepted
  numbered := h.numbered
  held := by
    intro other ticket hticket
    by_cases ho : other = session
    · subst ho
      change ticket ∈ Function.update roll.held other tickets other at hticket
      rw [Function.update_self] at hticket
      exact hreceived ticket hticket
    · change ticket ∈ Function.update roll.held session tickets other at hticket
      rw [Function.update_of_ne ho] at hticket
      exact h.held other ticket hticket

/-- A session may hold less. -/
theorem InTurn.lessen (h : roll.InTurn back fresh) (session : Nat) {tickets : List Ticket}
    (hsub : tickets ⊆ roll.held session) :
    InTurn { roll with held := Function.update roll.held session tickets } back fresh :=
  h.keep session fun ticket hticket => h.held session ticket (hsub hticket)

/-- A session that received a ticket may hold it. -/
theorem InTurn.hold (h : roll.InTurn back fresh) {session : Nat}
    (hexit : .received session .client first ∈ roll.exits) :
    (roll.hold session first).InTurn back fresh := by
  refine h.keep session fun ticket hticket => ?_
  rcases List.mem_append.1 hticket with hold | hnew
  · exact h.held session ticket (List.mem_filter.1 hold).1
  · obtain rfl := List.mem_singleton.1 hnew
    exact hexit

/-- The first ticket leaves: one that came back if there is any, or else the first fresh one. -/
theorem InTurn.leave (h : roll.InTurn back fresh) (hwaiting : roll.waiting = first :: rest)
    {exit : Exit} (hexit : exit.ticket = first) :
    ∃ back' fresh', (roll.leave rest exit).InTurn back' fresh' := by
  have hexits : roll.exits ⊆ roll.exits ++ [exit] := List.subset_append_left _ _
  have hheld : ∀ session, ∀ ticket ∈ roll.held session,
      .received session .client ticket ∈ roll.exits ++ [exit] :=
    fun session ticket hticket => hexits (h.held session ticket hticket)
  have hall := hwaiting.symm.trans h.waiting
  -- What came back stands in front: the first ticket is fresh only if nothing came back.
  cases back with
  | cons returned others =>
    obtain ⟨rfl, hrest⟩ := List.cons.inj hall
    have hleft := (h.back first List.mem_cons_self).mem_numbers
    refine ⟨others, fresh, hrest, fun ticket hticket => ?_, ?_, h.numbered, hheld⟩
    · exact (h.back ticket (List.mem_cons_of_mem _ hticket)).mono hexits (List.Subset.refl _)
    · change roll.accepted = (Exit.firsts (roll.exits ++ [exit])).map _ ++ fresh
      rw [Exit.firsts_concat, hexit, if_pos hleft, List.append_nil]
      exact h.accepted
  | nil =>
    obtain rfl : fresh = first :: rest := hall.symm
    have hnew := h.not_mem_numbers List.mem_cons_self
    refine ⟨[], rest, rfl, by simp, ?_, h.numbered, hheld⟩
    change roll.accepted = (Exit.firsts (roll.exits ++ [exit])).map _ ++ rest
    rw [Exit.firsts_concat, hexit, if_neg hnew, List.map_append, List.append_assoc, h.accepted]
    simp [hexit]

/-- Departures leave what waits in turn. -/
theorem InTurn.depart (h : roll.InTurn back fresh) (name : String) (departure : Departure) :
    ∃ back' fresh', (roll.depart name departure).InTurn back' fresh' := by
  cases departure with
  | discarded destination message =>
    simp only [Roll.depart, discard]
    split
    · split
      · exact ⟨back, fresh, h⟩
      · rename_i hwaiting
        exact h.leave hwaiting rfl
    · exact ⟨back, fresh, h⟩
  | received session mode destination message =>
    simp only [Roll.depart, receive]
    split
    · split
      · exact ⟨back, fresh, h⟩
      · rename_i first rest hwaiting
        have hticket : (Exit.received session mode first).ticket = first := rfl
        obtain ⟨back', fresh', hleft⟩ := h.leave hwaiting hticket
        split
        · rename_i hclient
          refine ⟨back', fresh', hleft.hold ?_⟩
          rw [← hclient.1]
          exact List.mem_append_right _ (List.mem_singleton_self _)
        · exact ⟨back', fresh', hleft⟩
    · split
      · exact ⟨back, fresh, h.lessen session (List.filter_subset_self _)⟩
      · exact ⟨back, fresh, h⟩

/-- What is put back comes before everything that waits. -/
theorem InTurn.putBack (h : roll.InTurn back fresh) (session : Nat) :
    (roll.putBack session).InTurn ((roll.held session).map Ticket.flagged ++ back) fresh where
  waiting := by
    change _ ++ roll.waiting = _
    rw [h.waiting, List.append_assoc]
  back := by
    intro ticket hticket
    rcases List.mem_append.1 hticket with hnew | hold
    · obtain ⟨original, horiginal, rfl⟩ := List.mem_map.1 hnew
      exact ⟨session, original, h.held session original horiginal,
        List.mem_append_right _ (List.mem_map_of_mem horiginal), rfl⟩
    · exact (h.back ticket hold).mono (List.Subset.refl _) (List.subset_append_left _ _)
  accepted := h.accepted
  numbered := h.numbered
  held := (h.lessen session (List.nil_subset _)).held

/-- Every operation leaves what waits in turn. -/
theorem InTurn.follow (h : roll.InTurn back fresh) (name : String) (broker : Broker) (now : Int64)
    (operation : Operation) :
    ∃ back' fresh', (roll.follow name broker now operation).InTurn back' fresh' := by
  -- An operation may take many messages off the queue, each from the roll that the last one left.
  have hdeparts : ∀ (departures : List Departure) {roll : Roll} {back fresh : List Ticket},
      roll.InTurn back fresh →
      ∃ back' fresh', (departures.foldl (Roll.depart name) roll).InTurn back' fresh' := by
    intro departures
    induction departures with
    | nil => exact fun h => ⟨_, _, h⟩
    | cons departure others ih =>
      intro roll back fresh h
      obtain ⟨back', fresh', hdeparted⟩ := h.depart name departure
      exact ih hdeparted
  unfold Roll.follow
  split
  · split
    · exact ⟨back, fresh, h.lessen _ (List.filter_subset_self _)⟩
    · exact ⟨back, fresh, h⟩
  · split
    · exact ⟨_, _, h.putBack _⟩
    · exact ⟨back, fresh, h⟩
  · obtain ⟨back', fresh', hdeparted⟩ := hdeparts (broker.departures now operation) h
    unfold enter
    split
    · split
      · exact ⟨_, _, hdeparted.accept _⟩
      · exact ⟨_, _, hdeparted⟩
    · exact ⟨_, _, hdeparted⟩

end Roll

end BrokerConnector
