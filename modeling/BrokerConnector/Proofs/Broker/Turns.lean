import BrokerConnector.Proofs.Broker.Grants
import BrokerConnector.Proofs.Broker.Roll

/-!
# Whose turn it is on a queue

A roll says of its queue what the broker says. Both can be looked at in the same way: a `View` is
what was accepted for one queue, what waits on it, and what each session holds from it. Each thing
that happens changes the view of the roll and the view of the broker alike, so they stay equal in
every run (`tells_after`), and what is shown of the roll holds of the broker.
-/

namespace BrokerConnector

/-- Where a message departs from. -/
def Departure.destination : Departure → Destination
  | received _ _ destination _ => destination
  | discarded destination _ => destination

/-! ## Views of a queue -/

/-- What can be seen of a queue. -/
structure View where
  accepted : List Message
  waiting : List Message
  /-- What each session, by its position, holds from the queue. -/
  held : Nat → List Message

namespace View

/-- A message is accepted. -/
def accept (view : View) (message : Message) : View :=
  { view with accepted := view.accepted ++ [message], waiting := view.waiting ++ [message] }

/-- A session lets go of what it holds under an identifier. -/
def release (view : View) (session : Nat) (id : Option MessageId) : View :=
  { view with
    held := Function.update view.held session ((view.held session).filter (·.id ≠ id)) }

/-- A session holds a message, in place of what it held under the identifier. -/
def hold (view : View) (session : Nat) (message : Message) : View :=
  { view with
    held := Function.update view.held session
      ((view.held session).filter (·.id ≠ message.id) ++ [message]) }

/-- What a session holds is put back in front of the queue. -/
def putBack (view : View) (session : Nat) : View :=
  { view with
    waiting :=
      (view.held session).map (fun message => { message with redelivered := true }) ++
        view.waiting
    held := Function.update view.held session [] }

end View

/-- What a roll shows of its queue. -/
def Roll.view (roll : Roll) : View where
  accepted := roll.accepted.map (·.message)
  waiting := roll.waiting.map (·.message)
  held := fun session => (roll.held session).map (·.message)

/-- The messages of deliveries from a queue. -/
def messagesFrom (name : String) (deliveries : List Delivery) : List Message :=
  (deliveries.filter (·.destination = .queue name)).map (·.message)

/-- What a broker shows of a queue. -/
def Contents.view (contents : Contents) (name : String) : View where
  accepted := (contents.accepted.filter (·.1 = .queue name)).map (·.2)
  waiting := (contents.waiting.filter (·.queue = name)).map (·.message)
  held := fun index => messagesFrom name ((contents.sessions[index]?.map (·.held)).getD [])

/-! ## What a roll shows -/

namespace Roll

variable (roll : Roll)

/-- Mapping what every session holds maps what one session is given. -/
theorem map_update {α β : Type} (f : α → β) (held : Nat → List α) (session : Nat)
    (items : List α) :
    (fun other => (Function.update held session items other).map f) =
      Function.update (fun other => (held other).map f) session (items.map f) := by
  funext other
  exact Function.apply_update (fun _ => List.map f) held session items other

/-- What is let go of is known by its identifier, with a ticket or without. -/
theorem map_filter_message (tickets : List Ticket) (id : Option MessageId) :
    (tickets.filter (·.message.id ≠ id)).map (·.message) =
      (tickets.map (·.message)).filter (·.id ≠ id) := by
  rw [List.filter_map]
  rfl

@[simp]
theorem view_accept (message : Message) :
    (roll.accept message).view = roll.view.accept message := by
  simp [view, accept, View.accept]

@[simp]
theorem view_release (session : Nat) (id : Option MessageId) :
    (roll.release session id).view = roll.view.release session id := by
  simp only [view, release, View.release, map_update, map_filter_message]

@[simp]
theorem view_hold (session : Nat) (ticket : Ticket) :
    (roll.hold session ticket).view = roll.view.hold session ticket.message := by
  simp only [view, hold, View.hold, map_update, List.map_append, map_filter_message,
    List.map_singleton]

@[simp]
theorem view_putBack (session : Nat) :
    (roll.putBack session).view = roll.view.putBack session := by
  simp only [view, putBack, View.putBack, map_update, List.map_append, List.map_map,
    List.map_nil]
  rfl

end Roll

/-! ## What a broker shows -/

theorem messagesFrom_append (name : String) (first second : List Delivery) :
    messagesFrom name (first ++ second) = messagesFrom name first ++ messagesFrom name second := by
  simp [messagesFrom]

/-- Messages that are let go of are known by the identifiers of their deliveries. -/
theorem messagesFrom_filter (name : String) (id : MessageId) {deliveries : List Delivery}
    (identified : ∀ delivery ∈ deliveries, delivery.message.id = some delivery.id) :
    messagesFrom name (deliveries.filter (·.id ≠ id)) =
      (messagesFrom name deliveries).filter (·.id ≠ some id) := by
  rw [messagesFrom, messagesFrom, List.filter_map, List.filter_filter, List.filter_filter]
  refine congrArg _ (List.filter_congr fun delivery hdelivery => ?_)
  simp [identified delivery hdelivery, Bool.and_comm]

/-- What is put back on a queue is what was delivered from it, flagged. -/
theorem requeued_on (name : String) (deliveries : List Delivery) :
    ((deliveries.filterMap Delivery.requeued).filter (·.queue = name)).map (·.message) =
      (messagesFrom name deliveries).map fun message => { message with redelivered := true } := by
  induction deliveries with
  | nil => rfl
  | cons delivery others ih =>
    unfold messagesFrom at ih ⊢
    cases hd : delivery.destination with
    | topic other => simpa [Delivery.requeued, hd] using ih
    | queue other =>
      by_cases ho : other = name
      · simpa [Delivery.requeued, hd, ho] using ih
      · simpa [Delivery.requeued, hd, ho] using ih

namespace Contents

variable {contents : Contents} {index : Nat} {session : Session}

/-- What is accepted for a queue is seen there, and nowhere else. -/
theorem view_accept (contents : Contents) (name : String) (destination : Destination)
    (message : Message) :
    (contents.accept destination message).view name =
      if destination = .queue name then (contents.view name).accept message
      else contents.view name := by
  cases destination with
  | topic other => simp [view, accept, Message.queuedFor]
  | queue other =>
    by_cases ho : other = name
    · simp [view, accept, Message.queuedFor, ho, View.accept]
    · simp [view, accept, Message.queuedFor, ho]

/-- A session that holds other deliveries is the only one that does. -/
theorem view_setSession (name : String) (other : Session)
    (found : contents.sessions[index]? = some session) :
    view { contents with sessions := contents.sessions.set index other } name =
      { contents.view name with
        held := Function.update (contents.view name).held index
          (messagesFrom name other.held) } := by
  have hlt := (List.getElem?_eq_some_iff.1 found).1
  simp only [view, View.mk.injEq, true_and]
  funext i
  by_cases hi : i = index
  · subst hi
    rw [Function.update_self, List.getElem?_set_self hlt]
    rfl
  · rw [Function.update_of_ne hi, List.getElem?_set_ne (Ne.symm hi)]

/-- What is followed by something new and is as it was is followed by nothing. -/
theorem eq_none_of_append {α : Type} {list : List α} {new : Option α}
    (h : list = list ++ new.toList) : new = none := by
  rwa [List.self_eq_append_right, Option.toList_eq_nil_iff] at h

/-- A new session holds nothing. -/
theorem view_openSession (name : String) (empty : session.held = []) :
    view { contents with sessions := contents.sessions ++ [session] } name =
      contents.view name := by
  simp only [view, View.mk.injEq, true_and]
  funext i
  rw [List.getElem?_append]
  split
  · rfl
  · rename_i hge
    rw [List.getElem?_eq_none (Nat.le_of_not_lt hge)]
    cases hi : i - contents.sessions.length with
    | zero => simp [empty]
    | succ i => simp

/-- What a session holds from a queue. -/
theorem view_held (name : String) (found : contents.sessions[index]? = some session) :
    (contents.view name).held index = messagesFrom name session.held := by
  simp [view, found]

/-- What a closed session held from a queue is in front of it. -/
theorem view_closeSession (name : String) {other : Session} (empty : other.held = [])
    (found : contents.sessions[index]? = some session) :
    view { contents with
        waiting := session.held.filterMap Delivery.requeued ++ contents.waiting
        sessions := contents.sessions.set index other } name =
      (contents.view name).putBack index := by
  have hheld := congrArg View.held (view_setSession name other found)
  rw [empty] at hheld
  unfold View.putBack
  rw [view_held name found, ← requeued_on, view, View.mk.injEq]
  refine ⟨rfl, ?_, hheld⟩
  rw [List.filter_append, List.map_append]
  rfl

/-- A session holds what it receives, in place of what it held under the identifier. -/
theorem view_hold (name : String) {delivery : Delivery}
    (found : contents.sessions[index]? = some session)
    (identified : ∀ delivery ∈ session.held, delivery.message.id = some delivery.id)
    (hid : delivery.message.id = some delivery.id) :
    (contents.hold index session delivery).view name =
      if delivery.destination = .queue name then
        (contents.view name).hold index delivery.message
      else (contents.view name).release index delivery.message.id := by
  rw [hold, view_setSession name _ found, messagesFrom_append,
    messagesFrom_filter name _ identified, ← view_held name found, ← hid]
  by_cases hd : delivery.destination = .queue name
  · simp [messagesFrom, hd, View.hold]
  · simp [messagesFrom, hd, View.release]

/-- A session in client mode keeps what it is given if it has an identifier. -/
theorem view_keep (name : String) {consumer : Consumer} (message : Message)
    (found : contents.sessions[consumer.session]? = some session)
    (identified : ∀ delivery ∈ session.held, delivery.message.id = some delivery.id) :
    (contents.keep consumer session (some message)).view name =
      if session.mode = .client ∧ message.id.isSome then
        if consumer.destination = .queue name then
          (contents.view name).hold consumer.session message
        else (contents.view name).release consumer.session message.id
      else contents.view name := by
  unfold keep
  cases hm : session.mode with
  | auto => simp
  | client =>
    cases hid : message.id with
    | none => simp [hid]
    | some id =>
      simp only [hid, Option.isSome_some, and_self, if_true]
      refine (view_hold name found identified ?_).trans ?_ <;> simp only [hid]

/-- What a consumer takes leaves its own queue and no other. -/
theorem view_withoutTaken (name : String) (now : Int64) (index : Nat) (consumer : Consumer) :
    (contents.withoutTaken now index consumer).view name =
      if consumer.destination = .queue name then
        { contents.view name with
          waiting := ((contents.source consumer).dropWhile (·.isExpired now)).tail }
      else contents.view name := by
  cases hd : consumer.destination with
  | topic other => simp [view, withoutTaken, hd]
  | queue other =>
    by_cases ho : other = name
    · subst ho
      simp only [view, withoutTaken, hd, if_true, source, Broker.takeWaiting_filter_self]
    · have hother : name ≠ other := Ne.symm ho
      simp [view, withoutTaken, hd, ho, Broker.takeWaiting_filter_of_ne now _ hother]

end Contents

/-! ## The roll follows the broker -/

namespace Roll

/-- A roll says what a broker says of its queue and of what left it. -/
structure Tells (roll : Roll) (name : String) (contents : Contents) (departed : List Departure) :
    Prop where
  view : roll.view = contents.view name
  exits : roll.exits.map (Exit.departure name) = departed.filter (·.destination = .queue name)

/-- The expired messages at the head of the queue are discarded one after the other. -/
theorem foldl_discard (name : String) (gone : List Message) (roll : Roll) {rest : List Message}
    (hwaiting : roll.view.waiting = gone ++ rest) :
    ((gone.map (Departure.discarded (.queue name))).foldl (depart name) roll).view =
        { roll.view with waiting := rest } ∧
      ((gone.map (Departure.discarded (.queue name))).foldl (depart name) roll).exits.map
          (Exit.departure name) =
        roll.exits.map (Exit.departure name) ++ gone.map (.discarded (.queue name)) := by
  induction gone generalizing roll with
  | nil =>
    obtain rfl : roll.view.waiting = rest := hwaiting
    exact ⟨rfl, by simp⟩
  | cons message others ih =>
    obtain ⟨ticket, tickets, htickets, rfl, hothers⟩ := List.map_eq_cons_iff.1 hwaiting
    have hdiscard : roll.depart name (.discarded (.queue name) ticket.message) =
        roll.leave tickets (.discarded ticket) := by
      simp [depart, discard, htickets]
    rw [List.map_cons, List.foldl_cons, hdiscard]
    obtain ⟨hview, hexits⟩ := ih (roll.leave tickets (.discarded ticket)) hothers
    refine ⟨hview, hexits.trans ?_⟩
    simp [leave, Exit.departure]

/-- The message at the head of the queue is received, and held in client mode. -/
theorem depart_received {roll : Roll} (name : String) (session : Nat) (mode : AcknowledgeMode)
    {message : Message} {rest : List Message} (hwaiting : roll.view.waiting = message :: rest) :
    (roll.depart name (.received session mode (.queue name) message)).view =
        (if mode = .client ∧ message.id.isSome then
          View.hold { roll.view with waiting := rest } session message
        else { roll.view with waiting := rest }) ∧
      (roll.depart name (.received session mode (.queue name) message)).exits.map
          (Exit.departure name) =
        roll.exits.map (Exit.departure name) ++ [.received session mode (.queue name) message] := by
  obtain ⟨ticket, tickets, htickets, rfl, rfl⟩ := List.map_eq_cons_iff.1 hwaiting
  simp only [depart, receive, htickets, if_true]
  split
  · exact ⟨view_hold _ _ _, by simp [hold, leave, Exit.departure]⟩
  · exact ⟨rfl, by simp [leave, Exit.departure]⟩

/-- What departs from elsewhere takes no ticket off the queue. -/
theorem foldl_discard_of_ne {name : String} {destination : Destination}
    (h : destination ≠ .queue name) (gone : List Message) (roll : Roll) :
    (gone.map (Departure.discarded destination)).foldl (depart name) roll = roll := by
  induction gone with
  | nil => rfl
  | cons message others ih => simpa [depart, h] using ih

section Take

variable {roll : Roll} {name : String} {contents : Contents} {departed : List Departure}
  {consumer : Consumer} {session : Session}

/-- What a session holds has an identifier. -/
theorem identified_of_held {index : Nat} (traced : contents.Traced departed)
    (found : contents.sessions[index]? = some session) :
    ∀ delivery ∈ session.held, delivery.message.id = some delivery.id :=
  fun delivery hdelivery => (traced.held index session found delivery hdelivery).identified

/-- A roll follows a consumer that discards the expired messages at the head of the queue. -/
theorem Tells.discard (h : roll.Tells name contents departed) (now : Int64)
    (hd : consumer.destination = .queue name) :
    ((contents.discards now consumer).foldl (depart name) roll).view =
        { roll.view with waiting := (contents.source consumer).dropWhile (·.isExpired now) } ∧
      ((contents.discards now consumer).foldl (depart name) roll).exits.map
          (Exit.departure name) =
        (departed ++ contents.discards now consumer).filter (·.destination = .queue name) := by
  have hdiscards : contents.discards now consumer = ((contents.source consumer).takeWhile
      (·.isExpired now)).map (.discarded (.queue name)) := by
    rw [Contents.discards, hd]
  have hfilter : (contents.discards now consumer).filter (·.destination = .queue name) =
      contents.discards now consumer := by
    simp [hdiscards, Departure.destination, List.filter_map, Function.comp_def]
  have hsource : roll.view.waiting = contents.source consumer := by
    rw [h.view]
    simp [Contents.view, Contents.source, hd]
  have hfold := foldl_discard name _ roll
    (hsource.trans (List.takeWhile_append_dropWhile (p := (·.isExpired now))).symm)
  rwa [List.filter_append, hfilter, ← h.exits, hdiscards]

/-- A roll follows a consumer that takes the next message of the queue. -/
theorem Tells.takeHere (h : roll.Tells name contents departed) (traced : contents.Traced departed)
    (now : Int64) (index : Nat) (of : contents.sessions[consumer.session]? = some session)
    (hd : consumer.destination = .queue name) :
    ((contents.departing now consumer session).foldl (depart name) roll).Tells name
      ((contents.withoutTaken now index consumer).keep consumer session
        (contents.next? now consumer))
      (departed ++ contents.departing now consumer session) := by
  have hidentified := identified_of_held traced of
  have hsession : (contents.withoutTaken now index consumer).sessions[consumer.session]? =
      some session := by
    rw [Contents.sessions_withoutTaken, of]
  have hview := contents.view_withoutTaken name now index consumer
  rw [if_pos hd, ← h.view] at hview
  -- Once the expired messages are gone, the first one that waits is received, if there is any.
  obtain ⟨hgone, hexits⟩ := h.discard now hd
  rw [Contents.departing, List.foldl_append, ← List.append_assoc]
  generalize (contents.discards now consumer).foldl (depart name) roll = discarded at hgone hexits
  cases hrest : (contents.source consumer).dropWhile (·.isExpired now) with
  | nil =>
    have hnext : contents.next? now consumer = none := by simp [Contents.next?, hrest]
    rw [hrest] at hgone hview
    rw [hnext, Option.map_none, Option.toList_none, List.append_nil, List.foldl_nil]
    exact ⟨hgone.trans hview.symm, hexits⟩
  | cons message rest =>
    have hnext : contents.next? now consumer = some message := by simp [Contents.next?, hrest]
    rw [hrest] at hgone hview
    rw [hnext, Option.map_some, Option.toList_some, List.foldl_cons, List.foldl_nil, hd]
    obtain ⟨hreceived, hlast⟩ := depart_received name consumer.session session.mode
      (congrArg View.waiting hgone)
    constructor
    · rw [hreceived, Contents.view_keep name message hsession hidentified, hview, hgone, if_pos hd]
      rfl
    · rw [hlast, hexits, List.filter_append _ [_]]
      simp [Departure.destination]

/-- A roll follows a consumer that takes the next message of elsewhere: a session that is given it
lets go of what it held under the identifier. -/
theorem Tells.takeElsewhere (h : roll.Tells name contents departed)
    (traced : contents.Traced departed) (now : Int64) (index : Nat)
    (of : contents.sessions[consumer.session]? = some session)
    (hd : consumer.destination ≠ .queue name) :
    ((contents.departing now consumer session).foldl (depart name) roll).Tells name
      ((contents.withoutTaken now index consumer).keep consumer session
        (contents.next? now consumer))
      (departed ++ contents.departing now consumer session) := by
  have hidentified := identified_of_held traced of
  have hsession : (contents.withoutTaken now index consumer).sessions[consumer.session]? =
      some session := by
    rw [Contents.sessions_withoutTaken, of]
  have hview := contents.view_withoutTaken name now index consumer
  rw [if_neg hd, ← h.view] at hview
  rw [Contents.departing, List.foldl_append, Contents.discards, foldl_discard_of_ne hd,
    ← Contents.discards]
  have hdiscards : (contents.discards now consumer).filter (·.destination = .queue name) = [] := by
    simp [Contents.discards, hd, Departure.destination, List.filter_map, Function.comp_def]
  cases contents.next? now consumer with
  | none =>
    refine ⟨hview.symm, ?_⟩
    rw [List.filter_append, List.filter_append, hdiscards]
    simpa using h.exits
  | some message =>
    rw [Option.map_some, Option.toList_some, List.foldl_cons, List.foldl_nil]
    constructor
    · rw [Contents.view_keep name message hsession hidentified, hview, if_neg hd]
      simp only [depart, hd, if_false]
      split
      · exact view_release _ _ _
      · rfl
    · rw [List.filter_append, List.filter_append, hdiscards]
      simp only [depart, hd, if_false]
      split <;> simpa [Departure.destination, hd, release] using h.exits

/-- A roll follows a consumer that takes its next message. -/
theorem Tells.take (h : roll.Tells name contents departed) (traced : contents.Traced departed)
    (now : Int64) (index : Nat) (of : contents.sessions[consumer.session]? = some session) :
    ((contents.departing now consumer session).foldl (depart name) roll).Tells name
      ((contents.withoutTaken now index consumer).keep consumer session
        (contents.next? now consumer))
      (departed ++ contents.departing now consumer session) := by
  by_cases hd : consumer.destination = .queue name
  · exact h.takeHere traced now index of hd
  · exact h.takeElsewhere traced now index of hd

end Take

/-- A roll follows a step that goes through no session: what is accepted for the queue gets a
ticket. -/
theorem Tells.step {roll : Roll} {name : String} {before after : Contents} {now : Int64}
    {departed departures : List Departure} {new : Option (Destination × Message)}
    (h : roll.Tells name before departed) (hstep : before.Step now none departures after)
    (hnew : after.accepted = before.accepted ++ new.toList) :
    (roll.enter name new).Tells name after (departed ++ departures) := by
  -- Only a step that adds to what was accepted gives out a ticket.
  have hsame : after.accepted = before.accepted → roll.enter name new = roll := by
    intro he
    rw [Contents.eq_none_of_append (he.symm.trans hnew)]
    rfl
  cases hstep with
  | still =>
    rw [hsame rfl, List.append_nil]
    exact h
  | openSession session empty =>
    rw [hsame rfl, List.append_nil]
    exact ⟨h.view.trans (Contents.view_openSession name empty).symm, h.exits⟩
  | openConsumer consumer empty =>
    rw [hsame rfl, List.append_nil]
    exact ⟨h.view, h.exits⟩
  | closeConsumer index consumer found =>
    rw [hsame rfl, List.append_nil]
    exact ⟨h.view, h.exits⟩
  | accept destination message identified =>
    have hone : new.toList = [(destination, message)] := (List.append_cancel_left hnew).symm
    obtain rfl := Option.toList_eq_singleton_iff.1 hone
    rw [List.append_nil]
    refine ⟨?_, ?_⟩
    · rw [Contents.view_accept, ← h.view]
      simp only [enter]
      split <;> simp
    · rw [← h.exits]
      simp only [enter]
      split <;> rfl

section Operations

variable {roll : Roll} {name : String} {broker : Broker} {departed : List Departure}

/-- A roll follows an acknowledgment. -/
theorem Tells.acknowledge (h : roll.Tells name broker.contents departed)
    (traced : broker.contents.Traced departed) (now : Int64) (handle : SessionHandle)
    (id : MessageId) :
    (roll.follow name broker now (.request (.acknowledge handle id))).Tells name
      (broker.acknowledge handle id).2.contents departed := by
  cases hanswer : (broker.acknowledge handle id).1 with
  | error error =>
    have hrefused : (broker.perform now (.acknowledge handle id)).1 = .error error := hanswer
    have hsame : (broker.acknowledge handle id).2 = broker := Broker.perform_of_refused hrefused
    simp only [follow, hanswer, hsame]
    exact h
  | ok =>
    simp only [follow, hanswer]
    have hresult : broker.perform now (.acknowledge handle id) =
        (.ok (), (broker.acknowledge handle id).2) := Prod.ext hanswer rfl
    obtain ⟨session, hfound, -, hauto⟩ := Broker.exists_session_of_acknowledge hresult
    have howed := traced.held _ session hfound
    cases hm : session.mode with
    | client =>
      obtain ⟨-, hcontents⟩ := Broker.contents_of_acknowledge hresult hfound hm
      rw [hcontents]
      refine ⟨?_, h.exits⟩
      change _ = Contents.view { broker.contents with
        sessions := broker.contents.sessions.set handle.index _ } name
      rw [Contents.view_setSession name _ hfound, view_release, h.view, View.release,
        Contents.view_held name hfound,
        messagesFrom_filter name id (identified_of_held traced hfound)]
    | auto =>
      -- A session in auto mode holds nothing, so there is nothing to let go of.
      have hempty : session.held = [] := by
        refine List.eq_nil_iff_forall_not_mem.2 fun delivery hdelivery => ?_
        cases hm.symm.trans (howed delivery hdelivery).client
      rw [hauto hm]
      refine ⟨?_, h.exits⟩
      have hnone : (broker.contents.view name).held handle.index = [] := by
        rw [Contents.view_held name hfound, hempty]
        rfl
      rw [view_release, h.view, View.release, hnone, List.filter_nil, ← hnone,
        Function.update_eq_self]

/-- A roll follows a session that is closed. -/
theorem Tells.closeSession (h : roll.Tells name broker.contents departed) (now : Int64)
    (handle : SessionHandle) :
    (roll.follow name broker now (.request (.closeSession handle))).Tells name
      (broker.closeSession handle).2.contents departed := by
  cases hanswer : (broker.closeSession handle).1 with
  | error error =>
    have hrefused : (broker.perform now (.closeSession handle)).1 = .error error := hanswer
    have hsame : (broker.closeSession handle).2 = broker := Broker.perform_of_refused hrefused
    simp only [follow, hanswer, hsame]
    exact h
  | ok =>
    simp only [follow, hanswer]
    have hresult : broker.perform now (.closeSession handle) =
        (.ok (), (broker.closeSession handle).2) := Prod.ext hanswer rfl
    obtain ⟨session, hfound, -⟩ := Broker.exists_session_of_closeSession hresult
    rw [Broker.contents_of_closeSession hresult hfound]
    refine ⟨?_, h.exits⟩
    rw [view_putBack, h.view]
    exact (Contents.view_closeSession name rfl hfound).symm

/-- A roll follows a receive. -/
theorem Tells.receive (h : roll.Tells name broker.contents departed)
    (traced : broker.contents.Traced departed) (now : Int64) (handle : ConsumerHandle) :
    (roll.follow name broker now (.request (.receive handle))).Tells name
      (broker.receive now handle).2.contents
      (departed ++ broker.departures now (.request (.receive handle))) := by
  cases hr : broker.receiver? handle with
  | none =>
    have hnothing : broker.departures now (.request (.receive handle)) = [] :=
      Broker.departures_receive_of_none hr
    rw [(Broker.receive_of_receiver?_eq_none now hr).1, hnothing, List.append_nil]
    simp only [follow, hnothing]
    exact h
  | some pair =>
    obtain ⟨found, session⟩ := pair
    obtain ⟨-, -, hsession, -⟩ := Broker.receiver?_eq_some hr
    have hdepartures : broker.departures now (.request (.receive handle)) =
        broker.contents.departing now found session := Broker.departures_receive hr
    rw [Broker.contents_receive now hr, hdepartures]
    simp only [follow, hdepartures]
    exact h.take traced now handle.index hsession

/-- A roll follows every operation. -/
theorem Tells.follow (h : roll.Tells name broker.contents departed)
    (traced : broker.contents.Traced departed) (now : Int64) (operation : Operation) :
    (roll.follow name broker now operation).Tells name (broker.operate now operation).contents
      (departed ++ broker.departures now operation) := by
  -- The three operations that go through a session move what it holds, and all others leave every
  -- session as it is.
  by_cases htouched : broker.touched? operation = none
  · obtain ⟨through, hthrough, hstep⟩ := broker.operate_step now operation
    obtain rfl : through = none := by
      cases through with
      | none => rfl
      | some index => cases htouched.symm.trans (hthrough index rfl)
    have hnothing := hstep.departures_of_none
    have htells := h.step hstep (broker.accepted_operate now operation)
    unfold Roll.follow
    split
    · cases htouched
    · cases htouched
    · rw [hnothing]
      rw [hnothing] at htells
      exact htells
  · unfold Broker.touched? at htouched
    split at htouched
    · change Tells _ _ _ (departed ++ [])
      rw [List.append_nil]
      exact h.acknowledge traced now _ _
    · change Tells _ _ _ (departed ++ [])
      rw [List.append_nil]
      exact h.closeSession now _
    · exact h.receive traced now _
    · exact (htouched rfl).elim

end Operations

/-- After every run, the roll of a queue says what the broker says. -/
theorem tells_after (name : String) (credentials : Option Credentials)
    (operations : List (Int64 × Operation)) :
    (after name credentials operations).Tells name
      (Broker.after credentials operations).contents
      (Broker.departedAfter credentials operations) := by
  induction operations using List.reverseRecOn with
  | nil => exact ⟨rfl, rfl⟩
  | append_singleton operations entry ih =>
    obtain ⟨now, operation⟩ := entry
    rw [after_concat, Broker.after_append, Broker.operateAll_singleton,
      Broker.departedAfter_append, Broker.departed_singleton]
    exact ih.follow (Broker.traced_after credentials operations) now operation

/-- After every run, what waits on a queue is in turn. -/
theorem inTurn_after (name : String) (credentials : Option Credentials)
    (operations : List (Int64 × Operation)) :
    ∃ back fresh, (after name credentials operations).InTurn back fresh := by
  induction operations using List.reverseRecOn with
  | nil => exact ⟨[], [], rfl, by simp, rfl, rfl, by simp [after, followAll]⟩
  | append_singleton operations entry ih =>
    obtain ⟨now, operation⟩ := entry
    obtain ⟨back, fresh, h⟩ := ih
    rw [after_concat]
    exact h.follow name _ now operation

end Roll

/-- No fresh message is overtaken on a queue. In every run, what waits is first what sessions in
client mode received and put back, and then what never left the queue. What was accepted for the
queue is what left it for the first time, received or discarded, in the order in which it left,
followed by what never left: whichever consumers take from the queue, each takes the next fresh
message when it takes a fresh one. What was received is what the receives of the run were answered
with. -/
theorem Broker.takes_fresh_in_order (credentials : Option Credentials)
    (operations : List (Int64 × Operation)) (name : String) :
    let broker := after credentials operations
    let roll := Roll.after name credentials operations
    roll.Tells name broker.contents (departedAfter credentials operations) ∧
      (departedAfter credentials operations).filter (·.isReceipt) =
        (handoversAfter credentials operations).map (·.departure) ∧
      ∃ back fresh : List Ticket,
        roll.waiting = back ++ fresh ∧
        broker.queue name = (back ++ fresh).map (·.message) ∧
        (∀ ticket ∈ back, roll.Returned ticket) ∧
        (∀ ticket ∈ fresh, ∀ exit ∈ roll.exits, exit.ticket.number ≠ ticket.number) ∧
        broker.published (.queue name) =
          ((Exit.firsts roll.exits).map (·.ticket) ++ fresh).map (·.message) ∧
        ((Exit.firsts roll.exits).map (·.ticket) ++ fresh).map (·.number) =
          List.range (broker.published (.queue name)).length := by
  intro broker roll
  have htells := Roll.tells_after name credentials operations
  obtain ⟨back, fresh, hturn⟩ := Roll.inTurn_after name credentials operations
  have hwaiting : broker.queue name = roll.waiting.map (·.message) :=
    (congrArg View.waiting htells.view).symm
  have haccepted : broker.published (.queue name) = roll.accepted.map (·.message) :=
    (congrArg View.accepted htells.view).symm
  refine ⟨htells, filter_departedAfter credentials operations, back, fresh, hturn.waiting, ?_,
    hturn.back, ?_, ?_, ?_⟩
  · rw [hwaiting, hturn.waiting]
  · intro ticket hfresh exit hexit hsame
    exact hturn.not_mem_numbers hfresh (List.mem_map.2 ⟨exit, hexit, hsame⟩)
  · rw [haccepted, hturn.accepted]
  · rw [haccepted, List.length_map, ← hturn.accepted]
    exact hturn.numbered

end BrokerConnector
