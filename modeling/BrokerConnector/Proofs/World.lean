import BrokerConnector.Proofs.Broker.Grants
import BrokerConnector.Proofs.Recording
import BrokerConnector.World

/-!
# What acknowledges messages in a world

A broker acknowledges a message when it is asked to and on no other occasion: not while time passes,
not for an estimator and not in answer to any other request. So what a client of a broker adds to
its acknowledgments is what the client was told (`acknowledged_of_steps`).
-/

namespace BrokerConnector

namespace Broker

variable (broker : Broker) (now : Int64)

/-- A request other than an acknowledgment acknowledges nothing. -/
theorem acknowledged_perform {request : BrokerRequest}
    (h : Request.isLenient (.broker request) = true) :
    (broker.perform now request).2.acknowledged = broker.acknowledged := by
  have hbooks := broker.books_perform now request
  cases request with
  | acknowledge session id => cases h
  | _ => exact congrArg Books.acknowledged hbooks

/-- A granted acknowledgment is of the message that was asked for, or of none. -/
theorem acknowledged_acknowledge (session : SessionHandle) (id : MessageId) :
    (broker.perform now (.acknowledge session id)).2.acknowledged = broker.acknowledged ∨
      ((broker.perform now (.acknowledge session id)).1 = .ok () ∧
        (broker.perform now (.acknowledge session id)).2.acknowledged =
          broker.acknowledged ++ [id]) := by
  have hreplies := broker.perform_replies now (.acknowledge session id)
  generalize broker.perform now (.acknowledge session id) = reply at hreplies
  cases hreplies with
  | refused => exact .inl rfl
  | granted hgranted =>
    cases hgranted with
    | acknowledgeInAuto => exact .inl rfl
    | acknowledge => exact .inr ⟨rfl, rfl⟩

/-- A message that is published is not acknowledged. -/
theorem acknowledged_publish (destination : Destination) (message : Message) :
    (broker.publish now destination message).2.acknowledged = broker.acknowledged := by
  unfold publish
  cases message.id <;> cases destination <;> rfl

end Broker

namespace Site

variable (site : Site) (now : Int64)

/-- A request either does not reach the broker, or ends as the broker answers it. -/
theorem broker_guarded (request : BrokerRequest) :
    (site.guarded now request).2.broker = site.broker ∨
      ((site.guarded now request).1 = .ofExcept (site.broker.perform now request).1 ∧
        (site.guarded now request).2.broker = (site.broker.perform now request).2) := by
  unfold guarded
  split
  · exact .inr ⟨rfl, rfl⟩
  · split
    · exact .inl rfl
    · exact .inl rfl
    · exact .inr ⟨rfl, rfl⟩

/-- What faults do behind a receive leaves the broker alone. -/
theorem broker_perform (request : BrokerRequest) :
    (site.perform now request).2.broker = (site.guarded now request).2.broker := by
  cases request with
  | receive consumer =>
    simp only [perform]
    split
    · rename_i message site' h
      rw [h]
      rfl
    · rfl
  | _ => rfl

/-- A request other than an acknowledgment acknowledges nothing. -/
theorem acknowledged_perform {request : BrokerRequest}
    (h : Request.isLenient (.broker request) = true) :
    (site.perform now request).2.broker.acknowledged = site.broker.acknowledged := by
  rw [broker_perform]
  rcases site.broker_guarded now request with hsame | ⟨-, hbroker⟩
  · rw [hsame]
  · rw [hbroker, Broker.acknowledged_perform _ _ h]

/-- An acknowledgment that the client is not told of is none. -/
theorem acknowledged_acknowledge (session : SessionHandle) (id : MessageId) :
    (site.perform now (.acknowledge session id)).2.broker.acknowledged =
        site.broker.acknowledged ∨
      ((site.perform now (.acknowledge session id)).1 = .done () ∧
        (site.perform now (.acknowledge session id)).2.broker.acknowledged =
          site.broker.acknowledged ++ [id]) := by
  have hperform : site.perform now (.acknowledge session id) =
      site.guarded now (.acknowledge session id) := rfl
  rw [hperform]
  rcases site.broker_guarded now (.acknowledge session id) with hsame | ⟨houtcome, hbroker⟩
  · exact .inl (by rw [hsame])
  · rw [houtcome, hbroker]
    refine (site.broker.acknowledged_acknowledge now session id).imp_right ?_
    rintro ⟨hgranted, hmore⟩
    exact ⟨by rw [hgranted]; rfl, hmore⟩

end Site

namespace World

variable (world : World) (site : Nat)

/-- What a broker acknowledged, by its position. -/
def acknowledged : List MessageId :=
  (world.broker site).acknowledged

/-- A broker stays the same when another one changes, and when sites are set to themselves. -/
theorem acknowledged_set {other : Nat} {found changed : Site}
    (hfound : world.sites[other]? = some found)
    (hchanged : changed.broker.acknowledged = found.broker.acknowledged) :
    acknowledged { world with sites := world.sites.set other changed } site =
      world.acknowledged site := by
  unfold acknowledged broker
  rw [List.getElem?_set]
  split
  · rename_i he
    subst he
    have hlt := (List.getElem?_eq_some_iff.1 hfound).1
    simp only [if_pos hlt, hfound, Option.getD_some, hchanged]
  · rfl

/-! ## Time -/

/-- What is published is not acknowledged. -/
theorem acknowledged_publish (position : Nat) (destination : Destination) (message : Message) :
    (world.publish position destination message).2.acknowledged site = world.acknowledged site := by
  unfold publish
  split
  · rename_i found hfound
    exact world.acknowledged_set site hfound (found.broker.acknowledged_publish _ _ _)
  · rfl

/-- What is due is not acknowledged. -/
theorem acknowledged_publishDue :
    world.publishDue.acknowledged site = world.acknowledged site := by
  have hfold : ∀ (due : List Publication) (world : World),
      (due.foldl (fun world publication =>
        (world.publish publication.site publication.destination publication.message).2)
          world).acknowledged site = world.acknowledged site := by
    intro due
    induction due with
    | nil => exact fun _ => rfl
    | cons first rest ih =>
      intro world
      rw [List.foldl_cons, ih, acknowledged_publish]
  unfold publishDue
  exact hfold _ _

/-- While time passes, nothing is acknowledged. -/
theorem acknowledged_passUntil (target budget : Nat) :
    (passUntil target budget world).1.acknowledged site = world.acknowledged site := by
  -- Between two moments at which something is due, only the clock moves.
  induction budget generalizing world with
  | zero => rfl
  | succ budget ih =>
    rw [passUntil]
    split
    · rfl
    · rename_i due _
      split
      · refine (ih _).trans ?_
        have hfire : (fire { world with clock := max due (world.clock + 1) }).1.acknowledged site =
            (publishDue { world with clock := max due (world.clock + 1) }).acknowledged site := rfl
        rw [hfire, acknowledged_publishDue]
        rfl
      · rfl

/-! ## Requests -/

/-- An estimator leaves brokers alone. -/
theorem acknowledged_startEstimator (estimator : EstimatorHandle) :
    (world.startEstimator estimator).2.acknowledged site = world.acknowledged site := by
  unfold startEstimator
  split
  · rfl
  · split
    · rfl
    · split <;> rfl

/-- A request other than an acknowledgment acknowledges nothing. -/
theorem acknowledged_answer {request : Request} (h : request.isLenient = true) :
    (answer site request world).2.acknowledged site = world.acknowledged site := by
  cases request with
  | broker request =>
    show (world.perform site request).2.acknowledged site = world.acknowledged site
    unfold perform
    split
    · rename_i found hfound
      exact world.acknowledged_set site hfound (found.acknowledged_perform _ h)
    · rfl
  | startEstimator plan =>
    simp only [answer]
    split
    · rename_i started hstarted
      have hsame := acknowledged_startEstimator (world.createEstimator plan).2 site
        (world.createEstimator plan).1
      rw [hstarted] at hsame
      exact hsame
    · rfl
  | stopEstimator estimator =>
    show (world.stopEstimator estimator).acknowledged site = world.acknowledged site
    unfold stopEstimator
    split <;> rfl

/-- An acknowledgment that the client is not told of is none. -/
theorem acknowledged_acknowledge (session : SessionHandle) (id : MessageId) :
    (answer site (.broker (.acknowledge session id)) world).2.acknowledged site =
        world.acknowledged site ∨
      ((answer site (.broker (.acknowledge session id)) world).1 = .done () ∧
        (answer site (.broker (.acknowledge session id)) world).2.acknowledged site =
          world.acknowledged site ++ [id]) := by
  show (world.perform site (.acknowledge session id)).2.acknowledged site = _ ∨
    ((world.perform site (.acknowledge session id)).1 = .done () ∧
      (world.perform site (.acknowledge session id)).2.acknowledged site = _)
  unfold perform
  split
  · rename_i found hfound
    have hlt := (List.getElem?_eq_some_iff.1 hfound).1
    rcases found.acknowledged_acknowledge world.timeOfDay session id with hsame | ⟨hdone, hmore⟩
    · exact .inl (world.acknowledged_set site hfound hsame)
    · refine .inr ⟨hdone, ?_⟩
      unfold acknowledged broker
      simp only [List.getElem?_set_self hlt, Option.getD_some, hfound, hmore]
  · exact .inl rfl

/-! ## What clients are told -/

/-- One thing that a client does adds no more to the acknowledgments of its broker than it is
told. -/
theorem acknowledged_of_step {before after : Recorded World}
    (h : (endpoint site).recorded.Step (fun _ => True) before after) :
    ∃ granted told, after.env.acknowledged site = before.env.acknowledged site ++ granted ∧
      after.acknowledged = before.acknowledged ++ told ∧ granted.Sublist told := by
  cases h with
  | sleep milliseconds =>
    refine ⟨[], [], ?_, (List.append_nil _).symm, .refl _⟩
    rw [List.append_nil]
    exact acknowledged_passUntil _ _ _ _
  | answer request =>
    cases hlenient : request.isLenient with
    | true =>
      have hsingle : (endpoint site).recorded.Steps (·.isLenient = true) before
          ((endpoint site).recorded.answer request before).2 := .single (.answer request hlenient)
      refine ⟨[], [], ?_, ?_, .refl _⟩
      · rw [List.append_nil]
        exact before.env.acknowledged_answer site hlenient
      · rw [List.append_nil]
        exact Recorded.acknowledged_of_lenient hsingle
    | false =>
      obtain ⟨session, id, rfl⟩ : ∃ session id, request = .broker (.acknowledge session id) := by
        unfold Request.isLenient at hlenient
        split at hlenient
        · exact ⟨_, _, rfl⟩
        · cases hlenient
      -- What the broker adds, the outcome tells.
      have htold : ((endpoint site).recorded.answer (.broker (.acknowledge session id))
          before).2.acknowledged = before.acknowledged ++ (Event.acknowledgment id
            (answer site (.broker (.acknowledge session id)) before.env).1).acknowledged?.toList := by
        rw [Recorded.acknowledged]
        refine List.filterMap_append.trans ?_
        congr 1
      rcases before.env.acknowledged_acknowledge site session id with hsame | ⟨hdone, hmore⟩
      · exact ⟨[], _, by rw [List.append_nil]; exact hsame, htold, List.nil_sublist _⟩
      · rw [hdone] at htold
        exact ⟨[id], [id], hmore, htold, .refl _⟩

/-- What a client does adds no more to the acknowledgments of its broker than it is told. -/
theorem acknowledged_of_steps {before after : Recorded World}
    (h : (endpoint site).recorded.Steps (fun _ => True) before after) :
    ∃ granted told, after.env.acknowledged site = before.env.acknowledged site ++ granted ∧
      after.acknowledged = before.acknowledged ++ told ∧ granted.Sublist told := by
  induction h with
  | refl => exact ⟨[], [], (List.append_nil _).symm, (List.append_nil _).symm, .refl _⟩
  | tail _ hstep ih =>
    obtain ⟨granted, told, hgranted, htold, hsub⟩ := ih
    obtain ⟨granted', told', hgranted', htold', hsub'⟩ := acknowledged_of_step site hstep
    refine ⟨granted ++ granted', told ++ told', ?_, ?_, hsub.append hsub'⟩
    · rw [hgranted', hgranted, List.append_assoc]
    · rw [htold', htold, List.append_assoc]

end World

end BrokerConnector
