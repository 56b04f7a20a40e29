import Mathlib.Algebra.Group.Nat.Defs
import TrustLink.Indexer.Webhooks

/-!
`dispatchWebhooks` and `deliverWithRetry` of webhooks.ts beside the replays of what could not be
delivered. A delivery is tried up to five times and leaves a failure record behind when it is given
up; replays start from that record. A record is named by the delivery that creates it, as the
database gives no id twice.
-/
namespace TrustLink.Indexer
open Interleaving Trace

section Model

def maxDeliveryAttempts : Nat := 5

structure WebhookRow where
  id : String
  url : String
  secret : String
  active : Bool

/-- The arguments of `deliverWithRetry`. -/
structure Delivery where
  webhookId : String
  url : String
  secret : String
  eventType : String
  body : String

/-- A delivery for each active webhook; they do not wait for each other. -/
def dispatchWebhooks (webhooks : List WebhookRow) (eventType body : String) : List Delivery :=
  (webhooks.filter (·.active)).map fun wh => ⟨wh.id, wh.url, wh.secret, eventType, body⟩

/-- A failure with the column that no replay looks at. -/
structure FailureRow where
  failure : WebhookFailure
  eventType : String

inductive DeliveryOutcome where
  | delivered
  | persisted
  /-- The database has not taken the record. -/
  | lost

/-- What a delivery waits for. -/
inductive DeliveryPhase where
  | posting (attempt : Nat) (lastStatusCode : Option Int)
  | sleeping (delay attempt : Nat) (lastStatusCode : Option Int)
  | persisting (statusCode : Option Int) (errorMessage : String) (attemptCount : Nat)
  | returned (outcome : DeliveryOutcome)

inductive DeliveryAnswer where
  | response (status : Int)
  | error (message : String)
  | timer
  | created

def isClientError (status : Int) : Prop := 400 ≤ status ∧ status < 500

instance : DecidablePred isClientError := fun status =>
  inferInstanceAs (Decidable (400 ≤ status ∧ status < 500))

/-- The catch block. -/
def catchAttempt (attempt : Nat) (lastStatusCode : Option Int) (lastError : String) :
    DeliveryPhase :=
  if attempt = maxDeliveryAttempts then .persisting lastStatusCode lastError maxDeliveryAttempts
  else .sleeping (min (200 * 2 ^ (attempt - 1)) 10000) attempt lastStatusCode

/-- The record that `persistFailure` creates. -/
def Delivery.failure (delivery : Delivery) (statusCode : Option Int) (errorMessage : String)
    (attemptCount : Nat) : FailureRow where
  failure := ⟨some delivery.webhookId, delivery.url, delivery.body, statusCode, some errorMessage,
    attemptCount, .failed⟩
  eventType := delivery.eventType

/-- `deliverWithRetry` from one await to the next. What `persistFailure` throws is swallowed. -/
def deliverWithRetry (delivery : Delivery) (record : Option FailureRow) (phase : DeliveryPhase)
    (answer : DeliveryAnswer) : Option (Option FailureRow × DeliveryPhase) :=
  match phase, answer with
  | .posting attempt _, .response status =>
      if isOk status then some (record, .returned .delivered)
      else if isClientError status then
        some (record, .persisting (some status) ("HTTP " ++ toString status) attempt)
      else some (record, catchAttempt attempt (some status) ("HTTP " ++ toString status))
  | .posting attempt lastStatusCode, .error message =>
      some (record, catchAttempt attempt lastStatusCode message)
  | .sleeping _ attempt lastStatusCode, .timer => some (record, .posting (attempt + 1) lastStatusCode)
  | .persisting statusCode errorMessage attemptCount, .created =>
      some (some (delivery.failure statusCode errorMessage attemptCount), .returned .persisted)
  | .persisting _ _ _, .error _ => some (record, .returned .lost)
  | _, _ => none

/-- The requests of a delivery, which are all alike. -/
def Delivery.post [Hmac] (delivery : Delivery) : WebhookPost :=
  ⟨delivery.url, Hmac.sign delivery.secret delivery.body, delivery.body⟩

inductive WorkerPhase where
  | delivering (phase : DeliveryPhase)
  | replaying (replay : ReplayPhase)

inductive WorkerAnswer where
  | delivery (answer : DeliveryAnswer)
  | replay (answer : Answer)

variable [Hmac] {Call : Type}

/-- A delivery is none of the calls that replay it. -/
def work (delivery : Delivery) (_worker : Option Call) (record : Option FailureRow)
    (phase : WorkerPhase) (answer : WorkerAnswer) : Option (Option FailureRow × WorkerPhase) :=
  match phase, answer with
  | .delivering phase, .delivery answer =>
      (deliverWithRetry delivery record phase answer).map fun after =>
        (after.1, .delivering after.2)
  | .replaying replay, .replay answer =>
      (replayFailure (record.map (·.failure)) replay answer).map fun after =>
        (record.bind fun row => after.1.map fun failure => { row with failure := failure },
          .replaying after.2)
  | _, _ => none

def firstPhase : Option Call → WorkerPhase
  | none => .delivering (.posting 1 none)
  | some _ => .replaying .reading

abbrev Workers (Call : Type) := System (Option Call) (Option FailureRow) WorkerPhase

/-- A delivery has been dispatched, and nothing is known of it. -/
def dispatched : Workers Call := ⟨none, firstPhase⟩

end Model

section Answers

/-- What comes of a request. -/
inductive PostAnswer where
  | response (status : Int)
  | error (message : String)

namespace PostAnswer

def Refused : PostAnswer → Prop
  | .response status => isClientError status
  | .error _ => False

/-- The request is made again, unless it was the last. -/
def Retried : PostAnswer → Prop
  | .response status => ¬ isOk status ∧ ¬ isClientError status
  | .error _ => True

def status? : PostAnswer → Option Int
  | .response status => some status
  | .error _ => none

def errorMessage : PostAnswer → String
  | .response status => "HTTP " ++ toString status
  | .error message => message

end PostAnswer

/-- The status of the last response, which need not be the last answer. -/
def lastStatus (answers : List PostAnswer) : Option Int :=
  (answers.filterMap PostAnswer.status?).getLast?

@[simp] theorem lastStatus_response (answers : List PostAnswer) (status : Int) :
    lastStatus (answers ++ [.response status]) = some status := by
  simp [lastStatus, PostAnswer.status?]

@[simp] theorem lastStatus_error (answers : List PostAnswer) (message : String) :
    lastStatus (answers ++ [.error message]) = lastStatus answers := by
  simp [lastStatus, PostAnswer.status?]

/-- The answers on which a delivery is given up: the last one is a client error or the fifth, and
those before it were such that the request was made again. -/
structure Spent (answers : List PostAnswer) (errorMessage : String) : Prop where
  within : answers.length ≤ maxDeliveryAttempts
  ended : ∃ tried last, answers = tried ++ [last] ∧ (∀ answer ∈ tried, answer.Retried) ∧
    (last.Refused ∨ last.Retried ∧ answers.length = maxDeliveryAttempts) ∧
    last.errorMessage = errorMessage

/-- The receiver has taken the request at last. -/
def Taken (answers : List PostAnswer) : Prop :=
  answers.length ≤ maxDeliveryAttempts ∧ ∃ tried status,
    answers = tried ++ [.response status] ∧ (∀ answer ∈ tried, answer.Retried) ∧ isOk status

/-- What a record keeps of the delivery, whatever the replays do. -/
structure FailureRow.MadeBy (row : FailureRow) (delivery : Delivery) : Prop where
  webhookId : row.failure.webhookId = some delivery.webhookId
  url : row.failure.url = delivery.url
  payload : row.failure.payload = delivery.body
  eventType : row.eventType = delivery.eventType

/-- What has become of a delivery, by the answers to its requests and the number of replays that
have failed. -/
inductive DeliveryAccount (delivery : Delivery) (answers : List PostAnswer) (retries : Nat)
    (recovered : Prop) : Option FailureRow → DeliveryPhase → Prop
  | posting (unreplayed : retries = 0 ∧ ¬ recovered) (retried : ∀ answer ∈ answers, answer.Retried)
      (within : answers.length < maxDeliveryAttempts) :
      DeliveryAccount delivery answers retries recovered none
        (.posting (answers.length + 1) (lastStatus answers))
  | sleeping (unreplayed : retries = 0 ∧ ¬ recovered)
      (retried : ∀ answer ∈ answers, answer.Retried)
      (within : answers.length < maxDeliveryAttempts) (delay : Nat) :
      DeliveryAccount delivery answers retries recovered none
        (.sleeping delay answers.length (lastStatus answers))
  | persisting (unreplayed : retries = 0 ∧ ¬ recovered) (errorMessage : String)
      (spent : Spent answers errorMessage) :
      DeliveryAccount delivery answers retries recovered none
        (.persisting (lastStatus answers) errorMessage answers.length)
  | delivered (unreplayed : retries = 0 ∧ ¬ recovered) (taken : Taken answers) :
      DeliveryAccount delivery answers retries recovered none (.returned .delivered)
  | lost (unreplayed : retries = 0 ∧ ¬ recovered) (errorMessage : String)
      (spent : Spent answers errorMessage) :
      DeliveryAccount delivery answers retries recovered none (.returned .lost)
  | stands (unrecovered : ¬ recovered) (errorMessage : String)
      (spent : Spent answers errorMessage) (row : FailureRow) (made : row.MadeBy delivery)
      (counted : row.failure.attemptCount = answers.length + retries)
      (fresh : retries = 0 → row.failure.statusCode = lastStatus answers ∧
        row.failure.errorMessage = some errorMessage) :
      DeliveryAccount delivery answers retries recovered (some row) (.returned .persisted)
  | recovered (again : recovered) (errorMessage : String) (spent : Spent answers errorMessage) :
      DeliveryAccount delivery answers retries recovered none (.returned .persisted)

end Answers

section Delivering
variable {delivery : Delivery} {answers : List PostAnswer} {retries : Nat} {recovered : Prop}

/-- The answer to a request, if that is what the delivery waits for. -/
def DeliveryPhase.answered (phase : DeliveryPhase) (answer : DeliveryAnswer) : Option PostAnswer :=
  match phase, answer with
  | .posting _ _, .response status => some (.response status)
  | .posting _ _, .error message => some (.error message)
  | _, _ => none

theorem retried_concat (retried : ∀ answer ∈ answers, answer.Retried) {last : PostAnswer}
    (again : last.Retried) : ∀ answer ∈ answers ++ [last], answer.Retried := by
  intro answer member
  rcases List.mem_append.mp member with earlier | now
  · exact retried answer earlier
  · rwa [List.mem_singleton.mp now]

theorem account_caught (unreplayed : retries = 0 ∧ ¬ recovered)
    (retried : ∀ answer ∈ answers, answer.Retried)
    (within : answers.length < maxDeliveryAttempts) {last : PostAnswer} (again : last.Retried) :
    DeliveryAccount delivery (answers ++ [last]) retries recovered none
      (catchAttempt (answers.length + 1) (lastStatus (answers ++ [last])) last.errorMessage) := by
  have count : (answers ++ [last]).length = answers.length + 1 := List.length_append
  have bound : answers.length + 1 ≤ maxDeliveryAttempts := within
  unfold catchAttempt
  split
  case isTrue full =>
    rw [← count] at full
    have spent : Spent (answers ++ [last]) last.errorMessage :=
      ⟨count ▸ bound, answers, last, rfl, retried, .inr ⟨again, full⟩, rfl⟩
    have persisting := @DeliveryAccount.persisting delivery _ _ _ unreplayed _ spent
    rwa [full] at persisting
  case isFalse more =>
    rw [← count] at more bound ⊢
    exact .sleeping unreplayed (retried_concat retried again) (Nat.lt_of_le_of_ne bound more) _

theorem account_delivery {record after : Option FailureRow} {phase later : DeliveryPhase}
    {answer : DeliveryAnswer} (account : DeliveryAccount delivery answers retries recovered record phase)
    (taken : deliverWithRetry delivery record phase answer = some (after, later)) :
    DeliveryAccount delivery (answers ++ (phase.answered answer).toList) retries recovered after
      later := by
  cases account with
  | posting unreplayed retried within =>
      have count : ∀ last : PostAnswer, (answers ++ [last]).length = answers.length + 1 :=
        fun _ => List.length_append
      have bound : answers.length + 1 ≤ maxDeliveryAttempts := within
      cases answer with
      | response status =>
          rw [DeliveryPhase.answered, Option.toList_some]
          rw [deliverWithRetry] at taken
          split_ifs at taken with ok refused
          · cases taken
            exact .delivered unreplayed ⟨count _ ▸ bound, answers, status, rfl, retried, ok⟩
          · cases taken
            have spent : Spent (answers ++ [.response status]) ("HTTP " ++ toString status) :=
              ⟨count _ ▸ bound, answers, _, rfl, retried, .inl refused, rfl⟩
            have persisting := @DeliveryAccount.persisting delivery _ _ _ unreplayed _ spent
            rwa [count, lastStatus_response] at persisting
          · cases taken
            have caught := @account_caught delivery answers retries recovered unreplayed retried
              within (.response status) ⟨ok, refused⟩
            rwa [lastStatus_response] at caught
      | error message =>
          cases taken
          have caught := @account_caught delivery answers retries recovered unreplayed retried
            within (.error message) trivial
          rwa [lastStatus_error] at caught
      | timer | created => cases taken
  | sleeping unreplayed retried within delay =>
      cases answer with
      | timer =>
          cases taken
          rw [DeliveryPhase.answered, Option.toList_none, List.append_nil]
          · exact .posting unreplayed retried within
          all_goals simp
      | response | error | created => cases taken
  | persisting unreplayed errorMessage spent =>
      cases answer with
      | created =>
          cases taken
          have row : DeliveryAccount delivery answers retries recovered
              (some (delivery.failure (lastStatus answers) errorMessage answers.length))
              (.returned .persisted) :=
            .stands unreplayed.2 errorMessage spent _ ⟨rfl, rfl, rfl, rfl⟩
              (by rw [unreplayed.1]; rfl) fun _ => ⟨rfl, rfl⟩
          simpa [DeliveryPhase.answered] using row
      | error message =>
          cases taken
          simpa [DeliveryPhase.answered] using
            @DeliveryAccount.lost delivery _ _ _ unreplayed errorMessage spent
      | response | timer => cases taken
  | delivered | lost | stands | recovered => cases taken

end Delivering

section Replaying
variable {record after : Option WebhookFailure} {replay later : ReplayPhase} {answer : Answer}

/-- The call records that the request has failed once more. -/
def ReplayPhase.fails (replay : ReplayPhase) (answer : Answer) : Bool :=
  match replay, answer with
  | .posted status, .record => decide (¬ isOk status)
  | .caught _, .record => true
  | _, _ => false

/-- What a step of a call does to the record. -/
inductive ReplayEffect (record : Option WebhookFailure) (fails : Bool) (later : ReplayPhase) :
    Option WebhookFailure → Prop
  | keep (silent : record.isSome = true → fails = false) (undelivered : ¬ later.Delivered) :
      ReplayEffect record fails later record
  | mark (failure : WebhookFailure) (present : record = some failure) (silent : fails = false)
      (undelivered : ¬ later.Delivered) :
      ReplayEffect record fails later (some { failure with status := .retrying })
  | fail (failure : WebhookFailure) (present : record = some failure) (failed : fails = true)
      (undelivered : ¬ later.Delivered) (statusCode : Option Int) (errorMessage : String) :
      ReplayEffect record fails later (some { failure with
        status := .failed
        statusCode := statusCode
        errorMessage := some errorMessage
        attemptCount := failure.attemptCount + 1 })
  | deliver (failure : WebhookFailure) (present : record = some failure) (silent : fails = false)
      (delivered : later.Delivered) : ReplayEffect record fails later none

/-- A replay finds the record of a delivery that was given up, and it adds to the count of the
failures, or it has delivered and the record goes. -/
theorem account_replay {delivery : Delivery} {answers : List PostAnswer}
    {retries : Nat} {recovered : Prop} {row : Option FailureRow} {phase : DeliveryPhase} {fails : Bool}
    (account : DeliveryAccount delivery answers retries recovered row phase)
    (effect : ReplayEffect (row.map (·.failure)) fails later after) :
    DeliveryAccount delivery answers (retries + (fails && row.isSome).toNat)
      (recovered ∨ later.Delivered)
      (row.bind fun row => after.map fun failure => { row with failure := failure }) phase := by
  cases effect with
  | keep silent undelivered =>
      have same : (recovered ∨ later.Delivered) = recovered := by simp [undelivered]
      rw [same]
      cases row with
      | none => simpa using account
      | some row =>
          have quiet : fails = false := silent rfl
          simpa [quiet] using account
  | mark failure present silent undelivered =>
      have same : (recovered ∨ later.Delivered) = recovered := by simp [undelivered]
      rw [same, silent]
      cases account with
      | stands unrecovered errorMessage spent row made counted fresh =>
          obtain rfl : row.failure = failure := Option.some.inj present
          exact .stands unrecovered errorMessage spent _
            ⟨made.webhookId, made.url, made.payload, made.eventType⟩ counted fresh
      | _ => cases present
  | fail failure present failed undelivered statusCode message =>
      have same : (recovered ∨ later.Delivered) = recovered := by simp [undelivered]
      rw [same, failed]
      cases account with
      | stands unrecovered errorMessage spent row made counted fresh =>
          obtain rfl : row.failure = failure := Option.some.inj present
          refine .stands unrecovered errorMessage spent _
            ⟨made.webhookId, made.url, made.payload, made.eventType⟩ ?_ fun none => ?_
          · simp only [counted, Option.isSome_some, Bool.and_true, Bool.toNat_true]
            omega
          · simp at none
      | _ => cases present
  | deliver failure present silent delivered =>
      cases account with
      | stands unrecovered errorMessage spent row made counted fresh =>
          exact .recovered (.inr delivered) errorMessage spent
      | _ => cases present

variable [Hmac]

theorem effect_of_replay (taken : replayFailure record replay answer = some (after, later)) :
    ReplayEffect record (replay.fails answer) later after := by
  unfold replayFailure at taken
  split at taken
  case h_2 failure =>
    obtain ⟨current, rfl, same⟩ := Option.map_eq_some_iff.mp taken
    cases same
    exact .mark current rfl rfl (by simp [ReplayPhase.Delivered])
  case h_5 status =>
    obtain ⟨current, rfl, same⟩ := Option.map_eq_some_iff.mp taken
    split_ifs at same with ok
    · cases same
      exact .deliver current rfl (by simp [ReplayPhase.fails, ok]) ⟨status, rfl⟩
    · cases same
      exact .fail current rfl (by simp [ReplayPhase.fails, ok])
        (by simp [ReplayPhase.Delivered]) (some status) _
  case h_6 errorMessage =>
    obtain ⟨current, rfl, same⟩ := Option.map_eq_some_iff.mp taken
    cases same
    exact .fail current rfl rfl (by simp [ReplayPhase.Delivered]) current.statusCode _
  case h_1 =>
    split at taken
    case h_1 =>
      cases taken
      exact .keep (fun _ => rfl) (by simp [ReplayPhase.Delivered])
    case h_2 failure =>
      split at taken <;>
        cases taken <;> exact .keep (fun _ => rfl) (by simp [ReplayPhase.Delivered])
  case h_9 =>
    split_ifs at taken
    cases taken
    exact .keep (fun _ => rfl) (by simp [ReplayPhase.Delivered])
  case h_13 => cases taken
  all_goals
    cases taken
    exact .keep (fun _ => rfl) (by simp [ReplayPhase.Delivered])

/-- What a call has read of the record and makes of it: the request of the delivery, signed with
the secret there is now. -/
def ReplayPhase.Faithful (delivery : Delivery) : ReplayPhase → Prop
  | .checked failure | .marked failure =>
      failure.url = delivery.url ∧ failure.payload = delivery.body
  | .posting post =>
      post.url = delivery.url ∧ post.body = delivery.body ∧
        ∃ secret, post.signature = Hmac.sign secret delivery.body
  | _ => True

variable {delivery : Delivery}

theorem faithful_of_replay
    (made : ∀ failure, record = some failure →
      failure.url = delivery.url ∧ failure.payload = delivery.body)
    (faithful : replay.Faithful delivery)
    (taken : replayFailure record replay answer = some (after, later)) :
    later.Faithful delivery := by
  unfold replayFailure at taken
  split at taken
  case h_1 =>
    split at taken
    case h_1 =>
      cases taken
      trivial
    case h_2 failure =>
      split at taken <;> cases taken
      case h_3 => exact made failure rfl
      all_goals trivial
  case h_2 failure =>
    obtain ⟨current, rfl, same⟩ := Option.map_eq_some_iff.mp taken
    cases same
    exact faithful
  case h_3 failure found =>
    cases taken
    refine ⟨faithful.1, faithful.2, ?_⟩
    rw [← faithful.2]
    exact ⟨_, rfl⟩
  case h_5 status =>
    obtain ⟨current, rfl, same⟩ := Option.map_eq_some_iff.mp taken
    split_ifs at same <;> cases same <;> trivial
  case h_6 errorMessage =>
    obtain ⟨current, rfl, same⟩ := Option.map_eq_some_iff.mp taken
    cases same
    trivial
  case h_9 =>
    split_ifs at taken
    cases taken
    trivial
  case h_13 => cases taken
  all_goals
    cases taken
    trivial

/-- The call has found no record so far. -/
def ReplayPhase.Idle : ReplayPhase → Prop
  | .reading | .threw => True
  | .returned result => result.success = false
  | _ => False

theorem idle_of_replay (idle : replay.Idle)
    (taken : replayFailure none replay answer = some (after, later)) : later.Idle := by
  cases replay with
  | reading => cases answer <;> cases taken <;> trivial
  | _ => first | exact idle.elim | cases taken

end Replaying

section Working
variable {Call : Type}

/-- What an event tells of the delivery. -/
inductive Heard where
  | answer (answer : PostAnswer)
  | retry

def heard (system : Workers Call) (event : Arrival (Option Call) WorkerAnswer) : Option Heard :=
  match system.progress event.party, event.action with
  | .delivering phase, .delivery answer => (phase.answered answer).map .answer
  | .replaying replay, .replay answer =>
      if replay.fails answer && system.shared.isSome then some .retry else none
  | _, _ => none

/-- The answers to the requests of the delivery. -/
def answersIn (told : List (Option Heard)) : List PostAnswer :=
  told.filterMap fun
    | some (.answer answer) => some answer
    | _ => none

/-- How many replays have failed. -/
def retriesIn (told : List (Option Heard)) : Nat :=
  told.countP fun
    | some .retry => true
    | _ => false

section Hearing
variable (told : List (Option Heard))

@[simp] theorem answersIn_none : answersIn (told ++ [none]) = answersIn told := by
  simp [answersIn]

@[simp] theorem retriesIn_none : retriesIn (told ++ [none]) = retriesIn told := by
  simp [retriesIn]

@[simp] theorem answersIn_answer (answer : Option PostAnswer) :
    answersIn (told ++ [answer.map .answer]) = answersIn told ++ answer.toList := by
  cases answer <;> simp [answersIn]

@[simp] theorem retriesIn_answer (answer : Option PostAnswer) :
    retriesIn (told ++ [answer.map .answer]) = retriesIn told := by
  cases answer <;> simp [retriesIn]

@[simp] theorem answersIn_retry (failed : Bool) :
    answersIn (told ++ [if failed then some .retry else none]) = answersIn told := by
  cases failed <;> simp [answersIn]

@[simp] theorem retriesIn_retry (failed : Bool) :
    retriesIn (told ++ [if failed then some .retry else none]) = retriesIn told + failed.toNat := by
  cases failed <;> simp [retriesIn]

end Hearing

variable [Hmac] {delivery : Delivery}

/-- A call has reported that it has delivered. -/
def Recovered (progress : Option Call → WorkerPhase) : Prop :=
  ∃ call replay, progress (some call) = .replaying replay ∧ replay.Delivered

/-- What is known of the parties by what has been heard. -/
structure Consistent (delivery : Delivery) (told : List (Option Heard)) (system : Workers Call) :
    Prop where
  accounted : ∃ phase, system.progress none = .delivering phase ∧
    DeliveryAccount delivery (answersIn told) (retriesIn told) (Recovered system.progress)
      system.shared phase
  replays : ∀ call, ∃ replay, system.progress (some call) = .replaying replay ∧
    replay.Faithful delivery
  idle : system.progress none ≠ .delivering (.returned .persisted) → ∀ call replay,
    system.progress (some call) = .replaying replay → replay.Idle

theorem consistent_dispatched :
    Consistent delivery [] (dispatched : Workers Call) where
  accounted := by
    refine ⟨_, rfl, .posting ⟨rfl, ?_⟩ (by simp [answersIn]) (by decide)⟩
    rintro ⟨call, replay, started, status, delivered⟩
    cases started
    cases delivered
  replays call := ⟨.reading, rfl, trivial⟩
  idle _ call replay started := by
    cases started
    trivial

variable [DecidableEq Call] {told : List (Option Heard)} {system : Workers Call}

theorem consistent_still (consistent : Consistent delivery told system)
    {event : Arrival (Option Call) WorkerAnswer} (silent : heard system event = none)
    (still : next (work delivery) system event = none) :
    Consistent delivery (told ++ [heard system event]) (advance (work delivery) system event) := by
  have same : advance (work delivery) system event = system := by rw [advance, still]
  rw [same, silent]
  exact ⟨by simpa using consistent.accounted, consistent.replays, consistent.idle⟩

omit [Hmac] [DecidableEq Call] in
theorem answered_of_stuck {record : Option FailureRow} {phase : DeliveryPhase}
    {answer : DeliveryAnswer} (stuck : deliverWithRetry delivery record phase answer = none) :
    phase.answered answer = none := by
  cases phase with
  | posting attempt lastStatusCode =>
      cases answer with
      | response status =>
          rw [deliverWithRetry] at stuck
          split_ifs at stuck
      | error message => cases stuck
      | timer | created => rfl
  | _ => rfl

theorem consistent_delivery (consistent : Consistent delivery told system)
    (answer : WorkerAnswer) :
    Consistent delivery (told ++ [heard system ⟨none, answer⟩])
      (advance (work delivery) system ⟨none, answer⟩) := by
  obtain ⟨phase, here, account⟩ := consistent.accounted
  cases answer with
  | replay answer =>
      exact consistent_still consistent (by rw [heard, here]) (by rw [next, here]; rfl)
  | delivery answer =>
      have told_now : heard system ⟨none, .delivery answer⟩ = (phase.answered answer).map .answer := by
        rw [heard, here]
      cases taken : deliverWithRetry delivery system.shared phase answer with
      | none =>
          refine consistent_still consistent ?_ ?_
          · rw [told_now, answered_of_stuck taken, Option.map_none]
          · rw [next, here, work, taken, Option.map_none]
      | some result =>
          obtain ⟨after, later⟩ := result
          have moved : next (work delivery) system ⟨none, .delivery answer⟩ =
              some (after, .delivering later) := by
            rw [next, here, work, taken, Option.map_some]
          rw [told_now, advance_of_next moved]
          have calls : ∀ call : Call, Function.update system.progress none (.delivering later)
              (some call) = system.progress (some call) :=
            fun call => Function.update_of_ne (by simp) ..
          constructor
          · refine ⟨later, by dsimp only; rw [Function.update_self], ?_⟩
            have same : Recovered (Function.update system.progress none (.delivering later)) =
                Recovered system.progress := by
              simp only [Recovered, calls]
            rw [same, answersIn_answer, retriesIn_answer]
            exact account_delivery account taken
          · intro call
            simpa only [calls] using consistent.replays call
          · intro unfinished call
            simp only [calls]
            refine consistent.idle (fun finished => ?_) call
            obtain rfl : phase = .returned .persisted := by
              rw [here] at finished
              exact WorkerPhase.delivering.inj finished
            cases answer <;> cases taken

omit [DecidableEq Call] in
theorem fails_of_stuck {record : Option WebhookFailure} {replay : ReplayPhase} {answer : Answer}
    (stuck : replayFailure record replay answer = none) :
    (replay.fails answer && record.isSome) = false := by
  cases record with
  | none => exact Bool.and_false _
  | some failure =>
      rw [Option.isSome_some, Bool.and_true]
      cases replay with
      | posted status => cases answer <;> first | rfl | cases stuck
      | caught message => cases answer <;> first | rfl | cases stuck
      | _ => rfl

omit [Hmac] [DecidableEq Call] in
/-- A record stands only when the delivery has been given up, and it is that of the delivery. -/
theorem DeliveryAccount.made_of_some {answers : List PostAnswer} {retries : Nat} {recovered : Prop}
    {row : FailureRow} {phase : DeliveryPhase}
    (account : DeliveryAccount delivery answers retries recovered (some row) phase) :
    row.MadeBy delivery ∧ phase = .returned .persisted := by
  cases account with
  | stands unrecovered errorMessage spent row made => exact ⟨made, rfl⟩

omit [Hmac] in
/-- After a step of one call there is a delivery reported if there was one or the call reports it. -/
theorem recovered_update {progress : Option Call → WorkerPhase} {call : Call}
    {replay later : ReplayPhase} (here : progress (some call) = .replaying replay)
    (unreported : ¬ replay.Delivered) :
    Recovered (Function.update progress (some call) (.replaying later)) ↔
      Recovered progress ∨ later.Delivered := by
  constructor
  · rintro ⟨other, reported, found, delivered⟩
    by_cases same : other = call
    · subst same
      rw [Function.update_self] at found
      cases found
      exact .inr delivered
    · rw [Function.update_of_ne (by simpa using same)] at found
      exact .inl ⟨other, reported, found, delivered⟩
  · rintro (⟨other, reported, found, delivered⟩ | delivered)
    · have apart : other ≠ call := by
        rintro rfl
        cases here.symm.trans found
        exact unreported delivered
      exact ⟨other, reported, by rw [Function.update_of_ne (by simpa using apart), found], delivered⟩
    · exact ⟨call, later, Function.update_self .., delivered⟩

theorem consistent_call (consistent : Consistent delivery told system) (call : Call)
    (answer : WorkerAnswer) :
    Consistent delivery (told ++ [heard system ⟨some call, answer⟩])
      (advance (work delivery) system ⟨some call, answer⟩) := by
  obtain ⟨replay, here, faithful⟩ := consistent.replays call
  obtain ⟨phase, there, account⟩ := consistent.accounted
  cases answer with
  | delivery answer =>
      exact consistent_still consistent (by rw [heard, here]) (by rw [next, here]; rfl)
  | replay answer =>
      have told_now : heard system ⟨some call, .replay answer⟩ =
          if replay.fails answer && system.shared.isSome then some .retry else none := by
        rw [heard, here]
      cases taken : replayFailure (system.shared.map (·.failure)) replay answer with
      | none =>
          refine consistent_still consistent ?_ ?_
          · have silent := fails_of_stuck taken
            rw [Option.isSome_map] at silent
            rw [told_now, silent]
            rfl
          · rw [next, here, work, taken, Option.map_none]
      | some result =>
          obtain ⟨after, later⟩ := result
          have moved : next (work delivery) system ⟨some call, .replay answer⟩ =
              some (system.shared.bind fun row => after.map fun failure =>
                { row with failure := failure }, .replaying later) := by
            rw [next, here, work, taken, Option.map_some]
          rw [told_now, advance_of_next moved]
          have made : ∀ failure, system.shared.map (·.failure) = some failure →
              failure.url = delivery.url ∧ failure.payload = delivery.body := by
            intro failure found
            obtain ⟨row, stored, rfl⟩ := Option.map_eq_some_iff.mp found
            rw [stored] at account
            exact ⟨account.made_of_some.1.url, account.made_of_some.1.payload⟩
          have unreported : ¬ replay.Delivered := by
            rintro ⟨status, rfl⟩
            cases answer <;> cases taken
          constructor
          · refine ⟨phase, ?_, ?_⟩
            · dsimp only
              rw [Function.update_of_ne (by simp), there]
            · rw [propext (recovered_update here unreported), answersIn_retry, retriesIn_retry]
              exact account_replay account (effect_of_replay taken)
          · intro other
            by_cases same : other = call
            · subst same
              exact ⟨later, Function.update_self .., faithful_of_replay made faithful taken⟩
            · dsimp only
              rw [Function.update_of_ne (by simpa using same)]
              exact consistent.replays other
          · intro unfinished other reported found
            dsimp only at unfinished found
            rw [Function.update_of_ne (by simp)] at unfinished
            by_cases same : other = call
            · subst same
              rw [Function.update_self] at found
              cases found
              have absent : system.shared = none := by
                cases stored : system.shared with
                | none => rfl
                | some row =>
                    rw [stored] at account
                    rw [there, account.made_of_some.2] at unfinished
                    exact absurd rfl unfinished
              rw [absent, Option.map_none] at taken
              exact idle_of_replay (consistent.idle unfinished other replay here) taken
            · rw [Function.update_of_ne (by simpa using same)] at found
              exact consistent.idle unfinished other reported found

/-- Whatever happens, and in whatever order. -/
theorem consistent_run (events : List (Arrival (Option Call) WorkerAnswer)) :
    Consistent delivery (outputs (advance (work delivery)) heard dispatched events)
      (run (advance (work delivery)) dispatched events) := by
  induction events using List.reverseRecOn with
  | nil => exact consistent_dispatched
  | append_singleton events event ih =>
      rw [outputs_concat, run_concat]
      obtain ⟨_ | call, answer⟩ := event
      · exact consistent_delivery ih answer
      · exact consistent_call ih call answer

end Working

section Dispatching

/-- A call of `dispatchWebhooks`: the webhooks it finds, and the body it makes. -/
structure Dispatch where
  webhooks : List WebhookRow
  eventType : String
  body : String

def deliveriesOf (dispatches : List Dispatch) : List Delivery :=
  dispatches.flatMap fun dispatch =>
    dispatchWebhooks dispatch.webhooks dispatch.eventType dispatch.body

variable (dispatches : List Dispatch)

abbrev DeliveryId := Fin (deliveriesOf dispatches).length

def DeliveryId.delivery {dispatches : List Dispatch} (id : DeliveryId dispatches) : Delivery :=
  (deliveriesOf dispatches).get id

/-- The deliveries and the replays of all of them, each with its own record. -/
abbrev Webworkers (Call : Type) :=
  System (DeliveryId dispatches × Option Call) (DeliveryId dispatches → Option FailureRow) WorkerPhase

variable [Hmac] {Call : Type} [DecidableEq Call]

def allDispatched : Webworkers dispatches Call := ⟨fun _ => none, fun worker => firstPhase worker.2⟩

def webhooksAfter
    (events : List (Arrival (DeliveryId dispatches × Option Call) WorkerAnswer)) :
    Webworkers dispatches Call :=
  run (advance (beside fun id => work id.delivery)) (allDispatched dispatches) events

/-- What the events tell of one delivery. -/
def heardOf (id : DeliveryId dispatches)
    (events : List (Arrival (DeliveryId dispatches × Option Call) WorkerAnswer)) :
    List (Option Heard) :=
  outputs (advance (work id.delivery)) heard dispatched (events.filterMap (Arrival.inCell? id))

/-- The request whose response is awaited. -/
def WorkerPhase.request? (delivery : Delivery) : WorkerPhase → Option WebhookPost
  | .delivering (.posting _ _) => some delivery.post
  | .replaying (.posting post) => some post
  | _ => none

/-- Every active webhook gets its delivery. At any time, whatever the database and the receivers do
and in whatever order, that delivery is under way, or taken by its receiver, or refused a record by
the database, or its record stands and counts the attempts, or a replay has reported that it has
delivered; and all requests are for the same address and body. -/
theorem deliveries_accounted
    (events : List (Arrival (DeliveryId dispatches × Option Call) WorkerAnswer)) :
    (∀ dispatch ∈ dispatches, ∀ wh ∈ dispatch.webhooks, wh.active = true →
      ∃ id : DeliveryId dispatches, id.delivery =
        ⟨wh.id, wh.url, wh.secret, dispatch.eventType, dispatch.body⟩) ∧
    ∀ id : DeliveryId dispatches,
      let system := webhooksAfter dispatches events
      (∃ phase, system.progress (id, none) = .delivering phase ∧
        DeliveryAccount id.delivery (answersIn (heardOf dispatches id events))
          (retriesIn (heardOf dispatches id events))
          (Recovered fun worker => system.progress (id, worker)) (system.shared id) phase) ∧
      ∀ worker post, (system.progress (id, worker)).request? id.delivery = some post →
        post.url = id.delivery.url ∧ post.body = id.delivery.body ∧
          ∃ secret, post.signature = Hmac.sign secret id.delivery.body := by
  constructor
  · intro dispatch member wh there active
    have listed : (⟨wh.id, wh.url, wh.secret, dispatch.eventType, dispatch.body⟩ : Delivery) ∈
        deliveriesOf dispatches :=
      List.mem_flatMap.mpr ⟨dispatch, member,
        List.mem_map_of_mem (List.mem_filter.mpr ⟨there, active⟩)⟩
    obtain ⟨id, found⟩ := List.get_of_mem listed
    exact ⟨id, found⟩
  · intro id system
    have consistent := @consistent_run _ _ id.delivery _ (events.filterMap (Arrival.inCell? id))
    have inside : system.inCell id = run (advance (work id.delivery)) dispatched
        (events.filterMap (Arrival.inCell? id)) :=
      inCell_run _ id _ events
    rw [← inside] at consistent
    refine ⟨consistent.accounted, fun worker post asks => ?_⟩
    cases worker with
    | none =>
        obtain ⟨phase, here, -⟩ := consistent.accounted
        change system.progress (id, none) = .delivering phase at here
        rw [here] at asks
        cases phase with
        | posting attempt lastStatusCode =>
            obtain rfl := Option.some.inj asks
            exact ⟨rfl, rfl, _, rfl⟩
        | _ => cases asks
    | some call =>
        obtain ⟨replay, here, faithful⟩ := consistent.replays call
        change system.progress (id, some call) = .replaying replay at here
        rw [here] at asks
        cases replay with
        | posting request =>
            obtain rfl := Option.some.inj asks
            exact faithful
        | _ => cases asks

end Dispatching

end TrustLink.Indexer
