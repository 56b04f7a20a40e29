import TrustLink.Lib.Interleaving

/-!
`replayFailure` of webhooks.ts. Calls for one failure record are served by a process that
interleaves them at their awaits; each operation on the database is atomic. The status is
read by one operation and written by another.
-/
namespace TrustLink.Indexer
open Interleaving

inductive WebhookFailureStatus where
  | failed
  | retrying
  | recovered
  deriving DecidableEq, Repr

/-- The columns that a replay reads or writes. -/
structure WebhookFailure where
  webhookId : Option String
  url : String
  payload : String
  statusCode : Option Int
  errorMessage : Option String
  attemptCount : Int
  status : WebhookFailureStatus
  deriving DecidableEq, Repr

structure Webhook where
  secret : String

/-- `createHmac("sha256", secret).update(body).digest("hex")`. -/
class Hmac where
  sign : String → String → String

/-- The request that delivers a payload. -/
structure WebhookPost where
  url : String
  signature : String
  body : String

structure ReplayResult where
  success : Bool
  statusCode : Option Int
  error : Option String

/-- What a call waits for. -/
inductive ReplayPhase where
  | reading
  /-- It has found the record to be FAILED and marks it. -/
  | checked (failure : WebhookFailure)
  /-- It has marked the record and looks for the secret. -/
  | marked (failure : WebhookFailure)
  | posting (post : WebhookPost)
  /-- It has the response and records the outcome. -/
  | posted (status : Int)
  /-- Something has thrown after the request was made, and it records that. -/
  | caught (errorMessage : String)
  | returned (result : ReplayResult)
  | threw

/-- What the await of a call brings. -/
inductive Answer where
  /-- The database carries the operation on the record out. -/
  | record
  | webhook (found : Option Webhook)
  | response (status : Int)
  /-- The promise rejects. -/
  | error (message : String)

/-- `res.ok`. -/
def isOk (status : Int) : Prop := 200 ≤ status ∧ status ≤ 299

instance : DecidablePred isOk := fun status =>
  inferInstanceAs (Decidable (200 ≤ status ∧ status ≤ 299))

/-- `webhookId ? … : null`, for which an empty id is none. -/
def WebhookFailure.named (failure : WebhookFailure) : Bool := failure.webhookId.any (· ≠ "")

variable [Hmac]

/-- `replayFailure` from one await to the next. An update or a deletion of a record that is gone
cannot be carried out; its promise rejects. -/
def replayFailure (record : Option WebhookFailure) (replay : ReplayPhase) (answer : Answer) :
    Option (Option WebhookFailure × ReplayPhase) :=
  match replay, answer with
  | .reading, .record =>
      match record with
      | none => some (record, .returned ⟨false, none, some "Not found"⟩)
      | some failure =>
          match failure.status with
          | .recovered => some (record, .returned ⟨true, none, none⟩)
          | .retrying => some (record, .returned ⟨false, none, some "Retry already in progress"⟩)
          | .failed => some (record, .checked failure)
  | .checked failure, .record =>
      record.map fun current => (some { current with status := .retrying }, .marked failure)
  | .marked failure, .webhook found =>
      let secret := if failure.named then (found.map (·.secret)).getD "" else ""
      some (record, .posting ⟨failure.url, Hmac.sign secret failure.payload, failure.payload⟩)
  | .posting _, .response status => some (record, .posted status)
  | .posted status, .record =>
      record.map fun current =>
        if isOk status then (none, .returned ⟨true, some status, none⟩)
        else (some { current with
            status := .failed
            statusCode := some status
            errorMessage := some ("HTTP " ++ toString status)
            attemptCount := current.attemptCount + 1 },
          .returned ⟨false, some status, some ("HTTP " ++ toString status)⟩)
  | .caught errorMessage, .record =>
      record.map fun current =>
        (some { current with
            status := .failed
            errorMessage := some errorMessage
            attemptCount := current.attemptCount + 1 },
          .returned ⟨false, none, some errorMessage⟩)
  -- what the try block awaits is caught, all else ends the call
  | .posting _, .error message | .posted _, .error message => some (record, .caught message)
  | .marked failure, .error _ => if failure.named then some (record, .threw) else none
  | .reading, .error _ | .checked _, .error _ | .caught _, .error _ => some (record, .threw)
  | _, _ => none

/-- Between marking the record and recording the outcome. -/
def ReplayPhase.Retrying : ReplayPhase → Prop
  | .marked _ | .posting _ | .posted _ | .caught _ => True
  | _ => False

/-- The call reports a delivery. -/
def ReplayPhase.Delivered (replay : ReplayPhase) : Prop :=
  ∃ status, replay = .returned ⟨true, some status, none⟩

/-- What a step of a call does: it marks the record, records an outcome, or leaves the record
alone. -/
inductive Turn (record : Option WebhookFailure) (replay : ReplayPhase) (answer : Answer)
    (after : Option WebhookFailure) (later : ReplayPhase) : Prop
  | mark (failure current : WebhookFailure) (found : replay = .checked failure)
      (carried : answer = .record) (present : record = some current)
      (written : after = some { current with status := .retrying }) (next : later = .marked failure)
  | outcome (retrying : replay.Retrying) (present : record ≠ none)
      (ended : ∃ result, later = .returned result)
      (settled : ∀ current, after = some current → current.status = .failed)
      (deleted : later.Delivered → after = none)
  | wait (same : after = record) (within : later.Retrying → replay.Retrying)
      (undelivered : ¬ later.Delivered)
      (read : ∀ failure, later = .checked failure →
        ∃ current, record = some current ∧ current.status = .failed)
      (stays : (∀ message, answer ≠ .error message) → replay.Retrying → later.Retrying)

omit [Hmac] in
/-- A call that gives up leaves the record as failed. -/
theorem Turn.failed {record : Option WebhookFailure} {replay : ReplayPhase} {answer : Answer}
    {current written : WebhookFailure} {result : ReplayResult} (retrying : replay.Retrying)
    (present : record = some current) (failed : written.status = .failed)
    (undelivered : ¬ (ReplayPhase.returned result).Delivered) :
    Turn record replay answer (some written) (.returned result) := by
  refine .outcome retrying (by simp [present]) ⟨result, rfl⟩ (fun other same => ?_)
    fun delivered => absurd delivered undelivered
  obtain rfl := Option.some.inj same
  exact failed

theorem turn_of_replay {record after : Option WebhookFailure} {replay later : ReplayPhase}
    {answer : Answer} (taken : replayFailure record replay answer = some (after, later)) :
    Turn record replay answer after later := by
  unfold replayFailure at taken
  split at taken
  case h_2 failure =>
    obtain ⟨current, present, same⟩ := Option.map_eq_some_iff.mp taken
    cases same
    exact .mark failure current rfl rfl present rfl rfl
  case h_5 status =>
    obtain ⟨current, present, same⟩ := Option.map_eq_some_iff.mp taken
    split_ifs at same
    · cases same
      exact .outcome trivial (by simp [present]) ⟨_, rfl⟩ nofun fun _ => rfl
    · cases same
      exact .failed trivial present rfl (by simp [ReplayPhase.Delivered])
  case h_6 errorMessage =>
    obtain ⟨current, present, same⟩ := Option.map_eq_some_iff.mp taken
    cases same
    exact .failed trivial present rfl (by simp [ReplayPhase.Delivered])
  case h_1 =>
    split at taken
    case h_1 =>
      cases taken
      exact .wait rfl False.elim (by simp [ReplayPhase.Delivered]) nofun fun _ => False.elim
    case h_2 failure =>
      split at taken
      case h_3 status =>
        cases taken
        refine .wait rfl False.elim (by simp [ReplayPhase.Delivered]) (fun other same => ?_)
          fun _ => False.elim
        exact ⟨failure, rfl, status⟩
      all_goals
        cases taken
        exact .wait rfl False.elim (by simp [ReplayPhase.Delivered]) nofun fun _ => False.elim
  -- the secret, the response and what the try block catches
  case h_3 | h_4 | h_7 | h_8 =>
    cases taken
    exact .wait rfl (fun _ => trivial) (by simp [ReplayPhase.Delivered]) nofun fun _ _ => trivial
  -- what ends the call
  case h_9 =>
    split_ifs at taken
    cases taken
    exact .wait rfl False.elim (by simp [ReplayPhase.Delivered]) nofun
      fun calm => absurd rfl (calm _)
  case h_10 | h_11 | h_12 =>
    cases taken
    exact .wait rfl False.elim (by simp [ReplayPhase.Delivered]) nofun
      fun calm => absurd rfl (calm _)
  case h_13 => cases taken

section Calls
variable {Call : Type} [DecidableEq Call]

/-- Each call for the record runs the same function. -/
def replays (_ : Call) : Option WebhookFailure → ReplayPhase → Answer →
    Option (Option WebhookFailure × ReplayPhase) := replayFailure

abbrev Replays (Call : Type) := System Call (Option WebhookFailure) ReplayPhase

/-- Before any call has read the record. -/
def unreplayed (record : Option WebhookFailure) : Replays Call := ⟨record, fun _ => .reading⟩

/-- At most one call retries, and at most one has reported a delivery. -/
structure Excluded (system : Replays Call) : Prop where
  window : Exclusive ReplayPhase.Retrying system
  delivery : Exclusive ReplayPhase.Delivered system

/-- A call that has found the record FAILED marks it, and it is RETRYING by now. -/
def MarksRetrying (system : Replays Call) (event : Arrival Call Answer) : Prop :=
  ∃ failure current, system.progress event.party = .checked failure ∧ event.action = .record ∧
    system.shared = some current ∧ current.status = .retrying

variable {system : Replays Call} {event : Arrival Call Answer}

/-- An event takes one call a turn further, or changes nothing. -/
theorem turn_cases (system : Replays Call) (event : Arrival Call Answer) :
    (∃ after later, next replays system event = some (after, later) ∧
      Turn system.shared (system.progress event.party) event.action after later) ∨
      advance replays system event = system := by
  rcases advance_cases system event with ⟨after, later, taken, -⟩ | same
  · exact .inl ⟨after, later, taken, turn_of_replay (show replayFailure _ _ _ = _ from taken)⟩
  · exact .inr same

/-- While a call retries, the record says so. -/
def Marked (system : Replays Call) : Prop :=
  ∀ call, (system.progress call).Retrying →
    ∃ current, system.shared = some current ∧ current.status = .retrying

/-- After a delivery the record is gone. -/
def Gone (system : Replays Call) : Prop :=
  ∀ call, (system.progress call).Delivered → system.shared = none

/-- A record that says so is being retried, or nobody is about to mark it. -/
def Owned (system : Replays Call) : Prop :=
  ∀ current, system.shared = some current → current.status = .retrying →
    (∃ call, (system.progress call).Retrying) ∨
      ∀ call failure, system.progress call ≠ .checked failure

theorem marked_step (marked : Marked system) (window : Exclusive ReplayPhase.Retrying system) :
    Marked (advance replays system event) := by
  rcases turn_cases system event with ⟨after, later, taken, turn⟩ | same
  · intro call retrying
    rw [shared_of_next taken]
    rcases progress_cases taken call with ⟨rfl, now⟩ | ⟨apart, kept⟩
    · rw [now] at retrying
      cases turn with
      | mark failure current found carried present written => exact ⟨_, written, rfl⟩
      | outcome leaving present ended =>
          obtain ⟨result, rfl⟩ := ended
          exact retrying.elim
      | wait same within => exact same ▸ marked event.party (within retrying)
    · rw [kept] at retrying
      cases turn with
      | mark failure current found carried present written => exact ⟨_, written, rfl⟩
      -- the call that leaves was the only one
      | outcome leaving => exact absurd (window call event.party retrying leaving) apart
      | wait same => exact same ▸ marked call retrying
  · rwa [same]

theorem window_step (marked : Marked system) (window : Exclusive ReplayPhase.Retrying system)
    (passed : ¬ MarksRetrying system event) :
    Exclusive ReplayPhase.Retrying (advance replays system event) := by
  rw [exclusive_advance_iff window]
  rintro ⟨⟨outside, after, later, taken, retrying⟩, other, -, present⟩
  cases turn_of_replay (show replayFailure _ _ _ = _ from taken) with
  | mark failure current found carried here =>
      obtain ⟨shown, same, status⟩ := marked other present
      exact passed ⟨failure, shown, found, carried, same, status⟩
  | outcome leaving => exact outside leaving
  | wait _ within => exact outside (within retrying)

theorem gone_step (gone : Gone system) : Gone (advance replays system event) := by
  rcases turn_cases system event with ⟨after, later, taken, turn⟩ | same
  · intro call delivered
    rw [shared_of_next taken]
    rcases progress_cases taken call with ⟨rfl, now⟩ | ⟨apart, kept⟩
    · rw [now] at delivered
      cases turn with
      | mark failure current found carried present written goesOn =>
          obtain ⟨status, same⟩ := delivered
          cases goesOn.symm.trans same
      | outcome leaving present ended settled deleted => exact deleted delivered
      | wait same within undelivered => exact absurd delivered undelivered
    · rw [kept] at delivered
      have none := gone call delivered
      cases turn with
      | mark failure current found carried present => cases present.symm.trans none
      | outcome leaving present => exact absurd none present
      | wait same => exact same.trans none
  · rwa [same]

theorem delivery_step (gone : Gone system) (delivery : Exclusive ReplayPhase.Delivered system) :
    Exclusive ReplayPhase.Delivered (advance replays system event) := by
  rw [exclusive_advance_iff delivery]
  rintro ⟨⟨-, after, later, taken, delivered⟩, other, -, reported⟩
  have none := gone other reported
  cases turn_of_replay (show replayFailure _ _ _ = _ from taken) with
  | mark failure current found carried here written goesOn =>
      obtain ⟨status, same⟩ := delivered
      cases goesOn.symm.trans same
  | outcome leaving present => exact present none
  | wait _ _ undelivered => exact undelivered delivered

theorem owned_step (owned : Owned system) (calm : ∀ message, event.action ≠ .error message) :
    Owned (advance replays system event) := by
  rcases turn_cases system event with ⟨after, later, taken, turn⟩ | same
  · intro current shown status
    rw [shared_of_next taken] at shown
    have now : (advance replays system event).progress event.party = later := by
      rw [advance_of_next taken]
      exact Function.update_self ..
    cases turn with
    | mark failure old found carried present written goesOn =>
        exact .inl ⟨event.party, by rw [now, goesOn]; trivial⟩
    | outcome leaving present ended settled => cases status.symm.trans (settled current shown)
    | wait same within undelivered read stays =>
        rw [same] at shown
        rcases owned current shown status with ⟨call, retrying⟩ | unread
        · refine .inl ⟨call, ?_⟩
          rcases progress_cases taken call with ⟨rfl, here⟩ | ⟨-, kept⟩
          · rw [here]
            exact stays calm retrying
          · rwa [kept]
        · refine .inr fun call failure checked => ?_
          rcases progress_cases taken call with ⟨rfl, here⟩ | ⟨-, kept⟩
          · -- a call that goes on to mark the record has not found it RETRYING
            obtain ⟨other, found, failed⟩ := read failure (here.symm.trans checked)
            obtain rfl := Option.some.inj (found.symm.trans shown)
            cases status.symm.trans failed
          · exact unread call failure (kept.symm.trans checked)
  · rwa [same]

theorem window_lost (owned : Owned system) (marks : MarksRetrying system event) :
    ¬ Exclusive ReplayPhase.Retrying (advance replays system event) := by
  obtain ⟨failure, current, found, carried, shown, status⟩ := marks
  intro exclusive
  have taken : next replays system event =
      some (some { current with status := .retrying }, .marked failure) := by
    rw [next, found, carried, shown]
    rfl
  rcases owned current shown status with ⟨call, retrying⟩ | unread
  · rcases progress_cases taken call with ⟨rfl, -⟩ | ⟨apart, kept⟩
    · rw [found] at retrying
      exact retrying
    · refine apart (exclusive call event.party (by rwa [kept]) ?_)
      rw [advance_of_next taken]
      dsimp only
      rw [Function.update_self]
      trivial
  · exact unread event.party failure found

/-- The calls exclude each other in every state that they pass through. -/
def AlwaysExcluded (record : Option WebhookFailure) (events : List (Arrival Call Answer)) : Prop :=
  ∀ early late, events = early ++ late →
    Excluded (Trace.run (advance replays) (unreplayed record) early)

/-- Whenever a call marks the record, it is not RETRYING. -/
def MarksFresh (record : Option WebhookFailure) (events : List (Arrival Call Answer)) : Prop :=
  Trace.Each (advance replays) (fun system event => ¬ MarksRetrying system event)
    (unreplayed record) events

omit [DecidableEq Call] [Hmac] in
theorem excluded_unreplayed (record : Option WebhookFailure) :
    Excluded (unreplayed record : Replays Call) where
  window _ _ retrying := retrying.elim
  delivery _ _ delivered := nomatch delivered.choose_spec

omit [DecidableEq Call] [Hmac] in
theorem gone_unreplayed (record : Option WebhookFailure) :
    Gone (unreplayed record : Replays Call) :=
  fun _ delivered => nomatch delivered.choose_spec

/-- The calls exclude each other when each of them marks a record that is not RETRYING. As long
as no promise rejects, they do so in no other case. -/
theorem replays_excluded (record : Option WebhookFailure) (events : List (Arrival Call Answer)) :
    (MarksFresh record events → AlwaysExcluded record events) ∧
      ((∀ event ∈ events, ∀ message, event.action ≠ .error message) →
        AlwaysExcluded record events → MarksFresh record events) := by
  constructor
  · rintro fresh early late rfl
    refine (@Trace.invariant_of_each _ _ (advance replays) _
      (fun system : Replays Call => Excluded system ∧ Marked system ∧ Gone system)
      (fun system event holds passed => ?_) _ _ ⟨excluded_unreplayed record, fun _ => False.elim,
        gone_unreplayed record⟩ (Trace.each_append.mp fresh).1).1
    obtain ⟨⟨window, delivery⟩, marked, gone⟩ := holds
    exact ⟨⟨window_step marked window passed, delivery_step gone delivery⟩,
      marked_step marked window, gone_step gone⟩
  · intro calm always
    refine (@Trace.always_iff_each_of _ _ (advance replays)
      (fun event => ∀ message, event.action ≠ .error message) _
      (fun system : Replays Call => Marked system ∧ Gone system ∧ Owned system) _
      (fun system event calm support excluded => ?_) _ ⟨fun _ => False.elim,
        gone_unreplayed record, fun _ _ _ => .inr fun _ _ => nofun⟩ (excluded_unreplayed record) _
      calm).mp always
    obtain ⟨marked, gone, owned⟩ := support
    refine ⟨⟨marked_step marked excluded.window, gone_step gone, owned_step owned calm⟩, ?_, ?_⟩
    · exact fun kept marks => window_lost owned marks kept.window
    · exact fun passed => ⟨window_step marked excluded.window passed,
        delivery_step gone excluded.delivery⟩

end Calls

section Overlap

/-- Two calls read the record before either of them marks it. -/
def overlap : List (Arrival Nat Answer) :=
  [⟨1, .record⟩, ⟨2, .record⟩, ⟨1, .record⟩, ⟨2, .record⟩]

omit [Hmac] in
theorem overlapping_replays :
    ¬ ∀ (_ : Hmac) (record : Option WebhookFailure) (events : List (Arrival Nat Answer)),
      AlwaysExcluded record events := by
  intro always
  have both := (always ⟨fun _ _ => ""⟩
    (some ⟨some "hook", "https://hook", "payload", none, none, 5, .failed⟩) overlap overlap []
    (List.append_nil _).symm).window 1 2 trivial trivial
  cases both

end Overlap

end TrustLink.Indexer
