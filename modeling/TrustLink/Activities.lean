import TrustLink.Lib.Confined
import TrustLink.Postings
import TrustLink.Questions
import TrustLink.Warrants

/-!
The contract as its users see it: calls and questions in any order. A question writes nothing,
but it may publish that a claim is about to expire or has expired, so questions leave their marks
in the log between the events of the calls.
-/
namespace TrustLink
open Transaction

section Reports
variable {Address : Type}

/-- Nothing has happened but that reports were published. -/
structure Reports (before after : World Address) : Prop where
  storage : after.storage = before.storage
  payments : after.payments = before.payments
  events : ∃ fresh, after.events = before.events ++ fresh ∧
    ∀ event ∈ fresh, event.topic = .reports

instance : IsPreorder (World Address) Reports where
  refl world := ⟨rfl, rfl, [], (List.append_nil _).symm, by simp⟩
  trans := by
    rintro first second third ⟨stored, paid, early, grown, reports⟩
      ⟨storedLater, paidLater, late, grownLater, reportsLater⟩
    refine ⟨storedLater.trans stored, paidLater.trans paid, early ++ late, ?_, fun event member => ?_⟩
    · rw [grownLater, grown, List.append_assoc]
    · exact (List.mem_append.mp member).elim (reports event) (reportsLater event)

theorem reports_emit {event : Event Address} (report : event.topic = .reports) :
    Confined Reports (emit event) :=
  confined_modify fun _ => ⟨rfl, rfl, [event], rfl, by simp [report]⟩

theorem reports_load {α : Type} (field : Storage Address → α) : Confined Reports (load field) :=
  confined_reads _

theorem reports_ledgerTimestamp :
    Confined Reports (ledgerTimestamp : Program Address Nat) :=
  confined_ask.bind fun env => confined_pure env.timestamp

namespace Query

theorem reports_reportValid (subject : Address) (id : Str) (attestation : Attestation Address)
    (currentTime : Nat) : Confined Reports (reportValid subject id attestation currentTime) := by
  refine Confined.bind ?_ fun _ => confined_pure true
  refine (reports_load _).bind fun hook => ?_
  cases hook with
  | none => exact confined_pure ()
  | some hook =>
      dsimp only
      split
      · exact reports_emit rfl
      · exact confined_pure ()

theorem reports_hasValidClaim (subject : Address) (claimType : Str) :
    Confined Reports (hasValidClaim subject claimType) := by
  refine (reports_load _).bind fun ids => reports_ledgerTimestamp.bind fun now => ?_
  refine confined_search (fun id => ?_) ids
  refine (reports_load _).bind fun attestation => ?_
  cases attestation with
  | none => exact confined_pure false
  | some attestation =>
      dsimp only
      split
      · exact confined_pure false
      · split
        · exact reports_reportValid subject id attestation now
        · exact confined_pure false

theorem reports_hasValidClaimFromIssuer [DecidableEq Address] (subject : Address) (claimType : Str)
    (issuer : Address) : Confined Reports (hasValidClaimFromIssuer subject claimType issuer) := by
  refine (reports_load _).bind fun ids => reports_ledgerTimestamp.bind fun now => ?_
  refine confined_search (fun id => (reports_load _).bind fun attestation => ?_) ids
  cases attestation with
  | none => exact confined_pure false
  | some attestation =>
      dsimp only
      split
      · exact confined_pure false
      · split
        · split
          · exact reports_reportValid subject id attestation now
          · exact (reports_emit rfl).bind fun _ => confined_pure false
          · exact confined_pure false
        · exact confined_pure false

theorem reports_hasAnyClaim (subject : Address) (claimTypes : List Str) :
    Confined Reports (hasAnyClaim subject claimTypes) := by
  unfold hasAnyClaim
  split
  · exact confined_pure false
  · refine (reports_load _).bind fun ids => reports_ledgerTimestamp.bind fun now => ?_
    refine confined_search (fun claimType => confined_search (fun id => ?_) ids) claimTypes
    refine (reports_load _).bind fun attestation => ?_
    cases attestation with
    | none => exact confined_pure false
    | some attestation =>
        dsimp only
        split
        · exact reports_reportValid subject id attestation now
        · exact confined_pure false

theorem reports_hasAllClaims (subject : Address) (claimTypes : List Str) :
    Confined Reports (hasAllClaims subject claimTypes) := by
  unfold hasAllClaims
  split
  · exact confined_pure true
  · refine (reports_load _).bind fun ids => reports_ledgerTimestamp.bind fun now => ?_
    refine confined_every (fun claimType => confined_search (fun id => ?_) ids) claimTypes
    refine (reports_load _).bind fun attestation => ?_
    cases attestation with
    | none => exact confined_pure false
    | some attestation => exact confined_pure _

theorem reports_stored (id : Str) :
    Confined Reports (Storage.getAttestation id : Program Address (Attestation Address)) :=
  confined_of_same fun _ _ _ _ returned => ((Storage.returns_getAttestation ..).mp returned).2

theorem reports_getAttestation (id : Str) :
    Confined Reports (getAttestation id : Program Address (Attestation Address)) :=
  (reports_stored id).bind fun attestation =>
    (confined_failIf _ _).bind fun _ => confined_pure attestation

theorem reports_getAttestationStatus (id : Str) :
    Confined Reports (getAttestationStatus id : Program Address AttestationStatus) := by
  refine (reports_stored id).bind fun attestation => (confined_failIf _ _).bind fun _ =>
    reports_ledgerTimestamp.bind fun now => ?_
  dsimp only
  split
  · exact (reports_emit rfl).bind fun _ => confined_pure _
  · exact confined_pure _

theorem reports_validClaimsLoop (now : Nat) (ids result : List Str) :
    Confined Reports (validClaimsLoop now ids result : Program Address (List Str)) := by
  induction ids generalizing result with
  | nil => exact confined_pure result
  | cons id rest ih =>
      refine (reports_load _).bind fun attestation => ?_
      cases attestation with
      | none => exact ih result
      | some attestation =>
          dsimp only
          split
          · split
            · exact ih result
            · exact ih _
          · exact ih result

theorem reports_validCountLoop (now : Nat) (ids : List Str) (count : Nat) :
    Confined Reports (validCountLoop now ids count : Program Address Nat) := by
  induction ids generalizing count with
  | nil => exact confined_pure count
  | cons id rest ih =>
      refine (reports_load _).bind fun attestation => ?_
      cases attestation with
      | none => exact ih count
      | some attestation =>
          dsimp only
          split
          · exact ((confined_failIf _ _).bind fun _ => confined_pure _).bind ih
          · exact ih count

theorem reports_attestationByTypeLoop (claimType : Str) (now : Nat) (ids : List Str)
    (index : Nat) :
    Confined Reports (attestationByTypeLoop claimType now ids index :
      Program Address (Option (Attestation Address))) := by
  induction index with
  | zero => exact confined_pure none
  | succ index ih =>
      unfold attestationByTypeLoop
      split
      · exact ih
      · refine (reports_load _).bind fun attestation => ?_
        cases attestation with
        | none => exact ih
        | some attestation =>
            dsimp only
            split
            · exact confined_pure _
            · exact ih

theorem reports_recordsLoop (ids : List Str) (result : List (Attestation Address)) :
    Confined Reports (recordsLoop ids result) := by
  induction ids generalizing result with
  | nil => exact confined_pure result
  | cons id rest ih =>
      refine (reports_load _).bind fun attestation => ?_
      cases attestation with
      | none => exact ih result
      | some attestation => exact ih _

theorem reports_pickLoop (keep : Attestation Address → Bool) (ids result : List Str) :
    Confined Reports (pickLoop keep ids result) :=
  confined_of_same fun _ _ _ _ returned => ((returns_pickLoop ..).mp returned).2

theorem reports_undeletedLoop (ids result : List Str) :
    Confined Reports (undeletedLoop ids result : Program Address (List Str)) :=
  confined_of_same fun _ _ _ _ returned => ((returns_undeletedLoop ..).mp returned).2

theorem reports_paginate (ids : List Str) (start limit : Nat) :
    Confined Reports (ChunkedIndex.paginate ids start limit : Program Address (List Str)) :=
  confined_of_same fun _ _ _ _ returned => ((ChunkedIndex.returns_paginate ..).mp returned).2.2

theorem reports_getIds (side : ChunkedIndex.Side) (owner : Address) :
    Confined Reports (ChunkedIndex.getIds side owner) :=
  confined_of_same fun _ _ _ _ returned => ((ChunkedIndex.returns_getIds ..).mp returned).2

theorem reports_getPage (side : ChunkedIndex.Side) (owner : Address) (start limit : Nat) :
    Confined Reports (ChunkedIndex.getPage side owner start limit) :=
  (reports_getIds side owner).bind fun ids => reports_paginate ids start limit

theorem reports_rangePage (filtered : List (Attestation Address)) (startIndex limit : Nat) :
    Confined Reports (rangePage filtered startIndex limit) :=
  confined_of_same fun _ _ _ _ returned => ((returns_rangePage ..).mp returned).2.2

theorem reports_getAttestationsInRangeAfter (subject : Address) (fromTs toTs : Nat)
    (cursor : Option Str) (limit : Nat) :
    Confined Reports (getAttestationsInRangeAfter subject fromTs toTs cursor limit) := by
  unfold getAttestationsInRangeAfter
  split
  · exact confined_pure []
  · refine (reports_load _).bind fun ids => Confined.bind ?_ fun filtered => ?_
    · exact confined_of_same fun _ _ _ _ returned => ((returns_rangeLoop ..).mp returned).2
    · cases cursor with
      | none => exact reports_rangePage filtered 0 limit
      | some cursorId =>
          refine (reports_load _).bind fun attestation => ?_
          cases attestation with
          | none => exact confined_pure []
          | some attestation =>
              dsimp only
              split
              · exact confined_pure []
              · exact reports_rangePage filtered _ limit

end Query

theorem reports_getConfidenceScore (id : Str) :
    Confined Reports (Contract.getConfidenceScore id : Program Address (Option Nat)) := by
  refine (reports_load _).bind fun attestation => ?_
  cases attestation with
  | none => exact confined_pure none
  | some attestation =>
      refine (reports_load _).bind fun tier => (reports_load _).bind fun endorsements => ?_
      exact ((confined_failIf _ _).bind fun _ => confined_pure _).bind fun _ => confined_pure _

/-- No question does more than to publish reports. -/
theorem Question.reports [DecidableEq Address] (question : Question Address) :
    Confined Reports question.exec := by
  cases question with
  | hasValidClaim subject claimType => exact Query.reports_hasValidClaim subject claimType
  | hasValidClaimFromIssuer subject claimType issuer =>
      exact Query.reports_hasValidClaimFromIssuer subject claimType issuer
  | hasAnyClaim subject claimTypes => exact Query.reports_hasAnyClaim subject claimTypes
  | hasAllClaims subject claimTypes => exact Query.reports_hasAllClaims subject claimTypes
  | getAttestation id => exact Query.reports_getAttestation id
  | getDelegation delegator delegate claimType =>
      exact reports_load fun storage => storage.delegation delegator delegate claimType
  | getAttestationStatus id => exact Query.reports_getAttestationStatus id
  | getSubjectAttestations subject start limit =>
      exact (Query.reports_getPage _ _ _ _).bind fun ids => Query.reports_undeletedLoop ids []
  | getAttestationsInRange subject fromTs toTs start limit =>
      exact (reports_load _).bind fun ids => (Query.reports_pickLoop _ ids []).bind fun filtered =>
        (Query.reports_paginate filtered start limit).bind fun page =>
          Query.reports_recordsLoop page []
  | getAttestationsInRangeAfter subject fromTs toTs cursor limit =>
      exact Query.reports_getAttestationsInRangeAfter subject fromTs toTs cursor limit
  | getAttestationsByTag subject tag =>
      exact (reports_load _).bind fun ids => Query.reports_pickLoop _ ids []
  | getAttestationsByJurisdiction subject jurisdiction start limit =>
      exact (reports_load _).bind fun ids => (Query.reports_pickLoop _ ids []).bind fun filtered =>
        Query.reports_paginate filtered start limit
  | getIssuerAttestations issuer start limit =>
      exact (Query.reports_getPage _ _ _ _).bind fun ids => Query.reports_undeletedLoop ids []
  | getIssuerAttestationCount issuer => exact (reports_load _).bind fun ids => confined_pure _
  | getValidClaims subject =>
      exact reports_ledgerTimestamp.bind fun now => (reports_load _).bind fun ids =>
        Query.reports_validClaimsLoop now ids []
  | getAttestationByType subject claimType =>
      exact (reports_load _).bind fun ids => reports_ledgerTimestamp.bind fun now =>
        Query.reports_attestationByTypeLoop claimType now ids ids.length
  | getSubjectAttestationCount subject =>
      exact (Query.reports_getIds _ _).bind fun ids => confined_pure _
  | getValidClaimCount subject =>
      exact reports_ledgerTimestamp.bind fun now => (reports_load _).bind fun ids =>
        Query.reports_validCountLoop now ids 0
  | getGlobalStats => exact reports_load _
  | getConfidenceScore id => exact reports_getConfidenceScore id

end Reports

section Lives
variable {Address : Type} [DecidableEq Address] [Host Address]

inductive Activity (Address : Type) where
  | call (call : Call Address)
  | ask (env : Env Address) (question : Question Address)

/-- A question that fails has reported nothing. -/
def act (world : World Address) : Activity Address → World Address
  | .call call => step world call
  | .ask env question =>
      match question.exec env world with
      | .ok (_, after) => after
      | .error _ => world

/-- The world after calls and questions on a freshly deployed contract. -/
abbrev live (activities : List (Activity Address)) : World Address :=
  Trace.run act (World.empty Address) activities

theorem reports_ask (world : World Address) (env : Env Address) (question : Question Address) :
    Reports world (act world (.ask env question)) := by
  cases outcome : question.exec env world with
  | ok pair =>
      simp only [act, outcome]
      exact question.reports env world pair.1 pair.2 outcome
  | error fault =>
      simp only [act, outcome]
      exact refl_of Reports world

theorem live_concat (activities : List (Activity Address)) (activity : Activity Address) :
    live (activities ++ [activity]) = act (live activities) activity :=
  Trace.run_concat ..

/-- What accepted calls keep of storage holds whatever is asked in between. -/
theorem invariant_of_live {invariant : Storage Address → Prop}
    (initial : invariant (Storage.empty Address))
    (keeps : ∀ before call after, invariant before.storage → Accepted before call after →
      invariant after.storage) (activities : List (Activity Address)) :
    invariant (live activities).storage := by
  refine @Trace.invariant_of_steps _ _ act (fun world => invariant world.storage)
    (fun world activity holds => ?_) _ initial activities
  cases activity with
  | call call =>
      rcases step_cases world call with accepted | same
      · exact keeps world call _ holds accepted
      · exact congrArg World.storage same ▸ holds
  | ask env question => exact (reports_ask world env question).storage ▸ holds

theorem keyed_live (activities : List (Activity Address)) :
    Keyed (live activities).storage.register :=
  @invariant_of_live _ _ _ (fun storage => Keyed storage.register) keyed_empty
    (fun _ _ _ => keyed_of_accepted) activities

/-- What the log tells of every call accepted along the way it tells of every stretch, as long
as the observer passes over the reports. -/
theorem log_told {View : Type} {view : Storage Address → View}
    {absorb : View → Event Address → View}
    (silent : ∀ event : Event Address, event.topic = .reports → ∀ seen, absorb seen event = seen)
    (told : ∀ activities call after, Accepted (live activities) call after →
      EventLog.Tells World.events (fun world => view world.storage) absorb (live activities) after)
    (early late : List (Activity Address)) :
    EventLog.Tells World.events (fun world => view world.storage) absorb (live early)
      (live (early ++ late)) := by
  induction late using List.reverseRecOn with
  | nil =>
      rw [List.append_nil]
      exact EventLog.tells_refl ..
  | append_singleton late activity ih =>
      rw [← List.append_assoc, live_concat]
      refine ih.trans ?_
      cases activity with
      | call call =>
          rcases step_cases (live (early ++ late)) call with accepted | same
          · exact told (early ++ late) call _ accepted
          · rw [act, same]
            exact EventLog.tells_refl ..
      | ask env question =>
          obtain ⟨stored, -, fresh, grown, reports⟩ :=
            reports_ask (live (early ++ late)) env question
          exact EventLog.tells_ignored grown (fun event member => silent event (reports event member))
            (congrArg view stored)

/-- A condition on the events holds all along the log when it holds of what every call accepted
along the way has published, and of the reports in any case. -/
theorem each_log {View : Type} {view : Storage Address → View} {absorb : View → Event Address → View}
    {condition : View → Event Address → Prop}
    (reported : ∀ event : Event Address, event.topic = .reports → ∀ seen, condition seen event)
    (told : ∀ activities, view (live activities).storage =
      Trace.run absorb (view (Storage.empty Address)) (live activities).events)
    (accepted : ∀ activities call after, Accepted (live activities) call after →
      ∃ fresh, after.events = (live activities).events ++ fresh ∧
        Trace.Each absorb condition (view (live activities).storage) fresh)
    (activities : List (Activity Address)) :
    Trace.Each absorb condition (view (Storage.empty Address)) (live activities).events := by
  induction activities using List.reverseRecOn with
  | nil => trivial
  | append_singleton activities activity ih =>
      rw [live_concat]
      have grown : ∃ fresh, (act (live activities) activity).events =
            (live activities).events ++ fresh ∧
          Trace.Each absorb condition (view (live activities).storage) fresh := by
        cases activity with
        | call call =>
            rcases step_cases (live activities) call with taken | same
            · exact accepted activities call _ taken
            · exact ⟨[], by rw [act, same, List.append_nil], trivial⟩
        | ask env question =>
            obtain ⟨-, -, fresh, grown, reports⟩ := reports_ask (live activities) env question
            exact ⟨fresh, grown, Trace.each_of_forall _ fun event member seen =>
              reported event (reports event member) seen⟩
      obtain ⟨fresh, grown, each⟩ := grown
      rw [grown]
      exact Trace.each_append.mpr ⟨ih, told activities ▸ each⟩

end Lives

end TrustLink
