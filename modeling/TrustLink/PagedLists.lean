import TrustLink.Request
import TrustLink.Readers

/-!
The paged listings that count with indices: `paginate`, the pending requests of an issuer
and the endorsements of an endorser. Each cuts its page between two u32 indices, and the sum
of the first one and the limit need not fit.
-/
namespace TrustLink
open Transaction

section Listings
variable {Address Item : Type}

namespace Contract

/-- The loop over the indices from `i` on; a missing item is passed over. -/
def sliceLoop (list : List Item) : Nat → Nat → List Item → List Item
  | 0, _, result => result
  | remaining + 1, i, result => sliceLoop list remaining (i + 1) (result ++ list[i]?.toList)

/-- The same loop with `unwrap`, for which a missing item is a trap. -/
def unwrapLoop (list : List Item) : Nat → Nat → List Item → Program Address (List Item)
  | 0, _, result => pure result
  | remaining + 1, i, result => do
      let item ← orFail .trap list[i]?
      unwrapLoop list remaining (i + 1) (result ++ [item])

/-- The first loop of `get_pending_requests`. -/
def pendingLoop (currentTime : Nat) : List Str → List (AttestationRequest Address) →
    Program Address (List (AttestationRequest Address))
  | [], pending => pure pending
  | id :: rest, pending => do
      let request ← load (·.request id)
      match request with
      | none => pendingLoop currentTime rest pending
      | some request =>
          if request.status = .pending ∧ currentTime < request.expiresAt then
            pendingLoop currentTime rest (pending ++ [request])
          else pendingLoop currentTime rest pending

def getPendingRequests (issuer : Address) (start limit : Nat) :
    Program Address (List (AttestationRequest Address)) := do
  let currentTime ← ledgerTimestamp
  let allIds ← load (·.pendingRequests issuer)
  let pending ← pendingLoop currentTime allIds []
  let total := pending.length
  let start := min start total
  let sum ← checkedU32 (start + limit)
  let stop := min sum total
  pure (sliceLoop pending (stop - start) start [])

def listEndorsementsByEndorser (endorser : Address) (start limit : Nat) :
    Program Address (List (Endorsement Address)) := do
  let all ← load (·.endorserIndex endorser)
  let total := all.length
  let start := min start total
  let sum ← checkedU32 (start + limit)
  let stop := min sum total
  unwrapLoop all (stop - start) start []

end Contract

open Contract

/-- What is left behind the first `start` items, up to the limit. -/
def pageOf (list : List Item) (start limit : Nat) : List Item := (list.drop start).take limit

/-- The requests of an index that are pending and not expired. -/
def Storage.openRequests (storage : Storage Address) (now : Nat) (index : List Str) :
    List (AttestationRequest Address) :=
  index.filterMap fun id =>
    (storage.request id).filter fun request => request.status = .pending ∧ now < request.expiresAt

theorem sliceLoop_eq (list : List Item) (remaining i : Nat) (result : List Item) :
    sliceLoop list remaining i result = result ++ pageOf list i remaining := by
  induction remaining generalizing i result with
  | zero => simp [sliceLoop, pageOf]
  | succ remaining ih =>
      rw [sliceLoop, ih, pageOf, pageOf]
      rcases Nat.lt_or_ge i list.length with inside | past
      · rw [List.drop_eq_getElem_cons inside, List.take_succ_cons, List.getElem?_eq_getElem inside,
          Option.toList_some, List.append_assoc, List.singleton_append]
      · rw [List.getElem?_eq_none past, List.drop_eq_nil_of_le past,
          List.drop_eq_nil_of_le (Nat.le_succ_of_le past)]
        simp

/-- Clamping both ends to the length of the list cuts the same pageOf. -/
theorem pageOf_clamped (list : List Item) (start limit : Nat) :
    pageOf list (min start list.length)
      (min (min start list.length + limit) list.length - min start list.length) =
        pageOf list start limit := by
  rcases Nat.le_total list.length start with past | inside
  · rw [Nat.min_eq_right past, pageOf, pageOf, List.drop_length, List.drop_eq_nil_of_le past]
    simp
  · rw [Nat.min_eq_left inside, pageOf, pageOf, List.take_eq_take_iff, List.length_drop]
    omega

variable {env : Env Address} {world before after : World Address}

theorem returns_unwrapLoop (list : List Item) (remaining i : Nat) (result page : List Item)
    (inside : i + remaining ≤ list.length) :
    Returns (unwrapLoop list remaining i result) env before page after ↔
      page = result ++ pageOf list i remaining ∧ after = before := by
  induction remaining generalizing i result with
  | zero => simp [unwrapLoop, pageOf]
  | succ remaining ih =>
      have here : i < list.length := by omega
      have cut : pageOf list i (remaining + 1) = list[i] :: pageOf list (i + 1) remaining := by
        rw [pageOf, pageOf, List.drop_eq_getElem_cons here, List.take_succ_cons]
      simp [unwrapLoop, List.getElem?_eq_getElem here, ih (i + 1) _ (by omega), cut]

theorem returns_pendingLoop (now : Nat) (index : List Str)
    (pending result : List (AttestationRequest Address)) :
    Returns (pendingLoop now index pending) env before result after ↔
      result = pending ++ before.storage.openRequests now index ∧ after = before := by
  induction index generalizing pending with
  | nil => simp [pendingLoop, Storage.openRequests]
  | cons id rest ih =>
      rw [Storage.openRequests] at ih ⊢
      cases found : before.storage.request id with
      | none => simp [pendingLoop, found, ih]
      | some request =>
          by_cases waits : request.status = .pending ∧ now < request.expiresAt <;>
            simp [pendingLoop, Option.filter_some, found, waits, ih]

/-- `paginate` is the loop between the two indices. -/
theorem paginate_eq_loop (list : List Str) (start limit : Nat) :
    (ChunkedIndex.paginate list start limit : Program Address (List Str)) =
      if list.length ≤ start then pure []
      else checkedU32 (start + limit) >>= fun sum =>
        pure (sliceLoop list (min sum list.length - start) start []) := by
  simp only [sliceLoop_eq, List.nil_append]
  rfl

theorem returns_getPendingRequests (issuer : Address) (start limit : Nat)
    (page : List (AttestationRequest Address)) :
    Returns (getPendingRequests issuer start limit) env before page after ↔
      min start (before.storage.openRequests env.timestamp
          (before.storage.pendingRequests issuer)).length + limit < u32Range ∧
        page = pageOf (before.storage.openRequests env.timestamp
          (before.storage.pendingRequests issuer)) start limit ∧ after = before := by
  simp [getPendingRequests, returns_pendingLoop, sliceLoop_eq, pageOf_clamped]
  exact and_right_comm.trans and_assoc

theorem returns_listEndorsementsByEndorser (endorser : Address) (start limit : Nat)
    (page : List (Endorsement Address)) :
    Returns (listEndorsementsByEndorser endorser start limit) env before page after ↔
      min start (before.storage.endorserIndex endorser).length + limit < u32Range ∧
        page = pageOf (before.storage.endorserIndex endorser) start limit ∧ after = before := by
  have unwraps (page : List (Endorsement Address)) := @returns_unwrapLoop _ _ env before after
    (before.storage.endorserIndex endorser) _ _ [] page
    (show min start (before.storage.endorserIndex endorser).length +
      (min (min start (before.storage.endorserIndex endorser).length + limit)
        (before.storage.endorserIndex endorser).length -
          min start (before.storage.endorserIndex endorser).length) ≤ _ by omega)
  simp [listEndorsementsByEndorser, unwraps, pageOf_clamped]

/-- The three listings answer with the pageOf that the caller asks for. -/
structure PagesExact (env : Env Address) (world : World Address) (list : List Str)
    (issuer endorser : Address) (start limit : Nat) : Prop where
  paginate : Reads (ChunkedIndex.paginate list start limit) env world (pageOf list start limit)
  pending : Reads (getPendingRequests issuer start limit) env world
    (pageOf (world.storage.openRequests env.timestamp (world.storage.pendingRequests issuer)) start
      limit)
  endorsements : Reads (listEndorsementsByEndorser endorser start limit) env world
    (pageOf (world.storage.endorserIndex endorser) start limit)

/-- They do so exactly when the sums of the limit and the start, which two of them clamp first,
fit a u32. -/
theorem pages_exact_iff (env : Env Address) (world : World Address) (list : List Str)
    (issuer endorser : Address) (start limit : Nat) :
    PagesExact env world list issuer endorser start limit ↔
      (start < list.length → start + limit < u32Range) ∧
        min start (world.storage.openRequests env.timestamp
          (world.storage.pendingRequests issuer)).length + limit < u32Range ∧
        min start (world.storage.endorserIndex endorser).length + limit < u32Range := by
  constructor
  · rintro ⟨⟨_, paginated⟩, ⟨_, waiting⟩, ⟨_, endorsed⟩⟩
    exact ⟨((ChunkedIndex.returns_paginate ..).mp paginated).1,
      ((returns_getPendingRequests ..).mp waiting).1,
      ((returns_listEndorsementsByEndorser ..).mp endorsed).1⟩
  · rintro ⟨byOffset, byRequest, byEndorsement⟩
    exact ⟨⟨world, (ChunkedIndex.returns_paginate ..).mpr ⟨byOffset, rfl, rfl⟩⟩,
      ⟨world, (returns_getPendingRequests ..).mpr ⟨byRequest, rfl, rfl⟩⟩,
      ⟨world, (returns_listEndorsementsByEndorser ..).mpr ⟨byEndorsement, rfl, rfl⟩⟩⟩

end Listings

section Overflow
open Xdr

/-- Behind the first of two ids, all that follow are asked for. -/
theorem largest_limit_traps :
    ¬ ∀ env world list issuer endorser start limit, start < u32Range → limit < u32Range →
      @PagesExact ContractId env world list issuer endorser start limit := by
  intro always
  have exact := always ⟨0, [], fun _ => true, fun _ => true⟩ (World.empty ContractId)
    [ascii "a", ascii "b"] (contractId 1) (contractId 2) 1 (u32Range - 1) (by decide) (by decide)
  obtain ⟨after, paginated⟩ := exact.paginate
  have room := ((ChunkedIndex.returns_paginate ..).mp paginated).1 (by decide)
  exact absurd room (by decide)

end Overflow

end TrustLink
