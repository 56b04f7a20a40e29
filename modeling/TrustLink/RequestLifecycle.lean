import Mathlib.Data.List.Induction
import TrustLink.Effects

/-!
The life cycle of an attestation request. The requests and the lists of pending
ones form a book that changes in two ways: a request is submitted, or a pending
one is settled for good.
-/
namespace TrustLink
open Transaction Contract SecondaryIndex

section Book
variable {Address : Type}

structure Book (Address : Type) where
  request : Str → Option (AttestationRequest Address)
  pending : Address → List Str

def Storage.book (storage : Storage Address) : Book Address where
  request := storage.request
  pending := storage.pendingRequests

inductive Move (Address : Type) where
  | submit (request : AttestationRequest Address)
  | settle (request : AttestationRequest Address) (status : RequestStatus) (reason : Option Str)

/-- The request a move writes. -/
def Move.written : Move Address → AttestationRequest Address
  | .submit request => request
  | .settle request status reason => { request with status, rejectionReason := reason }

/-- A submitted request is new and pending; a settled one was pending until now. -/
def Book.Allows (book : Book Address) : Move Address → Prop
  | .submit request => book.request request.id = none ∧ request.status = .pending
  | .settle request status _ =>
      book.request request.id = some request ∧ request.status = .pending ∧ status ≠ .pending

/-- Each request is stored under its own id, and the pending ones are listed
under their issuer, each once. -/
structure Book.Sound (book : Book Address) : Prop where
  keyed : ∀ id request, book.request id = some request → request.id = id
  index : Exact book.request (·.issuer) (·.status = .pending) book.pending

theorem sound_empty : (World.empty Address).storage.book.Sound where
  keyed := by simp [Storage.book, World.empty, Storage.empty]
  index := exact_empty

/-- The two agree on what a request asked for and on when. -/
structure SameRequest (old new : AttestationRequest Address) : Prop where
  id : new.id = old.id
  subject : new.subject = old.subject
  issuer : new.issuer = old.issuer
  claimType : new.claimType = old.claimType
  timestamp : new.timestamp = old.timestamp
  expiresAt : new.expiresAt = old.expiresAt

/-- The request is still there and asks for the same; unless it was pending, it
has not changed at all. -/
def Book.Continues (before after : Book Address) : Prop :=
  ∀ id old, before.request id = some old →
    ∃ new, after.request id = some new ∧ SameRequest old new ∧
      (old.status ≠ .pending → new = old)

theorem continues_refl (book : Book Address) : book.Continues book :=
  fun _ old found => ⟨old, found, ⟨rfl, rfl, rfl, rfl, rfl, rfl⟩, fun _ => rfl⟩

theorem Book.Continues.trans {before middle after : Book Address}
    (first : before.Continues middle) (second : middle.Continues after) :
    before.Continues after := by
  intro id old found
  obtain ⟨halfway, kept, same, final⟩ := first id old found
  obtain ⟨new, stored, agrees, settled⟩ := second id halfway kept
  refine ⟨new, stored, ⟨agrees.id.trans same.id, agrees.subject.trans same.subject,
    agrees.issuer.trans same.issuer, agrees.claimType.trans same.claimType,
    agrees.timestamp.trans same.timestamp, agrees.expiresAt.trans same.expiresAt⟩, ?_⟩
  intro closed
  have unchanged := final closed
  subst unchanged
  exact settled closed

variable [DecidableEq Address]

def Book.apply (book : Book Address) (move : Move Address) : Book Address where
  request := Function.update book.request move.written.id (some move.written)
  pending :=
    match move with
    | .submit request => add book.pending request.issuer request.id
    | .settle request _ _ => drop book.pending request.issuer request.id

@[simp] theorem Book.request_apply (book : Book Address) (move : Move Address) :
    (book.apply move).request =
      Function.update book.request move.written.id (some move.written) := rfl

theorem Book.Sound.apply {book : Book Address} {move : Move Address} (sound : book.Sound)
    (allowed : book.Allows move) : (book.apply move).Sound where
  keyed := by
    intro id request found
    by_cases here : id = move.written.id
    · rw [Book.request_apply, here, Function.update_self] at found
      rw [here, Option.some.inj found]
    · rw [Book.request_apply, Function.update_of_ne here] at found
      exact sound.keyed id request found
  index := by
    cases move with
    | submit request => exact sound.index.add allowed.1 allowed.2
    | settle request status reason => exact sound.index.drop allowed.1 allowed.2.2

theorem continues_apply {book : Book Address} {move : Move Address} (allowed : book.Allows move) :
    book.Continues (book.apply move) := by
  intro id old found
  by_cases here : id = move.written.id
  · subst here
    cases move with
    | submit request => exact absurd (allowed.1.symm.trans found) nofun
    | settle request status reason =>
        obtain rfl := Option.some.inj (allowed.1.symm.trans found)
        refine ⟨_, Function.update_self .., ⟨rfl, rfl, rfl, rfl, rfl, rfl⟩, fun closed => ?_⟩
        exact absurd allowed.2.1 closed
  · obtain ⟨new, kept, rest⟩ := continues_refl book id old found
    exact ⟨new, by rw [Book.request_apply, Function.update_of_ne here, kept], rest⟩

end Book

section Moves
variable {Address : Type} [DecidableEq Address] [Host Address] {env : Env Address}
  {before after : World Address}

/-- What an accepted call does to the book. -/
def Call.move? (storage : Storage Address) (call : Call Address) : Option (Move Address) :=
  match call.op with
  | .request (.requestAttestation subject issuer claimType) =>
      some (.submit ⟨AttestationRequest.generateId subject issuer claimType call.env.timestamp,
        subject, issuer, claimType, call.env.timestamp,
        call.env.timestamp + attestationRequestTtlSecs, .pending, none⟩)
  | .request (.fulfillRequest _ requestId _) =>
      (storage.request requestId).map fun request =>
        .settle request .fulfilled request.rejectionReason
  | .request (.rejectRequest _ requestId reason) =>
      (storage.request requestId).map (.settle · .rejected reason)
  | .request (.cancelRequest _ requestId) =>
      (storage.request requestId).map fun request =>
        .settle request .cancelled request.rejectionReason
  | _ => none

/-- The book made the move, if any, and the move was allowed. -/
def Turns (before after : Book Address) : Option (Move Address) → Prop
  | some move => before.Allows move ∧ after = before.apply move
  | none => after = before

omit [Host Address] in
theorem Unrequested.turns (kept : Unrequested before after) :
    Turns before.storage.book after.storage.book none := by
  rw [Turns, Storage.book, kept.request, kept.pendingRequests]
  rfl

theorem RequestOp.turns (op : RequestOp Address) (sound : before.storage.book.Sound)
    (accepted : Returns op.exec env before () after) :
    Turns before.storage.book after.storage.book
      (Call.move? before.storage ⟨env, .request op⟩) := by
  cases op.outcome accepted with
  | requestAttestation built _ _ _ _ fresh =>
      subst built
      exact ⟨⟨fresh, rfl⟩, rfl⟩
  | fulfillRequest _ checks =>
      -- the request is written under the id it carries, which is the one it was loaded with
      obtain rfl := sound.keyed _ _ checks.found
      obtain rfl := checks.own
      simp only [Call.move?, checks.found, Option.map_some]
      exact ⟨⟨checks.found, checks.pending, nofun⟩, rfl⟩
  | rejectRequest _ _ _ _ found own pending =>
      obtain rfl := sound.keyed _ _ found
      obtain rfl := own
      simp only [Call.move?, found, Option.map_some]
      exact ⟨⟨found, pending, nofun⟩, rfl⟩
  | cancelRequest _ _ found _ pending =>
      obtain rfl := sound.keyed _ _ found
      simp only [Call.move?, found, Option.map_some]
      exact ⟨⟨found, pending, nofun⟩, rfl⟩

/-- Every accepted call turns the book as `move?` says. -/
theorem turns_of_accepted {call : Call Address} (sound : before.storage.book.Sound)
    (accepted : Accepted before call after) :
    Turns before.storage.book after.storage.book (call.move? before.storage) := by
  obtain ⟨env, op⟩ := call
  cases op with
  | attestation op => exact (op.keeps accepted).2.1.turns
  | request op => exact op.turns sound accepted
  | multisig op => exact (op.keeps accepted).2.1.turns
  | council op =>
      obtain ⟨-, kept, -⟩ := op.keeps accepted
      exact Unrequested.turns ⟨kept.request, kept.pendingRequests⟩
  | admin op =>
      obtain ⟨kept, -⟩ := op.keeps accepted
      exact Unrequested.turns ⟨kept.request, kept.pendingRequests⟩

omit [Host Address] in
theorem Turns.keeps {before after : Book Address} {move : Option (Move Address)}
    (turns : Turns before after move) (sound : before.Sound) :
    after.Sound ∧ before.Continues after := by
  cases move with
  | none =>
      obtain rfl : after = before := turns
      exact ⟨sound, continues_refl after⟩
  | some move =>
      obtain ⟨allowed, rfl⟩ := turns
      exact ⟨sound.apply allowed, continues_apply allowed⟩

/-- A stored request was there before and asked for the same, or the call submits it. -/
theorem request_of_accepted {call : Call Address} (sound : before.storage.book.Sound)
    (accepted : Accepted before call after) {id : Str} {new : AttestationRequest Address}
    (found : after.storage.request id = some new) :
    (∃ old, before.storage.request id = some old ∧ SameRequest old new) ∨
      call.move? before.storage = some (.submit new) := by
  have turns := turns_of_accepted sound accepted
  have stored : after.storage.book.request id = some new := found
  cases moves : call.move? before.storage with
  | none =>
      rw [moves] at turns
      rw [show after.storage.book = before.storage.book from turns] at stored
      exact .inl ⟨new, stored, ⟨rfl, rfl, rfl, rfl, rfl, rfl⟩⟩
  | some move =>
      rw [moves] at turns
      obtain ⟨allowed, turned⟩ := turns
      rw [turned, Book.request_apply, Function.update_apply] at stored
      split at stored
      case isTrue here =>
        obtain rfl := Option.some.inj stored
        cases move with
        | submit request => exact .inr rfl
        | settle request status reason =>
            subst here
            exact .inl ⟨request, allowed.1, ⟨rfl, rfl, rfl, rfl, rfl, rfl⟩⟩
      case isFalse =>
        exact .inl ⟨new, stored, ⟨rfl, rfl, rfl, rfl, rfl, rfl⟩⟩

theorem book_sound (calls : List (Call Address)) : (run calls).storage.book.Sound :=
  invariant_of_run sound_empty
    (fun _ _ _ sound accepted => ((turns_of_accepted sound accepted).keeps sound).1) calls

theorem book_continues (early late : List (Call Address)) :
    (run early).storage.book.Continues (run (early ++ late)).storage.book := by
  -- the run grows at its end, one call after another
  induction late using List.reverseRecOn with
  | nil =>
      rw [List.append_nil]
      exact continues_refl _
  | append_singleton calls call ih =>
      rw [← List.append_assoc, run_concat]
      refine ih.trans ?_
      rcases step_cases (run (early ++ calls)) call with accepted | same
      · have sound := book_sound (early ++ calls)
        exact ((turns_of_accepted sound accepted).keeps sound).2
      · rw [same]
        exact continues_refl _

end Moves

section Fulfilment
variable {Address : Type} [DecidableEq Address] [Host Address]

/-- The call is a fulfilment of the request, and succeeds. -/
def Fulfils (world : World Address) (call : Call Address) (id : Str) : Prop :=
  ∃ issuer expiration, call.op = .request (.fulfillRequest issuer id expiration) ∧
    Accepted world call (step world call)

/-- One attestation was stored, as the request asked for, before it expired. -/
structure Granted (before after : World Address) (request : AttestationRequest Address)
    (record : Attestation Address) : Prop where
  created : created before after = [record]
  fresh : before.storage.attestation record.id = none
  stored : after.storage.attestation record.id = some record
  issuer : record.issuer = request.issuer
  subject : record.subject = request.subject
  claimType : record.claimType = request.claimType
  early : record.timestamp < request.expiresAt

theorem Fulfils.granted {world : World Address} {call : Call Address} {id : Str}
    (fulfils : Fulfils world call id) (sound : world.storage.book.Sound) :
    ∃ request record, world.storage.request id = some request ∧ request.status = .pending ∧
      (step world call).storage.request id = some { request with status := .fulfilled } ∧
      Granted world (step world call) request record := by
  obtain ⟨issuer, expiration, named, accepted⟩ := fulfils
  obtain ⟨env, op⟩ := call
  subst named
  have checked := RequestOp.checked (.fulfillRequest issuer id expiration) accepted
  obtain ⟨attestationId, accepted⟩ := (returns_void ..).mp accepted
  obtain ⟨request, record, rfl, checks, -, left⟩ := (returns_fulfillRequest ..).mp accepted
  obtain rfl := sound.keyed _ _ checks.found
  have settled : (step world _).storage.request request.id =
      some { request with status := .fulfilled } :=
    (congrArg (·.storage.request request.id) left).trans (Function.update_self ..)
  refine ⟨request, _, checks.found, checks.pending, settled, ?created, checks.fresh, ?stored,
    checks.own.symm, rfl, rfl, checks.early⟩
  case created =>
    rw [checked.created, changes_fulfillRequest issuer expiration checks.found]
    rfl
  case stored =>
    rw [left]
    exact Function.update_self ..

omit [DecidableEq Address] in
/-- Only a fulfilment writes a fulfilled request. -/
theorem fulfillRequest_of_move {storage : Storage Address} {call : Call Address}
    {made : Move Address} (move : call.move? storage = some made)
    (fulfilled : made.written.status = .fulfilled) :
    ∃ issuer requestId expiration request,
      call.op = .request (.fulfillRequest issuer requestId expiration) ∧
        storage.request requestId = some request ∧ made.written.id = request.id := by
  obtain ⟨env, op⟩ := call
  cases op with
  | request op =>
      cases op with
      | requestAttestation subject issuer claimType =>
          obtain rfl := Option.some.inj move
          cases fulfilled
      | fulfillRequest issuer requestId expiration =>
          obtain ⟨request, known, rfl⟩ := Option.map_eq_some_iff.mp move
          exact ⟨issuer, requestId, expiration, request, rfl, known, rfl⟩
      | rejectRequest issuer requestId reason =>
          obtain ⟨request, known, rfl⟩ := Option.map_eq_some_iff.mp move
          cases fulfilled
      | cancelRequest subject requestId =>
          obtain ⟨request, known, rfl⟩ := Option.map_eq_some_iff.mp move
          cases fulfilled
  | _ => cases move

/-- A request that a step turns into a fulfilled one was fulfilled by that step. -/
theorem fulfils_of_status {world : World Address} {call : Call Address}
    (sound : world.storage.book.Sound) {id : Str} {new : AttestationRequest Address}
    (found : (step world call).storage.request id = some new) (fulfilled : new.status = .fulfilled)
    (before : ∀ old, world.storage.request id = some old → old.status ≠ .fulfilled) :
    Fulfils world call id := by
  rcases step_cases world call with accepted | same
  · have turns := turns_of_accepted sound accepted
    cases move : call.move? world.storage with
    | none =>
        rw [move] at turns
        have kept := congrArg (fun book => book.request id) turns
        exact absurd fulfilled (before new (kept.symm.trans found))
    | some made =>
        rw [move] at turns
        have stored : (world.storage.book.apply made).request id = some new := by
          rw [← turns.2]
          exact found
        by_cases here : id = made.written.id
        · rw [Book.request_apply, here, Function.update_self, Option.some.injEq] at stored
          obtain ⟨issuer, requestId, expiration, request, named, known, same⟩ :=
            fulfillRequest_of_move move (stored ▸ fulfilled)
          obtain rfl : id = requestId := here.trans (same.trans (sound.keyed _ _ known))
          exact ⟨issuer, expiration, named, accepted⟩
        · rw [Book.request_apply, Function.update_of_ne here] at stored
          exact absurd fulfilled (before new stored)
  · rw [same] at found
    exact absurd fulfilled (before new found)

end Fulfilment

section Runs
variable {Address : Type} [DecidableEq Address] [Host Address]

/-- The life of the requests of a run. -/
structure RequestLifeCycle (calls : List (Call Address)) : Prop where
  /-- The pending requests of an issuer are listed, and nothing else is. -/
  pending : ∀ issuer id, id ∈ (run calls).storage.pendingRequests issuer ↔
    ∃ request, (run calls).storage.request id = some request ∧ request.issuer = issuer ∧
      request.status = .pending
  once : ∀ issuer, ((run calls).storage.pendingRequests issuer).Nodup
  /-- A request stays what it is, and once it is not pending its status is final. -/
  continues : ∀ early late, calls = early ++ late →
    (run early).storage.book.Continues (run calls).storage.book
  /-- A fulfilment finds its request pending, and stores one attestation for it. -/
  grants : ∀ early call late, calls = early ++ call :: late → ∀ id, Fulfils (run early) call id →
    ∃ request record, (run early).storage.request id = some request ∧
      request.status = .pending ∧
      (step (run early) call).storage.request id = some { request with status := .fulfilled } ∧
      Granted (run early) (step (run early) call) request record
  /-- Nothing else makes a request fulfilled. -/
  fulfilled : ∀ early call late, calls = early ++ call :: late → ∀ id new,
    (step (run early) call).storage.request id = some new → new.status = .fulfilled →
    (∀ old, (run early).storage.request id = some old → old.status ≠ .fulfilled) →
      Fulfils (run early) call id
  /-- No request is fulfilled twice. -/
  single : ∀ early call between other late, calls = early ++ call :: (between ++ other :: late) →
    ∀ id, Fulfils (run early) call id → ¬ Fulfils (run (early ++ call :: between)) other id

theorem request_life_cycle (calls : List (Call Address)) : RequestLifeCycle calls where
  pending issuer id := by
    have index := (book_sound calls).index
    exact ⟨index.sound issuer id, index.complete issuer id⟩
  once := (book_sound calls).index.once
  continues := by
    rintro early late rfl
    exact book_continues early late
  grants early call late split id fulfils := fulfils.granted (book_sound early)
  fulfilled early call late split id new found fulfilled before :=
    fulfils_of_status (book_sound early) found fulfilled before
  single := by
    intro early call between other late split id fulfils again
    obtain ⟨request, -, -, -, settled, -⟩ := fulfils.granted (book_sound early)
    obtain ⟨current, -, found, pending, -⟩ := again.granted (book_sound _)
    have after := book_continues (early ++ [call]) between
    rw [List.append_assoc, List.singleton_append] at after
    rw [← run_concat] at settled
    -- the first fulfilment has made the status final, so the second cannot find it pending
    obtain ⟨new, stored, -, final⟩ := after id _ settled
    obtain rfl := Option.some.inj (stored.symm.trans found)
    rw [final nofun] at pending
    cases pending

end Runs

end TrustLink
