import TrustLink.CursorPagination
import TrustLink.Questions

/-!
The two range queries against each other: one takes an offset into the ids it has picked,
the other one a cursor whose place it looks up in the records it has picked.
-/
namespace TrustLink
open Transaction Contract Query

section Offsets
variable {Address : Type} {env : Env Address} {before after : World Address}

theorem returns_recordsLoop (ids : List Str) (result records : List (Attestation Address)) :
    Returns (recordsLoop ids result) env before records after ↔
      records = result ++ ids.filterMap before.storage.attestation ∧ after = before := by
  induction ids generalizing result with
  | nil => simp [recordsLoop]
  | cons id rest ih =>
      cases found : before.storage.attestation id <;> simp [recordsLoop, found, ih]

variable {storage : Storage Address}

/-- The ids that one query picks are those of the records that the other one picks. -/
theorem ids_inRange (named : ∀ id record, storage.attestation id = some record → record.id = id)
    (subject : Address) (fromTs toTs : Nat) :
    (inRange storage subject fromTs toTs).map (·.id) =
      (storage.subjectAttestations subject).filter (Finds storage fun attestation =>
        WithinRange fromTs toTs attestation) := by
  rw [inRange, List.map_filterMap, ← List.filterMap_eq_filter]
  refine List.filterMap_congr fun id _ => ?_
  cases found : storage.attestation id with
  | none => simp [Finds, found, Option.guard]
  | some attestation =>
      have own := named id attestation found
      by_cases within : WithinRange fromTs toTs attestation <;>
        simp [Finds, found, Option.guard, Option.filter_some, within, own]

/-- The offset query reads a slice of the range. -/
theorem returns_getAttestationsInRange
    (named : ∀ id record, before.storage.attestation id = some record → record.id = id)
    (subject : Address) (fromTs toTs start limit : Nat) (page : List (Attestation Address)) :
    Returns (getAttestationsInRange subject fromTs toTs start limit) env before page after ↔
      (start < (inRange before.storage subject fromTs toTs).length → start + limit < u32Range) ∧
        page = ((inRange before.storage subject fromTs toTs).drop start).take limit ∧
        after = before := by
  -- every id of the page has its record
  have loaded : ((((inRange before.storage subject fromTs toTs).map (·.id)).drop start).take
      limit).filterMap before.storage.attestation =
        ((inRange before.storage subject fromTs toTs).drop start).take limit := by
    rw [← List.map_drop, ← List.map_take, List.filterMap_map]
    refine (List.filterMap_congr fun attestation member => ?_).trans List.filterMap_some
    exact ((mem_inRange named).mp (List.mem_of_mem_drop (List.mem_of_mem_take member))).2.1
  have picked := ids_inRange named subject fromTs toTs
  have size := congrArg List.length picked
  rw [List.length_map] at size
  rw [size]
  rw [picked] at loaded
  simp [getAttestationsInRange, returns_pickLoop, ChunkedIndex.returns_paginate,
    returns_recordsLoop]
  constructor
  · rintro ⟨⟨fits, rfl⟩, rfl⟩
    exact ⟨fits, loaded, rfl⟩
  · rintro ⟨fits, rfl, rfl⟩
    exact ⟨⟨fits, rfl⟩, loaded.symm⟩

/-- The cursor query does what the offset query does at the place of the cursor. -/
theorem same_outcome {world : World Address}
    (named : ∀ id record, world.storage.attestation id = some record → record.id = id)
    {subject : Address} {fromTs toTs index limit : Nat} {cursor : Option (Attestation Address)}
    (backed : ∀ last ∈ cursor, Backed world.storage last)
    (starts : Cursor.start (·.id) comesBefore (inRange world.storage subject fromTs toTs) cursor =
      some index) (room : index + limit < u32Range) :
    getAttestationsInRangeAfter subject fromTs toTs (cursor.map (·.id)) limit env world =
      getAttestationsInRange subject fromTs toTs index limit env world := by
  have page : Cursor.page (·.id) comesBefore limit (inRange world.storage subject fromTs toTs)
      cursor = ((inRange world.storage subject fromTs toTs).drop index).take limit := by
    rw [Cursor.page, starts, Option.elim_some]
  have byCursor : Returns (getAttestationsInRangeAfter subject fromTs toTs (cursor.map (·.id))
      limit) env world (((inRange world.storage subject fromTs toTs).drop index).take limit)
        world := by
    refine (returns_getAttestationsInRangeAfter (by omega) backed).mpr ⟨?_, page.symm, rfl⟩
    intro other same
    obtain rfl := Option.some.inj (starts.symm.trans same)
    exact room
  have byOffset : Returns (getAttestationsInRange subject fromTs toTs index limit) env world
      (((inRange world.storage subject fromTs toTs).drop index).take limit) world :=
    (returns_getAttestationsInRange named ..).mpr ⟨fun _ => room, rfl, rfl⟩
  exact Eq.trans byCursor (Eq.symm byOffset)

end Offsets

section Runs
variable {Address : Type} [DecidableEq Address] [Host Address]

/-- The two queries have the same outcome in a state. -/
structure CursorAgrees (world : World Address) (env : Env Address) (subject : Address)
    (fromTs toTs start limit : Nat) : Prop where
  front : getAttestationsInRangeAfter subject fromTs toTs none limit env world =
    getAttestationsInRange subject fromTs toTs 0 limit env world
  behind : ∀ last, (inRange world.storage subject fromTs toTs)[start]? = some last →
    getAttestationsInRangeAfter subject fromTs toTs (some last.id) limit env world =
      getAttestationsInRange subject fromTs toTs (start + 1) limit env world

/-- A subject has no two records of one id in a range. -/
theorem inRange_once (calls : List (Call Address))
    (direct : ∀ call ∈ calls, ∀ op, call.op ≠ .multisig op) (subject : Address)
    (fromTs toTs : Nat) : ((inRange (run calls).storage subject fromTs toTs).map (·.id)).Nodup := by
  rw [ids_inRange fun id record found => (keyed_run calls id record found).1]
  exact (subjects_once calls direct subject).filter _

/-- Without deletions in between, the cursor is as good as the offset behind it. -/
theorem cursor_agrees_with_offset (calls : List (Call Address))
    (direct : ∀ call ∈ calls, ∀ op, call.op ≠ .multisig op) (env : Env Address)
    (subject : Address) (fromTs toTs start limit : Nat) (room : start + 1 + limit < u32Range) :
    CursorAgrees (run calls) env subject fromTs toTs start limit := by
  have named : ∀ id record, (run calls).storage.attestation id = some record → record.id = id :=
    fun id record found => (keyed_run calls id record found).1
  constructor
  · have starts : Cursor.start (·.id) comesBefore
        (inRange (run calls).storage subject fromTs toTs) none = some 0 := by
      rw [Cursor.start]
    have backed : ∀ last ∈ (none : Option (Attestation Address)),
        Backed (run calls).storage last :=
      fun _ none => absurd none (Option.not_mem_none _)
    exact same_outcome named backed starts (by omega)
  · intro last here
    obtain ⟨-, stored, -⟩ := (mem_inRange named).mp (List.mem_of_getElem? here)
    have starts : Cursor.start (·.id) comesBefore
        (inRange (run calls).storage subject fromTs toTs) (some last) = some (start + 1) :=
      Cursor.start_at (inRange_once calls direct subject fromTs toTs) here
    have backed : ∀ other ∈ some last, Backed (run calls).storage other := by
      intro other same
      obtain rfl := Option.some.inj same
      exact ⟨_, stored, rfl, rfl⟩
    exact same_outcome named backed starts (by omega)

end Runs

section Samples
open Xdr

theorem cursor_agrees_sample :
    CursorAgrees (run (sampleDeployment ++ [sampleIssuance, laterIssuance])) unsigned
      (contractId 2) 0 2000 0 1 :=
  cursor_agrees_with_offset _ (by simp [sampleDeployment, sampleIssuance, laterIssuance, signed])
    _ _ _ _ _ _ (by decide)

end Samples

end TrustLink
