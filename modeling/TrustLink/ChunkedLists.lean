import TrustLink.ChunkedIndex
import TrustLink.Lib.Rollback

/-!
The `ChunkedIndex` against plain lists. Every sequence of its operations from empty storage
leaves, for each address and side, the chunks of the list that the same appends and filters
leave; all its readers answer from that list.
-/
namespace TrustLink.ChunkedIndex
open Transaction

section Loops

/-- The inner loop of `write_subject_chunks`; also returns the offset it stops at. -/
def fillChunk (ids : List Str) : Nat → Nat → List Str → List Str × Nat
  | 0, offset, chunk => (chunk, offset)
  | left + 1, offset, chunk =>
      match ids[offset]? with
      | some id => fillChunk ids left (offset + 1) (chunk ++ [id])
      | none => (chunk, offset)

/-- The outer loop, with the number of chunk numbers that are left. -/
def writeLoop (ids : List Str) : Nat → Nat → Nat → (Nat → Option (List Str)) →
    Option (Nat × (Nat → Option (List Str)))
  | 0, _, _, _ => none
  | fuel + 1, chunkIndex, offset, chunks =>
      if offset < ids.length then
        let filled := fillChunk ids chunkSize offset []
        if filled.1.length = 0 then some (chunkIndex, chunks)
        else writeLoop ids fuel (chunkIndex + 1) filled.2
          (Function.update chunks chunkIndex (some filled.1))
      else some (chunkIndex, chunks)

theorem fillChunk_eq (ids : List Str) (left offset : Nat) (chunk : List Str) :
    (fillChunk ids left offset chunk).1 = chunk ++ (ids.drop offset).take left ∧
      ids.drop (fillChunk ids left offset chunk).2 = (ids.drop offset).drop left := by
  induction left generalizing offset chunk with
  | zero => simp [fillChunk]
  | succ left ih =>
      rw [fillChunk]
      by_cases inside : offset < ids.length
      · obtain ⟨items, rest⟩ := ih (offset + 1) (chunk ++ [ids[offset]])
        simp only [List.getElem?_eq_getElem inside]
        rw [items, rest, List.drop_eq_getElem_cons inside, List.take_succ_cons,
          List.drop_succ_cons, List.append_assoc, List.singleton_append]
        exact ⟨rfl, rfl⟩
      · simp [List.getElem?_eq_none (Nat.le_of_not_lt inside),
          List.drop_eq_nil_of_le (Nat.le_of_not_lt inside)]

/-- The loops lay the list out as `Chunks.write` does. -/
theorem writeLoop_eq (ids : List Str) (fuel chunkIndex offset : Nat)
    (chunks : Nat → Option (List Str)) :
    writeLoop ids fuel chunkIndex offset chunks =
      Chunks.write chunkSize fuel chunkIndex (ids.drop offset) chunks := by
  induction fuel generalizing chunkIndex offset chunks with
  | zero => rfl
  | succ fuel ih =>
      rw [writeLoop, Chunks.write]
      by_cases inside : offset < ids.length
      · obtain ⟨items, rest⟩ := fillChunk_eq ids chunkSize offset []
        have more : ids.drop offset ≠ [] := by simpa using inside
        have wrote : ((ids.drop offset).take chunkSize).length ≠ 0 := by
          rw [List.length_take, List.length_drop]
          have positive : 0 < chunkSize := by decide
          omega
        rw [List.nil_append] at items
        simp only [inside, more, ↓reduceIte, ih, items, rest, wrote]
      · simp [inside, List.drop_eq_nil_of_le (Nat.le_of_not_lt inside)]

/-- A rewrite is the two loops of storage.rs: write the chunks, then clear the stale tail. -/
theorem rewrite_eq_loops (ids : List Str) (old : Nat → Option (List Str)) :
    Chunks.rewrite chunkSize u32Range ids old =
      (writeLoop ids u32Range 0 0 old).bind fun (next, written) =>
        Chunks.prune (u32Range - next) next written := by
  rw [writeLoop_eq, List.drop_zero, Chunks.rewrite]

end Loops

section Operations
variable {Address : Type}

def subjectCount (subject : Address) : Program Address Nat := do
  let ids ← getIds .subject subject
  pure ids.length

def issuerCount (issuer : Address) : Program Address Nat := do
  let ids ← getIds .issuer issuer
  pure ids.length

inductive IndexOp (Address : Type) where
  | addSubject (subject : Address) (id : Str)
  | removeSubject (subject : Address) (id : Str)
  | addIssuer (issuer : Address) (id : Str)
  | addIssuerBulk (issuer : Address) (ids : List Str)
  | removeIssuer (issuer : Address) (id : Str)

structure IndexCall (Address : Type) where
  env : Env Address
  op : IndexOp Address

/-- The side and the owner whose list an operation edits. -/
def IndexOp.key : IndexOp Address → Side × Address
  | .addSubject subject _ | .removeSubject subject _ => (.subject, subject)
  | .addIssuer issuer _ | .addIssuerBulk issuer _ | .removeIssuer issuer _ => (.issuer, issuer)

/-- The edit of a plain list. -/
def IndexOp.change : IndexOp Address → List Str → List Str
  | .addSubject _ id | .addIssuer _ id => (· ++ [id])
  | .addIssuerBulk _ ids => (· ++ ids)
  | .removeSubject _ id | .removeIssuer _ id => (·.filter (· ≠ id))

/-- One list for every side and owner. -/
abbrev PlainLists (Address : Type) := Side × Address → List Str

variable [DecidableEq Address]

def IndexOp.exec : IndexOp Address → Program Address Unit
  | .addSubject subject id => ChunkedIndex.addSubject subject id
  | .removeSubject subject id => ChunkedIndex.removeSubject subject id
  | .addIssuer issuer id => ChunkedIndex.addIssuer issuer id
  | .addIssuerBulk issuer ids => ChunkedIndex.addIssuerBulk issuer ids
  | .removeIssuer issuer id => ChunkedIndex.removeIssuer issuer id

/-- The edit, which a list that outgrows a `u32` refuses. -/
def IndexOp.edit (op : IndexOp Address) (lists : PlainLists Address) :
    Option (PlainLists Address) :=
  let edited := op.change (lists op.key)
  if edited.length < u32Range then some (Function.update lists op.key edited) else none

/-- The world after the calls, from empty storage; a call that traps is rolled back. -/
def runIndex (calls : List (IndexCall Address)) : World Address :=
  Trace.run (fun world call => attempt call.op.exec call.env world) (World.empty Address) calls

def plainLists (calls : List (IndexCall Address)) : PlainLists Address :=
  Trace.run (fun lists call => (call.op.edit lists).getD lists) (fun _ => []) calls

/-- Every reader of the index answers from the lists, and the chunks are those of the lists. -/
structure ImplementsLists (world : World Address) (lists : PlainLists Address) : Prop where
  subjectAll : ∀ env subject, Returns (getSubjectAll subject) env world
    (lists (.subject, subject)) world
  issuerAll : ∀ env issuer, Returns (getIssuerAll issuer) env world (lists (.issuer, issuer)) world
  subjectCount : ∀ env subject, Returns (subjectCount subject) env world
    (lists (.subject, subject)).length world
  issuerCount : ∀ env issuer, Returns (issuerCount issuer) env world
    (lists (.issuer, issuer)).length world
  subjectPage : ∀ env subject start limit, getSubjectPage subject start limit env world =
    paginate (lists (.subject, subject)) start limit env world
  issuerPage : ∀ env issuer start limit, getIssuerPage issuer start limit env world =
    paginate (lists (.issuer, issuer)) start limit env world
  tidy : ∀ (side : Side) (owner : Address), Chunks.Tidy chunkSize (side.chunks world.storage owner)
  accepts : ∀ env (op : IndexOp Address),
    (∃ after, Returns op.exec env world () after) ↔ (op.change (lists op.key)).length < u32Range

/-- The invariant of the runs: each chunk sequence holds the list of its side and owner. -/
structure Keeps (world : World Address) (lists : PlainLists Address) : Prop where
  untimed : world.storage.ttlConfig = none
  holds : ∀ side owner, Holds (side.chunks world.storage owner) (lists (side, owner))

omit [DecidableEq Address] in
theorem keeps_empty : Keeps (World.empty Address) fun _ => [] where
  untimed := rfl
  holds side _ := by cases side <;> exact holds_nil

variable {world after : World Address} {lists : PlainLists Address} {env : Env Address}

theorem returns_exec (op : IndexOp Address) (done : Unit) :
    Returns op.exec env world done after ↔
      TtlFits world.storage.ttlConfig ∧
        Rewritable op.change (op.key.1.chunks world.storage op.key.2) ∧
        after = world.write (op.key.1.write op.key.2
          (rewritten op.change (op.key.1.chunks world.storage op.key.2))) := by
  cases op with
  | addSubject subject id => exact returns_extend .subject subject [id] done
  | removeSubject subject id => exact returns_removeId .subject subject id done
  | addIssuer issuer id => exact returns_extend .issuer issuer [id] done
  | addIssuerBulk issuer ids => exact returns_extend .issuer issuer ids done
  | removeIssuer issuer id => exact returns_removeId .issuer issuer id done

theorem Side.ttlConfig_write (side : Side) (owner : Address) (chunks : Nat → Option (List Str))
    (storage : Storage Address) :
    (side.write owner chunks storage).ttlConfig = storage.ttlConfig := by
  cases side <;> rfl

/-- A write shows at its own side and owner. -/
theorem Side.chunks_write (side other : Side) (owner address : Address)
    (chunks : Nat → Option (List Str)) (storage : Storage Address) :
    other.chunks (side.write owner chunks storage) address =
      if (other, address) = (side, owner) then chunks else other.chunks storage address := by
  cases side <;> cases other <;> simp [Side.write, Side.chunks, Function.update_apply]

/-- An operation whose edit keeps the length of a `u32` returns, and edits one list. -/
theorem simulates_exec (op : IndexOp Address) :
    Simulates Keeps op.exec env (op.edit ·) where
  returns {world lists result} keeps edited := by
    have short : (op.change (lists op.key)).length < u32Range := by
      by_contra long
      simp [IndexOp.edit, long] at edited
    obtain rfl : Function.update lists op.key (op.change (lists op.key)) = result := by
      simpa [IndexOp.edit, short] using edited
    have held := keeps.holds op.key.1 op.key.2
    have changes := (held.rewritable_iff op.change).mpr short
    refine ⟨_, (returns_exec op ()).mpr ⟨by rw [keeps.untimed]; trivial, changes, rfl⟩,
      (Side.ttlConfig_write ..).trans keeps.untimed, fun side owner => ?_⟩
    rw [World.storage_write, Side.chunks_write]
    by_cases here : (side, owner) = op.key
    · rw [if_pos here, here, Function.update_self]
      exact held.rewritten changes
    · rw [if_neg here, Function.update_of_ne here]
      exact keeps.holds side owner
  refuses {world lists} keeps refused after returned := by
    obtain ⟨-, changes, -⟩ := (returns_exec op ()).mp returned
    have short := ((keeps.holds op.key.1 op.key.2).rewritable_iff op.change).mp changes
    simp [IndexOp.edit, short] at refused

theorem keeps_run (calls : List (IndexCall Address)) :
    Keeps (runIndex calls) (plainLists calls) := by
  have simulates : ∀ call : IndexCall Address,
      Simulates Keeps call.op.exec call.env fun lists => call.op.edit lists :=
    fun call => simulates_exec call.op
  exact run_simulates simulates keeps_empty calls

omit [DecidableEq Address] in
theorem Keeps.getIds (keeps : Keeps world lists) (side : Side) (owner : Address) :
    Returns (ChunkedIndex.getIds side owner) env world (lists (side, owner)) world :=
  (returns_getIds side owner _).mpr ⟨(keeps.holds side owner).read, rfl⟩

omit [DecidableEq Address] in
theorem Keeps.count (keeps : Keeps world lists) (side : Side) (owner : Address) :
    Returns (ChunkedIndex.getIds side owner >>= fun ids => pure ids.length) env world
      (lists (side, owner)).length world :=
  (returns_bind ..).mpr ⟨_, _, keeps.getIds side owner, (returns_pure _).mpr ⟨rfl, rfl⟩⟩

omit [DecidableEq Address] in
theorem Keeps.getPage (keeps : Keeps world lists) (side : Side) (owner : Address)
    (start limit : Nat) :
    ChunkedIndex.getPage side owner start limit env world =
      paginate (lists (side, owner)) start limit env world := by
  have read := @Keeps.getIds _ _ _ env keeps side owner
  rw [Returns] at read
  simp only [ChunkedIndex.getPage, bind, read]

theorem Keeps.implements (keeps : Keeps world lists) : ImplementsLists world lists where
  subjectAll _ subject := keeps.getIds .subject subject
  issuerAll _ issuer := keeps.getIds .issuer issuer
  subjectCount _ subject := keeps.count .subject subject
  issuerCount _ issuer := keeps.count .issuer issuer
  subjectPage _ subject := keeps.getPage .subject subject
  issuerPage _ issuer := keeps.getPage .issuer issuer
  tidy side owner := (keeps.holds side owner).1.tidy (by decide)
  accepts env op := by
    rw [(simulates_exec op).accepts_iff keeps]
    by_cases short : (op.change (lists op.key)).length < u32Range <;> simp [IndexOp.edit, short]

/-- After every sequence of operations the index is the plain lists of the same edits. -/
theorem chunked_index_implements_lists (calls : List (IndexCall Address)) :
    ImplementsLists (runIndex calls) (plainLists calls) :=
  (keeps_run calls).implements

end Operations

end TrustLink.ChunkedIndex
