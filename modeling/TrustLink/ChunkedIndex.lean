import TrustLink.Storage
import TrustLink.Lib.Chunks

/-!
The `ChunkedIndex` of storage.rs. The subject and the issuer half are the same
code over two families of keys, so they are one definition over a `Side`. Chunk
numbers and list lengths are `u32`.
-/
namespace TrustLink.ChunkedIndex
open Transaction

def chunkSize : Nat := 50

inductive Side where
  | subject
  | issuer
  deriving DecidableEq

section Model
variable {Address : Type}

def Side.chunks : Side → Storage Address → Address → Nat → Option (List Str)
  | .subject, storage => storage.subjectAttestationChunk
  | .issuer, storage => storage.issuerAttestationChunk

def Side.write [DecidableEq Address] (side : Side) (owner : Address)
    (chunks : Nat → Option (List Str)) (storage : Storage Address) : Storage Address :=
  match side with
  | .subject => { storage with
      subjectAttestationChunk := Function.update storage.subjectAttestationChunk owner chunks }
  | .issuer => { storage with
      issuerAttestationChunk := Function.update storage.issuerAttestationChunk owner chunks }

@[simp] theorem Side.write_subject [DecidableEq Address] (owner : Address)
    (chunks : Nat → Option (List Str)) (storage : Storage Address) :
    Side.subject.write owner chunks storage = { storage with
      subjectAttestationChunk := Function.update storage.subjectAttestationChunk owner chunks } :=
  rfl

@[simp] theorem Side.write_issuer [DecidableEq Address] (owner : Address)
    (chunks : Nat → Option (List Str)) (storage : Storage Address) :
    Side.issuer.write owner chunks storage = { storage with
      issuerAttestationChunk := Function.update storage.issuerAttestationChunk owner chunks } :=
  rfl

@[simp] theorem Side.chunks_subject (storage : Storage Address) :
    Side.subject.chunks storage = storage.subjectAttestationChunk := rfl

@[simp] theorem Side.chunks_issuer (storage : Storage Address) :
    Side.issuer.chunks storage = storage.issuerAttestationChunk := rfl

def getIds (side : Side) (owner : Address) : Program Address (List Str) := do
  let chunks ← load (side.chunks · owner)
  orFail .trap (Chunks.read chunks u32Range 0 [])

variable [DecidableEq Address]

def writeChunks (side : Side) (owner : Address) (ids : List Str) : Program Address Unit := do
  let _ ← getTtlLifetime
  -- `ids.len()` is a `u32`
  let _ ← checkedU32 ids.length
  let chunks ← load (side.chunks · owner)
  let written ← orFail .trap (Chunks.rewrite chunkSize u32Range ids chunks)
  store (side.write owner written)

def extend (side : Side) (owner : Address) (ids : List Str) : Program Address Unit := do
  let existing ← getIds side owner
  writeChunks side owner (existing ++ ids)

def removeId (side : Side) (owner : Address) (id : Str) : Program Address Unit := do
  let ids ← getIds side owner
  writeChunks side owner (ids.filter (· ≠ id))

@[simp] def addSubject (subject : Address) (id : Str) : Program Address Unit :=
  extend .subject subject [id]

@[simp] def addIssuer (issuer : Address) (id : Str) : Program Address Unit :=
  extend .issuer issuer [id]

@[simp] def addIssuerBulk (issuer : Address) (ids : List Str) : Program Address Unit :=
  extend .issuer issuer ids

@[simp] def removeSubject (subject : Address) (id : Str) : Program Address Unit :=
  removeId .subject subject id

@[simp] def removeIssuer (issuer : Address) (id : Str) : Program Address Unit :=
  removeId .issuer issuer id

end Model

def getSubjectAll {Address : Type} (subject : Address) : Program Address (List Str) :=
  getIds .subject subject

def getIssuerAll {Address : Type} (issuer : Address) : Program Address (List Str) :=
  getIds .issuer issuer

/-- `paginate` of storage.rs; `start + limit` is a sum of `u32`s. -/
def paginate {Address : Type} (list : List Str) (start limit : Nat) :
    Program Address (List Str) := do
  let len := list.length
  if len ≤ start then pure []
  else do
    let sum ← checkedU32 (start + limit)
    let stop := min sum len
    pure ((list.drop start).take (stop - start))

def getPage {Address : Type} (side : Side) (owner : Address) (start limit : Nat) :
    Program Address (List Str) := do
  let ids ← getIds side owner
  paginate ids start limit

def getSubjectPage {Address : Type} (subject : Address) (start limit : Nat) :
    Program Address (List Str) :=
  getPage .subject subject start limit

def getIssuerPage {Address : Type} (issuer : Address) (start limit : Nat) :
    Program Address (List Str) :=
  getPage .issuer issuer start limit

/-- One read-modify-write of the chunks of an owner; `none` is a trap. -/
def rewrite? (change : List Str → List Str) (old : Nat → Option (List Str)) :
    Option (Nat → Option (List Str)) := do
  let items ← Chunks.read old u32Range 0 []
  if (change items).length < u32Range then Chunks.rewrite chunkSize u32Range (change items) old
  else none

def Rewritable (change : List Str → List Str) (old : Nat → Option (List Str)) : Prop :=
  (rewrite? change old).isSome

def rewritten (change : List Str → List Str) (old : Nat → Option (List Str)) :
    Nat → Option (List Str) :=
  (rewrite? change old).getD old

section Returns
variable {Address : Type} {env : Env Address} {before after : World Address}

@[simp] theorem returns_getIds (side : Side) (owner : Address) (ids : List Str) :
    Returns (getIds side owner) env before ids after ↔
      Chunks.read (side.chunks before.storage owner) u32Range 0 [] = some ids ∧
        after = before := by
  simp [getIds, and_comm]

theorem returns_paginate (list : List Str) (start limit : Nat) (page : List Str) :
    Returns (paginate list start limit) env before page after ↔
      (start < list.length → start + limit < u32Range) ∧
        page = (list.drop start).take limit ∧ after = before := by
  unfold paginate
  by_cases past : list.length ≤ start
  · simp [past, List.drop_eq_nil_of_le past, Nat.not_lt_of_le past]
  · have cut : (list.drop start).take (min (start + limit) list.length - start) =
        (list.drop start).take limit := by
      rcases Nat.le_total (start + limit) list.length with short | long
      · rw [Nat.min_eq_left short, Nat.add_sub_cancel_left]
      · rw [Nat.min_eq_right long, List.take_of_length_le (List.length_drop ▸ Nat.le_refl _),
          List.take_of_length_le (by rw [List.length_drop]; omega)]
    simp [past, Nat.lt_of_not_le past, cut]
    exact ⟨fun ⟨⟨room, same⟩, value⟩ => ⟨room, value, same⟩,
      fun ⟨room, value, same⟩ => ⟨⟨room, same⟩, value⟩⟩

theorem returns_getPage (side : Side) (owner : Address) (start limit : Nat) (page : List Str) :
    Returns (getPage side owner start limit) env before page after ↔
      ∃ ids, Chunks.read (side.chunks before.storage owner) u32Range 0 [] = some ids ∧
        (start < ids.length → start + limit < u32Range) ∧ page = (ids.drop start).take limit ∧
        after = before := by
  simp [getPage, returns_paginate]

variable [DecidableEq Address]

theorem returns_writeChunks (side : Side) (owner : Address) (ids : List Str) (done : Unit) :
    Returns (writeChunks side owner ids) env before done after ↔
      TtlFits before.storage.ttlConfig ∧ ids.length < u32Range ∧
        ∃ chunks, Chunks.rewrite chunkSize u32Range ids (side.chunks before.storage owner) =
          some chunks ∧ after = before.write (side.write owner chunks) := by
  simp [writeChunks]

theorem returns_rewrite (side : Side) (owner : Address) (change : List Str → List Str)
    (done : Unit) :
    Returns (getIds side owner >>= fun ids => writeChunks side owner (change ids))
        env before done after ↔
      TtlFits before.storage.ttlConfig ∧ Rewritable change (side.chunks before.storage owner) ∧
        after = before.write
          (side.write owner (rewritten change (side.chunks before.storage owner))) := by
  simp only [returns_bind, returns_getIds, returns_writeChunks, Rewritable, rewritten, rewrite?]
  cases found : Chunks.read (side.chunks before.storage owner) u32Range 0 [] with
  | none => simp
  | some items =>
      by_cases short : (change items).length < u32Range
      · cases written : Chunks.rewrite chunkSize u32Range (change items)
            (side.chunks before.storage owner) <;> simp [short, written]
      · simp [short]

@[simp] theorem returns_extend (side : Side) (owner : Address) (ids : List Str) (done : Unit) :
    Returns (extend side owner ids) env before done after ↔
      TtlFits before.storage.ttlConfig ∧
        Rewritable (· ++ ids) (side.chunks before.storage owner) ∧
        after = before.write
          (side.write owner (rewritten (· ++ ids) (side.chunks before.storage owner))) :=
  returns_rewrite side owner (· ++ ids) done

@[simp] theorem returns_removeId (side : Side) (owner : Address) (id : Str) (done : Unit) :
    Returns (removeId side owner id) env before done after ↔
      TtlFits before.storage.ttlConfig ∧
        Rewritable (·.filter (· ≠ id)) (side.chunks before.storage owner) ∧
        after = before.write
          (side.write owner (rewritten (·.filter (· ≠ id)) (side.chunks before.storage owner))) :=
  returns_rewrite side owner (·.filter (· ≠ id)) done

end Returns

/-- The chunks hold a list that a `Vec` can hold. -/
def Holds (chunks : Nat → Option (List Str)) (items : List Str) : Prop :=
  Chunks.Represents chunkSize chunks items ∧ items.length < u32Range

theorem holds_nil : Holds (fun _ => none) [] :=
  ⟨Chunks.represents_nil, by decide⟩

/-- A list that fits a `u32` leaves room in the chunk numbers. -/
theorem room_of_length {items : List Str} (short : items.length < u32Range) :
    items.length ≤ (u32Range - 1) * chunkSize := by
  have ranges : u32Range - 1 ≤ (u32Range - 1) * chunkSize := Nat.le_mul_of_pos_right _ (by decide)
  omega

theorem Holds.read {chunks : Nat → Option (List Str)} {items : List Str}
    (holds : Holds chunks items) : Chunks.read chunks u32Range 0 [] = some items := by
  have whole := Chunks.read_represents (by decide) holds.1 (u32Range - 1) 0 []
    (by simpa using room_of_length holds.2)
  rw [Nat.zero_mul, List.drop_zero, List.nil_append] at whole
  exact whole

theorem Holds.rewrite {old : Nat → Option (List Str)} {items : List Str}
    (change : List Str → List Str) (holds : Holds old items)
    (short : (change items).length < u32Range) :
    ∃ new, rewrite? change old = some new ∧ Holds new (change items) := by
  obtain ⟨new, written, rep⟩ := Chunks.rewrite_represents (by decide) (u32Range - 1) holds.1
    (room_of_length holds.2) (change items) (room_of_length short)
  refine ⟨new, ?_, rep, short⟩
  simp only [rewrite?, holds.read, Option.bind_eq_bind, Option.bind_some, short, ↓reduceIte]
  exact written

/-- On sound chunks a change can fail only by making the list too long. -/
theorem Holds.rewritable_iff {old : Nat → Option (List Str)} {items : List Str}
    (change : List Str → List Str) (holds : Holds old items) :
    Rewritable change old ↔ (change items).length < u32Range := by
  constructor
  · intro rewritable
    by_contra long
    simp [Rewritable, rewrite?, holds.read, long] at rewritable
  · intro short
    obtain ⟨new, written, _⟩ := holds.rewrite change short
    simp [Rewritable, written]

theorem Holds.rewritten {old : Nat → Option (List Str)} {items : List Str}
    {change : List Str → List Str} (holds : Holds old items) (changes : Rewritable change old) :
    Holds (rewritten change old) (change items) := by
  obtain ⟨new, written, held⟩ :=
    holds.rewrite change ((holds.rewritable_iff change).mp changes)
  rw [ChunkedIndex.rewritten, written]
  exact held

/-- There is one way to keep a list in chunks. -/
theorem Holds.ext {left right : Nat → Option (List Str)} {items : List Str}
    (first : Holds left items) (second : Holds right items) : left = right :=
  Chunks.represents_unique first.1 second.1

theorem Holds.rewritten_self {chunks : Nat → Option (List Str)} {items : List Str}
    (change : List Str → List Str) (holds : Holds chunks items) (same : change items = items) :
    Rewritable change chunks ∧ ChunkedIndex.rewritten change chunks = chunks := by
  have changes : Rewritable change chunks := by
    rw [holds.rewritable_iff, same]
    exact holds.2
  have kept := holds.rewritten changes
  rw [same] at kept
  exact ⟨changes, kept.ext holds⟩

/-- Two changes in a row leave the chunks of their composition. -/
theorem Holds.rewritten_comp {chunks : Nat → Option (List Str)} {items : List Str}
    {first second : List Str → List Str} (holds : Holds chunks items)
    (early : Rewritable first chunks)
    (late : Rewritable second (ChunkedIndex.rewritten first chunks)) :
    Rewritable (second ∘ first) chunks ∧
      ChunkedIndex.rewritten second (ChunkedIndex.rewritten first chunks) =
        ChunkedIndex.rewritten (second ∘ first) chunks := by
  have twice := (holds.rewritten early).rewritten late
  have changes : Rewritable (second ∘ first) chunks := (holds.rewritable_iff _).mpr twice.2
  exact ⟨changes, twice.ext (holds.rewritten changes)⟩

end TrustLink.ChunkedIndex
