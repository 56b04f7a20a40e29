import Mathlib.Data.List.Nodup
import Mathlib.Logic.Relation
import Mathlib.Tactic.Common

/-!
Reading a list page by page behind a cursor, the last item received, while items vanish
from the list. Behind a cursor that is still there the reader goes on; for one that is
gone it looks for the first item that comes after it in an order of the items. This is
safe exactly when the list stands in that order from the first cursor on.
-/
namespace Cursor
open Relation

section Pages
variable {Item Id : Type} [DecidableEq Id] (idOf : Item → Id) (before : Item → Item → Bool)

/-- Where to go on: behind the place of the last item, or at the first item after it. -/
def resume (list : List Item) (last : Item) : Option Nat :=
  match list.findIdx? fun item => idOf item = idOf last with
  | some index => some (index + 1)
  | none => list.findIdx? (before last)

def start (list : List Item) : Option Item → Option Nat
  | none => some 0
  | some last => resume idOf before list last

def page (limit : Nat) (list : List Item) (cursor : Option Item) : List Item :=
  (start idOf before list cursor).elim [] fun index => (list.drop index).take limit

/-- What is left of the list, and what has been received of it. -/
structure Crawl (Item : Type) where
  live : List Item
  yielded : List Item

/-- A page is received, or an item vanishes between two pages. -/
inductive Step (limit : Nat) (deletes : Prop) : Crawl Item → Crawl Item → Prop
  | fetch (crawl : Crawl Item)
      (more : page idOf before limit crawl.live crawl.yielded.getLast? ≠ []) :
      Step limit deletes crawl ⟨crawl.live,
        crawl.yielded ++ page idOf before limit crawl.live crawl.yielded.getLast?⟩
  | delete (crawl : Crawl Item) (item : Item) (allowed : deletes) (started : crawl.yielded ≠ [])
      (listed : item ∈ crawl.live) :
      Step limit deletes crawl ⟨crawl.live.filter fun other => idOf other ≠ idOf item,
        crawl.yielded⟩

/-- Nothing is received twice, no offset passes the range, and an empty page comes when
all that is left has been received. -/
structure Safe (limit range : Nat) (crawl : Crawl Item) : Prop where
  once : (crawl.yielded.map idOf).Nodup
  room : ∀ index, start idOf before crawl.live crawl.yielded.getLast? = some index →
    index + limit < range
  complete : page idOf before limit crawl.live crawl.yielded.getLast? = [] →
    ∀ item ∈ crawl.live, idOf item ∈ crawl.yielded.map idOf

/-- Every way of reading the list while items vanish is safe. -/
def Survives (limit range : Nat) (deletes : Prop) (list : List Item) : Prop :=
  ∀ crawl, ReflTransGen (Step idOf before limit deletes) ⟨list, []⟩ crawl →
    Safe idOf before limit range crawl

/-- From the first possible cursor on, every item comes after all that stand before it. -/
def Ordered (limit : Nat) (list : List Item) : Prop :=
  ∀ (early : List Item) (last : Item) (late : List Item), list = early ++ last :: late →
    min limit list.length ≤ early.length + 1 → ∀ item ∈ early, before item last = true

omit [DecidableEq Id] in
theorem ordered_of_pairwise {before : Item → Item → Bool} {limit : Nat} {list : List Item}
    (sorted : list.Pairwise fun first second => before first second = true) :
    Ordered before limit list := by
  rintro early last late rfl - item member
  exact (List.pairwise_append.mp sorted).2.2 item member last (by simp)

end Pages

section Sufficient
variable {Item Id : Type} [DecidableEq Id] {idOf : Item → Id} {before : Item → Item → Bool}
  {limit range : Nat} {deletes : Prop} {list : List Item}

omit [DecidableEq Id] in
theorem apart_of_nodup {early late : List Item} {last item : Item}
    (distinct : ((early ++ last :: late).map idOf).Nodup) (member : item ∈ early ∨ item ∈ late) :
    idOf item ≠ idOf last := by
  rw [List.map_append, List.map_cons, List.nodup_middle, List.nodup_cons] at distinct
  intro same
  refine distinct.1 (same ▸ ?_)
  rw [← List.map_append]
  exact List.mem_map_of_mem (List.mem_append.mpr member)

/-- The first item that passes a test no earlier one passes. -/
theorem findIdx?_behind {test : Item → Bool} {early late : List Item}
    (none : ∀ item ∈ early, test item = false) :
    (early ++ late).findIdx? test = (late.findIdx? test).map (· + early.length) := by
  rw [List.findIdx?_append, List.findIdx?_eq_none_iff.mpr none]
  rfl

theorem start_le {cursor : Option Item} {index : Nat}
    (starts : start idOf before list cursor = some index) : index ≤ list.length := by
  cases cursor with
  | none =>
      obtain rfl := Option.some.inj starts
      exact Nat.zero_le _
  | some last =>
      simp only [start, resume] at starts
      split at starts
      · rename_i place found
        obtain rfl := Option.some.inj starts
        exact (List.findIdx?_eq_some_iff_getElem.mp found).1
      · exact Nat.le_of_lt (List.findIdx?_eq_some_iff_getElem.mp starts).1

theorem mem_of_mem_page {cursor : Option Item} {item : Item}
    (member : item ∈ page idOf before limit list cursor) : item ∈ list := by
  rw [page] at member
  cases starts : start idOf before list cursor with
  | none =>
      rw [starts] at member
      cases member
  | some index =>
      rw [starts] at member
      exact List.mem_of_mem_drop (List.mem_of_mem_take member)

/-- The cursor is the last item of a front that has been gone through. -/
theorem page_of_kept {early rest : List Item} {last : Item}
    (fresh : ∀ item ∈ early, idOf item ≠ idOf last) :
    start idOf before (early ++ last :: rest) (some last) = some (early.length + 1) ∧
      page idOf before limit (early ++ last :: rest) (some last) = rest.take limit := by
  have found : (early ++ last :: rest).findIdx? (fun item => idOf item = idOf last) =
      some early.length := by
    rw [findIdx?_behind fun item member => decide_eq_false (fresh item member)]
    simp [List.findIdx?_cons]
  have starts : start idOf before (early ++ last :: rest) (some last) =
      some (early.length + 1) := by
    simp [start, resume, found]
  refine ⟨starts, ?_⟩
  rw [page, starts, Option.elim_some, List.append_cons, List.drop_left' (by simp)]

/-- The cursor is any item of a list without repetitions. -/
theorem start_at (distinct : (list.map idOf).Nodup) {index : Nat} {last : Item}
    (here : list[index]? = some last) : start idOf before list (some last) = some (index + 1) := by
  obtain ⟨inside, rfl⟩ := List.getElem?_eq_some_iff.mp here
  have split : list = list.take index ++ list[index] :: list.drop (index + 1) := by
    rw [← List.drop_eq_getElem_cons inside, List.take_append_drop]
  have place : (list.take index).length = index := List.length_take_of_le (Nat.le_of_lt inside)
  have fresh : ∀ item ∈ list.take index, idOf item ≠ idOf list[index] := by
    rw [split] at distinct
    exact fun item member => apart_of_nodup distinct (.inl member)
  have starts : start idOf before (list.take index ++ list[index] :: list.drop (index + 1))
      (some list[index]) = some ((list.take index).length + 1) :=
    (@page_of_kept _ _ _ _ _ 0 _ _ _ fresh).1
  rwa [← split, place] at starts

/-- The cursor is gone, and what is left before it is before it in the order, too. -/
theorem page_of_gone {early rest : List Item} {last : Item}
    (gone : ∀ item ∈ early ++ rest, idOf item ≠ idOf last)
    (earlier : ∀ item ∈ early, before last item = false)
    (later : ∀ item ∈ rest, before last item = true) :
    page idOf before limit (early ++ rest) (some last) = rest.take limit := by
  have lost : (early ++ rest).findIdx? (fun item => idOf item = idOf last) = none :=
    List.findIdx?_eq_none_iff.mpr fun item member => decide_eq_false (gone item member)
  have starts : start idOf before (early ++ rest) (some last) =
      (rest.findIdx? (before last)).map (· + early.length) := by
    simp only [start, resume, lost]
    exact findIdx?_behind earlier
  cases rest with
  | nil =>
      rw [page, starts]
      simp
  | cons first others =>
      simp [page, starts, List.findIdx?_cons, later first (by simp)]

/-- A front of the list has been gone through: what is left of it has been received, and
its last item is the cursor. -/
structure Passed (limit : Nat) (deletes : Prop) (list : List Item) (crawl : Crawl Item)
    (keep : Item → Bool) (front rest : List Item) : Prop where
  split : list = front ++ rest
  live : crawl.live = list.filter keep
  received : crawl.yielded.Sublist front
  all : ∀ item ∈ front, keep item = true → item ∈ crawl.yielded
  cursor : front = [] ∧ crawl.live = list ∨
    min limit list.length ≤ front.length ∧ ∃ early last, front = early ++ [last] ∧
      crawl.yielded.getLast? = some last ∧ (keep last = false → deletes)

variable {crawl : Crawl Item} {keep : Item → Bool} {front rest : List Item}
  (distinct : (list.map idOf).Nodup) (ordered : deletes → Ordered before limit list)
  (asymm : ∀ first second, before first second = true → before second first = false)
include distinct ordered asymm

/-- The next page is taken from what is left behind the front. -/
theorem page_of_passed (passed : Passed limit deletes list crawl keep front rest) :
    page idOf before limit crawl.live crawl.yielded.getLast? =
      (rest.filter keep).take limit := by
  obtain ⟨rfl, live, received, -, ⟨rfl, -⟩ | ⟨reached, early, last, rfl, cursor, gone⟩⟩ := passed
  · rw [live, List.sublist_nil.mp received]
    rfl
  · rw [live, cursor, List.append_assoc, List.filter_append, List.singleton_append]
    rw [List.append_assoc, List.singleton_append] at distinct ordered
    cases kept : keep last with
    | true =>
        rw [List.filter_cons_of_pos kept]
        refine (page_of_kept fun item member => ?_).2
        exact apart_of_nodup distinct (.inl (List.mem_filter.mp member).1)
    | false =>
        rw [List.filter_cons_of_neg (by simp [kept])]
        have inOrder := ordered (gone kept)
        have near : min limit (early ++ last :: rest).length ≤ early.length + 1 := by
          simpa using reached
        refine page_of_gone (fun item member => ?_) (fun item member => ?_) fun item member => ?_
        · refine apart_of_nodup distinct ((List.mem_append.mp member).imp ?_ ?_) <;>
            exact fun there => (List.mem_filter.mp there).1
        · exact asymm _ _ (inOrder early last rest rfl near item (List.mem_filter.mp member).1)
        · obtain ⟨middle, late, rfl⟩ := List.append_of_mem (List.mem_filter.mp member).1
          refine inOrder (early ++ last :: middle) item late (by simp) ?_ last (by simp)
          simp only [List.length_append, List.length_cons] at near ⊢
          omega

omit [DecidableEq Id] distinct ordered asymm in
/-- A page that is not empty ends with an item that is left, and goes on the front. -/
theorem front_of_page {rest : List Item} (more : (rest.filter keep).take limit ≠ []) :
    ∃ middle last late, rest = middle ++ [last] ++ late ∧ keep last = true ∧
      (middle ++ [last]).filter keep = (rest.filter keep).take limit := by
  obtain ⟨initial, last, ends⟩ : ∃ initial last,
      (rest.filter keep).take limit = initial ++ [last] :=
    ⟨_, _, (List.dropLast_append_getLast more).symm⟩
  have whole : rest.filter keep = initial ++ last :: (rest.filter keep).drop limit := by
    rw [List.append_cons, ← ends, List.take_append_drop]
  obtain ⟨first, second, rfl, early, behind⟩ := List.filter_eq_append_iff.mp whole
  obtain ⟨skipped, late, rfl, none, kept, -⟩ := List.filter_eq_cons_iff.mp behind
  refine ⟨first ++ skipped, last, late, by simp, kept, ?_⟩
  rw [ends, List.filter_append, List.filter_append, early, List.filter_eq_nil_iff.mpr none,
    List.append_nil, List.filter_cons_of_pos kept]
  rfl

theorem Passed.fetch (passed : Passed limit deletes list crawl keep front rest)
    (more : page idOf before limit crawl.live crawl.yielded.getLast? ≠ []) :
    ∃ front rest, Passed limit deletes list
      ⟨crawl.live, crawl.yielded ++ page idOf before limit crawl.live crawl.yielded.getLast?⟩
      keep front rest := by
  have next := page_of_passed distinct ordered asymm passed
  rw [next] at more ⊢
  obtain ⟨middle, last, late, behind, kept, received⟩ := front_of_page more
  refine ⟨front ++ (middle ++ [last]), late, ?_, passed.live, ?_, ?_, .inr ⟨?_, ?_⟩⟩
  · rw [passed.split, behind]
    simp
  · rw [← received]
    exact passed.received.append List.filter_sublist
  · intro item member keeps
    rw [List.mem_append]
    refine (List.mem_append.mp member).imp (passed.all item · keeps) fun later => ?_
    rw [← received]
    exact List.mem_filter.mpr ⟨later, keeps⟩
  · rcases passed.cursor with ⟨rfl, whole⟩ | ⟨reached, -⟩
    · -- nothing has vanished before the first page
      have every : ∀ item ∈ list, keep item = true :=
        List.filter_eq_self.mp (passed.live.symm.trans whole)
      have same : list = rest := passed.split
      rw [same] at every ⊢
      have all : (middle ++ [last]).filter keep = middle ++ [last] :=
        List.filter_eq_self.mpr fun item member =>
          every item (behind ▸ List.mem_append_left late member)
      rw [List.filter_eq_self.mpr every, all] at received
      simp [received]
    · rw [List.length_append]
      omega
  · refine ⟨front ++ middle, last, by simp, ?_, fun gone => ?_⟩
    · rw [← received, List.filter_append, List.filter_cons_of_pos kept]
      simp
    · rw [kept] at gone
      cases gone

omit distinct ordered asymm in
theorem Passed.delete (passed : Passed limit deletes list crawl keep front rest) (item : Item)
    (allowed : deletes) (started : crawl.yielded ≠ []) :
    Passed limit deletes list
      ⟨crawl.live.filter fun other => idOf other ≠ idOf item, crawl.yielded⟩
      (fun other => decide (idOf other ≠ idOf item) && keep other) front rest := by
  refine ⟨passed.split, ?_, passed.received, fun other member keeps => ?_, ?_⟩
  · rw [passed.live, List.filter_filter]
  · exact passed.all other member (Bool.and_eq_true_iff.mp keeps).2
  · rcases passed.cursor with ⟨rfl, -⟩ | ⟨reached, early, last, split, cursor, -⟩
    · exact absurd (List.sublist_nil.mp passed.received) started
    · exact .inr ⟨reached, early, last, split, cursor, fun _ => allowed⟩

theorem passed_of_reaches
    (reaches : ReflTransGen (Step idOf before limit deletes) ⟨list, []⟩ crawl) :
    ∃ keep front rest, Passed limit deletes list crawl keep front rest := by
  induction reaches with
  | refl =>
      exact ⟨fun _ => true, [], list, rfl, by simp, .slnil, by simp, .inl ⟨rfl, rfl⟩⟩
  | tail _ step ih =>
      obtain ⟨keep, front, rest, passed⟩ := ih
      cases step with
      | fetch more => exact ⟨keep, passed.fetch distinct ordered asymm more⟩
      | delete item allowed started listed =>
          exact ⟨_, front, rest, passed.delete item allowed started⟩

theorem survives_of_ordered (positive : 0 < limit) (room : list.length + limit < range) :
    Survives idOf before limit range deletes list := by
  intro crawl reaches
  obtain ⟨keep, front, rest, passed⟩ := passed_of_reaches distinct ordered asymm reaches
  refine ⟨?_, fun index starts => ?_, fun ends item member => ?_⟩
  · rw [passed.split, List.map_append] at distinct
    exact (List.Nodup.of_append_left distinct).sublist (passed.received.map idOf)
  · have inside := start_le starts
    have shorter : crawl.live.length ≤ list.length := passed.live ▸ List.length_filter_le ..
    omega
  · rw [page_of_passed distinct ordered asymm passed, List.take_eq_nil_iff] at ends
    rw [passed.live, passed.split, List.filter_append, ends.resolve_left (by omega),
      List.append_nil, List.mem_filter] at member
    exact List.mem_map_of_mem (passed.all item member.1 member.2)

end Sufficient

section Necessary
variable {Item Id : Type} [DecidableEq Id] {idOf : Item → Id} {before : Item → Item → Bool}
  {limit range : Nat} {deletes : Prop} {list : List Item}

/-- While nothing vanishes the reader comes to the end. -/
theorem reaches_end (positive : 0 < limit) {initial : Crawl Item}
    (once : ∀ crawl, ReflTransGen (Step idOf before limit deletes) initial crawl →
      (crawl.yielded.map idOf).Nodup) (early : List Item) (last : Item) (rest : List Item)
    (reaches : ReflTransGen (Step idOf before limit deletes) initial
      ⟨early ++ last :: rest, early ++ [last]⟩) :
    ReflTransGen (Step idOf before limit deletes) initial
      ⟨early ++ last :: rest, early ++ last :: rest⟩ := by
  induction remaining : rest.length using Nat.strongRecOn generalizing early last rest with
  | _ length ih =>
      cases rest with
      | nil => exact reaches
      | cons first others =>
          have distinct : ((early ++ [last]).map idOf).Nodup := once _ reaches
          have fresh : ∀ item ∈ early, idOf item ≠ idOf last :=
            fun item member => apart_of_nodup distinct (.inl member)
          have next : page idOf before limit (early ++ last :: first :: others)
              (early ++ [last]).getLast? = (first :: others).take limit := by
            rw [List.getLast?_concat]
            exact (page_of_kept fresh).2
          have more : (first :: others).take limit ≠ [] := by
            rw [Ne, List.take_eq_nil_iff]
            simp [Nat.ne_of_gt positive]
          have fetched := reaches.tail (.fetch _ (next ▸ more))
          obtain ⟨middle, cursor, ends⟩ : ∃ middle cursor,
              (first :: others).take limit = middle ++ [cursor] :=
            ⟨_, _, (List.dropLast_append_getLast more).symm⟩
          have whole : first :: others = middle ++ cursor :: (first :: others).drop limit := by
            rw [List.append_cons, ← ends, List.take_append_drop]
          simp only [next, ends] at fetched
          have shorter : ((first :: others).drop limit).length < length := by
            rw [List.length_drop, ← remaining, List.length_cons]
            omega
          have ended := ih _ shorter (early ++ last :: middle) cursor _
            (by simpa [← whole] using fetched) rfl
          simpa [← whole] using ended

/-- All that stands behind a place can vanish. -/
theorem reaches_cut (allowed : deletes) {initial : Crawl Item} {front yielded : List Item}
    (started : yielded ≠ []) (behind : List Item)
    (distinct : ((front ++ behind).map idOf).Nodup)
    (reaches : ReflTransGen (Step idOf before limit deletes) initial
      ⟨front ++ behind, yielded⟩) :
    ReflTransGen (Step idOf before limit deletes) initial ⟨front, yielded⟩ := by
  induction behind with
  | nil => simpa using reaches
  | cons item others ih =>
      have left : (front ++ item :: others).filter (fun other => idOf other ≠ idOf item) =
          front ++ others := by
        rw [List.filter_append, List.filter_cons_of_neg (by simp), ← List.filter_append]
        refine List.filter_eq_self.mpr fun other member => decide_eq_true ?_
        exact apart_of_nodup distinct (List.mem_append.mp member)
      refine ih (distinct.sublist (.map idOf (.append_left (List.sublist_cons_self ..) _))) ?_
      have vanished := reaches.tail (.delete _ item allowed started (by simp))
      simpa only [left] using vanished

variable (idOf before deletes) in
theorem first_page (positive : 0 < limit) (some_item : list ≠ []) : ∃ early last,
    list.take limit = early ++ [last] ∧
      ReflTransGen (Step idOf before limit deletes) ⟨list, []⟩ ⟨list, list.take limit⟩ := by
  have more : list.take limit ≠ [] := by
    rw [Ne, List.take_eq_nil_iff]
    simp [Nat.ne_of_gt positive, some_item]
  refine ⟨_, _, (List.dropLast_append_getLast more).symm, ?_⟩
  exact .single (.fetch ⟨list, []⟩ more)

variable (positive : 0 < limit) (survives : Survives idOf before limit range deletes list)
include positive survives

/-- The whole list can be read. -/
theorem reaches_all : ReflTransGen (Step idOf before limit deletes) ⟨list, []⟩ ⟨list, list⟩ := by
  by_cases empty : list = []
  · subst empty
    exact .refl
  · obtain ⟨early, last, ends, reaches⟩ := first_page idOf before deletes positive empty
    have whole : list = early ++ last :: list.drop limit := by
      rw [List.append_cons, ← ends, List.take_append_drop]
    rw [ends] at reaches
    have ended := reaches_end positive (fun crawl there => (survives crawl there).once)
      early last (list.drop limit) (by rwa [← whole])
    rwa [← whole] at ended

omit positive survives in
/-- Behind the last item the list is at its end. -/
theorem start_of_all (distinct : (list.map idOf).Nodup) :
    start idOf before list list.getLast? = some list.length ∧
      page idOf before limit list list.getLast? = [] := by
  rcases List.eq_nil_or_concat' list with rfl | ⟨front, final, rfl⟩
  · exact ⟨rfl, by simp [page, start]⟩
  · have fresh : ∀ item ∈ front, idOf item ≠ idOf final :=
      fun item member => apart_of_nodup distinct (.inl member)
    have kept : start idOf before (front ++ [final]) (some final) = some (front.length + 1) ∧
        page idOf before limit (front ++ [final]) (some final) = [].take limit :=
      page_of_kept fresh
    simp [kept]

theorem nodup_of_survives : (list.map idOf).Nodup ∧ list.length + limit < range := by
  have safe := survives _ (reaches_all positive survives)
  obtain ⟨ended, -⟩ : start idOf before list list.getLast? = some list.length ∧
      page idOf before limit list list.getLast? = [] := start_of_all safe.once
  exact ⟨safe.once, safe.room _ ended⟩

/-- Once all behind an item has vanished, that item becomes the cursor. -/
theorem reaches_last (allowed : deletes) {early late : List Item} {last : Item}
    (split : list = early ++ [last] ++ late)
    (near : min limit list.length ≤ early.length + 1) :
    ReflTransGen (Step idOf before limit deletes) ⟨list, []⟩
      ⟨early ++ [last], early ++ [last]⟩ := by
  have distinct := (nodup_of_survives positive survives).1
  have listed : list ≠ [] := by simp [split]
  obtain ⟨front, cursor, ends, reaches⟩ := first_page idOf before deletes positive listed
  have prefixed : list.take limit = (early ++ [last]).take limit := by
    simp only [split, List.length_append, List.length_singleton] at near
    rw [split, List.take_append, List.append_right_eq_self, List.take_eq_nil_iff,
      ← List.length_eq_zero_iff, List.length_append, List.length_singleton]
    omega
  have whole : early ++ [last] = front ++ cursor :: (early ++ [last]).drop limit := by
    conv_rhs => rw [List.append_cons, ← ends, prefixed, List.take_append_drop]
  rw [split] at distinct
  have started : ReflTransGen (Step idOf before limit deletes) ⟨list, []⟩
      ⟨early ++ [last] ++ late, front ++ [cursor]⟩ := by rwa [← split, ← ends]
  have cut := reaches_cut allowed (by simp) late distinct started
  have ended := reaches_end positive (fun crawl there => (survives crawl there).once)
    front cursor ((early ++ [last]).drop limit) (by rwa [← whole])
  rwa [← whole] at ended

theorem ordered_of_survives (allowed : deletes)
    (total : ∀ first second, idOf first ≠ idOf second →
      before first second = true ∨ before second first = true) :
    Ordered before limit list := by
  intro early last late split near item member
  have distinct := (nodup_of_survives positive survives).1
  rw [split] at distinct
  have fresh : ∀ other ∈ early, idOf other ≠ idOf last :=
    fun other there => apart_of_nodup distinct (.inl there)
  refine (total item last (fresh item member)).resolve_right fun later => ?_
  -- the last item vanishes as the cursor, and the search for the next one goes back
  have ended := reaches_last positive survives allowed (by simpa using split) near
  have gone := ended.tail (.delete _ last allowed (by simp) (by simp))
  have left : (early ++ [last]).filter (fun other => idOf other ≠ idOf last) = early := by
    rw [List.filter_append, List.filter_cons_of_neg (by simp), List.filter_nil, List.append_nil]
    exact List.filter_eq_self.mpr fun other there => decide_eq_true (fresh other there)
  rw [left] at gone
  obtain ⟨index, found⟩ : ∃ index, early.findIdx? (before last) = some index := by
    rw [← Option.isSome_iff_exists, List.findIdx?_isSome]
    exact List.any_eq_true.mpr ⟨item, member, later⟩
  have lost : early.findIdx? (fun other => idOf other = idOf last) = none :=
    List.findIdx?_eq_none_iff.mpr fun other there => decide_eq_false (fresh other there)
  have again : page idOf before limit early (early ++ [last]).getLast? =
      (early.drop index).take limit := by
    simp [page, start, resume, lost, found]
  have inside : index < early.length := (List.findIdx?_eq_some_iff_getElem.mp found).1
  obtain ⟨first, others, repeats⟩ : ∃ first others,
      (early.drop index).take limit = first :: others := by
    refine List.exists_cons_of_ne_nil ?_
    rw [Ne, List.take_eq_nil_iff, List.drop_eq_nil_iff]
    omega
  have member : first ∈ early :=
    List.mem_of_mem_drop (List.mem_of_mem_take (repeats ▸ List.mem_cons_self))
  have more : page idOf before limit early (early ++ [last]).getLast? ≠ [] := by
    rw [again, repeats]
    exact List.cons_ne_nil _ _
  have twice := (survives _ (gone.tail (.fetch _ more))).once
  simp only [again, repeats, List.map_append] at twice
  refine List.disjoint_of_nodup_append twice ?_ (show idOf first ∈ _ by simp)
  exact List.mem_append_left _ (List.mem_map_of_mem member)

omit survives in
/-- What it takes to read a list while its items vanish. -/
theorem survives_iff
    (asymm : ∀ first second, before first second = true → before second first = false)
    (total : ∀ first second, idOf first ≠ idOf second →
      before first second = true ∨ before second first = true) :
    Survives idOf before limit range deletes list ↔
      (list.map idOf).Nodup ∧ list.length + limit < range ∧
        (deletes → Ordered before limit list) := by
  constructor
  · intro survives
    obtain ⟨distinct, room⟩ := nodup_of_survives positive survives
    exact ⟨distinct, room, fun allowed => ordered_of_survives positive survives allowed total⟩
  · rintro ⟨distinct, room, ordered⟩
    exact survives_of_ordered distinct ordered asymm positive room

end Necessary

end Cursor
