import Mathlib.Data.List.Nodup
import Mathlib.Order.Nat
import Mathlib.Tactic.Common

/-!
Reading a list page by page from outside. The server cuts a page out of the list and
then leaves out the items that are not live; the client takes a short page for the last
one and the number of items it has been given for the next offset. Offsets and their sums
with the page size stay below a limit.
-/
namespace Paging
variable {Item : Type}

/-- `none` is a request that fails, or the end of the fuel. -/
def iterate (fetch : Nat → Option (List Item)) (size : Nat) : Nat → Nat → Option (List Item)
  | 0, _ => none
  | fuel + 1, start =>
      match fetch start with
      | none => none
      | some page =>
          if page.length < size then some page
          else (iterate fetch size fuel (start + page.length)).map (page ++ ·)

/-- The iteration ends with every live item, each once. -/
def Complete (fetch : Nat → Option (List Item)) (size : Nat) (items : List Item)
    (live : Item → Bool) : Prop :=
  ∃ fuel yielded, iterate fetch size fuel 0 = some yielded ∧ yielded.Nodup ∧
    ∀ item, item ∈ yielded ↔ item ∈ items ∧ live item = true

/-- Pages are cut first and filtered afterwards. -/
structure Cuts (fetch : Nat → Option (List Item)) (items : List Item) (live : Item → Bool)
    (size limit : Nat) : Prop where
  past : ∀ start, items.length ≤ start → start < limit → fetch start = some []
  served : ∀ start, start < items.length → start + size < limit →
    fetch start = some (((items.drop start).take size).filter live)
  refused : ∀ start, start < items.length → limit ≤ start + size → fetch start = none

/-- No live item stands on a later page than a dead one. -/
def Compact (items : List Item) (live : Item → Bool) (size : Nat) : Prop :=
  ∀ p q dead alive, items[p]? = some dead → live dead = false → items[q]? = some alive →
    live alive = true → q / size ≤ p / size

/-- The pages that the client can reach end below the limit. -/
def Roomy (items : List Item) (live : Item → Bool) (size limit : Nat) : Prop :=
  ∀ k, k * size < items.length → (∀ item ∈ items.take (k * size), live item = true) →
    k * size + size < limit

/-- Up to the end of page `k` the list goes on and every item is live. -/
def Full (items : List Item) (live : Item → Bool) (size k : Nat) : Prop :=
  ∀ i < (k + 1) * size, ∃ item, items[i]? = some item ∧ live item = true

variable {items : List Item} {live : Item → Bool} {size limit : Nat}
  {fetch : Nat → Option (List Item)}

theorem Full.length {k : Nat} (positive : 0 < size) (full : Full items live size k) :
    (k + 1) * size ≤ items.length := by
  have most : 0 < (k + 1) * size := Nat.mul_pos (by omega) positive
  obtain ⟨item, found, -⟩ := full ((k + 1) * size - 1) (by omega)
  obtain ⟨inside, -⟩ := List.getElem?_eq_some_iff.mp found
  omega

theorem exists_stop (positive : 0 < size) :
    ∃ stop, (∀ j < stop, Full items live size j) ∧ ¬ Full items live size stop := by
  have ends : ∃ k, ¬ Full items live size k := by
    refine ⟨items.length, fun full => ?_⟩
    have long := full.length positive
    have : items.length + 1 ≤ (items.length + 1) * size := Nat.le_mul_of_pos_right _ positive
    omega
  classical
  exact ⟨Nat.find ends, fun j before => not_not.mp (Nat.find_min ends before), Nat.find_spec ends⟩

/-- A page of live items only is as the list has it. -/
theorem page_of_full {k : Nat} (positive : 0 < size) (full : Full items live size k) :
    ((items.drop (k * size)).take size).filter live = (items.drop (k * size)).take size ∧
      ((items.drop (k * size)).take size).length = size := by
  have long := full.length positive
  rw [Nat.add_one_mul] at long
  constructor
  · rw [List.filter_eq_self]
    intro item member
    obtain ⟨i, inside, found⟩ := List.getElem_of_mem member
    have below : i < size := by
      rw [List.length_take] at inside
      omega
    obtain ⟨other, there, alive⟩ := full (k * size + i) (by rw [Nat.add_one_mul]; omega)
    have here : items[k * size + i]? = some item := by
      rw [← found, List.getElem_take, List.getElem_drop, List.getElem?_eq_getElem]
    rw [here, Option.some.injEq] at there
    rwa [there]
  · rw [List.length_take, List.length_drop]
    omega

theorem page_short {k : Nat} (before : ∀ j < k, Full items live size j)
    (stops : ¬ Full items live size k) :
    (((items.drop (k * size)).take size).filter live).length < size := by
  by_contra long
  apply stops
  have short : ((items.drop (k * size)).take size).length ≤ size := List.length_take_le ..
  have kept := List.length_filter_le live ((items.drop (k * size)).take size)
  have every := List.length_filter_eq_length_iff.mp
    (show (((items.drop (k * size)).take size).filter live).length =
      ((items.drop (k * size)).take size).length by omega)
  intro i below
  rcases Nat.lt_or_ge i (k * size) with earlier | here
  · obtain ⟨page, rfl⟩ : ∃ page, k = page + 1 :=
      ⟨k - 1, by rcases k with _ | k <;> simp at earlier ⊢⟩
    exact before page (by omega) i earlier
  · have place : i - k * size < ((items.drop (k * size)).take size).length := by
      rw [Nat.add_one_mul] at below
      omega
    have inside : i < items.length := by
      rw [List.length_take, List.length_drop] at place
      omega
    refine ⟨items[i], List.getElem?_eq_getElem inside, every _ ?_⟩
    have same : ((items.drop (k * size)).take size)[i - k * size] = items[i] := by
      rw [List.getElem_take, List.getElem_drop]
      congr 1
      omega
    exact same ▸ List.getElem_mem place

section Iteration
variable (cuts : Cuts fetch items live size limit)
include cuts

/-- The page that stops the iteration. -/
theorem last_page {k : Nat} (fits : k * size < limit)
    (room : k * size < items.length → k * size + size < limit)
    (before : ∀ j < k, Full items live size j) (stops : ¬ Full items live size k) (fuel : Nat) :
    iterate fetch size (fuel + 1) (k * size) =
      some (((items.drop (k * size)).take size).filter live) := by
  have served : fetch (k * size) = some (((items.drop (k * size)).take size).filter live) := by
    rcases Nat.lt_or_ge (k * size) items.length with inside | past
    · exact cuts.served _ inside (room inside)
    · simp [cuts.past _ past fits, List.drop_eq_nil_of_le past]
  rw [iterate, served]
  exact if_pos (page_short before stops)

/-- A full page is passed on and the iteration goes on behind it. -/
theorem next_page {k : Nat} (positive : 0 < size)
    (room : k * size < items.length → k * size + size < limit) (full : Full items live size k)
    (fuel : Nat) :
    iterate fetch size (fuel + 1) (k * size) =
      (iterate fetch size fuel ((k + 1) * size)).map ((items.drop (k * size)).take size ++ ·) := by
  have long := full.length positive
  have inside : k * size < items.length := by
    rw [Nat.add_one_mul] at long
    omega
  obtain ⟨alive, whole⟩ := page_of_full positive full
  rw [iterate, cuts.served _ inside (room inside)]
  simp only [alive, whole, Nat.lt_irrefl, ↓reduceIte, Nat.add_one_mul]

theorem iterate_from (positive : 0 < size) (d k : Nat) (fits : k * size < limit)
    (room : ∀ j, k ≤ j → j ≤ k + d → j * size < items.length → j * size + size < limit)
    (before : ∀ j < k + d, Full items live size j) (stops : ¬ Full items live size (k + d)) :
    iterate fetch size (d + 1) (k * size) =
      some (((items.drop (k * size)).take ((d + 1) * size)).filter live) := by
  induction d generalizing k with
  | zero =>
      rw [Nat.zero_add, Nat.one_mul]
      exact last_page cuts fits (room k (Nat.le_refl k) (Nat.le_refl k)) before stops 0
  | succ d ih =>
      have full := before k (by omega)
      have long := full.length positive
      have first := room k (Nat.le_refl k) (by omega)
      have inside : k * size < items.length := by
        rw [Nat.add_one_mul] at long
        omega
      rw [next_page cuts positive first full, ih (k + 1)
        (by rw [Nat.add_one_mul]; exact first inside)
        (fun j lower upper => room j (by omega) (by omega)) (fun j below => before j (by omega))
        (by rwa [Nat.add_assoc, Nat.add_comm 1]), Option.map_some, Option.some.injEq]
      conv_lhs => rw [← (page_of_full positive full).1]
      rw [← List.filter_append, Nat.add_one_mul k, ← List.drop_drop,
        Nat.add_one_mul (d + 1), Nat.add_comm _ size, List.take_add]

/-- A page past the limit is never served, so what leads to it comes to nothing. -/
theorem iterate_refused (positive : 0 < size) {j : Nat} (inside : j * size < items.length)
    (beyond : limit ≤ j * size + size) (before : ∀ k < j, Full items live size k) (fuel k : Nat)
    (reaches : k ≤ j) : iterate fetch size fuel (k * size) = none := by
  induction fuel generalizing k with
  | zero => rfl
  | succ fuel ih =>
      rcases Nat.eq_or_lt_of_le reaches with rfl | earlier
      · rw [iterate, cuts.refused _ inside beyond]
      · by_cases room : k * size + size < limit
        · rw [next_page cuts positive (fun _ => room) (before k earlier), ih (k + 1) earlier]
          rfl
        · have here : k * size < items.length :=
            Nat.lt_of_le_of_lt (Nat.mul_le_mul_right size reaches) inside
          rw [iterate, cuts.refused _ here (Nat.le_of_not_lt room)]

omit cuts in
theorem iterate_more {fuel start : Nat} {yielded : List Item}
    (ends : iterate fetch size fuel start = some yielded) (more : Nat) :
    iterate fetch size (fuel + more) start = some yielded := by
  induction fuel generalizing start yielded with
  | zero => cases ends
  | succ fuel ih =>
      rw [Nat.add_right_comm, iterate]
      rw [iterate] at ends
      cases served : fetch start with
      | none => simp [served] at ends
      | some page =>
          simp only [served] at ends ⊢
          split at ends
          · rename_i short
            rwa [if_pos short]
          · rename_i long
            obtain ⟨rest, later, rfl⟩ := Option.map_eq_some_iff.mp ends
            rw [if_neg long, ih later]
            rfl

/-- What the client gets, and when it gets anything. -/
theorem iterate_iff (positive : 0 < size) (start : 0 < limit) {stop : Nat}
    (before : ∀ j < stop, Full items live size j) (stops : ¬ Full items live size stop)
    (yielded : List Item) :
    (∃ fuel, iterate fetch size fuel 0 = some yielded) ↔
      (∀ j ≤ stop, j * size < items.length → j * size + size < limit) ∧
        yielded = (items.take ((stop + 1) * size)).filter live := by
  constructor
  · rintro ⟨fuel, ends⟩
    have room : ∀ j ≤ stop, j * size < items.length → j * size + size < limit := by
      intro j reached inside
      by_contra beyond
      have refused := iterate_refused cuts positive inside (Nat.le_of_not_lt beyond)
        (fun k below => before k (by omega)) fuel 0 (Nat.zero_le j)
      rw [Nat.zero_mul, ends] at refused
      cases refused
    have whole := iterate_from cuts positive stop 0 (by rwa [Nat.zero_mul])
      (fun j _ upper => room j (by omega)) (fun j below => before j (by omega))
      (by rwa [Nat.zero_add])
    rw [Nat.zero_mul, List.drop_zero] at whole
    have one := iterate_more ends (stop + 1)
    rw [Nat.add_comm, iterate_more whole fuel] at one
    exact ⟨room, (Option.some.inj one).symm⟩
  · rintro ⟨room, rfl⟩
    have whole := iterate_from cuts positive stop 0 (by rwa [Nat.zero_mul])
      (fun j _ upper => room j (by omega)) (fun j below => before j (by omega))
      (by rwa [Nat.zero_add])
    rw [Nat.zero_mul, List.drop_zero] at whole
    exact ⟨stop + 1, whole⟩

end Iteration

section Stopping
variable {stop : Nat} (before : ∀ j < stop, Full items live size j)
  (stops : ¬ Full items live size stop)
include before stops

theorem compact_iff (positive : 0 < size) :
    Compact items live size ↔
      ∀ q alive, items[q]? = some alive → live alive = true → q < (stop + 1) * size := by
  constructor
  · intro compact q alive found living
    by_contra beyond
    apply stops
    intro i below
    obtain ⟨inside, -⟩ := List.getElem?_eq_some_iff.mp found
    have here : i < items.length := by omega
    refine ⟨items[i], List.getElem?_eq_getElem here, ?_⟩
    by_contra dead
    have order := compact i q items[i] alive (List.getElem?_eq_getElem here) (by simpa using dead)
      found living
    have page : i / size < stop + 1 := (Nat.div_lt_iff_lt_mul positive).mpr below
    exact beyond ((Nat.div_lt_iff_lt_mul positive).mp (by omega))
  · intro early p q dead alive there lifeless found living
    have page : q / size < stop + 1 :=
      (Nat.div_lt_iff_lt_mul positive).mpr (early q alive found living)
    by_contra order
    have earlier : p / size < stop := by omega
    have below : p < (p / size + 1) * size := by
      rw [Nat.add_one_mul]
      exact Nat.lt_div_mul_add positive
    obtain ⟨item, same, alive⟩ := before (p / size) earlier p below
    rw [there, Option.some.injEq] at same
    rw [← same, lifeless] at alive
    cases alive

theorem roomy_iff :
    Roomy items live size limit ↔
      ∀ k ≤ stop, k * size < items.length → k * size + size < limit := by
  constructor
  · intro roomy k reached inside
    refine roomy k inside fun item member => ?_
    obtain ⟨i, place, found⟩ := List.getElem_of_mem member
    have below : i < k * size := by
      rw [List.length_take] at place
      omega
    obtain ⟨page, rfl⟩ : ∃ page, k = page + 1 :=
      ⟨k - 1, by rcases k with _ | k <;> simp at below ⊢⟩
    obtain ⟨other, there, alive⟩ := before page (by omega) i below
    rw [List.getElem_take] at found
    rw [List.getElem?_eq_getElem (by omega), found, Option.some.injEq] at there
    rwa [there]
  · intro room k inside living
    refine room k (Nat.le_of_not_lt fun later => stops fun i below => ?_) inside
    have early : i < k * size :=
      Nat.lt_of_lt_of_le below (Nat.mul_le_mul_right size later)
    have here : i < items.length := by omega
    refine ⟨items[i], List.getElem?_eq_getElem here, living _ ?_⟩
    have place : i < (items.take (k * size)).length := by
      rw [List.length_take]
      omega
    have same : (items.take (k * size))[i] = items[i] := List.getElem_take ..
    exact same ▸ List.getElem_mem place

end Stopping

/-- The iteration is complete exactly when no page with a dead item is followed by live
items, and no page that is reached passes the limit. -/
theorem complete_iff (cuts : Cuts fetch items live size limit) (positive : 0 < size)
    (start : 0 < limit) (once : items.Nodup) :
    Complete fetch size items live ↔ Compact items live size ∧ Roomy items live size limit := by
  obtain ⟨stop, before, stops⟩ : ∃ stop, (∀ j < stop, Full items live size j) ∧
      ¬ Full items live size stop := exists_stop positive
  rw [compact_iff before stops positive, roomy_iff before stops]
  have members : (∀ item, item ∈ (items.take ((stop + 1) * size)).filter live ↔
      item ∈ items ∧ live item = true) ↔
        ∀ q alive, items[q]? = some alive → live alive = true → q < (stop + 1) * size := by
    constructor
    · intro same q alive found living
      obtain ⟨inside, rfl⟩ := List.getElem?_eq_some_iff.mp found
      have listed := (List.mem_filter.mp ((same _).mpr ⟨List.getElem_mem inside, living⟩)).1
      obtain ⟨p, place, there⟩ := List.getElem_of_mem listed
      rw [List.length_take] at place
      rw [List.getElem_take] at there
      have here : p = q := (List.Nodup.getElem_inj_iff once).mp there
      omega
    · intro early item
      rw [List.mem_filter]
      refine and_congr_left fun living => ⟨List.mem_of_mem_take, fun member => ?_⟩
      obtain ⟨q, inside, rfl⟩ := List.getElem_of_mem member
      have below := early q _ (List.getElem?_eq_getElem inside) living
      have place : q < (items.take ((stop + 1) * size)).length := by
        rw [List.length_take]
        omega
      have same : (items.take ((stop + 1) * size))[q] = items[q] := List.getElem_take ..
      exact same ▸ List.getElem_mem place
  constructor
  · rintro ⟨fuel, yielded, ends, -, same⟩
    obtain ⟨room, rfl⟩ := (iterate_iff cuts positive start before stops yielded).mp ⟨fuel, ends⟩
    exact ⟨members.mp same, room⟩
  · rintro ⟨early, room⟩
    obtain ⟨fuel, ends⟩ := (iterate_iff cuts positive start before stops _).mpr ⟨room, rfl⟩
    exact ⟨fuel, _, ends, (once.sublist (List.take_sublist ..)).filter _, members.mpr early⟩

/-- What a page shows that is cut out of the list and filtered then. -/
def shown (keep : Item → Bool) (items : List Item) (start size : Nat) : List Item :=
  ((items.drop start).take size).filter keep

section Withdrawal
variable {keep : Item → Bool}

/-- Two windows one entry apart show the same exactly when neither end is kept. -/
theorem shown_tail_iff (keep : Item → Bool) {first : Item} {rest : List Item} (once : (first :: rest).Nodup)
    {size : Nat} (positive : 0 < size) :
    shown keep (first :: rest) 0 size = shown keep rest 0 size ↔
      keep first = false ∧ ∀ item ∈ (first :: rest)[size]?, keep item = false := by
  obtain ⟨width, rfl⟩ := Nat.exists_eq_add_of_lt positive
  rw [Nat.zero_add] at *
  have fresh : first ∉ rest := (List.nodup_cons.mp once).1
  have last : rest.take (width + 1) = rest.take width ++ rest[width]?.toList := List.take_add_one
  simp only [shown, List.drop_zero, List.take_succ_cons, List.getElem?_cons_succ]
  rw [last, List.filter_append]
  cases kept : keep first with
  | true =>
      refine iff_of_false (fun same => ?_) (by simp)
      rw [List.filter_cons_of_pos kept] at same
      have member : first ∈ (rest.take width).filter keep ++ (rest[width]?.toList).filter keep := by
        rw [← same]
        exact List.mem_cons_self
      rcases List.mem_append.mp member with inside | inside
      · exact fresh (List.mem_of_mem_take (List.mem_filter.mp inside).1)
      · have found := Option.mem_toList.mp (List.mem_filter.mp inside).1
        exact fresh (List.mem_of_getElem? found)
  | false =>
      rw [List.filter_cons_of_neg (by simp [kept])]
      cases entry : rest[width]? with
      | none => simp
      | some item => simp

/-- A page is the same without a hidden entry exactly when it ends before the entry, or
nothing kept moves into it or out of it. -/
theorem shown_without_iff {front back : List Item} {gone : Item} (hidden : keep gone = false)
    (once : (front ++ gone :: back).Nodup) (start size : Nat) :
    shown keep (front ++ gone :: back) start size = shown keep (front ++ back) start size ↔
      (0 < size → front.length < start + size →
        (front.length < start → ∀ item ∈ (front ++ gone :: back)[start]?, keep item = false) ∧
        ∀ item ∈ (front ++ gone :: back)[start + size]?, keep item = false) := by
  rcases Nat.eq_zero_or_pos size with rfl | positive
  · simp [shown]
  rw [imp_iff_right positive]
  by_cases reaches : front.length < start + size
  · rw [imp_iff_right reaches]
    by_cases behind : front.length < start
    · -- the whole page is behind the entry, and moves by one
      rw [imp_iff_right behind]
      obtain ⟨skipped, rfl⟩ := Nat.exists_eq_add_of_lt behind
      have cut : (front ++ gone :: back).drop (front.length + skipped + 1) = back.drop skipped := by
        rw [Nat.add_assoc, List.drop_length_add_append, List.drop_succ_cons]
      have moved : (front ++ back).drop (front.length + skipped + 1) = (back.drop skipped).tail := by
        rw [Nat.add_assoc, List.drop_length_add_append, List.tail_drop]
      have entries : ∀ index, (front ++ gone :: back)[front.length + skipped + 1 + index]? =
          (back.drop skipped)[index]? := by
        intro index
        rw [← List.getElem?_drop, cut]
      have head := entries 0
      rw [Nat.add_zero] at head
      have distinct : (back.drop skipped).Nodup :=
        ((List.nodup_append.mp once).2.1.of_cons).sublist (List.drop_sublist ..)
      simp only [shown, cut, moved, entries, head]
      cases window : back.drop skipped with
      | nil => simp
      | cons first rest =>
          rw [window] at distinct
          simpa [shown] using shown_tail_iff keep distinct positive
    · -- the entry leaves the page, and the next one behind it comes in
      have within : start ≤ front.length := Nat.le_of_not_lt behind
      obtain ⟨width, length⟩ := Nat.exists_eq_add_of_lt reaches
      have split : size = (front.drop start).length + (width + 1) := by
        rw [List.length_drop]
        omega
      have entry : (front ++ gone :: back)[start + size]? = back[width]? := by
        rw [length, Nat.add_assoc, ← List.getElem?_drop, List.drop_left, List.getElem?_cons_succ]
      have hides : (gone :: back.take width).filter keep = (back.take width).filter keep :=
        List.filter_cons_of_neg (by simp [hidden])
      rw [entry, shown, shown, List.drop_append_of_le_length within,
        List.drop_append_of_le_length within, split, List.take_length_add_append,
        List.take_length_add_append, List.take_succ_cons, List.take_add_one, List.filter_append,
        List.filter_append, List.filter_append, hides]
      refine Iff.trans ?_ (and_iff_right fun late => absurd late behind).symm
      cases next : back[width]? with
      | none => simp
      | some item => simp
  · refine iff_of_true ?_ fun late => absurd late reaches
    have within : start ≤ front.length := by omega
    have whole : size ≤ (front.drop start).length := by
      rw [List.length_drop]
      omega
    rw [shown, shown, List.drop_append_of_le_length within, List.drop_append_of_le_length within,
      List.take_append_of_le_length whole, List.take_append_of_le_length whole]
end Withdrawal

end Paging
