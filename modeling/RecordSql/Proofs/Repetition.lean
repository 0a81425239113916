import Mathlib.Data.List.Count
import Mathlib.Data.List.Induction
import Mathlib.Data.List.Sort

namespace RecordSql

section

variable {α β : Type} [DecidableEq α] [DecidableEq β]

theorem eraseDups_concat (items : List α) (item : α) :
    (items ++ [item]).eraseDups = items.eraseDups ++ if item ∈ items then [] else [item] := by
  rw [List.eraseDups_append]
  by_cases member : item ∈ items <;> simp [List.removeAll, member, List.eraseDups_cons]

theorem nodup_eraseDups (items : List α) : items.eraseDups.Nodup := by
  induction items using List.reverseRecOn with
  | nil => simp
  | append_singleton items item ih =>
    rw [eraseDups_concat]
    split
    · rwa [List.append_nil]
    · rename_i fresh
      rw [← List.mem_eraseDups] at fresh
      exact List.concat_eq_append ▸ ih.concat fresh

theorem eraseDups_of_nodup {items : List α} (distinct : items.Nodup) : items.eraseDups = items := by
  induction items using List.reverseRecOn with
  | nil => rfl
  | append_singleton items item ih =>
    obtain ⟨earlier, _, apart⟩ := List.nodup_append.mp distinct
    rw [eraseDups_concat, ih earlier, if_neg]
    exact fun member => apart item member item List.mem_cons_self rfl

/-- Repetitions can be dropped before or after a function that tells its arguments apart. -/
theorem eraseDups_filterMap {f : α → Option β}
    (injective : ∀ one other value, f one = some value → f other = some value → one = other)
    (items : List α) : (items.filterMap f).eraseDups = items.eraseDups.filterMap f := by
  induction items using List.reverseRecOn with
  | nil => rfl
  | append_singleton items item ih =>
    rw [eraseDups_concat, List.filterMap_append, List.filterMap_append, ← ih]
    cases found : f item with
    | none => split <;> simp [found]
    | some value =>
      have repeated : value ∈ items.filterMap f ↔ item ∈ items := by
        rw [List.mem_filterMap]
        constructor
        · rintro ⟨other, member, led⟩
          exact injective other item value led found ▸ member
        · exact fun member => ⟨item, member, found⟩
      rw [List.filterMap_cons_some found, List.filterMap_nil, eraseDups_concat]
      simp only [repeated]
      split <;> simp [found]

end

section

variable {α : Type} [DecidableEq α] {a b : α} {as : List α}

theorem eraseReps_loop (kept : List α) :
    List.eraseRepsBy.loop (· == ·) a as kept = kept.reverse ++ (a :: as).eraseReps := by
  change _ = kept.reverse ++ List.eraseRepsBy.loop (· == ·) a as []
  induction as generalizing a kept with
  | nil => simp [List.eraseRepsBy.loop]
  | cons b as ih =>
    rw [List.eraseRepsBy.loop, List.eraseRepsBy.loop]
    cases a == b with
    | true => exact ih kept
    | false => rw [ih (a :: kept), ih [a], List.reverse_cons, List.append_assoc, List.reverse_singleton]

theorem eraseReps_cons_self : (a :: a :: as).eraseReps = (a :: as).eraseReps := by
  change List.eraseRepsBy.loop (· == ·) a (a :: as) [] = _
  rw [List.eraseRepsBy.loop, beq_self_eq_true]
  rfl

theorem eraseReps_cons_of_ne (ne : a ≠ b) : (a :: b :: as).eraseReps = a :: (b :: as).eraseReps := by
  change List.eraseRepsBy.loop (· == ·) a (b :: as) [] = _
  rw [List.eraseRepsBy.loop, beq_false_of_ne ne]
  exact eraseReps_loop [a]

theorem mem_eraseReps {x : α} : x ∈ as.eraseReps ↔ x ∈ as := by
  induction as with
  | nil => rfl
  | cons a as ih =>
    cases as with
    | nil => rfl
    | cons b as =>
      by_cases same : a = b
      · subst same
        rw [eraseReps_cons_self, ih]
        simp
      · rw [eraseReps_cons_of_ne same, List.mem_cons, List.mem_cons, ih]

theorem sortedLT_eraseReps {α : Type} [LinearOrder α] {as : List α} (sorted : as.SortedLE) :
    as.eraseReps.SortedLT := by
  rw [List.sortedLT_iff_pairwise]
  replace sorted := sorted.pairwise
  induction as with
  | nil => exact List.Pairwise.nil
  | cons a as ih =>
    cases as with
    | nil => exact List.pairwise_singleton _ a
    | cons b as =>
      obtain ⟨least, rest⟩ := List.pairwise_cons.mp sorted
      by_cases same : a = b
      · subst same
        rw [eraseReps_cons_self]
        exact ih rest
      · rw [eraseReps_cons_of_ne same, List.pairwise_cons]
        refine ⟨fun x member => ?_, ih rest⟩
        have smaller : a < b := lt_of_le_of_ne (least b List.mem_cons_self) same
        rcases List.mem_cons.mp (mem_eraseReps.mp member) with rfl | later
        · exact smaller
        · exact smaller.trans_le ((List.pairwise_cons.mp rest).1 x later)

end

end RecordSql
