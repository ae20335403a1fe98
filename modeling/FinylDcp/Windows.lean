import Mathlib.Algebra.Order.Ring.Defs
import Mathlib.Algebra.Order.BigOperators.Group.List
import Mathlib.Data.List.GetD
import Mathlib.Data.List.MinMax
import Mathlib.Data.List.Pairwise
import Mathlib.Tactic.Linarith

/-!
# Windows over sorted times

Some window of a length holds more than `k` of the times exactly when, in order, one of them
comes within the length after the one `k` places before; and a window with the largest total
starts at one of the times.
-/
namespace FinylDcp.Windows

section Runs

variable {T : Type*} [CommRing T] [LinearOrder T]

/-- One of the times comes within `span` after the one `k` places before. -/
def closeRun (k : ℕ) (span : T) (times : List T) : Bool :=
  (List.range (times.length - k)).any
    (fun i => times.getD (i + k) 0 - times.getD i 0 ≤ span)

theorem closeRun_iff_exists {k : ℕ} {span : T} {times : List T} :
    closeRun k span times = true ↔
      ∃ i, i + k < times.length ∧ times.getD (i + k) 0 - times.getD i 0 ≤ span := by
  simp only [closeRun, List.any_eq_true, List.mem_range, decide_eq_true_eq]
  exact exists_congr fun i => and_congr_left fun _ => by omega

variable [IsStrictOrderedRing T] {k : ℕ} {span : T} {times : List T}

/-- The times of a close run lie in a window. -/
theorem lt_countP_of_run (hsorted : times.Pairwise (· ≤ ·)) {i : ℕ} (hi : i + k < times.length)
    (hclose : times.getD (i + k) 0 - times.getD i 0 ≤ span) :
    k < times.countP (fun x => times.getD i 0 ≤ x ∧ x ≤ times.getD i 0 + span) := by
  have hlen : ((times.drop i).take (k + 1)).length = k + 1 := by
    rw [List.length_take, List.length_drop]
    omega
  have hsub : ((times.drop i).take (k + 1)).Sublist times :=
    (List.take_sublist _ _).trans (List.drop_sublist _ _)
  refine Nat.lt_of_lt_of_le ?_ (hsub.countP_le)
  rw [List.countP_eq_length.mpr, hlen]
  · exact Nat.lt_succ_self k
  · intro x hx
    obtain ⟨j, hj, rfl⟩ := List.mem_iff_getElem.mp hx
    rw [hlen] at hj
    have hle : ∀ a b (hb : b < times.length) (hab : a ≤ b), times[a] ≤ times[b] := by
      intro a b hb hab
      obtain rfl | hlt := Nat.eq_or_lt_of_le hab
      · exact le_refl _
      · exact List.pairwise_iff_getElem.mp hsorted a b _ hb hlt
    rw [List.getD_eq_getElem _ _ hi, List.getD_eq_getElem _ _ (by omega)] at hclose
    rw [List.getD_eq_getElem _ _ (by omega)]
    simp only [List.getElem_take, List.getElem_drop, decide_eq_true_eq]
    have hlast := hle (i + j) (i + k) hi (by omega)
    exact ⟨hle i (i + j) (by omega) (by omega), by linarith⟩

/-- A window with more than `k` times has a close run. -/
theorem exists_run_of_lt_countP (hsorted : times.Pairwise (· ≤ ·)) {t : T}
    (hcount : k < times.countP (fun x => t ≤ x ∧ x ≤ t + span)) :
    ∃ i, i + k < times.length ∧ times.getD (i + k) 0 - times.getD i 0 ≤ span := by
  induction times with
  | nil => simp at hcount
  | cons a times ih =>
    by_cases ha : t ≤ a ∧ a ≤ t + span
    · have hlen : k < (a :: times).length := hcount.trans_le List.countP_le_length
      refine ⟨0, by simpa using hlen, ?_⟩
      rw [Nat.zero_add, List.getD_eq_getElem _ _ hlen, List.getD_cons_zero]
      by_contra hfar
      have hlate : ∀ x ∈ (a :: times).drop k, t + span < x := by
        intro x hx
        have hmin : (a :: times)[k] ≤ x := by
          rw [List.drop_eq_getElem_cons hlen] at hx
          obtain rfl | hx := List.mem_cons.mp hx
          · exact le_refl _
          · have hdrop := hsorted.drop (i := k)
            rw [List.drop_eq_getElem_cons hlen, List.pairwise_cons] at hdrop
            exact hdrop.1 x hx
        linarith [ha.1]
      have hzero : ((a :: times).drop k).countP (fun x => t ≤ x ∧ x ≤ t + span) = 0 := by
        refine List.countP_eq_zero.mpr fun x hx => ?_
        simpa using fun _ => hlate x hx
      have hsplit := List.take_append_drop k (a :: times)
      rw [← hsplit, List.countP_append, hzero, Nat.add_zero] at hcount
      have hle := hcount.trans_le List.countP_le_length
      rw [List.length_take] at hle
      omega
    · rw [List.countP_cons_of_neg (by simpa using ha)] at hcount
      obtain ⟨i, hi, hclose⟩ := ih (List.pairwise_cons.mp hsorted).2 hcount
      refine ⟨i + 1, by simpa [Nat.add_right_comm] using hi, ?_⟩
      simpa [Nat.add_right_comm] using hclose

/-- More than `k` of the sorted times fall within some window exactly when they have a close
run. -/
theorem closeRun_iff (hsorted : times.Pairwise (· ≤ ·)) :
    closeRun k span times = true ↔
      ∃ t, k < times.countP (fun x => t ≤ x ∧ x ≤ t + span) := by
  rw [closeRun_iff_exists]
  constructor
  · rintro ⟨i, hi, hclose⟩
    exact ⟨_, lt_countP_of_run hsorted hi hclose⟩
  · rintro ⟨t, hcount⟩
    exact exists_run_of_lt_countP hsorted hcount

end Runs

section Totals

variable {α T : Type*} [CommRing T] [LinearOrder T] [IsStrictOrderedRing T]
  (time : α → T) (weight : α → ℕ) (span : T) (l : List α)

/-- The total of the weights in the window from `t`. -/
def windowTotal (t : T) : ℕ :=
  ((l.filter (fun x => t ≤ time x ∧ time x ≤ t + span)).map weight).sum

omit [CommRing T] [LinearOrder T] [IsStrictOrderedRing T] in
theorem sum_filter_le {p q : α → Bool} (h : ∀ x ∈ l, p x = true → q x = true) :
    ((l.filter p).map weight).sum ≤ ((l.filter q).map weight).sum := by
  induction l with
  | nil => exact le_refl _
  | cons a l ih =>
    have hrest := ih fun x hx => h x (List.mem_cons_of_mem _ hx)
    by_cases hp : p a = true
    · have hq := h a List.mem_cons_self hp
      rw [List.filter_cons_of_pos hp, List.filter_cons_of_pos hq]
      simpa using hrest
    · rw [List.filter_cons_of_neg hp]
      refine hrest.trans ?_
      by_cases hq : q a = true
      · rw [List.filter_cons_of_pos hq, List.map_cons, List.sum_cons]
        exact Nat.le_add_left _ _
      · rw [List.filter_cons_of_neg hq]

/-- A window with a total above a bound can be started at one of the times. -/
theorem exists_windowTotal_iff {bound : ℕ} :
    (∃ x ∈ l, bound < windowTotal time weight span l (time x)) ↔
      ∃ t, bound < windowTotal time weight span l t := by
  constructor
  · rintro ⟨x, -, hx⟩
    exact ⟨time x, hx⟩
  · rintro ⟨t, ht⟩
    have hne : l.filter (fun x => t ≤ time x ∧ time x ≤ t + span) ≠ [] := by
      intro hnil
      rw [windowTotal, hnil] at ht
      simp at ht
    have hsome : (l.filter (fun x => t ≤ time x ∧ time x ≤ t + span)).argmin time ≠ none :=
      mt List.argmin_eq_none.mp hne
    obtain ⟨x, hx⟩ := Option.ne_none_iff_exists'.mp hsome
    obtain ⟨hmem, hin⟩ := List.mem_filter.mp (List.argmin_mem hx)
    rw [decide_eq_true_eq] at hin
    refine ⟨x, hmem, ht.trans_le ?_⟩
    have hwithin : (l.filter (fun y => t ≤ time y ∧ time y ≤ t + span)) =
        (l.filter (fun y => t ≤ time y ∧ time y ≤ t + span)).filter
          (fun y => time x ≤ time y ∧ time y ≤ time x + span) := by
      refine (List.filter_eq_self.mpr fun y hy => ?_).symm
      have hmin := List.le_of_mem_argmin hy hx
      have hle := (of_decide_eq_true (List.mem_filter.mp hy).2).2
      exact decide_eq_true ⟨hmin, by linarith [hin.1]⟩
    rw [windowTotal, hwithin, List.filter_filter]
    exact sum_filter_le _ _ fun y _ hy => (Bool.and_eq_true_iff.mp hy).1

end Totals

end FinylDcp.Windows
