import Mathlib.Algebra.Order.Ring.Defs
import Mathlib.Data.List.TakeWhile
import Mathlib.Data.List.Pairwise
import Mathlib.Tactic.Linarith
import FinylDcp.Traces

/-!
# Sliding windows

A queue of the times that were let through, pruned from the front before each decision. The
decision looks at nothing but the length of the queue.
-/
namespace FinylDcp.SlidingWindow
open FinylDcp.Runs FinylDcp.Traces

variable {T : Type*}

section Outcome

/-- The times that were let through. -/
def admitted (os : List (T × Bool)) : List T := (os.filter Prod.snd).map Prod.fst

@[simp] theorem admitted_nil : admitted ([] : List (T × Bool)) = [] := rfl

theorem admitted_concat (os : List (T × Bool)) (t : T) (ok : Bool) :
    admitted (os ++ [(t, ok)]) = admitted os ++ (if ok then [t] else []) := by
  cases ok <;> simp [admitted]

end Outcome

section Prune

variable [LinearOrder T]

/-- The queue without the times before the cutoff at its front. -/
def prune (cutoff : T) (hits : List T) : List T := hits.dropWhile (· < cutoff)

theorem prune_of_ordered {hits : List T} (h : hits.Pairwise (· ≤ ·)) (cutoff : T) :
    prune cutoff hits = hits.filter (cutoff ≤ ·) := by
  induction hits with
  | nil => rfl
  | cons a hits ih =>
    rw [List.pairwise_cons] at h
    by_cases ha : a < cutoff
    · have hne : ¬ cutoff ≤ a := not_le.mpr ha
      rw [List.filter_cons_of_neg (by simpa using hne), ← ih h.2]
      simp [prune, ha]
    · have hle : cutoff ≤ a := not_lt.mp ha
      have hall : ∀ b ∈ a :: hits, decide (cutoff ≤ b) = true := by
        intro b hb
        obtain rfl | hb := List.mem_cons.mp hb
        · exact decide_eq_true hle
        · exact decide_eq_true (hle.trans (h.1 b hb))
      rw [List.filter_eq_self.mpr hall]
      simp [prune, ha]

end Prune

section Limiter

variable [CommRing T] [LinearOrder T]

/-- One request: the queue is pruned, and the time joins it if there is room. -/
def request (window : T) (limit : ℕ) (hits : List T) (now : T) : Bool × List T :=
  let kept := prune (now - window) hits
  if limit ≤ kept.length then (false, kept) else (true, kept ++ [now])

/-- What a limiter of `limit` requests in a window owes to the outcomes of one key. -/
structure Sliding (window : T) (limit : ℕ) (os : List (T × Bool)) : Prop where
  upTo : ∀ t, (admitted os).countP (fun a => t ≤ a ∧ a < t + window) ≤ limit
  past : ∀ t, (admitted os).countP (fun a => t < a ∧ a ≤ t + window) ≤ limit
  refused : ∀ pre now post, os = pre ++ (now, false) :: post →
    (admitted pre).countP (fun a => now - window ≤ a ∧ a ≤ now) = limit

variable (window : T) (limit : ℕ)

theorem admitted_sublist (ts : List T) :
    (admitted (trace (request window limit) [] ts)).Sublist ts := by
  induction ts using List.reverseRecOn with
  | nil => exact List.Sublist.refl _
  | append_singleton ts t ih =>
    rw [trace_concat, admitted_concat]
    refine ih.append ?_
    split
    · exact List.Sublist.refl _
    · exact List.nil_sublist _

variable [IsStrictOrderedRing T] {window}

/-- What the queue holds of the last window is what was let through in it. -/
theorem prune_run (hw : 0 ≤ window) {ts : List T} (hts : ts.Pairwise (· ≤ ·)) {now : T}
    (hnow : ∀ t ∈ ts, t ≤ now) :
    prune (now - window) (run (after (request window limit)) [] ts) =
      (admitted (trace (request window limit) [] ts)).filter (now - window ≤ ·) := by
  induction ts using List.reverseRecOn generalizing now with
  | nil => rfl
  | append_singleton ts t ih =>
    have hold := (List.pairwise_append.mp hts).1
    have ht : ∀ u ∈ ts, u ≤ t := fun u hu =>
      (List.pairwise_append.mp hts).2.2 u hu t (List.mem_singleton_self t)
    have htnow : t ≤ now := hnow t (by simp)
    have hqueue : run (after (request window limit)) [] (ts ++ [t]) =
        (admitted (trace (request window limit) [] (ts ++ [t]))).filter (t - window ≤ ·) := by
      rw [run_concat, trace_concat, admitted_concat, List.filter_append, ← ih hold ht]
      simp only [after, request]
      split
      · simp
      · have hin : t - window ≤ t := by linarith
        simp only [if_true, List.filter_singleton, decide_eq_true hin, cond_true]
    have hordered := hts.sublist (admitted_sublist window limit (ts ++ [t]))
    rw [hqueue, prune_of_ordered (hordered.filter _), List.filter_filter]
    refine List.filter_congr fun a _ => ?_
    rw [← Bool.decide_and]
    exact decide_eq_decide.mpr ⟨fun h => h.1, fun h => ⟨h, by linarith⟩⟩

/-- Of times that lie within a window of each other, no more than the limit are let through. -/
theorem countP_admitted_le (hw : 0 ≤ window) {ts : List T} (hts : ts.Pairwise (· ≤ ·))
    {p : T → Bool} (hp : ∀ a b, p a → p b → b - window ≤ a) :
    (admitted (trace (request window limit) [] ts)).countP p ≤ limit := by
  induction ts using List.reverseRecOn with
  | nil => exact Nat.zero_le _
  | append_singleton ts t ih =>
    have hold := (List.pairwise_append.mp hts).1
    have ht : ∀ u ∈ ts, u ≤ t := fun u hu =>
      (List.pairwise_append.mp hts).2.2 u hu t (List.mem_singleton_self t)
    have hkept := prune_run limit hw hold ht
    rw [trace_concat, admitted_concat, List.countP_append]
    by_cases hfull : limit ≤ (prune (t - window) (run (after (request window limit)) [] ts)).length
    · simpa [request, hfull] using ih hold
    · by_cases hpt : p t
      · have hle : (admitted (trace (request window limit) [] ts)).countP p ≤
            (admitted (trace (request window limit) [] ts)).countP (t - window ≤ ·) := by
          refine List.countP_mono_left fun a _ ha => ?_
          exact decide_eq_true (hp a t ha hpt)
        rw [hkept, ← List.countP_eq_length_filter] at hfull
        simp only [request, hkept, ← List.countP_eq_length_filter, if_neg hfull, if_true,
          List.countP_singleton, hpt]
        omega
      · simpa [request, hfull, hpt] using ih hold

/-- A run of requests in order of time slides. -/
theorem trace_sliding (hw : 0 ≤ window) {ts : List T} (hts : ts.Pairwise (· ≤ ·)) :
    Sliding window limit (trace (request window limit) [] ts) where
  upTo t := by
    refine countP_admitted_le limit hw hts fun a b ha hb => ?_
    simp only [decide_eq_true_eq] at ha hb
    linarith
  past t := by
    refine countP_admitted_le limit hw hts fun a b ha hb => ?_
    simp only [decide_eq_true_eq] at ha hb
    linarith
  refused pre now post h := by
    obtain ⟨ts₁, ts₂, rfl, rfl, hrefused⟩ := trace_eq_append _ h
    have hold := (List.pairwise_append.mp hts).1
    have hnow : ∀ t ∈ ts₁, t ≤ now := fun t ht =>
      (List.pairwise_append.mp hts).2.2 t ht now (by simp)
    have hkept := prune_run limit hw hold hnow
    have hcount : (admitted (trace (request window limit) [] ts₁)).countP
        (fun a => now - window ≤ a ∧ a ≤ now) =
        (admitted (trace (request window limit) [] ts₁)).countP (now - window ≤ ·) := by
      refine List.countP_congr fun a ha => ?_
      have hle := hnow a ((admitted_sublist window limit ts₁).subset ha)
      simp [hle]
    have hfull : limit ≤ (admitted (trace (request window limit) [] ts₁)).countP
        (now - window ≤ ·) := by
      rw [List.countP_eq_length_filter, ← hkept]
      by_contra hroom
      simp [request, hroom] at hrefused
    have hle : (admitted (trace (request window limit) [] ts₁)).countP
        (fun a => now - window ≤ a ∧ a ≤ now) ≤ limit := by
      refine countP_admitted_le limit hw hold fun a b ha hb => ?_
      simp only [decide_eq_true_eq] at ha hb
      linarith
    omega

end Limiter

end FinylDcp.SlidingWindow
