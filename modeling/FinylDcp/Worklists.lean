import Mathlib.Data.List.Infix
import Mathlib.Data.List.Nodup

/-!
# Resumable worklists

A worklist is worked off task by task over a state. What was done is recorded with the state, a
task that was done is passed over, and the work stops at the first task that fails, which leaves
the state as it was. However often the work is interrupted and taken up again, it comes to what
it comes to in one go.
-/
namespace FinylDcp.Worklists

variable {τ κ σ : Type*}

/-- The state, and the keys of the tasks that were done. -/
structure WorkLedger (σ κ : Type*) where
  state : σ
  done : List κ
  deriving DecidableEq

variable [DecidableEq κ] (key : τ → κ) (perform : τ → σ → Option σ)

/-- One task, unless it was done before. -/
def advance (l : WorkLedger σ κ) (t : τ) : Option (WorkLedger σ κ) :=
  if key t ∈ l.done then some l
  else (perform t l.state).map (fun s => ⟨s, l.done ++ [key t]⟩)

/-- The tasks in order, up to the first that fails. -/
def work : WorkLedger σ κ → List τ → WorkLedger σ κ
  | l, [] => l
  | l, t :: ts =>
    match advance key perform l t with
    | none => l
    | some l' => work l' ts

variable {key perform} {l l' : WorkLedger σ κ} {t : τ} {ts us : List τ}

theorem work_cons_none (h : advance key perform l t = none) : work key perform l (t :: ts) = l := by
  simp only [work, h]

theorem work_cons_some (h : advance key perform l t = some l') :
    work key perform l (t :: ts) = work key perform l' ts := by
  simp only [work, h]

theorem advance_of_done (h : key t ∈ l.done) : advance key perform l t = some l := if_pos h

theorem advance_done (h : advance key perform l t = some l') :
    key t ∈ l'.done ∧ l.done ⊆ l'.done := by
  unfold advance at h
  split at h
  next hdone =>
    obtain rfl := Option.some.inj h
    exact ⟨hdone, List.Subset.refl _⟩
  next =>
    obtain ⟨s, -, rfl⟩ := Option.map_eq_some_iff.mp h
    exact ⟨List.mem_append_right _ (List.mem_singleton_self _), List.subset_append_left _ _⟩

/-- What was done stays done. -/
theorem done_subset_work : l.done ⊆ (work key perform l ts).done := by
  induction ts generalizing l with
  | nil => exact List.Subset.refl _
  | cons t ts ih =>
    unfold work
    split
    next => exact List.Subset.refl _
    next l' hl' => exact List.Subset.trans (advance_done hl').2 ih

/-- Work that was interrupted and is then taken up again from the front ends as it would have
ended in one go. -/
theorem work_work_of_prefix (h : us <+: ts) :
    work key perform (work key perform l us) ts = work key perform l ts := by
  induction us generalizing l ts with
  | nil => rfl
  | cons t us ih =>
    obtain ⟨vs, rfl⟩ := h
    rw [List.cons_append]
    cases hfirst : advance key perform l t with
    | none => rw [work_cons_none hfirst]
    | some l' =>
      have hdone : key t ∈ (work key perform l' us).done :=
        done_subset_work (advance_done hfirst).1
      rw [work_cons_some hfirst, work_cons_some (advance_of_done hdone), work_cons_some hfirst]
      exact ih (List.prefix_append us vs)

/-- Where tasks may fail that could have been performed, the work stops earlier. -/
theorem work_eq_shorter {perform' : τ → σ → Option σ}
    (h : ∀ t s, perform' t s = none ∨ perform' t s = perform t s) (l : WorkLedger σ κ)
    (ts : List τ) :
    ∃ us, us <+: ts ∧ work key perform' l ts = work key perform l us := by
  induction ts generalizing l with
  | nil => exact ⟨[], List.prefix_refl [], rfl⟩
  | cons t ts ih =>
    have hadvance : advance key perform' l t = none ∨
        advance key perform' l t = advance key perform l t := by
      unfold advance
      split
      next => exact .inr rfl
      next => exact (h t l.state).imp (fun hnone => by rw [hnone]; rfl) (fun heq => by rw [heq])
    obtain hnone | heq := hadvance
    · exact ⟨[], List.nil_prefix, work_cons_none hnone⟩
    · cases hfirst : advance key perform l t with
      | none => exact ⟨[], List.nil_prefix, work_cons_none (heq.trans hfirst)⟩
      | some l' =>
        obtain ⟨us, hus, hwork⟩ := ih l'
        refine ⟨t :: us, List.cons_prefix_cons.mpr ⟨rfl, hus⟩, ?_⟩
        rw [work_cons_some (heq.trans hfirst), work_cons_some hfirst]
        exact hwork

end FinylDcp.Worklists
