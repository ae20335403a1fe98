import FinylDcp.Runs

/-!
# Components of a system

A component is a part of the state that changes only through calls which the steps of the system
make on it. What is known of every run of the component then holds of it inside the system, and
each call of such a run is made by a step of the run of the system.
-/
namespace FinylDcp.Components
open FinylDcp.Runs

variable {σ τ α β : Type*} (step : σ → α → σ) (call : σ → α → Option β)

/-- The calls that a run makes, in order. -/
def calls : σ → List α → List β
  | _, [] => []
  | s, a :: as => (call s a).toList ++ calls (step s a) as

theorem calls_append (s : σ) (as bs : List α) :
    calls step call s (as ++ bs) = calls step call s as ++ calls step call (run step s as) bs := by
  induction as generalizing s with
  | nil => rfl
  | cons a as ih => simp [calls, ih]

/-- The part changes by the calls only. -/
def Drives (view : σ → τ) (cstep : τ → β → τ) : Prop :=
  ∀ s a, view (step s a) = match call s a with
    | none => view s
    | some b => cstep (view s) b

variable {step call}

/-- The part after a run is what its calls leave. -/
theorem Drives.run {view : σ → τ} {cstep : τ → β → τ} (h : Drives step call view cstep) (s : σ)
    (as : List α) : view (run step s as) = Runs.run cstep (view s) (calls step call s as) := by
  induction as generalizing s with
  | nil => rfl
  | cons a as ih =>
    rw [run_cons, ih, h, calls, run_append]
    cases call s a with
    | none => rfl
    | some b => rfl

/-- Each call is made by a step, before which the calls before it were made. -/
theorem of_calls_eq {s : σ} {as : List α} {bs cs : List β} {b : β}
    (h : calls step call s as = bs ++ b :: cs) :
    ∃ early a later, as = early ++ a :: later ∧ calls step call s early = bs ∧
      call (Runs.run step s early) a = some b ∧
      calls step call (step (Runs.run step s early) a) later = cs := by
  induction as generalizing s bs with
  | nil => simp [calls] at h
  | cons a as ih =>
    rw [calls] at h
    cases hcall : call s a with
    | none =>
      obtain ⟨early, a', later, rfl, hbs, hb, hcs⟩ := ih (by simpa [hcall] using h)
      exact ⟨a :: early, a', later, rfl, by simp [calls, hcall, hbs], hb, hcs⟩
    | some b' =>
      rw [hcall, Option.toList_some, List.singleton_append] at h
      cases bs with
      | nil =>
        obtain ⟨rfl, hcs⟩ := List.cons.inj h
        exact ⟨[], a, as, rfl, rfl, hcall, hcs⟩
      | cons b'' bs =>
        obtain ⟨rfl, hrest⟩ := List.cons.inj h
        obtain ⟨early, a', later, rfl, hbs, hb, hcs⟩ := ih hrest
        exact ⟨a :: early, a', later, rfl, by simp [calls, hcall, hbs], hb, hcs⟩

end FinylDcp.Components
