import FinylDcp.Runs

/-!
# Traces of answers

A step function that answers each request leaves a trace: the requests in order, each with its
answer.
-/
namespace FinylDcp.Traces
open FinylDcp.Runs

variable {σ ρ β : Type*} (step : σ → ρ → β × σ)

/-- The state that one request leaves. -/
def after (s : σ) (r : ρ) : σ := (step s r).2

/-- The requests taken in turn, each with its answer. -/
def trace : σ → List ρ → List (ρ × β)
  | _, [] => []
  | s, r :: rs => (r, (step s r).1) :: trace (after step s r) rs

theorem trace_append (s : σ) (rs rs' : List ρ) :
    trace step s (rs ++ rs') =
      trace step s rs ++ trace step (run (after step) s rs) rs' := by
  induction rs generalizing s with
  | nil => rfl
  | cons r rs ih => simp only [List.cons_append, trace, run_cons, ih]

/-- An answer in a trace is that of the state which the earlier requests left. -/
theorem trace_eq_append {s : σ} {rs : List ρ} {pre post : List (ρ × β)} {o : ρ × β}
    (h : trace step s rs = pre ++ o :: post) :
    ∃ rs₁ rs₂, rs = rs₁ ++ o.1 :: rs₂ ∧ pre = trace step s rs₁ ∧
      o.2 = (step (run (after step) s rs₁) o.1).1 := by
  induction pre generalizing s rs with
  | nil =>
    cases rs with
    | nil => simp [trace] at h
    | cons r rs =>
      rw [trace, List.nil_append, List.cons.injEq] at h
      obtain ⟨rfl, -⟩ := h
      exact ⟨[], rs, rfl, rfl, rfl⟩
  | cons p pre ih =>
    cases rs with
    | nil => simp [trace] at h
    | cons r rs =>
      rw [trace, List.cons_append, List.cons.injEq] at h
      obtain ⟨rs₁, rs₂, hrs, hpre, ho⟩ := ih h.2
      refine ⟨r :: rs₁, rs₂, by rw [hrs, List.cons_append], ?_, ho⟩
      rw [trace, ← h.1, hpre]

/-- The answers to one key. -/
def traceOf {K T : Type*} [DecidableEq K] (key : ρ → K) (time : ρ → T) (k : K)
    (os : List (ρ × β)) : List (T × β) :=
  (os.filter (fun o => key o.1 = k)).map (fun o => (time o.1, o.2))

/-- In a table of queues where a request touches the queue of its key alone, the answers to
a key are those to its own requests. -/
theorem traceOf_keyed {K Q T : Type*} [DecidableEq K] {key : ρ → K} {time : ρ → T} {k : K}
    {step : (K → Q) → ρ → β × (K → Q)} (single : Q → T → β × Q) {rs : List ρ}
    (hself : ∀ s, ∀ r ∈ rs, key r = k →
      (step s r).1 = (single (s k) (time r)).1 ∧ (step s r).2 k = (single (s k) (time r)).2)
    (hother : ∀ s r, key r ≠ k → (step s r).2 k = s k) (s : K → Q) :
    traceOf key time k (trace step s rs) =
      trace single (s k) ((rs.filter (key · = k)).map time) := by
  induction rs generalizing s with
  | nil => rfl
  | cons r rs ih =>
    have hrest := ih (fun s r hr => hself s r (List.mem_cons_of_mem _ hr)) (after step s r)
    by_cases hr : key r = k
    · obtain ⟨hok, hqueue⟩ := hself s r List.mem_cons_self hr
      have hafter : after step s r k = after single (s k) (time r) := hqueue
      rw [hafter] at hrest
      rw [List.filter_cons_of_pos (by simpa using hr), List.map_cons, trace, trace,
        traceOf, List.filter_cons_of_pos (by simpa using hr), List.map_cons, hok]
      exact congrArg _ hrest
    · rw [List.filter_cons_of_neg (by simpa using hr), trace, traceOf,
        List.filter_cons_of_neg (by simpa using hr), ← hother s r hr]
      exact hrest

theorem trace_concat (s : σ) (rs : List ρ) (r : ρ) :
    trace step s (rs ++ [r]) = trace step s rs ++ [(r, (step (run (after step) s rs) r).1)] :=
  trace_append step s rs [r]

theorem trace_split (s : σ) (early : List ρ) (r : ρ) (later : List ρ) :
    trace step s (early ++ r :: later) =
      trace step s early ++ (r, (step (run (after step) s early) r).1) ::
        trace step (run (after step) s (early ++ [r])) later := by
  rw [trace_append, trace, run_concat]

/-- All steps of a run meet a condition exactly when each does in the state that the steps
before it left. -/
theorem allSteps_iff_split {step : σ → ρ → σ} {ok : σ → ρ → Prop} {s : σ} {rs : List ρ} :
    AllSteps step ok s rs ↔ ∀ early r later, rs = early ++ r :: later →
      ok (run step s early) r := by
  induction rs generalizing s with
  | nil => simp [AllSteps]
  | cons r rs ih =>
    rw [AllSteps, ih]
    constructor
    · rintro ⟨hfirst, hrest⟩ early r' later hsplit
      cases early with
      | nil =>
        obtain ⟨rfl, -⟩ := List.cons.inj hsplit
        exact hfirst
      | cons e early =>
        obtain ⟨rfl, htail⟩ := List.cons.inj hsplit
        exact hrest early r' later htail
    · intro h
      exact ⟨h [] r rs rfl, fun early r' later hsplit => h (r :: early) r' later (by simp [hsplit])⟩

end FinylDcp.Traces
