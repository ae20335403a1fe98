import Mathlib.Data.List.Infix

/-!
# Runs of a deterministic step function

A run folds a step function over a list of actions. `AllSteps ok` says that
every step of the run meets `ok` in the state it starts from, which is how a
property that needs a condition on the steps is stated: an invariant kept by the
steps that meet the condition holds in every state such a run reaches.
-/
namespace FinylDcp.Runs

variable {σ α : Type*} (step : σ → α → σ)

/-- The state after the actions, in order. -/
def run (s : σ) (as : List α) : σ := as.foldl step s

@[simp] theorem run_nil (s : σ) : run step s [] = s := rfl

@[simp] theorem run_cons (s : σ) (a : α) (as : List α) :
    run step s (a :: as) = run step (step s a) as := rfl

theorem run_append (s : σ) (as bs : List α) :
    run step s (as ++ bs) = run step (run step s as) bs := by
  simp [run]

@[simp] theorem run_concat (s : σ) (as : List α) (a : α) :
    run step s (as ++ [a]) = step (run step s as) a := by
  simp [run_append]

/-- Every step of the run meets `ok` in the state where it is taken. -/
def AllSteps (ok : σ → α → Prop) : σ → List α → Prop
  | _, [] => True
  | s, a :: as => ok s a ∧ AllSteps ok (step s a) as

instance AllSteps.decidable {step : σ → α → σ} {ok : σ → α → Prop}
    [∀ s a, Decidable (ok s a)] : ∀ (s : σ) (as : List α), Decidable (AllSteps step ok s as)
  | _, [] => isTrue trivial
  | s, a :: as =>
    have : Decidable (AllSteps step ok (step s a) as) := AllSteps.decidable (step s a) as
    inferInstanceAs (Decidable (ok s a ∧ AllSteps step ok (step s a) as))

variable {step}

theorem allSteps_append {ok : σ → α → Prop} {s : σ} {as bs : List α} :
    AllSteps step ok s (as ++ bs) ↔ AllSteps step ok s as ∧
      AllSteps step ok (run step s as) bs := by
  induction as generalizing s with
  | nil => simp [AllSteps]
  | cons a as ih => simp [AllSteps, ih, and_assoc]

theorem AllSteps.of_prefix {ok : σ → α → Prop} {s : σ} {as bs : List α}
    (h : AllSteps step ok s bs) (hp : as <+: bs) : AllSteps step ok s as := by
  obtain ⟨cs, rfl⟩ := hp
  exact (allSteps_append.mp h).1

/-- The induction over a run: what each step that meets the condition keeps holds
at the end. -/
theorem invariant_run {ok : σ → α → Prop} {inv : σ → Prop}
    (hstep : ∀ s a, inv s → ok s a → inv (step s a)) {s : σ} {as : List α}
    (hs : inv s) (h : AllSteps step ok s as) : inv (run step s as) := by
  induction as generalizing s with
  | nil => exact hs
  | cons a as ih => exact ih (hstep s a hs h.1) h.2

/-- What every step keeps holds at the end of every run. -/
theorem invariant_run_of_step {inv : σ → Prop} (hstep : ∀ s a, inv s → inv (step s a)) {s : σ}
    (as : List α) (hs : inv s) : inv (run step s as) := by
  induction as generalizing s with
  | nil => exact hs
  | cons a as ih => exact ih (hstep s a hs)

/-- What holds at the end of a run held at its start, or an event of the run brought it about. -/
theorem origin_run {inv held : σ → Prop} {brought : σ → α → Prop}
    (hinv : ∀ s a, inv s → inv (step s a))
    (hstep : ∀ s a, inv s → held (step s a) → held s ∨ brought s a) {s : σ} {as : List α}
    (hs : inv s) (h : held (run step s as)) :
    held s ∨ ∃ early a later, as = early ++ a :: later ∧ brought (run step s early) a := by
  induction as generalizing s with
  | nil => exact .inl h
  | cons a as ih =>
    obtain hheld | ⟨early, b, later, rfl, hb⟩ := ih (hinv s a hs) h
    · obtain hbefore | hnow := hstep s a hs hheld
      · exact .inl hbefore
      · exact .inr ⟨[], a, as, rfl, hnow⟩
    · exact .inr ⟨a :: early, b, later, rfl, hb⟩

/-- Two conditions that say the same of a step wherever the invariant holds. -/
theorem allSteps_congr {ok ok' : σ → α → Prop} {inv : σ → Prop}
    (hkeeps : ∀ s a, inv s → inv (step s a)) (hsame : ∀ s a, inv s → (ok s a ↔ ok' s a)) {s : σ}
    {as : List α} (hs : inv s) : AllSteps step ok s as ↔ AllSteps step ok' s as := by
  induction as generalizing s with
  | nil => exact Iff.rfl
  | cons a as ih => exact and_congr (hsame s a hs) (ih (hkeeps s a hs))

/-- A relation of states that composes holds from every state of a run to every later one
exactly when each step keeps it. -/
theorem related_iff_allSteps {R : σ → σ → Prop} (hrefl : ∀ s, R s s)
    (htrans : ∀ a b c, R a b → R b c → R a c) {s : σ} {as : List α} :
    (∀ bs cs, bs <+: cs → cs <+: as → R (run step s bs) (run step s cs)) ↔
      AllSteps step (fun s a => R s (step s a)) s as := by
  induction as generalizing s with
  | nil =>
    refine iff_of_true (fun bs cs hbs hcs => ?_) trivial
    obtain rfl := List.prefix_nil.mp hcs
    obtain rfl := List.prefix_nil.mp hbs
    exact hrefl s
  | cons a as ih =>
    have hlater : (∀ bs cs, bs <+: cs → cs <+: as →
        R (run step s (a :: bs)) (run step s (a :: cs))) ↔
        AllSteps step (fun s a => R s (step s a)) (step s a) as := ih
    rw [AllSteps, ← hlater]
    constructor
    · intro h
      refine ⟨h [] [a] List.nil_prefix (by simp), fun bs cs hbs hcs => ?_⟩
      exact h _ _ (List.cons_prefix_cons.mpr ⟨rfl, hbs⟩) (List.cons_prefix_cons.mpr ⟨rfl, hcs⟩)
    · rintro ⟨hfirst, hrest⟩ bs cs hbs hcs
      cases cs with
      | nil =>
        obtain rfl := List.prefix_nil.mp hbs
        exact hrefl s
      | cons c cs =>
        obtain ⟨rfl, htail⟩ := List.cons_prefix_cons.mp hcs
        cases bs with
        | nil => exact htrans _ _ _ hfirst (hrest [] cs List.nil_prefix htail)
        | cons b bs =>
          obtain ⟨rfl, hearlier⟩ := List.cons_prefix_cons.mp hbs
          exact hrest bs cs hearlier htail

/-- A property of states holds after every step of the run, the start included. -/
def Always (step : σ → α → σ) (inv : σ → Prop) (s : σ) (as : List α) : Prop :=
  ∀ bs, bs <+: as → inv (run step s bs)

theorem Always.last {inv : σ → Prop} {s : σ} {as : List α} (h : Always step inv s as) :
    inv (run step s as) :=
  h as (List.prefix_refl as)

theorem always_cons {inv : σ → Prop} {s : σ} {a : α} {as : List α} :
    Always step inv s (a :: as) ↔ inv s ∧ Always step inv (step s a) as := by
  constructor
  · intro h
    exact ⟨h [] List.nil_prefix, fun bs hbs => h (a :: bs) (List.cons_prefix_cons.mpr ⟨rfl, hbs⟩)⟩
  · rintro ⟨hs, h⟩ bs hbs
    cases bs with
    | nil => exact hs
    | cons b bs =>
      obtain ⟨rfl, htail⟩ := List.cons_prefix_cons.mp hbs
      exact h bs htail

/-- Where every step keeps `aux`, and under it keeps the property exactly when it meets the
condition, a run has the property throughout exactly when all its steps meet it. -/
theorem always_iff_allSteps_of {ok : σ → α → Prop} {aux inv : σ → Prop}
    (haux : ∀ s a, aux s → aux (step s a))
    (hstep : ∀ s a, aux s → inv s → (inv (step s a) ↔ ok s a)) {s : σ} {as : List α}
    (h : aux s) (hs : inv s) : Always step inv s as ↔ AllSteps step ok s as := by
  induction as generalizing s with
  | nil => simpa [Always, AllSteps, List.prefix_nil] using hs
  | cons a as ih =>
    rw [always_cons]
    constructor
    · rintro ⟨_, hrest⟩
      have hnext : inv (step s a) := hrest [] List.nil_prefix
      exact ⟨(hstep s a h hs).mp hnext, (ih (haux s a h) hnext).mp hrest⟩
    · rintro ⟨hok, hrest⟩
      exact ⟨hs, (ih (haux s a h) ((hstep s a h hs).mpr hok)).mpr hrest⟩

/-- Where a step keeps the property exactly when it meets the condition, a run has the
property throughout exactly when all its steps do. -/
theorem always_iff_allSteps {ok : σ → α → Prop} {inv : σ → Prop}
    (hstep : ∀ s a, inv s → (inv (step s a) ↔ ok s a)) {s : σ} {as : List α} (hs : inv s) :
    Always step inv s as ↔ AllSteps step ok s as :=
  @always_iff_allSteps_of _ _ step ok (fun _ => True) inv (fun _ _ _ => trivial)
    (fun s a _ => hstep s a) s as trivial hs

/-- The induction over a run, at every state it reaches. -/
theorem invariant_always {ok : σ → α → Prop} {inv : σ → Prop}
    (hstep : ∀ s a, inv s → ok s a → inv (step s a)) {s : σ} {as : List α}
    (hs : inv s) (h : AllSteps step ok s as) : Always step inv s as :=
  fun _ hbs => invariant_run hstep hs (h.of_prefix hbs)

/-- What an invariant gives at each step holds at every step. -/
theorem allSteps_of_invariant {ok good : σ → α → Prop} {inv : σ → Prop}
    (hstep : ∀ s a, inv s → ok s a → inv (step s a) ∧ good s a) {s : σ} {as : List α}
    (hs : inv s) (h : AllSteps step ok s as) : AllSteps step good s as := by
  induction as generalizing s with
  | nil => trivial
  | cons a as ih =>
    obtain ⟨hnext, hgood⟩ := hstep s a hs h.1
    exact ⟨hgood, ih hnext h.2⟩

end FinylDcp.Runs
