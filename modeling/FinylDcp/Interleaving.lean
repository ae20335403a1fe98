import FinylDcp.Runs
import Mathlib.Data.List.Basic

/-!
# Interleaved programs

Several programs with a state of their own take turns over one shared state. A
schedule is the list of the programs that move; one that is blocked or finished
leaves everything as it is. An assertion about the shared state and one about each
program's own hold along every schedule when the program that moves keeps both and
disturbs no other's.
-/
namespace FinylDcp.Interleaving
open Runs

structure World (σ τ : Type*) where
  shared : σ
  locals : List τ

variable {σ τ : Type*} (prog : ℕ → σ → τ → Option (σ × τ))

/-- Program `i` takes its next step, if it can. -/
def World.step (w : World σ τ) (i : ℕ) : World σ τ :=
  match w.locals[i]? with
  | none => w
  | some l =>
    match prog i w.shared l with
    | none => w
    | some out => ⟨out.1, w.locals.set i out.2⟩

variable {prog}

theorem World.step_cases (prog : ℕ → σ → τ → Option (σ × τ)) (w : World σ τ) (i : ℕ) :
    w.step prog i = w ∨
    ∃ l out, w.locals[i]? = some l ∧ prog i w.shared l = some out ∧
      w.step prog i = ⟨out.1, w.locals.set i out.2⟩ := by
  unfold step
  split
  · exact .inl rfl
  rename_i l hl
  split
  · exact .inl rfl
  · rename_i out hout
    exact .inr ⟨l, out, hl, hout, rfl⟩

variable (common : σ → Prop) (own : ℕ → σ → τ → Prop)

/-- The assertions hold: the common one, and each program's own. -/
structure Holds (w : World σ τ) : Prop where
  common : common w.shared
  own : ∀ i l, w.locals[i]? = some l → own i w.shared l

/-- The proof obligations: of the program that moves, and towards the others. -/
structure Undisturbed (prog : ℕ → σ → τ → Option (σ × τ)) (ok : World σ τ → ℕ → Prop)
    (common : σ → Prop) (own : ℕ → σ → τ → Prop) : Prop where
  mover : ∀ w i l out, Holds common own w → ok w i → w.locals[i]? = some l →
    prog i w.shared l = some out → common out.1 ∧ own i out.1 out.2
  others : ∀ w i j l m out, Holds common own w → ok w i → i ≠ j → w.locals[i]? = some l →
    w.locals[j]? = some m → prog i w.shared l = some out → own j out.1 m

variable {common own} {ok : World σ τ → ℕ → Prop}

theorem Undisturbed.step (h : Undisturbed prog ok common own) (w : World σ τ) (i : ℕ)
    (hw : Holds common own w) (hok : ok w i) : Holds common own (w.step prog i) := by
  obtain hsame | ⟨l, out, hl, hout, hstep⟩ := w.step_cases prog i
  · rwa [hsame]
  rw [hstep]
  obtain ⟨hcommon, hown⟩ := h.mover w i l out hw hok hl hout
  refine ⟨hcommon, fun j m hm => ?_⟩
  by_cases hij : i = j
  · subst hij
    rw [List.getElem?_set_self (List.getElem?_eq_some_iff.mp hl).1] at hm
    rwa [← Option.some.inj hm]
  · rw [List.getElem?_set_ne hij] at hm
    exact h.others w i j l m out hw hok hij hl hm hout

/-- Along every schedule whose steps meet the condition, the assertions hold. -/
theorem Undisturbed.always (h : Undisturbed prog ok common own) {w : World σ τ} {is : List ℕ}
    (hw : Holds common own w) (hok : AllSteps (World.step prog) ok w is) :
    Always (World.step prog) (Holds common own) w is :=
  invariant_always (fun w i hw hi => h.step w i hw hi) hw hok

end FinylDcp.Interleaving
