import Mathlib.Data.List.Basic

/-!
# Calls with keyword arguments

How the source language binds the arguments of a call to the parameters of a function: the
positional ones in order, the others by name, the rest from the defaults. A call that names no
parameter of the function, or one that is bound already, raises before the function runs.
-/
namespace FinylDcp.Calls

/-- The parameters in order, the last ones with defaults. -/
structure Signature (α : Type*) where
  required : List String
  optional : List (String × α)

namespace Signature

variable {α : Type*} (f : Signature α)

def names : List String := f.required ++ f.optional.map Prod.fst

/-- The value of a parameter that no positional argument fills. -/
def fill (keywords : List (String × α)) (name : String) : Option α :=
  keywords.lookup name <|> f.optional.lookup name

/-- The arguments of a call, one for each parameter; none when the call raises. -/
def bind (positional : List α) (keywords : List (String × α)) : Option (List α) :=
  let rest := f.names.drop positional.length
  if f.names.length < positional.length then none
  else if keywords.any (fun x => !rest.contains x.1) then none
  else (rest.mapM (f.fill keywords)).map (positional ++ ·)

/-- A keyword that is no parameter still to be filled makes the call raise. -/
theorem bind_eq_none_of_unknown {positional : List α} {keywords : List (String × α)}
    {x : String × α} (hx : x ∈ keywords) (h : x.1 ∉ f.names.drop positional.length) :
    f.bind positional keywords = none := by
  have hany : keywords.any (fun x => !(f.names.drop positional.length).contains x.1) = true :=
    List.any_eq_true.mpr ⟨x, hx, by simpa using h⟩
  simp only [bind, hany]
  split_ifs <;> rfl

end Signature

end FinylDcp.Calls
