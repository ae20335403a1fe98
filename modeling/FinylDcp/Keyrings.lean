import FinylDcp.Encodings

/-!
# Key rings

An authenticated cipher writes tokens under a key and opens them under that key only. A ring of
keys writes under its first key and opens under any of them.
-/
namespace FinylDcp.Keyrings
open Encodings

/-- How a key is read from bytes, what it writes with a nonce, and what it opens. -/
structure Cipher (K N : Type*) where
  key : Bytes → Option K
  encrypt : K → N → Bytes → Bytes
  decrypt : K → Bytes → Option Bytes

namespace Cipher

variable {K N : Type*} (F : Cipher K N)

/-- A key opens what it wrote, no other key does, and tokens are ASCII. -/
structure Correct : Prop where
  opens : ∀ k n m, F.decrypt k (F.encrypt k n m) = some m
  others : ∀ k k' n m, k' ≠ k → F.decrypt k' (F.encrypt k n m) = none
  ascii : ∀ k n m, ∀ x ∈ F.encrypt k n m, x < 128

/-- What the first key of a ring that opens a token finds in it. -/
def openAny (ring : List K) (token : Bytes) : Option Bytes :=
  ring.findSome? (fun k => F.decrypt k token)

variable {F}

/-- A ring opens what any of its keys wrote. -/
theorem Correct.openAny (h : F.Correct) {ring : List K} {k : K} (hk : k ∈ ring) (n : N)
    (m : Bytes) : F.openAny ring (F.encrypt k n m) = some m := by
  induction ring with
  | nil => cases hk
  | cons k' ring ih =>
    by_cases hsame : k' = k
    · rw [hsame, Cipher.openAny, List.findSome?_cons, h.opens]
    · have hrest := (List.mem_cons.mp hk).resolve_left (Ne.symm hsame)
      rw [Cipher.openAny, List.findSome?_cons, h.others k k' n m hsame]
      exact ih hrest

end Cipher

end FinylDcp.Keyrings
