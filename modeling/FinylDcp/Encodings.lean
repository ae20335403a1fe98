import Mathlib.Data.List.Basic
import Mathlib.Tactic.SplitIfs

/-!
# Texts and their bytes

A text of the source language is a list of code points, among which lone surrogates may be. UTF-8
encodes all but these, ASCII only the first 128 code points; what was encoded is decoded again.
-/
namespace FinylDcp.Encodings

inductive CodePoint
  | scalar (c : Char)
  | surrogate (n : Fin 2048)
  deriving DecidableEq

abbrev Str := List CodePoint

abbrev Bytes := List UInt8

def ofString (s : String) : Str := s.toList.map .scalar

def CodePoint.scalar? : CodePoint → Option Char
  | .scalar c => some c
  | .surrogate _ => none

/-- The bytes of a text without surrogates. -/
def utf8 (s : String) : Bytes := s.toByteArray.data.toList

/-- `encode("utf-8")`; none when there is a surrogate. -/
def encodeUtf8 (s : Str) : Option Bytes :=
  (s.mapM CodePoint.scalar?).map fun cs => utf8 (String.ofList cs)

/-- `decode("utf-8")`. -/
def decodeUtf8 (b : Bytes) : Option Str := (String.fromUTF8? ⟨b.toArray⟩).map ofString

theorem mapM_scalar?_eq_some {s : Str} {cs : List Char} :
    s.mapM CodePoint.scalar? = some cs ↔ s = cs.map .scalar := by
  induction s generalizing cs with
  | nil => cases cs <;> simp
  | cons x s ih =>
    cases x with
    | scalar c =>
      cases cs with
      | nil => simp [List.mapM_cons, CodePoint.scalar?, Option.bind_eq_some_iff]
      | cons d cs => simp [List.mapM_cons, CodePoint.scalar?, Option.bind_eq_some_iff, ih, and_comm]
    | surrogate n =>
      cases cs with
      | nil => simp [List.mapM_cons, CodePoint.scalar?]
      | cons d cs => simp [List.mapM_cons, CodePoint.scalar?]

theorem fromUTF8?_toByteArray (s : String) : String.fromUTF8? s.toByteArray = some s := by
  rw [String.fromUTF8?, dif_pos s.isValidUTF8]
  rfl

/-- What UTF-8 encoded is decoded again. -/
theorem decodeUtf8_of_encodeUtf8 {s : Str} {b : Bytes} (h : encodeUtf8 s = some b) :
    decodeUtf8 b = some s := by
  obtain ⟨cs, hcs, rfl⟩ := Option.map_eq_some_iff.mp h
  rw [mapM_scalar?_eq_some] at hcs
  rw [decodeUtf8, utf8, Array.toArray_toList]
  rw [show (⟨(String.ofList cs).toByteArray.data⟩ : ByteArray) = (String.ofList cs).toByteArray from
    rfl, fromUTF8?_toByteArray, Option.map_some, ofString, String.toList_ofList, hcs]

def CodePoint.ascii? : CodePoint → Option UInt8
  | .scalar c => if c.toNat < 128 then some c.toNat.toUInt8 else none
  | .surrogate _ => none

/-- `encode("ascii")`. -/
def encodeAscii (s : Str) : Option Bytes := s.mapM CodePoint.ascii?

/-- The code point of an ASCII byte. -/
def ofAscii (x : UInt8) : Option CodePoint :=
  if x < 128 then some (.scalar (Char.ofNat x.toNat)) else none

/-- `decode("ascii")`. -/
def decodeAscii (b : Bytes) : Option Str := b.mapM ofAscii

theorem ascii?_ofAscii {x : UInt8} {p : CodePoint} (h : ofAscii x = some p) :
    p.ascii? = some x := by
  unfold ofAscii at h
  split_ifs at h with hlt
  obtain rfl := Option.some.inj h
  have hsmall : x.toNat < 128 := hlt
  have hvalid : x.toNat.isValidChar := .inl (by omega)
  have hchar : (Char.ofNat x.toNat).toNat = x.toNat := by
    rw [Char.ofNat, dif_pos hvalid]
    rfl
  rw [CodePoint.ascii?, hchar, if_pos hsmall]
  simp

/-- ASCII bytes have a text, which encodes to them. -/
theorem exists_decodeAscii {b : Bytes} (h : ∀ x ∈ b, x < 128) :
    ∃ s, decodeAscii b = some s ∧ encodeAscii s = some b := by
  induction b with
  | nil => exact ⟨[], rfl, rfl⟩
  | cons x b ih =>
    obtain ⟨s, hdecode, hencode⟩ := ih fun y hy => h y (by simp [hy])
    have hx : ofAscii x = some (.scalar (Char.ofNat x.toNat)) := if_pos (h x (by simp))
    refine ⟨.scalar (Char.ofNat x.toNat) :: s, ?_, ?_⟩
    · rw [decodeAscii] at hdecode
      simp [decodeAscii, List.mapM_cons, hx, hdecode]
    · rw [encodeAscii] at hencode
      simp [encodeAscii, List.mapM_cons, ascii?_ofAscii hx, hencode]

end FinylDcp.Encodings
