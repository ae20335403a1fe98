import Mathlib.Data.List.Basic

/-!
# Comma-separated files

A writer that quotes a field only where it must, and the reader that takes a text character by
character, a line at a time. Whatever the fields hold, what was written is read back.
-/
namespace FinylDcp.Csv

abbrev Field := List Char

abbrev Row := List Field

/-- A character that a field cannot hold without quotes. -/
def special (c : Char) : Bool := c = ',' || c = '"' || c = '\r' || c = '\n'

/-- The inside of a quoted field: quotes are doubled. -/
def escape (f : Field) : List Char := f.flatMap (fun c => if c = '"' then ['"', '"'] else [c])

/-- A field; the only one of its row is quoted where it is empty. -/
def writeField (lone : Bool) (f : Field) : List Char :=
  if f.any special || (lone && f.isEmpty) then '"' :: (escape f ++ ['"']) else f

/-- The fields with commas between them. -/
def writeFields (lone : Bool) : Row → List Char
  | [] => []
  | [f] => writeField lone f
  | f :: fs => writeField lone f ++ ',' :: writeFields lone fs

def writeRow (row : Row) : List Char := writeFields (row.length = 1) row ++ ['\r', '\n']

def write (rows : List Row) : List Char := rows.flatMap writeRow

inductive State
  | startRecord | startField | inField | inQuotedField | quoteInQuotedField | eatCrnl
  deriving DecidableEq, Repr

/-- The state, the field so far and the fields before it. -/
structure Reader where
  state : State
  field : Field
  record : Row
  deriving DecidableEq, Repr

namespace Reader

def fresh : Reader := ⟨.startRecord, [], []⟩

/-- The field is complete. -/
def save (r : Reader) (state : State) : Reader := ⟨state, [], r.record ++ [r.field]⟩

def add (r : Reader) (state : State) (c : Char) : Reader := ⟨state, r.field ++ [c], r.record⟩

/-- One character at the start of a field. -/
def startField (r : Reader) (c : Char) : Reader :=
  if c = '\r' ∨ c = '\n' then r.save .eatCrnl
  else if c = '"' then { r with state := .inQuotedField }
  else if c = ',' then r.save .startField
  else r.add .inField c

/-- One character; `none` where the reader raises. -/
def char (r : Reader) (c : Char) : Option Reader :=
  match r.state with
  | .startRecord =>
    if c = '\r' ∨ c = '\n' then some { r with state := .eatCrnl } else some (r.startField c)
  | .startField => some (r.startField c)
  | .inField =>
    if c = '\r' ∨ c = '\n' then some (r.save .eatCrnl)
    else if c = ',' then some (r.save .startField)
    else some (r.add .inField c)
  | .inQuotedField =>
    if c = '"' then some { r with state := .quoteInQuotedField }
    else some (r.add .inQuotedField c)
  | .quoteInQuotedField =>
    if c = '"' then some (r.add .inQuotedField c)
    else if c = ',' then some (r.save .startField)
    else if c = '\r' ∨ c = '\n' then some (r.save .eatCrnl)
    else some (r.add .inField c)
  | .eatCrnl => if c = '\r' ∨ c = '\n' then some r else none

/-- The end of a line. -/
def endLine (r : Reader) : Reader :=
  match r.state with
  | .startRecord | .inQuotedField => r
  | .eatCrnl => { r with state := .startRecord }
  | .startField | .inField | .quoteInQuotedField => r.save .startRecord

/-- The rows of a text. Lines end behind a line feed, and a row ends with a line unless it is
inside quotes. -/
def read : Reader → List Char → Option (List Row)
  | r, [] =>
    match r.state with
    | .startRecord => some []
    | .inQuotedField => some [(r.save .startRecord).record]
    | _ => some [r.endLine.record]
  | r, c :: cs =>
    match r.char c with
    | none => none
    | some r' =>
      if c = '\n' then
        if r'.endLine.state = .startRecord then (read fresh cs).map (r'.endLine.record :: ·)
        else read r'.endLine cs
      else read r' cs

end Reader

def read (text : List Char) : Option (List Row) := Reader.fresh.read text

variable {r : Reader} {f : Field} {c : Char} {cs rest : List Char} {record : Row}

theorem special_eq_false : special c = false ↔ c ≠ ',' ∧ c ≠ '"' ∧ c ≠ '\r' ∧ c ≠ '\n' := by
  simp [special, and_assoc]

/-- A character that ends no line. -/
theorem read_cons {r' : Reader} (h : r.char c = some r') (hc : c ≠ '\n') :
    r.read (c :: cs) = r'.read cs := by
  rw [Reader.read, h]
  exact if_neg hc

/-- The rest of a field without special characters. -/
theorem read_plain (hf : f.any special = false) (field : Field) :
    (⟨.inField, field, record⟩ : Reader).read (f ++ rest) =
      (⟨.inField, field ++ f, record⟩ : Reader).read rest := by
  induction f generalizing field with
  | nil => simp
  | cons c f ih =>
    rw [List.any_cons, Bool.or_eq_false_iff] at hf
    obtain ⟨hcomma, hquote, hreturn, hfeed⟩ := special_eq_false.mp hf.1
    have hchar : (⟨.inField, field, record⟩ : Reader).char c =
        some ⟨.inField, field ++ [c], record⟩ := by
      simp [Reader.char, Reader.add, hcomma, hreturn, hfeed]
    rw [List.cons_append, read_cons hchar hfeed, ih hf.2, List.append_assoc]
    rfl

/-- The inside of a quoted field, line ends and all. -/
theorem read_escape (field : Field) :
    (⟨.inQuotedField, field, record⟩ : Reader).read (escape f ++ rest) =
      (⟨.inQuotedField, field ++ f, record⟩ : Reader).read rest := by
  induction f generalizing field with
  | nil => simp [escape]
  | cons c f ih =>
    have hnext : (⟨.inQuotedField, field ++ [c], record⟩ : Reader).read (escape f ++ rest) =
        (⟨.inQuotedField, field ++ c :: f, record⟩ : Reader).read rest := by
      rw [ih, List.append_assoc]
      rfl
    rw [← hnext]
    by_cases hquote : c = '"'
    · subst hquote
      show Reader.read _ ('"' :: '"' :: (escape f ++ rest)) = _
      rw [read_cons (by rfl) (by decide), read_cons (by rfl) (by decide)]
      rfl
    · have hone : escape (c :: f) = c :: escape f := by simp [escape, hquote]
      have hchar : (⟨.inQuotedField, field, record⟩ : Reader).char c =
          some ⟨.inQuotedField, field ++ [c], record⟩ := by
        simp [Reader.char, Reader.add, hquote]
      rw [hone, List.cons_append]
      by_cases hfeed : c = '\n'
      · subst hfeed
        rw [Reader.read, hchar]
        rfl
      · exact read_cons hchar hfeed

/-- Where a field may start. -/
def Starts (r : Reader) : Prop :=
  (r.state = .startRecord ∨ r.state = .startField) ∧ r.field = []

/-- A field that was written, read up to what follows it. -/
theorem read_writeField (hr : Starts r) {lone : Bool} (hwritten : writeField lone f ≠ []) :
    ∃ state, (state = .inField ∨ state = .quoteInQuotedField) ∧
      r.read (writeField lone f ++ rest) = (⟨state, f, r.record⟩ : Reader).read rest := by
  obtain ⟨state, field, record⟩ := r
  obtain ⟨hstate, rfl⟩ := hr
  have hstart : ∀ c, c ≠ '\r' → c ≠ '\n' →
      (⟨state, [], record⟩ : Reader).char c = some (Reader.startField ⟨state, [], record⟩ c) := by
    intro c hreturn hfeed
    obtain rfl | rfl := hstate
    · simp [Reader.char, hreturn, hfeed]
    · rfl
  unfold writeField at hwritten ⊢
  split
  · refine ⟨.quoteInQuotedField, .inr rfl, ?_⟩
    rw [List.cons_append, List.append_assoc, read_cons (hstart '"' (by decide) (by decide))
      (by decide)]
    show (⟨.inQuotedField, [], record⟩ : Reader).read _ = _
    rw [read_escape, List.singleton_append]
    exact read_cons rfl (by decide)
  · rename_i hplain
    rw [if_neg hplain] at hwritten
    refine ⟨.inField, .inl rfl, ?_⟩
    obtain ⟨c, f, rfl⟩ := List.exists_cons_of_ne_nil hwritten
    simp only [List.any_cons, Bool.or_eq_true, not_or, Bool.not_eq_true] at hplain
    obtain ⟨⟨hc, hf⟩, -⟩ := hplain
    obtain ⟨hcomma, hquote, hreturn, hfeed⟩ := special_eq_false.mp hc
    have hfirst : Reader.startField ⟨state, [], record⟩ c = ⟨.inField, [c], record⟩ := by
      simp [Reader.startField, Reader.add, hcomma, hquote, hreturn, hfeed]
    rw [List.cons_append, read_cons (hstart c hreturn hfeed) hfeed, hfirst, read_plain hf]
    rfl

/-- A field before a comma. -/
theorem read_field_comma (hr : Starts r) :
    r.read (writeField false f ++ ',' :: rest) =
      (⟨.startField, [], r.record ++ [f]⟩ : Reader).read rest := by
  by_cases hempty : writeField false f = []
  · have hf : f = [] := by
      unfold writeField at hempty
      split at hempty
      · cases hempty
      · exact hempty
    obtain ⟨state, field, record⟩ := r
    obtain ⟨rfl | rfl, rfl⟩ := hr
    · rw [hempty, hf]
      exact read_cons rfl (by decide)
    · rw [hempty, hf]
      exact read_cons rfl (by decide)
  · obtain ⟨state, rfl | rfl, hread⟩ := read_writeField hr hempty
    · rw [hread]
      exact read_cons rfl (by decide)
    · rw [hread]
      exact read_cons rfl (by decide)

/-- The last field of a row. -/
theorem read_field_end (hr : Starts r) {lone : Bool}
    (hlast : writeField lone f ≠ [] ∨ r.state = .startField) :
    r.read (writeField lone f ++ '\r' :: '\n' :: rest) =
      (read rest).map ((r.record ++ [f]) :: ·) := by
  have hend : ∀ record : Row, (⟨.eatCrnl, [], record⟩ : Reader).read ('\n' :: rest) =
      (read rest).map (record :: ·) := fun _ => rfl
  by_cases hempty : writeField lone f = []
  · have hf : f = [] := by
      unfold writeField at hempty
      split at hempty
      · cases hempty
      · exact hempty
    have hstate := hlast.resolve_left (not_not.mpr hempty)
    obtain ⟨state, field, record⟩ := r
    obtain ⟨-, rfl⟩ := hr
    obtain rfl : state = .startField := hstate
    rw [hempty, hf, ← hend]
    exact read_cons rfl (by decide)
  · obtain ⟨state, rfl | rfl, hread⟩ := read_writeField hr hempty
    · rw [hread, ← hend]
      exact read_cons rfl (by decide)
    · rw [hread, ← hend]
      exact read_cons rfl (by decide)

/-- The fields of a row from some field on, which is not the first. -/
theorem read_writeFields {fs : Row} (hfs : fs ≠ []) (record : Row) :
    (⟨.startField, [], record⟩ : Reader).read (writeFields false fs ++ '\r' :: '\n' :: rest) =
      (read rest).map ((record ++ fs) :: ·) := by
  induction fs generalizing record with
  | nil => exact absurd rfl hfs
  | cons f fs ih =>
    cases fs with
    | nil => exact read_field_end ⟨.inr rfl, rfl⟩ (.inr rfl)
    | cons g gs =>
      have htail := ih (List.cons_ne_nil g gs) (record ++ [f])
      rw [List.append_assoc, List.singleton_append] at htail
      rw [writeFields, List.append_assoc, List.cons_append,
        read_field_comma ⟨.inr rfl, rfl⟩, htail]
      exact List.cons_ne_nil g gs

theorem read_writeRow (row : Row) (rest : List Char) :
    read (writeRow row ++ rest) = (read rest).map (row :: ·) := by
  unfold writeRow
  rw [List.append_assoc]
  show Reader.fresh.read (writeFields _ row ++ '\r' :: '\n' :: rest) = _
  match row with
  | [] => rfl
  | [f] =>
    have hwritten : writeField true f ≠ [] := by
      unfold writeField
      split
      · exact List.cons_ne_nil _ _
      · rename_i hplain
        rintro rfl
        simp at hplain
    exact read_field_end ⟨.inl rfl, rfl⟩ (.inl hwritten)
  | f :: g :: gs =>
    have hlone : (decide ((f :: g :: gs).length = 1)) = false := by simp
    rw [hlone, writeFields, List.append_assoc, List.cons_append,
      read_field_comma ⟨.inl rfl, rfl⟩, read_writeFields (List.cons_ne_nil g gs)]
    · rfl
    · exact List.cons_ne_nil g gs

/-- Reading what was written gives the rows back, whatever their fields hold. -/
theorem read_write (rows : List Row) : read (write rows) = some rows := by
  induction rows with
  | nil => rfl
  | cons row rows ih =>
    have hwrite : write (row :: rows) = writeRow row ++ write rows := List.flatMap_cons
    rw [hwrite, read_writeRow, ih]
    rfl

end FinylDcp.Csv
