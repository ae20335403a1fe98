import FinylDcp.Text

/-!
# Message templates

A tenant's wording of a message, with placeholders in double braces. A body is scanned from the
left; what reads as a placeholder is replaced by its value, and everything else stays.
-/
namespace FinylDcp
open Text

/-- The characters of a name, as the regular expressions of the source language have them: they
are no blanks, and a closing brace is not one of them. -/
structure WordClass (isWord : Char → Bool) : Prop where
  blank : ∀ c, isSpace c = true → isWord c = false
  brace : isWord '\x7d' = false

section Scanner

variable (isWord : Char → Bool) (context : String → Option String)

/-- A placeholder at the front of a text, with what follows it. -/
def tokenAt : List Char → Option (List Char × List Char)
  | '\x7b' :: '\x7b' :: cs =>
    let named := cs.dropWhile isSpace
    match (named.dropWhile isWord).dropWhile isSpace with
    | '\x7d' :: '\x7d' :: rest =>
      if named.takeWhile isWord = [] then none else some (named.takeWhile isWord, rest)
    | _ => none
  | _ => none

/-- The value of a placeholder; one that is unknown or has none is empty. -/
def tokenValue (name : List Char) : List Char := ((context (String.ofList name)).getD "").toList

/-- `_TOKEN_RE.sub`, for at most so many characters and placeholders. -/
def substitute : ℕ → List Char → List Char
  | 0, cs => cs
  | _ + 1, [] => []
  | n + 1, c :: cs =>
    match tokenAt isWord (c :: cs) with
    | some (name, rest) => tokenValue context name ++ substitute n rest
    | none => c :: substitute n cs

/-- `render_body` -/
def renderBody (body : String) : String :=
  String.ofList (substitute isWord context body.length body.toList)

end Scanner

/-- A piece of a body: text, or a placeholder with blanks around its name. -/
inductive Piece
  | text (s : List Char)
  | token (before name after : List Char)
  deriving DecidableEq, Repr

namespace Piece

def write : Piece → List Char
  | text s => s
  | token before name after =>
    '\x7b' :: '\x7b' :: (before ++ (name ++ (after ++ ['\x7d', '\x7d'])))

def render (context : String → Option String) : Piece → List Char
  | text s => s
  | token _ name _ => tokenValue context name

/-- Text without an opening brace; a name of word characters among blanks. -/
def Clean (isWord : Char → Bool) : Piece → Prop
  | text s => '\x7b' ∉ s
  | token before name after => name ≠ [] ∧ name.all isWord = true ∧
    before.all isSpace = true ∧ after.all isSpace = true

instance (isWord : Char → Bool) : ∀ p : Piece, Decidable (p.Clean isWord)
  | text s => inferInstanceAs (Decidable ('\x7b' ∉ s))
  | token before name after => inferInstanceAs (Decidable (name ≠ [] ∧
      name.all isWord = true ∧ before.all isSpace = true ∧ after.all isSpace = true))

/-- The names that a piece asks for. -/
def names : Piece → List String
  | text _ => []
  | token _ name _ => [String.ofList name]

end Piece

/-- A body of pieces. -/
def writeBody (pieces : List Piece) : String := String.ofList (pieces.flatMap Piece.write)

section Rendering

variable {isWord : Char → Bool} {context : String → Option String}

theorem dropWhile_all_append {p : Char → Bool} {xs ys : List Char} (hxs : ∀ x ∈ xs, p x = true)
    (hys : ∀ y ∈ ys.head?, p y = false) :
    (xs ++ ys).dropWhile p = ys ∧ (xs ++ ys).takeWhile p = xs := by
  rw [List.dropWhile_append_of_pos hxs, List.takeWhile_append_of_pos hxs]
  cases ys with
  | nil => simp
  | cons y ys =>
    have hy : ¬ p y = true := by simp [hys y rfl]
    rw [List.dropWhile_cons_of_neg hy, List.takeWhile_cons_of_neg hy, List.append_nil]
    exact ⟨rfl, rfl⟩

/-- A placeholder is read as it was written. -/
theorem tokenAt_write (hword : WordClass isWord) {before name after : List Char}
    (hclean : (Piece.token before name after).Clean isWord) (rest : List Char) :
    tokenAt isWord ((Piece.token before name after).write ++ rest) = some (name, rest) := by
  obtain ⟨hne, hname, hbefore, hafter⟩ := hclean
  rw [List.all_eq_true] at hname hbefore hafter
  have hclose : ∀ y ∈ ('\x7d' :: '\x7d' :: rest).head?, isSpace y = false := by
    rintro y ⟨⟩
    decide
  have hfirst : ∀ y ∈ (name ++ (after ++ '\x7d' :: '\x7d' :: rest)).head?, isSpace y = false := by
    intro y hy
    obtain ⟨c, name', rfl⟩ := List.exists_cons_of_ne_nil hne
    obtain rfl : c = y := Option.some.inj hy
    by_contra hblank
    have hno := hword.blank c (by simpa using hblank)
    rw [hname c List.mem_cons_self] at hno
    nomatch hno
  have hlast : ∀ y ∈ (after ++ '\x7d' :: '\x7d' :: rest).head?, isWord y = false := by
    intro y hy
    cases after with
    | nil =>
      obtain rfl : '\x7d' = y := Option.some.inj hy
      exact hword.brace
    | cons c after' =>
      obtain rfl : c = y := Option.some.inj hy
      exact hword.blank c (hafter c List.mem_cons_self)
  have hwritten : (Piece.token before name after).write ++ rest = '\x7b' :: '\x7b' ::
      (before ++ (name ++ (after ++ '\x7d' :: '\x7d' :: rest))) := by
    simp [Piece.write]
  rw [hwritten]
  simp only [tokenAt, (dropWhile_all_append hbefore hfirst).1,
    (dropWhile_all_append hname hlast).1, (dropWhile_all_append hname hlast).2,
    (dropWhile_all_append hafter hclose).1, if_neg hne]

theorem tokenAt_of_ne {c : Char} (hc : c ≠ '\x7b') (cs : List Char) :
    tokenAt isWord (c :: cs) = none := by
  unfold tokenAt
  split
  next heq => exact absurd (List.cons.inj heq).1 hc
  next => rfl

/-- Text without an opening brace stays as it is. -/
theorem substitute_text {s rest : List Char} (hs : '\x7b' ∉ s) {n : ℕ}
    (hn : (s ++ rest).length ≤ n) :
    ∃ m, rest.length ≤ m ∧ substitute isWord context n (s ++ rest) =
      s ++ substitute isWord context m rest := by
  induction s generalizing n with
  | nil => exact ⟨n, hn, rfl⟩
  | cons c s ih =>
    obtain ⟨n, rfl⟩ : ∃ k, n = k + 1 := Nat.exists_eq_succ_of_ne_zero (by simp at hn; omega)
    obtain ⟨hc, htail⟩ : c ≠ '\x7b' ∧ '\x7b' ∉ s := by
      constructor
      · rintro rfl
        exact hs List.mem_cons_self
      · exact fun h => hs (List.mem_cons_of_mem c h)
    obtain ⟨m, hm, heq⟩ := ih htail (by simpa using hn)
    refine ⟨m, hm, ?_⟩
    rw [List.cons_append, substitute, tokenAt_of_ne hc, heq]
    rfl

/-- A body comes out as its text with the values in the places of the placeholders. -/
theorem substitute_pieces (hword : WordClass isWord) {pieces : List Piece}
    (hclean : ∀ p ∈ pieces, p.Clean isWord) {n : ℕ}
    (hn : (pieces.flatMap Piece.write).length ≤ n) :
    substitute isWord context n (pieces.flatMap Piece.write) =
      pieces.flatMap (Piece.render context) := by
  induction pieces generalizing n with
  | nil => cases n <;> rfl
  | cons p pieces ih =>
    rw [List.flatMap_cons] at hn ⊢
    rw [List.flatMap_cons]
    have hp := hclean p List.mem_cons_self
    have hrest := fun {m : ℕ} => @ih (fun q hq => hclean q (List.mem_cons_of_mem p hq)) m
    cases p with
    | text s =>
      obtain ⟨m, hm, heq⟩ := substitute_text hp hn
      rw [Piece.write, heq, hrest hm, Piece.render]
    | token before name after =>
      obtain ⟨n, rfl⟩ : ∃ k, n = k + 1 :=
        Nat.exists_eq_succ_of_ne_zero (by simp [Piece.write] at hn; omega)
      have hread := tokenAt_write hword hp (pieces.flatMap Piece.write)
      have hlen : (pieces.flatMap Piece.write).length ≤ n := by
        simp only [Piece.write, List.cons_append, List.length_cons, List.length_append] at hn
        omega
      rw [Piece.write, List.cons_append] at hread ⊢
      rw [substitute, hread]
      simp only [hrest hlen, Piece.render]

/-- The rendering of a body that is made of text and placeholders. -/
theorem renderBody_writeBody (hword : WordClass isWord) (context : String → Option String)
    {pieces : List Piece} (hclean : ∀ p ∈ pieces, p.Clean isWord) :
    renderBody isWord context (writeBody pieces) =
      String.ofList (pieces.flatMap (Piece.render context)) := by
  rw [renderBody, writeBody, String.toList_ofList, substitute_pieces hword hclean]
  simp

end Rendering

def eventKeys : List String :=
  ["loan_qualified", "loan_disbursed", "repayment_reminder", "overdue_alert", "defaulted",
    "payment_receipt"]

/-- The reminders that a borrower may opt out of. -/
def suppressibleEvents : List String := ["repayment_reminder", "overdue_alert", "defaulted"]

def said (s : String) : Piece := .text s.toList

def slot (name : String) : Piece := .token [] name.toList []

/-- `DEFAULT_TEMPLATES`, in pieces. -/
def defaultTemplates : List (String × List Piece) := [
  ("loan_qualified", [said "Dear ", slot "first_name", said ", good news! Your loan ",
    slot "account_number", said " of KES ", slot "amount",
    said " has been APPROVED. It will be disbursed to your M-Pesa shortly. ", slot "dcp_name",
    said "."]),
  ("loan_disbursed", [said "Dear ", slot "first_name", said ", your loan ",
    slot "account_number", said " of KES ", slot "amount",
    said " has been disbursed to your M-Pesa. Repay by ", slot "due_date", said " via Paybill ",
    slot "paybill", said ", Account ", slot "customer_number", said ". ", slot "dcp_name",
    said "."]),
  ("repayment_reminder", [said "Hi ", slot "first_name", said ", a friendly reminder: loan ",
    slot "account_number", said " balance KES ", slot "balance", said " is due in ",
    slot "days_left", said " day(s) on ", slot "due_date", said ". Pay via M-Pesa Paybill ",
    slot "paybill", said ", Account ", slot "customer_number", said ". ", slot "dcp_name",
    said "."]),
  ("overdue_alert", [said "Dear ", slot "first_name", said ", loan ", slot "account_number",
    said " is OVERDUE. Outstanding KES ", slot "balance",
    said ". Penalties may apply. Kindly settle to protect your credit score. ", slot "dcp_name",
    said "."]),
  ("defaulted", [said "Dear ", slot "first_name", said ", loan ", slot "account_number",
    said " has been marked DEFAULTED. Outstanding KES ", slot "balance",
    said ". Please contact us urgently to settle and protect your credit score. ",
    slot "dcp_name", said "."]),
  ("payment_receipt", [said "Payment received: KES ", slot "amount", said " for loan ",
    slot "account_number", said " (ref ", slot "loan_ref", said "). New balance KES ",
    slot "balance", said ". Thank you! ", slot "dcp_name", said "."])]

/-- The placeholders that every message of the lifecycle has values for. -/
def baseContextKeys : List String :=
  ["first_name", "last_name", "amount", "due_date", "balance", "account_number", "days_left",
    "dcp_name", "loan_ref", "customer_number", "paybill"]

/-- The body of an event for a tenant that has none of its own. -/
def defaultBody (eventKey : String) : String :=
  ((defaultTemplates.lookup eventKey).map writeBody).getD ""

/-- The characters of a name within ASCII. -/
def isWordAscii (c : Char) : Bool := c.isAlphanum || c = '_'

theorem wordClass_ascii : WordClass isWordAscii where
  blank := by
    intro c hc
    by_contra hword
    have hchar : (((decide ('A'.val ≤ c.val ∧ c.val ≤ 'Z'.val) ||
        (decide ('a'.val ≤ c.val) && decide (c.val ≤ 'z'.val))) ||
        (decide ('0'.val ≤ c.val) && decide (c.val ≤ '9'.val))) || decide (c = '_')) = true :=
      eq_true_of_ne_false hword
    have hrange : (48 ≤ c.toNat ∧ c.toNat ≤ 57) ∨ (65 ≤ c.toNat ∧ c.toNat ≤ 90) ∨
        (97 ≤ c.toNat ∧ c.toNat ≤ 122) ∨ c = '_' := by
      simp only [Bool.or_eq_true, Bool.and_eq_true, decide_eq_true_eq,
        UInt32.le_iff_toNat_le] at hchar
      show (48 ≤ c.val.toNat ∧ c.val.toNat ≤ 57) ∨ _
      tauto
    simp only [isSpace, Bool.or_eq_true, Bool.and_eq_true, decide_eq_true_eq] at hc
    rcases hrange with h | h | h | rfl
    · omega
    · omega
    · omega
    · revert hc
      decide
  brace := by decide

/-- A text, spelled out: what is checked is its characters, not their encoding. -/
theorem said_clean {isWord : Char → Bool} {cs : List Char} (h : cs.contains '\x7b' = false) :
    (said (String.ofList cs)).Clean isWord ∧
      ∀ name ∈ (said (String.ofList cs)).names, name ∈ baseContextKeys := by
  simpa [said, Piece.Clean, Piece.names] using h

theorem slot_clean {isWord : Char → Bool} {cs : List Char}
    (h : cs ≠ [] ∧ cs.all isWord = true) (hkey : String.ofList cs ∈ baseContextKeys) :
    (slot (String.ofList cs)).Clean isWord ∧
      ∀ name ∈ (slot (String.ofList cs)).names, name ∈ baseContextKeys := by
  simpa [slot, Piece.Clean, Piece.names, hkey] using h

/-- The templates that come with the service cover the events, are read as they are meant and
ask for nothing that a message has no value for. -/
theorem defaultTemplates_clean : defaultTemplates.map Prod.fst = eventKeys ∧
    ∀ t ∈ defaultTemplates, ∀ p ∈ t.2, p.Clean isWordAscii ∧
      ∀ name ∈ p.names, name ∈ baseContextKeys := by
  refine ⟨rfl, ?_⟩
  simp only [defaultTemplates, List.forall_mem_cons]
  repeat' first
    | exact said_clean (by decide)
    | exact slot_clean (by decide) (by decide)
    | exact fun _ h => absurd h List.not_mem_nil
    | refine ⟨?_, ?_⟩

theorem brace_free {pieces : List Piece} {isWord : Char → Bool}
    {context : String → Option String} (hclean : ∀ p ∈ pieces, p.Clean isWord)
    (hvalues : ∀ name, '\x7b' ∉ tokenValue context name) :
    '\x7b' ∉ pieces.flatMap (Piece.render context) := by
  intro hmem
  obtain ⟨p, hp, hbrace⟩ := List.mem_flatMap.mp hmem
  cases p with
  | text s => exact hclean _ hp hbrace
  | token before name after => exact hvalues name hbrace

/-- A body of text and placeholders comes out as its text with the values in their places, and
where no value brings a brace in, no placeholder reaches a borrower. -/
theorem templates_render {isWord : Char → Bool} (hword : WordClass isWord)
    (context : String → Option String) {pieces : List Piece}
    (hclean : ∀ p ∈ pieces, p.Clean isWord) :
    renderBody isWord context (writeBody pieces) =
        String.ofList (pieces.flatMap (Piece.render context)) ∧
      ((∀ name, '\x7b' ∉ tokenValue context name) →
        ∀ c ∈ (renderBody isWord context (writeBody pieces)).toList, c ≠ '\x7b') := by
  have hbody := renderBody_writeBody hword context hclean
  refine ⟨hbody, ?_⟩
  rintro hvalues c hc rfl
  rw [hbody, String.toList_ofList] at hc
  exact brace_free hclean hvalues hc

/-- A tenant's own greeting, with blanks in its placeholder. -/
theorem templates_render_greeting :
    let greeting : List Piece := [said "Habari ", .token [' '] "first_name".toList [' ', ' '],
      said " \x7d, karibu."]
    renderBody isWordAscii (fun _ => some "Jane") (writeBody greeting) =
        String.ofList (greeting.flatMap (Piece.render (fun _ => some "Jane"))) ∧
      ((∀ name, '\x7b' ∉ tokenValue (fun _ => some "Jane") name) →
        ∀ c ∈ (renderBody isWordAscii (fun _ => some "Jane") (writeBody greeting)).toList,
          c ≠ '\x7b') :=
  templates_render wordClass_ascii (fun _ => some "Jane") (by decide)

end FinylDcp
