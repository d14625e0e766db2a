/-
What string literals stand for.

A literal is read from left to right, and a state says how far into an escape the
reading is.  The quoted form of a text is a literal that stands for this text.
-/
import Mathlib.Data.Nat.Digits.Defs
import TypedGraph.Text.Quoted

namespace TypedGraph
namespace Text

/-- How far into an escape a literal is read. -/
inductive LiteralState
  | plain
  /-- After a backslash. -/
  | escaped
  /-- Before the first digit of a byte. -/
  | high
  /-- Before the second digit of a byte. -/
  | low (value : Nat)
  /-- Before the brace of a code point. -/
  | opening
  /-- After some digits of a code point. -/
  | codePoint (digits value : Nat)
deriving DecidableEq, Repr

def hexDigit? (c : Char) : Option Nat :=
  if '0' ≤ c ∧ c ≤ '9' then some (c.toNat - '0'.toNat)
  else if 'a' ≤ c ∧ c ≤ 'f' then some (c.toNat - 'a'.toNat + 10)
  else if 'A' ≤ c ∧ c ≤ 'F' then some (c.toNat - 'A'.toNat + 10)
  else none

/-- The escapes of one letter. -/
def letterEscapes : List (Char × Char) :=
  [('0', '\x00'), ('t', '\t'), ('r', '\r'), ('n', '\n'), ('"', '"'), ('\\', '\\'), ('\x27', '\x27')]

/-- The state after a character, with the character that it completes. -/
def LiteralState.step : LiteralState → Char → Option (LiteralState × List Char)
  | .plain, c =>
    if c = '\\' then some (.escaped, [])
    else if c = '"' ∨ c = '\r' then none
    else some (.plain, [c])
  | .escaped, c =>
    if c = 'x' then some (.high, [])
    else if c = 'u' then some (.opening, [])
    else (letterEscapes.lookup c).map fun made => (.plain, [made])
  | .high, c => (hexDigit? c).bind fun d => if d < 8 then some (.low d, []) else none
  | .low value, c => (hexDigit? c).map fun d => (.plain, [Char.ofNat (16 * value + d)])
  | .opening, c => if c = '\x7b' then some (.codePoint 0 0, []) else none
  | .codePoint digits value, c =>
    if c = '\x7d' then
      if 0 < digits ∧ value.isValidChar then some (.plain, [Char.ofNat value]) else none
    else (hexDigit? c).bind fun d =>
      if digits < 6 then some (.codePoint (digits + 1) (16 * value + d), []) else none

/-- What is read up to the quote that ends a literal, where nothing may follow it. -/
def readLiteral : LiteralState → List Char → Option (List Char)
  | _, [] => none
  | state, c :: rest =>
    if state = .plain ∧ c = '"' then if rest.isEmpty then some [] else none
    else (state.step c).bind fun (next, made) => (readLiteral next rest).map (made ++ ·)

/-- The text that a string literal stands for. -/
def unquote? (literal : String) : Option String :=
  match literal.toList with
  | '"' :: rest => (readLiteral .plain rest).map String.ofList
  | _ => none

/-! ## Steps -/

variable {state next : LiteralState} {c : Char} {rest made : List Char}

theorem readLiteral_step (h : state.step c = some (next, made)) (hopen : state = .plain → c ≠ '"') :
    readLiteral state (c :: rest) = (readLiteral next rest).map (made ++ ·) := by
  rw [readLiteral, if_neg fun hend => hopen hend.1 hend.2, h]
  rfl

/-- A step that completes no character. -/
theorem readLiteral_skip (next : LiteralState) (h : state.step c = some (next, []))
    (hopen : state = .plain → c ≠ '"') :
    readLiteral state (c :: rest) = readLiteral next rest := by
  rw [readLiteral_step h hopen]
  exact Option.map_id'

theorem readLiteral_letter {letter : Char} (hx : letter ≠ 'x') (hu : letter ≠ 'u')
    (h : letterEscapes.lookup letter = some c) :
    readLiteral .plain ('\\' :: letter :: rest) = (readLiteral .plain rest).map (c :: ·) := by
  have hstep : LiteralState.escaped.step letter = some (.plain, [c]) := by
    rw [LiteralState.step, if_neg hx, if_neg hu, h]
    rfl
  rw [readLiteral_skip .escaped rfl (by decide), readLiteral_step hstep (by simp)]
  rfl

/-! ## Code points -/

theorem hexDigit?_digitChar {d : Nat} (h : d < 16) :
    hexDigit? d.digitChar = some d ∧ d.digitChar ≠ '\x7d' := by
  have hall : ∀ d : Fin 16, hexDigit? d.val.digitChar = some d.val ∧ d.val.digitChar ≠ '\x7d' := by
    decide
  exact hall ⟨d, h⟩

theorem readLiteral_digit {digits value d : Nat} (hd : d < 16) (hdigits : digits < 6) :
    readLiteral (.codePoint digits value) (d.digitChar :: rest) =
      readLiteral (.codePoint (digits + 1) (16 * value + d)) rest := by
  obtain ⟨hdigit, hclosing⟩ := hexDigit?_digitChar hd
  refine readLiteral_skip _ ?_ (by simp)
  rw [LiteralState.step, if_neg hclosing, hdigit]
  exact if_pos hdigits

/-- The digits of a number are read as this number. -/
theorem readLiteral_digits (n : Nat) (h : (Nat.toDigits 16 n).length ≤ 6) :
    readLiteral (.codePoint 0 0) (Nat.toDigits 16 n ++ rest) =
      readLiteral (.codePoint (Nat.toDigits 16 n).length n) rest := by
  induction n using Nat.strong_induction_on generalizing rest with
  | _ n ih =>
    rw [Nat.toDigits_eq_if (by decide)] at h ⊢
    split at h
    · next hlt =>
      rw [if_pos hlt, List.singleton_append, readLiteral_digit hlt (by decide)]
      simp
    · next hge =>
      rw [if_neg hge, List.append_assoc, List.singleton_append]
      rw [List.length_append, List.length_singleton] at h ⊢
      rw [ih (n / 16) (by omega) (by omega), readLiteral_digit (by omega) (by omega)]
      rw [Nat.div_add_mod]

theorem length_digits_le (c : Char) : (Nat.toDigits 16 c.toNat).length ≤ 6 := by
  rw [Nat.length_toDigits_le_iff (by decide) (by decide)]
  rcases c.valid with hsmall | hlarge
  · exact Nat.lt_trans hsmall (by decide)
  · exact Nat.lt_trans hlarge.2 (by decide)

theorem readLiteral_codePoint (c : Char) :
    readLiteral .plain ('\\' :: 'u' :: '\x7b' :: (Nat.toDigits 16 c.toNat ++ '\x7d' :: rest)) =
      (readLiteral .plain rest).map (c :: ·) := by
  have hclose : (LiteralState.codePoint (Nat.toDigits 16 c.toNat).length c.toNat).step '\x7d' =
      some (.plain, [c]) := by
    rw [LiteralState.step, if_pos rfl, if_pos ⟨Nat.length_toDigits_pos, c.valid⟩, Char.ofNat_toNat]
  rw [readLiteral_skip .escaped rfl (by decide),
    readLiteral_skip .opening rfl (by simp),
    readLiteral_skip (.codePoint 0 0) rfl (by simp),
    readLiteral_digits _ (length_digits_le c), readLiteral_step hclose (by simp)]
  rfl

/-! ## Quoted texts -/

/-- A character is written as an escape of one letter, as a code point, or as it is. -/
theorem escapeChar_cases (c : Char) :
    (∃ letter, letter ≠ 'x' ∧ letter ≠ 'u' ∧ letterEscapes.lookup letter = some c ∧
      (escapeChar c).toList = ['\\', letter]) ∨
    (escapeChar c).toList = '\\' :: 'u' :: '\x7b' :: (Nat.toDigits 16 c.toNat ++ ['\x7d']) ∨
    (c ≠ '\\' ∧ c ≠ '"' ∧ c ≠ '\r' ∧ (escapeChar c).toList = [c]) := by
  unfold escapeChar
  simp only [beq_iff_eq]
  split_ifs with hnul htab hreturn hnewline hquote hbackslash hhidden
  · exact .inl ⟨'0', by decide, by decide, by rw [hnul]; rfl, by decide⟩
  · exact .inl ⟨'t', by decide, by decide, by rw [htab]; rfl, by decide⟩
  · exact .inl ⟨'r', by decide, by decide, by rw [hreturn]; rfl, by decide⟩
  · exact .inl ⟨'n', by decide, by decide, by rw [hnewline]; rfl, by decide⟩
  · exact .inl ⟨'"', by decide, by decide, by rw [hquote]; rfl, by decide⟩
  · exact .inl ⟨'\\', by decide, by decide, by rw [hbackslash]; rfl, by decide⟩
  · refine .inr (.inl ?_)
    rw [String.toList_append, String.toList_append, hex, String.toList_ofList]
    simp
  · exact .inr (.inr ⟨hbackslash, hquote, hreturn, String.toList_singleton c⟩)

theorem readLiteral_escapeChar (c : Char) (rest : List Char) :
    readLiteral .plain ((escapeChar c).toList ++ rest) =
      (readLiteral .plain rest).map (c :: ·) := by
  rcases escapeChar_cases c with ⟨letter, hx, hu, hlookup, htext⟩ | htext |
    ⟨hbackslash, hquote, hreturn, htext⟩
  · rw [htext]
    exact readLiteral_letter hx hu hlookup
  · rw [htext, List.cons_append, List.cons_append, List.cons_append, List.append_assoc]
    exact readLiteral_codePoint c
  · have hstep : LiteralState.plain.step c = some (.plain, [c]) := by
      rw [LiteralState.step, if_neg hbackslash, if_neg fun h => h.elim hquote hreturn]
    rw [htext]
    exact readLiteral_step hstep fun _ => hquote

/-- A NUL that is spelled out. -/
theorem readLiteral_nul (rest : List Char) :
    readLiteral .plain ("\\x00".toList ++ rest) = (readLiteral .plain rest).map ('\x00' :: ·) := by
  have hclose : (LiteralState.low 0).step '0' = some (.plain, ['\x00']) := rfl
  show readLiteral .plain ('\\' :: 'x' :: '0' :: '0' :: rest) = _
  rw [readLiteral_skip .escaped rfl (by decide),
    readLiteral_skip .high rfl (by simp),
    readLiteral_skip (.low 0) rfl (by simp),
    readLiteral_step hclose (by simp)]
  rfl

theorem readLiteral_escapeChars (cs : List Char) :
    readLiteral .plain ((escapeChars cs).toList ++ ['"']) = some cs := by
  induction cs with
  | nil => rfl
  | cons c rest ih =>
    rw [escapeChars, String.toList_append, List.append_assoc]
    split
    · next hnul =>
      rw [readLiteral_nul, ih]
      rw [Bool.and_eq_true, beq_iff_eq] at hnul
      rw [hnul.1]
      rfl
    · rw [readLiteral_escapeChar, ih]
      rfl

/-- What is quoted is read back. -/
theorem unquote?_quote (text : String) : unquote? (quote text) = some text := by
  have hquote : (quote text).toList = '"' :: ((escapeChars text.toList).toList ++ ['"']) := by
    rw [quote, String.toList_append, String.toList_append]
    rfl
  rw [unquote?, hquote]
  show (readLiteral .plain _).map String.ofList = _
  rw [readLiteral_escapeChars, Option.map_some, String.ofList_toList]

end Text
end TypedGraph
