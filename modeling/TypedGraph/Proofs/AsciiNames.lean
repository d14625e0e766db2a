/-
Names of ASCII letters, digits and underscores.

Such a name is cut into words of such characters, so that its casings are such
names again, and each is the other with all letters turned (`constantCase_eq`).
As a text it holds one token at most, so that an identifier read from it is all of
it (`identifier?_word`).
-/
import TypedGraph.Proofs.Identifiers
import TypedGraph.Text.Words

namespace TypedGraph
namespace Text

def isWordChar (c : Char) : Bool := c.isAlphanum || c == '_'

/-- A name of ASCII letters, digits and underscores. -/
def IsWord (name : String) : Prop := ∀ c ∈ name.toList, isWordChar c = true

instance (name : String) : Decidable (IsWord name) :=
  decidable_of_iff (name.toList.all isWordChar = true) List.all_eq_true

variable {c : Char} {cs : List Char} {name : String}

/-! ## Characters -/

theorem exists_code (h : isWordChar c = true) : ∃ n < 128, c = Char.ofNat n := by
  refine ⟨c.toNat, ?_, (Char.ofNat_toNat c).symm⟩
  have hbelow : ∀ last : Char, last.toNat < 128 → c.val ≤ last.val → c.toNat < 128 :=
    fun last hlast hle => Nat.lt_of_le_of_lt (UInt32.le_iff_toNat_le.mp hle) hlast
  rw [isWordChar, Char.isAlphanum, Bool.or_eq_true, Bool.or_eq_true, beq_iff_eq] at h
  rcases h with (hletter | hdigit) | rfl
  · rcases (Bool.or_eq_true _ _).mp hletter with hupper | hlower
    · exact hbelow 'Z' (by decide) (of_decide_eq_true hupper).2
    · exact hbelow 'z' (by decide) (of_decide_eq_true (Bool.and_eq_true_iff.mp hlower).2)
  · exact hbelow '9' (by decide) (of_decide_eq_true (Bool.and_eq_true_iff.mp hdigit).2)
  · decide

/-- What holds of each character of a name is looked up in a table of 128. -/
theorem of_codes {p : Char → Bool} (hp : ∀ n < 128, isWordChar (Char.ofNat n) = true →
    p (Char.ofNat n) = true) (h : isWordChar c = true) : p c = true := by
  obtain ⟨n, hn, rfl⟩ := exists_code h
  exact hp n hn h

theorem upperChar_of_word (h : isWordChar c = true) : upperChar c = [c.toUpper] := by
  obtain ⟨n, hn, rfl⟩ := exists_code h
  refine if_pos ?_
  have hcode : ∀ n < 128, (Char.ofNat n).toNat < 128 := by decide
  exact hcode n hn

theorem lowerChar_of_word (h : isWordChar c = true) : lowerChar c = [c.toLower] := by
  obtain ⟨n, hn, rfl⟩ := exists_code h
  refine if_pos ?_
  have hcode : ∀ n < 128, (Char.ofNat n).toNat < 128 := by decide
  exact hcode n hn

theorem toUpper_toLower (h : isWordChar c = true) : c.toLower.toUpper = c.toUpper :=
  beq_iff_eq.mp (of_codes (p := fun c => c.toLower.toUpper == c.toUpper) (by decide) h)

theorem isWordChar_toLower (h : isWordChar c = true) : isWordChar c.toLower = true :=
  of_codes (p := fun c => isWordChar c.toLower) (by decide) h

theorem isWordChar_toUpper (h : isWordChar c = true) : isWordChar c.toUpper = true :=
  of_codes (p := fun c => isWordChar c.toUpper) (by decide) h

theorem isIdentContinue_of_word (h : isWordChar c = true) : isIdentContinue c = true :=
  of_codes (by decide) h

/-! ## Casings -/

theorem upper_eq_map (h : ∀ c ∈ cs, isWordChar c = true) : upper cs = cs.map Char.toUpper := by
  induction cs with
  | nil => rfl
  | cons c rest ih =>
    obtain ⟨hc, hrest⟩ := List.forall_mem_cons.mp h
    rw [upper, List.flatMap_cons, ← upper, ih hrest, upperChar_of_word hc]
    rfl

theorem lowerFrom_eq_map (before : List Char) (h : ∀ c ∈ cs, isWordChar c = true) :
    lowerFrom before cs = cs.map Char.toLower := by
  induction cs generalizing before with
  | nil => rfl
  | cons c rest ih =>
    obtain ⟨hc, hrest⟩ := List.forall_mem_cons.mp h
    have hsigma : (c == 'Σ') = false := by
      refine beq_eq_false_iff_ne.mpr fun heq => ?_
      rw [heq] at hc
      exact nomatch hc
    rw [lowerFrom, hsigma, ih _ hrest, lowerChar_of_word hc]
    rfl

theorem mem_of_mem_wordsFrom {current w : List Char} {gs : List (List Char)}
    (hw : w ∈ wordsFrom current gs) (hc : c ∈ w) : c ∈ current ∨ c ∈ gs.flatten := by
  induction gs generalizing current with
  | nil =>
    rw [List.mem_singleton.mp hw] at hc
    exact .inl hc
  | cons g rest ih =>
    -- What is left to read may only have lost `g`, or moved it to the word at hand.
    have hstep : ∀ {next}, (∀ x ∈ next, x ∈ current ∨ x ∈ g) → w ∈ wordsFrom next rest →
        c ∈ current ∨ c ∈ (g :: rest).flatten := by
      intro next hnext hw
      rw [List.flatten_cons, List.mem_append, ← or_assoc]
      rcases ih hw with hmem | hmem
      · exact .inl (hnext c hmem)
      · exact .inr hmem
    have hmoved : ∀ x ∈ current ++ g, x ∈ current ∨ x ∈ g := fun x hx => List.mem_append.mp hx
    have hnone : ∀ x ∈ ([] : List Char), x ∈ current ∨ x ∈ g := fun x hx =>
      absurd hx List.not_mem_nil
    simp only [wordsFrom] at hw
    split at hw
    · rcases List.mem_cons.mp hw with rfl | hw
      · exact .inl hc
      · exact hstep hnone hw
    · split at hw
      · rcases List.mem_cons.mp hw with rfl | hw
        · rw [List.flatten_cons, List.mem_append, ← or_assoc]
          exact .inl (hmoved c hc)
        · exact hstep hnone hw
      · exact hstep hmoved hw

/-- The words of a name have its characters. -/
theorem mem_of_mem_words {w : List Char} (hw : w ∈ words name) (hc : c ∈ w) :
    c ∈ name.toList := by
  unfold words at hw
  split at hw
  · exact absurd hw List.not_mem_nil
  · rw [← flatten_clusters name.toList]
    exact (mem_of_mem_wordsFrom hw hc).resolve_left List.not_mem_nil

theorem toList_joinWords (ws : List (List Char)) :
    (joinWords "_" ws).toList = List.intercalate ['_'] ws := by
  rw [joinWords, String.toList_intercalate, List.map_map]
  have hid : String.toList ∘ String.ofList = id := funext fun _ => String.toList_ofList
  rw [hid, List.map_id]
  rfl

theorem mem_intercalate {sep : List Char} {ws : List (List Char)}
    (h : c ∈ List.intercalate sep ws) : c ∈ sep ∨ ∃ w ∈ ws, c ∈ w := by
  induction ws with
  | nil => exact absurd h List.not_mem_nil
  | cons w rest ih =>
    cases rest with
    | nil =>
      rw [List.intercalate_singleton] at h
      exact .inr ⟨w, List.mem_cons_self, h⟩
    | cons w' rest =>
      rw [List.intercalate_cons_cons, List.append_assoc, List.mem_append, List.mem_append] at h
      rcases h with h | h | h
      · exact .inr ⟨w, List.mem_cons_self, h⟩
      · exact .inl h
      · rcases ih h with h | ⟨v, hv, h⟩
        · exact .inl h
        · exact .inr ⟨v, List.mem_cons_of_mem w hv, h⟩

theorem snakeCase_toList (h : IsWord name) : (snakeCase name).toList =
    List.intercalate ['_'] ((words name).map (List.map Char.toLower)) := by
  rw [snakeCase, toList_joinWords]
  refine congrArg _ (List.map_congr_left fun w hw => ?_)
  exact lowerFrom_eq_map [] fun c hc => h c (mem_of_mem_words hw hc)

theorem constantCase_toList (h : IsWord name) : (constantCase name).toList =
    List.intercalate ['_'] ((words name).map (List.map Char.toUpper)) := by
  rw [constantCase, toList_joinWords]
  refine congrArg _ (List.map_congr_left fun w hw => ?_)
  exact upper_eq_map fun c hc => h c (mem_of_mem_words hw hc)

theorem map_intercalate (f : Char → Char) (sep : List Char) (ws : List (List Char)) :
    (List.intercalate sep ws).map f = List.intercalate (sep.map f) (ws.map (List.map f)) := by
  induction ws with
  | nil => rfl
  | cons w rest ih =>
    cases rest with
    | nil => simp
    | cons w' rest =>
      simp only [List.map_cons] at ih ⊢
      rw [List.intercalate_cons_cons, List.intercalate_cons_cons, List.map_append, List.map_append,
        ih]

/-- The constant form of a name is its snake form in capitals. -/
theorem constantCase_eq (h : IsWord name) :
    constantCase name = String.ofList ((snakeCase name).toList.map Char.toUpper) := by
  rw [← String.toList_inj, String.toList_ofList, constantCase_toList h, snakeCase_toList h,
    map_intercalate, List.map_map]
  refine congrArg _ (List.map_congr_left fun w hw => ?_)
  rw [Function.comp_apply, List.map_map]
  exact (List.map_congr_left fun c hc => toUpper_toLower (h c (mem_of_mem_words hw hc))).symm

theorem isWord_snakeCase (h : IsWord name) : IsWord (snakeCase name) := by
  intro c hc
  rw [snakeCase_toList h] at hc
  rcases mem_intercalate hc with hc | ⟨w, hw, hc⟩
  · rw [List.mem_singleton.mp hc]
    rfl
  · obtain ⟨v, hv, rfl⟩ := List.mem_map.mp hw
    obtain ⟨d, hd, rfl⟩ := List.mem_map.mp hc
    exact isWordChar_toLower (h d (mem_of_mem_words hv hd))

theorem isWord_constantCase (h : IsWord name) : IsWord (constantCase name) := by
  intro c hc
  rw [constantCase_eq h, String.toList_ofList] at hc
  obtain ⟨d, hd, rfl⟩ := List.mem_map.mp hc
  exact isWordChar_toUpper (isWord_snakeCase h d hd)

theorem isWord_append {front back : String} (hfront : IsWord front) (hback : IsWord back) :
    IsWord (front ++ back) := by
  intro c hc
  rw [String.toList_append, List.mem_append] at hc
  exact hc.elim (hfront c) (hback c)

end Text

/-! ## Identifiers -/

namespace Code

open Text (IsWord isWordChar)

namespace Scan

variable {cs rest : List Char} {c : Char} {name : String} {steps : Nat} {opened : List Char}

/-- No blank, comment or delimiter starts with a character of a name. -/
theorem word_starts (h : isWordChar c = true) (t : List Char) :
    blank (c :: t) = none ∧ docComment (c :: t) = none ∧ closer? c = none ∧
      (c == ')' || c == ']' || c == '\x7d') = false := by
  obtain ⟨n, hn, rfl⟩ := Text.exists_code h
  interval_cases n <;> first | exact ⟨rfl, rfl, rfl, rfl⟩ | exact absurd h (by decide)

/-- A character of a name starts a token other than a delimiter. -/
theorem all_cons_word {ts : List Token} (hc : isWordChar c = true)
    (h : all steps opened (c :: rest) = some ts) :
    ∃ left token back tail, leaf (c :: rest) = some (token, back) ∧
      all left opened back = some tail ∧ ts = token :: tail := by
  obtain ⟨hblank, hdoc, hopen, hclose⟩ := word_starts hc rest
  cases steps with
  | zero => cases h
  | succ steps =>
    simp only [all, hblank, hdoc, hopen, hclose, Bool.false_eq_true, if_false] at h
    cases hleaf : leaf (c :: rest) with
    | none =>
      rw [hleaf] at h
      cases h
    | some found =>
      rw [hleaf] at h
      obtain ⟨tail, htail, heq⟩ := Option.map_eq_some_iff.mp h
      exact ⟨steps, found.1, found.2, tail, rfl, htail, heq.symm⟩

/-- Tokens are left as long as characters of names are. -/
theorem all_eq_nil (hcs : ∀ c ∈ cs, isWordChar c = true) (h : all steps opened cs = some []) :
    cs = [] := by
  cases cs with
  | nil => rfl
  | cons c rest =>
    obtain ⟨_, _, _, _, -, -, hempty⟩ := all_cons_word (hcs c List.mem_cons_self) h
    exact absurd hempty.symm (List.cons_ne_nil _ _)

theorem all_single_word (hcs : ∀ c ∈ cs, isWordChar c = true)
    (h : all steps opened cs = some [.ident name]) : name.toList = cs := by
  cases cs with
  | nil =>
    cases steps with
    | zero => cases h
    | succ steps =>
      simp only [all] at h
      split at h
      · cases h
      · cases h
  | cons c tail =>
    obtain ⟨left, token, rest, ts, hleaf, hts, heq⟩ := all_cons_word (hcs c List.mem_cons_self) h
    obtain ⟨rfl, rfl⟩ := List.cons.inj heq
    obtain ⟨hcut, -, -⟩ := leaf_ident hleaf
    have hrest : rest = [] := by
      refine all_eq_nil (fun x hx => hcs x ?_) hts
      rw [hcut]
      exact List.mem_append_right _ hx
    rw [hcut, hrest, List.append_nil]

end Scan

variable {text name : String}

/-- An identifier takes all of a text without any but characters of names. -/
theorem identifier?_word (htext : IsWord text) (h : identifier? text = some name) :
    name = text := by
  have htokens := identifier?_tokens h
  unfold tokens at htokens
  rw [← String.toList_inj]
  split at htokens
  · rename_i rest hlist
    have hmark := htext '\ufeff' (by rw [hlist]; exact List.mem_cons_self)
    exact nomatch hmark
  · exact Scan.all_single_word htext htokens

theorem spelled_word (h : IsWord text) : spelled text = text := by
  rw [spelled, List.takeWhile_eq_self_iff.mpr fun c hc => Text.isIdentContinue_of_word (h c hc),
    String.ofList_toList]

end Code
end TypedGraph
