/-
What identifiers are read from texts.

Blanks and comments around an identifier are dropped, so a text need not be the
identifier that it holds.  Two things are still known of it: it is a part of the
text, of certain characters (`identifier?_ok`), and, for a text that starts with
a verb, it keeps the verb and goes on for as long as identifier characters follow
(`identifier?_verb`).
-/
import Mathlib.Data.List.TakeWhile
import Mathlib.Tactic.IntervalCases
import TypedGraph.Code.Ident

namespace TypedGraph

theorem Text.isIdentContinue_of_start {c : Char} (h : Text.isIdentStart c = true) :
    Text.isIdentContinue c = true := by
  rw [isIdentStart, Bool.or_eq_true] at h
  rw [isIdentContinue, isXidContinue]
  rcases h with h | h
  · rw [beq_iff_eq.mp h]
    rfl
  · rw [isXidStart] at h
    by_cases hc : c.toNat < 128
    · rw [if_pos hc] at h ⊢
      rw [Char.isAlphanum, h]
      rfl
    · rw [if_neg hc] at h ⊢
      rw [h]
      rfl

namespace Code
namespace Scan

variable {cs rest t : List Char} {c d e : Char} {name : String}

theorem between_append (front rest : List Char) : between (front ++ rest) rest = front := by
  simp [between]

theorem between_dropWhile (p : Char → Bool) (cs : List Char) :
    between cs (cs.dropWhile p) = cs.takeWhile p := by
  have h := between_append (cs.takeWhile p) (cs.dropWhile p)
  rw [List.takeWhile_append_dropWhile] at h
  exact h

/-! ## Words

Three small letters start no literal, comment or raw identifier. -/

theorem raw_word (hc : c.isLower = true) (encoding : Encoding) : raw encoding (c :: t) = none := by
  have hmark : (c == '#') = false := by
    refine beq_eq_false_iff_ne.mpr fun heq => ?_
    rw [heq] at hc
    exact nomatch hc
  simp only [raw, List.takeWhile_cons, hmark]
  split
  · rename_i heq
    have hquote : c = '"' := (List.cons.inj heq).1
    rw [hquote] at hc
    exact nomatch hc
  · rfl

theorem quoted_word (hc : c.isLower = true) (hd : d.isLower = true) (he : e.isLower = true) :
    quoted (c :: d :: e :: t) = none := by
  unfold quoted
  split
  · rename_i h
    cases h
    exact nomatch hc
  · rename_i h
    cases h
    exact raw_word hd .text
  · rename_i h
    cases h
    exact nomatch hd
  · rename_i h
    cases h
    exact raw_word he .bytes
  · rename_i h
    cases h
    exact nomatch hd
  · rename_i h
    cases h
    exact raw_word he .zeroEnded
  · rename_i h
    cases h
    exact nomatch hd
  · rename_i h
    cases h
    exact nomatch hc
  · rfl

theorem eq_letter (hc : c.isLower = true) : ∃ n < 26, c = Char.ofNat (97 + n) := by
  have hrange : 97 ≤ c.toNat ∧ c.toNat ≤ 122 := by
    have hletters : (decide ('a'.val ≤ c.val) && decide (c.val ≤ 'z'.val)) = true := hc
    simpa [UInt32.le_iff_toNat_le, ← Char.toNat_val] using hletters
  refine ⟨c.toNat - 97, by omega, ?_⟩
  rw [Nat.add_sub_cancel' hrange.1, Char.ofNat_toNat]

/-- A letter starts neither a blank nor a token other than a word or a literal. -/
theorem letter_starts (hc : c.isLower = true) :
    blank (c :: t) = none ∧ docComment (c :: t) = none ∧ closer? c = none ∧
      (c == ')' || c == ']' || c == '\x7d') = false ∧ number (c :: t) = none ∧
      punct (c :: t) = none ∧ Text.isIdentStart c = true := by
  obtain ⟨n, hn, rfl⟩ := eq_letter hc
  interval_cases n <;> exact ⟨rfl, rfl, rfl, rfl, rfl, rfl, rfl⟩

theorem not_literalStart (hd : d.isLower = true) (he : e.isLower = true) :
    literalStarts.any (startsWith · (c :: d :: e :: t)) = false := by
  have hmarks : ∀ x : Char, x.isLower = true → '"' ≠ x ∧ '#' ≠ x ∧ '\'' ≠ x := by
    intro x hx
    refine ⟨?_, ?_, ?_⟩
    all_goals
      intro heq
      rw [← heq] at hx
      exact nomatch hx
  simp [literalStarts, startsWith, List.isPrefixOf, hmarks d hd, hmarks e he]

theorem anyIdentifier_word (hc : c.isLower = true) (hd : d.isLower = true) :
    anyIdentifier (c :: d :: t) = some ((c :: d :: t).dropWhile Text.isIdentContinue) := by
  have hstart : Text.isIdentStart c = true := (letter_starts (t := t) hc).2.2.2.2.2.2
  have hraw : startsWith "r#" (c :: d :: t) = false := by
    have hmark : '#' ≠ d := by
      intro heq
      rw [← heq] at hd
      exact nomatch hd
    simp [startsWith, List.isPrefixOf, hmark]
  rw [anyIdentifier, hraw, identifier]
  simp [hstart, Text.isIdentContinue_of_start hstart]

theorem leaf_word (hc : c.isLower = true) (hd : d.isLower = true) (he : e.isLower = true) :
    leaf (c :: d :: e :: t) =
      some (.ident (String.ofList ((c :: d :: e :: t).takeWhile Text.isIdentContinue)),
        (c :: d :: e :: t).dropWhile Text.isIdentContinue) := by
  obtain ⟨-, -, -, -, hnumber, hpunct, -⟩ := letter_starts (t := d :: e :: t) hc
  simp only [leaf, quoted_word hc hd he, hnumber, hpunct, not_literalStart hd he,
    anyIdentifier_word hc hd, between_dropWhile, Option.orElse, Option.map_some]
  rfl

/-- The scanner takes a word as far as identifier characters go. -/
theorem all_word (hc : c.isLower = true) (hd : d.isLower = true) (he : e.isLower = true)
    (steps : Nat) (opened : List Char) :
    all (steps + 1) opened (c :: d :: e :: t) =
      (all steps opened ((c :: d :: e :: t).dropWhile Text.isIdentContinue)).map
        (.ident (String.ofList ((c :: d :: e :: t).takeWhile Text.isIdentContinue)) :: ·) := by
  obtain ⟨hblank, hdoc, hopen, hclose, -, -, -⟩ := letter_starts (t := d :: e :: t) hc
  simp only [all, hblank, hdoc, hopen, hclose, leaf_word hc hd he]
  rfl

/-! ## Single identifiers -/

theorem identifier_ok (h : identifier cs = some rest) :
    ∃ front, cs = front ++ rest ∧ front ≠ [] ∧ ∀ x ∈ front, Text.isIdentContinue x = true := by
  cases cs with
  | nil => exact nomatch h
  | cons x tail =>
    simp only [identifier] at h
    split at h
    · rename_i hx
      refine ⟨x :: tail.takeWhile Text.isIdentContinue, ?_, List.cons_ne_nil _ _, ?_⟩
      · rw [← Option.some.inj h, List.cons_append, List.takeWhile_append_dropWhile]
      · intro y hy
        rcases List.mem_cons.mp hy with rfl | hy
        · exact Text.isIdentContinue_of_start hx
        · exact List.mem_takeWhile_imp hy
    · exact nomatch h

/-- The mark of a raw identifier is the one character that others do not have. -/
theorem anyIdentifier_ok (h : anyIdentifier cs = some rest) :
    ∃ front, cs = front ++ rest ∧ front ≠ [] ∧
      ∀ x ∈ front, x = '#' ∨ Text.isIdentContinue x = true := by
  unfold anyIdentifier at h
  split at h
  · rename_i hraw
    obtain ⟨tail, rfl⟩ : "r#".toList <+: cs := List.isPrefixOf_iff_prefix.mp hraw
    obtain ⟨rest', hrest', h⟩ := Option.bind_eq_some_iff.mp h
    split at h
    · exact nomatch h
    · obtain ⟨front, hfront, -, hall⟩ := identifier_ok hrest'
      rw [Option.some.inj h] at hfront
      refine ⟨'r' :: '#' :: front, ?_, List.cons_ne_nil _ _, ?_⟩
      · have htail : tail = front ++ rest := hfront
        rw [htail]
        rfl
      · intro x hx
        rcases List.mem_cons.mp hx with rfl | hx
        · exact .inr rfl
        · rcases List.mem_cons.mp hx with rfl | hx
          · exact .inl rfl
          · exact .inr (hall x hx)
  · obtain ⟨front, hfront, hne, hall⟩ := identifier_ok h
    exact ⟨front, hfront, hne, fun x hx => .inr (hall x hx)⟩

theorem punct_ok {token : Token} (h : punct cs = some (token, rest)) :
    ∃ x joint, token = .punct x joint := by
  unfold punct at h
  split at h
  · exact nomatch h
  · split at h
    · split at h
      · exact ⟨_, _, (Prod.mk.inj (Option.some.inj h)).1.symm⟩
      · exact nomatch h
    · exact ⟨_, _, (Prod.mk.inj (Option.some.inj h)).1.symm⟩
    · exact nomatch h

theorem leaf_ident (h : leaf cs = some (.ident name, rest)) :
    cs = name.toList ++ rest ∧ name ≠ "" ∧
      ∀ x ∈ name.toList, x = '#' ∨ Text.isIdentContinue x = true := by
  unfold leaf at h
  split at h
  · exact nomatch h
  · split at h
    · rename_i found hfound
      rw [Option.some.inj h] at hfound
      obtain ⟨x, joint, htoken⟩ := punct_ok hfound
      exact nomatch htoken
    · split at h
      · exact nomatch h
      · obtain ⟨rest', hrest', h⟩ := Option.map_eq_some_iff.mp h
        obtain ⟨front, hfront, hne, hall⟩ := anyIdentifier_ok hrest'
        obtain ⟨htoken, hrest⟩ := Prod.mk.inj h
        have hname : name = String.ofList front := by
          rw [hfront, between_append] at htoken
          exact (Token.ident.inj htoken).symm
        rw [hname, String.toList_ofList, ← hrest]
        exact ⟨hfront, fun hempty => hne (String.ofList_eq_empty_iff.mp hempty), hall⟩

/-! ## What is dropped before an identifier -/

theorem lineEnd_suffix (cs : List Char) : lineEnd cs <:+ cs := by
  fun_induction lineEnd cs with
  | case1 => exact List.suffix_refl _
  | case2 rest => exact List.suffix_refl _
  | case3 => exact List.suffix_refl _
  | case4 c rest _ _ ih => exact ih.trans (List.suffix_cons c rest)

theorem blockComment_suffix {depth : Nat} (h : blockComment depth cs = some rest) :
    rest <:+ cs := by
  fun_induction blockComment depth cs with
  | case1 depth tail ih => exact (ih h).trans (List.suffix_append ['/', '*'] tail)
  | case2 depth tail hdepth =>
    rw [Option.some.inj h]
    exact List.suffix_append ['*', '/'] rest
  | case3 depth tail hdepth ih => exact (ih h).trans (List.suffix_append ['*', '/'] tail)
  | case4 depth c tail _ _ ih => exact (ih h).trans (List.suffix_cons c tail)
  | case5 => exact nomatch h

theorem blank_suffix (h : blank cs = some rest) : rest <:+ cs := by
  unfold blank at h
  split at h
  · rw [← Option.some.inj h]
    exact lineEnd_suffix cs
  · split at h
    · rw [← Option.some.inj h]
      exact List.drop_suffix 4 cs
    · split at h
      · exact blockComment_suffix h
      · split at h
        · split at h
          · rw [Option.some.inj h]
            exact List.suffix_cons _ _
          · exact nomatch h
        · exact nomatch h

/-- A single identifier stands at the end of the text, but for what follows
it. -/
theorem all_single {steps : Nat} {opened : List Char}
    (h : all steps opened cs = some [.ident name]) :
    ∃ cs' rest, cs' <:+ cs ∧ leaf cs' = some (.ident name, rest) := by
  induction steps generalizing opened cs with
  | zero => exact nomatch h
  | succ steps ih =>
    have hfirst : ∀ {t : Token} {opened cs},
        (all steps opened cs).map (t :: ·) = some [.ident name] → t = .ident name := by
      intro t opened cs h
      obtain ⟨ts, -, hts⟩ := Option.map_eq_some_iff.mp h
      exact (List.cons.inj hts).1
    cases cs with
    | nil =>
      simp only [all] at h
      split at h
      · exact nomatch h
      · exact nomatch h
    | cons c tail =>
      simp only [all] at h
      split at h
      · rename_i hblank
        obtain ⟨cs', rest, hsuffix, hleaf⟩ := ih h
        exact ⟨cs', rest, hsuffix.trans (blank_suffix hblank), hleaf⟩
      · split at h
        · exact nomatch hfirst h
        · split at h
          · exact nomatch hfirst h
          · split at h
            · split at h
              · split at h
                · exact nomatch hfirst h
                · exact nomatch h
              · exact nomatch h
            · split at h
              · rename_i hleaf
                rw [hfirst h] at hleaf
                exact ⟨_, _, List.suffix_refl _, hleaf⟩
              · exact nomatch h

end Scan

variable {text verb name : String}

/-- What an identifier that starts before a text takes of it. -/
def spelled (text : String) : String :=
  String.ofList (text.toList.takeWhile Text.isIdentContinue)

/-- A word that starts with three small letters. -/
def isVerb (verb : String) : Bool :=
  match verb.toList with
  | c :: d :: e :: rest => c.isLower && d.isLower && e.isLower && rest.all Text.isIdentContinue
  | _ => false

theorem tokens_of_head {c : Char} {cs : List Char} (htext : text.toList = c :: cs)
    (hmark : c ≠ '\ufeff') : tokens text = Scan.all (cs.length + 2) [] (c :: cs) := by
  rw [tokens, htext]
  split
  · rename_i heq
    exact absurd (List.cons.inj heq).1 hmark
  · rfl

theorem identifier?_tokens (h : identifier? text = some name) : tokens text = some [.ident name] := by
  unfold identifier? at h
  split at h
  · rename_i found htokens
    split at h
    · exact nomatch h
    · rw [htokens, Option.some.inj h]
  · exact nomatch h

/-- An identifier stands in the text that it is read from.  Beside the mark of raw
ones, identifiers have no characters of their own. -/
theorem identifier?_ok (h : identifier? text = some name) :
    name.toList <:+: text.toList ∧ name ≠ "" ∧
      ∀ x ∈ name.toList, x = '#' ∨ Text.isIdentContinue x = true := by
  have htokens := identifier?_tokens h
  unfold tokens at htokens
  obtain ⟨cs, rest, hsuffix, hleaf⟩ := Scan.all_single htokens
  obtain ⟨hcs, hne, hall⟩ := Scan.leaf_ident hleaf
  refine ⟨?_, hne, hall⟩
  have hstart : cs <:+ text.toList := by
    refine hsuffix.trans ?_
    split
    · rename_i tail heq
      rw [heq]
      exact List.suffix_cons _ tail
    · exact List.suffix_refl _
  rw [hcs] at hstart
  exact (List.prefix_append name.toList rest).isInfix.trans hstart.isInfix

/-- An identifier that starts with a verb keeps the verb, and what follows it as
far as identifier characters go. -/
theorem identifier?_verb (hverb : isVerb verb = true) (h : identifier? (verb ++ text) = some name) :
    name = verb ++ spelled text := by
  have htokens := identifier?_tokens h
  unfold isVerb at hverb
  split at hverb
  · rename_i c d e rest hlist
    simp only [Bool.and_eq_true] at hverb
    obtain ⟨⟨⟨hc, hd⟩, he⟩, hrest⟩ := hverb
    have hall : ∀ x ∈ verb.toList, Text.isIdentContinue x = true := by
      have hlower : ∀ x : Char, x.isLower = true → Text.isIdentContinue x = true := fun x hx =>
        Text.isIdentContinue_of_start (Scan.letter_starts (t := []) hx).2.2.2.2.2.2
      rw [hlist]
      simpa [hlower c hc, hlower d hd, hlower e he] using hrest
    have hlist' : (verb ++ text).toList = c :: d :: e :: (rest ++ text.toList) := by
      rw [String.toList_append, hlist]
      rfl
    have hname : name = String.ofList ((verb ++ text).toList.takeWhile Text.isIdentContinue) := by
      have hmark : c ≠ '\ufeff' := by
        intro heq
        rw [heq] at hc
        exact nomatch hc
      rw [tokens_of_head hlist' hmark, Scan.all_word hc hd he, Option.map_eq_some_iff] at htokens
      obtain ⟨ts, -, hts⟩ := htokens
      rw [hlist']
      exact (Token.ident.inj (List.cons.inj hts).1).symm
    rw [hname, String.toList_append, List.takeWhile_append_of_pos hall, String.ofList_append,
      String.ofList_toList]
    rfl
  · exact nomatch hverb

end Code
end TypedGraph
