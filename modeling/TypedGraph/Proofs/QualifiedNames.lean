/-
Qualified names and their texts.

A text is cut at its last dot, if it has one, so that it is a simple name or a
package, a dot and a simple name, in exactly one way (`parse_simple`,
`parse_dotted`, `simple_or_dotted`).  Putting the dot back gives the text again,
but for the one case that has no package to put it after: a dot in front of a
simple name is dropped.
-/
import TypedGraph.Schema.Name

namespace TypedGraph
namespace Schema

/-! ## The last separator -/

section
variable {sep : Char} {before after : List Char}

theorem splitLast_of_not_mem {cs : List Char} (h : sep ∉ cs) : splitLast sep cs = none := by
  induction cs with
  | nil => rfl
  | cons c rest ih =>
    rw [List.mem_cons, not_or] at h
    rw [splitLast, ih h.2]
    exact if_neg (Ne.symm h.1)

theorem splitLast_append (before : List Char) (h : sep ∉ after) :
    splitLast sep (before ++ sep :: after) = some (before, after) := by
  induction before with
  | nil =>
    rw [List.nil_append, splitLast, splitLast_of_not_mem h]
    exact if_pos rfl
  | cons c before ih => rw [List.cons_append, splitLast, ih]

/-- A separator that occurs occurs for a last time. -/
theorem exists_last_of_mem {cs : List Char} (h : sep ∈ cs) :
    ∃ before after, cs = before ++ sep :: after ∧ sep ∉ after := by
  induction cs with
  | nil => exact absurd h List.not_mem_nil
  | cons c rest ih =>
    by_cases hrest : sep ∈ rest
    · obtain ⟨before, after, rfl, hafter⟩ := ih hrest
      exact ⟨c :: before, after, rfl, hafter⟩
    · obtain rfl := (List.mem_cons.mp h).resolve_right hrest
      exact ⟨[], rest, rfl, hrest⟩

end

namespace QualifiedName

variable {text name : String} {q : QualifiedName}

/-- A name without a package around it. -/
def IsSimple (name : String) : Prop := '.' ∉ name.toList

instance (name : String) : Decidable (IsSimple name) :=
  inferInstanceAs (Decidable ('.' ∉ name.toList))

/-- A text has one of the two forms. -/
theorem simple_or_dotted (text : String) :
    IsSimple text ∨ ∃ package name, IsSimple name ∧ text = package ++ "." ++ name := by
  by_cases h : '.' ∈ text.toList
  · obtain ⟨before, after, hcut, hafter⟩ := exists_last_of_mem h
    refine .inr ⟨String.ofList before, String.ofList after, ?_, ?_⟩
    · rw [IsSimple, String.toList_ofList]
      exact hafter
    · rw [← String.toList_inj, hcut]
      simp
  · exact .inl h

theorem parse_simple (h : IsSimple name) :
    parse name = if name = "" then .error (.emptyName name) else .ok (of none name) := by
  simp only [parse, splitLast_of_not_mem h, String.isEmpty_iff]

theorem parse_dotted (package : String) (h : IsSimple name) :
    parse (package ++ "." ++ name) =
      if name = "" then .error (.emptyName (package ++ "." ++ name))
      else .ok (of (some package) name) := by
  have hcut : splitLast '.' (package ++ "." ++ name).toList =
      some (package.toList, name.toList) := by
    rw [String.toList_append, String.toList_append, List.append_assoc]
    exact splitLast_append package.toList h
  simp only [parse, hcut, String.ofList_toList, String.isEmpty_iff]

/-! ## Texts that are refused -/

theorem isSimple_append {front : String} (h : IsSimple (front ++ name)) : IsSimple name := by
  rw [IsSimple, String.toList_append, List.mem_append, not_or] at h
  exact h.2

theorem not_isSimple_dot (front : String) : ¬IsSimple (front ++ ".") := fun h =>
  absurd (isSimple_append h) (by decide)

theorem append_ne_dot {front : String} (package : String) (h : IsSimple name) (hne : name ≠ "") :
    package ++ name ≠ front ++ "." := by
  intro heq
  have hlast : name.toList.getLast? = some '.' := by
    have hall := congrArg (fun s : String => s.toList.getLast?) heq
    simpa [List.getLast?_append, hne] using hall
  exact h (List.mem_of_getLast? hlast)

theorem parse_eq_error {e : SchemaError} : parse text = .error e ↔
    e = .emptyName text ∧ (text = "" ∨ ∃ front, text = front ++ ".") := by
  rcases simple_or_dotted text with h | ⟨package, name, h, rfl⟩
  · rw [parse_simple h]
    by_cases hempty : text = ""
    · rw [if_pos hempty]
      exact ⟨fun he => ⟨(Except.error.inj he).symm, .inl hempty⟩, fun he => he.1 ▸ rfl⟩
    · have hdot : ¬∃ front, text = front ++ "." := by
        rintro ⟨front, rfl⟩
        exact not_isSimple_dot front h
      rw [if_neg hempty]
      exact ⟨nofun, fun he => absurd he.2 (not_or.mpr ⟨hempty, hdot⟩)⟩
  · rw [parse_dotted package h]
    by_cases hempty : name = ""
    · have hdot : package ++ "." ++ name = package ++ "." := by
        rw [hempty, String.append_empty]
      rw [if_pos hempty]
      exact ⟨fun he => ⟨(Except.error.inj he).symm, .inr ⟨package, hdot⟩⟩, fun he => he.1 ▸ rfl⟩
    · have hdot : ¬∃ front, package ++ "." ++ name = front ++ "." := by
        rintro ⟨front, hfront⟩
        exact append_ne_dot (package ++ ".") h hempty hfront
      have hne : package ++ "." ++ name ≠ "" := by simp
      rw [if_neg hempty]
      exact ⟨nofun, fun he => absurd he.2 (not_or.mpr ⟨hne, hdot⟩)⟩

/-! ## Texts that are names -/

/-- A name that is parsed is what stands behind the last dot of its text. -/
theorem parse_eq_ok : parse text = .ok q ↔ IsSimple q.name ∧ q.name ≠ "" ∧
    (text = q.name ∧ q = of none q.name ∨
      ∃ package, text = package ++ "." ++ q.name ∧ q = of (some package) q.name) := by
  constructor
  · intro hparse
    rcases simple_or_dotted text with h | ⟨package, name, h, rfl⟩
    · rw [parse_simple h] at hparse
      split at hparse
      · exact nomatch hparse
      · next hne =>
        obtain rfl := Except.ok.inj hparse
        exact ⟨h, hne, .inl ⟨rfl, rfl⟩⟩
    · rw [parse_dotted package h] at hparse
      split at hparse
      · exact nomatch hparse
      · next hne =>
        obtain rfl := Except.ok.inj hparse
        exact ⟨h, hne, .inr ⟨package, rfl, rfl⟩⟩
  · rintro ⟨h, hne, ⟨rfl, hq⟩ | ⟨package, rfl, hq⟩⟩
    · rw [parse_simple h, if_neg hne, ← hq]
    · rw [parse_dotted package h, if_neg hne, ← hq]

/-- No package is the empty text. -/
theorem package_of_ne (package : Option String) (name : String) :
    (of package name).package ≠ some "" := by
  intro h
  obtain ⟨-, hne⟩ := Option.filter_eq_some_iff.mp h
  exact nomatch hne

theorem fqn_of_none (name : String) : (of none name).fqn = name := rfl

theorem fqn_of_empty (name : String) : (of (some "") name).fqn = name := rfl

theorem fqn_of_some {package : String} (h : package ≠ "") (name : String) :
    (of (some package) name).fqn = package ++ "." ++ name := by
  have hfilter : (some package).filter (!·.isEmpty) = some package := by simp [h]
  simp only [fqn, of, hfilter]

/-- The text of a name reads as that name. -/
theorem parse_fqn_of (package : Option String) (h : IsSimple name) (hne : name ≠ "") :
    parse (of package name).fqn = .ok (of package name) := by
  cases package with
  | none => rw [fqn_of_none, parse_simple h, if_neg hne]
  | some package =>
    by_cases hempty : package = ""
    · subst hempty
      rw [fqn_of_empty, parse_simple h, if_neg hne]
      rfl
    · rw [fqn_of_some hempty, parse_dotted package h, if_neg hne]

theorem parse_fqn (h : parse text = .ok q) : parse q.fqn = .ok q := by
  obtain ⟨hsimple, hne, ⟨-, hq⟩ | ⟨package, -, hq⟩⟩ := parse_eq_ok.mp h
  · rw [hq]
    exact parse_fqn_of none hsimple hne
  · rw [hq]
    exact parse_fqn_of (some package) hsimple hne

/-- The text comes back, unless a dot stood alone in front of its name. -/
theorem fqn_eq (h : parse text = .ok q) : q.fqn = if text = "." ++ q.name then q.name else text := by
  obtain ⟨hsimple, hne, ⟨rfl, hq⟩ | ⟨package, rfl, hq⟩⟩ := parse_eq_ok.mp h
  · have hdot : q.name ≠ "." ++ q.name := by
      intro heq
      have := congrArg String.length heq
      simp at this
    rw [if_neg hdot, hq, fqn_of_none]
    rfl
  · have hfront : package ++ "." ++ q.name = "." ++ q.name ↔ package = "" := by
      rw [String.append_left_inj]
      simp
    by_cases hempty : package = ""
    · rw [if_pos (hfront.mpr hempty), hq, hempty, fqn_of_empty]
      rfl
    · rw [if_neg fun heq => hempty (hfront.mp heq), hq, fqn_of_some hempty]
      rfl

/-- A text is no name just when it is empty or ends with a dot.  Of any other the
name has a simple last part and no empty package.  Its own text is the one it was
parsed from, less a dot that stood alone in front of a simple name, and reads as
the same name again, so that names with one text are one name.  Every simple name
can be read back behind every package. -/
theorem parsed_names_round_trip (text : String) :
    (∀ e, parse text = .error e ↔
      e = .emptyName text ∧ (text = "" ∨ ∃ front, text = front ++ ".")) ∧
    (∀ q, parse text = .ok q →
      q.name ≠ "" ∧ '.' ∉ q.name.toList ∧ q.package ≠ some "" ∧
      (∀ name : String, '.' ∉ name.toList → text = "." ++ name → q.fqn = name) ∧
      ((∀ name : String, '.' ∉ name.toList → text ≠ "." ++ name) → q.fqn = text) ∧
      parse q.fqn = .ok q ∧
      ∀ other r, parse other = .ok r → r.fqn = q.fqn → r = q) ∧
    (∀ (package : Option String) (name : String), name ≠ "" → '.' ∉ name.toList →
      parse (of package name).fqn = .ok (of package name)) := by
  refine ⟨fun e => parse_eq_error, fun q h => ?_, fun package name hne hsimple =>
    parse_fqn_of package hsimple hne⟩
  obtain ⟨hsimple, hne, hform⟩ := parse_eq_ok.mp h
  have hpackage : q.package ≠ some "" := by
    rcases hform with ⟨-, hq⟩ | ⟨package, -, hq⟩
    · rw [hq]
      exact package_of_ne none q.name
    · rw [hq]
      exact package_of_ne (some package) q.name
  refine ⟨hne, hsimple, hpackage, fun name hname htext => ?_, fun hother => ?_, parse_fqn h,
    fun other r hr heq => ?_⟩
  · have hcut := parse_dotted "" hname
    rw [String.empty_append, ← htext, h] at hcut
    split at hcut
    · exact nomatch hcut
    · rw [Except.ok.inj hcut, fqn_of_empty]
  · rw [fqn_eq h, if_neg (hother q.name hsimple)]
  · have hr' := parse_fqn hr
    rw [heq, parse_fqn h] at hr'
    exact (Except.ok.inj hr').symm

/-- One dot in front of a name is dropped, a second one is kept as its package. -/
theorem leading_dots_read :
    ∃ q r, parse ".Person" = .ok q ∧ q.fqn = "Person" ∧ parse "Person" = .ok q ∧
      parse "..Person" = .ok r ∧ r.fqn = "..Person" := by
  have hq : parse ".Person" = .ok ⟨none, "Person"⟩ := by rfl
  have hr : parse "..Person" = .ok ⟨some ".", "Person"⟩ := by rfl
  obtain ⟨-, -, -, hdropped, -, hback, -⟩ := (parsed_names_round_trip ".Person").2.1 _ hq
  obtain ⟨-, -, -, -, hkept, -⟩ := (parsed_names_round_trip "..Person").2.1 _ hr
  have hfqn := hdropped "Person" (by decide) (by decide)
  rw [hfqn] at hback
  refine ⟨_, _, hq, hfqn, hback, hr, hkept fun name hname heq => hname ?_⟩
  have hrest : "..Person".toList = '.' :: name.toList := by
    rw [heq, String.toList_append]
    rfl
  rw [← (List.cons.inj hrest).2]
  decide

end QualifiedName
end Schema
end TypedGraph
