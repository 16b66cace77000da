import Mathlib.Data.List.Infix
import RubyClasses.Proofs.Text.Parts

/-! # Cuts

A text is cut at a separator by looking for the separator from the left, and going on behind it
until there is none left. This fixes the parts, also where occurrences of the separator overlap.
Module names are cut in this way at double colons and paths at slashes.
-/

namespace RubyClasses.Text

/-- A text is cut into parts at the occurrences of a separator, each of which is the first one in
what is left of the text. -/
inductive IsCut (separator : List Char) : List Char → List (List Char) → Prop
  | last {part : List Char} : ¬ separator <:+: part → IsCut separator part [part]
  | next {part rest : List Char} {parts : List (List Char)} :
      ¬ separator <:+: part ++ separator.dropLast → IsCut separator rest parts →
      IsCut separator (part ++ (separator ++ rest)) (part :: parts)

/-- A string is cut at the occurrences of another one. -/
def CutsAt (separator s : String) (parts : List String) : Prop :=
  IsCut separator.toList s.toList (parts.map String.toList)

variable {separator text : List Char} {parts : List (List Char)}

/-- An occurrence that starts within a text ends within the text and the rest of another one. -/
theorem infix_append_dropLast {front back rest : List Char} (hback : back ≠ [])
    (h : separator <+: back ++ (separator ++ rest)) :
    separator <:+: front ++ back ++ separator.dropLast := by
  have hlength : separator.length ≤ (back ++ separator.dropLast).length := by
    have hpos := List.length_pos_iff.mpr hback
    simp only [List.length_append, List.length_dropLast]
    omega
  have hshort : back ++ separator.dropLast <+: back ++ (separator ++ rest) :=
    (List.prefix_append_right_inj back).mpr
      ((List.dropLast_prefix separator).trans (List.prefix_append separator rest))
  have hwithin := List.prefix_of_prefix_length_le h hshort hlength
  rw [List.append_assoc]
  exact hwithin.isInfix.trans (List.suffix_append front _).isInfix

/-- The first occurrence of a separator is in one place only. -/
theorem first_unique {part other rest others : List Char}
    (heq : part ++ (separator ++ rest) = other ++ (separator ++ others))
    (hpart : ¬ separator <:+: part ++ separator.dropLast)
    (hother : ¬ separator <:+: other ++ separator.dropLast) : part = other ∧ rest = others := by
  rcases List.append_eq_append_iff.mp heq with ⟨back, rfl, hrest⟩ | ⟨back, rfl, hrest⟩
  · by_cases hback : back = []
    · subst hback
      exact ⟨(List.append_nil part).symm, List.append_cancel_left hrest⟩
    · exact absurd (infix_append_dropLast hback (hrest ▸ List.prefix_append separator rest)) hother
  · by_cases hback : back = []
    · subst hback
      exact ⟨List.append_nil other, (List.append_cancel_left hrest).symm⟩
    · exact absurd (infix_append_dropLast hback (hrest ▸ List.prefix_append separator others)) hpart

namespace IsCut

/-- A text is cut in one way only. -/
theorem unique {others : List (List Char)} (h : IsCut separator text parts)
    (hother : IsCut separator text others) : parts = others := by
  generalize hsame : text = same at hother
  induction h generalizing same others with
  | last hpart =>
      subst hsame
      cases hother with
      | last => rfl
      | next => exact absurd (List.infix_append' ..) hpart
  | @next part rest parts hpart _ ih =>
      cases hother with
      | last hwhole =>
          subst hsame
          exact absurd (List.infix_append' ..) hwhole
      | next hfirst hrest =>
          obtain ⟨rfl, rfl⟩ := first_unique hsame hpart hfirst
          rw [ih rest rfl hrest]

theorem ne_nil (h : IsCut separator text parts) : parts ≠ [] := by
  cases h <;> exact List.cons_ne_nil _ _

/-- The characters of the parts are characters of the text. -/
theorem subset (h : IsCut separator text parts) : ∀ part ∈ parts, part ⊆ text := by
  induction h with
  | last => simp
  | @next part rest parts _ _ ih =>
      intro other hmem
      rcases List.mem_cons.mp hmem with rfl | hmem
      · exact List.subset_append_left _ _
      · have hrest : rest ⊆ part ++ (separator ++ rest) :=
          List.subset_append_of_subset_right part (List.subset_append_right separator rest)
        exact List.Subset.trans (ih other hmem) hrest

/-- No separator is left in a part. -/
theorem not_infix (h : IsCut separator text parts) : ∀ part ∈ parts, ¬ separator <:+: part := by
  induction h with
  | last hpart => simpa using hpart
  | next hpart _ ih =>
      intro other hmem
      rcases List.mem_cons.mp hmem with rfl | hmem
      · exact fun hinside => hpart (hinside.trans (List.prefix_append other _).isInfix)
      · exact ih other hmem

/-- A character belongs to the first part, unless a separator starts with it. -/
theorem cons {c : Char} (h : IsCut separator text parts) (hc : ¬ separator <+: c :: text) :
    IsCut separator (c :: text) (consHead c parts) := by
  cases h with
  | last hpart =>
      refine .last ?_
      rw [List.infix_cons_iff]
      exact not_or.mpr ⟨hc, hpart⟩
  | @next part rest parts hpart hrest =>
      have hshort : part ++ separator.dropLast <+: part ++ (separator ++ rest) :=
        (List.prefix_append_right_inj part).mpr
          ((List.dropLast_prefix separator).trans (List.prefix_append separator rest))
      have hfirst : ¬ separator <:+: c :: part ++ separator.dropLast := by
        rw [List.cons_append, List.infix_cons_iff]
        refine not_or.mpr ⟨?_, hpart⟩
        intro hstart
        exact hc (hstart.trans ((List.prefix_cons_inj c).mpr hshort))
      exact .next hfirst hrest

/-- A separator at the start of a text ends an empty part. -/
theorem separator_append (h : IsCut separator text parts) (hne : separator ≠ []) :
    IsCut separator (separator ++ text) ([] :: parts) := by
  have hfirst : ¬ separator <:+: [] ++ separator.dropLast := by
    intro hinside
    have hlength := hinside.length_le
    have hpos := List.length_pos_iff.mpr hne
    simp only [List.nil_append, List.length_dropLast] at hlength
    omega
  exact .next hfirst h

/-- Cutting does not depend on the characters beside the separators. -/
theorem map {f : Char → Char} (h : IsCut separator text parts)
    (hseparator : ∀ c ∈ separator, f c = c) (hf : ∀ c, f c ∈ separator → f c = c) :
    IsCut separator (text.map f) (parts.map (List.map f)) := by
  have hmap : separator.map f = separator := map_eq_self hseparator
  have hinside : ∀ cs, separator <:+: cs.map f → separator <:+: cs := by
    intro cs hcs
    obtain ⟨found, hfound, heq⟩ := List.infix_map_iff.mp hcs
    have hsame : found.map f = found :=
      map_eq_self fun c hc => hf c (heq ▸ List.mem_map_of_mem hc)
    rwa [heq, hsame]
  induction h with
  | last hpart => exact .last (mt (hinside _) hpart)
  | next hpart _ ih =>
      rw [List.map_append, List.map_append, hmap, List.map_cons]
      refine .next (mt ?_ hpart) ih
      intro hfound
      apply hinside
      rwa [List.map_append, List.map_dropLast, hmap]

/-- Parts without a character are what a text is cut into at that character when they are joined by
it. -/
theorem of_intercalate {c : Char} (hne : parts ≠ []) (hparts : ∀ part ∈ parts, c ∉ part) :
    IsCut [c] ([c].intercalate parts) parts := by
  induction parts with
  | nil => exact absurd rfl hne
  | cons part rest ih =>
      have hpart : ¬ [c] <:+: part := by
        rw [List.singleton_infix_iff]
        exact hparts part List.mem_cons_self
      cases rest with
      | nil =>
          rw [List.intercalate_singleton]
          exact .last hpart
      | cons next rest =>
          rw [List.intercalate_cons_cons, List.append_assoc]
          refine .next ?_ (ih (List.cons_ne_nil _ _) fun other hmem =>
            hparts other (List.mem_cons_of_mem _ hmem))
          rwa [List.dropLast_singleton, List.append_nil]

end IsCut

theorem isCut_partsAt (c : Char) (cs : List Char) : IsCut [c] cs (partsAt c cs) := by
  induction cs with
  | nil => exact .last (by simp)
  | cons d rest ih =>
      unfold partsAt partsBetween
      split
      next heq =>
        obtain rfl := eq_of_beq heq
        exact ih.separator_append (List.cons_ne_nil _ _)
      next hne =>
        apply ih.cons
        rintro ⟨back, heq⟩
        cases heq
        exact hne (beq_self_eq_true c)

theorem isCut_partsAtColons (cs : List Char) : IsCut [':', ':'] cs (partsAtColons cs) := by
  fun_induction partsAtColons cs with
  | case1 rest ih => exact ih.separator_append (List.cons_ne_nil _ _)
  | case2 c rest hpair ih =>
      apply ih.cons
      rintro ⟨back, heq⟩
      cases heq
      exact hpair back rfl rfl
  | case3 => exact .last (by simp)

theorem CutsAt.unique {separator s : String} {parts others : List String}
    (h : CutsAt separator s parts) (hother : CutsAt separator s others) : parts = others :=
  List.map_injective_iff.mpr (fun _ _ => String.toList_injective) (IsCut.unique h hother)

theorem map_toList_ofList (parts : List (List Char)) :
    (parts.map String.ofList).map String.toList = parts := by
  simp [Function.comp_def]

theorem cutsAt_pathParts (s : String) : CutsAt "/" s (pathParts s) := by
  rw [CutsAt, pathParts, map_toList_ofList]
  exact isCut_partsAt '/' s.toList

theorem cutsAt_moduleParts (s : String) : CutsAt "::" s (moduleParts s) := by
  rw [CutsAt, moduleParts, map_toList_ofList]
  exact isCut_partsAtColons s.toList

/-- An odd colon belongs to what follows the pair before it. -/
example : moduleParts "Acme:::Sdk::::Api" = ["Acme", ":Sdk", "", "Api"] := by decide +kernel

end RubyClasses.Text
