import RubyClasses.Proofs.Classes.Setters
import RubyClasses.Proofs.Classes.Support
import RubyClasses.Proofs.Outline.Legibility

/-! # Sources are legible

A source is written with explicit blocks, and all its lines look like what they are: a line starts
like a block, or ends like one, only where a block starts or ends. So adding the lines of a source
one by one, without their indentation, gives the same source again.
-/

namespace RubyClasses

open Line

namespace Name.IsProper

variable {name : Name}

/-- The name of an accessor continues no line. -/
theorem accessorName_continues_no_line (h : name.IsProper) :
    ∀ c ∈ name.accessorName.toList, c ∉ ['(', '[', '|'] := by
  have hmarks : ∀ c ∈ ['(', '[', '|'], isAccessorChar c = false := by
    simp [isAccessorChar, Name.isSmallOrDigit]
  exact fun c hc hmem => h.notMem_accessorName (hmarks c hmem) hc

end Name.IsProper

namespace Accessors

variable {naming : Naming} {property : String}

theorem comment_isLegible {lines : List String}
    (h : ∀ l ∈ lines, l = "" ∨ ∃ d, l.toList.getLast? = some d ∧ d ∉ ['(', '[', '|']) :
    (comment lines).IsLegible := by
  apply Outline.IsLegible.ofLines
  intro text hmem
  rcases List.mem_append.mp hmem with hmem | hmem
  · rcases List.mem_append.mp hmem with hmem | hmem
    · rw [List.mem_singleton.mp hmem]
      exact .of_ends (c := '#') (d := '#') (by decide) (by decide) (by decide) (by decide)
    · obtain ⟨l, hl, rfl⟩ := List.mem_map.mp hmem
      split
      next => exact .of_ends (c := '#') (d := '#') (by decide) (by decide) (by decide) (by decide)
      next hne =>
        obtain ⟨d, hlast, hd⟩ := (h l hl).resolve_left hne
        exact .of_ends (c := '#') (by simp) (by decide) (getLast?_append_of_some hlast) hd
  · rw [List.mem_singleton.mp hmem]
    exact .of_ends (c := '#') (d := '#') (by decide) (by decide) (by decide) (by decide)

/-- A sentence with a full stop makes a legible comment, whatever it speaks of. -/
theorem sentence_isLegible {first last : String} (hlast : last.toList.getLast? = some '.') :
    (comment [first ++ last]).IsLegible := by
  apply comment_isLegible
  intro l hl
  rw [List.mem_singleton.mp hl]
  exact .inr ⟨'.', getLast?_append_of_some hlast, by decide⟩

theorem blank_isLegible : Outline.blank.IsLegible :=
  .line ⟨by decide, by decide, by decide⟩ .done

theorem line_isLegible {text : String} (h : IsPlain text) : (Outline.ofLines [text]).IsLegible :=
  .line h .done

/-- An assignment to a property is plain if its end is. -/
theorem assignment_isPlain (property : String) {last : String} {d : Char}
    (hlast : last.toList.getLast? = some d) (hd : d ∉ ['(', '[', '|']) :
    IsPlain ("@" ++ property ++ last) :=
  .of_ends (c := '@') (by simp) (by decide) (getLast?_append_of_some hlast) hd

/-- A setter that assigns its parameter is legible, whatever the property is called. -/
theorem plainSetter_isLegible {parameter : String} {d : Char}
    (hlast : (" = " ++ parameter).toList.getLast? = some d) (hd : d ∉ ['(', '[', '|']) :
    (plainSetter property parameter).IsLegible := by
  apply Outline.IsLegible.ofBlock
  · simp only [String.append_assoc]
    exact isHeader_def _
  · apply line_isLegible
    rw [String.append_assoc]
    exact assignment_isPlain property hlast hd

/-- The setter of a struct is legible, whatever the class is called. -/
theorem structSetter_isLegible (name : QualifiedName) :
    (structSetter name property).IsLegible := by
  apply Outline.IsLegible.append
  · apply comment_isLegible
    intro l hl
    simp only [List.mem_cons, List.not_mem_nil, or_false] at hl
    rcases hl with rfl | rfl | rfl | rfl | rfl
    · exact .inr ⟨'.', getLast?_append_of_some (by decide), by decide⟩
    · exact .inl rfl
    · exact .inr ⟨'.', getLast?_append_of_some (by decide), by decide⟩
    · exact .inr ⟨'e', by decide, by decide⟩
    · exact .inr ⟨'.', by decide, by decide⟩
  · apply Outline.IsLegible.ofBlock
    · rw [String.append_assoc]
      exact isHeader_def _
    · apply Outline.IsLegible.append
      · apply Outline.IsLegible.ofBlock ⟨by decide, by decide, by decide⟩
        apply line_isLegible
        exact .of_ends (c := 'o') (d := ')') (by simp) (by decide)
          (getLast?_append_of_some (by decide)) (by decide)
      · exact line_isLegible (assignment_isPlain property (d := 't') (by decide) (by decide))

/-- The creation of an object in a list is plain, although it begins with the letter of a loop. -/
theorem creation_isPlain (className : String) :
    IsPlain ("list[index] = " ++ className ++ ".new(value)") := by
  have hhead : ("list[index] = " ++ className ++ ".new(value)").toList.head? = some 'l' := by simp
  refine ⟨unindented_eq_self ?_, opens_eq_false (d := ')') ?_ ?_ (by decide), closes_eq_false ?_⟩
  · rw [hhead]
    decide
  · -- a word for a loop begins with the same letter
    simp [startsWithAny, openingWords, List.isPrefixOf]
  · exact getLast?_append_of_some (by decide)
  · exact startsWithAny_eq_false_of_head? hhead (by decide)

/-- The setter of a list of structs is legible, whatever the class is called. -/
theorem structListSetter_isLegible (name : QualifiedName) :
    (structListSetter name property).IsLegible := by
  apply Outline.IsLegible.append
  · exact sentence_isLegible (by decide)
  · apply Outline.IsLegible.ofBlock
    · rw [String.append_assoc]
      exact isHeader_def _
    · apply Outline.IsLegible.append
      · apply Outline.IsLegible.ofBlock ⟨by decide, by decide, by decide⟩
        apply Outline.IsLegible.append
        · exact line_isLegible ⟨by decide, by decide, by decide⟩
        · apply Outline.IsLegible.ofBlock ⟨by decide, by decide, by decide⟩
          apply Outline.IsLegible.ofBlock ⟨by decide, by decide, by decide⟩
          exact line_isLegible (creation_isPlain name.className)
      · exact line_isLegible (assignment_isPlain property (d := 't') (by decide) (by decide))

section Property

variable (hproperty : ∀ c ∈ property.toList, c ∉ ['(', '[', '|'])

include hproperty

/-- A line that ends with a property is plain, as no property ends open. -/
theorem property_isPlain {first : String} {c : Char} (hhead : first.toList.head? = some c)
    (hc : c ∉ wordStarts) (hfirst : ∀ d ∈ first.toList, d ∉ ['(', '[', '|']) :
    IsPlain (first ++ property) := by
  refine .of_chars (c := c) (by simp [hhead]) hc ?_
  intro d hd
  rw [String.toList_append] at hd
  exact (List.mem_append.mp hd).elim (hfirst d) (hproperty d)

theorem getterOutline_isLegible (naming : Naming) (shape : Shape) :
    (getterOutline naming property shape).IsLegible := by
  refine .append (.append ?_ (.ofBlock (isHeader_def _) (line_isLegible ?_))) blank_isLegible
  · cases shape with
    | one element => exact sentence_isLegible (by decide)
    | many element => exact sentence_isLegible (by decide)
  · exact property_isPlain hproperty (c := 'r') (by decide) (by decide) (by simp)

theorem setterOutline_isLegible (naming : Naming) (shape : Shape) :
    (setterOutline naming property shape).IsLegible := by
  refine .append ?_ blank_isLegible
  -- a scalar, an enumeration, a struct, a list of structs and any other list
  split
  · exact .append (sentence_isLegible (by decide))
      (plainSetter_isLegible (d := 'e') (by decide) (by decide))
  · refine .append (sentence_isLegible (by decide)) (line_isLegible ?_)
    exact property_isPlain hproperty (c := 'a') (by decide) (by decide) (by simp)
  · exact structSetter_isLegible _
  · exact structListSetter_isLegible _
  · exact .append (sentence_isLegible (by decide))
      (plainSetter_isLegible (d := 't') (by decide) (by decide))

end Property

end Accessors

namespace Classes

open Accessors

variable {naming : Naming} {m : Model} {s : Struct} {o : Outline}

/-- The line that opens the class of a struct is a header, whatever its base is called. -/
theorem isHeader_header : IsHeader (header naming m s) := by
  unfold header
  rw [String.append_assoc, String.append_assoc]
  exact isHeader_class _

theorem constructor_isLegible (s : Struct) : (constructor s).IsLegible := by
  apply Outline.IsLegible.ofBlock ⟨by decide, by decide, by decide⟩
  apply Outline.IsLegible.ofLines
  intro text hmem
  rcases List.mem_cons.mp hmem with rfl | hmem
  · exact ⟨by decide, by decide, by decide⟩
  · obtain ⟨p, -, rfl⟩ := List.mem_map.mp hmem
    exact .of_ends (c := 's') (d := ']') (by simp) (by decide)
      (getLast?_append_of_some (by decide)) (by decide)

theorem body_isLegible (hnames : ∀ member ∈ s.attributes ++ s.links, member.name.IsProper)
    (h : IsBody naming m s o) : o.IsLegible := by
  obtain ⟨accessors, haccessors, rfl⟩ := h
  refine .append (.ofBlock isHeader_header ?_) blank_isLegible
  refine .append (.append (.append blank_isLegible (.join ?_)) (constructor_isLegible s))
    blank_isLegible
  intro accessor hmem
  obtain ⟨member, hmember, shape, -, rfl⟩ := exists_left_of_forall₂ haccessors hmem
  have hproperty := (hnames member (Struct.mem_sortedMembers.mp hmember))
    |>.accessorName_continues_no_line
  exact .append (getterOutline_isLegible hproperty naming shape)
    (setterOutline_isLegible hproperty naming shape)

/-- A constant begins with a capital letter or a digit, as no keyword does. -/
theorem constant_isPlain {value : Name} (hvalue : value.IsProper) : IsPlain (constant value) := by
  obtain ⟨c, rest, hchars, hc⟩ := hvalue.exists_constantName
  refine .of_ends (c := c) (d := '\'') ?_ ?_ (getLast?_append_of_some (by decide)) (by decide)
  · simp [constant, hchars]
  · intro hmem
    simp only [wordStarts, List.mem_cons, List.not_mem_nil, or_false] at hmem
    rcases hmem with rfl | rfl | rfl | rfl | rfl | rfl | rfl | rfl | rfl | rfl | rfl | rfl <;>
      cases hc

theorem enumeration_isLegible {e : Enumeration} (hvalues : ∀ value ∈ e.values, value.IsProper) :
    (enumeration e).IsLegible := by
  refine .module (fun part _ => isHeader_module part) (.ofLines ?_) blank_isLegible
  intro text hmem
  obtain ⟨value, hvalue, rfl⟩ := List.mem_map.mp hmem
  exact constant_isPlain (hvalues value (Name.mem_sortBy.mp hvalue))

/-- The source of a model with proper names is legible, whatever its module and root class are
called. -/
theorem outline_isLegible (hproper : m.HasProperNames) (h : outline naming m = .ok o) :
    o.IsLegible := by
  obtain ⟨bodies, hbodies, rfl⟩ := outline_eq_ok_iff.mp h
  refine .module (fun part _ => isHeader_module part) ?_ blank_isLegible
  refine .append (.append (.append ?_ (.join ?_)) (.join ?_)) (.join ?_)
  · refine .ofLines fun text hmem => ?_
    simp only [List.mem_cons, List.not_mem_nil, or_false] at hmem
    rcases hmem with rfl | rfl | rfl | rfl <;> exact ⟨by decide, by decide, by decide⟩
  · intro o hmem
    obtain ⟨s, -, rfl⟩ := List.mem_map.mp hmem
    exact .append (.ofBlock isHeader_header .done) blank_isLegible
  · intro o hmem
    obtain ⟨s, hs, hbody⟩ := exists_left_of_forall₂ hbodies hmem
    obtain ⟨entry, hentry, rfl⟩ := List.mem_map.mp hs
    have hstruct := Model.mem_structs.mp (Model.mem_structs_of_declarationOrder hentry)
    exact body_isLegible (hproper.member entry.2 (Model.mem_of_struct? hstruct)) hbody
  · intro o hmem
    obtain ⟨e, he, rfl⟩ := List.mem_map.mp hmem
    exact enumeration_isLegible (hproper.enumeration (Name.mem_sortBy.mp he)).2

end Classes

end RubyClasses
