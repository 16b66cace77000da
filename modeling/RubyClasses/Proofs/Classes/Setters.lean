import RubyClasses.Classes
import RubyClasses.Proofs.Classes.Wording
import RubyClasses.Proofs.Name.Order

/-! # What accessors create

The setter of a struct or of a list of structs creates objects of the class of that struct. No
other line of an accessor, a constructor or an enumeration creates objects, and none of them opens
a class.
-/

namespace RubyClasses

namespace Outline

/-- No line of an outline opens a class, and none creates objects of other classes. -/
def StaysWithin (classes : List String) (o : Outline) : Prop :=
  ∀ text ∈ o.texts, Line.StaysWithin classes text

namespace StaysWithin

variable {classes : List String} {first second body : Outline} {lines : List String}

theorem append (hfirst : first.StaysWithin classes) (hsecond : second.StaysWithin classes) :
    (first ++ second).StaysWithin classes := Each.append hfirst hsecond

theorem join {outlines : List Outline} (h : ∀ o ∈ outlines, o.StaysWithin classes) :
    (join outlines).StaysWithin classes := Each.join h

theorem ofLines (h : ∀ text ∈ lines, Line.StaysWithin classes text) :
    (ofLines lines).StaysWithin classes := Each.ofLines h

theorem ofLine {text : String} (h : Line.StaysWithin classes text) :
    (Outline.ofLines [text]).StaysWithin classes := Each.ofLine h

theorem ofBlock {header : String} (hheader : Line.StaysWithin classes header)
    (hbody : body.StaysWithin classes) : (ofBlock header body).StaysWithin classes :=
  Each.ofBlock hheader hbody (.of_isQuiet (by decide))

/-- A module stays within what its body does, however many parts its name has. -/
theorem module {name : String} (hbody : body.StaysWithin classes)
    (hnext : second.StaysWithin classes) : (module name body second).StaysWithin classes := by
  intro text h
  simp only [texts, List.mem_append, List.mem_map, List.mem_replicate] at h
  -- a module name may have several parts, each of which opens and closes one module
  rcases h with ((⟨part, -, rfl⟩ | h) | ⟨-, rfl⟩) | h
  · exact .of_module part
  · exact hbody text h
  · exact .of_isQuiet (by decide)
  · exact hnext text h

theorem blank : blank.StaysWithin classes := ofLine (.of_isQuiet (by decide))

/-- What holds of the texts of an outline holds of its lines at every level. -/
theorem of_mem_linesAt (h : first.StaysWithin classes) {level : Nat} {line : String}
    (hline : line ∈ first.linesAt level) : Line.StaysWithin classes (Line.unindented line) := by
  obtain ⟨text, htext, heq⟩ := exists_text hline
  rw [heq, (h text htext).flush]
  exact h text htext

/-- The lines that open modules create nothing. -/
theorem of_mem_openings {level : Nat} {parts : List String} {line : String}
    (hline : line ∈ openings level parts) :
    Line.StaysWithin classes (Line.unindented line) := by
  have hmem := List.mem_map_of_mem (f := Line.unindented) hline
  rw [map_unindented_openings, List.map_map] at hmem
  obtain ⟨part, -, heq⟩ := List.mem_map.mp hmem
  have hpart : Line.StaysWithin classes ("module " ++ part) := .of_module part
  rw [← heq, Function.comp_apply, hpart.flush]
  exact hpart

theorem of_mem_closings {level count : Nat} {line : String} (hline : line ∈ closings level count) :
    Line.StaysWithin classes (Line.unindented line) := by
  have hmem := List.mem_map_of_mem (f := Line.unindented) hline
  rw [map_unindented_closings, List.map_replicate] at hmem
  rw [(List.mem_replicate.mp hmem).2]
  exact .of_isQuiet (by decide)

end StaysWithin

end Outline

open Line

variable {classes : List String} {property : String}

/-- A word that can stand behind `def`: it is not empty and does not look like an assignment. -/
def Line.IsWord (word : String) : Prop := ∃ c rest, word.toList = c :: rest ∧ c ≠ '='

/-- A proper name gives an accessor that begins with a word character. -/
theorem Name.IsProper.isWord_accessorName {name : Name} (h : name.IsProper) :
    IsWord name.accessorName := by
  obtain ⟨c, rest, hchars, hc⟩ := h.exists_accessorName
  refine ⟨c, rest, hchars, ?_⟩
  rintro rfl
  cases hc

namespace Accessors

/-- A comment creates nothing, unless one of its lines reads like an assignment to its mark. -/
theorem comment_staysWithin {lines : List String}
    (hlines : ∀ l ∈ lines, l.toList.head? ≠ some '=') : (comment lines).StaysWithin classes := by
  apply Outline.StaysWithin.ofLines
  simp only [List.mem_append, List.mem_singleton, List.mem_map]
  rintro _ ((rfl | ⟨l, hl, rfl⟩) | rfl)
  · exact .of_isQuiet (by decide)
  · split
    · exact .of_isQuiet (by decide)
    · have hhead := hlines l hl
      cases hchars : l.toList with
      | nil => exact .of_isQuiet (by simp [isQuiet, hchars, List.isPrefixOf])
      | cons c rest =>
          have hc : '=' ≠ c := by
            rintro rfl
            simp [hchars] at hhead
          exact .of_isQuiet (by simp [isQuiet, hchars, List.isPrefixOf, hc])
  · exact .of_isQuiet (by decide)

theorem sentence_staysWithin {sentence : String} (hhead : sentence.toList.head? ≠ some '=') :
    (comment [sentence]).StaysWithin classes :=
  comment_staysWithin fun _ hmem => List.mem_singleton.mp hmem ▸ hhead

/-- The line that begins a method creates nothing, since its name is a word. -/
theorem def_staysWithin (hword : IsWord property) (rest : String) :
    Line.StaysWithin classes ("def " ++ property ++ rest) := by
  obtain ⟨c, more, hchars, hc⟩ := hword
  exact .of_isQuiet (by simp [isQuiet, hchars, List.isPrefixOf, hc.symm])

theorem getterOutline_staysWithin (naming : Naming) (hword : IsWord property) (shape : Shape) :
    (getterOutline naming property shape).StaysWithin classes := by
  refine .append (.append (sentence_staysWithin ?_) (.ofBlock ?_ (.ofLine (.of_isQuiet ?_)))) .blank
  · unfold getterSentence
    split <;> rw [String.append_assoc] <;>
      exact head?_append_ne (c := 'R') (by decide) (by decide) _
  · rw [← String.append_empty (s := "def " ++ property)]
    exact def_staysWithin hword ""
  · simp [isQuiet, List.isPrefixOf]

/-- Assigning a variable to a property creates no object. -/
theorem assignment_staysWithin (property : String) {last : String} {c : Char}
    (hlast : last.toList.getLast? = some c) (hc : c ≠ ')') :
    Line.StaysWithin classes ("@" ++ property ++ last) := by
  refine .of_end hlast hc ?_ ?_ <;> rw [String.append_assoc] <;>
    exact head?_append_ne (c := '@') (by decide) (by decide) _

/-- A setter that assigns its parameter creates nothing. -/
theorem plainSetter_staysWithin (hword : IsWord property) {parameter : String}
    (hparameter : ∃ c, (" = " ++ parameter).toList.getLast? = some c ∧ c ≠ ')') :
    (plainSetter property parameter).StaysWithin classes := by
  obtain ⟨c, hlast, hc⟩ := hparameter
  refine .ofBlock ?_ (.ofLine ?_)
  · rw [String.append_assoc, String.append_assoc]
    exact def_staysWithin hword _
  · rw [String.append_assoc]
    exact assignment_staysWithin property hlast hc

section Structs

variable {name : QualifiedName} (hword : IsWord property) (hname : name.className ∈ classes)
  (hdotless : '.' ∉ name.className.toList)

include hword hname hdotless

/-- The setter of a struct creates objects of the class of that struct only. -/
theorem structSetter_staysWithin : (structSetter name property).StaysWithin classes := by
  have hcreation : Line.StaysWithin classes ("object = " ++ name.className ++ ".new(object)") :=
    .of_creation "object" "object" hname hdotless (c := 'o')
      (by decide) (by decide) (by decide) (by decide) (by decide) (by decide)
  refine .append (comment_staysWithin ?_) (.ofBlock (def_staysWithin hword _) (.append
    (.ofBlock (.of_isQuiet (by decide)) (.ofLine hcreation)) (.ofLine ?_)))
  · intro l hl
    simp only [List.mem_cons, List.not_mem_nil, or_false] at hl
    rcases hl with rfl | rfl | rfl | rfl | rfl
    · rw [String.append_assoc]
      exact head?_append_ne (c := 'S') (by decide) (by decide) _
    · decide
    · rw [String.append_assoc]
      exact head?_append_ne (c := 'T') (by decide) (by decide) _
    · decide
    · decide
  · exact assignment_staysWithin property (c := 't') (by decide) (by decide)

/-- The setter of a list of structs creates lists and objects of the class of those structs only. -/
theorem structListSetter_staysWithin : (structListSetter name property).StaysWithin classes := by
  have hcreation :
      Line.StaysWithin classes ("list[index] = " ++ name.className ++ ".new(value)") :=
    .of_creation "list[index]" "value" hname hdotless (c := 'l')
      (by decide) (by decide) (by decide) (by decide) (by decide) (by decide)
  have hlist : Line.StaysWithin classes listCreation := ⟨by decide, by decide, fun _ _ => .inl rfl⟩
  have hloop : (Outline.ofBlock "list.each_with_index do |value, index|"
      (Outline.ofBlock "if value.is_a?(Hash)" (Outline.ofLines
        ["list[index] = " ++ name.className ++ ".new(value)"]))).StaysWithin classes :=
    .ofBlock (.of_isQuiet (by decide)) (.ofBlock (.of_isQuiet (by decide)) (.ofLine hcreation))
  refine .append (sentence_staysWithin ?_) (.ofBlock (def_staysWithin hword _) (.append
    (.ofBlock (.of_isQuiet (by decide)) (.append (.ofLine hlist) hloop)) (.ofLine ?_)))
  · rw [String.append_assoc]
    exact head?_append_ne (c := 'S') (by decide) (by decide) _
  · exact assignment_staysWithin property (c := 't') (by decide) (by decide)

end Structs

/-- A setter creates objects of the classes of structs only. -/
theorem setterOutline_staysWithin (naming : Naming) (hword : IsWord property) {shape : Shape}
    (hstructs : ∀ name, shape = .one (.struct name) ∨ shape = .many (.struct name) →
      name.className ∈ classes ∧ '.' ∉ name.className.toList) :
    (setterOutline naming property shape).StaysWithin classes := by
  have hsentence : ∀ rest, (comment ["Sets the " ++ rest]).StaysWithin classes := fun rest =>
    sentence_staysWithin (head?_append_ne (c := 'S') (by decide) (by decide) rest)
  refine .append ?_ .blank
  split
  next kind =>
    refine .append ?_ (plainSetter_staysWithin hword ⟨'e', by decide, by decide⟩)
    rw [String.append_assoc]
    exact hsentence _
  next name =>
    refine .append ?_ (.ofLine (.of_isQuiet ?_))
    · rw [String.append_assoc]
      exact hsentence _
    · simp [isQuiet, List.isPrefixOf]
  next name =>
    obtain ⟨hname, hdotless⟩ := hstructs name (.inl rfl)
    exact structSetter_staysWithin hword hname hdotless
  next name =>
    obtain ⟨hname, hdotless⟩ := hstructs name (.inr rfl)
    exact structListSetter_staysWithin hword hname hdotless
  next element _ =>
    refine .append ?_ (plainSetter_staysWithin hword ⟨'t', by decide, by decide⟩)
    rw [String.append_assoc]
    exact hsentence _

end Accessors

namespace Classes

theorem constructor_staysWithin (s : Struct) : (constructor s).StaysWithin classes := by
  refine .ofBlock (.of_isQuiet (by decide)) (.ofLines ?_)
  intro text h
  rcases List.mem_cons.mp h with rfl | h
  · exact .of_isQuiet (by decide)
  · obtain ⟨p, -, rfl⟩ := List.mem_map.mp h
    refine .of_end (c := ']') (by decide) (by decide) ?_ ?_ <;> simp only [String.append_assoc] <;>
      exact head?_append_ne (c := 's') (by decide) (by decide) _

theorem constant_staysWithin {value : Name} (hvalue : value.IsProper) :
    Line.StaysWithin classes (constant value) := by
  obtain ⟨c, rest, hchars, hc⟩ := hvalue.exists_constantName
  have hstart : value.constantName.toList.head? = some c := by simp [hchars]
  refine .of_end (c := '\'') (by decide) (by decide) ?_ ?_ <;> simp only [String.append_assoc] <;>
    refine head?_append_ne hstart ?_ _ <;>
    · rintro rfl
      cases hc

/-- The module of an enumeration creates nothing. -/
theorem enumeration_staysWithin {e : Enumeration} (hvalues : ∀ value ∈ e.values, value.IsProper) :
    (enumeration e).StaysWithin classes := by
  refine .module (.ofLines ?_) .blank
  intro text h
  obtain ⟨value, hmem, rfl⟩ := List.mem_map.mp h
  exact constant_staysWithin (hvalues value (Name.mem_sortBy.mp hmem))

end Classes

end RubyClasses
