import RubyClasses.Proofs.Classes.Bodies
import RubyClasses.Proofs.Description.Structs
import RubyClasses.Proofs.Outline.Looks

/-! # The modules of a source

A source opens a module for each component of the name of its module, and one for each enumeration.
No line of a class opens a module, which its first character tells.
-/

namespace RubyClasses

open Line

/-- A line does not begin like one that opens a module. -/
def Line.OpensNoModule (line : String) : Prop := startsApart ['m'] line = true

instance (line : String) : Decidable (OpensNoModule line) :=
  inferInstanceAs (Decidable (_ = _))

/-- What a line begins with tells that it opens no module. -/
theorem Line.opensNoModule_append {start : String}
    (h : (start.toList.head?.any fun c => c != ' ' && c != 'm') = true) (rest : String) :
    OpensNoModule (start ++ rest) := by
  rw [OpensNoModule, startsApart, String.toList_append, List.head?_append]
  cases hhead : start.toList.head? with
  | none =>
      rw [hhead] at h
      cases h
  | some c => simpa [hhead] using h

/-- Lines that begin with the word all open a module. -/
theorem Line.startingWith_modules (names : List String) :
    startingWith ["module "] (names.map ("module " ++ ·)) = names.map ("module " ++ ·) := by
  have hflush : ∀ line ∈ names.map ("module " ++ ·), unindented line = line := by
    intro line hmem
    obtain ⟨name, -, rfl⟩ := List.mem_map.mp hmem
    exact unindented_eq_self (head?_append_ne (c := 'm') (by decide) (by decide) _)
  rw [startingWith, map_eq_self hflush, List.filter_eq_self]
  intro line hmem
  obtain ⟨name, -, rfl⟩ := List.mem_map.mp hmem
  rw [startsWithAny_singleton, List.isPrefixOf_iff_prefix, String.toList_append]
  exact List.prefix_append _ _

namespace Outline

theorem blank_opensNoModule : blank.Each OpensNoModule := .ofLine (by decide)

theorem startingWith_module_eq_nil {o : Outline} (h : o.Each OpensNoModule) :
    startingWith ["module "] o.texts = [] :=
  startingWith_eq_nil ['m'] (by simp) h

end Outline

namespace Accessors

/-- A comment opens no module, whatever it says. -/
theorem comment_opensNoModule (lines : List String) : (comment lines).Each OpensNoModule := by
  apply Outline.Each.ofLines
  simp only [List.mem_append, List.mem_singleton, List.mem_map]
  rintro _ ((rfl | ⟨l, -, rfl⟩) | rfl)
  · decide
  · split
    · decide
    · exact opensNoModule_append rfl l
  · decide

/-- A getter opens no module, whatever the property is called. -/
theorem getterOutline_opensNoModule (naming : Naming) (property : String) (shape : Shape) :
    (getterOutline naming property shape).Each OpensNoModule := by
  refine .append (.append (comment_opensNoModule _) (.ofBlock ?_ (.ofLine ?_) (by decide)))
    Outline.blank_opensNoModule
  · exact opensNoModule_append rfl property
  · exact opensNoModule_append rfl property

theorem assignment_opensNoModule (property last : String) :
    OpensNoModule ("@" ++ property ++ last) := by
  rw [String.append_assoc]
  exact opensNoModule_append rfl _

theorem def_opensNoModule (property rest : String) :
    OpensNoModule ("def " ++ property ++ rest) := by
  rw [String.append_assoc]
  exact opensNoModule_append rfl _

theorem plainSetter_opensNoModule (property parameter : String) :
    (plainSetter property parameter).Each OpensNoModule := by
  refine .ofBlock ?_ (.ofLine ?_) (by decide)
  · rw [String.append_assoc, String.append_assoc]
    exact def_opensNoModule property _
  · rw [String.append_assoc]
    exact assignment_opensNoModule property _

theorem structSetter_opensNoModule (name : QualifiedName) (property : String) :
    (structSetter name property).Each OpensNoModule := by
  have hcreation : OpensNoModule ("object = " ++ name.className ++ ".new(object)") := by
    rw [String.append_assoc]
    exact opensNoModule_append rfl _
  exact .append (comment_opensNoModule _) (.ofBlock (def_opensNoModule property _)
    (.append (.ofBlock (by decide) (.ofLine hcreation) (by decide))
      (.ofLine (assignment_opensNoModule property _))) (by decide))

theorem structListSetter_opensNoModule (name : QualifiedName) (property : String) :
    (structListSetter name property).Each OpensNoModule := by
  have hcreation : OpensNoModule ("list[index] = " ++ name.className ++ ".new(value)") := by
    rw [String.append_assoc]
    exact opensNoModule_append rfl _
  have hloop : (Outline.ofBlock "list.each_with_index do |value, index|"
      (Outline.ofBlock "if value.is_a?(Hash)" (Outline.ofLines
        ["list[index] = " ++ name.className ++ ".new(value)"]))).Each OpensNoModule :=
    .ofBlock (by decide) (.ofBlock (by decide) (.ofLine hcreation) (by decide)) (by decide)
  exact .append (comment_opensNoModule _) (.ofBlock (def_opensNoModule property _)
    (.append (.ofBlock (by decide) (.append (.ofLine (by decide)) hloop) (by decide))
      (.ofLine (assignment_opensNoModule property _))) (by decide))

/-- A setter opens no module, whatever the property is called and holds. -/
theorem setterOutline_opensNoModule (naming : Naming) (property : String) (shape : Shape) :
    (setterOutline naming property shape).Each OpensNoModule := by
  refine .append ?_ Outline.blank_opensNoModule
  split
  · exact .append (comment_opensNoModule _) (plainSetter_opensNoModule property _)
  · refine .append (comment_opensNoModule _) (.ofLine ?_)
    exact opensNoModule_append rfl property
  · exact structSetter_opensNoModule _ property
  · exact structListSetter_opensNoModule _ property
  · exact .append (comment_opensNoModule _) (plainSetter_opensNoModule property _)

end Accessors

/-- The module of an enumeration has one part, as no class name has a colon in it. -/
theorem Name.IsProper.moduleParts_className {name : Name} (h : name.IsProper) :
    Text.moduleParts name.className = [name.className] := by
  have hcolon : ':' ∉ name.className.toList := by
    intro hmem
    have hchar := h.isWordChar_className hmem
    cases hchar
  rw [Text.moduleParts, Text.partsAtColons_eq_singleton hcolon, List.map_singleton,
    String.ofList_toList]

namespace Classes

variable {naming : Naming} {m : Model} {s : Struct} {e : Enumeration} {o : Outline}

theorem header_opensNoModule (naming : Naming) (m : Model) (s : Struct) :
    OpensNoModule (header naming m s) := by
  unfold header
  rw [String.append_assoc, String.append_assoc]
  exact opensNoModule_append rfl _

theorem constructor_opensNoModule (s : Struct) : (constructor s).Each OpensNoModule := by
  refine .ofBlock (by decide) (.ofLines ?_) (by decide)
  intro text hmem
  rcases List.mem_cons.mp hmem with rfl | hmem
  · decide
  · obtain ⟨p, -, rfl⟩ := List.mem_map.mp hmem
    simp only [String.append_assoc]
    exact opensNoModule_append rfl _

theorem body_opensNoModule (h : IsBody naming m s o) : o.Each OpensNoModule := by
  obtain ⟨accessors, haccessors, rfl⟩ := h
  have hblank := Outline.blank_opensNoModule
  refine .append (.ofBlock (header_opensNoModule naming m s) (.append (.append (.append hblank
    (.join ?_)) (constructor_opensNoModule s)) hblank) (by decide)) hblank
  intro accessor hmem
  obtain ⟨member, -, shape, -, rfl⟩ := exists_left_of_forall₂ haccessors hmem
  exact .append (Accessors.getterOutline_opensNoModule naming _ shape)
    (Accessors.setterOutline_opensNoModule naming _ shape)

theorem forward_opensNoModule (naming : Naming) (m : Model) (s : Struct) :
    (forward naming m s).Each OpensNoModule :=
  .append (.ofBlock (header_opensNoModule naming m s) (fun _ hmem => nomatch hmem) (by decide))
    Outline.blank_opensNoModule

/-- The constant of a value opens no module: it begins with a capital letter or a digit. -/
theorem constant_opensNoModule {value : Name} (hvalue : value.IsProper) :
    OpensNoModule (constant value) := by
  obtain ⟨c, rest, hchars, hc⟩ := hvalue.exists_constantName
  have hstart : c ≠ ' ' ∧ c ≠ 'm' := by
    constructor <;>
    · rintro rfl
      cases hc
  simp only [constant, String.append_assoc]
  exact opensNoModule_append (by simpa [hchars] using hstart) _

theorem introduction_opensNoModule : introduction.Each OpensNoModule :=
  .ofLines (by decide)

/-- An enumeration opens the module of its class name and no other. -/
theorem startingWith_module_enumeration (hname : e.name.IsProper)
    (hvalues : ∀ value ∈ e.values, value.IsProper) :
    startingWith ["module "] (enumeration e).texts = ["module " ++ e.name.className] := by
  have hend : ∀ text ∈ ["end", ""], OpensNoModule text := by decide
  have hconstants : ∀ text ∈ (Name.sortBy id e.values).map constant ++ ["end", ""],
      OpensNoModule text := by
    intro text hmem
    rcases List.mem_append.mp hmem with hmem | hmem
    · obtain ⟨value, hvalue, rfl⟩ := List.mem_map.mp hmem
      exact constant_opensNoModule (hvalues value (Name.mem_sortBy.mp hvalue))
    · exact hend text hmem
  have htexts : (enumeration e).texts = [e.name.className].map ("module " ++ ·) ++
      ((Name.sortBy id e.values).map constant ++ ["end", ""]) := by
    simp [enumeration, Outline.texts, Outline.blank, hname.moduleParts_className]
  rw [htexts, startingWith_append, startingWith_modules,
    startingWith_eq_nil ['m'] (by simp) hconstants, List.append_nil]
  rfl

/-- The enumerations of a model open one module each, in their order. -/
theorem startingWith_module_enumerations (hproper : m.HasProperNames) :
    startingWith ["module "] (Outline.join ((enumerationsInOrder m).map enumeration)).texts =
      (enumerationsInOrder m).map fun e => "module " ++ e.name.className := by
  rw [Outline.texts_join, List.flatMap_def, startingWith_flatten, List.flatMap_map,
    List.flatMap_map, List.map_eq_flatMap]
  apply List.flatMap_congr
  intro e hmem
  obtain ⟨hname, hvalues⟩ := hproper.enumeration (Name.mem_sortBy.mp hmem)
  exact startingWith_module_enumeration hname hvalues

/-- Neither the forward declarations nor the bodies of the classes open a module. -/
theorem classes_openNoModule {structs : List Struct} {bodies : List Outline}
    (hbodies : List.Forall₂ (IsBody naming m) structs bodies) :
    (introduction ++ Outline.join (structs.map (forward naming m)) ++
      Outline.join bodies).Each OpensNoModule := by
  refine .append (.append introduction_opensNoModule (.join ?_)) (.join ?_)
  · intro o hmem
    obtain ⟨s, -, rfl⟩ := List.mem_map.mp hmem
    exact forward_opensNoModule naming m s
  · intro o hmem
    obtain ⟨s, -, hbody⟩ := exists_left_of_forall₂ hbodies hmem
    exact body_opensNoModule hbody

/-- The modules that a source opens are those around it and those of its enumerations. -/
theorem startingWith_module_outline (hproper : m.HasProperNames) (h : outline naming m = .ok o)
    (level : Nat) : startingWith ["module "] (o.linesAt level) =
      (Text.moduleParts naming.moduleName).map ("module " ++ ·) ++
        (enumerationsInOrder m).map fun e => "module " ++ e.name.className := by
  obtain ⟨bodies, hbodies, rfl⟩ := outline_eq_ok_iff.mp h
  have hends : ∀ line ∈ List.replicate (Text.moduleParts naming.moduleName).length "end" ++
      Outline.blank.texts, OpensNoModule line := by
    intro line hmem
    rcases List.mem_append.mp hmem with hmem | hmem
    · rw [(List.mem_replicate.mp hmem).2]
      decide
    · exact Outline.blank_opensNoModule line hmem
  rw [startingWith_linesAt, Outline.texts, List.append_assoc, startingWith_append,
    startingWith_append, startingWith_modules, Outline.texts_append, startingWith_append,
    Outline.startingWith_module_eq_nil (classes_openNoModule hbodies),
    startingWith_module_enumerations hproper, startingWith_eq_nil ['m'] (by simp) hends,
    List.nil_append, List.append_nil]

end Classes

end RubyClasses
