import RubyClasses.Proofs.Classes.Completeness
import RubyClasses.Proofs.Name.SnakeCase

/-! # The methods of a class

A class defines a getter and a setter for each member, and a constructor. The names of members keep
the accessors apart, since no accessor has an equality sign in it. The constructor has a name of its
own, which is not set aside: it is also that of the getter of a member that is named so.
-/

namespace RubyClasses

open Line

namespace Line

/-- The method that a line defines: what stands behind `def` up to the parameters, or the setter
that belongs to an attribute. -/
def method? (line : String) : Option String :=
  if startsWithAny ["def "] line then
    some (String.ofList ((line.toList.drop 4).takeWhile (· != '(')))
  else if startsWithAny ["attr_writer :"] line then
    some (String.ofList (line.toList.drop 13) ++ "=")
  else none

/-- The methods that some lines define, in order. -/
def methods (lines : List String) : List String := (methodLines lines).filterMap method?

/-- A line defines the method between `def` and the bracket of its parameters. -/
theorem method?_def {word : String} (rest : String) (hword : '(' ∉ word.toList)
    (hrest : ∀ c ∈ rest.toList.head?, c = '(') :
    method? ("def " ++ (word ++ rest)) = some word := by
  have hstart : startsWithAny ["def "] ("def " ++ (word ++ rest)) = true := by
    simp [startsWithAny, List.isPrefixOf]
  have hchars : ("def " ++ (word ++ rest)).toList.drop 4 = word.toList ++ rest.toList := by
    simp
  have hwhole : ∀ c ∈ word.toList, (c != '(') = true := by
    intro c hc
    simpa using ne_of_mem_of_not_mem hc hword
  have hnext : rest.toList.takeWhile (· != '(') = [] := by
    cases hcs : rest.toList with
    | nil => rfl
    | cons c cs =>
        have hc : c = '(' := hrest c (by simp [hcs])
        simp [hc]
  rw [method?, if_pos hstart, hchars, List.takeWhile_append_of_pos hwhole, hnext, List.append_nil,
    String.ofList_toList]

/-- An attribute that can be written stands for its setter. -/
theorem method?_writer (word : String) :
    method? ("attr_writer :" ++ word) = some (word ++ "=") := by
  have hdef : startsWithAny ["def "] ("attr_writer :" ++ word) = false := by
    simp [startsWithAny, List.isPrefixOf]
  have hstart : startsWithAny ["attr_writer :"] ("attr_writer :" ++ word) = true := by
    simp [startsWithAny, List.isPrefixOf]
  have hchars : ("attr_writer :" ++ word).toList.drop 13 = word.toList := by simp
  rw [method?, hdef, if_neg Bool.false_ne_true, if_pos hstart, hchars, String.ofList_toList]

end Line

namespace Accessors

/-- Every setter of a property defines the method of the property with an equality sign. -/
theorem Sets.method? {property setter : String} (h : Sets property setter)
    (hproperty : '(' ∉ property.toList) : Line.method? setter = some (property ++ "=") := by
  cases h with
  | writer => exact method?_writer property
  | method parameter _ =>
      have hparts : "def " ++ property ++ "=(" ++ parameter ++ ")" =
          "def " ++ ((property ++ "=") ++ ("(" ++ parameter ++ ")")) := by
        simp [← String.toList_inj]
      rw [hparts]
      exact method?_def _ (by simpa using hproperty) (by simp)

theorem Defines.methods_eq {property : String} {lines : List String} (h : Defines property lines)
    (hproperty : '(' ∉ property.toList) : methods lines = [property, property ++ "="] := by
  obtain ⟨setter, hsets, hlines⟩ := h
  have hgetter := method?_def "" hproperty (by simp)
  rw [String.append_empty] at hgetter
  rw [methods, hlines]
  simp [hgetter, hsets.method? hproperty]

end Accessors

/-- The methods that a member asks for: its getter and its setter. -/
def Member.methods (member : Member) : List String :=
  [member.name.accessorName, member.name.accessorName ++ "="]

namespace Name.IsProper

variable {name : Name}

/-- No accessor is called like a setter. -/
theorem accessorName_ne_append (h : name.IsProper) (text : String) :
    name.accessorName ≠ text ++ "=" := by
  intro heq
  apply h.notMem_accessorName (c := '=') rfl
  simp [heq]

/-- Only the member of that name has a getter that is called like a constructor. -/
theorem accessorName_eq_initialize_iff (h : name.IsProper) :
    name.accessorName = "initialize" ↔ name = ⟨["initialize"]⟩ := by
  have hspelled : ofText? "initialize" = some ⟨["initialize"]⟩ := by decide +kernel
  have haccessor : (Name.mk ["initialize"]).accessorName = "initialize" := by decide +kernel
  constructor
  · intro heq
    exact h.accessorName_injective (isProper_of_ofText? hspelled) (heq.trans haccessor.symm)
  · rintro rfl
    exact haccessor

end Name.IsProper

section Members

variable {members : List Member} (hproper : ∀ member ∈ members, member.name.IsProper)

include hproper

/-- The accessors of members define the methods that the members ask for. -/
theorem methods_flatMap_of_forall₂ {parts : List (List String)}
    (h : List.Forall₂ (fun member part => Accessors.Defines member.name.accessorName part)
      members parts) : (parts.flatMap methodLines).filterMap method? =
        members.flatMap Member.methods := by
  induction h with
  | nil => rfl
  | @cons member part members parts hdefines _ ih =>
      obtain ⟨hmember, hmembers⟩ := List.forall_mem_cons.mp hproper
      have hparenthesis := hmember.notMem_accessorName (c := '(') rfl
      rw [List.flatMap_cons, List.filterMap_append, ih hmembers, List.flatMap_cons]
      exact congrArg (· ++ _) (hdefines.methods_eq hparenthesis)

/-- Members with different names share no method. -/
theorem nodup_flatMap_methods (hdistinct : (members.map Member.name).Nodup) :
    (members.flatMap Member.methods).Nodup := by
  rw [List.nodup_flatMap]
  constructor
  · intro member hmember
    have hne := (hproper member hmember).accessorName_ne_append member.name.accessorName
    simpa [Member.methods] using hne
  · refine (List.pairwise_map.mp hdistinct).imp_of_mem ?_
    intro member other hmember hother hne
    have hmemberProper := hproper member hmember
    have hotherProper := hproper other hother
    apply List.disjoint_left.mpr
    intro text htext htext'
    simp only [Member.methods, List.mem_cons, List.not_mem_nil, or_false] at htext htext'
    rcases htext with rfl | rfl <;> rcases htext' with heq | heq
    · exact hne (hmemberProper.accessorName_injective hotherProper heq)
    · exact hmemberProper.accessorName_ne_append _ heq
    · exact hotherProper.accessorName_ne_append _ heq.symm
    · exact hne (hmemberProper.accessorName_injective hotherProper
        (by simpa [← String.toList_inj] using heq))

/-- Members ask for the method of a constructor only if one of them is named so. -/
theorem initialize_mem_flatMap_methods_iff :
    "initialize" ∈ members.flatMap Member.methods ↔
      ∃ member ∈ members, member.name = ⟨["initialize"]⟩ := by
  have hends : ∀ text : String, "initialize" ≠ text ++ "=" := by
    intro text heq
    have hlast := congrArg (fun line : String => line.toList.getLast?) heq
    simp at hlast
  rw [List.mem_flatMap]
  refine exists_congr fun member => and_congr_right fun hmember => ?_
  simp only [Member.methods, List.mem_cons, List.not_mem_nil, or_false, hends,
    eq_comm (a := "initialize")]
  exact (hproper member hmember).accessorName_eq_initialize_iff

end Members

namespace Classes

/-- The methods of a class: those that its members ask for, which are distinct, and a constructor,
which is called like one of them only if there is a member of this name. -/
structure HasMethods (s : Struct) (lines : List String) : Prop where
  methods_eq : ∃ accessors, methods lines = accessors ++ ["initialize"] ∧ accessors.Nodup ∧
    accessors.Perm ((s.attributes ++ s.links).flatMap Member.methods)
  nodup_iff : (methods lines).Nodup ↔
    ∀ member ∈ s.attributes ++ s.links, member.name ≠ ⟨["initialize"]⟩

/-- A complete class defines the methods that its members ask for, and then its constructor. -/
theorem IsComplete.methods_eq {level : Nat} {header : String} {s : Struct}
    {attributes links : List Member} {properties lines : List String}
    (h : IsComplete level header s attributes links properties lines)
    (hproper : ∀ member ∈ attributes ++ links, member.name.IsProper) :
    methods lines = (attributes ++ links).flatMap Member.methods ++ ["initialize"] := by
  obtain ⟨accessors, hdefines, -, hlines⟩ := h.parts
  have hinitializer : method? initializer = some "initialize" := by decide +kernel
  rw [methods, hlines, List.filterMap_append, methods_flatMap_of_forall₂ hproper hdefines]
  simp [hinitializer]

theorem IsComplete.hasMethods {level : Nat} {header : String} {s : Struct}
    {attributes links : List Member} {properties lines : List String}
    (h : IsComplete level header s attributes links properties lines)
    (hproper : ∀ member ∈ s.attributes ++ s.links, member.name.IsProper)
    (hdistinct : ((s.attributes ++ s.links).map Member.name).Nodup) : HasMethods s lines := by
  have hperm : (attributes ++ links).Perm (s.attributes ++ s.links) :=
    h.attributes_sorted.perm.append h.links_sorted.perm
  have hproperSorted : ∀ member ∈ attributes ++ links, member.name.IsProper :=
    fun member hmember => hproper member (hperm.mem_iff.mp hmember)
  have hmethods := h.methods_eq hproperSorted
  have hnodup := nodup_flatMap_methods hproperSorted ((hperm.map _).nodup_iff.mpr hdistinct)
  refine ⟨⟨_, hmethods, hnodup, hperm.flatMap_right _⟩, ?_⟩
  have hinitialize := initialize_mem_flatMap_methods_iff hproper
  rw [← (hperm.flatMap_right Member.methods).mem_iff] at hinitialize
  rw [hmethods, List.nodup_append', List.disjoint_singleton, hinitialize]
  simp only [hnodup, List.nodup_singleton, true_and, not_exists, not_and, ne_eq]

/-- The class of a struct with supported members of different names defines a getter and a setter
for each of them and a constructor. These methods are distinct unless a member is called
`initialize`, and then only its getter and the constructor have the same name. -/
theorem body_hasMethods (naming : Naming) (m : Model) (index : Nat) (s : Struct)
    (hsupports : ∀ member ∈ s.attributes ++ s.links, m.Supports member.type)
    (hspelled : ∀ member ∈ s.attributes ++ s.links, ∃ text, Name.ofText? text = some member.name)
    (hdistinct : ((s.attributes ++ s.links).map Member.name).Nodup) :
    ∃ o, body naming m index s = .ok o ∧ ∀ level, HasMethods s (o.linesAt level) := by
  obtain ⟨o, hbody, ho⟩ := exists_body index hsupports
  have hproper : ∀ member ∈ s.attributes ++ s.links, member.name.IsProper := by
    intro member hmember
    obtain ⟨text, htext⟩ := hspelled member hmember
    exact Name.isProper_of_ofText? htext
  exact ⟨o, hbody, fun level => (isComplete_body ho).hasMethods hproper hdistinct⟩

/-- A struct with a reserved word, a name that starts with it, and a name like `initialize`. -/
def lessonStruct : Struct :=
  ⟨⟨["lesson"]⟩, none, [⟨⟨["class"]⟩, .primitive .string⟩, ⟨⟨["initializer"]⟩, .primitive .date⟩],
    [⟨⟨["class", "size"]⟩, .list (.primitive .integer)⟩]⟩

theorem body_hasMethods_lessonStruct :
    ∃ o, body teamNaming ⟨[]⟩ 0 lessonStruct = .ok o ∧ (methods (o.linesAt 1)).Nodup ∧
      (methods (o.linesAt 1)).Perm ["class_", "class_=", "initializer", "initializer=",
        "class_size", "class_size=", "initialize"] := by
  have hsupports : ∀ member ∈ lessonStruct.attributes ++ lessonStruct.links,
      (Model.mk []).Supports member.type := by
    intro member hmember
    apply Model.Supports.of_shape
    revert member
    decide
  have hspelled : ∀ member ∈ lessonStruct.attributes ++ lessonStruct.links,
      ∃ text, Name.ofText? text = some member.name := by
    simp only [lessonStruct, List.cons_append, List.nil_append, List.forall_mem_cons]
    exact ⟨⟨"class", by decide +kernel⟩, ⟨"initializer", by decide +kernel⟩,
      ⟨"classSize", by decide +kernel⟩, by simp⟩
  obtain ⟨o, hbody, hmethods⟩ := body_hasMethods teamNaming ⟨[]⟩ 0 lessonStruct hsupports hspelled
    (by decide)
  obtain ⟨⟨accessors, hlines, -, hperm⟩, hnodup⟩ := hmethods 1
  refine ⟨o, hbody, hnodup.mpr (by decide), ?_⟩
  rw [hlines]
  exact (hperm.append_right _).trans (by decide +kernel)

/-- A struct with a member whose getter is called like a constructor. -/
def jobStruct : Struct :=
  ⟨⟨["job"]⟩, none, [⟨⟨["initialize"]⟩, .primitive .string⟩], []⟩

/-- A class can define the method of its constructor twice. -/
theorem not_nodup_methods_jobStruct :
    Name.ofText? "initialize" = some ⟨["initialize"]⟩ ∧
      ∃ o, body teamNaming ⟨[]⟩ 0 jobStruct = .ok o ∧
        methods (o.linesAt 1) = ["initialize", "initialize=", "initialize"] ∧
        ¬ (methods (o.linesAt 1)).Nodup := by
  have hspelled : Name.ofText? "initialize" = some ⟨["initialize"]⟩ := by decide +kernel
  have hsupports : ∀ member ∈ jobStruct.attributes ++ jobStruct.links,
      (Model.mk []).Supports member.type := by
    intro member hmember
    rw [List.mem_singleton.mp hmember]
    exact .one (.primitive _)
  obtain ⟨o, hbody, ho⟩ := exists_body 0 hsupports
  have hcomplete : IsComplete 1 _ jobStruct _ _ _ (o.linesAt 1) := isComplete_body ho
  have hmethods : methods (o.linesAt 1) = ["initialize", "initialize=", "initialize"] := by
    rw [hcomplete.methods_eq]
    · simp only [jobStruct, Name.sortBy, List.mergeSort_singleton, List.mergeSort_nil]
      decide +kernel
    · intro member hmember
      simp only [jobStruct, Name.sortBy, List.mergeSort_singleton, List.mergeSort_nil,
        List.append_nil, List.mem_singleton] at hmember
      exact hmember ▸ Name.isProper_of_ofText? hspelled
  refine ⟨hspelled, o, hbody, hmethods, ?_⟩
  rw [hmethods]
  decide

end Classes

end RubyClasses
