import RubyClasses.Proofs.Classes.Completeness
import RubyClasses.Proofs.Classes.Modules
import RubyClasses.Proofs.Name.Identifiers

/-! # Modules of enumerations

Behind the last class, a source has one module for each enumeration, in the order of their names. A
module assigns a literal to a constant for each value of the enumeration, in the order of the
values, and reading the literals gives the values back.
-/

namespace RubyClasses

open Line

namespace Line

/-- The constant that a line assigns a literal to, and the literal. -/
def assignment? (line : String) : Option (String × String) :=
  let cs := (unindented line).toList
  match cs.dropWhile (· != ' ') with
  | ' ' :: '=' :: ' ' :: '\'' :: rest =>
      if rest.dropWhile (· != '\'') = ['\''] then
        some (String.ofList (cs.takeWhile (· != ' ')), String.ofList (rest.takeWhile (· != '\'')))
      else none
  | _ => none

@[simp]
theorem assignment?_indented (level : Nat) (line : String) :
    assignment? (Buffer.indented level line) = assignment? line := by
  rw [assignment?, unindented_indented, assignment?]

/-- A module is no assignment unless its name looks like the end of one. -/
theorem assignment?_module {name : String} (h : name.toList.head? ≠ some '=') :
    assignment? ("module " ++ name) = none := by
  have hflush : unindented ("module " ++ name) = "module " ++ name :=
    unindented_eq_self (head?_append_ne (c := 'm') (by decide) (by decide) _)
  rw [assignment?, hflush]
  cases hchars : name.toList with
  | nil => simp [hchars]
  | cons c rest =>
      have hc : c ≠ '=' := by simpa [hchars] using h
      simp [hchars, hc]

/-- A text is cut where a character occurs first. -/
theorem cut_at {front : List Char} {c : Char} (h : c ∉ front) (rest : List Char) :
    (front ++ c :: rest).takeWhile (· != c) = front ∧
      (front ++ c :: rest).dropWhile (· != c) = c :: rest := by
  have hfront : ∀ d ∈ front, (d != c) = true := by
    intro d hd
    simpa using ne_of_mem_of_not_mem hd h
  rw [List.takeWhile_append_of_pos hfront, List.dropWhile_append_of_pos hfront]
  simp

/-- An assignment is read as its constant and its literal. -/
theorem assignment?_eq {constant literal : String} (hne : constant ≠ "")
    (hconstant : ' ' ∉ constant.toList) (hliteral : '\'' ∉ literal.toList) :
    assignment? (constant ++ " = '" ++ literal ++ "'") = some (constant, literal) := by
  have hline : (constant ++ " = '" ++ literal ++ "'").toList =
      constant.toList ++ ' ' :: '=' :: ' ' :: '\'' :: (literal.toList ++ '\'' :: []) := by
    simp [String.toList_append]
  have hflush : (constant ++ " = '" ++ literal ++ "'").toList.head? ≠ some ' ' := by
    rw [hline]
    cases hchars : constant.toList with
    | nil => exact absurd (String.toList_injective hchars) hne
    | cons c rest =>
        have hc : c ≠ ' ' := by
          rintro rfl
          exact hconstant (by simp [hchars])
        simpa using hc
  obtain ⟨hword, hrest⟩ := cut_at hconstant ('=' :: ' ' :: '\'' :: (literal.toList ++ '\'' :: []))
  obtain ⟨htext, hquote⟩ := cut_at hliteral []
  rw [assignment?, unindented_eq_self hflush, hline]
  simp only [hword, hrest, htext, hquote, if_true, String.ofList_toList]

end Line

theorem Name.IsProper.assignment?_constant {value : Name} (h : value.IsProper) :
    assignment? (Classes.constant value) = some (value.constantName, value.accessorName) := by
  refine assignment?_eq ?_ ?_ (h.notMem_accessorName (by decide))
  · intro hempty
    obtain ⟨c, rest, hchars, -⟩ := h.exists_constantName
    rw [hempty] at hchars
    cases hchars
  · intro hmem
    have hchar := h.isConstantChar_of_mem hmem
    cases hchar

namespace Classes

/-- The lines of the module of an enumeration whose values are listed in ascending order. -/
structure IsEnumeration (level : Nat) (e : Enumeration) (values : List Name)
    (lines : List String) : Prop where
  /-- Every value is listed as often as it occurs. -/
  values_perm : values.Perm e.values
  values_ascending : values.Pairwise fun a b => a ≤ b
  /-- There is one line for each value, between the lines that open and close the module. -/
  lines_eq : lines = Buffer.indented level ("module " ++ e.name.className) ::
    (values.map fun value => Buffer.indented (level + 1)
      (value.constantName ++ " = '" ++ value.accessorName ++ "'")) ++
    [Buffer.indented level "end", ""]
  /-- The assignments that the lines are read as. -/
  assignments_eq : lines.filterMap assignment? =
    values.map fun value => (value.constantName, value.accessorName)
  /-- The literals spell the values. -/
  reads_back : (lines.filterMap assignment?).map (fun found => Name.ofText? found.2) =
    values.map some
  /-- Different values have different constants and different literals. -/
  told_apart : ∀ first ∈ values, ∀ second ∈ values, first ≠ second →
    first.constantName ≠ second.constantName ∧ first.accessorName ≠ second.accessorName

variable {naming : Naming} {m : Model} {e : Enumeration}

theorem linesAt_enumeration (hname : e.name.IsProper) (level : Nat) :
    (enumeration e).linesAt level = Buffer.indented level ("module " ++ e.name.className) ::
      ((Name.sortBy id e.values).map fun value => Buffer.indented (level + 1) (constant value)) ++
      [Buffer.indented level "end", ""] := by
  simp [enumeration, Outline.linesAt, hname.moduleParts_className, Outline.openings,
    Outline.closings, Outline.linesAt_ofLines, Outline.blank, Buffer.indented, Function.comp_def]

/-- Each line between the first and the last ones of a module is read as an assignment. -/
theorem assignments_enumeration (hname : e.name.IsProper)
    (hvalues : ∀ value ∈ e.values, value.IsProper) (level : Nat) :
    ((enumeration e).linesAt level).filterMap assignment? =
      (Name.sortBy id e.values).map fun value => (value.constantName, value.accessorName) := by
  have hheader : assignment? ("module " ++ e.name.className) = none := by
    apply assignment?_module
    intro hhead
    have hchar := hname.isWordChar_className (List.mem_of_mem_head? hhead)
    cases hchar
  have hend : assignment? "end" = none := by decide
  have hblank : assignment? "" = none := by decide
  have hconstants : ∀ value ∈ Name.sortBy id e.values,
      assignment? (constant value) = some (value.constantName, value.accessorName) :=
    fun value hmem => (hvalues value (Name.mem_sortBy.mp hmem)).assignment?_constant
  rw [linesAt_enumeration hname]
  simp only [List.cons_append, List.filterMap_cons, List.filterMap_append, List.filterMap_map,
    Function.comp_def, assignment?_indented, hheader, hend, hblank, List.filterMap_nil,
    List.append_nil]
  rw [List.filterMap_congr hconstants]
  exact congrFun List.filterMap_eq_map _

theorem isEnumeration_enumeration (hname : e.name.IsProper)
    (hvalues : ∀ value ∈ e.values, value.IsProper) (level : Nat) :
    IsEnumeration level e (Name.sortBy id e.values) ((enumeration e).linesAt level) := by
  have hsorted : ∀ value ∈ Name.sortBy id e.values, value.IsProper :=
    fun value hmem => hvalues value (Name.mem_sortBy.mp hmem)
  have hassignments := assignments_enumeration hname hvalues level
  refine ⟨Name.sortBy_perm _ _, Name.sortBy_ascending _ _, linesAt_enumeration hname level,
    hassignments, ?_, ?_⟩
  · rw [hassignments, List.map_map]
    exact List.map_congr_left fun value hmem => (hsorted value hmem).ofText?_accessorName
  · intro first hfirst second hsecond hne
    have hproper := hsorted first hfirst
    have hother := hsorted second hsecond
    exact ⟨fun heq => hne (hproper.constantName_injective hother heq),
      fun heq => hne (hproper.accessorName_injective hother heq)⟩

/-- The level of the classes and the modules of enumerations. -/
def innerLevel (naming : Naming) : Nat := (Text.moduleParts naming.moduleName).length

/-- The lines behind the modules of the enumerations. -/
def closing (naming : Naming) : List String := Outline.closings 0 (innerLevel naming) ++ [""]

theorem ending_eq (naming : Naming) (m : Model) : ending naming m =
    ((enumerationsInOrder m).map fun e => (enumeration e).linesAt (innerLevel naming)).flatten ++
      closing naming := by
  rw [ending, List.flatMap_map, List.flatMap_def, List.append_assoc]
  rfl

/-- Nothing behind the bodies of the classes opens a class. -/
theorem classLines_ending (hproper : m.HasProperNames) (naming : Naming) :
    classLines (ending naming m) = [] := by
  have hparts : ending naming m =
      (Outline.join ((enumerationsInOrder m).map enumeration)).linesAt (innerLevel naming) ++
        Outline.closings 0 (innerLevel naming) ++ Outline.blank.linesAt 0 := by
    rw [Outline.linesAt_join]
    rfl
  have hquiet : ∀ line ∈ ending naming m, StaysWithin [] (unindented line) := by
    rw [hparts]
    exact fun _ hline => staysWithin_of_mem_closing hproper hline
  exact StaysWithin.classLines_eq_nil hquiet

theorem enumerationsInOrder_ascending
    (hdistinct : (m.enumerations.map fun entry => entry.2.name).Nodup) :
    (enumerationsInOrder m).Pairwise fun first second => first.name < second.name := by
  have hperm := (Name.sortBy_perm Enumeration.name (m.enumerations.map Prod.snd)).map
    Enumeration.name
  rw [List.map_map] at hperm
  have hnodup := hperm.nodup_iff.mpr hdistinct
  have hascending := Name.sortBy_ascending Enumeration.name (m.enumerations.map Prod.snd)
  exact (hascending.and (List.pairwise_map.mp hnodup)).imp fun h => lt_of_le_of_ne h.1 h.2

/-- The lines of a source end with modules for the enumerations of a model. -/
structure EndsWithEnumerations (naming : Naming) (m : Model) (lines : List String)
    (bodies : List (List String)) (enumerations : List Enumeration)
    (modules : List (List String)) : Prop where
  /-- The modules come behind the bodies of the classes. -/
  lines_eq : lines = opening naming m ++ bodies.flatten ++ modules.flatten ++ closing naming
  bodies_complete : List.Forall₂ (fun entry body => ∃ attributes links properties,
    IsComplete (innerLevel naming) (header naming m entry.2) entry.2 attributes links properties
      body) m.declarationOrder bodies
  /-- No class is opened behind the bodies. -/
  classLines_eq : classLines (modules.flatten ++ closing naming) = []
  /-- Each enumeration is listed once. -/
  enumerations_perm : enumerations.Perm (m.enumerations.map Prod.snd)
  enumerations_ascending : enumerations.Pairwise fun first second => first.name < second.name
  modules_complete : List.Forall₂ (fun e lines => ∃ values,
    IsEnumeration (innerLevel naming) e values lines) enumerations modules
  /-- No other modules are opened but those around the source. -/
  moduleLines_eq : startingWith ["module "] lines =
    (Text.moduleParts naming.moduleName).map ("module " ++ ·) ++
      enumerations.map fun e => "module " ++ e.name.className

end Classes

open Classes

/-- The source of a sound model ends with one module for each enumeration, in the order of their
names. -/
theorem Generation.endsWithEnumerations {g : Generation} (hsound : g.model.IsSound)
    (hproper : g.model.HasProperNames)
    (hdistinct : (g.model.enumerations.map fun entry => entry.2.name).Nodup) :
    ∃ b, g.buffer = .ok b ∧ ∃ bodies enumerations modules,
      EndsWithEnumerations g.naming g.model b.lines bodies enumerations modules := by
  obtain ⟨b, hbuffer⟩ := exists_buffer hsound
  obtain ⟨o, ho, hlines⟩ := exists_outline hbuffer
  obtain ⟨bodies, hbodies, hparts⟩ := linesAt_outline_eq ho
  let level := innerLevel g.naming
  refine ⟨b, hbuffer, bodies.map (Outline.linesAt level), enumerationsInOrder g.model,
    (enumerationsInOrder g.model).map fun e => (enumeration e).linesAt level, ?_⟩
  refine ⟨?_, ?_, ?_, Name.sortBy_perm _ _, enumerationsInOrder_ascending hdistinct, ?_, ?_⟩
  · rw [hlines, hparts, ending_eq, ← List.append_assoc]
    rfl
  · rw [List.forall₂_map_right_iff]
    rw [List.forall₂_map_left_iff] at hbodies
    exact hbodies.imp fun _ _ hbody => ⟨_, _, _, isComplete_body hbody⟩
  · rw [← ending_eq]
    exact classLines_ending hproper g.naming
  · rw [List.forall₂_map_right_iff, List.forall₂_same]
    intro e hmem
    obtain ⟨hname, hvalues⟩ := hproper.enumeration (Name.mem_sortBy.mp hmem)
    exact ⟨_, isEnumeration_enumeration hname hvalues level⟩
  · rw [hlines]
    exact startingWith_module_outline hproper ho 0

/-- Two enumerations around a struct that refers to one of them. The first one has a value twice
and a reserved word among its values. -/
def deckText : String :=
  "\x7b\"types\":[" ++
  "\x7b\"kind\":\"enum\",\"name\":\"suit\",\"values\":[\"spade\",\"End\",\"spade\"]\x7d," ++
  "\x7b\"kind\":\"struct\",\"name\":\"card\"," ++
  "\"attributes\":[\x7b\"name\":\"suit\",\"type\":\"suit\"\x7d]\x7d," ++
  "\x7b\"kind\":\"enum\",\"name\":\"rank\",\"values\":[\"ace\"]\x7d]\x7d"

/-- The model that the text describes. -/
def deckModel : Model where
  declarations := [
    .enumeration ⟨⟨["suit"]⟩, [⟨["spade"]⟩, ⟨["end"]⟩, ⟨["spade"]⟩]⟩,
    .struct ⟨⟨["card"]⟩, none, [⟨⟨["suit"]⟩, .declared 0⟩], []⟩,
    .enumeration ⟨⟨["rank"]⟩, [⟨["ace"]⟩]⟩]

theorem deckModel_isSound : deckModel.IsSound :=
  .of_shapes ⟨by decide, by decide, Hierarchy.acyclic_of_heights (fun _ => 0) (by decide)⟩
    (by decide)

theorem deckModel_hasProperNames : deckModel.HasProperNames := by
  have hread : (Model.ofText deckText).toOption = some deckModel := by decide +kernel
  obtain ⟨document, -, hmodel⟩ := Model.ofText_eq_ok_iff.mp (toOption_eq_some_iff.mp hread)
  exact hmodel.hasProperNames

/-- A configuration with a module inside another one. -/
def deckNaming : Naming := Naming.configure "Games::Cards" "" "Struct"

/-- The modules of the two enumerations are in the order of their names. -/
theorem Generation.endsWithEnumerations_deckModel :
    deckModel.IsSound ∧ deckModel.HasProperNames ∧
      (deckModel.enumerations.map fun entry => entry.2.name).Nodup ∧
      ∃ b, Generation.buffer ⟨deckModel, deckNaming, []⟩ = .ok b ∧
        startingWith ["module "] b.lines =
          ["module Games", "module Cards", "module Rank", "module Suit"] := by
  have hdistinct : (deckModel.enumerations.map fun entry => entry.2.name).Nodup := by decide
  refine ⟨deckModel_isSound, deckModel_hasProperNames, hdistinct, ?_⟩
  obtain ⟨b, hbuffer, bodies, enumerations, modules, hends⟩ :=
    endsWithEnumerations (g := ⟨deckModel, deckNaming, []⟩) deckModel_isSound
      deckModel_hasProperNames hdistinct
  have hnames : enumerations.map Enumeration.name = [⟨["rank"]⟩, ⟨["suit"]⟩] := by
    have hperm := hends.enumerations_perm.map Enumeration.name
    have hswap : [⟨["suit"]⟩, ⟨["rank"]⟩].Perm [(⟨["rank"]⟩ : Name), ⟨["suit"]⟩] := .swap _ _ []
    refine (hperm.trans hswap).eq_of_pairwise (fun _ _ _ _ h h' => absurd h' h.not_gt)
      (List.pairwise_map.mpr hends.enumerations_ascending) (by decide)
  have hmodules := hends.moduleLines_eq
  have hclasses : (enumerations.map fun e => "module " ++ e.name.className) =
      (enumerations.map Enumeration.name).map fun name => "module " ++ name.className := by
    rw [List.map_map]
    rfl
  rw [hclasses, hnames] at hmodules
  exact ⟨b, hbuffer, hmodules.trans (by decide +kernel)⟩

end RubyClasses
