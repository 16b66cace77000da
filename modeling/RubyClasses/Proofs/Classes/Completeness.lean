import RubyClasses.Proofs.Classes.Declarations
import RubyClasses.Proofs.Classes.Support
import RubyClasses.Proofs.Outline.Looks
import RubyClasses.Proofs.Rearrangement.Translation

/-! # Classes are complete

The class of a struct has a getter and a setter for each member that the struct declares, in the
order of the names of the members, and then a constructor that assigns each of them, in the order of
the properties. It defines no other methods.
-/

namespace RubyClasses

open Line

namespace Line

/-- The lines that define a method, without their indentation. -/
def methodLines (lines : List String) : List String :=
  (lines.map unindented).filter (startsWithAny ["def ", "attr_writer :"])

theorem methodLines_append (first second : List String) :
    methodLines (first ++ second) = methodLines first ++ methodLines second :=
  startingWith_append _ first second

theorem methodLines_flatten (parts : List (List String)) :
    methodLines parts.flatten = parts.flatMap methodLines := startingWith_flatten _ parts

/-- A line starts like no definition of a method. -/
def startsElsewhere (line : String) : Bool :=
  line.toList.head?.all fun c => c != ' ' && c != 'd' && c != 'a'

/-- Lines that start elsewhere define no method. -/
theorem methodLines_eq_nil {lines : List String}
    (h : ∀ line ∈ lines, startsElsewhere line = true) : methodLines lines = [] := by
  refine startingWith_eq_nil ['d', 'a'] (by simp) fun line hline => ?_
  have hstart := h line hline
  unfold startsElsewhere at hstart
  cases hhead : line.toList.head? with
  | none => simp [startsApart, hhead]
  | some c => simpa [startsApart, hhead, and_assoc] using hstart

/-- Methods are told apart without their indentation, so the level of an outline does not matter. -/
theorem methodLines_linesAt (level : Nat) (o : Outline) :
    methodLines (o.linesAt level) = methodLines o.texts := startingWith_linesAt _ level o

/-- A line that starts with a word for definitions is such a definition. -/
theorem methodLines_of_start (word rest : String) (hword : word ∈ ["def ", "attr_writer :"]) :
    methodLines [word ++ rest] = [word ++ rest] := by
  have hflush : unindented (word ++ rest) = word ++ rest := by
    simp only [List.mem_cons, List.not_mem_nil, or_false] at hword
    rcases hword with rfl | rfl
    · exact unindented_eq_self (head?_append_ne (c := 'd') (by decide) (by decide) _)
    · exact unindented_eq_self (head?_append_ne (c := 'a') (by decide) (by decide) _)
  have hstart : startsWithAny ["def ", "attr_writer :"] (word ++ rest) = true := by
    apply List.any_eq_true.mpr
    refine ⟨word, hword, List.isPrefixOf_iff_prefix.mpr ?_⟩
    rw [String.toList_append]
    exact List.prefix_append _ _
  simp [methodLines, hflush, hstart]

end Line

/-- Members in the order of their names. Members of the same name keep their order. -/
structure SortsMembers (members sorted : List Member) : Prop where
  perm : sorted.Perm members
  ascending : sorted.Pairwise fun a b => a.name ≤ b.name
  stable : ∀ kept : List Member, kept.Sublist members →
    kept.Pairwise (fun a b => a.name ≤ b.name) → kept.Sublist sorted

theorem sortsMembers_sortBy (members : List Member) :
    SortsMembers members (Name.sortBy Member.name members) where
  perm := Name.sortBy_perm _ _
  ascending := Name.sortBy_ascending _ _
  stable _ hkept hascending := Name.sortBy_stable _ hkept hascending

namespace Accessors

/-- A line that defines the setter of a property. -/
inductive Sets (property : String) : String → Prop
  | writer : Sets property ("attr_writer :" ++ property)
  | method (parameter : String) : parameter ∈ ["value", "object", "list"] →
      Sets property ("def " ++ property ++ "=(" ++ parameter ++ ")")

/-- Lines that define the getter of a property, then its setter, and nothing else. -/
def Defines (property : String) (lines : List String) : Prop :=
  ∃ setter, Sets property setter ∧ methodLines lines = ["def " ++ property, setter]

variable {naming : Naming} {property : String}

theorem methodLines_comment (lines : List String) : methodLines (comment lines).texts = [] := by
  apply methodLines_eq_nil
  intro line hmem
  simp only [comment, Outline.texts_ofLines, List.mem_append, List.mem_singleton,
    List.mem_map] at hmem
  rcases hmem with (rfl | ⟨l, -, rfl⟩) | rfl
  · decide
  · split
    · decide
    · simp [startsElsewhere]
  · decide

/-- A method whose body defines none is the only one in its lines. -/
theorem methodLines_method {header : String} {body : Outline} (rest : String)
    (hheader : header = "def " ++ rest) (hbody : methodLines body.texts = []) :
    methodLines (Outline.ofBlock header body).texts = [header] := by
  have hend : methodLines ["end"] = [] := methodLines_eq_nil (by decide)
  have hfirst := methodLines_of_start "def " rest (by decide)
  rw [Outline.texts_ofBlock, ← List.singleton_append, methodLines_append, methodLines_append,
    hbody, hend, hheader, hfirst]
  rfl

theorem methodLines_blank : methodLines Outline.blank.texts = [] :=
  methodLines_eq_nil (by decide)

theorem methodLines_getterOutline (naming : Naming) (property : String) (shape : Shape) :
    methodLines (getterOutline naming property shape).texts = ["def " ++ property] := by
  have hbody : methodLines (Outline.ofLines ["return @" ++ property]).texts = [] :=
    methodLines_eq_nil (by simp [startsElsewhere])
  simp only [getterOutline, Outline.texts_append, methodLines_append, methodLines_comment,
    methodLines_method _ rfl hbody, methodLines_blank]
  rfl

theorem methodLines_plainSetter (property parameter : String) :
    methodLines (plainSetter property parameter).texts =
      ["def " ++ property ++ "=(" ++ parameter ++ ")"] := by
  have hbody : methodLines (Outline.ofLines ["@" ++ property ++ " = " ++ parameter]).texts = [] :=
    methodLines_eq_nil (by simp [startsElsewhere])
  refine methodLines_method (property ++ "=(" ++ parameter ++ ")") ?_ hbody
  simp only [String.append_assoc]

theorem methodLines_structSetter (name : QualifiedName) (property : String) :
    methodLines (structSetter name property).texts = ["def " ++ property ++ "=(object)"] := by
  have hbody : methodLines (Outline.ofBlock "if object.is_a?(Hash)"
      (Outline.ofLines ["object = " ++ name.className ++ ".new(object)"]) ++
      Outline.ofLines ["@" ++ property ++ " = object"]).texts = [] :=
    methodLines_eq_nil (by simp [startsElsewhere])
  rw [structSetter, Outline.texts_append, methodLines_append, methodLines_comment, List.nil_append]
  exact methodLines_method _ (String.append_assoc ..) hbody

theorem methodLines_structListSetter (name : QualifiedName) (property : String) :
    methodLines (structListSetter name property).texts = ["def " ++ property ++ "=(list)"] := by
  have hbody : methodLines (Outline.ofBlock "if list.class == Array"
      (Outline.ofLines ["list = List.new(list)"] ++
      Outline.ofBlock "list.each_with_index do |value, index|"
        (Outline.ofBlock "if value.is_a?(Hash)"
          (Outline.ofLines ["list[index] = " ++ name.className ++ ".new(value)"]))) ++
      Outline.ofLines ["@" ++ property ++ " = list"]).texts = [] :=
    methodLines_eq_nil (by simp [startsElsewhere])
  rw [structListSetter, Outline.texts_append, methodLines_append, methodLines_comment,
    List.nil_append]
  exact methodLines_method _ (String.append_assoc ..) hbody

/-- Whatever a property holds, it has one setter. -/
theorem exists_setter (naming : Naming) (property : String) (shape : Shape) :
    ∃ setter, Sets property setter ∧
      methodLines (setterOutline naming property shape).texts = [setter] := by
  unfold setterOutline
  simp only [Outline.texts_append, methodLines_append, methodLines_blank, List.append_nil]
  -- a scalar, an enumeration, a struct, a list of structs and any other list
  split
  · refine ⟨_, .method "value" (by decide), ?_⟩
    rw [Outline.texts_append, methodLines_append, methodLines_comment, methodLines_plainSetter]
    rfl
  · refine ⟨_, .writer, ?_⟩
    rw [Outline.texts_append, methodLines_append, methodLines_comment, Outline.texts_ofLines,
      methodLines_of_start _ _ (by decide)]
    rfl
  · refine ⟨_, .method "object" (by decide), ?_⟩
    rw [methodLines_structSetter]
    simp [String.append_assoc]
  · refine ⟨_, .method "list" (by decide), ?_⟩
    rw [methodLines_structListSetter]
    simp [String.append_assoc]
  · refine ⟨_, .method "list" (by decide), ?_⟩
    rw [Outline.texts_append, methodLines_append, methodLines_comment, methodLines_plainSetter]
    rfl

/-- The accessors of a member define its getter and its setter. -/
theorem IsPair.defines {m : Model} {member : Member} {o : Outline} {level : Nat}
    (h : IsPair naming m member o) : Defines member.name.accessorName (o.linesAt level) := by
  obtain ⟨shape, -, rfl⟩ := h
  obtain ⟨setter, hsets, hsetter⟩ := exists_setter naming member.name.accessorName shape
  refine ⟨setter, hsets, ?_⟩
  rw [methodLines_linesAt, Outline.texts_append, methodLines_append, methodLines_getterOutline,
    hsetter]
  rfl

end Accessors

namespace Classes

variable {naming : Naming} {m : Model} {s : Struct} {o : Outline} {level : Nat}

/-- The line that begins a constructor. -/
def initializer : String := "def initialize(opts = \x7b\x7d)"

/-- The lines of a constructor at a level: it calls the one above it, then assigns each property. -/
def constructorLines (level : Nat) (properties : List String) : List String :=
  Buffer.indented level initializer :: Buffer.indented (level + 1) "super(opts)" ::
    (properties.map fun p => Buffer.indented (level + 1) ("self." ++ p ++ " = opts[:" ++ p ++ "]"))
    ++ [Buffer.indented level "end"]

/-- The lines of a class: its members are listed in the order of their accessors, and its properties
in the order of the assignments. -/
structure IsComplete (level : Nat) (header : String) (s : Struct) (attributes links : List Member)
    (properties : List String) (lines : List String) : Prop where
  attributes_sorted : SortsMembers s.attributes attributes
  links_sorted : SortsMembers s.links links
  /-- The properties that are assigned are those that have a getter and a setter. -/
  properties_perm :
    properties.Perm ((attributes ++ links).map fun member => member.name.accessorName)
  properties_ascending : properties.Pairwise fun a b => a ≤ b
  /-- A class consists of accessors for each member and a constructor. -/
  parts : ∃ accessors, List.Forall₂
      (fun member part => Accessors.Defines member.name.accessorName part)
      (attributes ++ links) accessors ∧
    lines = Buffer.indented level header :: "" :: (accessors.flatten ++
      constructorLines (level + 1) properties ++ ["", Buffer.indented level "end", ""]) ∧
    methodLines lines = accessors.flatMap methodLines ++ [initializer]

theorem linesAt_constructor (level : Nat) (s : Struct) :
    (constructor s).linesAt level = constructorLines level s.properties := by
  rw [constructor, Outline.linesAt_ofBlock, Outline.linesAt_ofLines, constructorLines, initializer]
  simp [Function.comp_def]

theorem methodLines_constructor (level : Nat) (s : Struct) :
    methodLines ((constructor s).linesAt level) = [initializer] := by
  rw [methodLines_linesAt]
  refine Accessors.methodLines_method "initialize(opts = \x7b\x7d)" rfl ?_
  apply methodLines_eq_nil
  intro line hmem
  rw [Outline.texts_ofLines] at hmem
  rcases List.mem_cons.mp hmem with rfl | hmem
  · decide
  · obtain ⟨p, -, rfl⟩ := List.mem_map.mp hmem
    simp [startsElsewhere]

/-- The properties of a struct belong to its members, each to one of them. -/
theorem perm_properties (s : Struct) :
    s.properties.Perm (s.sortedMembers.map fun member => member.name.accessorName) := by
  have hmembers : s.sortedMembers.Perm (s.attributes ++ s.links) :=
    (Name.sortBy_perm _ _).append (Name.sortBy_perm _ _)
  exact (List.mergeSort_perm _ _).trans (hmembers.map _).symm

/-- Only accessors and the constructor of a class define methods. -/
theorem methodLines_class (level : Nat) (naming : Naming) (m : Model) (s : Struct)
    (accessors : List Outline) :
    methodLines ((Outline.ofBlock (header naming m s) (Outline.blank ++ Outline.join accessors ++
        constructor s ++ Outline.blank) ++ Outline.blank).linesAt level) =
      (accessors.map (Outline.linesAt (level + 1))).flatMap methodLines ++ [initializer] := by
  have hheader : methodLines [header naming m s] = [] :=
    methodLines_eq_nil (by simp [header, startsElsewhere, String.append_assoc])
  have hend : methodLines ["end"] = [] := methodLines_eq_nil (by decide)
  have haccessors : methodLines (Outline.join accessors).texts =
      (accessors.map (Outline.linesAt (level + 1))).flatMap methodLines := by
    rw [← methodLines_linesAt (level + 1), Outline.linesAt_join, List.flatMap_def,
      methodLines_flatten]
  rw [methodLines_linesAt, Outline.texts_append, Outline.texts_ofBlock, ← List.singleton_append]
  simp only [Outline.texts_append, methodLines_append, hheader, hend, haccessors,
    Accessors.methodLines_blank, ← methodLines_linesAt level (constructor s),
    methodLines_constructor, List.nil_append, List.append_nil]

/-- The body of a struct is a complete class, at whatever level it stands. -/
theorem isComplete_body (h : IsBody naming m s o) :
    IsComplete level (header naming m s) s (Name.sortBy Member.name s.attributes)
      (Name.sortBy Member.name s.links) s.properties (o.linesAt level) := by
  refine ⟨sortsMembers_sortBy _, sortsMembers_sortBy _, perm_properties s,
    s.properties_ascending, ?_⟩
  obtain ⟨accessors, haccessors, rfl⟩ := h
  refine ⟨accessors.map (Outline.linesAt (level + 1)), ?_, ?_, ?_⟩
  · rw [List.forall₂_map_right_iff]
    exact haccessors.imp fun _ _ hpair => hpair.defines
  · simp [Outline.linesAt_join, linesAt_constructor, Outline.blank, Outline.linesAt,
      Buffer.indented, List.flatMap_def]
  · exact methodLines_class level naming m s accessors

/-- The lines in front of the bodies of the classes. -/
def opening (naming : Naming) (m : Model) : List String :=
  let parts := Text.moduleParts naming.moduleName
  Outline.openings 0 parts ++ introduction.linesAt parts.length ++
    (headers naming m).flatMap (forwardLines parts.length)

/-- The lines behind the bodies of the classes. -/
def ending (naming : Naming) (m : Model) : List String :=
  let parts := Text.moduleParts naming.moduleName
  ((enumerationsInOrder m).map enumeration).flatMap (Outline.linesAt parts.length) ++
    Outline.closings 0 parts.length ++ [""]

/-- The lines of a source are the bodies of its classes between an opening and an ending. -/
theorem linesAt_outline_eq (h : outline naming m = .ok o) :
    ∃ bodies, List.Forall₂ (IsBody naming m) (m.declarationOrder.map Prod.snd) bodies ∧
      o.linesAt 0 = opening naming m ++
        (bodies.map (Outline.linesAt (Text.moduleParts naming.moduleName).length)).flatten ++
        ending naming m := by
  obtain ⟨bodies, hbodies, rfl⟩ := outline_eq_ok_iff.mp h
  refine ⟨bodies, hbodies, ?_⟩
  simp only [Outline.linesAt, Outline.linesAt_append, Outline.linesAt_join, opening, ending,
    headers, List.flatMap_map, linesAt_forward, Nat.zero_add, List.append_assoc, Outline.blank,
    ← List.flatMap_def]
  rfl

end Classes

open Classes

/-- The source of a sound model has one class for each struct, in declaration order, and all of them
are complete. -/
theorem Generation.classes_complete {g : Generation} (hsound : g.model.IsSound) :
    g.model.declarationOrder.Perm g.model.structs ∧ ∃ b, g.buffer = .ok b ∧ ∃ bodies,
      b.lines = opening g.naming g.model ++ bodies.flatten ++ ending g.naming g.model ∧
      List.Forall₂ (fun entry lines => ∃ attributes links properties,
          IsComplete (Text.moduleParts g.naming.moduleName).length
            (header g.naming g.model entry.2) entry.2 attributes links properties lines)
        g.model.declarationOrder bodies := by
  obtain ⟨b, hbuffer⟩ := exists_buffer hsound
  obtain ⟨o, ho, hlines⟩ := exists_outline hbuffer
  obtain ⟨bodies, hbodies, hparts⟩ := linesAt_outline_eq ho
  refine ⟨(Model.declarationOrder_of_isForest hsound.forest).1, b, hbuffer, _,
    hlines.trans hparts, ?_⟩
  rw [List.forall₂_map_right_iff]
  rw [List.forall₂_map_left_iff] at hbodies
  exact hbodies.imp fun _ _ hbody => ⟨_, _, _, isComplete_body hbody⟩

/-- A film with a reserved word, a name that occurs twice and names that are in another order than
their properties, and a kind of film with a member of its own. -/
def filmModel : Model where
  declarations := [
    .struct ⟨⟨["short"]⟩, some (.declared 1), [⟨⟨["award"]⟩, .declared 2⟩], []⟩,
    .struct ⟨⟨["film"]⟩, none,
      [⟨⟨["part1"]⟩, .primitive .string⟩, ⟨⟨["part", "two"]⟩, .primitive .string⟩,
        ⟨⟨["end"]⟩, .primitive .date⟩],
      [⟨⟨["shorts"]⟩, .list (.declared 0)⟩, ⟨⟨["end"]⟩, .declared 1⟩]⟩,
    .enumeration ⟨⟨["award"]⟩, [⟨["bear"]⟩]⟩]

theorem filmModel_isSound : filmModel.IsSound :=
  .of_shapes ⟨by decide, by decide, Hierarchy.acyclic_of_heights (fun i => 1 - i) (by decide)⟩
    (by decide)

theorem Generation.classes_complete_filmModel :
    filmModel.IsSound ∧ ∃ b, Generation.buffer ⟨filmModel, teamNaming, []⟩ = .ok b ∧
      ∃ bodies : List (List String), b.lines = opening teamNaming filmModel ++ bodies.flatten ++
        ending teamNaming filmModel ∧ bodies.length = 2 := by
  obtain ⟨hperm, b, hbuffer, bodies, hlines, hbodies⟩ :=
    classes_complete (g := ⟨filmModel, teamNaming, []⟩) filmModel_isSound
  have hlength : bodies.length = 2 := hbodies.length_eq.symm.trans hperm.length_eq
  exact ⟨filmModel_isSound, b, hbuffer, bodies, hlines, hlength⟩

end RubyClasses
