import RubyClasses.Proofs.Classes.Bodies
import RubyClasses.Proofs.Classes.Setters
import RubyClasses.Proofs.Description.Structs

/-! # Classes are declared before they are used

The source of a model opens every class twice, in declaration order: first without a body, then with
its members. A class line names the root class or a class that was opened before, and objects are
created of classes only whose forward declarations come before all bodies.
-/

namespace RubyClasses

open Line

namespace Classes

variable {naming : Naming} {m : Model}

/-- The class lines of the structs in declaration order. -/
def headers (naming : Naming) (m : Model) : List String :=
  m.declarationOrder.map fun entry => header naming m entry.2

/-- The lines of a forward declaration at a level of indentation. -/
def forwardLines (level : Nat) (header : String) : List String :=
  [Buffer.indented level header, Buffer.indented level "end", ""]

/-- What the lines of a source say about the classes of a model. -/
structure DeclaresClasses (naming : Naming) (m : Model) (lines : List String) : Prop where
  /-- The class lines list the structs twice, and each time in declaration order. -/
  classLines_eq : classLines lines = headers naming m ++ headers naming m
  /-- Each struct is listed once. -/
  perm_structs : m.declarationOrder.Perm m.structs
  /-- A class extends the root class, or a class that was listed before it. -/
  base_before : ∀ before entry after, m.declarationOrder = before ++ entry :: after →
    entry.2.base = none ∧ header naming m entry.2 =
        "class " ++ entry.2.name.className ++ " < " ++ naming.baseClass ∨
      ∃ base ∈ before, entry.2.base = some (.declared base.1) ∧ header naming m entry.2 =
        "class " ++ entry.2.name.className ++ " < " ++ base.2.name.className
  /-- All that a class extends at a distance was listed before it. -/
  bases_before : ∀ before entry after, m.declarationOrder = before ++ entry :: after →
    ∀ index, Relation.TransGen (Hierarchy.Extends m.structs) entry.1 index →
      index ∈ before.map Prod.fst
  /-- The forward declarations come first. Objects are created of classes they declare. -/
  declared_first : ∃ level opening bodies,
    lines = opening ++ (headers naming m).flatMap (forwardLines level) ++ bodies ∧
    classLines opening = [] ∧ classLines bodies = headers naming m ∧
    ∀ line ∈ lines, ∀ className, Creates className (unindented line) →
      unindented line = listCreation ∨
        ∃ base, "class " ++ className ++ " < " ++ base ∈ headers naming m

section Lines

variable {s : Struct} {o : Outline} {level : Nat}

theorem unindented_header : unindented (header naming m s) = header naming m s := by
  simp only [header, String.append_assoc]
  exact unindented_eq_self (head?_append_ne (c := 'c') (by decide) (by decide) _)

/-- The class line of a struct opens a class. -/
theorem header_opensClass : startsWithAny ["class "] (header naming m s) = true := by
  simp only [header, String.append_assoc, startsWithAny_singleton, String.toList_append,
    List.isPrefixOf_iff_prefix]
  exact List.prefix_append _ _

/-- The class line of a struct creates nothing, whatever its base is called. -/
theorem createsWithin_header (hname : s.name.IsProper) {classes : List String} :
    CreatesWithin classes (header naming m s) := by
  rintro className ⟨target, argument, htarget, -, hline⟩
  have hrest := congrArg (fun line => line.toList.dropWhile (· != ' ')) hline
  rw [unindented_header, dropWhile_of_creation htarget] at hrest
  -- behind `class` comes a letter, a digit or a space, and no equals sign
  have hword : ∀ rest, s.name.className.toList ++ ' ' :: rest ≠ '=' :: ' ' ::
      (className.toList ++ '.' :: ("new(".toList ++ argument.toList ++ [')'])) := by
    intro rest heq
    cases hchars : s.name.className.toList with
    | nil => simp [hchars] at heq
    | cons d more =>
        have hd := hname.isWordChar_className (c := d) (by simp [hchars])
        rw [hchars, List.cons_append] at heq
        rw [(List.cons.inj heq).1] at hd
        cases hd
  simp only [header, String.append_assoc, String.toList_append] at hrest
  exact absurd (List.cons.inj hrest).2 (hword _)

theorem classLines_header (level : Nat) :
    classLines [Buffer.indented level (header naming m s)] = [header naming m s] := by
  simp [classLines, unindented_header, header_opensClass]

theorem classLines_end (level : Nat) : classLines [Buffer.indented level "end", ""] = [] := by
  have hend : startsWithAny ["class "] (unindented "end") = false := by decide
  have hblank : startsWithAny ["class "] (unindented "") = false := by decide
  simp [classLines, hend, hblank]

theorem classLines_forwardLines (level : Nat) :
    classLines (forwardLines level (header naming m s)) = [header naming m s] := by
  have hparts : forwardLines level (header naming m s) =
      [Buffer.indented level (header naming m s)] ++ [Buffer.indented level "end", ""] := rfl
  rw [hparts, classLines_append, classLines_header, classLines_end]
  rfl

/-- Forward declarations list the class lines in the order of the structs. -/
theorem classLines_headers (level : Nat) (naming : Naming) (m : Model) :
    classLines ((headers naming m).flatMap (forwardLines level)) = headers naming m := by
  unfold headers
  induction m.declarationOrder with
  | nil => rfl
  | cons entry rest ih =>
      rw [List.map_cons, List.flatMap_cons, classLines_append, classLines_forwardLines, ih]
      rfl

/-- Forward declarations are written as they are counted. -/
theorem linesAt_forward (level : Nat) (s : Struct) :
    (forward naming m s).linesAt level = forwardLines level (header naming m s) := by
  simp [forward, Outline.linesAt, Outline.blank, forwardLines, Buffer.indented]

/-- The classes of the structs of a model. -/
def classNames (m : Model) : List String := m.structs.map fun entry => entry.2.name.className

/-- A shape that holds structs comes from a struct of the model. -/
theorem shape?_struct {ref : TypeRef} {shape : Shape} {name : Name} (h : m.shape? ref = some shape)
    (hshape : shape = .one (.struct name) ∨ shape = .many (.struct name)) :
    ∃ index s, m.struct? index = some s ∧ s.name = name := by
  have helement : ∃ inner, m.element? inner = some (.struct name) := by
    unfold Model.shape? at h
    split at h
    all_goals
      obtain ⟨found, hfound, rfl⟩ := Option.map_eq_some_iff.mp h
      simp only [Shape.one.injEq, Shape.many.injEq, reduceCtorEq, false_or, or_false] at hshape
      exact ⟨_, hshape ▸ hfound⟩
  obtain ⟨inner, hinner⟩ := helement
  unfold Model.element? at hinner
  split at hinner
  next => cases hinner
  next index =>
    split at hinner
    next s hs =>
      cases hinner
      exact ⟨index, s, Model.struct?_eq_some_iff.mpr hs, rfl⟩
    next => cases hinner
    next => cases hinner
  next => cases hinner

variable (hproper : m.HasProperNames)

include hproper

/-- The accessors of a member create objects of the classes of the model. -/
theorem pair_staysWithin {member : Member} (hname : member.name.IsProper)
    (h : Accessors.IsPair naming m member o) : o.StaysWithin (classNames m) := by
  obtain ⟨shape, hshape, rfl⟩ := h
  have hword := hname.isWord_accessorName
  refine .append (Accessors.getterOutline_staysWithin naming hword shape)
    (Accessors.setterOutline_staysWithin naming hword ?_)
  intro name hstruct
  obtain ⟨index, s, hs, rfl⟩ := shape?_struct hshape hstruct
  refine ⟨List.mem_map_of_mem (Model.mem_structs.mpr hs), ?_⟩
  intro hdot
  have hletters := hproper.declaration _ (Model.mem_of_struct? hs)
  have hchar := hletters.isWordChar_className hdot
  cases hchar

/-- A class is a header around lines that open no class. -/
theorem exists_inner (hs : .struct s ∈ m.declarations) (h : IsBody naming m s o) :
    ∃ inner, inner.StaysWithin (classNames m) ∧
      o = Outline.ofBlock (header naming m s) inner ++ Outline.blank := by
  obtain ⟨accessors, haccessors, rfl⟩ := h
  refine ⟨_, ?_, rfl⟩
  refine .append (.append (.append .blank (.join ?_)) (constructor_staysWithin s)) .blank
  intro accessor hmem
  obtain ⟨member, hmember, hpair⟩ := exists_left_of_forall₂ haccessors hmem
  exact pair_staysWithin hproper (hproper.member s hs member (Struct.mem_sortedMembers.mp hmember))
    hpair

/-- The body of a class has one class line, which opens it. -/
theorem classLines_body (hs : .struct s ∈ m.declarations) (h : IsBody naming m s o) :
    classLines (o.linesAt level) = [header naming m s] := by
  obtain ⟨inner, hinner, rfl⟩ := exists_inner hproper hs h
  have hquiet : classLines (inner.linesAt (level + 1)) = [] :=
    StaysWithin.classLines_eq_nil fun _ => hinner.of_mem_linesAt
  have hlines : (Outline.ofBlock (header naming m s) inner ++ Outline.blank).linesAt level =
      [Buffer.indented level (header naming m s)] ++ inner.linesAt (level + 1) ++
        [Buffer.indented level "end", ""] := by
    simp [Outline.blank, Outline.linesAt, Buffer.indented]
  rw [hlines, classLines_append, classLines_append, classLines_header, hquiet, classLines_end]
  rfl

/-- The body of a class creates objects of the classes of the model only. -/
theorem createsWithin_body (hs : .struct s ∈ m.declarations) (h : IsBody naming m s o)
    {line : String} (hline : line ∈ o.linesAt level) : CreatesWithin (classNames m) line := by
  obtain ⟨inner, hinner, rfl⟩ := exists_inner hproper hs h
  have hname := hproper.declaration _ hs
  rw [Outline.linesAt_append, Outline.linesAt_ofBlock] at hline
  rcases List.mem_append.mp hline with hline | hline
  · rcases List.mem_cons.mp hline with rfl | hline
    · exact createsWithin_indented.mpr (createsWithin_header hname)
    · rcases List.mem_append.mp hline with hline | hline
      · exact (hinner.of_mem_linesAt hline).createsWithin
      · rw [List.mem_singleton.mp hline, createsWithin_indented]
        exact StaysWithin.createsWithin (.of_isQuiet (by decide))
  · exact (Outline.StaysWithin.blank.of_mem_linesAt hline).createsWithin

end Lines

section Source

variable {o : Outline} {level : Nat}

theorem createsWithin_forwardLines {s : Struct} (hname : s.name.IsProper) {classes : List String}
    {line : String} (hline : line ∈ forwardLines level (header naming m s)) :
    CreatesWithin classes line := by
  simp only [forwardLines, List.mem_cons, List.not_mem_nil, or_false] at hline
  rcases hline with rfl | rfl | rfl
  · exact createsWithin_indented.mpr (createsWithin_header hname)
  · exact createsWithin_indented.mpr (StaysWithin.createsWithin (.of_isQuiet (by decide)))
  · exact StaysWithin.createsWithin (.of_isQuiet (by decide))

theorem classLines_bodies (hproper : m.HasProperNames) {structs : List Struct}
    (hstructs : ∀ s ∈ structs, .struct s ∈ m.declarations) {bodies : List Outline}
    (h : List.Forall₂ (IsBody naming m) structs bodies) :
    classLines (bodies.flatMap (Outline.linesAt level)) = structs.map (header naming m) := by
  induction h with
  | nil => rfl
  | cons hbody _ ih =>
      have hs := hstructs _ List.mem_cons_self
      rw [List.flatMap_cons, classLines_append, classLines_body hproper hs hbody,
        ih (fun s hmem => hstructs s (List.mem_cons_of_mem _ hmem))]
      rfl

theorem enumerations_staysWithin (hproper : m.HasProperNames) {classes : List String} :
    (Outline.join ((enumerationsInOrder m).map enumeration)).StaysWithin classes := by
  apply Outline.StaysWithin.join
  intro o hmem
  obtain ⟨e, he, rfl⟩ := List.mem_map.mp hmem
  exact enumeration_staysWithin (hproper.enumeration (Name.mem_sortBy.mp he)).2

/-- Enumerations are modules, so nothing behind the bodies of the classes opens a class. -/
theorem staysWithin_of_mem_closing (hproper : m.HasProperNames) {classes : List String}
    {line : String} (hline : line ∈
      (Outline.join ((enumerationsInOrder m).map enumeration)).linesAt level ++
        Outline.closings 0 level ++ Outline.blank.linesAt 0) :
    StaysWithin classes (unindented line) := by
  rcases List.mem_append.mp hline with hline | hline
  · rcases List.mem_append.mp hline with hline | hline
    · exact (enumerations_staysWithin hproper).of_mem_linesAt hline
    · exact Outline.StaysWithin.of_mem_closings hline
  · exact Outline.StaysWithin.blank.of_mem_linesAt hline

theorem introduction_staysWithin {classes : List String} :
    introduction.StaysWithin classes := by
  apply Outline.StaysWithin.ofLines
  intro text hmem
  simp only [List.mem_cons, List.not_mem_nil, or_false] at hmem
  rcases hmem with rfl | rfl | rfl | rfl <;> exact .of_isQuiet (by decide)

/-- The lines of a source: forward declarations between lines that open no class and the bodies. -/
theorem linesAt_outline (hproper : m.HasProperNames)
    (hstructs : ∀ entry ∈ m.declarationOrder, .struct entry.2 ∈ m.declarations)
    (h : outline naming m = .ok o) :
    ∃ level opening bodies,
      o.linesAt 0 = opening ++ (headers naming m).flatMap (forwardLines level) ++ bodies ∧
      classLines opening = [] ∧ classLines bodies = headers naming m ∧
      ∀ line ∈ o.linesAt 0, CreatesWithin (classNames m) line := by
  obtain ⟨bodies, hbodies, rfl⟩ := outline_eq_ok_iff.mp h
  have hstruct : ∀ s ∈ m.declarationOrder.map Prod.snd, .struct s ∈ m.declarations := by
    intro s hmem
    obtain ⟨entry, hentry, rfl⟩ := List.mem_map.mp hmem
    exact hstructs entry hentry
  let parts := Text.moduleParts naming.moduleName
  let opening := Outline.openings 0 parts ++ introduction.linesAt parts.length
  let closing := (Outline.join ((enumerationsInOrder m).map enumeration)).linesAt parts.length ++
    Outline.closings 0 parts.length ++ Outline.blank.linesAt 0
  have hopening : ∀ line ∈ opening, StaysWithin (classNames m) (unindented line) := by
    intro line hline
    rcases List.mem_append.mp hline with hline | hline
    · exact Outline.StaysWithin.of_mem_openings hline
    · exact introduction_staysWithin.of_mem_linesAt hline
  have hclosing : ∀ line ∈ closing, StaysWithin (classNames m) (unindented line) :=
    fun _ hline => staysWithin_of_mem_closing hproper hline
  have hforwards : (Outline.join ((m.declarationOrder.map Prod.snd).map (forward naming m))).linesAt
      parts.length = (headers naming m).flatMap (forwardLines parts.length) := by
    simp only [Outline.linesAt_join, headers, List.flatMap_map, linesAt_forward]
  have hlines : Outline.linesAt 0 (.module naming.moduleName
      (introduction ++ Outline.join ((m.declarationOrder.map Prod.snd).map (forward naming m)) ++
        Outline.join bodies ++ Outline.join ((enumerationsInOrder m).map enumeration))
      Outline.blank) = opening ++ (headers naming m).flatMap (forwardLines parts.length) ++
        (bodies.flatMap (Outline.linesAt parts.length) ++ closing) := by
    simp only [Outline.linesAt, Outline.linesAt_append, hforwards, Outline.linesAt_join _ bodies,
      opening, closing, parts, Nat.zero_add, List.append_assoc]
  refine ⟨parts.length, opening, _, hlines, StaysWithin.classLines_eq_nil hopening, ?_, ?_⟩
  · rw [classLines_append, classLines_bodies hproper hstruct hbodies,
      StaysWithin.classLines_eq_nil hclosing, List.append_nil, headers, List.map_map]
    rfl
  · rw [hlines]
    intro line hline
    rcases List.mem_append.mp hline with hline | hline
    · rcases List.mem_append.mp hline with hline | hline
      · exact (hopening line hline).createsWithin
      · simp only [headers, List.mem_flatMap, List.mem_map] at hline
        obtain ⟨_, ⟨entry, hentry, rfl⟩, hline⟩ := hline
        exact createsWithin_forwardLines (hproper.declaration _ (hstructs entry hentry)) hline
    · rcases List.mem_append.mp hline with hline | hline
      · obtain ⟨body, hbody, hline⟩ := List.mem_flatMap.mp hline
        obtain ⟨s, hs, hisBody⟩ := exists_left_of_forall₂ hbodies hbody
        exact createsWithin_body hproper (hstruct s hs) hisBody hline
      · exact (hclosing line hline).createsWithin

end Source

end Classes

open Classes

/-- A source declares the classes of an acyclic model that was read: twice and with bases first, and
in front of all bodies, whose setters create objects of declared classes only. -/
theorem Generation.declaresClasses {content text : String} {m : Model} {naming : Naming}
    {requires : List String} (hload : Model.ofText content = .ok m)
    (hacyclic : ∀ index, ¬ Relation.TransGen (Hierarchy.Extends m.structs) index index)
    (hrender : Generation.render ⟨m, naming, requires⟩ = .ok text) :
    ∃ b, Generation.buffer ⟨m, naming, requires⟩ = .ok b ∧ b.render = text ∧
      DeclaresClasses naming m b.lines := by
  obtain ⟨document, -, hmodel⟩ := Model.ofText_eq_ok_iff.mp hload
  obtain ⟨b, hbuffer, rfl⟩ := render_eq_ok_iff.mp hrender
  obtain ⟨o, ho, hlines⟩ := exists_outline hbuffer
  have hproper := hmodel.hasProperNames
  have hforest := hmodel.isForest hacyclic
  obtain ⟨hperm, hplace⟩ := Model.declarationOrder_of_isForest hforest
  have hstruct : ∀ entry ∈ m.declarationOrder, m.struct? entry.1 = some entry.2 :=
    fun entry hmem => Model.mem_structs.mp (hperm.subset hmem)
  obtain ⟨level, opening, bodies, hparts, hopening, hbodies, hcreates⟩ :=
    linesAt_outline hproper (fun entry hmem => Model.mem_of_struct? (hstruct entry hmem)) ho
  have hbefore : ∀ before entry after, m.declarationOrder = before ++ entry :: after →
      ∀ index, Relation.TransGen (Hierarchy.Extends m.structs) entry.1 index →
        index ∈ before.map Prod.fst := by
    intro before entry after heq index hextends
    have hlt := hplace _ _ hextends
    rw [heq] at hlt
    exact Hierarchy.mem_before_of_place_lt hlt
  refine ⟨b, hbuffer, rfl, ?_, hperm, ?_, hbefore,
    level, opening, bodies, ?_, hopening, hbodies, ?_⟩
  · rw [hlines, hparts, classLines_append, classLines_append, hopening, hbodies, List.nil_append,
      classLines_headers]
  · intro before entry after heq
    have hmem : entry ∈ m.declarationOrder := by simp [heq]
    cases hbase : entry.2.base with
    | none => exact .inl ⟨rfl, by simp [header, Model.baseOf, hbase]⟩
    | some ref =>
        obtain ⟨found, hfound, rfl⟩ := hforest.closed entry (hperm.subset hmem) ref hbase
        have hextends : Hierarchy.Extends m.structs entry.1 found.1 :=
          ⟨entry.2, hperm.subset hmem, hbase⟩
        obtain ⟨base, hmemBefore, hindex⟩ := List.mem_map.mp
          (hbefore before entry after heq found.1 (.single hextends))
        have hbaseStruct := hstruct base (by simp [heq, hmemBefore])
        refine .inr ⟨base, hmemBefore, by rw [hindex], ?_⟩
        simp [header, Model.baseOf, hbase, ← hindex, hbaseStruct]
  · rw [hlines, hparts]
  · intro line hline className hnew
    rw [hlines] at hline
    apply (hcreates line hline className hnew).imp_right
    intro hclass
    obtain ⟨entry, hentry, rfl⟩ := List.mem_map.mp hclass
    exact ⟨_, List.mem_map_of_mem (hperm.symm.subset hentry)⟩

/-- Two structs that hold each other, one of which extends the other and is listed before it. -/
def teamText : String :=
  "\x7b\"types\":[" ++
  "\x7b\"kind\":\"struct\",\"name\":\"boss\",\"base\":\"person\"," ++
  "\"links\":[\x7b\"name\":\"staff\",\"type\":\"person[]\"\x7d]\x7d," ++
  "\x7b\"kind\":\"struct\",\"name\":\"person\"," ++
  "\"links\":[\x7b\"name\":\"boss\",\"type\":\"boss\"\x7d]\x7d]\x7d"

/-- The model that the text describes. -/
def teamModel : Model where
  declarations := [
    .struct ⟨⟨["boss"]⟩, some (.declared 1), [], [⟨⟨["staff"]⟩, .list (.declared 1)⟩]⟩,
    .struct ⟨⟨["person"]⟩, none, [], [⟨⟨["boss"]⟩, .declared 0⟩]⟩]

theorem ofText_teamText : Model.ofText teamText = .ok teamModel := by
  have hread : (Model.ofText teamText).toOption = some teamModel := by decide +kernel
  exact toOption_eq_some_iff.mp hread

/-- Of the two structs, one extends the other, which extends nothing. -/
theorem teamModel_acyclic (index : Nat) :
    ¬ Relation.TransGen (Hierarchy.Extends teamModel.structs) index index :=
  Hierarchy.acyclic_of_heights (fun i => 1 - i) (by decide) index

/-- The names of a configuration. -/
def teamNaming : Naming := Naming.configure "Team" "" "Struct"

theorem exists_render_teamModel :
    ∃ text, Generation.render ⟨teamModel, teamNaming, []⟩ = .ok text := by
  have hshapes : ∀ entry ∈ teamModel.structs, ∀ member ∈ entry.2.attributes ++ entry.2.links,
      (teamModel.shape? member.type).isSome := by decide
  apply Generation.exists_render_iff.mpr
  intro entry hentry member hmember
  have hmem := Model.mem_structs_of_declarationOrder hentry
  exact Option.isSome_iff_exists.mp (hshapes entry hmem member hmember)

theorem Generation.declaresClasses_teamText :
    ∃ text, Generation.render ⟨teamModel, teamNaming, []⟩ = .ok text ∧
      ∃ b : Buffer, b.render = text ∧ DeclaresClasses teamNaming teamModel b.lines := by
  obtain ⟨text, hrender⟩ := exists_render_teamModel
  obtain ⟨b, -, htext, hdeclares⟩ := declaresClasses ofText_teamText teamModel_acyclic hrender
  exact ⟨text, hrender, b, htext, hdeclares⟩

end RubyClasses
