import RubyClasses.Proofs.Classes.Bodies
import RubyClasses.Proofs.Description.Structs
import RubyClasses.Proofs.Script.Writing

/-! # The generator as a script

What the generator does to a buffer, call by call: it fills templates with the names of a model,
opens blocks and modules around what it writes for structs and enumerations, looks at the type of
each member where it needs it, and raises a fault where it finds a type that it cannot handle. The
calls have the same result as the outline of a model.
-/

namespace RubyClasses

open Script

namespace Accessors

/-- The calls for a comment of some lines. -/
def commentCalls (lines : List String) : Script :=
  join ((["##"] ++ lines.map (fun l => if l = "" then "#" else "# " ++ l) ++ ["#"]).map plain)

variable (naming : Naming) (m : Model) (here : Option Place) (member : Member)

/-- A declaration is named by its class in the module of the source. -/
def declaredName (d : Declaration) : QualifiedName := ⟨d.name.className, naming.moduleName⟩

/-- The calls for the comment of a getter. -/
def sentenceCalls : Script :=
  match member.type with
  | .primitive kind => commentCalls ["Returns the " ++ kind.docName ++ " value."]
  | .declared index =>
      match m.declarations[index]? with
      | some d => commentCalls ["Returns the " ++ (declaredName naming d).toString ++ " value."]
      | none => raising (refuse m here member)
  | .list element =>
      match naming.typeName m element with
      | .ok name => commentCalls ["Returns an array of objects of type " ++ name.toString ++ "."]
      | .error fault => raising (.naming fault)
  | .unknown _ => raising (refuse m here member)

/-- The calls for a getter: its comment, a method that returns the property, and a blank line. -/
def getterCalls : Script :=
  let property := member.name.accessorName
  sentenceCalls naming m here member ++
    around "def %s" [property] (filled "return @%s" [property]) ++ plain ""

/-- The calls for a setter that assigns its parameter. -/
def assignmentCalls (header assignment property : String) : Script :=
  around header [property] (filled assignment [property])

/-- The calls for the setter of a struct, which also takes the options of a new object. -/
def structSetterCalls (name : QualifiedName) (property : String) : Script :=
  commentCalls [
    "Sets the " ++ name.toString ++ " value.",
    "",
    "The `object` can be an instance of " ++ name.toString ++ " or a hash.",
    "If it is a hash then a new instance will be created passing the hash as the",
    "`opts` parameter to the constructor."] ++
  around "def %s=(object)" [property]
    (around "if object.is_a?(Hash)" [] (filled "object = %s.new(object)" [name.className]) ++
      filled "@%s = object" [property])

/-- The calls for the setter of a list of structs, which also takes an array of options. -/
def structListSetterCalls (name : QualifiedName) (property : String) : Script :=
  commentCalls ["Sets the values from a list or array of objects of type " ++ name.toString ++ "."]
    ++ around "def %s=(list)" [property]
      (around "if list.class == Array" []
        (plain "list = List.new(list)" ++
          around "list.each_with_index do |value, index|" []
            (around "if value.is_a?(Hash)" []
              (filled "list[index] = %s.new(value)" [name.className]))) ++
        filled "@%s = list" [property])

/-- The calls for the setter of a list. The setter is written even where its comment was refused. -/
def listSetterCalls (element : TypeRef) : Script :=
  let property := member.name.accessorName
  let assignment := assignmentCalls "def %s=(list)" "@%s = list" property
  match element with
  | .primitive kind => commentCalls ["Sets the " ++ kind.docName ++ " values."] ++ assignment
  | .declared index =>
      match m.declarations[index]? with
      | some (.enumeration e) =>
          let name := declaredName naming (.enumeration e)
          commentCalls ["Sets the " ++ name.toString ++ " values."] ++ assignment
      | some (.struct s) => structListSetterCalls (declaredName naming (.struct s)) property
      | none => raising (refuse m here member) ++ assignment
  | _ => raising (refuse m here member) ++ assignment

/-- The calls for a setter, as the type of the member asks for it, and a blank line. -/
def setterCalls : Script :=
  let property := member.name.accessorName
  let setter :=
    match member.type with
    | .primitive kind =>
        commentCalls ["Sets the " ++ kind.docName ++ " value."] ++
          assignmentCalls "def %s=(value)" "@%s = value" property
    | .declared index =>
        match m.declarations[index]? with
        | some (.enumeration e) =>
            let name := declaredName naming (.enumeration e)
            commentCalls ["Sets the " ++ name.toString ++ " value."] ++
              filled "attr_writer :%s" [property]
        | some (.struct s) => structSetterCalls (declaredName naming (.struct s)) property
        | none => raising (refuse m here member)
    | .list element => listSetterCalls naming m here member element
    | .unknown _ => raising (refuse m here member)
  setter ++ plain ""

/-- The calls for a member: those for its getter and then those for its setter. -/
def calls : Script := getterCalls naming m here member ++ setterCalls naming m here member

end Accessors

namespace Classes

variable (naming : Naming) (m : Model)

/-- The calls for the class of a struct around the calls for its body. -/
def classCalls (s : Struct) (body : Script) : Script :=
  match s.base with
  | none => around "class %s < %s" [s.name.className, naming.baseClass] body
  | some base =>
      match naming.typeName m base with
      | .ok name => around "class %s < %s" [s.name.className, name.className] body
      | .error fault => raising (.naming fault)

/-- The calls for the constructor of a struct. -/
def constructorCalls (s : Struct) : Script :=
  around "def initialize(opts = \x7b\x7d)" []
    (plain "super(opts)" ++
      join (s.properties.map fun p => filled "self.%s = opts[:%s]" [p, p]))

/-- The calls for the class of a struct with its accessors and its constructor. -/
def bodyCalls (index : Nat) (s : Struct) : Script :=
  classCalls naming m s
    (plain "" ++
      join ((s.membersInOrder index).map fun (here, member) =>
        Accessors.calls naming m (some here) member) ++
      constructorCalls s ++ plain "") ++
  plain ""

/-- The calls for the module of an enumeration, one constant for each value in order. -/
def enumerationCalls (e : Enumeration) : Script :=
  let constants := (Name.sortBy id e.values).map fun value =>
    filled "%s = '%s'" [value.constantName, value.accessorName]
  inside e.name.className (join constants) ++ plain ""

/-- The calls for all classes of a model, first their forward declarations and then their bodies,
and for its enumerations. -/
def calls : Script :=
  let introduction := join ([
    "",
    "##",
    "# These forward declarations are required in order to avoid circular dependencies.",
    "#"].map plain)
  let forwards := m.declarationOrder.map fun (_, s) => classCalls naming m s .done ++ plain ""
  let bodies := m.declarationOrder.map fun (index, s) => bodyCalls naming m index s
  let enumerations := (enumerationsInOrder m).map enumerationCalls
  inside naming.moduleName
    (introduction ++ join forwards ++ join bodies ++ join enumerations) ++ plain ""

end Classes

/-- The calls that generate a source. -/
def Generation.calls (g : Generation) : Script :=
  join (g.requires.map fun name => .act (.require name) .done) ++ Classes.calls g.naming g.model

namespace Naming

variable {naming : Naming} {m : Model} {ref : TypeRef}

theorem typeName_of_element {element : Element} (h : m.element? ref = some element) :
    naming.typeName m ref = .ok (naming.elementName element) := by
  simp [typeName, h]

/-- What is no element of the model has no name, and asking for one is a fault. -/
theorem exists_typeName_error (naming : Naming) (h : m.element? ref = none) :
    ∃ fault, naming.typeName m ref = .error fault := by
  unfold typeName
  rw [h]
  split
  next => contradiction
  next => exact ⟨_, rfl⟩
  next => exact ⟨_, rfl⟩

end Naming

namespace Accessors

open Template

theorem commentCalls_writes (lines : List String) : (commentCalls lines).Writes (comment lines) :=
  .plainLines _

/-- The templates of a plain setter spell its method, whatever the parameter is called. -/
theorem plainSetter_writes {header assignment property parameter : String}
    (hheader : substitute header.toList [property] =
      some ("def " ++ property ++ "=(" ++ parameter ++ ")").toList)
    (hassignment : substitute assignment.toList [property] =
      some ("@" ++ property ++ " = " ++ parameter).toList) :
    (assignmentCalls header assignment property).Writes (plainSetter property parameter) :=
  .around (line_eq_of_substitute [property] (by simp) hheader) (.filled (by simp) hassignment)

theorem structSetterCalls_writes (name : QualifiedName) (property : String) :
    (structSetterCalls name property).Writes (structSetter name property) := by
  apply (commentCalls_writes _).append
  apply Writes.around (line_eq_of_substitute [property] (by simp) (by simp [substitute]))
  apply Writes.append
  · exact .around rfl (.filled (by simp) (by simp [substitute]))
  · exact .filled (by simp) (by simp [substitute])

theorem structListSetterCalls_writes (name : QualifiedName) (property : String) :
    (structListSetterCalls name property).Writes (structListSetter name property) := by
  apply (commentCalls_writes _).append
  apply Writes.around (line_eq_of_substitute [property] (by simp) (by simp [substitute]))
  apply Writes.append
  · apply Writes.around rfl
    apply (Writes.plain _).append
    apply Writes.around rfl
    exact .around rfl (.filled (by simp) (by simp [substitute]))
  · exact .filled (by simp) (by simp [substitute])

variable {naming : Naming} {m : Model} {here : Option Place} {member : Member}

/-- The comment of a getter is written where the member has a shape, and a fault is raised where it
has none. -/
theorem sentenceCalls_spec (naming : Naming) (m : Model) (here : Option Place) (member : Member) :
    (∃ shape, m.shape? member.type = some shape ∧
      (sentenceCalls naming m here member).Writes (comment [getterSentence naming shape])) ∨
    ∃ fault, getter naming m here member = .error fault ∧
      (sentenceCalls naming m here member).Decides (.error fault) := by
  unfold sentenceCalls getter
  -- the type is taken apart as the calls do, down to what is declared at an index
  cases htype : member.type with
  | primitive kind =>
      left
      exact ⟨.one (.primitive kind), rfl, commentCalls_writes _⟩
  | declared index =>
      cases hdeclared : m.declarations[index]? with
      | none =>
          right
          have hshape : m.shape? (.declared index) = none := by
            simp [Model.shape?, Model.element?, hdeclared]
          refine ⟨refuse m here member, by simp [hshape], ?_⟩
          simp only [hdeclared]
          exact .raising _
      | some d =>
          left
          simp only [hdeclared]
          cases d with
          | struct s =>
              refine ⟨.one (.struct s.name), ?_, commentCalls_writes _⟩
              simp [Model.shape?, Model.element?, hdeclared]
          | enumeration e =>
              refine ⟨.one (.enumeration e.name), ?_, commentCalls_writes _⟩
              simp [Model.shape?, Model.element?, hdeclared]
  | list element =>
      cases helement : m.element? element with
      | some found =>
          left
          refine ⟨.many found, by simp [Model.shape?, helement], ?_⟩
          simp only [Naming.typeName_of_element helement]
          exact commentCalls_writes _
      | none =>
          right
          obtain ⟨fault, hname⟩ := naming.exists_typeName_error helement
          refine ⟨.naming fault, by simp [Model.shape?, helement, hname], ?_⟩
          simp only [hname]
          exact .raising _
  | unknown text =>
      right
      exact ⟨refuse m here member, by simp [Model.shape?, Model.element?], .raising _⟩

theorem getter_of_shape {shape : Shape} (hshape : m.shape? member.type = some shape) :
    getter naming m here member = .ok (getterOutline naming member.name.accessorName shape) := by
  simp [getter, hshape]

/-- A getter is refused by its comment, before anything else was written for it, or not at all. -/
theorem getterCalls_decides :
    (getterCalls naming m here member).Decides (getter naming m here member) := by
  let property := member.name.accessorName
  have hblock : (around "def %s" [property] (filled "return @%s" [property])).Writes
      (Outline.ofBlock ("def " ++ property) (Outline.ofLines ["return @" ++ property])) :=
    .around (line_eq_of_substitute [property] (by simp) (by simp [substitute]))
      (.filled (by simp) (by simp [substitute]))
  rcases sentenceCalls_spec naming m here member with
    ⟨shape, hshape, hsentence⟩ | ⟨fault, hfault, hsentence⟩
  · rw [getter_of_shape hshape]
    exact .writes ((hsentence.append hblock).append (.plain ""))
  · rw [hfault]
    exact (hsentence.append_writes hblock).append_writes (.plain "")

/-- The setter of a list is refused as long as nothing was written for it. -/
theorem listSetterCalls_decides (element : TypeRef) (htype : member.type = .list element) :
    (listSetterCalls naming m here member element ++ plain "").Decides
      (setter naming m here member) := by
  have hassignment : (assignmentCalls "def %s=(list)" "@%s = list" member.name.accessorName).Writes
      (plainSetter member.name.accessorName "list") :=
    plainSetter_writes (by simp [substitute]) (by simp [substitute])
  unfold listSetterCalls setter
  rw [htype]
  cases element with
  | primitive kind =>
      exact .writes (((commentCalls_writes _).append hassignment).append (.plain ""))
  | declared index =>
      cases hdeclared : m.declarations[index]? with
      | none =>
          simp only [hdeclared, Model.shape?, Model.element?]
          exact ((Decides.raising _).append_writes hassignment).append_writes (.plain "")
      | some d =>
          cases d with
          | struct s =>
              simp only [hdeclared, Model.shape?, Model.element?]
              exact .writes ((structListSetterCalls_writes _ _).append (.plain ""))
          | enumeration e =>
              simp only [hdeclared, Model.shape?, Model.element?]
              exact .writes (((commentCalls_writes _).append hassignment).append (.plain ""))
  | list inner =>
      exact ((Decides.raising _).append_writes hassignment).append_writes (.plain "")
  | unknown text =>
      exact ((Decides.raising _).append_writes hassignment).append_writes (.plain "")

/-- A setter is refused by the first call that looks at the type, before it writes anything. -/
theorem setterCalls_decides :
    (setterCalls naming m here member).Decides (setter naming m here member) := by
  unfold setterCalls
  cases htype : member.type with
  | primitive kind =>
      have hassignment : (assignmentCalls "def %s=(value)" "@%s = value"
          member.name.accessorName).Writes (plainSetter member.name.accessorName "value") :=
        plainSetter_writes (by simp [substitute]) (by simp [substitute])
      unfold setter
      rw [htype]
      exact .writes (((commentCalls_writes _).append hassignment).append (.plain ""))
  | declared index =>
      unfold setter
      rw [htype]
      cases hdeclared : m.declarations[index]? with
      | none =>
          simp only [hdeclared, Model.shape?, Model.element?]
          exact (Decides.raising _).append_writes (.plain "")
      | some d =>
          cases d with
          | struct s =>
              simp only [hdeclared, Model.shape?, Model.element?]
              exact .writes ((structSetterCalls_writes _ _).append (.plain ""))
          | enumeration e =>
              simp only [hdeclared, Model.shape?, Model.element?]
              have hwriter : (filled "attr_writer :%s" [member.name.accessorName]).Writes
                  (Outline.ofLines ["attr_writer :" ++ member.name.accessorName]) :=
                .filled (by simp) (by simp [substitute])
              exact .writes (((commentCalls_writes _).append hwriter).append (.plain ""))
  | list element => exact listSetterCalls_decides element htype
  | unknown text =>
      unfold setter
      rw [htype]
      exact (Decides.raising _).append_writes (.plain "")

/-- The calls for a member write both of its accessors or raise the fault of the first refused one.
-/
theorem calls_realizes : (calls naming m here member).Realizes (both naming m here member) :=
  getterCalls_decides.realizes.append setterCalls_decides.realizes

end Accessors

/-- What a struct extends, if anything, is a struct of the model. -/
def Model.KnowsBase (m : Model) (s : Struct) : Prop :=
  ∀ ref, s.base = some ref → ∃ index base, ref = .declared index ∧ m.struct? index = some base

namespace Classes

open Template

variable {naming : Naming} {m : Model} {s : Struct}

/-- The class line names the base of a struct, or the root class. -/
theorem exists_classCalls_eq (naming : Naming)
    (hbase : m.KnowsBase s) :
    ∃ base, header naming m s = "class " ++ s.name.className ++ " < " ++ base ∧
      ∀ body, classCalls naming m s body =
        around "class %s < %s" [s.name.className, base] body := by
  cases href : s.base with
  | none =>
      refine ⟨naming.baseClass, by simp [header, Model.baseOf, href], ?_⟩
      intro body
      simp [classCalls, href]
  | some ref =>
      obtain ⟨index, base, rfl, hfound⟩ := hbase ref href
      refine ⟨base.name.className, by simp [header, Model.baseOf, href, hfound], ?_⟩
      intro body
      have helement : m.element? (.declared index) = some (.struct base.name) := by
        simp [Model.element?, Model.struct?_eq_some_iff.mp hfound]
      simp only [classCalls, href, Naming.typeName_of_element helement]
      rfl

theorem line_class (name base : String) :
    line "class %s < %s" ([name, base].map .text) = .ok ("class " ++ name ++ " < " ++ base) :=
  line_eq_of_substitute [name, base] (by simp) (by simp [substitute])

theorem constructorCalls_writes (s : Struct) : (constructorCalls s).Writes (constructor s) := by
  have hassignment : ∀ p, (filled "self.%s = opts[:%s]" [p, p]).Writes
      (.line ("self." ++ p ++ " = opts[:" ++ p ++ "]") .done) :=
    fun p => .filled (by simp) (by simp [substitute])
  exact .around rfl ((Writes.plain "super(opts)").append (.lines hassignment s.properties))

theorem enumerationCalls_writes (e : Enumeration) :
    (enumerationCalls e).Writes (enumeration e) := by
  have hconstant : ∀ value : Name,
      (filled "%s = '%s'" [value.constantName, value.accessorName]).Writes
        (.line (constant value) .done) :=
    fun value => .filled (by simp) (by simp [substitute, constant])
  exact (Writes.inside _ (.lines hconstant _)).append (.plain "")

section Structs

variable (hbase : m.KnowsBase s)

include hbase

/-- A forward declaration is never refused, as the class line finds the base. -/
theorem forwardCalls_writes : (classCalls naming m s .done ++ plain "").Writes
    (forward naming m s) := by
  obtain ⟨base, hheader, hcalls⟩ := exists_classCalls_eq naming hbase
  rw [hcalls, forward, hheader]
  exact (Writes.around (line_class _ _) ⟨.done, rfl⟩).append (.plain "")

/-- The calls for a class write it, or they raise the fault of its first refused member. -/
theorem bodyCalls_realizes (index : Nat) :
    (bodyCalls naming m index s).Realizes (body naming m index s) := by
  obtain ⟨base, hheader, hcalls⟩ := exists_classCalls_eq naming hbase
  let step (entry : Place × Member) := Accessors.both naming m (some entry.1) entry.2
  have hmembers : (join ((s.membersInOrder index).map fun (here, member) =>
      Accessors.calls naming m (some here) member)).Realizes
        (((s.membersInOrder index).mapM step).map Outline.join) :=
    .join fun _ _ => Accessors.calls_realizes
  have hinner := (((Realizes.writes (.plain "")).append hmembers).append
    (.writes (constructorCalls_writes s))).append (.writes (.plain ""))
  have hclass := (hinner.around (line_class s.name.className base)).append (.writes (.plain ""))
  unfold bodyCalls body
  rw [hcalls, hheader]
  convert hclass using 1
  change (s.membersInOrder index).mapM step >>= _ = _
  cases (s.membersInOrder index).mapM step <;> rfl

end Structs

/-- The calls for a model whose bases are structs write its outline or raise its fault. -/
theorem calls_realizes (naming : Naming)
    (hbases : ∀ entry ∈ m.declarationOrder, m.KnowsBase entry.2) :
    (calls naming m).Realizes (outline naming m) := by
  have hintroduction : (join ([
      "",
      "##",
      "# These forward declarations are required in order to avoid circular dependencies.",
      "#"].map plain)).Writes introduction := .plainLines _
  have hforwards : (join (m.declarationOrder.map fun (_, s) =>
      classCalls naming m s .done ++ plain "")).Writes
        (Outline.join (m.declarationOrder.map fun (_, s) => forward naming m s)) :=
    .join fun entry hentry => forwardCalls_writes (hbases entry hentry)
  let step (entry : Nat × Struct) := body naming m entry.1 entry.2
  have hbodies : (join (m.declarationOrder.map fun (index, s) =>
      bodyCalls naming m index s)).Realizes ((m.declarationOrder.mapM step).map Outline.join) :=
    .join fun entry hentry => bodyCalls_realizes (hbases entry hentry) entry.1
  have henumerations : (join ((enumerationsInOrder m).map enumerationCalls)).Writes
      (Outline.join ((enumerationsInOrder m).map enumeration)) :=
    .join fun e _ => enumerationCalls_writes e
  have hinner := ((Realizes.writes (hintroduction.append hforwards)).append hbodies).append
    (.writes henumerations)
  have hall := (hinner.inside naming.moduleName).append (.writes (.plain ""))
  convert hall using 1
  · rfl
  · change m.declarationOrder.mapM step >>= _ = _
    cases m.declarationOrder.mapM step <;> rfl

end Classes

namespace Generation

/-- Requiring files writes no lines and is never refused. -/
theorem requireCalls_writes (names : List String) :
    (join (names.map fun name => .act (.require name) .done)).IsScoped ∧
      (join (names.map fun name => .act (.require name) .done)).effect = ⟨.done, names, none⟩ := by
  induction names with
  | nil => exact ⟨.done, rfl⟩
  | cons name rest ih =>
      obtain ⟨hscoped, heffect⟩ := ih
      have hall := effect_append (.act (.require name) .done)
        (join (rest.map fun name => .act (.require name) .done))
      rw [heffect] at hall
      exact ⟨(IsScoped.act (.require name) .done).append hscoped, hall⟩

section Bases

variable {g : Generation} (hbases : ∀ entry ∈ g.model.declarationOrder, g.model.KnowsBase entry.2)

include hbases

/-- The generator opens no module and changes no level but around what it writes. -/
theorem isScoped_calls : g.calls.IsScoped :=
  (requireCalls_writes g.requires).1.append (Classes.calls_realizes g.naming hbases).isScoped

/-- The calls require files and write the outline of a model, if there is one. -/
theorem effect_calls {o : Outline} (houtline : Classes.outline g.naming g.model = .ok o) :
    g.calls.effect = ⟨o, g.requires, none⟩ := by
  have hrealizes := Classes.calls_realizes g.naming hbases
  rw [houtline] at hrealizes
  cases hrealizes with
  | writes hwrites =>
      rw [calls, effect_append, (requireCalls_writes g.requires).2, hwrites.effect_eq]
      simp [Effect.andThen, Outline.done_append]

/-- The calls raise the fault of a model that has no outline. -/
theorem fault_calls {fault : MemberFault}
    (houtline : Classes.outline g.naming g.model = .error fault) :
    g.calls.effect.fault = some (.raised fault.message) := by
  have hrealizes := Classes.calls_realizes g.naming hbases
  rw [houtline] at hrealizes
  cases hrealizes with
  | raises _ _ hfault =>
      rw [calls, effect_append, (requireCalls_writes g.requires).2]
      exact hfault

end Bases

end Generation

end RubyClasses
