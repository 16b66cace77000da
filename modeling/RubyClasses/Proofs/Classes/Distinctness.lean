import RubyClasses.Proofs.Description.Structs
import RubyClasses.Proofs.Name.ClassNames

/-! # How far class names tell types apart

The types of a description have different names, and a type is named in the source by its class.
Class names join the words of a name, so they tell apart only what is still different once the words
that start with a digit are joined to the words in front of them. No class name is set aside: a type
can have the name of the class that structs without a base extend, or that of lists.
-/

namespace RubyClasses

namespace Naming

variable {naming : Naming} {m : Model}

/-- Different types have different class names. -/
def TellsApart (naming : Naming) (m : Model) : Prop :=
  ∀ i j a b, i ≠ j → naming.typeName m (.declared i) = .ok a →
    naming.typeName m (.declared j) = .ok b → a.className ≠ b.className

/-- No type has some class name. -/
def Spares (naming : Naming) (m : Model) (className : String) : Prop :=
  ∀ i a, naming.typeName m (.declared i) = .ok a → a.className ≠ className

/-- A declared type has the class that belongs to its name. -/
theorem typeName_declared {index : Nat} {d : Declaration} (h : m.declarations[index]? = some d) :
    naming.typeName m (.declared index) = .ok ⟨d.name.className, naming.moduleName⟩ := by
  cases d <;> simp [typeName, Model.element?, h, elementName, Declaration.name]

/-- What the class names of the types of a model tell. -/
structure NamesClasses (naming : Naming) (m : Model) : Prop where
  /-- A declared type has the class that belongs to its name. -/
  typeName_eq : ∀ index d, m.declarations[index]? = some d →
    naming.typeName m (.declared index) = .ok ⟨d.name.className, naming.moduleName⟩
  /-- Two types have different names, and the class names agree only when the names do once the
  words that start with a digit are joined to the words in front of them. -/
  clash_iff : ∀ (i j : Nat) (d e : Declaration), i ≠ j →
    m.declarations[i]? = some d → m.declarations[j]? = some e →
      d.name ≠ e.name ∧ (d.name.className = e.name.className ↔ d.name.joined = e.name.joined)
  /-- Only a type that is named so has the class name of lists. -/
  list_iff : ∀ d ∈ m.declarations, d.name.className = "List" ↔ d.name = ⟨["list"]⟩
  /-- Only a type with a name that the base class spells has the name of the base class. -/
  base_iff : ∀ d ∈ m.declarations, d.name.className = naming.baseClass ↔
    d.name.joined = Name.ofClassName naming.baseClass ∧
      (Name.ofClassName naming.baseClass).className = naming.baseClass
  /-- This is one name when the base class is the standard one. -/
  standard_iff : naming.baseClass = "Struct" → ∀ d ∈ m.declarations,
    d.name.className = naming.baseClass ↔ d.name = ⟨["struct"]⟩

end Naming

/-- The types of a description are named by their classes, which tell them apart as far as their
names differ in more than the cut before a digit. -/
theorem Model.namesClasses_of_ofText {content : String} {m : Model} (h : ofText content = .ok m)
    (naming : Naming) : naming.NamesClasses m := by
  obtain ⟨document, -, hmodel⟩ := ofText_eq_ok_iff.mp h
  have hproper := hmodel.hasProperNames.declaration
  obtain ⟨_, _, -, -, -, hdistinct⟩ := hmodel
  refine ⟨fun _ _ => Naming.typeName_declared, ?_, ?_, ?_, ?_⟩
  · intro i j d e hne hd he
    refine ⟨?_, (hproper d (List.mem_of_getElem? hd)).className_eq_iff
      (hproper e (List.mem_of_getElem? he))⟩
    intro heq
    apply hne
    have hnames : ∀ {index : Nat} {d : Declaration}, m.declarations[index]? = some d →
        m.names[index]? = some d.name := by
      intro index d hd
      simp [names, hd]
    obtain ⟨hlength, -⟩ := List.getElem?_eq_some_iff.mp (hnames hd)
    exact (List.getElem?_inj hlength hdistinct).mp (by rw [hnames hd, hnames he, heq])
  · intro d hd
    have hclass : "List" = Name.className ⟨["list"]⟩ := by decide
    have hother : Name.IsProper ⟨["list"]⟩ :=
      Name.isProper_of_ofText? (s := "list") (by decide +kernel)
    rw [hclass]
    exact (hproper d hd).className_eq_iff_of_no_digit hother (by simp)
  · intro d hd
    exact (hproper d hd).className_eq_text_iff
  · intro hbase d hd
    have hclass : "Struct" = Name.className ⟨["struct"]⟩ := by decide
    have hother : Name.IsProper ⟨["struct"]⟩ :=
      Name.isProper_of_ofText? (s := "struct") (by decide +kernel)
    rw [hbase, hclass]
    exact (hproper d hd).className_eq_iff_of_no_digit hother (by simp)

/-- Two structs that differ in the cut before a digit, and two types that are named after a class
that the source relies on. -/
def clashText : String :=
  "\x7b\"types\":[" ++
  "\x7b\"kind\":\"struct\",\"name\":\"a1\"\x7d," ++
  "\x7b\"kind\":\"struct\",\"name\":\"a_1\"\x7d," ++
  "\x7b\"kind\":\"enum\",\"name\":\"list\"\x7d," ++
  "\x7b\"kind\":\"struct\",\"name\":\"struct\"\x7d]\x7d"

/-- The model that the text describes. -/
def clashModel : Model where
  declarations := [
    .struct ⟨⟨["a1"]⟩, none, [], []⟩, .struct ⟨⟨["a", "1"]⟩, none, [], []⟩,
    .enumeration ⟨⟨["list"]⟩, []⟩, .struct ⟨⟨["struct"]⟩, none, [], []⟩]

/-- The standard configuration. -/
def clashNaming : Naming := Naming.configure "Sdk" "" "Struct"

theorem ofText_clashText : Model.ofText clashText = .ok clashModel := by
  have hread : (Model.ofText clashText).toOption = some clashModel := by decide +kernel
  exact toOption_eq_some_iff.mp hread

theorem Model.namesClasses_of_ofText_clashText :
    clashNaming.NamesClasses clashModel ∧
      Name.className ⟨["a1"]⟩ = Name.className ⟨["a", "1"]⟩ ∧
      Name.className ⟨["a1"]⟩ ≠ Name.className ⟨["list"]⟩ := by
  have hnames := namesClasses_of_ofText ofText_clashText clashNaming
  exact ⟨hnames, (hnames.clash_iff 0 1 _ _ (by decide) rfl rfl).2.mpr (by decide),
    fun heq => absurd ((hnames.clash_iff 0 2 _ _ (by decide) rfl rfl).2.mp heq) (by decide)⟩

/-- Class names do not always tell types apart, and neither the base class nor lists are spared. -/
theorem Naming.not_tellsApart_clashText :
    Model.ofText clashText = .ok clashModel ∧ ¬ clashNaming.TellsApart clashModel ∧
      ¬ clashNaming.Spares clashModel clashNaming.baseClass ∧
      ¬ clashNaming.Spares clashModel "List" := by
  refine ⟨ofText_clashText, ?_, ?_, ?_⟩
  · intro h
    exact h 0 1 _ _ (by decide) (typeName_declared rfl) (typeName_declared rfl) (by decide)
  · intro h
    exact h 3 _ (typeName_declared rfl) (by decide)
  · intro h
    exact h 2 _ (typeName_declared rfl) (by decide)

end RubyClasses
