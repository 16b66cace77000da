import RubyClasses.Proofs.Classes.Completeness
import RubyClasses.Proofs.Name.AccessorOrder

/-! # The order of assignments

A constructor assigns the properties of a class in the order of their accessors. Where the names of
the members have no digits this is the order of the names, attributes and links taken together.
-/

namespace RubyClasses

/-- The members of a struct have names that are spelled by texts and have no digits. -/
def Struct.NamesDigitless (s : Struct) : Prop :=
  ∀ member ∈ s.attributes ++ s.links,
    (∃ text, Name.ofText? text = some member.name) ∧ member.name.isDigitless = true

/-- Sorting members by their names without digits sorts their accessors. -/
theorem SortsMembers.accessors_ascending {members sorted : List Member}
    (hsorted : SortsMembers members sorted)
    (hnames : ∀ member ∈ members, member.name.IsProper ∧
      member.name.isDigitless = true) :
    (sorted.map fun member => member.name.accessorName).Pairwise fun a b => a ≤ b := by
  rw [List.pairwise_map]
  refine hsorted.ascending.imp_of_mem ?_
  intro a b ha hb hab
  obtain ⟨hproper, hdigitless⟩ := hnames a (hsorted.perm.mem_iff.mp ha)
  obtain ⟨hproper', hdigitless'⟩ := hnames b (hsorted.perm.mem_iff.mp hb)
  rw [← not_lt] at hab ⊢
  rwa [← hproper'.lt_iff_accessorName_lt hproper hdigitless' hdigitless]

/-- The properties of a struct are in the order of its members when their names have no digits. -/
theorem Struct.NamesDigitless.properties_eq {s : Struct} (h : s.NamesDigitless)
    {members : List Member} (hsorted : SortsMembers (s.attributes ++ s.links) members) :
    s.properties = members.map fun member => member.name.accessorName := by
  have hascending := hsorted.accessors_ascending fun member hmember =>
    ⟨Name.isProper_of_ofText? (h member hmember).1.choose_spec, (h member hmember).2⟩
  have hperm : s.properties.Perm (members.map fun member => member.name.accessorName) :=
    (List.mergeSort_perm _ _).trans (hsorted.perm.map _).symm
  exact hperm.eq_of_pairwise (fun _ _ _ _ => le_antisymm) s.properties_ascending hascending

namespace Classes

/-- Names without digits are ordered like their accessors. So the class of a struct whose members
have such names assigns its properties in the order of the names of its attributes and links. -/
theorem assigns_by_name :
    (∀ (text otherText : String) (name other : Name), Name.ofText? text = some name →
      Name.ofText? otherText = some other →
        name.isDigitless = true → other.isDigitless = true →
        (name < other ↔ name.accessorName < other.accessorName)) ∧
    ∀ (naming : Naming) (m : Model) (index : Nat) (s : Struct),
      (∀ member ∈ s.attributes ++ s.links, m.Supports member.type) → s.NamesDigitless →
        ∃ o members, body naming m index s = .ok o ∧
          SortsMembers (s.attributes ++ s.links) members ∧
          ∀ level, ∃ attributes links, IsComplete level (header naming m s) s attributes links
            (members.map fun member => member.name.accessorName) (o.linesAt level) := by
  constructor
  · intro text otherText name other hname hother
    exact (Name.isProper_of_ofText? hname).lt_iff_accessorName_lt (Name.isProper_of_ofText? hother)
  · intro naming m index s hsupports hdigitless
    obtain ⟨o, hbody, ho⟩ := exists_body index hsupports
    have hsorted := sortsMembers_sortBy (s.attributes ++ s.links)
    refine ⟨o, _, hbody, hsorted, fun level => ?_⟩
    rw [← hdigitless.properties_eq hsorted]
    exact ⟨_, _, isComplete_body ho⟩

/-- A struct with a reserved word, a name that starts with it, and two names of the same letters. -/
def errandStruct : Struct :=
  ⟨⟨["errand"]⟩, none, [⟨⟨["vmid"]⟩, .primitive .string⟩, ⟨⟨["do"]⟩, .primitive .boolean⟩],
    [⟨⟨["vm", "id"]⟩, .list (.primitive .integer)⟩, ⟨⟨["do", "it"]⟩, .primitive .date⟩]⟩

theorem errandStruct_namesDigitless : errandStruct.NamesDigitless := by
  intro member hmember
  simp only [errandStruct, List.cons_append, List.nil_append, List.mem_cons, List.not_mem_nil,
    or_false] at hmember
  rcases hmember with rfl | rfl | rfl | rfl
  · exact ⟨⟨"vmid", by decide +kernel⟩, by decide +kernel⟩
  · exact ⟨⟨"do", by decide +kernel⟩, by decide +kernel⟩
  · exact ⟨⟨"vm-id", by decide +kernel⟩, by decide +kernel⟩
  · exact ⟨⟨"doIt", by decide +kernel⟩, by decide +kernel⟩

/-- A reserved word with its underscore comes before the names that start with it. -/
theorem assigns_by_name_errandStruct :
    (Name.mk ["do"] < ⟨["do", "it"]⟩ ↔ "do_" < "do_it") ∧ errandStruct.NamesDigitless ∧
      ∃ o, body teamNaming ⟨[]⟩ 0 errandStruct = .ok o ∧
        ∃ attributes links, IsComplete 1 "class Errand < Struct" errandStruct attributes links
          ["do_", "do_it", "vm_id", "vmid"] (o.linesAt 1) := by
  have hnames := assigns_by_name.1 "do" "doIt" ⟨["do"]⟩ ⟨["do", "it"]⟩ (by decide +kernel)
    (by decide +kernel) (by decide +kernel) (by decide +kernel)
  have hsupports : ∀ member ∈ errandStruct.attributes ++ errandStruct.links,
      (Model.mk []).Supports member.type := by
    intro member hmember
    apply Model.Supports.of_shape
    revert member
    decide
  obtain ⟨o, members, hbody, hsorted, hcomplete⟩ := assigns_by_name.2 teamNaming ⟨[]⟩ 0
    errandStruct hsupports errandStruct_namesDigitless
  obtain ⟨attributes, links, hlines⟩ := hcomplete 1
  have hperm : (members.map fun member => member.name.accessorName).Perm
      ["do_", "do_it", "vm_id", "vmid"] :=
    (hsorted.perm.map _).trans (by decide +kernel)
  have hproperties := hperm.eq_of_pairwise (fun _ _ _ _ => le_antisymm)
    (errandStruct_namesDigitless.properties_eq hsorted ▸ errandStruct.properties_ascending)
    (by decide +kernel)
  rw [hproperties] at hlines
  have hdo : (Name.mk ["do"]).accessorName = "do_" := by decide +kernel
  have hdoIt : (Name.mk ["do", "it"]).accessorName = "do_it" := by decide +kernel
  rw [hdo, hdoIt] at hnames
  exact ⟨hnames, errandStruct_namesDigitless, o, hbody, attributes, links, hlines⟩

end Classes

end RubyClasses
