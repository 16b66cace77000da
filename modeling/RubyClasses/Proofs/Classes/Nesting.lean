import RubyClasses.Proofs.Classes.Indentation
import RubyClasses.Proofs.Storage.Containment
import RubyClasses.Proofs.Storage.Persistence

/-! # Modules and folders

The name of the module is cut into components for the modules of a source, and in small letters for
the folders of its file. Both nest in the same way: the source starts by opening one module for each
component and ends by closing them, and its file lies in one folder for each of them.
-/

namespace RubyClasses

namespace Text

/-- What is no small letter is a small form of itself only. -/
theorem eq_of_toLower_eq {c d : Char} (hd : d.isLower = false) (h : c.toLower = d) : c = d := by
  by_cases hupper : c.val ≥ 'A'.val ∧ c.val ≤ 'Z'.val
  · have hval : d.val = c.val + ('a'.val - 'A'.val) := by
      rw [← h]
      exact congrArg Char.val (dif_pos hupper)
    have hlower : d.val ≥ 'a'.val ∧ d.val ≤ 'z'.val := by grind
    have htrue : d.isLower = true :=
      Bool.and_eq_true_iff.mpr ⟨decide_eq_true hlower.1, decide_eq_true hlower.2⟩
    rw [hd] at htrue
    cases htrue
  · exact (dif_neg hupper).symm.trans h

theorem lowerAfter_latin {cs : List Char} (h : ∀ c ∈ cs, c.toNat < 128) (before : List Char) :
    lowerAfter before cs = cs.map Char.toLower := by
  induction cs generalizing before with
  | nil => rfl
  | cons c rest ih =>
      have hc := h c List.mem_cons_self
      have hsigma : c ≠ 'Σ' := by
        rintro rfl
        revert hc
        decide
      rw [lowerAfter, if_neg hsigma, small, if_pos hc,
        ih fun d hd => h d (List.mem_cons_of_mem _ hd)]
      rfl

/-- The basic Latin letters are made small one by one. -/
theorem lower_toList {s : String} (h : ∀ c ∈ s.toList, c.toNat < 128) :
    (lower s).toList = s.toList.map Char.toLower := by
  rw [lower, String.toList_ofList, lowerAfter_latin h]

/-- A text without small letters is a small form of itself only. -/
theorem eq_of_lower_eq {s t : String} (hs : ∀ c ∈ s.toList, c.toNat < 128)
    (ht : ∀ c ∈ t.toList, c.isLower = false) (h : lower s = t) : s = t := by
  have hchars : s.toList.map Char.toLower = t.toList := by rw [← lower_toList hs, h]
  have hself : s.toList.map Char.toLower = s.toList := map_eq_self fun c hc =>
    (eq_of_toLower_eq (ht _ (hchars ▸ List.mem_map_of_mem hc)) rfl).symm
  exact String.toList_injective (hself.symm.trans hchars)

variable {s : String} {parts : List String}

theorem CutsAt.ne_nil {separator : String} (h : CutsAt separator s parts) : parts ≠ [] :=
  mt List.map_eq_nil_iff.mpr (IsCut.ne_nil h)

theorem CutsAt.mem_of_mem {separator : String} (h : CutsAt separator s parts) {part : String}
    (hpart : part ∈ parts) {c : Char} (hc : c ∈ part.toList) : c ∈ s.toList :=
  IsCut.subset h part.toList (List.mem_map_of_mem hpart) hc

/-- The components of a module name in small letters are those of the name in small letters. -/
theorem CutsAt.lower (h : CutsAt "::" s parts) (hs : ∀ c ∈ s.toList, c.toNat < 128) :
    CutsAt "::" (lower s) (parts.map lower) := by
  have hcolon : ∀ c ∈ "::".toList, c = ':' := by
    intro c hc
    simpa using hc
  have hparts : (parts.map Text.lower).map String.toList =
      (parts.map String.toList).map (List.map Char.toLower) := by
    rw [List.map_map, List.map_map]
    refine List.map_congr_left ?_
    intro part hpart
    exact lower_toList fun c hc => hs c (h.mem_of_mem hpart hc)
  rw [CutsAt, lower_toList hs, hparts]
  refine IsCut.map h ?_ ?_
  · intro c hc
    rw [hcolon c hc]
    rfl
  · intro c hc
    rw [eq_of_toLower_eq rfl (hcolon _ hc)]
    rfl

/-- The parts of a path are the parts that it was joined from. -/
theorem pathParts_intercalate (hne : parts ≠ []) (hslash : ∀ part ∈ parts, '/' ∉ part.toList) :
    pathParts ("/".intercalate parts) = parts := by
  refine (cutsAt_pathParts _).unique ?_
  rw [CutsAt, String.toList_intercalate]
  refine IsCut.of_intercalate (mt List.map_eq_nil_iff.mp hne) ?_
  intro part hpart
  obtain ⟨s, hs, rfl⟩ := List.mem_map.mp hpart
  exact hslash s hs

end Text

namespace Outline

theorem openings_eq_mapIdx (level : Nat) (parts : List String) :
    openings level parts =
      parts.mapIdx fun depth part => Buffer.indented (level + depth) ("module " ++ part) := by
  induction parts generalizing level with
  | nil => rfl
  | cons part parts ih =>
      rw [openings, ih, List.mapIdx_cons]
      simp only [Nat.add_zero, Nat.add_right_comm, Nat.add_assoc]

/-- The closing lines stand in the reverse order of the opening ones. -/
theorem closings_eq_mapIdx (level : Nat) (parts : List String) :
    closings level parts.length =
      (parts.mapIdx fun depth _ => Buffer.indented (level + depth) "end").reverse := by
  induction parts generalizing level with
  | nil => rfl
  | cons part parts ih =>
      rw [List.length_cons, closings_succ, ih, List.mapIdx_cons, List.reverse_cons]
      simp only [Nat.add_zero, Nat.add_right_comm, Nat.add_assoc]

end Outline

/-- A line is empty or indented by a level at least. -/
def Line.StandsIn (level : Nat) (line : String) : Prop :=
  line = "" ∨ List.replicate (2 * level) ' ' <+: line.toList

theorem Line.standsIn_indented {level depth : Nat} (h : level ≤ depth) (text : String) :
    StandsIn level (Buffer.indented depth text) := by
  unfold Buffer.indented
  split
  next hempty => exact .inl hempty
  next =>
    right
    have hspaces : List.replicate (2 * depth) ' ' =
        List.replicate (2 * level) ' ' ++ List.replicate (2 * (depth - level)) ' ' := by
      rw [List.replicate_append_replicate]
      congr 1
      omega
    rw [String.toList_append, String.toList_ofList, hspaces, List.append_assoc]
    exact List.prefix_append _ _

namespace Outline

open Line

/-- No line of an outline stands further out than the outline. -/
theorem standsIn_linesAt {level depth : Nat} (h : level ≤ depth) (o : Outline) :
    ∀ line ∈ o.linesAt depth, StandsIn level line := by
  rw [linesAt_eq_layOut]
  intro line hline
  obtain ⟨place, hplace, rfl⟩ := List.mem_mapIdx.mp hline
  exact standsIn_indented (h.trans (Nat.le_add_right _ _)) _

end Outline

/-- A source nests modules for some components, and its file lies in folders for them. -/
structure Buffer.MirrorsModules (b : Buffer) (components : List String) : Prop where
  /-- There is one folder for each component, in small letters. -/
  filePath_eq : ∀ directory, b.filePath directory =
    { Path.ofText directory with
      parts := (Path.ofText directory).parts ++ components.map Text.lower ++ ["types.rb"] }
  /-- There is one module for each component, inside the one before it, and all lines between the
  lines that open and close the modules stand inside of them. -/
  lines_eq : ∃ content : Outline,
    b.lines = (components.mapIdx fun depth component => indented depth ("module " ++ component)) ++
      content.linesAt components.length ++
      (components.mapIdx fun depth _ => indented depth "end").reverse ++ [""] ∧
    ∀ line ∈ content.linesAt components.length, Line.StandsIn components.length line

namespace Generation

variable {m : Model} {moduleName baseClass text : String} {requires components : List String}

/-- The folders of a source are named after its modules. -/
theorem path_configure (hcut : Text.CutsAt "::" moduleName components)
    (hlatin : ∀ c ∈ moduleName.toList, c.toNat < 128) (hslash : '/' ∉ moduleName.toList)
    (hproper : ∀ component ∈ components, component ≠ "" ∧ component ≠ ".") (directory : String) :
    path ⟨m, Naming.configure moduleName "" baseClass, requires⟩ directory =
      { Path.ofText directory with
        parts := (Path.ofText directory).parts ++ components.map Text.lower ++ ["types.rb"] } := by
  have hcomponent : ∀ component ∈ components, ∀ c ∈ component.toList, c.toNat < 128 :=
    fun component hmem c hc => hlatin c (hcut.mem_of_mem hmem hc)
  have hfolders : Text.moduleParts (Text.lower moduleName) = components.map Text.lower :=
    (Text.cutsAt_moduleParts _).unique (hcut.lower hlatin)
  have hname : "/".intercalate (components.map Text.lower) ++ "/types" ++ ".rb" =
      "/".intercalate (components.map Text.lower ++ ["types.rb"]) := by
    rw [String.intercalate_append_of_ne_nil (mt List.map_eq_nil_iff.mp hcut.ne_nil)
      (List.cons_ne_nil _ _), String.intercalate_singleton, String.append_assoc,
      String.append_assoc]
    rfl
  have hparts : Text.pathParts ("/".intercalate (components.map Text.lower ++ ["types.rb"])) =
      components.map Text.lower ++ ["types.rb"] := by
    refine Text.pathParts_intercalate (by simp) ?_
    intro part hpart
    rcases List.mem_append.mp hpart with hpart | hpart
    · obtain ⟨component, hmem, rfl⟩ := List.mem_map.mp hpart
      rw [Text.lower_toList (hcomponent component hmem)]
      intro hc
      obtain ⟨c, hc, hlower⟩ := List.mem_map.mp hc
      obtain rfl := Text.eq_of_toLower_eq rfl hlower
      exact hslash (hcut.mem_of_mem hmem hc)
    · rw [List.mem_singleton.mp hpart]
      decide
  have hkept : (components.map Text.lower ++ ["types.rb"]).filter Path.isProper =
      components.map Text.lower ++ ["types.rb"] := by
    rw [List.filter_eq_self]
    intro part hpart
    rcases List.mem_append.mp hpart with hpart | hpart
    · obtain ⟨component, hmem, rfl⟩ := List.mem_map.mp hpart
      obtain ⟨hempty, hdot⟩ := hproper component hmem
      have hlower : ∀ t : String, (∀ c ∈ t.toList, c.isLower = false) → component ≠ t →
          Text.lower component ≠ t :=
        fun t ht => mt (Text.eq_of_lower_eq (hcomponent component hmem) ht)
      have hempty' := hlower "" (by simp) hempty
      have hdot' := hlower "." (by simp) hdot
      simp [Path.isProper, hempty', hdot']
    · rw [List.mem_singleton.mp hpart]
      decide
  have hpath : Naming.pathOfModule moduleName = "/".intercalate (components.map Text.lower) := by
    rw [Naming.pathOfModule, hfolders]
  rw [path, fileName, Naming.configure, if_pos rfl, hpath, hname, hparts, Path.below, hkept,
    List.append_assoc]

/-- Wherever a source is written, its folders mirror its modules. -/
theorem mirrorsModules (hcut : Text.CutsAt "::" moduleName components)
    (hlatin : ∀ c ∈ moduleName.toList, c.toNat < 128) (hslash : '/' ∉ moduleName.toList)
    (hproper : ∀ component ∈ components, component ≠ "" ∧ component ≠ ".")
    (hrender : render ⟨m, Naming.configure moduleName "" baseClass, requires⟩ = .ok text) :
    ∃ b, buffer ⟨m, Naming.configure moduleName "" baseClass, requires⟩ = .ok b ∧
      b.render = text ∧ b.MirrorsModules components := by
  obtain ⟨b, hbuffer, htext⟩ := render_eq_ok_iff.mp hrender
  obtain ⟨o, ho, hlines⟩ := exists_outline hbuffer
  obtain ⟨bodies, -, rfl⟩ := Classes.outline_eq_ok_iff.mp ho
  have hparts : Text.moduleParts moduleName = components :=
    (Text.cutsAt_moduleParts moduleName).unique hcut
  refine ⟨b, hbuffer, htext, ?_, ?_⟩
  · intro directory
    rw [filePath_buffer hbuffer, path_configure hcut hlatin hslash hproper]
  · have hmodule : (Naming.configure moduleName "" baseClass).moduleName = moduleName := rfl
    rw [hmodule, Outline.linesAt, hparts, Outline.openings_eq_mapIdx, Outline.closings_eq_mapIdx]
      at hlines
    simp only [Nat.zero_add] at hlines
    exact ⟨_, hlines, Outline.standsIn_linesAt le_rfl _⟩

/-- An odd colon belongs to a component, and so do marks that mean something elsewhere. -/
theorem mirrorsModules_teamModel :
    Text.CutsAt "::" "Acme:::S%dk::v4.." ["Acme", ":S%dk", "v4.."] ∧
      (∀ c ∈ "Acme:::S%dk::v4..".toList, c.toNat < 128) ∧
      '/' ∉ "Acme:::S%dk::v4..".toList ∧
      (∀ component ∈ ["Acme", ":S%dk", "v4.."], component ≠ "" ∧ component ≠ ".") ∧
      ∃ text, render ⟨teamModel, Naming.configure "Acme:::S%dk::v4.." "" "Struct", []⟩ = .ok text ∧
        ∃ b : Buffer, b.render = text ∧
          b.filePath "/srv//out" =
            ⟨"/", ["srv", "out", "acme", ":s%dk", "v4..", "types.rb"]⟩ ∧
          ["module Acme", "  module :S%dk", "    module v4.."] <+: b.lines ∧
          ["    end", "  end", "end", ""] <:+ b.lines := by
  have hcut : Text.CutsAt "::" "Acme:::S%dk::v4.." ["Acme", ":S%dk", "v4.."] := by
    have hparts : Text.moduleParts "Acme:::S%dk::v4.." = ["Acme", ":S%dk", "v4.."] := by
      decide +kernel
    exact hparts ▸ Text.cutsAt_moduleParts _
  have hlatin : ∀ c ∈ "Acme:::S%dk::v4..".toList, c.toNat < 128 := by simp
  have hslash : '/' ∉ "Acme:::S%dk::v4..".toList := by decide
  have hproper : ∀ component ∈ ["Acme", ":S%dk", "v4.."], component ≠ "" ∧ component ≠ "." := by
    decide
  obtain ⟨b, hbuffer⟩ := exists_buffer
    (g := ⟨teamModel, Naming.configure "Acme:::S%dk::v4.." "" "Struct", []⟩) teamModel_isSound
  have hrender := render_eq_ok_iff.mpr ⟨b, hbuffer, rfl⟩
  refine ⟨hcut, hlatin, hslash, hproper, b.render, hrender, ?_⟩
  obtain ⟨b, -, htext, hpath, content, hlines, -⟩ :=
    mirrorsModules hcut hlatin hslash hproper hrender
  refine ⟨b, htext, ?_, ?_, ?_⟩
  · rw [hpath]
    decide +kernel
  · rw [hlines, List.append_assoc, List.append_assoc]
    exact List.prefix_append _ _
  · rw [hlines, List.append_assoc]
    exact List.suffix_append _ _

end Generation

end RubyClasses
