import RubyClasses.Proofs.Storage.Persistence
import RubyClasses.Proofs.Text.Characters

/-! # Paths without a NUL character

A disk has a fault of its own for a path with a NUL character. A path that is put together from
texts without one has none, and then the disk has other reasons only to refuse an operation.
-/

namespace RubyClasses

/-- A text without a NUL character. -/
def NulFree (s : String) : Prop := '\x00' ∉ s.toList

instance (s : String) : Decidable (NulFree s) := inferInstanceAs (Decidable (¬ _))

@[simp]
theorem nulFree_ofList {cs : List Char} : NulFree (String.ofList cs) ↔ '\x00' ∉ cs := by
  rw [NulFree, String.toList_ofList]

@[simp]
theorem nulFree_append {s t : String} : NulFree (s ++ t) ↔ NulFree s ∧ NulFree t := by
  simp [NulFree]

/-- Joining texts brings in no character but those of the texts and of the separator. -/
theorem nulFree_intercalate {separator : String} {parts : List String}
    (hseparator : NulFree separator) (hparts : ∀ part ∈ parts, NulFree part) :
    NulFree (separator.intercalate parts) := by
  intro hnul
  rw [String.toList_intercalate] at hnul
  rcases mem_of_mem_intercalate hnul with hnul | ⟨_, hpart, hnul⟩
  · exact hseparator hnul
  · obtain ⟨part, hmem, rfl⟩ := List.mem_map.mp hpart
    exact hparts part hmem hnul

namespace Text

/-- The parts of a path bring nothing new. -/
theorem nulFree_of_mem_pathParts {s part : String} (hs : NulFree s) (hpart : part ∈ pathParts s) :
    NulFree part := by
  obtain ⟨cs, hcs, rfl⟩ := List.mem_map.mp hpart
  exact nulFree_ofList.mpr fun hnul => hs (mem_of_mem_partsBetween hcs hnul)

theorem nulFree_of_mem_moduleParts {s part : String} (hs : NulFree s)
    (hpart : part ∈ moduleParts s) : NulFree part := by
  obtain ⟨cs, hcs, rfl⟩ := List.mem_map.mp hpart
  exact nulFree_ofList.mpr fun hnul => hs (mem_of_mem_partsAtColons hcs hnul)

/-- Small letters do not turn into NUL characters. -/
theorem nulFree_lower {s : String} (hs : NulFree s) : NulFree (lower s) :=
  nulFree_ofList.mpr (lowerAfter_ne_nul hs [])

end Text

/-- The directory of a module is free of NUL characters when its name and the directory that was
asked for are. -/
theorem Naming.nulFree_modulePath {moduleName modulePath : String} (baseClass : String)
    (hmodule : NulFree moduleName) (hpath : NulFree modulePath) :
    NulFree (configure moduleName modulePath baseClass).modulePath := by
  unfold configure
  dsimp only
  split
  next =>
    exact nulFree_intercalate (by decide) fun part hpart =>
      Text.nulFree_of_mem_moduleParts (Text.nulFree_lower hmodule) hpart
  next => exact hpath

namespace Path

/-- A path without a NUL character. -/
structure IsNulFree (p : Path) : Prop where
  root : NulFree p.root
  parts : ∀ part ∈ p.parts, NulFree part

theorem isNulFree_ofText {s : String} (h : NulFree s) : (ofText s).IsNulFree where
  root := by
    unfold ofText
    dsimp only
    split <;> decide
  parts part hpart := Text.nulFree_of_mem_pathParts h (List.mem_of_mem_filter hpart)

variable {p : Path}

theorem IsNulFree.below (h : p.IsNulFree) {parts : List String}
    (hparts : ∀ part ∈ parts, NulFree part) : (p.below parts).IsNulFree where
  root := h.root
  parts part hpart := by
    rcases List.mem_append.mp hpart with hpart | hpart
    · exact h.parts part hpart
    · exact hparts part (List.mem_of_mem_filter hpart)

theorem IsNulFree.parent (h : p.IsNulFree) : p.parent.IsNulFree where
  root := h.root
  parts part hpart := h.parts part (List.mem_of_mem_dropLast hpart)

/-- A path is spelled with its parts and slashes. -/
theorem IsNulFree.nulFree_toString (h : p.IsNulFree) : NulFree p.toString := by
  have hjoined : NulFree (p.root ++ "/".intercalate p.parts) :=
    nulFree_append.mpr ⟨h.root, nulFree_intercalate (by decide) h.parts⟩
  unfold toString
  split
  next => decide
  next => exact hjoined

end Path

namespace Disk

variable {d : Disk} {p : Path}

/-- Looking for a place on the disk, only a NUL character makes a path no path at all. -/
theorem locate_ne_nulInPath (h : p.IsNulFree) : d.locate p ≠ .error .nulInPath := by
  unfold locate
  dsimp only
  rw [if_neg h.nulFree_toString]
  split
  · simp
  · rw [ne_eq, mapError_eq_error_iff]
    simp

/-- Where a path leads to a place, it is up to what is done there. -/
theorem bind_locate_ne_nulInPath {α : Type} {next : List String → Except DiskFault α}
    (h : p.IsNulFree) (hnext : ∀ place, next place ≠ .error .nulInPath) :
    d.locate p >>= next ≠ .error .nulInPath := by
  intro herror
  rcases bind_eq_error_iff.mp herror with hlocate | ⟨place, -, herror⟩
  · exact locate_ne_nulInPath h hlocate
  · exact hnext place herror

theorem read_ne_nulInPath (h : p.IsNulFree) : d.read p ≠ .error .nulInPath := by
  apply bind_locate_ne_nulInPath h
  intro place
  split <;> rintro ⟨⟩

theorem write_ne_nulInPath (h : p.IsNulFree) (content : ByteArray) :
    d.write p content ≠ .error .nulInPath := by
  apply bind_locate_ne_nulInPath h
  intro place
  split <;> rintro ⟨⟩

theorem makeFolder_ne_nulInPath (h : p.IsNulFree) : d.makeFolder p ≠ .error .nulInPath := by
  apply bind_locate_ne_nulInPath h
  intro place
  split <;> rintro ⟨⟩

theorem ensureFolder_ne_nulInPath (h : p.IsNulFree) : d.ensureFolder p ≠ .error .nulInPath := by
  intro hensure
  unfold ensureFolder at hensure
  split at hensure
  next => cases hensure
  next fault hmake =>
    split at hensure
    next => cases hensure
    next =>
      cases hensure
      exact makeFolder_ne_nulInPath h hmake

/-- Making all the folders above a file goes through parents of one path, so that path decides. -/
theorem ensureFolders_ne_nulInPath (depth : Nat) (d : Disk) {p : Path} (h : p.IsNulFree) :
    (ensureFolders depth d p).2 ≠ some .nulInPath := by
  fun_induction ensureFolders depth d p with
  | case1 depth d p made hmade => simp
  | case2 d p path depth hmake above fault heq ih =>
      have habove := ih h.parent
      rwa [heq] at habove
  | case3 d p path depth hmake above heq made hmade ih => simp
  | case4 d p path depth hmake above heq fault hfault ih =>
      rintro ⟨⟩
      exact ensureFolder_ne_nulInPath h hfault
  | case5 depth d p fault hmake hother =>
      dsimp only
      split
      · simp
      · rintro ⟨⟩
        exact makeFolder_ne_nulInPath h hmake

/-- A file with a path that is free of NUL characters is refused for a cause on the disk. -/
theorem Refuses.exists_cause {content : ByteArray} {fault : DiskFault} (hp : p.IsNulFree)
    (h : d.Refuses p content fault) : ∃ cause path, fault = .refused cause path := by
  cases fault with
  | refused cause path => exact ⟨cause, path, rfl⟩
  | nulInPath =>
      rcases h with hfolders | ⟨-, hwrite⟩
      · exact (ensureFolders_ne_nulInPath _ d hp.parent hfolders).elim
      · exact (write_ne_nulInPath hp content hwrite).elim

end Disk

/-- The path of a source comes from the directory it is for and the path of its module. -/
theorem Generation.isNulFree_path {g : Generation} {directory : String}
    (hmodule : NulFree g.naming.modulePath) (hdirectory : NulFree directory) :
    (g.path directory).IsNulFree := by
  apply (Path.isNulFree_ofText hdirectory).below
  intro part hpart
  refine Text.nulFree_of_mem_pathParts ?_ hpart
  rw [fileName, nulFree_append, nulFree_append]
  exact ⟨⟨hmodule, by decide⟩, by decide⟩

end RubyClasses
