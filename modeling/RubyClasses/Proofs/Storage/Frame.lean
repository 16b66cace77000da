import Mathlib.Logic.Basic
import RubyClasses.Proofs.Fallible
import RubyClasses.Storage.Disk

/-! # What operations on a disk leave alone

Making folders adds folders where nothing was, and changes nothing else, also when it stops halfway.
Writing a file changes the entry at one place. Both keep the places that paths lead to, so a file
that was written can be read back.
-/

namespace RubyClasses.Disk

variable {d after : Disk}

/-- The content of the file at a place. -/
def file? (d : Disk) (place : List String) : Option ByteArray :=
  match d.entry? place with
  | some (.file content) => some content
  | _ => none

theorem file?_eq_some_iff {place : List String} {content : ByteArray} :
    d.file? place = some content ↔ d.entry? place = some (.file content) := by
  unfold file?
  split
  next found hfound => simp [hfound]
  next hnot =>
    simp only [reduceCtorEq, false_iff]
    exact hnot content

theorem file?_eq_of_entry?_eq {place : List String} (h : after.entry? place = d.entry? place) :
    after.file? place = d.file? place := by
  unfold file?
  rw [h]

theorem lookup_cons_eq (p other : List String) (e : Entry) (rest : List (List String × Entry)) :
    ((p, e) :: rest).lookup other = if other = p then some e else rest.lookup other := by
  rw [List.lookup_cons]
  by_cases heq : other = p
  · rw [if_pos heq, beq_iff_eq.mpr heq]
  · rw [if_neg heq, beq_eq_false_iff_ne.mpr heq]

/-- Replacing what stands at a place concerns this place only. -/
theorem lookup_replace (place other : List String) (entry : Entry)
    (entries : List (List String × Entry)) :
    (put.replace place entry entries).lookup other =
      if other = place then some entry else entries.lookup other := by
  induction entries with
  | nil =>
      rw [put.replace, lookup_cons_eq]
  | cons first rest ih =>
      obtain ⟨p, e⟩ := first
      rw [put.replace]
      split
      next hp =>
        rw [lookup_cons_eq, lookup_cons_eq, hp]
        by_cases heq : other = place
        · rw [if_pos heq, if_pos heq]
        · rw [if_neg heq, if_neg heq, if_neg heq]
      next hp =>
        rw [lookup_cons_eq, lookup_cons_eq, ih]
        by_cases hother : other = p
        · rw [if_pos hother, if_pos hother, if_neg (hother ▸ hp)]
        · rw [if_neg hother, if_neg hother]

/-- Putting an entry at a place concerns this place only. -/
theorem entry?_put {place : List String} (hplace : d.entry? place ≠ some .folder) (entry : Entry)
    (other : List String) :
    entry? (d.put place entry) other = if other = place then some entry else d.entry? other := by
  have houtside : place.isPrefixOf d.workingDirectory = false := by
    apply Bool.eq_false_iff.mpr
    intro hprefix
    apply hplace
    unfold entry?
    rw [if_pos hprefix]
  unfold entry?
  have hworking : (d.put place entry).workingDirectory = d.workingDirectory := rfl
  have hentries : (d.put place entry).entries = put.replace place entry d.entries := rfl
  rw [hworking, hentries, lookup_replace]
  by_cases heq : other = place
  · rw [heq, if_neg (by simp [houtside]), if_pos rfl, if_pos rfl]
  · rw [if_neg heq, if_neg heq]

/-- Folders stay where they are when a file is put beside them. -/
theorem entry?_put_of_folder {place : List String} (hplace : d.entry? place ≠ some .folder)
    (entry : Entry) (folder : List String) (hfolder : d.entry? folder = some .folder) :
    entry? (d.put place entry) folder = some .folder := by
  rw [entry?_put hplace, if_neg, hfolder]
  rintro rfl
  exact hplace hfolder

section Places

/-- Further folders do not change where a path leads. -/
theorem follow_eq_ok_of_folders
    (hfolders : ∀ place, d.entry? place = some .folder → after.entry? place = some .folder)
    {start place : List String} {parts : List String} (h : d.follow start parts = .ok place) :
    after.follow start parts = .ok place := by
  induction parts generalizing start with
  | nil => exact h
  | cons part rest ih =>
      unfold follow at h ⊢
      split at h
      next => cases h
      next => cases h
      next hfolder =>
        rw [hfolders start hfolder]
        dsimp only at h ⊢
        split at h
        next => cases h
        next hlength =>
          rw [if_neg hlength]
          exact ih h

/-- Further folders do not change the place of a path. -/
theorem locate_eq_ok_of_folders
    (hfolders : ∀ place, d.entry? place = some .folder → after.entry? place = some .folder)
    (hworking : after.workingDirectory = d.workingDirectory) {p : Path} {place : List String}
    (h : d.locate p = .ok place) : after.locate p = .ok place := by
  unfold locate at h ⊢
  rw [hworking]
  dsimp only at h ⊢
  split at h
  next => cases h
  next hnul =>
    split at h
    next => cases h
    next hlength =>
      rw [if_neg hnul, if_neg hlength]
      rw [mapError_eq_ok_iff] at h ⊢
      exact follow_eq_ok_of_folders hfolders h

end Places

/-- A disk holds what an earlier one held, and perhaps folders where that one held nothing. -/
structure AddsFolders (before after : Disk) : Prop where
  workingDirectory_eq : after.workingDirectory = before.workingDirectory
  entry?_eq_or : ∀ place, after.entry? place = before.entry? place ∨
    before.entry? place = none ∧ after.entry? place = some .folder

namespace AddsFolders

variable {before middle : Disk}

theorem refl (d : Disk) : AddsFolders d d := ⟨rfl, fun _ => .inl rfl⟩

theorem trans (hfirst : AddsFolders before middle) (hsecond : AddsFolders middle after) :
    AddsFolders before after where
  workingDirectory_eq := hsecond.workingDirectory_eq.trans hfirst.workingDirectory_eq
  entry?_eq_or place := by
    rcases hsecond.entry?_eq_or place with heq | ⟨hnone, hfolder⟩
    · rw [heq]
      exact hfirst.entry?_eq_or place
    · rcases hfirst.entry?_eq_or place with heq | ⟨-, hsome⟩
      · exact .inr ⟨heq ▸ hnone, hfolder⟩
      · rw [hsome] at hnone
        cases hnone

/-- Added folders change no file. -/
theorem file?_eq (h : AddsFolders before after) (place : List String) :
    after.file? place = before.file? place := by
  rcases h.entry?_eq_or place with heq | ⟨hnone, hfolder⟩
  · exact file?_eq_of_entry?_eq heq
  · unfold file?
    rw [hnone, hfolder]

end AddsFolders

theorem makeFolder_addsFolders {p : Path} (h : d.makeFolder p = .ok after) :
    AddsFolders d after := by
  obtain ⟨place, -, h⟩ := bind_eq_ok_iff.mp h
  split at h
  next => cases h
  next hnone =>
    cases h
    refine ⟨rfl, ?_⟩
    intro other
    rw [entry?_put (by simp [hnone])]
    split
    next heq => exact .inr ⟨heq ▸ hnone, rfl⟩
    next => exact .inl rfl

/-- A folder that is there already is left as it is. -/
theorem ensureFolder_addsFolders {p : Path} (h : d.ensureFolder p = .ok after) :
    AddsFolders d after := by
  unfold ensureFolder at h
  split at h
  next made hmade =>
    cases h
    exact makeFolder_addsFolders hmade
  next =>
    split at h
    next =>
      cases h
      exact .refl d
    next => cases h

/-- What has been made when a folder cannot be made remains, and it is folders only. -/
theorem ensureFolders_addsFolders (depth : Nat) (d : Disk) (p : Path) :
    AddsFolders d (ensureFolders depth d p).1 := by
  fun_induction ensureFolders depth d p with
  | case1 depth d p made hmade => exact makeFolder_addsFolders hmade
  | case2 d p path depth hmake above fault heq ih =>
      rw [heq] at ih
      exact ih
  | case3 d p path depth hmake above heq made hmade ih =>
      rw [heq] at ih
      exact ih.trans (ensureFolder_addsFolders hmade)
  | case4 d p path depth hmake above heq fault hfault ih =>
      rw [heq] at ih
      exact ih
  | case5 depth d p fault hmake hother => exact .refl d

theorem makeFolders_addsFolders (d : Disk) (p : Path) : AddsFolders d (d.makeFolders p).1 :=
  ensureFolders_addsFolders p.parts.length d p

/-- Reading gives the content of the file to which the path leads. -/
theorem read_eq_ok_iff {p : Path} {content : ByteArray} :
    d.read p = .ok content ↔ ∃ place, d.locate p = .ok place ∧ d.file? place = some content := by
  unfold read
  rw [bind_eq_ok_iff]
  refine exists_congr fun place => and_congr_right fun _ => ?_
  rw [file?_eq_some_iff]
  split
  next hnone => simp [hnone, throw, throwThe, MonadExceptOf.throw]
  next hfolder => simp [hfolder, throw, throwThe, MonadExceptOf.throw]
  next found hfound => simp [hfound, pure, Except.pure]

/-- Writing puts a file where the path leads, unless there is a folder. -/
theorem write_eq_ok_iff {p : Path} {content : ByteArray} :
    d.write p content = .ok after ↔ ∃ place, d.locate p = .ok place ∧
      d.entry? place ≠ some .folder ∧ after = d.put place (.file content) := by
  unfold write
  rw [bind_eq_ok_iff]
  refine exists_congr fun place => and_congr_right fun _ => ?_
  split
  next hfolder => simp [hfolder, throw, throwThe, MonadExceptOf.throw]
  next hnot =>
    have hplace : d.entry? place ≠ some .folder := hnot
    simp [hplace, pure, Except.pure, eq_comm]

/-- A file that was written is found under its path, and every other file is as before. -/
theorem write_frame {p : Path} {content : ByteArray} (h : d.write p content = .ok after) :
    ∃ place, after.locate p = .ok place ∧ after.file? place = some content ∧
      ∀ other, other ≠ place → after.file? other = d.file? other := by
  obtain ⟨place, hlocate, hplace, rfl⟩ := write_eq_ok_iff.mp h
  have hentry := entry?_put hplace (.file content)
  have hfolders := entry?_put_of_folder hplace (.file content)
  refine ⟨place, locate_eq_ok_of_folders hfolders rfl hlocate, ?_, ?_⟩
  · rw [file?_eq_some_iff, hentry, if_pos rfl]
  · intro other hne
    exact file?_eq_of_entry?_eq (by rw [hentry, if_neg hne])

end RubyClasses.Disk
