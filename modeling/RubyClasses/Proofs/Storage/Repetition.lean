import RubyClasses.Proofs.Storage.Persistence

/-! # Generating again

A source that was generated can be generated again, and nothing changes. The folders that the first
run made or found are there for the second one, whichever way the path to them leads, so it makes
none; and the file is replaced by itself.
-/

namespace RubyClasses

namespace Disk

variable {d made after : Disk} {p : Path}

theorem replace_replace (place : List String) (entry : Entry)
    (entries : List (List String × Entry)) :
    put.replace place entry (put.replace place entry entries) =
      put.replace place entry entries := by
  induction entries with
  | nil => rw [put.replace, put.replace, if_pos rfl]
  | cons first rest ih =>
      obtain ⟨other, e⟩ := first
      rw [put.replace]
      split
      next heq => rw [put.replace, if_pos heq]
      next hne => rw [put.replace, if_neg hne, ih]

/-- An entry that is put where it is already changes nothing. -/
theorem put_put (d : Disk) (place : List String) (entry : Entry) :
    put (d.put place entry) place entry = d.put place entry := by
  simp only [put, replace_replace]

theorem isFolder_eq_true_iff :
    d.isFolder p = true ↔ ∃ place, d.locate p = .ok place ∧ d.entry? place = some .folder := by
  unfold isFolder
  cases d.locate p with
  | error fault => simp
  | ok place =>
      simp only [Except.ok.injEq, exists_eq_left']
      split <;> simp_all

/-- Folders stay where they are when others are added. -/
theorem isFolder_of_folders
    (hfolders : ∀ place, d.entry? place = some .folder → after.entry? place = some .folder)
    (hworking : after.workingDirectory = d.workingDirectory) (h : d.isFolder p = true) :
    after.isFolder p = true := by
  obtain ⟨place, hlocate, hfolder⟩ := isFolder_eq_true_iff.mp h
  exact isFolder_eq_true_iff.mpr
    ⟨place, locate_eq_ok_of_folders hfolders hworking hlocate, hfolders place hfolder⟩

theorem AddsFolders.folder (h : AddsFolders d after) {place : List String}
    (hfolder : d.entry? place = some .folder) : after.entry? place = some .folder := by
  rcases h.entry?_eq_or place with heq | ⟨-, hmade⟩
  · rw [heq, hfolder]
  · exact hmade

/-- A folder that was made is there. -/
theorem isFolder_of_makeFolder (h : d.makeFolder p = .ok made) : made.isFolder p = true := by
  have hadds := makeFolder_addsFolders h
  obtain ⟨place, hlocate, h⟩ := bind_eq_ok_iff.mp h
  split at h
  next => cases h
  next hnone =>
    cases h
    refine isFolder_eq_true_iff.mpr ⟨place, locate_eq_ok_of_folders (fun _ => hadds.folder)
      hadds.workingDirectory_eq hlocate, ?_⟩
    rw [entry?_put (by simp [hnone]), if_pos rfl]

theorem isFolder_of_ensureFolder (h : d.ensureFolder p = .ok made) : made.isFolder p = true := by
  unfold ensureFolder at h
  split at h
  next hmake =>
    cases h
    exact isFolder_of_makeFolder hmake
  next =>
    split at h
    next hfolder =>
      cases h
      exact hfolder
    next => cases h

/-- When folders can be made, the last one of them is there. -/
theorem isFolder_of_ensureFolders {depth : Nat} (h : (ensureFolders depth d p).2 = none) :
    (ensureFolders depth d p).1.isFolder p = true := by
  fun_induction ensureFolders depth d p with
  | case1 depth d p made hmake => exact isFolder_of_makeFolder hmake
  | case2 => cases h
  | case3 d p path depth hmake above heq made hmade ih => exact isFolder_of_ensureFolder hmade
  | case4 => cases h
  | case5 depth d p fault hmake hother => simpa using h

/-- No folder is made where one is. -/
theorem makeFolders_of_isFolder (h : d.isFolder p = true) : d.makeFolders p = (d, none) := by
  obtain ⟨place, hlocate, hfolder⟩ := isFolder_eq_true_iff.mp h
  have hmake : d.makeFolder p = .error (.refused .occupied p.toString) := by
    unfold makeFolder
    simp only [hlocate, hfolder, bind, Except.bind, throw, throwThe, MonadExceptOf.throw]
  unfold makeFolders ensureFolders
  simp [hmake, h]

/-- A file that is written again is replaced by itself. -/
theorem write_again {content : ByteArray} (h : d.write p content = .ok after) :
    after.write p content = .ok after := by
  obtain ⟨place, hlocate, hplace, rfl⟩ := write_eq_ok_iff.mp h
  have hfolders := entry?_put_of_folder hplace (.file content)
  refine write_eq_ok_iff.mpr ⟨place, locate_eq_ok_of_folders hfolders rfl hlocate, ?_,
    (put_put d place _).symm⟩
  rw [entry?_put hplace, if_pos rfl]
  simp

theorem isFolder_of_write {folder : Path} {content : ByteArray} (h : d.write p content = .ok after)
    (hfolder : d.isFolder folder = true) : after.isFolder folder = true := by
  obtain ⟨place, -, hplace, rfl⟩ := write_eq_ok_iff.mp h
  exact isFolder_of_folders (entry?_put_of_folder hplace _) rfl hfolder

end Disk

namespace Buffer

/-- Persisting succeeds when the folders of the file can be made and the file can be written. -/
theorem persist_eq_ok_iff {b : Buffer} {directory : String} {disk after : Disk}
    {journal : Journal} {path : Path} :
    b.persist directory disk = (after, journal, .ok path) ↔
      path = b.filePath directory ∧ ∃ made, disk.makeFolders path.parent = (made, none) ∧
        made.write path b.render.toUTF8 = .ok after ∧
        journal = [⟨.info, .persistence,
          "Writing file \"" ++ (path.absolute made.workingDirectory).toString ++ "\"."⟩] := by
  unfold persist
  dsimp only
  constructor
  · intro h
    split at h
    next => simp at h
    next made hmake =>
      split at h
      next => simp at h
      next hwrite =>
        cases h
        exact ⟨rfl, made, hmake, hwrite, rfl⟩
  · rintro ⟨rfl, made, hmake, hwrite, rfl⟩
    simp only [hmake, hwrite]

/-- A buffer that was persisted is persisted again without any change. -/
theorem persist_again {b : Buffer} {directory : String} {disk after : Disk} {journal : Journal}
    {path : Path} (h : b.persist directory disk = (after, journal, .ok path)) :
    b.persist directory after = (after, journal, .ok path) := by
  obtain ⟨hpath, made, hmake, hwrite, hjournal⟩ := persist_eq_ok_iff.mp h
  have hmade : made.isFolder path.parent = true := by
    have hfolder := Disk.isFolder_of_ensureFolders (congrArg Prod.snd hmake)
    rwa [← Disk.makeFolders, hmake] at hfolder
  have hworking : after.workingDirectory = made.workingDirectory := by
    obtain ⟨place, -, -, rfl⟩ := Disk.write_eq_ok_iff.mp hwrite
    rfl
  refine persist_eq_ok_iff.mpr ⟨hpath, after, ?_, Disk.write_again hwrite, ?_⟩
  · exact Disk.makeFolders_of_isFolder (Disk.isFolder_of_write hwrite hmade)
  · rw [hworking, hjournal]

end Buffer

namespace Generation

/-- A source is generated when the disk does not refuse its file. -/
theorem exists_generate_eq_ok {g : Generation} {directory source : String} {disk : Disk}
    (hrender : g.render = .ok source)
    (haccepts : ∀ fault, ¬ disk.Refuses (g.path directory) source.toUTF8 fault) :
    ∃ after journal, g.generate directory disk = (after, journal, .ok (g.path directory)) := by
  obtain ⟨b, hbuffer, rfl⟩ := render_eq_ok_iff.mp hrender
  have hpersists := b.persist_persists directory disk
  rw [generate_of_buffer hbuffer, ← filePath_buffer hbuffer] at *
  generalize b.persist directory disk = result at hpersists ⊢
  obtain ⟨after, journal, outcome⟩ := result
  cases hpersists with
  | refused hrefuses => exact (haccepts _ hrefuses).elim
  | written => exact ⟨after, _, rfl⟩

/-- A source that was generated is generated again with the same outcome and without any change to
the disk, on which its file holds the source whatever it held before. -/
theorem generate_again {g : Generation} {directory : String} {disk after : Disk}
    {journal : Journal} {path : Path}
    (h : g.generate directory disk = (after, journal, .ok path)) :
    (∃ source, g.render = .ok source ∧ after.read path = .ok source.toUTF8) ∧
      g.generate directory after = (after, journal, .ok path) := by
  cases hbuffer : g.buffer with
  | error fault => simp [generate, hbuffer] at h
  | ok b =>
      rw [generate_of_buffer hbuffer, Prod.mk.injEq, Prod.mk.injEq, mapError_eq_ok_iff] at h
      obtain ⟨hafter, hjournal, hpath⟩ := h
      have hpersist :
          b.persist directory disk = (after, (b.persist directory disk).2.1, .ok path) :=
        Prod.ext hafter (Prod.ext rfl hpath)
      obtain ⟨-, made, -, hwrite, -⟩ := Buffer.persist_eq_ok_iff.mp hpersist
      have hwrites : made.WritesOnly path b.render.toUTF8 after := Disk.write_frame hwrite
      refine ⟨⟨b.render, render_eq_ok_iff.mpr ⟨b, hbuffer, rfl⟩, hwrites.read_eq⟩, ?_⟩
      rw [generate_of_buffer hbuffer, Buffer.persist_again hpersist, ← hjournal]
      rfl

end Generation

/-- A disk on which an older draft lies where the source of the team goes. -/
def draftDisk : Disk := ⟨["home"], [
  (["home", "out"], .folder), (["home", "out", "team"], .folder),
  (["home", "out", "team", "types.rb"], .file "draft".toUTF8)]⟩

/-- The first run makes a folder that the path leads out of again. -/
theorem Generation.generate_again_draftDisk :
    ∃ after journal,
      teamGeneration.generate "new/../out" draftDisk =
        (after, journal, .ok ⟨"", ["new", "..", "out", "team", "types.rb"]⟩) ∧
      (∃ source, teamGeneration.render = .ok source ∧
        after.read ⟨"", ["new", "..", "out", "team", "types.rb"]⟩ = .ok source.toUTF8) ∧
      teamGeneration.generate "new/../out" after =
        (after, journal, .ok ⟨"", ["new", "..", "out", "team", "types.rb"]⟩) := by
  obtain ⟨source, hrender⟩ : ∃ source, teamGeneration.render = .ok source :=
    exists_render_teamModel
  have hpath : teamGeneration.path "new/../out" =
      ⟨"", ["new", "..", "out", "team", "types.rb"]⟩ := by decide +kernel
  have hfolders : (draftDisk.makeFolders (teamGeneration.path "new/../out").parent).2 = none := by
    decide +kernel
  have hplace : ((draftDisk.makeFolders (teamGeneration.path "new/../out").parent).1.locate
      (teamGeneration.path "new/../out")).toOption =
      some ["home", "out", "team", "types.rb"] := by decide +kernel
  have hfree : (draftDisk.makeFolders (teamGeneration.path "new/../out").parent).1.isFolder
      (teamGeneration.path "new/../out") = false := by decide +kernel
  obtain ⟨after, journal, hgenerate⟩ :=
    exists_generate_eq_ok hrender
      fun fault => Disk.not_refuses hfolders hplace hfree source.toUTF8 fault
  rw [hpath] at hgenerate
  exact ⟨after, journal, hgenerate, generate_again hgenerate⟩

end RubyClasses
