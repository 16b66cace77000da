import RubyClasses.Proofs.Classes.Refusal
import RubyClasses.Proofs.Storage.Frame

/-! # What generation leaves on a disk

Generating a source below a directory writes one file, after the source is complete and the folders
above the file are there. When any of this fails, all files stay as they are; folders that were made
by then remain, and none are made for a source that is refused. A fault of the disk is handed on
with the name of the source.
-/

namespace RubyClasses

namespace Disk

/-- The disk refuses a file: its folders cannot be made, or they can and it cannot be written. -/
def Refuses (d : Disk) (p : Path) (content : ByteArray) (fault : DiskFault) : Prop :=
  (d.makeFolders p.parent).2 = some fault ∨
    (d.makeFolders p.parent).2 = none ∧ (d.makeFolders p.parent).1.write p content = .error fault

/-- A file is refused for one reason. -/
theorem Refuses.unique {d : Disk} {p : Path} {content : ByteArray} {fault other : DiskFault}
    (h : d.Refuses p content fault) (hother : d.Refuses p content other) : fault = other := by
  rcases h with h | ⟨hnone, h⟩ <;> rcases hother with hother | ⟨hnone', hother⟩
  · rw [h] at hother
    exact Option.some.inj hother
  · rw [h] at hnone'
    cases hnone'
  · rw [hother] at hnone
    cases hnone
  · rw [h] at hother
    exact Except.error.inj hother

/-- A file is not refused where, its folders made, a path leads to no folder. -/
theorem not_refuses {d : Disk} {p : Path} {place : List String}
    (hmake : (d.makeFolders p.parent).2 = none)
    (hplace : ((d.makeFolders p.parent).1.locate p).toOption = some place)
    (hfree : (d.makeFolders p.parent).1.isFolder p = false) (content : ByteArray)
    (fault : DiskFault) : ¬ d.Refuses p content fault := by
  have hlocate := toOption_eq_some_iff.mp hplace
  have hwrite : (d.makeFolders p.parent).1.write p content = .ok _ :=
    write_eq_ok_iff.mpr ⟨place, hlocate, by
      intro hfolder
      simp [isFolder, hlocate, hfolder] at hfree, rfl⟩
  rw [Refuses, hmake, hwrite]
  simp

/-- A file holds some content, and all other files are as they were before. -/
def WritesOnly (before : Disk) (p : Path) (content : ByteArray) (after : Disk) : Prop :=
  ∃ place, after.locate p = .ok place ∧ after.file? place = some content ∧
    ∀ other, other ≠ place → after.file? other = before.file? other

/-- A file that was written is read back. -/
theorem WritesOnly.read_eq {before after : Disk} {p : Path} {content : ByteArray}
    (h : before.WritesOnly p content after) : after.read p = .ok content := by
  obtain ⟨place, hlocate, hcontent, -⟩ := h
  exact read_eq_ok_iff.mpr ⟨place, hlocate, hcontent⟩

/-- All files are as they were before. -/
def KeepsFiles (before after : Disk) : Prop := ∀ place, after.file? place = before.file? place

end Disk

namespace Buffer

/-- The ways in which persisting a buffer ends. -/
inductive Persists (b : Buffer) (directory : String) (disk : Disk) :
    Disk → Journal → Except DiskFault Path → Prop
  | refused {after journal fault} (hrefuses : disk.Refuses (b.filePath directory)
        b.render.toUTF8 fault) (hfiles : disk.KeepsFiles after)
      (hjournal : ∀ message ∈ journal, message.level ≠ .error) :
      Persists b directory disk after journal (.error fault)
  | written {after journal} (haccepts : ¬ ∃ fault, disk.Refuses (b.filePath directory)
        b.render.toUTF8 fault)
      (hfile : disk.WritesOnly (b.filePath directory) b.render.toUTF8 after)
      (hjournal : ∀ message ∈ journal, message.level ≠ .error) :
      Persists b directory disk after journal (.ok (b.filePath directory))

/-- Persisting a buffer ends in one of these ways. -/
theorem persist_persists (b : Buffer) (directory : String) (disk : Disk) :
    b.Persists directory disk (b.persist directory disk).1 (b.persist directory disk).2.1
      (b.persist directory disk).2.2 := by
  have hfolders := disk.makeFolders_addsFolders (b.filePath directory).parent
  unfold persist
  dsimp only
  split
  next made fault hmake =>
    rw [hmake] at hfolders
    exact .refused (.inl (by rw [hmake])) hfolders.file?_eq (by simp)
  next made hmake =>
    rw [hmake] at hfolders
    split
    next fault hwrite =>
      refine .refused (.inr ?_) hfolders.file?_eq (by simp)
      rw [hmake]
      exact ⟨rfl, hwrite⟩
    next after hwrite =>
      refine .written ?_ ?_ (by simp)
      · rintro ⟨fault, hrefuses⟩
        rw [Disk.Refuses, hmake, hwrite] at hrefuses
        simp at hrefuses
      · obtain ⟨place, hlocate, hcontent, hothers⟩ := Disk.write_frame hwrite
        refine ⟨place, hlocate, hcontent, ?_⟩
        intro other hne
        rw [hothers other hne, hfolders.file?_eq]

end Buffer

namespace Generation

/-- The path of the source file below a directory. -/
def path (g : Generation) (directory : String) : Path :=
  (Path.ofText directory).below (Text.pathParts (g.fileName ++ ".rb"))

/-- A buffer is persisted at the path of its source. -/
theorem filePath_buffer {g : Generation} {b : Buffer} (h : g.buffer = .ok b)
    (directory : String) : b.filePath directory = g.path directory := by
  obtain ⟨o, -, rfl⟩ := buffer_eq_ok_iff.mp h
  rw [Buffer.foldl_require, Buffer.emit_eq_grown]
  rfl

/-- What generating below a directory leaves on a disk. -/
structure DiskEffect (g : Generation) (directory : String) (before after : Disk)
    (outcome : Except GenerationFault Path) : Prop where
  /-- The structs are brought into declaration order, which ends the work on the source. -/
  ordered : ∃ count, Queue.Turns count (Queue.ofStructs g.model.structs)
    ⟨[], g.model.declarationOrder⟩
  /-- On success the source is in its file, and no other file has changed. -/
  written : ∀ path, outcome = .ok path → path = g.path directory ∧
    ∃ text, g.render = .ok text ∧ before.WritesOnly path text.toUTF8 after
  /-- On failure no file has changed. -/
  failed : ∀ fault, outcome = .error fault → before.KeepsFiles after
  /-- A source is refused for a member that is unsupported, and the disk stays as it is. -/
  refused : ∀ fault, outcome = .error (.member fault) → after = before ∧
    g.render = .error fault ∧ ∃ entry ∈ g.model.structs,
      ∃ member ∈ entry.2.attributes ++ entry.2.links, ¬ g.model.Supports member.type
  /-- A fault of the disk is the cause of the fault that generation ends with. -/
  storage : ∀ fileName fault, outcome = .error (.storage fileName fault) ↔
    fileName = g.fileName ∧ ∃ text, g.render = .ok text ∧
      before.Refuses (g.path directory) text.toUTF8 fault

/-- Once its source is complete, generation announces it and persists it. -/
theorem generate_of_buffer {g : Generation} {b : Buffer} (h : g.buffer = .ok b)
    (directory : String) (disk : Disk) :
    g.generate directory disk = ((b.persist directory disk).1,
      g.announcement :: (b.persist directory disk).2.1,
      (b.persist directory disk).2.2.mapError (.storage g.fileName)) := by
  simp only [generate, h]

/-- Whatever a disk holds, generation changes no file but the one that it writes, and this one only
when it succeeds. -/
theorem generate_diskEffect {g : Generation} (hforest : Hierarchy.IsForest g.model.structs)
    (directory : String) (disk : Disk) :
    g.DiskEffect directory disk (g.generate directory disk).1 (g.generate directory disk).2.2 := by
  have hordered := (outcome_of_isForest hforest).ordered
  cases hbuffer : g.buffer with
  | error fault =>
      have hrender := render_eq_error_iff.mpr hbuffer
      have hgenerate : g.generate directory disk =
          (disk, [g.announcement], .error (.member fault)) := by
        unfold generate
        rw [hbuffer]
      rw [hgenerate]
      refine ⟨hordered, by simp, fun _ _ _ => rfl, ?_, ?_⟩
      · rintro _ ⟨⟩
        exact ⟨rfl, hrender, (exists_error_iff hforest).mp ⟨fault, hrender⟩⟩
      · simp [hrender]
  | ok b =>
      have hrender : g.render = .ok b.render := render_eq_ok_iff.mpr ⟨b, hbuffer, rfl⟩
      have hpersists := b.persist_persists directory disk
      rw [generate_of_buffer hbuffer]
      generalize b.persist directory disk = result at hpersists ⊢
      obtain ⟨after, journal, outcome⟩ := result
      dsimp only at hpersists ⊢
      cases hpersists with
      | refused hrefuses hfiles =>
          rw [filePath_buffer hbuffer] at hrefuses
          refine ⟨hordered, by simp [Except.mapError], fun _ _ => hfiles,
            by simp [Except.mapError], ?_⟩
          intro fileName other
          simp only [Except.mapError, hrender, Except.error.injEq, GenerationFault.storage.injEq,
            Except.ok.injEq, exists_eq_left', eq_comm (a := fileName)]
          apply and_congr_right
          intro _
          constructor
          · rintro rfl
            exact hrefuses
          · exact hrefuses.unique
      | written haccepts hfile =>
          rw [filePath_buffer hbuffer] at haccepts hfile
          refine ⟨hordered, ?_, by simp [Except.mapError], by simp [Except.mapError], ?_⟩
          · intro path hpath
            rw [filePath_buffer hbuffer] at hpath
            cases hpath
            exact ⟨rfl, _, hrender, hfile⟩
          · intro fileName fault
            simp only [Except.mapError, reduceCtorEq, false_iff]
            rintro ⟨-, text, htext, hrefuses⟩
            rw [hrender] at htext
            cases htext
            exact haccepts ⟨fault, hrefuses⟩

end Generation

/-- A disk with a file and no folder beside it. -/
def noteDisk : Disk := ⟨["home"], [(["home", "notes"], .file "draft".toUTF8)]⟩

/-- The source of the team. -/
def teamGeneration : Generation := ⟨teamModel, teamNaming, []⟩

theorem teamModel_isForest : Hierarchy.IsForest teamModel.structs :=
  Model.isForest_of_ofText ofText_teamText teamModel_acyclic

theorem Generation.generate_diskEffect_noteDisk :
    Hierarchy.IsForest teamModel.structs ∧
      (∃ text, teamGeneration.render = .ok text ∧
        noteDisk.WritesOnly ⟨"", ["out", "team", "types.rb"]⟩ text.toUTF8
          (teamGeneration.generate "out" noteDisk).1) ∧
      (teamGeneration.generate "notes" noteDisk).2.2 =
        .error (.storage "team/types" (.refused .notFolder "notes/team")) ∧
      noteDisk.KeepsFiles (teamGeneration.generate "notes" noteDisk).1 := by
  obtain ⟨text, hrender⟩ := exists_render_teamModel
  have hpath : teamGeneration.path "out" = ⟨"", ["out", "team", "types.rb"]⟩ := by decide +kernel
  have hname : "team/types" = teamGeneration.fileName := by decide +kernel
  have hmake : (noteDisk.makeFolders (teamGeneration.path "notes").parent).2 =
      some (.refused .notFolder "notes/team") := by decide +kernel
  refine ⟨teamModel_isForest, ?_, ?_⟩
  · have hfolders : (noteDisk.makeFolders (teamGeneration.path "out").parent).2 = none := by
      decide +kernel
    have hplace : ((noteDisk.makeFolders (teamGeneration.path "out").parent).1.locate
        (teamGeneration.path "out")).toOption = some ["home", "out", "team", "types.rb"] := by
      decide +kernel
    have hfree : (noteDisk.makeFolders (teamGeneration.path "out").parent).1.isFolder
        (teamGeneration.path "out") = false := by decide +kernel
    have heffect := generate_diskEffect (g := teamGeneration) teamModel_isForest "out" noteDisk
    cases houtcome : (teamGeneration.generate "out" noteDisk).2.2 with
    | ok path =>
        obtain ⟨rfl, hwritten⟩ := heffect.written path houtcome
        rwa [hpath] at hwritten
    | error fault =>
        cases fault with
        | member fault =>
            obtain ⟨-, hrefused, -⟩ := heffect.refused fault houtcome
            rw [teamGeneration, hrender] at hrefused
            cases hrefused
        | storage fileName fault =>
            obtain ⟨-, content, -, hrefuses⟩ := (heffect.storage fileName fault).mp houtcome
            exact absurd hrefuses (Disk.not_refuses hfolders hplace hfree content.toUTF8 fault)
  · have heffect := generate_diskEffect (g := teamGeneration) teamModel_isForest "notes" noteDisk
    have houtcome := (heffect.storage _ _).mpr ⟨hname, text, hrender, .inl hmake⟩
    exact ⟨houtcome, heffect.failed _ houtcome⟩

end RubyClasses
