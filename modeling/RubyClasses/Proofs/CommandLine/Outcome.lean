import RubyClasses.Proofs.CommandLine.Course

/-! # How a run of the command line ends

Only when all steps of a run succeed does the run succeed and a file change. What goes wrong before
the source is written is told apart from what goes wrong then by the kind of the fault, so the
message of a failed run names the step that failed.
-/

namespace RubyClasses

/-- A text begins with another one. -/
def Begins (text start : String) : Prop := ∃ rest, text = start ++ rest

theorem begins_append (start rest : String) : Begins (start ++ rest) start := ⟨rest, rfl⟩

/-- Of two beginnings of a text, one begins the other. -/
theorem Begins.comparable {text start other : String} (h : Begins text start)
    (hother : Begins text other) :
    start.toList <+: other.toList ∨ other.toList <+: start.toList := by
  obtain ⟨rest, rfl⟩ := h
  obtain ⟨rest', heq⟩ := hother
  have hchars := congrArg String.toList heq
  rw [String.toList_append, String.toList_append] at hchars
  exact List.prefix_or_prefix_of_prefix ⟨_, rfl⟩ ⟨_, hchars.symm⟩

theorem not_begins_append {start other : String}
    (h : ¬ start.toList <+: other.toList ∧ ¬ other.toList <+: start.toList) (rest : String) :
    ¬ Begins (start ++ rest) other := by
  intro hbegins
  rcases (begins_append start rest).comparable hbegins with hprefix | hprefix
  · exact h.1 hprefix
  · exact h.2 hprefix

/-- The beginnings of what is said about descriptions. -/
def DescriptionFault.beginnings : List String := [
  "Model description isn't valid JSON: ", "Model description must be an object with a 'types' list",
  "Type declaration without a name: ", "Name must be a string, got ", "Can't build a name from ",
  "Type ", "'", "Base ", "Member of ", "Type reference from "]

/-- Everything that is said about a description has one of these beginnings. -/
theorem DescriptionFault.exists_beginning (fault : DescriptionFault) :
    ∃ start ∈ beginnings, Begins fault.message start := by
  unfold message
  cases fault
  case noTypes => exact ⟨_, by decide, "", String.append_empty.symm⟩
  all_goals
    simp only [cited, String.append_assoc]
    exact ⟨_, by decide, begins_append _ _⟩

/-- What is said about a description says nothing else. -/
theorem DescriptionFault.not_begins {start : String}
    (h : ∀ other ∈ beginnings, ¬ other.toList <+: start.toList ∧ ¬ start.toList <+: other.toList)
    (fault : DescriptionFault) : ¬ Begins fault.message start := by
  obtain ⟨other, hmem, rest, heq⟩ := fault.exists_beginning
  rw [heq]
  exact not_begins_append (h other hmem) rest

/-- The error messages of a journal. -/
def Journal.errors (journal : Journal) : Journal :=
  journal.filter fun message => message.level = .error

theorem Journal.errors_append_error {journal : Journal}
    (hquiet : ∀ message ∈ journal, message.level ≠ .error) (text : String) :
    Journal.errors (journal ++ [⟨.error, .commandLine, text⟩]) =
      [⟨.error, .commandLine, text⟩] := by
  have hnone : Journal.errors journal = [] := List.filter_eq_nil_iff.mpr (by simpa using hquiet)
  rw [errors, List.filter_append, ← errors, hnone]
  rfl

namespace CommandLine

namespace Invocation

/-- What the end of a run tells. -/
structure Outcome (i : Invocation) (before : Disk) (run : Execution) : Prop where
  /-- The structs of the model are brought into declaration order. -/
  ordered : ∀ m, i.Reads before m → ∃ count, Queue.Turns count (Queue.ofStructs m.structs)
    ⟨[], m.declarationOrder⟩
  /-- The run succeeds, fails or breaks off. -/
  status : run.ending.status? ∈ [some 0, some 1, none]
  /-- It succeeds when all its steps do. -/
  succeeds_iff : run.ending.status? = some 0 ↔ ∃ g directory source,
    i.Asks before g directory source ∧
      ¬ ∃ fault, before.Refuses (g.path directory) source.toUTF8 fault
  /-- Then the source is in its file, and no other file has changed. -/
  written : run.ending.status? = some 0 → ∃ g directory source,
    i.Asks before g directory source ∧
      before.WritesOnly (g.path directory) source.toUTF8 run.disk
  /-- Otherwise no file has changed. -/
  kept : run.ending.status? ≠ some 0 → before.KeepsFiles run.disk
  /-- A run that fails reports one error, which names the step that failed. -/
  reported : run.ending.status? = some 1 → ∃ text,
    run.journal.errors = [⟨.error, .commandLine, text⟩] ∧
    (Begins text "Can't read model file " ↔
      ∃ cause path, before.read (Path.ofText i.modelFile) = .error (.refused cause path)) ∧
    (Begins text "Error writing types file " ↔ ∃ g directory source cause path,
      i.Asks before g directory source ∧
        before.Refuses (g.path directory) source.toUTF8 (.refused cause path))

section Tells

variable {i : Invocation} {before : Disk} {run : Execution} {g : Generation}
  {directory source : String}

/-- A source is asked for only where the model file can be read. -/
theorem Asks.read_ne_error (h : i.Asks before g directory source) (fault : DiskFault) :
    before.read (Path.ofText i.modelFile) ≠ .error fault := by
  obtain ⟨content, text, hread, -, -⟩ := h.reads
  simp [hread]

theorem Reads.ofText_eq {m : Model} (h : i.Reads before m) {content : ByteArray} {text : String}
    (hread : before.read (Path.ofText i.modelFile) = .ok content)
    (hdecode : Utf8.decode content = .ok text) : Model.ofText text = .ok m := by
  obtain ⟨content', text', hread', hdecode', hmodel⟩ := h
  rw [hread] at hread'
  cases hread'
  rw [hdecode] at hdecode'
  cases hdecode'
  exact hmodel

/-- Only the course in which a source is generated succeeds. -/
theorem Course.succeeds_iff (h : i.Course before run) :
    run.ending.status? = some 0 ↔ ∃ g directory source, i.Asks before g directory source ∧
      ¬ ∃ fault, before.Refuses (g.path directory) source.toUTF8 fault := by
  cases h with
  | unreadable hread =>
      simp only [Ending.status?, Option.some.injEq, one_ne_zero, false_iff]
      rintro ⟨g, directory, source, hasks, -⟩
      exact hasks.read_ne_error _ hread
  | undescribed hread hdecode hmodel =>
      simp only [Ending.status?, Option.some.injEq, one_ne_zero, false_iff]
      rintro ⟨g, directory, source, hasks, -⟩
      rw [hasks.reads.ofText_eq hread hdecode] at hmodel
      cases hmodel
  | unwritable hasks hrefuses =>
      simp only [Ending.status?, Option.some.injEq, one_ne_zero, false_iff]
      rintro ⟨g, directory, source, hother, haccepts⟩
      obtain ⟨rfl, rfl, rfl⟩ := hasks.unique hother
      exact haccepts ⟨_, hrefuses⟩
  | brokeOff hfails =>
      simp only [Ending.status?, reduceCtorEq, false_iff]
      rintro ⟨g, directory, source, hasks, haccepts⟩
      exact haccepts (hfails g directory source hasks)
  | generated hasks haccepts =>
      simp only [Ending.status?, true_iff]
      exact ⟨_, _, _, hasks, haccepts⟩

/-- A run that succeeds has taken the course in which its source was written. -/
theorem Course.written (h : i.Course before run) (hstatus : run.ending.status? = some 0) :
    ∃ g directory source, i.Asks before g directory source ∧
      before.WritesOnly (g.path directory) source.toUTF8 run.disk := by
  cases h with
  | generated hasks _ hwrites => exact ⟨_, _, _, hasks, hwrites⟩
  | _ => simp [Ending.status?] at hstatus

theorem Course.kept (h : i.Course before run) (hstatus : run.ending.status? ≠ some 0) :
    before.KeepsFiles run.disk := by
  cases h with
  | unreadable => exact fun _ => rfl
  | undescribed => exact fun _ => rfl
  | unwritable _ _ hfiles => exact hfiles
  | brokeOff _ hfiles => exact hfiles
  | generated => exact (hstatus rfl).elim

/-- The message of a run that fails tells which step failed. -/
theorem Course.reported (h : i.Course before run) (hstatus : run.ending.status? = some 1) :
    ∃ text, run.journal.errors = [⟨.error, .commandLine, text⟩] ∧
      (Begins text "Can't read model file " ↔
        ∃ cause path, before.read (Path.ofText i.modelFile) = .error (.refused cause path)) ∧
      (Begins text "Error writing types file " ↔ ∃ g directory source cause path,
        i.Asks before g directory source ∧
          before.Refuses (g.path directory) source.toUTF8 (.refused cause path)) := by
  cases h with
  | @unreadable cause path hread =>
      refine ⟨_, rfl, ?_, ?_⟩
      · rw [String.append_assoc, String.append_assoc]
        exact ⟨fun _ => ⟨cause, path, hread⟩, fun _ => begins_append _ _⟩
      · rw [String.append_assoc, String.append_assoc]
        refine ⟨fun h => (not_begins_append (by decide +kernel) _ h).elim, ?_⟩
        rintro ⟨g, directory, source, _, _, hasks, -⟩
        exact (hasks.read_ne_error _ hread).elim
  | @undescribed _ _ problem hread hdecode hmodel =>
      refine ⟨_, rfl, ?_, ?_⟩
      · refine ⟨fun h => (problem.not_begins (by decide +kernel) h).elim, ?_⟩
        rintro ⟨cause, path, hrefused⟩
        rw [hread] at hrefused
        cases hrefused
      · refine ⟨fun h => (problem.not_begins (by decide +kernel) h).elim, ?_⟩
        rintro ⟨g, directory, source, _, _, hasks, -⟩
        rw [hasks.reads.ofText_eq hread hdecode] at hmodel
        cases hmodel
  | @unwritable _ _ _ cause path _ _ hasks hrefuses _ hquiet =>
      refine ⟨_, Journal.errors_append_error hquiet _, ?_, ?_⟩
      · rw [String.append_assoc]
        refine ⟨fun h => (not_begins_append (by decide +kernel) _ h).elim, ?_⟩
        rintro ⟨cause, path, hrefused⟩
        exact (hasks.read_ne_error _ hrefused).elim
      · refine ⟨fun _ => ⟨_, _, _, cause, path, hasks, hrefuses⟩, fun _ => ?_⟩
        have hquote : "Error writing types file \"" = "Error writing types file " ++ "\"" := by
          decide
        rw [hquote, String.append_assoc, String.append_assoc]
        exact begins_append _ _
  | _ => simp [Ending.status?] at hstatus

end Tells

end Invocation

/-- When no bases run in a cycle, a run that is asked to generate succeeds only with the source in
its file, changes no other file and none when it does not succeed, and reports which step failed. -/
theorem execute_outcome {program : String} {arguments : List String} {i : Invocation} {disk : Disk}
    (hrequest : Request.ofArguments arguments = .ok (.generate i))
    (hacyclic : ∀ m, i.Reads disk m →
      ∀ index, ¬ Relation.TransGen (Hierarchy.Extends m.structs) index index) :
    i.Outcome disk (execute program arguments disk) := by
  have hcourse := i.execute_course disk
  have hrun : execute program arguments disk = i.execute disk := by rw [execute, hrequest]
  rw [hrun]
  refine ⟨?_, ?_, hcourse.succeeds_iff, hcourse.written, hcourse.kept, hcourse.reported⟩
  · rintro m ⟨content, text, hread, hdecode, hmodel⟩
    have hforest := Model.isForest_of_ofText hmodel
      (hacyclic m ⟨content, text, hread, hdecode, hmodel⟩)
    obtain ⟨rank, -, hturns, -⟩ := Model.exists_turns hforest
    exact ⟨_, hturns⟩
  · generalize i.execute disk = run at hcourse ⊢
    cases hcourse <;> simp [Ending.status?]

/-- A disk with a description of the team. -/
def teamDisk : Disk := ⟨["home"], [(["home", "team.json"], .file teamText.toUTF8)]⟩

/-- To generate the team below a directory. -/
def teamInvocation (directory : String) : Invocation :=
  { Invocation.standard "team.json" with
    moduleName := some "Team", outputDirectory := some directory }

/-- The description on the disk is that of the team, wherever its source is to go. -/
theorem reads_teamDisk (directory : String) :
    (teamInvocation directory).Reads teamDisk teamModel := by
  have hplace : (teamDisk.locate (Path.ofText "team.json")).toOption =
      some ["home", "team.json"] := by decide +kernel
  have hread : teamDisk.read (Path.ofText "team.json") = .ok teamText.toUTF8 :=
    Disk.read_eq_ok_iff.mpr ⟨_, toOption_eq_some_iff.mp hplace, rfl⟩
  have hdecode : (Utf8.decode teamText.toUTF8).toOption = some teamText := by decide +kernel
  exact ⟨_, _, hread, toOption_eq_some_iff.mp hdecode, ofText_teamText⟩

theorem reads_teamDisk_acyclic (directory : String) (m : Model)
    (h : (teamInvocation directory).Reads teamDisk m) (index : Nat) :
    ¬ Relation.TransGen (Hierarchy.Extends m.structs) index index := by
  obtain ⟨content, text, hread, hdecode, hmodel⟩ := h
  rw [(reads_teamDisk directory).ofText_eq hread hdecode] at hmodel
  cases hmodel
  exact teamModel_acyclic index

/-- The source of the team is asked for, wherever it is to go. -/
theorem asks_teamDisk {text : String} (hrender : teamGeneration.render = .ok text)
    (directory : String) : (teamInvocation directory).Asks teamDisk teamGeneration directory text :=
  ⟨reads_teamDisk directory, ⟨"Team", rfl, rfl⟩, rfl, rfl, hrender⟩

/-- To generate the team below its own description. -/
theorem ofArguments_teamFile : Request.ofArguments ["team.json", "-m", "Team", "-o", "team.json"] =
    .ok (.generate (teamInvocation "team.json")) :=
  toOption_eq_some_iff.mp (by decide +kernel)

/-- There are no folders below a file. -/
theorem refuses_teamFile (content : ByteArray) :
    teamDisk.Refuses (teamGeneration.path "team.json") content
      (.refused .notFolder "team.json/team") := by
  left
  decide +kernel

theorem execute_outcome_teamDisk :
    (∃ text, teamGeneration.render = .ok text ∧
      let run := execute "ruby-classes" ["team.json", "-m", "Team", "-o", "out"] teamDisk
      run.ending.status? = some 0 ∧
        teamDisk.WritesOnly ⟨"", ["out", "team", "types.rb"]⟩ text.toUTF8 run.disk ∧
        run.disk.read ⟨"", ["out", "team", "types.rb"]⟩ = .ok text.toUTF8) ∧
      let run := execute "ruby-classes" ["team.json", "-m", "Team", "-o", "team.json"] teamDisk
      run.ending.status? ≠ some 0 ∧ teamDisk.KeepsFiles run.disk := by
  obtain ⟨text, hrender⟩ := exists_render_teamModel
  have hasks := asks_teamDisk hrender
  refine ⟨⟨text, hrender, ?_⟩, ?_⟩
  · have hrequest : (Request.ofArguments ["team.json", "-m", "Team", "-o", "out"]).toOption =
        some (.generate (teamInvocation "out")) := by decide +kernel
    have houtcome : (teamInvocation "out").Outcome teamDisk (execute "ruby-classes" _ teamDisk) :=
      execute_outcome (toOption_eq_some_iff.mp hrequest) (reads_teamDisk_acyclic "out")
    have hpath : teamGeneration.path "out" = ⟨"", ["out", "team", "types.rb"]⟩ := by decide +kernel
    have hfolders : (teamDisk.makeFolders (teamGeneration.path "out").parent).2 = none := by
      decide +kernel
    have hplace : ((teamDisk.makeFolders (teamGeneration.path "out").parent).1.locate
        (teamGeneration.path "out")).toOption = some ["home", "out", "team", "types.rb"] := by
      decide +kernel
    have hfree : (teamDisk.makeFolders (teamGeneration.path "out").parent).1.isFolder
        (teamGeneration.path "out") = false := by decide +kernel
    have haccepts : ¬ ∃ fault, teamDisk.Refuses (teamGeneration.path "out") text.toUTF8 fault :=
      fun ⟨fault, hrefuses⟩ => Disk.not_refuses hfolders hplace hfree _ fault hrefuses
    have hstatus := houtcome.succeeds_iff.mpr ⟨_, _, _, hasks "out", haccepts⟩
    obtain ⟨g, directory, source, hother, hwrites⟩ := houtcome.written hstatus
    obtain ⟨rfl, rfl, rfl⟩ := (hasks "out").unique hother
    rw [hpath] at hwrites
    exact ⟨hstatus, hwrites, hwrites.read_eq⟩
  · have houtcome :
        (teamInvocation "team.json").Outcome teamDisk (execute "ruby-classes" _ teamDisk) :=
      execute_outcome ofArguments_teamFile (reads_teamDisk_acyclic "team.json")
    have hstatus : (execute "ruby-classes" ["team.json", "-m", "Team", "-o", "team.json"]
        teamDisk).ending.status? ≠ some 0 := by
      rw [ne_eq, houtcome.succeeds_iff]
      rintro ⟨g, directory, source, hother, haccepts⟩
      obtain ⟨rfl, rfl, rfl⟩ := (hasks "team.json").unique hother
      exact haccepts ⟨_, refuses_teamFile _⟩
    exact ⟨hstatus, houtcome.kept hstatus⟩

end CommandLine

end RubyClasses
