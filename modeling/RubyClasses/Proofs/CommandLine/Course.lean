import RubyClasses.CommandLine.Execution
import RubyClasses.Proofs.Storage.Persistence

/-! # The course of a run

A run that is asked to generate reads the model file, brings the source together and writes it. What
it prepares is determined by the model file and the arguments; from there it ends in one of five
ways.
-/

namespace RubyClasses.CommandLine

namespace Invocation

/-- A model is what the model file describes. -/
def Reads (i : Invocation) (disk : Disk) (m : Model) : Prop :=
  ∃ content text, disk.read (Path.ofText i.modelFile) = .ok content ∧
    Utf8.decode content = .ok text ∧ Model.ofText text = .ok m

/-- A source is what an invocation asks for below a directory: that of the model in the model file,
under the names and with the required files that the invocation gives. -/
structure Asks (i : Invocation) (disk : Disk) (g : Generation) (directory source : String) :
    Prop where
  reads : i.Reads disk g.model
  naming : ∃ moduleName, i.moduleName = some moduleName ∧
    g.naming = Naming.configure moduleName i.modulePath i.baseClass
  requires : i.requires = g.requires.map some
  directory : i.outputDirectory = some directory
  render : g.render = .ok source

section Preparation

variable {i : Invocation} {disk : Disk} {g : Generation} {directory source : String}

theorem requiredFiles_eq_ok_iff {names : List String} :
    i.requiredFiles = .ok names ↔ i.requires = names.map some := by
  rw [requiredFiles, mapM_eq_ok_iff, ← List.forall₂_eq_eq_eq, List.forall₂_map_right_iff]
  refine ⟨List.Forall₂.imp ?_, List.Forall₂.imp ?_⟩
  · rintro (_ | name) other h
    · cases h
    · cases h
      rfl
  · rintro _ name rfl
    rfl

/-- A generation is prepared from a content exactly if the content is the text of a model. -/
theorem generation_eq_ok_iff {naming : Naming} {content : ByteArray} :
    i.generation naming content = .ok g ↔ ∃ text, Utf8.decode content = .ok text ∧
      Model.ofText text = .ok g.model ∧ g.naming = naming ∧ i.requires = g.requires.map some := by
  simp only [generation, bind_eq_ok_iff, mapError_eq_ok_iff, requiredFiles_eq_ok_iff]
  constructor
  · rintro ⟨text, htext, m, hmodel, names, hnames, h⟩
    cases h
    exact ⟨text, htext, hmodel, rfl, hnames⟩
  · rintro ⟨text, htext, hmodel, rfl, hnames⟩
    exact ⟨text, htext, g.model, hmodel, g.requires, hnames, rfl⟩

/-- A directory is found if both values are given and the source can be generated. -/
theorem directoryFor_eq_ok_iff :
    i.directoryFor g = .ok directory ↔ i.moduleName.isSome = true ∧
      (∃ source, g.render = .ok source) ∧ i.outputDirectory = some directory := by
  unfold directoryFor Generation.render
  cases i.moduleName <;> cases g.buffer <;> cases i.outputDirectory <;>
    simp [Except.mapError, Except.map, bind, Except.bind, throw, throwThe, MonadExceptOf.throw,
      pure, Except.pure]

theorem naming_eq_ok_iff {moduleName : String} (h : i.moduleName = some moduleName)
    {naming : Naming} :
    i.naming = .ok naming ↔ Naming.configure moduleName i.modulePath i.baseClass = naming := by
  simp [Invocation.naming, h]

/-- With a module name, a run prepares the generation of the model that it reads. -/
theorem prepare_eq_ok_iff {moduleName : String} (h : i.moduleName = some moduleName) :
    i.prepare disk = .ok g ↔ i.Reads disk g.model ∧
      g.naming = Naming.configure moduleName i.modulePath i.baseClass ∧
      i.requires = g.requires.map some := by
  simp only [prepare, bind_eq_ok_iff, naming_eq_ok_iff h, exists_eq_left', mapError_eq_ok_iff,
    generation_eq_ok_iff, Reads]
  constructor
  · rintro ⟨content, hread, text, htext, hmodel, hrest⟩
    exact ⟨⟨content, text, hread, htext, hmodel⟩, hrest⟩
  · rintro ⟨⟨content, text, hread, htext, hmodel⟩, hrest⟩
    exact ⟨content, hread, text, htext, hmodel, hrest⟩

/-- What is asked for is what a run prepares, places and renders. -/
theorem asks_iff :
    i.Asks disk g directory source ↔ i.prepare disk = .ok g ∧ i.directoryFor g = .ok directory ∧
      g.render = .ok source := by
  constructor
  · rintro ⟨hreads, ⟨moduleName, hmodule, hnaming⟩, hrequires, hdirectory, hrender⟩
    exact ⟨(prepare_eq_ok_iff hmodule).mpr ⟨hreads, hnaming, hrequires⟩,
      directoryFor_eq_ok_iff.mpr ⟨by simp [hmodule], ⟨source, hrender⟩, hdirectory⟩, hrender⟩
  · rintro ⟨hprepare, hplace, hrender⟩
    obtain ⟨hmodule, -, hdirectory⟩ := directoryFor_eq_ok_iff.mp hplace
    obtain ⟨moduleName, hmodule⟩ := Option.isSome_iff_exists.mp hmodule
    obtain ⟨hreads, hnaming, hrequires⟩ := (prepare_eq_ok_iff hmodule).mp hprepare
    exact ⟨hreads, ⟨moduleName, hmodule, hnaming⟩, hrequires, hdirectory, hrender⟩

/-- An invocation asks for at most one source, and in one directory. -/
theorem Asks.unique {g' : Generation} {directory' source' : String}
    (h : i.Asks disk g directory source) (h' : i.Asks disk g' directory' source') :
    g' = g ∧ directory' = directory ∧ source' = source := by
  obtain ⟨hprepare, hplace, hrender⟩ := asks_iff.mp h
  obtain ⟨hprepare', hplace', hrender'⟩ := asks_iff.mp h'
  rw [hprepare] at hprepare'
  cases hprepare'
  rw [hplace] at hplace'
  rw [hrender] at hrender'
  exact ⟨rfl, (Except.ok.inj hplace').symm, (Except.ok.inj hrender').symm⟩

/-- Why an invocation prepares nothing. -/
inductive Unprepared (i : Invocation) (disk : Disk) : RunFault → Prop
  | modulePath (hmodule : i.moduleName = none) : Unprepared i disk (.missingValue .modulePath)
  | unreadable {fault} (hread : disk.read (Path.ofText i.modelFile) = .error fault) :
      Unprepared i disk (.unreadable i.modelFile fault)
  | undecodable {content fault} (hread : disk.read (Path.ofText i.modelFile) = .ok content)
      (hdecode : Utf8.decode content = .error fault) : Unprepared i disk (.undecodable fault)
  | description {content text fault} (hread : disk.read (Path.ofText i.modelFile) = .ok content)
      (hdecode : Utf8.decode content = .ok text) (hmodel : Model.ofText text = .error fault) :
      Unprepared i disk (.description fault)
  | require (hrequire : none ∈ i.requires) : Unprepared i disk (.missingValue .require)

/-- If nothing is prepared, there is a reason among these. -/
theorem unprepared_of_prepare_eq_error {fault : RunFault} (h : i.prepare disk = .error fault) :
    i.Unprepared disk fault := by
  simp only [prepare, generation, bind_eq_error_iff, mapError_eq_error_iff,
    mapError_eq_ok_iff] at h
  rcases h with hnaming | ⟨_, -, ⟨cause, hread, rfl⟩ | ⟨content, hread, h⟩⟩
  · unfold Invocation.naming at hnaming
    split at hnaming
    next => cases hnaming
    next hmodule =>
      split at hnaming
      · cases hnaming
        exact .modulePath hmodule
      · cases hnaming
  · exact .unreadable hread
  · rcases h with ⟨_, hdecode, rfl⟩ | ⟨text, hdecode, ⟨problem, hmodel, rfl⟩ | ⟨_, -, h⟩⟩
    · exact .undecodable hread hdecode
    · exact .description hread hdecode hmodel
    · rcases h with hrequires | ⟨_, -, h⟩
      · obtain ⟨before, item, after, hparts, -, hitem⟩ := mapM_eq_error_iff.mp hrequires
        cases item with
        | some name => cases hitem
        | none =>
            cases hitem
            exact .require (by simp [hparts])
      · cases h

/-- Why there is no directory to generate into. -/
inductive Unplaced (i : Invocation) (g : Generation) : RunFault → Prop
  | module (hmodule : i.moduleName = none) : Unplaced i g (.missingValue .module)
  | member {fault} (hbuffer : g.buffer = .error fault) : Unplaced i g (.generation (.member fault))
  | directory (hdirectory : i.outputDirectory = none) :
      Unplaced i g (.missingValue .outputDirectory)

/-- If there is no directory, there is a reason among these. -/
theorem unplaced_of_directoryFor_eq_error {fault : RunFault}
    (h : i.directoryFor g = .error fault) : i.Unplaced g fault := by
  unfold directoryFor at h
  cases hmodule : i.moduleName with
  | none =>
      rw [hmodule] at h
      cases h
      exact .module hmodule
  | some name =>
      cases hbuffer : g.buffer with
      | error problem =>
          rw [hmodule, hbuffer] at h
          cases h
          exact .member hbuffer
      | ok b =>
          cases hdirectory : i.outputDirectory with
          | none =>
              rw [hmodule, hbuffer, hdirectory] at h
              cases h
              exact .directory hdirectory
          | some directory =>
              rw [hmodule, hbuffer, hdirectory] at h
              cases h

/-- A run never reports that it has no directory to generate into. -/
theorem Unplaced.report?_eq_none {fault : RunFault} (h : i.Unplaced g fault) :
    fault.report? = none := by
  cases h <;> rfl

end Preparation

/-- The ways in which the run of an invocation ends. -/
inductive Course (i : Invocation) (before : Disk) : Execution → Prop
  | unreadable {cause path}
      (hread : before.read (Path.ofText i.modelFile) = .error (.refused cause path)) :
      Course i before ⟨before,
        [⟨.error, .commandLine, "Can't read model file " ++ i.modelFile ++ ": " ++
          (DiskFault.refused cause path).message⟩],
        .failed (.unreadable i.modelFile (.refused cause path))⟩
  | undescribed {content text problem}
      (hread : before.read (Path.ofText i.modelFile) = .ok content)
      (hdecode : Utf8.decode content = .ok text)
      (hmodel : Model.ofText text = .error (.description problem)) :
      Course i before ⟨before, [⟨.error, .commandLine, problem.message⟩],
        .failed (.description (.description problem))⟩
  | unwritable {g directory source cause path after journal}
      (hasks : i.Asks before g directory source)
      (hrefuses : before.Refuses (g.path directory) source.toUTF8 (.refused cause path))
      (hfiles : before.KeepsFiles after) (hquiet : ∀ message ∈ journal, message.level ≠ .error) :
      Course i before ⟨after,
        journal ++ [⟨.error, .commandLine,
          "Error writing types file \"" ++ g.fileName ++ "\""⟩],
        .failed (.generation (.storage g.fileName (.refused cause path)))⟩
  | brokeOff {after journal fault}
      (hfails : ∀ g directory source, i.Asks before g directory source →
        ∃ fault, before.Refuses (g.path directory) source.toUTF8 fault)
      (hfiles : before.KeepsFiles after) (hquiet : ∀ message ∈ journal, message.level ≠ .error) :
      Course i before ⟨after, journal, .brokeOff fault⟩
  | generated {g directory source after journal}
      (hasks : i.Asks before g directory source)
      (haccepts : ¬ ∃ fault, before.Refuses (g.path directory) source.toUTF8 fault)
      (hwrites : before.WritesOnly (g.path directory) source.toUTF8 after)
      (hquiet : ∀ message ∈ journal, message.level ≠ .error) :
      Course i before ⟨after, journal, .generated (g.path directory)⟩

section Runs

variable {i : Invocation} {disk : Disk} {g : Generation} {directory source : String}

theorem ofFault_of_silent {fault : RunFault} (h : fault.report? = none) :
    Ending.ofFault fault = ([], .brokeOff fault) := by
  unfold Ending.ofFault
  rw [h]

/-- What is shown of a journal has no error that is not in it. -/
theorem shown_quiet {journal : Journal} (h : ∀ message ∈ journal, message.level ≠ .error) :
    ∀ message ∈ i.shown journal, message.level ≠ .error :=
  fun message hmessage => h message (List.mem_of_mem_filter hmessage)

/-- A run that prepares nothing ends before anything is written. -/
theorem execute_course_of_error {fault : RunFault} (h : i.prepare disk = .error fault) :
    i.Course disk (i.execute disk) := by
  have hnone : ∀ g directory source, ¬ i.Asks disk g directory source := by
    intro g directory source hasks
    rw [(asks_iff.mp hasks).1] at h
    cases h
  have hsilent : fault.report? = none →
      i.Course disk ⟨disk, (Ending.ofFault fault).1, (Ending.ofFault fault).2⟩ := by
    intro hsilent
    rw [ofFault_of_silent hsilent]
    exact .brokeOff (fun g directory source hasks => (hnone g directory source hasks).elim)
      (fun _ => rfl) (by simp)
  unfold execute
  simp only [h]
  cases unprepared_of_prepare_eq_error h with
  | modulePath => exact hsilent rfl
  | @unreadable fault hread =>
      cases fault with
      | refused cause path => exact .unreadable hread
      | nulInPath => exact hsilent rfl
  | undecodable => exact hsilent rfl
  | @description _ _ fault hread hdecode hmodel =>
      cases fault with
      | description problem => exact .undescribed hread hdecode hmodel
      | longInteger _ => exact hsilent rfl
  | require => exact hsilent rfl

/-- A run that has no place for a source ends before anything is written, too. -/
theorem execute_course_of_place_error {fault : RunFault} (h : i.prepare disk = .ok g)
    (hplace : i.directoryFor g = .error fault) : i.Course disk (i.execute disk) := by
  unfold execute generate
  simp only [h, hplace, List.append_nil,
    ofFault_of_silent (unplaced_of_directoryFor_eq_error hplace).report?_eq_none]
  refine .brokeOff ?_ (fun _ => rfl) (shown_quiet (by simp [Generation.announcement]))
  intro other directory source hasks
  obtain ⟨hprepare, hother, -⟩ := asks_iff.mp hasks
  rw [h] at hprepare
  cases hprepare
  rw [hplace] at hother
  cases hother

/-- A run that prepares a source ends as persisting the source does. -/
theorem execute_course_of_asks (hasks : i.Asks disk g directory source) :
    i.Course disk (i.execute disk) := by
  obtain ⟨hprepare, hplace, hrender⟩ := asks_iff.mp hasks
  obtain ⟨b, hbuffer, rfl⟩ := Generation.render_eq_ok_iff.mp hrender
  unfold execute generate
  simp only [hprepare, hplace, Generation.generate_of_buffer hbuffer]
  have hpersists := b.persist_persists directory disk
  generalize b.persist directory disk = result at hpersists ⊢
  obtain ⟨after, journal, outcome⟩ := result
  dsimp only at hpersists ⊢
  have hannounced : (∀ message ∈ journal, message.level ≠ .error) →
      ∀ message ∈ i.shown (g.announcement :: journal), message.level ≠ .error := by
    intro hquiet
    apply shown_quiet
    intro message hmessage
    rcases List.mem_cons.mp hmessage with rfl | hmessage
    · simp [Generation.announcement]
    · exact hquiet message hmessage
  cases hpersists with
  | refused hrefuses hfiles hquiet =>
      rw [Generation.filePath_buffer hbuffer] at hrefuses
      rename_i fault
      cases fault with
      | refused cause path => exact .unwritable hasks hrefuses hfiles (hannounced hquiet)
      | nulInPath =>
          have hsilent :
              (RunFault.generation (.storage g.fileName .nulInPath)).report? = none := rfl
          simp only [Except.mapError, ofFault_of_silent hsilent, List.append_nil]
          refine .brokeOff ?_ hfiles (hannounced hquiet)
          intro other place text hother
          obtain ⟨rfl, rfl, rfl⟩ := hasks.unique hother
          exact ⟨_, hrefuses⟩
  | written haccepts hwrites hquiet =>
      rw [Generation.filePath_buffer hbuffer] at haccepts hwrites ⊢
      exact .generated hasks haccepts hwrites (hannounced hquiet)

/-- Every run takes one of these courses. -/
theorem execute_course (i : Invocation) (disk : Disk) : i.Course disk (i.execute disk) := by
  cases hprepare : i.prepare disk with
  | error fault => exact execute_course_of_error hprepare
  | ok g =>
      cases hplace : i.directoryFor g with
      | error fault => exact execute_course_of_place_error hprepare hplace
      | ok directory =>
          obtain ⟨-, ⟨source, hrender⟩, -⟩ := directoryFor_eq_ok_iff.mp hplace
          exact execute_course_of_asks (asks_iff.mpr ⟨hprepare, hplace, hrender⟩)

end Runs

end Invocation

end RubyClasses.CommandLine
