import RubyClasses.Proofs.CommandLine.Outcome
import RubyClasses.Proofs.CommandLine.Values
import RubyClasses.Proofs.Description.LongIntegers

/-! # Which faults a run reports

A run whose arguments have no NUL character and give every switch its value reports that the model
file cannot be read, that the text in it describes no model and that the source cannot be written.
A member for which there are no accessors is not reported: the run breaks off with its fault, and
the disk stays as it is.
-/

namespace RubyClasses

open Relation

/-- A struct has a member for which there are no accessors. -/
def Model.HasUnsupported (m : Model) : Prop :=
  ∃ entry ∈ m.structs, ∃ member ∈ entry.2.attributes ++ entry.2.links, ¬ m.Supports member.type

namespace CommandLine

namespace Invocation

/-- The switches that were given have their values. -/
structure HasValues (i : Invocation) : Prop where
  moduleName : i.moduleName ≠ none
  outputDirectory : i.outputDirectory ≠ none
  requires : none ∉ i.requires

/-- A model file that can be read holds a text without integers that are too long. -/
def HoldsText (i : Invocation) (disk : Disk) : Prop :=
  ∀ content, disk.read (Path.ofText i.modelFile) = .ok content →
    ∃ text, Utf8.decode content = .ok text ∧
      ∀ digits, Model.ofText text ≠ .error (.longInteger digits)

/-- What a run reports. -/
structure Reports (i : Invocation) (before : Disk) (run : Execution) : Prop where
  /-- The structs of the model are brought into declaration order. -/
  ordered : ∀ m, i.Reads before m → ∃ count, Queue.Turns count (Queue.ofStructs m.structs)
    ⟨[], m.declarationOrder⟩
  /-- The run succeeds, fails or breaks off. -/
  status : run.ending.status? ∈ [some 0, some 1, none]
  /-- It fails exactly when there is no model to read, or when there is a source and the disk
  refuses to have it written. -/
  fails_iff : run.ending.status? = some 1 ↔ (¬ ∃ m, i.Reads before m) ∨
    ∃ g directory source fault, i.Asks before g directory source ∧
      before.Refuses (g.path directory) source.toUTF8 fault
  /-- It breaks off exactly when a member of the model is unsupported. -/
  breaksOff_iff : run.ending.status? = none ↔ ∃ m, i.Reads before m ∧ m.HasUnsupported
  /-- Then the fault is that of a member, and nothing has been written. -/
  brokeOff : run.ending.status? = none →
    run.disk = before ∧ ∃ fault, run.ending = .brokeOff (.generation (.member fault))

section Reads

variable {i : Invocation} {disk : Disk} {m : Model}

/-- At most one model is read. -/
theorem Reads.unique {other : Model} (h : i.Reads disk m) (hother : i.Reads disk other) :
    other = m := by
  obtain ⟨content, text, hread, hdecode, hmodel⟩ := hother
  rw [h.ofText_eq hread hdecode] at hmodel
  exact (Except.ok.inj hmodel).symm

/-- A model is read from a text without integers that are too long. -/
theorem Reads.holdsText (h : i.Reads disk m) : i.HoldsText disk := by
  obtain ⟨content, text, hread, hdecode, hmodel⟩ := h
  intro other hother
  rw [hread] at hother
  cases hother
  exact ⟨text, hdecode, by simp [hmodel]⟩

/-- Without a cycle, the structs of the model that is read are a forest. -/
theorem Reads.isForest (h : i.Reads disk m)
    (hacyclic : ∀ index, ¬ TransGen (Hierarchy.Extends m.structs) index index) :
    Hierarchy.IsForest m.structs := by
  obtain ⟨content, text, -, -, hmodel⟩ := h
  exact Model.isForest_of_ofText hmodel hacyclic

/-- A source has accessors for all members of its model. -/
theorem Asks.not_hasUnsupported {g : Generation} {directory source : String}
    (h : i.Asks disk g directory source) (hforest : Hierarchy.IsForest g.model.structs) :
    ¬ g.model.HasUnsupported := by
  rw [Model.HasUnsupported, ← Generation.exists_error_iff hforest, h.render]
  simp

/-- A run that is asked for a source succeeds when the disk takes it. -/
theorem Asks.succeeds_iff {g : Generation} {directory source : String}
    (h : i.Asks disk g directory source) : (i.execute disk).ending.status? = some 0 ↔
      ¬ ∃ fault, disk.Refuses (g.path directory) source.toUTF8 fault := by
  rw [(i.execute_course disk).succeeds_iff]
  constructor
  · rintro ⟨g', directory', source', hother, haccepts⟩
    obtain ⟨rfl, rfl, rfl⟩ := h.unique hother
    exact haccepts
  · exact fun haccepts => ⟨g, directory, source, h, haccepts⟩

end Reads

namespace Reports

variable {i : Invocation} {before : Disk} {run : Execution} {m : Model} {g : Generation}
  {directory source : String}

/-- A run fails for lack of a model. -/
theorem of_failed (hnone : ¬ ∃ m, i.Reads before m) (hstatus : run.ending.status? = some 1) :
    i.Reports before run where
  ordered m hreads := (hnone ⟨m, hreads⟩).elim
  status := by simp [hstatus]
  fails_iff := iff_of_true hstatus (.inl hnone)
  breaksOff_iff := by
    simp only [hstatus, reduceCtorEq, false_iff]
    exact fun ⟨m, hreads, _⟩ => hnone ⟨m, hreads⟩
  brokeOff := by simp [hstatus]

theorem ordered_of_isForest (hreads : i.Reads before m)
    (hforest : Hierarchy.IsForest m.structs) {other : Model} (hother : i.Reads before other) :
    ∃ count, Queue.Turns count (Queue.ofStructs other.structs) ⟨[], other.declarationOrder⟩ := by
  rw [hreads.unique hother]
  obtain ⟨rank, -, hturns, -⟩ := Model.exists_turns hforest
  exact ⟨_, hturns⟩

/-- A run breaks off for a member of the model. -/
theorem of_brokeOff {fault : MemberFault} (hreads : i.Reads before m)
    (hforest : Hierarchy.IsForest m.structs) (hunsupported : m.HasUnsupported)
    (hdisk : run.disk = before) (hending : run.ending = .brokeOff (.generation (.member fault))) :
    i.Reports before run where
  ordered _ := ordered_of_isForest hreads hforest
  status := by simp [hending, Ending.status?]
  fails_iff := by
    simp only [hending, Ending.status?, reduceCtorEq, false_iff]
    rintro (hnone | ⟨g, directory, source, _, hasks, -⟩)
    · exact hnone ⟨m, hreads⟩
    · obtain rfl := hreads.unique hasks.reads
      exact hasks.not_hasUnsupported hforest hunsupported
  breaksOff_iff := by
    simp only [hending, Ending.status?, true_iff]
    exact ⟨m, hreads, hunsupported⟩
  brokeOff _ := ⟨hdisk, fault, hending⟩

/-- A run has a source, which the disk takes or refuses. -/
theorem of_ended (hasks : i.Asks before g directory source)
    (hforest : Hierarchy.IsForest g.model.structs) (hstatus : run.ending.status? ∈ [some 0, some 1])
    (hsucceeds : run.ending.status? = some 0 ↔
      ¬ ∃ fault, before.Refuses (g.path directory) source.toUTF8 fault) :
    i.Reports before run where
  ordered _ := ordered_of_isForest hasks.reads hforest
  status := List.mem_append_left [none] hstatus
  fails_iff := by
    have hfails : run.ending.status? = some 1 ↔ ¬ run.ending.status? = some 0 := by
      simp only [List.mem_cons, List.not_mem_nil, or_false] at hstatus
      rcases hstatus with hstatus | hstatus <;> simp [hstatus]
    rw [hfails, hsucceeds, not_not]
    constructor
    · rintro ⟨fault, hrefuses⟩
      exact .inr ⟨g, directory, source, fault, hasks, hrefuses⟩
    · rintro (hnone | ⟨g', directory', source', fault, hother, hrefuses⟩)
      · exact (hnone ⟨_, hasks.reads⟩).elim
      · obtain ⟨rfl, rfl, rfl⟩ := hasks.unique hother
        exact ⟨fault, hrefuses⟩
  breaksOff_iff := by
    constructor
    · intro hnone
      simp [hnone] at hstatus
    · rintro ⟨m, hreads, hunsupported⟩
      obtain rfl := hasks.reads.unique hreads
      exact (hasks.not_hasUnsupported hforest hunsupported).elim
  brokeOff hnone := by simp [hnone] at hstatus

end Reports

section Faults

variable {i : Invocation} {disk : Disk} {g : Generation} {directory : String} {fault : RunFault}

/-- What keeps a run from preparing a source is reported, and it is that there is no model. -/
theorem Unprepared.report (h : i.Unprepared disk fault) (hfree : i.IsNulFree)
    (hvalues : i.HasValues) (htext : i.HoldsText disk) :
    (¬ ∃ m, i.Reads disk m) ∧ ∃ text, fault.report? = some text := by
  cases h with
  | modulePath hmodule => exact (hvalues.moduleName hmodule).elim
  | @unreadable fault hread =>
      constructor
      · rintro ⟨m, content, text, hcontent, -⟩
        rw [hread] at hcontent
        cases hcontent
      · cases fault with
        | refused cause path => exact ⟨_, rfl⟩
        | nulInPath =>
            exact (Disk.read_ne_nulInPath (Path.isNulFree_ofText hfree.modelFile) hread).elim
  | undecodable hread hdecode =>
      obtain ⟨text, hdecoded, -⟩ := htext _ hread
      rw [hdecode] at hdecoded
      cases hdecoded
  | @description content text fault hread hdecode hmodel =>
      constructor
      · rintro ⟨m, hreads⟩
        rw [hreads.ofText_eq hread hdecode] at hmodel
        cases hmodel
      · cases fault with
        | description problem => exact ⟨_, rfl⟩
        | longInteger digits =>
            obtain ⟨other, hother, hshort⟩ := htext _ hread
            rw [hdecode] at hother
            cases hother
            exact (hshort digits hmodel).elim
  | require hrequire => exact (hvalues.requires hrequire).elim

/-- A fault for which there is a report makes the run fail, and not break off. -/
theorem ofFault_of_report {text : String} (h : fault.report? = some text) :
    (Ending.ofFault fault).2 = .failed fault := by
  rw [Ending.ofFault, h]

/-- A run that prepares nothing says why. -/
theorem execute_reports_of_error (hfree : i.IsNulFree) (hvalues : i.HasValues)
    (htext : i.HoldsText disk) (h : i.prepare disk = .error fault) :
    i.Reports disk (i.execute disk) := by
  obtain ⟨hnone, text, hreport⟩ :=
    (unprepared_of_prepare_eq_error h).report hfree hvalues htext
  apply Reports.of_failed hnone
  unfold execute
  simp only [h, ofFault_of_report hreport, Ending.status?]

/-- A run without a place for the source has an unsupported member, since no value is missing. -/
theorem execute_reports_of_place_error (hvalues : i.HasValues) (h : i.prepare disk = .ok g)
    (hreads : i.Reads disk g.model) (hforest : Hierarchy.IsForest g.model.structs)
    (hplace : i.directoryFor g = .error fault) : i.Reports disk (i.execute disk) := by
  have hunplaced := unplaced_of_directoryFor_eq_error hplace
  unfold execute generate
  simp only [h, hplace, ofFault_of_silent hunplaced.report?_eq_none]
  cases hunplaced with
  | «module» hmodule => exact (hvalues.moduleName hmodule).elim
  | member hbuffer =>
      have hunsupported : g.model.HasUnsupported :=
        (Generation.exists_error_iff hforest).mp ⟨_, Generation.render_eq_error_iff.mpr hbuffer⟩
      exact .of_brokeOff hreads hforest hunsupported rfl rfl
  | directory hdirectory => exact (hvalues.outputDirectory hdirectory).elim

/-- The path of the source comes from the arguments, so it has no NUL character either. -/
theorem Asks.isNulFree_path {source : String} (h : i.Asks disk g directory source)
    (hfree : i.IsNulFree) : (g.path directory).IsNulFree := by
  obtain ⟨moduleName, hmodule, hnaming⟩ := h.naming
  apply Generation.isNulFree_path
  · rw [hnaming]
    exact Naming.nulFree_modulePath _ (hfree.moduleName _ hmodule) hfree.modulePath
  · exact hfree.outputDirectory _ h.directory

/-- A run that has a source and a place for it succeeds or says that the disk refuses it. -/
theorem execute_reports_of_asks {source : String} (hfree : i.IsNulFree)
    (hasks : i.Asks disk g directory source) (hforest : Hierarchy.IsForest g.model.structs) :
    i.Reports disk (i.execute disk) := by
  obtain ⟨hprepare, hplace, hrender⟩ := asks_iff.mp hasks
  refine Reports.of_ended hasks hforest ?_ hasks.succeeds_iff
  have heffect := Generation.generate_diskEffect hforest directory disk
  unfold execute generate
  simp only [hprepare, hplace]
  generalize g.generate directory disk = result at heffect ⊢
  obtain ⟨after, journal, outcome⟩ := result
  cases outcome with
  | ok path => simp [Except.mapError, Ending.status?]
  | error fault =>
      cases fault with
      | member fault =>
          obtain ⟨-, hrefused, -⟩ := heffect.refused fault rfl
          rw [hrender] at hrefused
          cases hrefused
      | storage fileName fault =>
          obtain ⟨-, text, -, hrefuses⟩ := (heffect.storage fileName fault).mp rfl
          obtain ⟨cause, path, rfl⟩ := hrefuses.exists_cause (hasks.isNulFree_path hfree)
          have hreport : (RunFault.generation (.storage fileName (.refused cause path))).report? =
            some (GenerationFault.storage fileName (.refused cause path)).message := rfl
          simp [Except.mapError, ofFault_of_report hreport, Ending.status?]

end Faults

end Invocation

open Invocation

/-- A run that is asked to generate, by arguments without a NUL character that give every switch its
value, succeeds or reports why it fails, unless a member of the model is unsupported; then it breaks
off before anything is written. -/
theorem execute_reports {program : String} {arguments : List String} {i : Invocation} {disk : Disk}
    (hrequest : Request.ofArguments arguments = .ok (.generate i))
    (hfree : ∀ argument ∈ arguments, NulFree argument) (hvalues : i.HasValues)
    (htext : i.HoldsText disk)
    (hacyclic : ∀ m, i.Reads disk m →
      ∀ index, ¬ TransGen (Hierarchy.Extends m.structs) index index) :
    i.Reports disk (execute program arguments disk) := by
  have hfree := isNulFree_of_ofArguments hfree hrequest
  have hrun : execute program arguments disk = i.execute disk := by rw [execute, hrequest]
  rw [hrun]
  cases hprepare : i.prepare disk with
  | error fault => exact execute_reports_of_error hfree hvalues htext hprepare
  | ok g =>
      obtain ⟨moduleName, hmodule⟩ := Option.ne_none_iff_exists'.mp hvalues.moduleName
      obtain ⟨hreads, -⟩ := (prepare_eq_ok_iff hmodule).mp hprepare
      have hforest := hreads.isForest (hacyclic _ hreads)
      cases hplace : i.directoryFor g with
      | error fault =>
          exact execute_reports_of_place_error hvalues hprepare hreads hforest hplace
      | ok directory =>
          obtain ⟨-, ⟨source, hrender⟩, -⟩ := directoryFor_eq_ok_iff.mp hplace
          exact execute_reports_of_asks hfree (asks_iff.mpr ⟨hprepare, hplace, hrender⟩) hforest

/-- A struct with a list of lists. -/
def matrixText : String :=
  "\x7b\"types\":[\x7b\"kind\":\"struct\",\"name\":\"matrix\"," ++
  "\"attributes\":[\x7b\"name\":\"rows\",\"type\":\"decimal[][]\"\x7d]\x7d]\x7d"

/-- The model that the text describes. -/
def matrixModel : Model where
  declarations := [
    .struct ⟨⟨["matrix"]⟩, none, [⟨⟨["rows"]⟩, .list (.list (.primitive .decimal))⟩], []⟩]

/-- A disk with a model file. -/
def modelDisk (content : ByteArray) : Disk := ⟨["home"], [(["home", "model.json"], .file content)]⟩

/-- To generate from that file. -/
def modelInvocation : Invocation := Invocation.standard "model.json"

theorem ofArguments_model :
    Request.ofArguments ["model.json"] = .ok (.generate modelInvocation) :=
  toOption_eq_some_iff.mp (by decide +kernel)

theorem read_modelDisk (content : ByteArray) :
    (modelDisk content).read (Path.ofText modelInvocation.modelFile) = .ok content :=
  Disk.read_eq_ok_iff.mpr ⟨["home", "model.json"], rfl, rfl⟩

theorem holdsText_modelDisk {content : ByteArray} {text : String}
    (hdecode : Utf8.decode content = .ok text)
    (hshort : ∀ digits, Model.ofText text ≠ .error (.longInteger digits)) :
    modelInvocation.HoldsText (modelDisk content) := by
  intro other hread
  rw [read_modelDisk] at hread
  cases hread
  exact ⟨text, hdecode, hshort⟩

theorem decode_matrixText : Utf8.decode matrixText.toUTF8 = .ok matrixText :=
  toOption_eq_some_iff.mp (by decide +kernel)

theorem ofText_matrixText : Model.ofText matrixText = .ok matrixModel :=
  toOption_eq_some_iff.mp (by decide +kernel)

theorem reads_matrix : modelInvocation.Reads (modelDisk matrixText.toUTF8) matrixModel :=
  ⟨_, _, read_modelDisk _, decode_matrixText, ofText_matrixText⟩

theorem reads_matrix_acyclic (m : Model)
    (h : modelInvocation.Reads (modelDisk matrixText.toUTF8) m) (index : Nat) :
    ¬ TransGen (Hierarchy.Extends m.structs) index index := by
  rw [reads_matrix.unique h]
  exact Hierarchy.acyclic_of_heights (fun _ => 0) (by decide) index

/-- A list of lists is not supported. -/
theorem matrixModel_hasUnsupported : matrixModel.HasUnsupported := by
  have hshapes : ∃ entry ∈ matrixModel.structs, ∃ member ∈ entry.2.attributes ++ entry.2.links,
      matrixModel.shape? member.type = none := by decide
  obtain ⟨entry, hentry, member, hmember, hshape⟩ := hshapes
  exact ⟨entry, hentry, member, hmember, by simp [Model.supports_iff, hshape]⟩

/-- A list of lists is not reported; a text that is no document and a file that cannot be written
are. -/
theorem execute_reports_matrix :
    (execute "ruby-classes" ["model.json"]
        (modelDisk matrixText.toUTF8)).ending.status? = none ∧
      (execute "ruby-classes" ["model.json"] (modelDisk matrixText.toUTF8)).disk =
        modelDisk matrixText.toUTF8 ∧
      (execute "ruby-classes" ["model.json"] (modelDisk "[".toUTF8)).ending.status? = some 1 ∧
      (execute "ruby-classes" ["team.json", "-m", "Team", "-o", "team.json"]
        teamDisk).ending.status? = some 1 := by
  have hfree : ∀ argument ∈ ["model.json"], NulFree argument := by decide
  have hvalues : modelInvocation.HasValues :=
    ⟨Option.some_ne_none _, Option.some_ne_none _, List.not_mem_nil⟩
  have hmatrix : modelInvocation.Reports _ (execute "ruby-classes" _ _) :=
    execute_reports ofArguments_model hfree hvalues
      (holdsText_modelDisk decode_matrixText (by simp [ofText_matrixText])) reads_matrix_acyclic
  have hbreaks := hmatrix.breaksOff_iff.mpr ⟨_, reads_matrix, matrixModel_hasUnsupported⟩
  refine ⟨hbreaks, (hmatrix.brokeOff hbreaks).1, ?_, ?_⟩
  · have hdecode : Utf8.decode "[".toUTF8 = .ok "[" := toOption_eq_some_iff.mp (by decide +kernel)
    obtain ⟨fault, hfault⟩ : ∃ fault, Model.ofText "[" = .error (.description fault) := ⟨_, rfl⟩
    have hnone : ¬ ∃ m, modelInvocation.Reads (modelDisk "[".toUTF8) m := by
      rintro ⟨m, hreads⟩
      rw [hreads.ofText_eq (read_modelDisk _) hdecode] at hfault
      cases hfault
    have hbracket : modelInvocation.Reports _ (execute "ruby-classes" _ _) :=
      execute_reports ofArguments_model hfree hvalues
        (holdsText_modelDisk hdecode (by simp [hfault])) fun m hreads => (hnone ⟨m, hreads⟩).elim
    exact hbracket.fails_iff.mpr (.inl hnone)
  · obtain ⟨source, hrender⟩ := exists_render_teamModel
    have hteam : (teamInvocation "team.json").Reports _ (execute "ruby-classes" _ _) :=
      execute_reports ofArguments_teamFile (by decide)
        ⟨Option.some_ne_none _, Option.some_ne_none _, List.not_mem_nil⟩
        ((reads_teamDisk "team.json").holdsText) (reads_teamDisk_acyclic "team.json")
    exact hteam.fails_iff.mpr
      (.inr ⟨_, _, _, _, asks_teamDisk hrender "team.json", refuses_teamFile _⟩)

/-- An integer that is too long is a fault of its own, for which there is no report. -/
theorem status?_of_longInteger {content : ByteArray} {text : String} {digits : Nat}
    (hdecode : Utf8.decode content = .ok text)
    (hlong : Model.ofText text = .error (.longInteger digits)) :
    (modelInvocation.execute (modelDisk content)).ending.status? = none := by
  have hprepare : modelInvocation.prepare (modelDisk content) =
      .error (.description (.longInteger digits)) := by
    simp only [prepare, bind_eq_error_iff, mapError_eq_ok_iff]
    refine .inr ⟨Naming.configure "Sdk" "" "Struct", rfl, .inr ⟨content, ?_, ?_⟩⟩
    · exact read_modelDisk content
    · simp [generation, hdecode, hlong, Except.mapError, bind, Except.bind]
  have hsilent : (RunFault.description (.longInteger digits)).report? = none := rfl
  unfold Invocation.execute
  simp only [hprepare, ofFault_of_silent hsilent, Ending.status?]

/-- A list of lists, a byte that starts no character, an integer that is too long and a switch
without its value are not reported. -/
theorem execute_breaksOff_silently :
    (∀ argument ∈ ["model.json", "-o--"], NulFree argument) ∧
      (∀ m, modelInvocation.Reads (modelDisk matrixText.toUTF8) m →
        ∀ index, ¬ TransGen (Hierarchy.Extends m.structs) index index) ∧
      (execute "ruby-classes" ["model.json"]
        (modelDisk matrixText.toUTF8)).ending.status? = none ∧
      (execute "ruby-classes" ["model.json"] (modelDisk ⟨#[0xff]⟩)).ending.status? = none ∧
      (execute "ruby-classes" ["model.json"]
        (modelDisk ⟨Array.replicate 4301 0x31⟩)).ending.status? = none ∧
      (execute "ruby-classes" ["model.json", "-o--"]
        (modelDisk "\x7b\"types\":[]\x7d".toUTF8)).ending.status? = none := by
  refine ⟨by decide, reads_matrix_acyclic, by decide +kernel, by decide +kernel, ?_,
    by decide +kernel⟩
  rw [execute, ofArguments_model]
  exact status?_of_longInteger (decode_ones 4301) (ofText_ones (by decide))

end CommandLine

end RubyClasses
