import RubyClasses.Proofs.Classes.Declarations
import RubyClasses.Proofs.Classes.Legibility

/-! # Indentation shows

The generator opens and closes blocks itself and never looks at the lines it writes. Adding these
lines one by one, without their indentation and at the level that their looks ask for, nevertheless
gives the same source, since the scopes of a source can be read off its lines.
-/

namespace RubyClasses

open Line

/-- The lines of a buffer show where its blocks are. -/
structure Buffer.ShowsBlocks (b : Buffer) : Prop where
  level_eq : b.level = 0
  again_lines : ∀ fileName,
    ((b.lines.map unindented).foldl addLine (create fileName)).lines = b.lines
  again_level : ∀ fileName,
    ((b.lines.map unindented).foldl addLine (create fileName)).level = 0
  /-- Each line is indented by the number of scopes around it, which are those that can be seen. -/
  scopes : ∃ scopes, Scope.Delimited (b.lines.map unindented) scopes ∧
    Scope.Visible (b.lines.map unindented) scopes ∧
    b.lines = Scope.layOut 0 (b.lines.map unindented) scopes

/-- Whatever is legible shows its blocks when it is written into an empty buffer. -/
theorem Outline.IsLegible.showsBlocks {o : Outline} {b : Buffer} (h : o.IsLegible)
    (hlines : b.lines = o.linesAt 0) (hlevel : b.level = 0) : b.ShowsBlocks := by
  have htexts : b.lines.map unindented = o.texts := by
    rw [hlines]
    exact h.map_unindented 0
  have hagain : ∀ fileName, (b.lines.map unindented).foldl Buffer.addLine (.create fileName) =
      (Buffer.create fileName).grown b.lines := by
    intro fileName
    rw [htexts, hlines]
    exact Buffer.foldl_addLine_texts h.isRecognizable (.create fileName)
  refine ⟨hlevel, ?_, ?_, o.scopes, ?_⟩
  · intro fileName
    rw [hagain, Buffer.lines_grown]
    rfl
  · intro fileName
    rw [hagain]
    rfl
  · rw [htexts]
    refine ⟨o.delimited_scopes, h.visible_scopes, ?_⟩
    rw [hlines]
    exact o.linesAt_eq_layOut 0

/-- Every block and every module of a source is closed in the end. -/
theorem Generation.level_buffer {g : Generation} {b : Buffer} (h : g.buffer = .ok b) :
    b.level = 0 := by
  obtain ⟨o, -, rfl⟩ := buffer_eq_ok_iff.mp h
  rw [Buffer.foldl_require, Buffer.emit_eq_grown]
  rfl

/-- The source of every sound model with proper names shows its blocks, under any configuration. -/
theorem Generation.buffer_showsBlocks {g : Generation} (hsound : g.model.IsSound)
    (hproper : g.model.HasProperNames) : ∃ b, g.buffer = .ok b ∧ b.ShowsBlocks := by
  obtain ⟨b, hbuffer⟩ := exists_buffer hsound
  obtain ⟨o, ho, hlines⟩ := exists_outline hbuffer
  have hlegible := Classes.outline_isLegible hproper ho
  exact ⟨b, hbuffer, hlegible.showsBlocks hlines (level_buffer hbuffer)⟩

/-- The model of the team was read without a cycle of bases, and its types have shapes. -/
theorem teamModel_isSound : teamModel.IsSound := by
  obtain ⟨document, -, hmodel⟩ := Model.ofText_eq_ok_iff.mp ofText_teamText
  exact .of_shapes (hmodel.isForest teamModel_acyclic) (by decide)

theorem teamModel_hasProperNames : teamModel.HasProperNames := by
  obtain ⟨document, -, hmodel⟩ := Model.ofText_eq_ok_iff.mp ofText_teamText
  exact hmodel.hasProperNames

/-- A configuration whose texts look like the ends and the starts of blocks. -/
def oddNaming : Naming := ⟨"end::if (::", "sdk/|", "Base["⟩

theorem Generation.buffer_showsBlocks_teamModel :
    teamModel.IsSound ∧ teamModel.HasProperNames ∧
      ∃ b, Generation.buffer ⟨teamModel, oddNaming, ["end"]⟩ = .ok b ∧ b.ShowsBlocks := by
  refine ⟨teamModel_isSound, teamModel_hasProperNames, ?_⟩
  exact buffer_showsBlocks (g := ⟨teamModel, oddNaming, ["end"]⟩) teamModel_isSound
    teamModel_hasProperNames

end RubyClasses
