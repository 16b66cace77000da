import RubyClasses.Proofs.Outline.Lines

/-! # Scopes of an outline

Every block of an outline is a scope among its lines, and so is every module that a module name
opens. A scope stands between two lines, its header and its closer. Of two scopes, one lies inside
the other or behind it, and a line is indented by the number of scopes around it.
-/

namespace RubyClasses

/-- A scope among lines, which are counted from zero. -/
structure Scope where
  header : Nat
  closer : Nat
  opening : String
  closing : String
  deriving DecidableEq, Repr

namespace Scope

/-- A scope behind further lines. -/
def shift (count : Nat) (s : Scope) : Scope :=
  { s with header := s.header + count, closer := s.closer + count }

/-- A line stands between the header of a scope and its closer. -/
def surrounds (place : Nat) (s : Scope) : Bool := s.header < place && place < s.closer

/-- How many scopes are open around a line. -/
def depth (scopes : List Scope) (place : Nat) : Nat := scopes.countP (surrounds place)

/-- Texts as lines that are indented by the number of scopes around them. -/
def layOut (level : Nat) (texts : List String) (scopes : List Scope) : List String :=
  texts.mapIdx fun place text => Buffer.indented (level + depth scopes place) text

/-- The second scope lies behind the first one or inside it. -/
def Precedes (s t : Scope) : Prop :=
  s.closer < t.header ∨ s.header < t.header ∧ t.closer < s.closer

/-- Scopes are delimited by lines of their own: the texts have a header for each of them and then a
closer, around both of which the same scopes are open. -/
structure Delimited (texts : List String) (scopes : List Scope) : Prop where
  header_lt : ∀ s ∈ scopes, s.header < s.closer
  header_text : ∀ s ∈ scopes, texts[s.header]? = some s.opening
  closer_text : ∀ s ∈ scopes, texts[s.closer]? = some s.closing
  depth_eq : ∀ s ∈ scopes, depth scopes s.closer = depth scopes s.header
  nested : scopes.Pairwise Precedes

/-- A scope around `size` lines, with the scopes among these lines. -/
def enclose (opening closing : String) (size : Nat) (inner : List Scope) : List Scope :=
  ⟨0, size + 1, opening, closing⟩ :: inner.map (shift 1)

variable {texts : List String} {scopes : List Scope} {place count : Nat}

theorem surrounds_iff {s : Scope} :
    surrounds place s = true ↔ s.header < place ∧ place < s.closer := by
  simp [surrounds]

theorem depth_append (first second : List Scope) :
    depth (first ++ second) place = depth first place + depth second place :=
  List.countP_append

/-- A line behind further lines has as many scopes around it as it had without them. -/
theorem depth_map_shift :
    depth (scopes.map (shift count)) (place + count) = depth scopes place := by
  unfold depth
  rw [List.countP_map]
  congr 1
  funext s
  simp [surrounds, shift]

/-- No scope behind a line is open around it. -/
theorem depth_map_shift_of_le (h : place ≤ count) :
    depth (scopes.map (shift count)) place = 0 := by
  unfold depth
  rw [List.countP_eq_zero]
  intro s hmem
  obtain ⟨t, -, rfl⟩ := List.mem_map.mp hmem
  rw [surrounds_iff]
  simp only [shift]
  omega

/-- No scope before a line is open around it. -/
theorem depth_of_closer_le (h : ∀ s ∈ scopes, s.closer ≤ place) : depth scopes place = 0 := by
  unfold depth
  rw [List.countP_eq_zero]
  intro s hmem
  have hle := h s hmem
  rw [surrounds_iff]
  omega

/-- Inside one more scope a line lies one scope deeper. -/
theorem depth_enclose (opening closing : String) {size : Nat} (h : place < size) :
    depth (enclose opening closing size scopes) (place + 1) = depth scopes place + 1 := by
  unfold enclose
  rw [depth, List.countP_cons, ← depth, depth_map_shift, if_pos]
  exact surrounds_iff.mpr ⟨Nat.succ_pos _, Nat.succ_lt_succ h⟩

theorem depth_enclose_header (opening closing : String) {size : Nat} :
    depth (enclose opening closing size scopes) 0 = 0 := by
  unfold enclose
  rw [depth, List.countP_cons, ← depth, depth_map_shift_of_le (Nat.zero_le 1), if_neg]
  simp [surrounds]

namespace Delimited

theorem closer_lt (h : Delimited texts scopes) {s : Scope} (hs : s ∈ scopes) :
    s.closer < texts.length :=
  (List.getElem?_eq_some_iff.mp (h.closer_text s hs)).1

/-- The line that closes a scope lies outside it, and outside all scopes within it. -/
theorem depth_enclose_closer (h : Delimited texts scopes) (opening closing : String) :
    depth (enclose opening closing texts.length scopes) (texts.length + 1) = 0 := by
  apply depth_of_closer_le
  intro s hmem
  rcases List.mem_cons.mp hmem with rfl | hmem
  · exact le_rfl
  · obtain ⟨t, ht, rfl⟩ := List.mem_map.mp hmem
    exact Nat.succ_le_succ (h.closer_lt ht).le

theorem nil (texts : List String) : Delimited texts [] where
  header_lt := by simp
  header_text := by simp
  closer_text := by simp
  depth_eq := by simp
  nested := .nil

theorem append {more : List String} {others : List Scope} (h : Delimited texts scopes)
    (hmore : Delimited more others) :
    Delimited (texts ++ more) (scopes ++ others.map (shift texts.length)) := by
  refine ⟨?_, ?_, ?_, ?_, ?_⟩
  · intro s hmem
    rcases List.mem_append.mp hmem with hmem | hmem
    · exact h.header_lt s hmem
    · obtain ⟨t, ht, rfl⟩ := List.mem_map.mp hmem
      exact Nat.add_lt_add_right (hmore.header_lt t ht) _
  · intro s hmem
    rcases List.mem_append.mp hmem with hmem | hmem
    · rw [List.getElem?_append_left ((h.header_lt s hmem).trans (h.closer_lt hmem))]
      exact h.header_text s hmem
    · obtain ⟨t, ht, rfl⟩ := List.mem_map.mp hmem
      simp only [shift]
      rw [List.getElem?_append_right (Nat.le_add_left _ _), Nat.add_sub_cancel]
      exact hmore.header_text t ht
  · intro s hmem
    rcases List.mem_append.mp hmem with hmem | hmem
    · rw [List.getElem?_append_left (h.closer_lt hmem)]
      exact h.closer_text s hmem
    · obtain ⟨t, ht, rfl⟩ := List.mem_map.mp hmem
      simp only [shift]
      rw [List.getElem?_append_right (Nat.le_add_left _ _), Nat.add_sub_cancel]
      exact hmore.closer_text t ht
  · intro s hmem
    rw [depth_append, depth_append]
    rcases List.mem_append.mp hmem with hmem | hmem
    · have hcloser := h.closer_lt hmem
      have hheader := h.header_lt s hmem
      rw [depth_map_shift_of_le hcloser.le, depth_map_shift_of_le (by omega), h.depth_eq s hmem]
    · obtain ⟨t, ht, rfl⟩ := List.mem_map.mp hmem
      -- the scopes of the first texts are closed within them
      have hbefore : ∀ place, depth scopes (place + texts.length) = 0 := fun place =>
        depth_of_closer_le fun s hs => (h.closer_lt hs).le.trans (Nat.le_add_left _ _)
      simp only [shift, hbefore, depth_map_shift]
      rw [hmore.depth_eq t ht]
  · rw [List.pairwise_append]
    refine ⟨h.nested, ?_, ?_⟩
    · apply List.pairwise_map.mpr
      apply hmore.nested.imp
      intro s t hst
      simp only [Precedes, shift] at hst ⊢
      omega
    · intro s hs other hother
      obtain ⟨t, -, rfl⟩ := List.mem_map.mp hother
      have hcloser := h.closer_lt hs
      simp only [Precedes, shift]
      omega

/-- A header before the texts and a closer behind them make one more scope around the others. -/
theorem enclose (h : Delimited texts scopes) (opening closing : String) :
    Delimited (opening :: (texts ++ [closing]))
      (Scope.enclose opening closing texts.length scopes) := by
  refine ⟨?_, ?_, ?_, ?_, ?_⟩
  · intro s hmem
    rcases List.mem_cons.mp hmem with rfl | hmem
    · exact Nat.succ_pos _
    · obtain ⟨t, ht, rfl⟩ := List.mem_map.mp hmem
      exact Nat.succ_lt_succ (h.header_lt t ht)
  · intro s hmem
    rcases List.mem_cons.mp hmem with rfl | hmem
    · rfl
    · obtain ⟨t, ht, rfl⟩ := List.mem_map.mp hmem
      have hlt := (h.header_lt t ht).trans (h.closer_lt ht)
      simpa [shift, List.getElem?_append_left hlt] using h.header_text t ht
  · intro s hmem
    rcases List.mem_cons.mp hmem with rfl | hmem
    · simp
    · obtain ⟨t, ht, rfl⟩ := List.mem_map.mp hmem
      simpa [shift, List.getElem?_append_left (h.closer_lt ht)] using h.closer_text t ht
  · intro s hmem
    rcases List.mem_cons.mp hmem with rfl | hmem
    · rw [depth_enclose_header, h.depth_enclose_closer]
    · obtain ⟨t, ht, rfl⟩ := List.mem_map.mp hmem
      have hcloser := h.closer_lt ht
      have hheader := h.header_lt t ht
      simp only [shift]
      rw [depth_enclose _ _ hcloser, depth_enclose _ _ (hheader.trans hcloser), h.depth_eq t ht]
  · apply List.pairwise_cons.mpr
    refine ⟨?_, ?_⟩
    · intro s hs
      obtain ⟨t, ht, rfl⟩ := List.mem_map.mp hs
      have hcloser := h.closer_lt ht
      simp only [Precedes, shift]
      omega
    · apply List.pairwise_map.mpr
      apply h.nested.imp
      intro s t hst
      simp only [Precedes, shift] at hst ⊢
      omega

/-- Texts one after another are indented as each part is by itself. -/
theorem layOut_append (h : Delimited texts scopes) (level : Nat) (more : List String)
    (others : List Scope) :
    layOut level (texts ++ more) (scopes ++ others.map (shift texts.length)) =
      layOut level texts scopes ++ layOut level more others := by
  unfold layOut
  rw [List.mapIdx_append]
  congr 1
  · apply List.mapIdx_eq_mapIdx_iff.mpr
    intro place hplace
    rw [depth_append, depth_map_shift_of_le hplace.le, Nat.add_zero]
  · apply List.mapIdx_eq_mapIdx_iff.mpr
    intro place _
    have hbefore : depth scopes (place + texts.length) = 0 :=
      depth_of_closer_le fun s hs => (h.closer_lt hs).le.trans (Nat.le_add_left _ _)
    rw [depth_append, depth_map_shift, hbefore, Nat.zero_add]

/-- Texts inside one more scope are indented by one level more, and its delimiters are not. -/
theorem layOut_enclose (h : Delimited texts scopes) (level : Nat) (opening closing : String) :
    layOut level (opening :: (texts ++ [closing]))
        (Scope.enclose opening closing texts.length scopes) =
      Buffer.indented level opening ::
        (layOut (level + 1) texts scopes ++ [Buffer.indented level closing]) := by
  unfold layOut
  rw [List.mapIdx_cons, List.mapIdx_append, depth_enclose_header]
  congr 2
  · apply List.mapIdx_eq_mapIdx_iff.mpr
    intro place hplace
    rw [depth_enclose _ _ hplace, Nat.add_assoc, Nat.add_comm 1]
  · simp [h.depth_enclose_closer]

end Delimited

end Scope

namespace Outline

open Scope

/-- The scopes of modules that are opened inside each other around `size` lines. -/
def encloseModules : List String → Nat → List Scope → List Scope
  | [], _, inner => inner
  | part :: parts, size, inner =>
      enclose ("module " ++ part) "end" (size + 2 * parts.length)
        (encloseModules parts size inner)

/-- The scopes of an outline, in the order of their headers. -/
def scopes : Outline → List Scope
  | done => []
  | line _ next => next.scopes.map (shift 1)
  | block header closer body next =>
      enclose header closer body.texts.length body.scopes ++
        next.scopes.map (shift (body.texts.length + 2))
  | module name body next =>
      let parts := Text.moduleParts name
      encloseModules parts body.texts.length body.scopes ++
        next.scopes.map (shift (body.texts.length + 2 * parts.length))

/-- Texts within modules that are opened inside each other. -/
def withinModules (parts texts : List String) : List String :=
  parts.map ("module " ++ ·) ++ texts ++ List.replicate parts.length "end"

theorem length_withinModules (parts texts : List String) :
    (withinModules parts texts).length = texts.length + 2 * parts.length := by
  simp [withinModules]
  omega

theorem withinModules_cons (part : String) (parts texts : List String) :
    withinModules (part :: parts) texts =
      ("module " ++ part) :: (withinModules parts texts ++ ["end"]) := by
  simp [withinModules, List.replicate_succ']

/-- The outermost module is closed last. -/
theorem closings_succ (level count : Nat) :
    closings level (count + 1) = closings (level + 1) count ++ [Buffer.indented level "end"] := by
  induction count with
  | zero => rfl
  | succ count ih =>
      rw [closings, ih, closings, List.cons_append, Nat.add_right_comm, Nat.add_assoc]

/-- Modules delimit scopes around whatever stands in them. -/
theorem delimited_withinModules (parts : List String) {texts : List String} {inner : List Scope}
    (h : Delimited texts inner) :
    Delimited (withinModules parts texts) (encloseModules parts texts.length inner) := by
  induction parts with
  | nil => simpa [withinModules, encloseModules] using h
  | cons part parts ih =>
      rw [withinModules_cons, encloseModules, ← length_withinModules]
      exact ih.enclose _ _

/-- Inside modules texts are indented by as many levels as there are modules. -/
theorem layOut_withinModules (level : Nat) (parts : List String) {texts : List String}
    {inner : List Scope} (h : Delimited texts inner) :
    layOut level (withinModules parts texts) (encloseModules parts texts.length inner) =
      openings level parts ++ layOut (level + parts.length) texts inner ++
        closings level parts.length := by
  induction parts generalizing level with
  | nil => simp [withinModules, encloseModules, openings, closings]
  | cons part parts ih =>
      have hparts := delimited_withinModules parts h
      rw [withinModules_cons, encloseModules, ← length_withinModules, hparts.layOut_enclose, ih,
        List.length_cons, closings_succ, openings, Nat.add_right_comm level 1]
      simp [Nat.add_assoc]

theorem delimited_scopes (o : Outline) : Delimited o.texts o.scopes := by
  induction o with
  | done => exact .nil _
  | line text next ih => exact (Delimited.nil [text]).append ih
  | block header closer body next ihBody ih =>
      have hparts := (ihBody.enclose header closer).append ih
      simpa [texts, scopes] using hparts
  | module name body next ihBody ih =>
      have hparts := (delimited_withinModules (Text.moduleParts name) ihBody).append ih
      rw [length_withinModules] at hparts
      exact hparts

/-- A line of an outline is indented by the number of scopes around it. -/
theorem linesAt_eq_layOut (o : Outline) (level : Nat) :
    o.linesAt level = layOut level o.texts o.scopes := by
  induction o generalizing level with
  | done => rfl
  | line text next ih =>
      have hparts := (Delimited.nil [text]).layOut_append level next.texts next.scopes
      rw [linesAt, ih]
      exact hparts.symm
  | block header closer body next ihBody ih =>
      have hparts := (body.delimited_scopes.enclose header closer).layOut_append level next.texts
        next.scopes
      rw [body.delimited_scopes.layOut_enclose, ← ihBody, ← ih] at hparts
      simpa [texts, scopes, linesAt] using hparts.symm
  | module name body next ihBody ih =>
      have hinner := body.delimited_scopes
      have hparts := (delimited_withinModules (Text.moduleParts name) hinner).layOut_append level
        next.texts next.scopes
      rw [layOut_withinModules _ _ hinner, ← ihBody, ← ih, length_withinModules] at hparts
      exact hparts.symm

end Outline

end RubyClasses
