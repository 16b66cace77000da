import RubyClasses.Proofs.Storage.Frame
import RubyClasses.Proofs.Text.Cuts
import RubyClasses.Source.Buffer

/-! # Files below a directory

Paths that stand behind each other are joined, but a path with a root leaves what stands before it
out. The segments of a file name contain no slashes, so none of them has a root, whatever slashes
the file name starts with or repeats: the file always lies below its directory. Only double dots
among the segments can lead out of it again.
-/

namespace RubyClasses

namespace Path

/-- A path followed by the path that a text denotes. When that one has a root, it stands alone. -/
def join (p : Path) (text : String) : Path :=
  let next := ofText text
  if next.root = "" then { p with parts := p.parts ++ next.parts } else next

/-- The path that several texts denote together. -/
def ofTexts (texts : List String) : Path := texts.foldl join ⟨"", []⟩

example : ofTexts ["out", "/etc//types.rb"] = ⟨"/", ["etc", "types.rb"]⟩ := by decide +kernel

theorem isProper_eq : isProper = fun part => decide (part ≠ "" ∧ part ≠ ".") := by
  funext part
  rw [Bool.eq_iff_iff]
  simp [isProper]

/-- A path without slashes has no root and at most one part. -/
theorem ofText_of_slashFree {s : String} (h : '/' ∉ s.toList) :
    ofText s = ⟨"", [s].filter isProper⟩ := by
  have hcut : Text.CutsAt "/" s [s] := .last (mt (List.singleton_infix_iff _ _).mp h)
  have hparts : Text.pathParts s = [s] := (Text.cutsAt_pathParts s).unique hcut
  have hroot : s.toList.takeWhile (· == '/') = [] := by
    cases hchars : s.toList with
    | nil => rfl
    | cons c rest =>
        have hc : c ≠ '/' := fun heq => h (by simp [hchars, heq])
        simp [hc]
  rw [ofText, hparts, hroot]
  rfl

theorem below_append (p : Path) (first second : List String) :
    (p.below first).below second = p.below (first ++ second) := by
  simp [below]

/-- Texts without slashes only lead further down. -/
theorem foldl_join_of_slashFree {texts : List String} (h : ∀ s ∈ texts, '/' ∉ s.toList)
    (p : Path) : texts.foldl join p = p.below texts := by
  induction texts generalizing p with
  | nil => simp [below]
  | cons s rest ih =>
      have hjoin : p.join s = p.below [s] := by
        rw [join, ofText_of_slashFree (h s List.mem_cons_self)]
        rfl
      rw [List.foldl_cons, hjoin, ih fun other hmem => h other (List.mem_cons_of_mem _ hmem),
        below_append, List.singleton_append]

theorem ofTexts_cons_of_slashFree {segments : List String} (h : ∀ s ∈ segments, '/' ∉ s.toList)
    (directory : String) : ofTexts (directory :: segments) = (ofText directory).below segments := by
  have hfirst : join ⟨"", []⟩ directory = ofText directory := by
    unfold join
    dsimp only
    split
    next hroot => rw [List.nil_append, ← hroot]
    next => rfl
  rw [ofTexts, List.foldl_cons, hfirst, foldl_join_of_slashFree h]

end Path

namespace Disk

/-- Parts are followed one list after the other. -/
theorem follow_append_eq_ok_iff {d : Disk} {start place first second : List String} :
    d.follow start (first ++ second) = .ok place ↔
      ∃ middle, d.follow start first = .ok middle ∧ d.follow middle second = .ok place := by
  induction first generalizing start with
  | nil => simp [follow]
  | cons part rest ih =>
      rw [List.cons_append, follow, follow]
      split
      next => simp
      next => simp
      next =>
        split
        next => simp
        next => exact ih

/-- Without double dots, parts lead down. -/
theorem eq_append_of_follow {d : Disk} {start place parts : List String} (hdots : ".." ∉ parts)
    (h : d.follow start parts = .ok place) : place = start ++ parts := by
  induction parts generalizing start with
  | nil =>
      cases h
      exact (List.append_nil _).symm
  | cons part rest ih =>
      obtain ⟨hpart, hrest⟩ := not_or.mp (mt List.mem_cons.mpr hdots)
      unfold follow at h
      split at h
      next => cases h
      next => cases h
      next =>
        split at h
        next => cases h
        next =>
          rw [if_neg (Ne.symm hpart)] at h
          rw [ih hrest h, List.append_assoc, List.singleton_append]

theorem locate_eq_ok {d : Disk} {p : Path} {place : List String} (h : d.locate p = .ok place) :
    d.follow (if p.root = "" then d.workingDirectory else []) p.parts = .ok place := by
  unfold locate at h
  dsimp only at h
  split at h
  next => cases h
  next =>
    split at h
    next => cases h
    next => exact mapError_eq_ok_iff.mp h

/-- What lies below a path without double dots in between, lies below it on the disk. -/
theorem eq_append_of_locate_below {d : Disk} {p : Path} {parts folder place : List String}
    (hdots : ".." ∉ parts) (hfolder : d.locate p = .ok folder)
    (hplace : d.locate (p.below parts) = .ok place) :
    place = folder ++ parts.filter Path.isProper := by
  obtain ⟨middle, hmiddle, hrest⟩ := follow_append_eq_ok_iff.mp (locate_eq_ok hplace)
  have hsame : folder = middle := Except.ok.inj ((locate_eq_ok hfolder).symm.trans hmiddle)
  rw [hsame]
  exact eq_append_of_follow (mt List.mem_of_mem_filter hdots) hrest

end Disk

/-- What a text without separators ends a text with, it ends the last part with. -/
theorem Text.IsCut.exists_last {c : Char} {text back : List Char} {parts : List (List Char)}
    (h : IsCut [c] text parts) (hback : back <:+ text) (hc : c ∉ back) :
    ∃ front last, parts = front ++ [last] ∧ back <:+ last := by
  induction h with
  | @last part _ => exact ⟨[], part, rfl, hback⟩
  | @next part rest parts _ _ ih =>
      have hrest : [c] ++ rest <:+ part ++ ([c] ++ rest) := List.suffix_append part _
      have hwithin : back <:+ rest := by
        rcases Nat.lt_or_ge rest.length back.length with hlt | hle
        · have hlength : ([c] ++ rest).length ≤ back.length := by
            simpa using Nat.succ_le_of_lt hlt
          have hsuffix := List.suffix_of_suffix_length_le hrest hback hlength
          exact absurd (hsuffix.subset List.mem_cons_self) hc
        · exact List.suffix_of_suffix_length_le hback
            ((List.suffix_append [c] rest).trans hrest) hle
      obtain ⟨front, last, rfl, hlast⟩ := ih hwithin
      exact ⟨part :: front, last, rfl, hlast⟩

/-- A path is where a directory and the segments of the name of a source file lead. -/
structure Path.IsTarget (p : Path) (directory : String) (segments : List String) : Prop where
  /-- The path is joined from the directory and the segments, though a segment with a root would
  leave the directory out. -/
  eq_ofTexts : p = ofTexts (directory :: segments)
  root_eq : p.root = (ofText directory).root
  parts_eq : p.parts = (ofText directory).parts ++
    segments.filter fun segment => segment ≠ "" ∧ segment ≠ "."
  /-- The last segment is no empty one and consists of more than dots. -/
  exists_last : ∃ front last,
    p.parts = (ofText directory).parts ++ front ++ [last] ∧ ".rb".toList <:+ last.toList ∧
      last ≠ "." ∧ last ≠ ".."
  /-- Without double dots among the segments, the file lies strictly below the directory on every
  disk that has both. -/
  below : ".." ∉ segments → ∀ (d : Disk) (folder place : List String),
    d.locate (ofText directory) = .ok folder → d.locate p = .ok place →
      folder <+: place ∧ folder ≠ place

/-- The file of a source lies below the directory that it is written to, whatever its name. -/
theorem Buffer.filePath_isTarget (b : Buffer) (directory : String) :
    ∃ segments, Text.CutsAt "/" (b.fileName ++ ".rb") segments ∧
      (b.filePath directory).IsTarget directory segments := by
  have hcut := Text.cutsAt_pathParts (b.fileName ++ ".rb")
  refine ⟨_, hcut, ?_⟩
  unfold filePath
  generalize Text.pathParts (b.fileName ++ ".rb") = segments at hcut ⊢
  have hslash : ∀ s ∈ segments, '/' ∉ s.toList := by
    intro s hmem hslash
    exact Text.IsCut.not_infix hcut s.toList (List.mem_map_of_mem hmem)
      ((List.singleton_infix_iff _ _).mpr hslash)
  obtain ⟨front, last, hsegments, hlast⟩ : ∃ front last, segments = front ++ [last] ∧
      ".rb".toList <:+ last.toList := by
    have hback : ".rb".toList <:+ (b.fileName ++ ".rb").toList := by
      rw [String.toList_append]
      exact List.suffix_append _ _
    obtain ⟨front, back, hparts, hlast⟩ := Text.IsCut.exists_last hcut hback (by decide)
    obtain ⟨before, after, rfl, -, hafter⟩ := List.map_eq_append_iff.mp hparts
    obtain ⟨last, rfl, rfl⟩ := List.map_eq_singleton_iff.mp hafter
    exact ⟨before, last, rfl, hlast⟩
  have hne : ∀ s : String, ¬ ".rb".toList <:+ s.toList → last ≠ s := by
    rintro s hs rfl
    exact hs hlast
  have hempty := hne "" (by decide)
  have hdot := hne "." (by decide)
  have hdots := hne ".." (by decide)
  have hproper : segments.filter Path.isProper = front.filter Path.isProper ++ [last] := by
    simp [hsegments, Path.isProper, hempty, hdot]
  refine ⟨(Path.ofTexts_cons_of_slashFree hslash directory).symm, rfl, ?_, ?_, ?_⟩
  · rw [Path.below, Path.isProper_eq]
  · refine ⟨front.filter Path.isProper, last, ?_, hlast, hdot, hdots⟩
    rw [Path.below, hproper, List.append_assoc]
  · intro hnone d folder place hfolder hplace
    rw [Disk.eq_append_of_locate_below hnone hfolder hplace, hproper]
    exact ⟨List.prefix_append _ _, by simp⟩

end RubyClasses
