import Mathlib.Data.List.Count
import RubyClasses.Proofs.Outline.Recognition
import RubyClasses.Proofs.Outline.Scopes

/-! # Legible outlines

An outline is legible when every header looks like the start of a block, every closer is an `end`,
and no other line looks like either. A legible outline is recognizable, and its texts are its lines
without their indentation. Its scopes can be read off the lines as well.
-/

namespace RubyClasses

namespace Outline

open Line Scope

/-- The look of every line of an outline tells what the line is. -/
inductive IsLegible : Outline → Prop
  | done : IsLegible .done
  | line {text : String} {next : Outline} : IsPlain text → IsLegible next →
      IsLegible (.line text next)
  | block {header : String} {body next : Outline} : IsHeader header → IsLegible body →
      IsLegible next → IsLegible (.block header "end" body next)
  | module {name : String} {body next : Outline} :
      (∀ part ∈ Text.moduleParts name, IsHeader ("module " ++ part)) → IsLegible body →
      IsLegible next → IsLegible (.module name body next)

namespace IsLegible

variable {first second body : Outline}

theorem append (hfirst : first.IsLegible) (hsecond : second.IsLegible) :
    (first ++ second).IsLegible := by
  change (first.append second).IsLegible
  induction hfirst with
  | done => exact hsecond
  | line hplain _ ih => exact .line hplain ih
  | block hheader hbody _ _ ih => exact .block hheader hbody ih
  | module hparts hbody _ _ ih => exact .module hparts hbody ih

theorem join {outlines : List Outline} (h : ∀ o ∈ outlines, o.IsLegible) :
    (join outlines).IsLegible := by
  induction outlines with
  | nil => exact .done
  | cons o rest ih =>
      have hrest := ih fun other hmem => h other (List.mem_cons_of_mem _ hmem)
      exact (h o List.mem_cons_self).append hrest

theorem ofLines {lines : List String} (h : ∀ text ∈ lines, IsPlain text) :
    (ofLines lines).IsLegible := by
  induction lines with
  | nil => exact .done
  | cons text rest ih =>
      exact .line (h text List.mem_cons_self) (ih fun other hmem => h other
        (List.mem_cons_of_mem _ hmem))

theorem ofBlock {header : String} (hheader : IsHeader header) (hbody : body.IsLegible) :
    (ofBlock header body).IsLegible := .block hheader hbody .done

end IsLegible

/-- In a legible outline the looks of the lines raise and lower the level where blocks begin and
end. -/
theorem IsLegible.isRecognizable {o : Outline} (h : o.IsLegible) : o.IsRecognizable := by
  induction h with
  | done => exact .done
  | line hplain _ ih => exact .line hplain.not_opens hplain.not_closes ih
  | block hheader _ _ ihBody ih =>
      exact .block (opens_of_isHead hheader.heads) hheader.not_closes (by decide) (by decide)
        ihBody ih
  | module _ _ _ ihBody ih => exact .module ihBody ih

/-- The texts of a legible outline bring no indentation of their own. -/
theorem IsLegible.flush {o : Outline} (h : o.IsLegible) : ∀ text ∈ o.texts,
    unindented text = text := by
  induction h with
  | done => simp [texts]
  | line hplain _ ih =>
      intro text hmem
      rcases List.mem_cons.mp hmem with rfl | hmem
      · exact hplain.flush
      · exact ih text hmem
  | block hheader _ _ ihBody ih =>
      intro text hmem
      rcases List.mem_cons.mp hmem with rfl | hmem
      · exact hheader.flush
      · rcases List.mem_append.mp hmem with hmem | hmem
        · exact ihBody text hmem
        · rcases List.mem_cons.mp hmem with rfl | hmem
          · decide
          · exact ih text hmem
  | module hparts _ _ ihBody ih =>
      intro text hmem
      simp only [texts, List.mem_append, List.mem_map, List.mem_replicate] at hmem
      rcases hmem with ((⟨part, hpart, rfl⟩ | hmem) | ⟨-, rfl⟩) | hmem
      · exact (hparts part hpart).flush
      · exact ihBody text hmem
      · decide
      · exact ih text hmem

/-- Without their indentation, the lines of a legible outline are its texts. -/
theorem IsLegible.map_unindented {o : Outline} (h : o.IsLegible) (level : Nat) :
    (o.linesAt level).map unindented = o.texts := by
  rw [map_unindented_linesAt]
  exact List.map_congr_left h.flush |>.trans (List.map_id _)

end Outline

namespace Scope

open Line

/-- The scopes of some texts can be read off them: the headers are the lines that open a module, a
class, a method, a condition or a loop, and the closers are the lines that say `end`. -/
structure Visible (texts : List String) (scopes : List Scope) : Prop where
  headers : scopes.map header = texts.findIdxs isHead
  closers : (scopes.map closer).Perm (texts.findIdxs (· == "end"))

namespace Visible

variable {texts more : List String} {scopes others : List Scope}

theorem nil : Visible [] [] := ⟨rfl, .refl _⟩

theorem plain {text : String} (h : IsPlain text) : Visible [text] [] := by
  refine ⟨?_, ?_⟩
  · simp [h.isHead_eq_false]
  · simp [ne_end h.not_closes]

theorem append (h : Visible texts scopes) (hmore : Visible more others) :
    Visible (texts ++ more) (scopes ++ others.map (shift texts.length)) := by
  have hheader : header ∘ shift texts.length = (· + texts.length) ∘ header := rfl
  have hcloser : closer ∘ shift texts.length = (· + texts.length) ∘ closer := rfl
  refine ⟨?_, ?_⟩
  · rw [List.map_append, List.map_map, hheader, ← List.map_map, h.headers, hmore.headers,
      List.findIdxs_append, Nat.zero_add, List.findIdxs_start (s := texts.length)]
  · rw [List.map_append, List.map_map, hcloser, ← List.map_map, List.findIdxs_append,
      Nat.zero_add, List.findIdxs_start (s := texts.length)]
    exact h.closers.append (hmore.closers.map _)

/-- One more scope around some texts can be seen, if its header looks like one. -/
theorem enclose (h : Visible texts scopes) {opening : String} (hopening : IsHeader opening) :
    Visible (opening :: (texts ++ ["end"]))
      (Scope.enclose opening "end" texts.length scopes) := by
  have hheader : header ∘ shift 1 = (· + 1) ∘ header := rfl
  have hcloser : closer ∘ shift 1 = (· + 1) ∘ closer := rfl
  refine ⟨?_, ?_⟩
  · rw [Scope.enclose, List.map_cons, List.map_map, hheader, ← List.map_map, h.headers,
      List.findIdxs_cons, if_pos hopening.heads, List.findIdxs_append,
      List.findIdxs_start (s := 0 + 1), List.findIdxs_singleton, end_isHead_eq_false]
    simp
  · have hends : (opening :: (texts ++ ["end"])).findIdxs (· == "end") =
        (texts.findIdxs (· == "end")).map (· + 1) ++ [texts.length + 1] := by
      have hne : ¬ (opening == "end") = true := by simpa using ne_end hopening.not_closes
      rw [List.findIdxs_cons, if_neg hne, List.findIdxs_append,
        List.findIdxs_start (s := 0 + 1), List.findIdxs_singleton]
      simp [Nat.add_comm]
    rw [hends, Scope.enclose, List.map_cons, List.map_map, hcloser, ← List.map_map]
    exact ((h.closers.map _).cons _).trans (List.perm_append_singleton _ _).symm

end Visible

end Scope

namespace Outline

open Line Scope

/-- Modules around some texts can be seen, if their lines look like headers. -/
theorem visible_withinModules {parts texts : List String} {inner : List Scope}
    (hparts : ∀ part ∈ parts, IsHeader ("module " ++ part)) (h : Visible texts inner) :
    Visible (withinModules parts texts) (encloseModules parts texts.length inner) := by
  induction parts with
  | nil => simpa [withinModules, encloseModules] using h
  | cons part parts ih =>
      have hinner := ih fun other hmem => hparts other (List.mem_cons_of_mem _ hmem)
      rw [withinModules_cons, encloseModules, ← length_withinModules]
      exact hinner.enclose (hparts part List.mem_cons_self)

/-- The scopes of a legible outline can be read off its texts. -/
theorem IsLegible.visible_scopes {o : Outline} (h : o.IsLegible) : Visible o.texts o.scopes := by
  induction h with
  | done => exact .nil
  | line hplain _ ih => exact (Visible.plain hplain).append ih
  | block hheader _ _ ihBody ih =>
      have hparts := (ihBody.enclose hheader).append ih
      simpa [texts, scopes] using hparts
  | module hparts _ _ ihBody ih =>
      have hall := (visible_withinModules hparts ihBody).append ih
      rw [length_withinModules] at hall
      exact hall

end Outline

end RubyClasses
