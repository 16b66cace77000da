import Mathlib.Data.List.Forall2
import Mathlib.Logic.Function.Basic
import Mathlib.Logic.Relation

/-! # Lists related item by item -/

namespace RubyClasses

variable {α β γ : Type}

/-- Lists are related through a third one when their items are related through its items. -/
theorem forall₂_comp_iff {r : α → β → Prop} {s : β → γ → Prop} {first : List α} {last : List γ} :
    List.Forall₂ (Relation.Comp r s) first last ↔
      ∃ middle, List.Forall₂ r first middle ∧ List.Forall₂ s middle last := by
  constructor
  · intro h
    induction h with
    | nil => exact ⟨[], .nil, .nil⟩
    | cons hitem _ ih =>
        obtain ⟨b, hr, hs⟩ := hitem
        obtain ⟨middle, hfirst, hlast⟩ := ih
        exact ⟨b :: middle, .cons hr hfirst, .cons hs hlast⟩
  · rintro ⟨middle, hfirst, hlast⟩
    induction hfirst generalizing last with
    | nil =>
        cases hlast
        exact .nil
    | cons hr _ ih =>
        cases hlast with
        | cons hs hrest => exact .cons ⟨_, hr, hs⟩ (ih hrest)

/-- What related items have in common, related lists have in common. -/
theorem map_eq_map_of_forall₂ {r : α → β → Prop} {first : List α} {second : List β} {f : α → γ}
    {g : β → γ} (h : List.Forall₂ r first second) (hcommon : ∀ a b, r a b → f a = g b) :
    first.map f = second.map g := by
  induction h with
  | nil => rfl
  | cons hitem _ ih => rw [List.map_cons, List.map_cons, hcommon _ _ hitem, ih]

/-- Every item of the second list is related to one of the first. -/
theorem exists_left_of_forall₂ {r : α → β → Prop} {first : List α} {second : List β}
    (h : List.Forall₂ r first second) {b : β} (hmem : b ∈ second) : ∃ a ∈ first, r a b := by
  induction h with
  | nil => cases hmem
  | cons hitem _ ih =>
      rcases List.mem_cons.mp hmem with rfl | hmem
      · exact ⟨_, List.mem_cons_self, hitem⟩
      · obtain ⟨a, ha, hab⟩ := ih hmem
        exact ⟨a, List.mem_cons_of_mem _ ha, hab⟩

/-- Items of related lists are related at every index. -/
theorem exists_getElem?_of_forall₂ {r : α → β → Prop} {first : List α} {second : List β}
    (h : List.Forall₂ r first second) {index : Nat} {a : α} (ha : first[index]? = some a) :
    ∃ b, second[index]? = some b ∧ r a b := by
  induction h generalizing index with
  | nil => cases ha
  | cons hitem _ ih =>
      cases index with
      | zero =>
          cases ha
          exact ⟨_, rfl, hitem⟩
      | succ index => exact ih ha

/-- A list is related to another when each of its items is related to something. -/
theorem exists_forall₂_iff {r : α → β → Prop} {items : List α} :
    (∃ results, List.Forall₂ r items results) ↔ ∀ item ∈ items, ∃ result, r item result := by
  constructor
  · rintro ⟨results, h⟩
    induction h with
    | nil => simp
    | cons hitem _ ih =>
        intro item hmem
        rcases List.mem_cons.mp hmem with rfl | hmem
        · exact ⟨_, hitem⟩
        · exact ih item hmem
  · intro h
    induction items with
    | nil => exact ⟨[], .nil⟩
    | cons item rest ih =>
        obtain ⟨result, hitem⟩ := h item List.mem_cons_self
        obtain ⟨results, hrest⟩ := ih fun other hmem => h other (List.mem_cons_of_mem _ hmem)
        exact ⟨result :: results, .cons hitem hrest⟩

/-- The items of a permuted list are found at permuted indexes. -/
theorem exists_index_of_perm {first second : List α} (h : first.Perm second) :
    ∃ f : Nat → Nat, Function.Bijective f ∧ ∀ i, second[f i]? = first[i]? := by
  induction h with
  | nil => exact ⟨id, Function.bijective_id, fun _ => rfl⟩
  | @cons a first second _ ih =>
      obtain ⟨f, ⟨hinjective, hsurjective⟩, hf⟩ := ih
      let g : Nat → Nat
        | 0 => 0
        | i + 1 => f i + 1
      refine ⟨g, ⟨?_, ?_⟩, ?_⟩
      · intro i j hij
        cases i <;> cases j <;> simp_all [g]
        exact hinjective hij
      · intro j
        cases j with
        | zero => exact ⟨0, rfl⟩
        | succ j =>
            obtain ⟨i, rfl⟩ := hsurjective j
            exact ⟨i + 1, rfl⟩
      · intro i
        cases i with
        | zero => rfl
        | succ i => exact hf i
  | swap a b rest =>
      let g : Nat → Nat
        | 0 => 1
        | 1 => 0
        | i + 2 => i + 2
      have hg : Function.Involutive g := by
        intro i
        match i with
        | 0 => rfl
        | 1 => rfl
        | i + 2 => rfl
      refine ⟨g, hg.bijective, ?_⟩
      intro i
      match i with
      | 0 => rfl
      | 1 => rfl
      | i + 2 => rfl
  | trans _ _ ih ih' =>
      obtain ⟨f, hbijective, hf⟩ := ih
      obtain ⟨g, hbijective', hg⟩ := ih'
      exact ⟨g ∘ f, hbijective'.comp hbijective, fun i => (hg (f i)).trans (hf i)⟩

end RubyClasses
