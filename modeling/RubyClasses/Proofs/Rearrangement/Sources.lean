import Mathlib.Data.List.Permutation
import RubyClasses.Proofs.Rearrangement.Models

/-! # Sources of rearranged descriptions

A description and its rearrangement describe models that have the same source. Nothing of the order
of types, of values, of members with distinct names and of required files is left in the text.
-/

namespace RubyClasses

open Json (Value)
open Description

theorem Model.SameSource.trans {m middle last : Model} (hfirst : m.SameSource middle)
    (hsecond : middle.SameSource last) : m.SameSource last :=
  fun naming o => (hsecond naming o).trans (hfirst naming o)

/-- A rearranged document describes a model with the same source. -/
theorem Description.DescribesModel.rearranged {document document' : Value} {m : Model}
    (h : DescribesModel document m) (hrearranged : Rearranged document document') :
    ∃ m', DescribesModel document' m' ∧ m.SameSource m' := by
  rcases hrearranged with rfl | ⟨fields, fields', rfl, rfl, hfields⟩
  · exact ⟨m, h, fun _ _ => Iff.rfl⟩
  obtain ⟨_, entries, ⟨⟩, htypes, hentries, hdistinct⟩ := h
  rcases field?_of_forall₂ hfields "types" with ⟨hnone, -⟩ | ⟨v, w, hv, hw, hvw⟩
  · rw [htypes] at hnone
    cases hnone
  · rw [htypes] at hv
    cases hv
    cases hvw with
    | same => exact ⟨m, ⟨fields', entries, rfl, hw, hentries, hdistinct⟩, fun _ _ => Iff.rfl⟩
    | @types _ middle entries' hkey hperm hmiddle =>
        obtain ⟨m₁, hm₁, hdistinct₁, hsame₁⟩ := Model.exists_of_perm hentries hdistinct hperm
        obtain ⟨m', hm', hdistinct', hsame'⟩ := Model.exists_of_rearranged hm₁ hdistinct₁ hmiddle
        exact ⟨m', ⟨fields', entries', rfl, hw, hm', hdistinct'⟩, hsame₁.trans hsame'⟩

/-- The text of a source depends on the outline and on which files are required. -/
theorem Model.SameSource.render_eq_ok_iff {m m' : Model} (h : m.SameSource m') {naming : Naming}
    {requires requires' : List String} (hrequires : ∀ name, name ∈ requires' ↔ name ∈ requires)
    {text : String} : Generation.render ⟨m', naming, requires'⟩ = .ok text ↔
      Generation.render ⟨m, naming, requires⟩ = .ok text := by
  have hbuffer : ∀ fileName, requires'.foldl Buffer.require (Buffer.create fileName) =
      requires.foldl Buffer.require (Buffer.create fileName) := by
    intro fileName
    exact Buffer.foldl_require_eq _ List.Pairwise.nil hrequires
  simp only [Generation.render_eq_ok_iff, Generation.buffer_eq_ok_iff, Generation.fileName,
    h naming, hbuffer]

section Rearranged

variable {content content' : String} {document document' : Value}

/-- A rearranged description is read as well, as a model with the same source. -/
theorem Model.exists_ofText_of_rearranged
    (hread' : Json.readDocument content'.toList = .ok document')
    (hread : Json.readDocument content.toList = .ok document)
    (hrearranged : Rearranged document document') {m : Model} (hm : ofText content = .ok m) :
    ∃ m', ofText content' = .ok m' ∧ m.SameSource m' := by
  obtain ⟨found, hfound, hdescribes⟩ := ofText_eq_ok_iff.mp hm
  rw [hread] at hfound
  cases hfound
  obtain ⟨m', hm', hsame⟩ := hdescribes.rearranged hrearranged
  exact ⟨m', ofText_eq_ok_iff.mpr ⟨document', hread', hm'⟩, hsame⟩

/-- A description is read exactly when its rearrangement is. Then a source is generated from both or
from none of them, and it is the same source, in whatever order files are required. -/
theorem Generation.render_rearranged (hread : Json.readDocument content.toList = .ok document)
    (hread' : Json.readDocument content'.toList = .ok document')
    (hrearranged : Rearranged document document') :
    ((∃ m, Model.ofText content = .ok m) ↔ ∃ m, Model.ofText content' = .ok m) ∧
    ∀ m m', Model.ofText content = .ok m → Model.ofText content' = .ok m' →
      ∀ naming requires requires', (∀ name, name ∈ requires' ↔ name ∈ requires) →
        ((∃ text, render ⟨m, naming, requires⟩ = .ok text) ↔
          ∃ text, render ⟨m', naming, requires'⟩ = .ok text) ∧
        ∀ text text', render ⟨m, naming, requires⟩ = .ok text →
          render ⟨m', naming, requires'⟩ = .ok text' → text = text' := by
  constructor
  · constructor
    · intro h
      obtain ⟨m, hm⟩ := h
      obtain ⟨m', hm', -⟩ := Model.exists_ofText_of_rearranged hread' hread hrearranged hm
      exact ⟨m', hm'⟩
    · intro h
      obtain ⟨m', hm'⟩ := h
      obtain ⟨m, hm, -⟩ := Model.exists_ofText_of_rearranged hread hread' hrearranged.symm hm'
      exact ⟨m, hm⟩
  · intro m m' hm hm' naming requires requires' hrequires
    obtain ⟨found, hfound, hsame⟩ := Model.exists_ofText_of_rearranged hread' hread hrearranged hm
    rw [hm'] at hfound
    cases hfound
    constructor
    · apply exists_congr
      intro text
      exact (hsame.render_eq_ok_iff hrequires).symm
    · intro text text' htext htext'
      rw [hsame.render_eq_ok_iff hrequires, htext] at htext'
      exact Except.ok.inj htext'

end Rearranged

/-- An enumeration with a repeated value, a struct that holds it, and an extension listed first. -/
def listedText : String :=
  "\x7b\"types\":[" ++
  "\x7b\"kind\":\"struct\",\"name\":\"c\",\"base\":\"b\"\x7d," ++
  "\x7b\"kind\":\"struct\",\"name\":\"b\"," ++
  "\"links\":[\x7b\"name\":\"p\",\"type\":\"a\"\x7d,\x7b\"name\":\"q\",\"type\":\"c\"\x7d]\x7d," ++
  "\x7b\"kind\":\"enum\",\"name\":\"a\",\"values\":[\"x\",\"x\",\"y\"]\x7d]\x7d"

/-- The same description with all lists reversed. -/
def reversedText : String :=
  "\x7b\"types\":[" ++
  "\x7b\"kind\":\"enum\",\"name\":\"a\",\"values\":[\"y\",\"x\",\"x\"]\x7d," ++
  "\x7b\"kind\":\"struct\",\"name\":\"b\"," ++
  "\"links\":[\x7b\"name\":\"q\",\"type\":\"c\"\x7d,\x7b\"name\":\"p\",\"type\":\"a\"\x7d]\x7d," ++
  "\x7b\"kind\":\"struct\",\"name\":\"c\",\"base\":\"b\"\x7d]\x7d"

/-- An object whose values are texts. -/
def textFields (fields : List (String × String)) : Fields :=
  fields.map fun field => (Text.ofString field.1, .text (Text.ofString field.2))

/-- The document in such a description, given the order of its lists. -/
def orderedDocument (order : ∀ {α : Type}, List α → List α) : Value :=
  let extension := Value.object (textFields [("kind", "struct"), ("name", "c"), ("base", "b")])
  let links := order [
    Value.object (textFields [("name", "p"), ("type", "a")]),
    Value.object (textFields [("name", "q"), ("type", "c")])]
  let root := Value.object
    (textFields [("kind", "struct"), ("name", "b")] ++ [(Text.ofString "links", .array links)])
  let values := order (["x", "x", "y"].map fun value => Value.text (Text.ofString value))
  let enumeration := Value.object
    (textFields [("kind", "enum"), ("name", "a")] ++ [(Text.ofString "values", .array values)])
  .object [(Text.ofString "types", .array (order [extension, root, enumeration]))]

theorem readDocument_listedText :
    Json.readDocument listedText.toList = .ok (orderedDocument fun entries => entries) := by
  cbv

theorem readDocument_reversedText :
    Json.readDocument reversedText.toList = .ok (orderedDocument List.reverse) := by
  cbv

/-- The two documents list the same types, values and members. -/
theorem rearranged_orderedDocument :
    Rearranged (orderedDocument fun entries => entries) (orderedDocument List.reverse) := by
  have hlinks : NamesDistinct [Value.object (textFields [("name", "p"), ("type", "a")]),
      Value.object (textFields [("name", "q"), ("type", "c")])] := by
    simp only [NamesDistinct, List.pairwise_cons, List.mem_singleton, forall_eq]
    refine ⟨?_, by simp⟩
    intro name hfirst hsecond
    obtain ⟨_, _, ⟨⟩, hp, t, rfl, hpname⟩ := hfirst
    obtain ⟨_, _, ⟨⟩, hq, t', rfl, hqname⟩ := hsecond
    cases hp
    cases hq
    rw [← hpname] at hqname
    revert hqname
    decide +kernel
  apply Or.inr
  refine ⟨_, _, rfl, rfl, .cons ⟨rfl, .types rfl (List.reverse_perm _).symm ?_⟩ .nil⟩
  apply List.Forall₂.cons
  · apply Or.inr
    refine ⟨_, _, rfl, rfl, .cons ⟨rfl, .same _⟩ (.cons ⟨rfl, .same _⟩ (.cons ⟨rfl, ?_⟩ .nil))⟩
    exact .values rfl (List.reverse_perm _).symm
  · apply List.Forall₂.cons
    · apply Or.inr
      refine ⟨_, _, rfl, rfl, .cons ⟨rfl, .same _⟩ (.cons ⟨rfl, .same _⟩ (.cons ⟨rfl, ?_⟩ .nil))⟩
      exact .members (.inr rfl) hlinks (List.reverse_perm _).symm
    · exact .cons (.inl rfl) .nil

/-- The model that is described with its lists in the first order. -/
def listedModel : Model where
  declarations := [
    .struct ⟨⟨["c"]⟩, some (.declared 1), [], []⟩,
    .struct ⟨⟨["b"]⟩, none, [], [⟨⟨["p"]⟩, .declared 2⟩, ⟨⟨["q"]⟩, .declared 0⟩]⟩,
    .enumeration ⟨⟨["a"]⟩, [⟨["x"]⟩, ⟨["x"]⟩, ⟨["y"]⟩]⟩]

theorem ofText_listedText : Model.ofText listedText = .ok listedModel := by
  have hread : (Model.ofText listedText).toOption = some listedModel := by decide +kernel
  exact toOption_eq_some_iff.mp hread

theorem exists_render_listedModel (naming : Naming) :
    ∃ text, Generation.render ⟨listedModel, naming, ["set", "date"]⟩ = .ok text := by
  have hshapes : ∀ entry ∈ listedModel.structs, ∀ member ∈ entry.2.attributes ++ entry.2.links,
      (listedModel.shape? member.type).isSome := by decide
  apply Generation.exists_render_iff.mpr
  intro entry hentry member hmember
  have hmem := Model.mem_structs_of_declarationOrder hentry
  exact Option.isSome_iff_exists.mp (hshapes entry hmem member hmember)

theorem Generation.render_rearranged_reversedText :
    ∃ m', Model.ofText listedText = .ok listedModel ∧ Model.ofText reversedText = .ok m' ∧
      ∃ text, render ⟨listedModel, ⟨"V4", "v4", "Struct"⟩, ["set", "date"]⟩ = .ok text ∧
        render ⟨m', ⟨"V4", "v4", "Struct"⟩, ["date", "set", "date"]⟩ = .ok text := by
  obtain ⟨hload, hsource⟩ := render_rearranged readDocument_listedText readDocument_reversedText
    rearranged_orderedDocument
  obtain ⟨m', hm'⟩ := hload.mp ⟨listedModel, ofText_listedText⟩
  have hrequires : ∀ name, name ∈ ["date", "set", "date"] ↔ name ∈ ["set", "date"] := by
    intro name
    simp only [List.mem_cons, List.not_mem_nil, or_false]
    constructor
    · intro h
      rcases h with rfl | rfl | rfl <;> simp
    · intro h
      rcases h with rfl | rfl <;> simp
  obtain ⟨hiff, hequal⟩ := hsource _ _ ofText_listedText hm' ⟨"V4", "v4", "Struct"⟩ _ _ hrequires
  obtain ⟨text, htext⟩ := exists_render_listedModel ⟨"V4", "v4", "Struct"⟩
  obtain ⟨text', htext'⟩ := hiff.mp ⟨text, htext⟩
  rw [← hequal text text' htext htext'] at htext'
  exact ⟨m', ofText_listedText, hm', text, htext, htext'⟩

end RubyClasses
