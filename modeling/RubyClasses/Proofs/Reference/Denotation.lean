import Mathlib.Data.List.DropRight
import Mathlib.Data.List.Nodup
import Mathlib.Data.List.TakeWhile
import RubyClasses.Model.Reference

/-! # What type references denote

A reference denotes a list when brackets end it, and otherwise the built-in type or the declared
type that it names, blanks around it and around each pair of brackets left aside. Resolving a
reference finds exactly the type that it denotes.
-/

namespace RubyClasses

namespace Primitive

theorem keyword_injective {kind other : Primitive} (h : kind.keyword = other.keyword) :
    kind = other := by
  have hsame := congrArg ofKeyword? h
  rw [ofKeyword?_keyword, ofKeyword?_keyword] at hsame
  exact Option.some.inj hsame

theorem ofKeyword?_eq_some_iff {s : String} {kind : Primitive} :
    ofKeyword? s = some kind ↔ s = kind.keyword := by
  constructor
  · intro h
    have hfound := List.find?_some h
    exact (beq_iff_eq.mp hfound).symm
  · rintro rfl
    exact ofKeyword?_keyword kind

/-- No keyword ends with brackets. -/
theorem not_suffix_keyword (kind : Primitive) : ¬ ['[', ']'] <:+ kind.keyword.toList := by
  cases kind <;> decide

end Primitive

namespace Text

/-- Leave out the blanks at both ends. -/
def strip (cs : List Char) : List Char := (stripStart (stripStart cs).reverse).reverse

theorem stripStart_append_blanks {blanks : List Char} (hblanks : ∀ c ∈ blanks, isBlank c = true)
    (cs : List Char) : stripStart (blanks ++ cs) = stripStart cs := by
  induction blanks with
  | nil => rfl
  | cons c rest ih =>
      have hc := hblanks c List.mem_cons_self
      rw [List.cons_append, stripStart, List.dropWhile_cons_of_pos hc]
      exact ih (fun d hd => hblanks d (List.mem_cons_of_mem _ hd))

/-- Blanks in front of a text that does not start with one. -/
theorem exists_stripStart (cs : List Char) :
    ∃ blanks, (∀ c ∈ blanks, isBlank c = true) ∧ cs = blanks ++ stripStart cs :=
  ⟨cs.takeWhile isBlank, fun _ => List.mem_takeWhile_imp, List.takeWhile_append_dropWhile.symm⟩

/-- Blanks behind what stripping leaves. -/
theorem exists_strip_append (cs : List Char) :
    ∃ blanks, (∀ c ∈ blanks, isBlank c = true) ∧ stripStart cs = strip cs ++ blanks := by
  obtain ⟨blanks, hblanks, hrest⟩ := exists_stripStart (stripStart cs).reverse
  refine ⟨blanks.reverse, fun c hc => hblanks c (List.mem_reverse.mp hc), ?_⟩
  have hback := congrArg List.reverse hrest
  rwa [List.reverse_reverse, List.reverse_append] at hback

/-- A text is what stripping leaves, between blanks. -/
theorem exists_strip_between (cs : List Char) :
    ∃ before after, (∀ c ∈ before ++ after, isBlank c = true) ∧
      cs = before ++ strip cs ++ after := by
  obtain ⟨before, hbefore, hfront⟩ := exists_stripStart cs
  obtain ⟨after, hafter, hback⟩ := exists_strip_append cs
  refine ⟨before, after, ?_, ?_⟩
  · intro c hc
    exact (List.mem_append.mp hc).elim (hbefore c) (hafter c)
  · rw [List.append_assoc, ← hback]
    exact hfront

theorem strip_length_le (cs : List Char) : (strip cs).length ≤ cs.length := by
  obtain ⟨before, after, -, hcs⟩ := exists_strip_between cs
  have hlength := congrArg List.length hcs
  simp only [List.length_append] at hlength
  omega

/-- No blank stands at the start of a stripped text. -/
theorem isBlank_of_strip_eq_cons {cs rest : List Char} {c : Char} (h : strip cs = c :: rest) :
    isBlank c = false := by
  obtain ⟨blanks, -, hstart⟩ := exists_strip_append cs
  have hhead := List.head?_dropWhile_not isBlank cs
  rw [stripStart] at hstart
  rw [hstart, h] at hhead
  simpa using hhead

/-- No blank stands at the end of a stripped text. -/
theorem isBlank_of_strip_eq_concat {cs rest : List Char} {c : Char} (h : strip cs = rest ++ [c]) :
    isBlank c = false := by
  have hback := congrArg List.reverse h
  rw [strip, List.reverse_reverse, List.reverse_append, List.reverse_singleton] at hback
  have hhead := List.head?_dropWhile_not isBlank (stripStart cs).reverse
  rw [stripStart] at hback
  rw [hback] at hhead
  simpa using hhead

theorem stripStart_strip (cs : List Char) : stripStart (strip cs) = strip cs := by
  cases hcs : strip cs with
  | nil => rfl
  | cons c rest => simp [stripStart, isBlank_of_strip_eq_cons hcs]

theorem stripStart_eq_self {cs : List Char} (h : ∀ c ∈ cs, isBlank c = false) :
    stripStart cs = cs := by
  cases cs with
  | nil => rfl
  | cons c rest => simp [stripStart, h c List.mem_cons_self]

/-- A text without blanks is left as it is. -/
theorem strip_eq_self {cs : List Char} (h : ∀ c ∈ cs, isBlank c = false) : strip cs = cs := by
  have hback : ∀ c ∈ cs.reverse, isBlank c = false := fun c hc => h c (List.mem_reverse.mp hc)
  rw [strip, stripStart_eq_self h, stripStart_eq_self hback, List.reverse_reverse]

/-- Stripping once is enough. -/
theorem strip_strip (cs : List Char) : strip (strip cs) = strip cs := by
  have hback : stripStart (strip cs).reverse = (strip cs).reverse := by
    rw [strip, List.reverse_reverse]
    exact List.dropWhile_idempotent _ _
  rw [strip, stripStart_strip, hback, List.reverse_reverse]

end Text

namespace Reference

open Text

theorem peel_blanks_append {blanks : List Char} (hblanks : ∀ c ∈ blanks, isBlank c = true)
    (cs : List Char) : peel (blanks ++ cs) = peel cs := by
  induction blanks with
  | nil => rfl
  | cons c rest ih =>
      have hc := hblanks c List.mem_cons_self
      have hne : c ≠ ']' := by
        rintro rfl
        cases hc
      rw [List.cons_append, peel.eq_2 _ _ (fun _ h => absurd h hne)]
      rw [if_pos hc]
      exact ih (fun d hd => hblanks d (List.mem_cons_of_mem _ hd))

/-- Blanks at the start of a reference end up in its target, where they are left out. -/
theorem peel_append_blanks {blanks : List Char} (hblanks : ∀ c ∈ blanks, isBlank c = true)
    (cs : List Char) :
    (peel (cs ++ blanks)).1 = (peel cs).1 ∧
      stripStart (peel (cs ++ blanks)).2.reverse = stripStart (peel cs).2.reverse := by
  induction cs using peel.induct with
  | case1 rest lists target hrest ih =>
      simp only [List.cons_append, peel]
      exact ⟨congrArg (· + 1) ih.1, ih.2⟩
  | case2 c rest hbrackets hblank ih =>
      have hne : c ≠ ']' := by
        rintro rfl
        cases hblank
      rw [List.cons_append, peel.eq_2 _ _ (fun _ h => absurd h hne), peel.eq_2 _ _ hbrackets,
        if_pos hblank, if_pos hblank]
      exact ih
  | case3 c rest hbrackets hblank =>
      -- a blank is no bracket, so appending blanks completes no pair
      have hopen : ∀ more, c = ']' → rest ++ blanks = '[' :: more → False := by
        intro more hc hmore
        cases rest with
        | nil =>
            have hfirst := hblanks '[' (by simp_all)
            cases hfirst
        | cons d rest => exact hbrackets rest hc (by simp_all)
      rw [List.cons_append, peel.eq_2 _ _ hopen, peel.eq_2 _ _ hbrackets, if_neg hblank,
        if_neg hblank]
      refine ⟨rfl, ?_⟩
      rw [← List.cons_append, List.reverse_append]
      exact stripStart_append_blanks (fun d hd => hblanks d (List.mem_reverse.mp hd)) _
  | case4 =>
      have hnil := peel_blanks_append hblanks []
      simp only [List.append_nil] at hnil
      simp [hnil]

/-- Blanks in front of a reference and behind it do not matter. -/
theorem ofChars_between_blanks {before after : List Char}
    (hblanks : ∀ c ∈ before ++ after, isBlank c = true) (cs : List Char) :
    ofChars (before ++ cs ++ after) = ofChars cs := by
  have hafter : ∀ c ∈ after.reverse, isBlank c = true := fun c hc =>
    hblanks c (List.mem_append_right _ (List.mem_reverse.mp hc))
  have hbefore : ∀ c ∈ before.reverse, isBlank c = true := fun c hc =>
    hblanks c (List.mem_append_left _ (List.mem_reverse.mp hc))
  have hpeel : peel (before ++ cs ++ after).reverse = peel (cs.reverse ++ before.reverse) := by
    rw [List.reverse_append, List.reverse_append]
    exact peel_blanks_append hafter _
  have hparts := peel_append_blanks hbefore cs.reverse
  rw [← hpeel] at hparts
  simp only [ofChars, hparts.1, hparts.2]

theorem ofChars_strip (cs : List Char) : ofChars (strip cs) = ofChars cs := by
  obtain ⟨before, after, hblanks, hcs⟩ := exists_strip_between cs
  calc
    ofChars (strip cs) = ofChars (before ++ strip cs ++ after) :=
      (ofChars_between_blanks hblanks _).symm
    _ = ofChars cs := by rw [← hcs]

/-- Brackets at the end of a reference put a list around its type. -/
theorem ofChars_brackets (cs : List Char) :
    ofChars (cs ++ ['[', ']']) = ⟨(ofChars cs).lists + 1, (ofChars cs).target⟩ := by
  simp [ofChars, peel]

/-- Without brackets at its end, a reference is its target. -/
theorem ofChars_of_no_brackets {cs : List Char} (h : ¬ ['[', ']'] <:+ strip cs) :
    ofChars cs = ⟨0, strip cs⟩ := by
  have hpeel : peel (strip cs).reverse = (0, (strip cs).reverse) := by
    cases hback : (strip cs).reverse with
    | nil => rfl
    | cons c rest =>
        have hlast : strip cs = rest.reverse ++ [c] := by
          rw [← List.reverse_reverse (strip cs), hback, List.reverse_cons]
        have hblank := isBlank_of_strip_eq_concat hlast
        have hbrackets : ∀ more, c = ']' → rest = '[' :: more → False := by
          rintro more rfl rfl
          exact h ⟨more.reverse, by simp [hlast]⟩
        rw [peel.eq_2 _ _ hbrackets, if_neg (by simp [hblank])]
  rw [← ofChars_strip, ofChars, hpeel]
  simp [stripStart_strip]

/-- What a reference denotes among the declared names. -/
inductive Denotes (names : List Name) : List Char → TypeRef → Prop
  /-- Brackets at the end denote a list. -/
  | list {cs inner element} (hbrackets : strip cs = inner ++ ['[', ']'])
      (hinner : Denotes names inner element) : Denotes names cs (.list element)
  /-- A keyword denotes its built-in type. -/
  | primitive {cs kind} (hkeyword : String.ofList (strip cs) = kind.keyword) :
      Denotes names cs (.primitive kind)
  /-- Any other text denotes the declaration whose name it spells. -/
  | declared {cs name index} (hbrackets : ¬ ['[', ']'] <:+ strip cs)
      (hkeyword : ∀ kind : Primitive, String.ofList (strip cs) ≠ kind.keyword)
      (hname : Name.ofText? (String.ofList (strip cs)) = some name)
      (hindex : names[index]? = some name) : Denotes names cs (.declared index)

/-- Among distinct names, the search for a name finds the one index at which it stands. -/
theorem findIdx?_eq_some_iff {names : List Name} (hdistinct : names.Nodup) {name : Name}
    {index : Nat} : names.findIdx? (· == name) = some index ↔ names[index]? = some name := by
  rw [List.findIdx?_eq_some_iff_getElem, List.getElem?_eq_some_iff]
  constructor
  · rintro ⟨hlt, heq, -⟩
    exact ⟨hlt, by simpa using heq⟩
  · rintro ⟨hlt, heq⟩
    refine ⟨hlt, by simpa using heq, ?_⟩
    intro other hother hsame
    have hname : names[other] = name := by simpa using hsame
    have hindex := (hdistinct.getElem_inj_iff).mp (hname.trans heq.symm)
    omega

theorem targetType?_eq_some_iff {names : List Name} (hdistinct : names.Nodup) {cs : List Char}
    (hbrackets : ¬ ['[', ']'] <:+ strip cs) {ref : TypeRef} :
    targetType? names (strip cs) = some ref ↔ Denotes names cs ref := by
  cases hkind : Primitive.ofKeyword? (String.ofList (strip cs)) with
  | some kind =>
      have hkeyword := Primitive.ofKeyword?_eq_some_iff.mp hkind
      simp only [targetType?, hkind]
      constructor
      · rintro ⟨⟩
        exact .primitive hkeyword
      · intro hdenotes
        cases hdenotes with
        | list h => exact absurd ⟨_, h.symm⟩ hbrackets
        | primitive h => rw [Primitive.keyword_injective (hkeyword.symm.trans h)]
        | declared _ h => exact absurd hkeyword (h kind)
  | none =>
      have hkeyword : ∀ kind : Primitive, String.ofList (strip cs) ≠ kind.keyword := by
        intro kind h
        rw [h, Primitive.ofKeyword?_keyword] at hkind
        cases hkind
      simp only [targetType?, hkind, Option.bind_eq_bind, Option.bind_eq_some_iff, Option.pure_def]
      constructor
      · rintro ⟨name, hname, index, hindex, ⟨⟩⟩
        exact .declared hbrackets hkeyword hname ((findIdx?_eq_some_iff hdistinct).mp hindex)
      · intro hdenotes
        cases hdenotes with
        | list h => exact absurd ⟨_, h.symm⟩ hbrackets
        | primitive h => exact absurd h (hkeyword _)
        | declared _ _ hname hindex =>
            exact ⟨_, hname, _, (findIdx?_eq_some_iff hdistinct).mpr hindex, rfl⟩

/-- Resolving a reference finds what it denotes. -/
theorem resolve?_eq_some_iff {names : List Name} (hdistinct : names.Nodup) {cs : List Char}
    {ref : TypeRef} : (ofChars cs).resolve? names = some ref ↔ Denotes names cs ref := by
  induction hlength : cs.length using Nat.strongRecOn generalizing cs ref with
  | _ length ih =>
      -- what stands in front of the brackets is shorter, whatever blanks surround it
      by_cases hbrackets : ['[', ']'] <:+ strip cs
      · obtain ⟨inner, hinner⟩ := hbrackets
        have hshorter : inner.length < length := by
          have hle := strip_length_le cs
          rw [← hinner] at hle
          simp only [List.length_append, List.length_cons, List.length_nil] at hle
          omega
        have hresolve : (ofChars cs).resolve? names =
            ((ofChars inner).resolve? names).map .list := by
          rw [← ofChars_strip, ← hinner, ofChars_brackets]
          simp only [resolve?, Option.map_map]
          rfl
        rw [hresolve, Option.map_eq_some_iff]
        constructor
        · rintro ⟨element, helement, rfl⟩
          exact .list hinner.symm ((ih _ hshorter rfl).mp helement)
        · intro hdenotes
          cases hdenotes with
          | list h hdenotes =>
              rw [← hinner, List.append_cancel_right_eq] at h
              subst h
              exact ⟨_, (ih _ hshorter rfl).mpr hdenotes, rfl⟩
          | @primitive _ kind h =>
              have hkeyword : strip cs = kind.keyword.toList := by rw [← h, String.toList_ofList]
              exact absurd ⟨inner, hinner.trans hkeyword⟩ kind.not_suffix_keyword
          | declared h => exact absurd ⟨inner, hinner⟩ h
      · rw [ofChars_of_no_brackets hbrackets, ← targetType?_eq_some_iff hdistinct hbrackets]
        simp [resolve?, wrap]

end Reference

end RubyClasses
