import RubyClasses.Proofs.Text.Characters

/-! # Cutting a text at a separator

The parts of a text hold no separators, and together they are the text without them. A text is cut
at each separator independently of what stands in front of it and behind it. So what is seen in the
parts is what is seen in the text, where a separator separates it anyway.
-/

namespace RubyClasses.Text

variable {isSeparator : Char → Bool}

/-- No separator stands inside a part between separators. -/
theorem partsBetween_mem {cs part : List Char}
    (hpart : part ∈ partsBetween isSeparator cs) : ∀ c ∈ part, isSeparator c = false := by
  induction cs generalizing part with
  | nil => simp_all [partsBetween]
  | cons d rest ih =>
      unfold partsBetween at hpart
      split at hpart
      next =>
        rcases List.mem_cons.mp hpart with rfl | hpart
        · simp
        · exact ih hpart
      next hd =>
        intro c hc
        rcases mem_of_mem_consHead hpart hc with rfl | ⟨other, hother, hc⟩
        · simpa using hd
        · exact ih hother c hc

/-- The parts between separators are the text without its separators. -/
theorem flatten_partsBetween (isSeparator : Char → Bool) (cs : List Char) :
    (partsBetween isSeparator cs).flatten = cs.filter fun c => !isSeparator c := by
  induction cs with
  | nil => rfl
  | cons c rest ih =>
      unfold partsBetween
      split
      next hseparator =>
        rw [List.filter_cons_of_neg (by simp [hseparator]), List.flatten_cons, ih]
        rfl
      next hseparator =>
        rw [List.filter_cons_of_pos (by simp [hseparator]), ← ih]
        cases partsBetween isSeparator rest <;> rfl

theorem partsBetween_ne_nil (isSeparator : Char → Bool) (cs : List Char) :
    partsBetween isSeparator cs ≠ [] := by
  cases cs with
  | nil => exact List.cons_ne_nil _ _
  | cons c rest =>
      unfold partsBetween
      split
      next => exact List.cons_ne_nil _ _
      next => cases partsBetween isSeparator rest <;> exact List.cons_ne_nil _ _

theorem consHead_append {parts : List (List Char)} (h : parts ≠ []) (c : Char)
    (others : List (List Char)) : consHead c (parts ++ others) = consHead c parts ++ others := by
  cases parts with
  | nil => exact absurd rfl h
  | cons part parts => rfl

/-- A separator cuts a text into two texts that are cut independently. -/
theorem partsBetween_append_cons {c : Char} (hc : isSeparator c = true) (front back : List Char) :
    partsBetween isSeparator (front ++ c :: back) =
      partsBetween isSeparator front ++ partsBetween isSeparator back := by
  induction front with
  | nil => simp [partsBetween, hc]
  | cons d rest ih =>
      rw [List.cons_append, partsBetween, partsBetween, ih]
      split
      next => rfl
      next => exact consHead_append (partsBetween_ne_nil isSeparator rest) d _

/-- A text without separators is one part. -/
theorem partsBetween_eq_singleton {cs : List Char} (h : ∀ c ∈ cs, isSeparator c = false) :
    partsBetween isSeparator cs = [cs] := by
  induction cs with
  | nil => rfl
  | cons c rest ih =>
      rw [partsBetween, h c List.mem_cons_self, if_neg (by simp),
        ih fun d hd => h d (List.mem_cons_of_mem _ hd)]
      rfl

/-- What is seen in the parts of a text one by one is what is seen in the text, when nothing is seen
across a separator. -/
theorem flatMap_partsBetween {α : Type} {look : List Char → List α}
    (hlook : ∀ c front back, isSeparator c = true →
      look (front ++ c :: back) = look front ++ look back) (cs : List Char) :
    (partsBetween isSeparator cs).flatMap look = look cs := by
  -- the characters in front of `cs` are those of the part that is being read
  have hread : ∀ front, (∀ c ∈ front, isSeparator c = false) →
      (partsBetween isSeparator (front ++ cs)).flatMap look = look (front ++ cs) := by
    induction cs with
    | nil =>
        intro front hfront
        rw [List.append_nil, partsBetween_eq_singleton hfront, List.flatMap_singleton]
    | cons c rest ih =>
        intro front hfront
        cases hc : isSeparator c with
        | true =>
            have hrest := ih [] (by simp)
            rw [List.nil_append] at hrest
            rw [partsBetween_append_cons hc, List.flatMap_append, partsBetween_eq_singleton hfront,
              List.flatMap_singleton, hlook c front rest hc, hrest]
        | false =>
            have hnext : ∀ d ∈ front ++ [c], isSeparator d = false := by
              intro d hd
              rcases List.mem_append.mp hd with hd | hd
              · exact hfront d hd
              · rwa [List.mem_singleton.mp hd]
            have hshift : front ++ c :: rest = (front ++ [c]) ++ rest := by simp
            rw [hshift, ih _ hnext]
  exact hread [] (by simp)

/-- A text without colons is one part. -/
theorem partsAtColons_eq_singleton {cs : List Char} (h : ':' ∉ cs) : partsAtColons cs = [cs] := by
  induction cs with
  | nil => rfl
  | cons c rest ih =>
      have hc : c ≠ ':' := fun heq => h (heq ▸ List.mem_cons_self)
      rw [partsAtColons.eq_2 _ _ fun _ heq => absurd heq hc,
        ih fun hmem => h (List.mem_cons_of_mem _ hmem)]
      rfl

end RubyClasses.Text
