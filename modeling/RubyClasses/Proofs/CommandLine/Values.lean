import RubyClasses.CommandLine.Request
import RubyClasses.Proofs.Fallible
import RubyClasses.Proofs.Storage.NulFree

/-! # The values of an invocation

The model file and the values of the switches are arguments, parts of arguments, or standard values.
So none of them has a NUL character when the arguments have none.
-/

namespace RubyClasses.CommandLine

/-- What is attached to a switch has no NUL character. -/
def Attached.IsNulFree : Attached → Prop
  | nothing => True
  | equals value => '\x00' ∉ value
  | joined rest => '\x00' ∉ rest

/-- A token that can become a value has no NUL character. -/
def Token.IsNulFree : Token → Prop
  | plain text => NulFree text
  | switch _ attached => attached.IsNulFree
  | _ => True

/-- The value of a switch has no NUL character. -/
def Given.IsNulFree (g : Given) : Prop := ∀ value ∈ g.value, NulFree value

section Tokens

variable {cs : List Char}

/-- The text behind an equals sign is part of the argument. -/
theorem mem_of_mem_cutAtEquals {value : List Char} (h : (cutAtEquals cs).2 = some value) {c : Char}
    (hc : c ∈ value) : c ∈ cs := by
  unfold cutAtEquals at h
  split at h
  next => cases h
  next sign value' heq =>
    cases h
    apply (List.dropWhile_sublist _).subset
    rw [heq]
    exact List.mem_cons_of_mem _ hc

theorem isNulFree_ofValue (spelling : List Char) {value : Option (List Char)}
    (h : ∀ v, value = some v → '\x00' ∉ v) : (Attached.ofValue spelling value).IsNulFree := by
  cases value with
  | none => trivial
  | some v =>
      unfold Attached.ofValue
      dsimp only
      split <;> exact h v rfl

theorem isNulFree_of_mem_candidates (hcs : '\x00' ∉ cs) {candidate : String × Switch × Attached}
    (h : candidate ∈ candidates cs) : candidate.2.2.IsNulFree := by
  unfold candidates at h
  split at h
  next =>
    obtain ⟨completion, -, rfl⟩ := List.mem_map.mp h
    exact isNulFree_ofValue _ fun v hv hnul => hcs (mem_of_mem_cutAtEquals hv hnul)
  next letter rest _ =>
    split at h
    next =>
      obtain rfl := List.mem_singleton.mp h
      exact fun hnul => hcs (List.mem_cons_of_mem _ (List.mem_cons_of_mem _ hnul))
    next => cases h
  next => cases h

/-- A token takes its text or its value from the argument it is read from. -/
theorem isNulFree_of_classify {argument : String} {token : Token} (hfree : NulFree argument)
    (h : classify argument = .ok token) : token.IsNulFree := by
  unfold classify at h
  dsimp only at h
  split at h
  next =>
    cases h
    exact hfree
  split at h
  next =>
    cases h
    trivial
  split at h
  next =>
    cases h
    exact hfree
  split at h
  next s value _ hvalue =>
    cases h
    exact isNulFree_ofValue _ fun v hv hnul =>
      hfree (mem_of_mem_cutAtEquals (hvalue.trans hv) hnul)
  split at h
  next _ s attached hone =>
    cases h
    exact isNulFree_of_mem_candidates hfree (hone ▸ List.mem_cons_self)
  next =>
    split at h
    next =>
      cases h
      exact hfree
    next =>
      cases h
      trivial
  next => cases h

/-- The tokens of arguments without NUL characters have none either. -/
theorem isNulFree_of_tokens {arguments : List String} {ts : List Token}
    (hfree : ∀ argument ∈ arguments, NulFree argument) (h : tokens arguments = .ok ts) :
    ∀ token ∈ ts, token.IsNulFree := by
  fun_induction tokens arguments generalizing ts with
  | case1 =>
      cases h
      simp
  | case2 rest =>
      cases h
      intro token htoken
      rcases List.mem_cons.mp htoken with rfl | htoken
      · trivial
      · obtain ⟨argument, hargument, rfl⟩ := List.mem_map.mp htoken
        exact hfree argument (List.mem_cons_of_mem _ hargument)
  | case3 argument rest _ ih =>
      simp only [bind_eq_ok_iff] at h
      obtain ⟨first, hfirst, others, hothers, hts⟩ := h
      cases hts
      intro token htoken
      rcases List.mem_cons.mp htoken with rfl | htoken
      · exact isNulFree_of_classify (hfree argument List.mem_cons_self) hfirst
      · exact ih (fun other hother => hfree other (List.mem_cons_of_mem _ hother)) hothers token
          htoken

end Tokens

/-- What an argument with switches contributes has no NUL character. -/
structure Contribution.IsNulFree (c : Contribution) : Prop where
  given : ∀ g ∈ c.given, g.IsNulFree
  rest : ∀ token ∈ c.rest, token.IsNulFree

section Contributions

variable {s : Switch} {rest : List Token} {c : Contribution}

/-- A switch with nothing attached takes its value from the next token. -/
theorem isNulFree_of_alone (hrest : ∀ token ∈ rest, token.IsNulFree) (h : alone s rest = .ok c) :
    c.IsNulFree := by
  unfold alone at h
  split at h
  · split at h
    next value rest =>
      cases h
      obtain ⟨hvalue, hrest⟩ := List.forall_mem_cons.mp hrest
      exact ⟨by simpa [Given.IsNulFree, Token.IsNulFree] using hvalue, hrest⟩
    next => cases h
  · cases h
    exact ⟨by simp [Given.IsNulFree], hrest⟩

theorem isNulFree_attachedValue {value : List Char} (hvalue : '\x00' ∉ value) :
    (Given.mk s (attachedValue value)).IsNulFree := by
  unfold attachedValue
  split
  · simp [Given.IsNulFree]
  · simpa [Given.IsNulFree] using hvalue

theorem isNulFree_of_withValue {value : List Char} (hvalue : '\x00' ∉ value)
    (hrest : ∀ token ∈ rest, token.IsNulFree) (h : withValue s value rest = .ok c) :
    c.IsNulFree := by
  unfold withValue at h
  split at h
  · cases h
    exact ⟨by simpa using isNulFree_attachedValue hvalue, hrest⟩
  · cases h

theorem isNulFree_of_map_cons {r : Except UsageFault Contribution}
    (hr : ∀ inner, r = .ok inner → inner.IsNulFree) (h : r.map (.cons s) = .ok c) :
    c.IsNulFree := by
  obtain ⟨inner, hinner, rfl⟩ := map_eq_ok_iff.mp h
  obtain ⟨hgiven, hrest⟩ := hr inner hinner
  exact ⟨by simpa [Contribution.cons, Given.IsNulFree] using hgiven, hrest⟩

/-- One-letter switches written together take what is left of the argument, or the next token. -/
theorem isNulFree_of_together {chars : List Char} (hchars : '\x00' ∉ chars)
    (hrest : ∀ token ∈ rest, token.IsNulFree) (h : together s chars rest = .ok c) :
    c.IsNulFree := by
  induction chars generalizing s c with
  | nil =>
      unfold together at h
      split at h
      · cases h
        exact ⟨by simpa using isNulFree_attachedValue hchars, hrest⟩
      · cases h
  | cons letter more ih =>
      unfold together at h
      split at h
      · cases h
        exact ⟨by simpa using isNulFree_attachedValue hchars, hrest⟩
      · dsimp only at h
        split at h
        · cases h
        · split at h
          · exact isNulFree_of_map_cons (fun _ => isNulFree_of_alone hrest) h
          · exact isNulFree_of_map_cons
              (fun _ => ih fun hnul => hchars (List.mem_cons_of_mem _ hnul)) h

/-- However a value is attached to a switch, it comes from the tokens. -/
theorem isNulFree_of_contribute {attached : Attached} (hattached : attached.IsNulFree)
    (hrest : ∀ token ∈ rest, token.IsNulFree) (h : contribute s attached rest = .ok c) :
    c.IsNulFree := by
  cases attached with
  | nothing => exact isNulFree_of_alone hrest h
  | equals value => exact isNulFree_of_withValue hattached hrest h
  | joined chars => exact isNulFree_of_together hattached hrest h

end Contributions

/-- What has been taken from the arguments has no NUL character. -/
structure Taken.IsNulFree (taken : Taken) : Prop where
  given : ∀ g ∈ taken.given, g.IsNulFree
  modelFile : ∀ file ∈ taken.modelFile, NulFree file

theorem Taken.IsNulFree.give {taken : Taken} (h : taken.IsNulFree) {c : Contribution}
    (hc : c.IsNulFree) : IsNulFree { taken with given := taken.given ++ c.given } where
  given g hg := (List.mem_append.mp hg).elim (h.given g) (hc.given g)
  modelFile := h.modelFile

theorem Taken.IsNulFree.name {taken : Taken} (h : taken.IsNulFree) {text : String}
    (htext : NulFree text) : IsNulFree { taken with modelFile := some text } where
  given := h.given
  modelFile := by simpa using htext

/-- Taking tokens one after another adds no NUL character to what was taken before. -/
theorem isNulFree_of_take {taken after : Taken} {ts : List Token} (htaken : taken.IsNulFree)
    (hts : ∀ token ∈ ts, token.IsNulFree) (h : take taken ts = .ok after) : after.IsNulFree := by
  fun_induction take taken ts with
  | case1 =>
      obtain rfl := Except.ok.inj h
      exact htaken
  | case2 taken text rest ih =>
      exact ih ⟨htaken.given, htaken.modelFile⟩ (List.forall_mem_cons.mp hts).2 h
  | case3 => cases h
  | case4 taken s attached rest c hcontribute =>
      obtain rfl := Except.ok.inj h
      obtain ⟨hattached, hrest⟩ := List.forall_mem_cons.mp hts
      exact htaken.give (isNulFree_of_contribute hattached hrest hcontribute)
  | case5 taken s attached rest c hcontribute _ _ ih =>
      obtain ⟨hattached, hrest⟩ := List.forall_mem_cons.mp hts
      have hc := isNulFree_of_contribute hattached hrest hcontribute
      exact ih (htaken.give hc) hc.rest h
  | case6 taken text rest _ ih =>
      obtain ⟨htext, hrest⟩ := List.forall_mem_cons.mp hts
      refine ih (htaken.name htext) ?_ h
      intro token htoken
      apply hrest
      unfold dropSeparator at htoken
      split at htoken
      · exact List.mem_cons_of_mem _ htoken
      · exact htoken
  | case7 taken text rest _ _ ih =>
      exact ih ⟨htaken.given, htaken.modelFile⟩ (List.forall_mem_cons.mp hts).2 h
  | case8 taken text rest _ ih =>
      obtain ⟨-, hts⟩ := List.forall_mem_cons.mp hts
      obtain ⟨htext, hrest⟩ := List.forall_mem_cons.mp hts
      exact ih (htaken.name htext) hrest h
  | case9 taken text rest _ _ ih =>
      obtain ⟨-, hts⟩ := List.forall_mem_cons.mp hts
      exact ih ⟨htaken.given, htaken.modelFile⟩ (List.forall_mem_cons.mp hts).2 h
  | case10 taken rest _ ih =>
      exact ih ⟨htaken.given, htaken.modelFile⟩ (List.forall_mem_cons.mp hts).2 h

namespace Invocation

/-- The texts that paths are made of have no NUL character. -/
structure IsNulFree (i : Invocation) : Prop where
  modelFile : NulFree i.modelFile
  outputDirectory : ∀ directory ∈ i.outputDirectory, NulFree directory
  moduleName : ∀ name ∈ i.moduleName, NulFree name
  modulePath : NulFree i.modulePath

theorem isNulFree_standard {modelFile : String} (h : NulFree modelFile) :
    (standard modelFile).IsNulFree := by
  refine ⟨h, ?_, ?_, (by decide : NulFree "")⟩
  all_goals
    rintro _ ⟨⟩
    decide

/-- A value replaces one of the texts and leaves the others alone. -/
theorem IsNulFree.apply {i : Invocation} (h : i.IsNulFree) {g : Given} (hg : g.IsNulFree) :
    (i.apply g).IsNulFree := by
  obtain ⟨s, value⟩ := g
  cases s with
  | outputDirectory => exact { h with outputDirectory := hg }
  | «module» => exact { h with moduleName := hg }
  | modulePath =>
      refine { h with modulePath := ?_ }
      cases value with
      | none => exact (by decide : NulFree "")
      | some path => exact hg path rfl
  | _ => exact { h with }

theorem IsNulFree.foldl_apply {given : List Given} (hgiven : ∀ g ∈ given, g.IsNulFree)
    {i : Invocation} (h : i.IsNulFree) : (given.foldl Invocation.apply i).IsNulFree := by
  induction given generalizing i with
  | nil => exact h
  | cons g rest ih =>
      obtain ⟨hg, hrest⟩ := List.forall_mem_cons.mp hgiven
      exact ih hrest (h.apply hg)

/-- What the command line is asked to do names no path with a NUL character, if no argument has one.
-/
theorem isNulFree_of_ofArguments {arguments : List String} {i : Invocation}
    (hfree : ∀ argument ∈ arguments, NulFree argument)
    (h : Request.ofArguments arguments = .ok (.generate i)) : i.IsNulFree := by
  obtain ⟨ts, hts, taken, htake, h⟩ :
      ∃ ts, tokens arguments = .ok ts ∧ ∃ taken, take ⟨[], none, []⟩ ts = .ok taken ∧ _ := by
    simpa only [Request.ofArguments, bind_eq_ok_iff] using h
  have htaken := isNulFree_of_take ⟨by simp, by simp⟩ (isNulFree_of_tokens hfree hts) htake
  split at h
  · cases h
  · split at h
    · cases h
    · split at h
      · cases h
      · cases h
        exact (isNulFree_standard (htaken.modelFile _ ‹_›)).foldl_apply htaken.given

end Invocation

end RubyClasses.CommandLine
