import RubyClasses.Accessors
import RubyClasses.Proofs.Script.Effects
import RubyClasses.Proofs.Source.Substitution

/-! # Scripts that write outlines

A script that only writes lines, blocks and modules has an outline as its effect. A script that may
raise a fault as well realizes a result: it writes the outline, or it raises the fault and what it
wrote before does not matter.
-/

namespace RubyClasses

namespace Effect

/-- What comes behind the first fault is left out, however the effects are grouped. -/
theorem andThen_assoc (a b c : Effect) : (a.andThen b).andThen c = a.andThen (b.andThen c) := by
  cases ha : a.fault with
  | some fault => simp [andThen, ha]
  | none =>
      cases hb : b.fault with
      | some fault => simp [andThen, ha, hb]
      | none => simp [andThen, ha, hb, Outline.append_assoc]

end Effect

namespace Script

/-- One script after another. -/
def append : Script → Script → Script
  | done, after => after
  | act action next, after => act action (append next after)
  | module name body next, after => module name body (append next after)
  | block header args closer body next, after => block header args closer body (append next after)

instance : Append Script := ⟨append⟩

/-- Scripts one after another. -/
def join (scripts : List Script) : Script := scripts.foldr append done

/-- What two scripts do one after another is what the first one does and then the second one. -/
theorem effect_append (first second : Script) :
    (first ++ second).effect = first.effect.andThen second.effect := by
  change (first.append second).effect = _
  induction first with
  | done => rfl
  | act action next ih => rw [append, effect, ih, effect, Effect.andThen_assoc]
  | module name body next _ ih => rw [append, effect, ih, effect, Effect.andThen_assoc]
  | block header args closer body next _ ih =>
      simp only [append, effect]
      cases Template.line header args with
      | error fault => rfl
      | ok text => rw [ih, Effect.andThen_assoc]

theorem IsScoped.append {first second : Script} (hfirst : first.IsScoped)
    (hsecond : second.IsScoped) : (first ++ second).IsScoped := by
  change (first.append second).IsScoped
  induction hfirst with
  | done => exact hsecond
  | act haction _ ih => exact .act haction ih
  | module hbody _ _ ih => exact .module hbody ih
  | block hbody _ _ ih => exact .block hbody ih

/-- A line as it stands. -/
def plain (text : String) : Script := .act (.write text []) .done

/-- A line with texts in it. -/
def filled (template : String) (texts : List String) : Script :=
  .act (.write template (texts.map .text)) .done

/-- A block behind a header with texts in it. -/
def around (header : String) (texts : List String) (body : Script) : Script :=
  .block header (texts.map .text) "end" body .done

/-- A script inside the modules of a name. -/
def inside (name : String) (body : Script) : Script := .module name body .done

/-- A script that does nothing but raise a fault. -/
def raising (fault : MemberFault) : Script := .act (.fail fault.message) .done

/-- A script writes an outline and does nothing else. -/
structure Writes (script : Script) (o : Outline) : Prop where
  isScoped : script.IsScoped
  effect_eq : script.effect = ⟨o, [], none⟩

/-- A script writes the outline of a result or raises its fault. -/
inductive Realizes (script : Script) : Except MemberFault Outline → Prop
  | writes {o : Outline} : script.Writes o → Realizes script (.ok o)
  | raises {fault : MemberFault} : script.IsScoped → script.effect.requires = [] →
      script.effect.fault = some (.raised fault.message) → Realizes script (.error fault)

/-- A script writes the outline of a result or raises its fault before it has done anything. -/
inductive Decides (script : Script) : Except MemberFault Outline → Prop
  | writes {o : Outline} : script.Writes o → Decides script (.ok o)
  | refuses {fault : MemberFault} : script.IsScoped →
      script.effect = .failed (.raised fault.message) → Decides script (.error fault)

variable {first second body : Script} {o p : Outline} {text : String} {texts : List String}

namespace Writes

theorem plain (text : String) : (plain text).Writes (.line text .done) :=
  ⟨.act (.write ..) .done, rfl⟩

/-- A line with texts in it is written as its template spells it with the texts. -/
theorem filled {template : String} (htexts : texts ≠ [])
    (h : Template.substitute template.toList texts = some text.toList) :
    (filled template texts).Writes (.line text .done) := by
  refine ⟨.act (.write ..) .done, ?_⟩
  simp only [Script.filled, effect, Action.effect, Template.line_eq_of_substitute texts htexts h]
  rfl

/-- One after another, scripts write their outlines one after another. -/
theorem append (hfirst : first.Writes o) (hsecond : second.Writes p) :
    (first ++ second).Writes (o ++ p) := by
  refine ⟨hfirst.isScoped.append hsecond.isScoped, ?_⟩
  rw [effect_append, hfirst.effect_eq, hsecond.effect_eq]
  rfl

theorem join {α : Type} {script : α → Script} {outline : α → Outline} {items : List α}
    (h : ∀ item ∈ items, (script item).Writes (outline item)) :
    (join (items.map script)).Writes (Outline.join (items.map outline)) := by
  induction items with
  | nil => exact ⟨.done, rfl⟩
  | cons item rest ih =>
      have hrest := ih fun other hmem => h other (List.mem_cons_of_mem _ hmem)
      exact (h item List.mem_cons_self).append hrest

/-- Scripts of one line each write a list of lines. -/
theorem lines {α : Type} {script : α → Script} {text : α → String}
    (h : ∀ item, (script item).Writes (.line (text item) .done)) (items : List α) :
    (Script.join (items.map script)).Writes (Outline.ofLines (items.map text)) := by
  induction items with
  | nil => exact ⟨.done, rfl⟩
  | cons item rest ih => exact (h item).append ih

theorem plainLines (texts : List String) :
    (Script.join (texts.map Script.plain)).Writes (Outline.ofLines texts) := by
  simpa using lines Writes.plain texts

theorem inside (name : String) (h : body.Writes o) :
    (inside name body).Writes (.module name o .done) := by
  refine ⟨.module h.isScoped .done, ?_⟩
  rw [Script.inside, effect, h.effect_eq]
  rfl

/-- A block is an outline with a header and a closing line, whatever stands in it. -/
theorem around {header : String} (hheader : Template.line header (texts.map .text) = .ok text)
    (h : body.Writes o) : (around header texts body).Writes (Outline.ofBlock text o) := by
  refine ⟨.block h.isScoped .done, ?_⟩
  simp only [Script.around, effect, hheader, h.effect_eq]
  rfl

end Writes

namespace Realizes

variable {r q : Except MemberFault Outline}

theorem isScoped (h : body.Realizes r) : body.IsScoped := by
  cases h with
  | writes hwrites => exact hwrites.isScoped
  | raises hscoped _ _ => exact hscoped

/-- What comes behind a fault is not reached. -/
theorem append (hfirst : first.Realizes r) (hsecond : second.Realizes q) :
    (first ++ second).Realizes (do return (← r) ++ (← q)) := by
  have hscoped := hfirst.isScoped.append hsecond.isScoped
  have heffect := effect_append first second
  cases hfirst with
  | raises _ hrequires hfault =>
      rw [Effect.andThen, hfault] at heffect
      exact .raises hscoped (heffect ▸ hrequires) (heffect ▸ hfault)
  | writes hwrites =>
      cases hsecond with
      | writes hwrites' => exact .writes (hwrites.append hwrites')
      | raises _ hrequires hfault =>
          rw [hwrites.effect_eq] at heffect
          exact .raises hscoped (heffect ▸ hrequires) (heffect ▸ hfault)

/-- A result does not depend on the modules around it. -/
theorem inside (name : String) (h : body.Realizes r) :
    (inside name body).Realizes (r.map fun o => .module name o .done) := by
  cases h with
  | writes hwrites => exact .writes (hwrites.inside name)
  | raises hscoped hrequires hfault =>
      have heffect : (Script.inside name body).effect =
          body.effect.within fun inner => .module name inner .done := by
        rw [Script.inside, effect, effect, Effect.andThen]
        simp [Effect.within, hfault]
      exact .raises (.module hscoped .done) (heffect ▸ hrequires) (heffect ▸ hfault)

theorem around {header : String} (hheader : Template.line header (texts.map .text) = .ok text)
    (h : body.Realizes r) : (around header texts body).Realizes (r.map (Outline.ofBlock text)) := by
  cases h with
  | writes hwrites => exact .writes (hwrites.around hheader)
  | raises hscoped hrequires hfault =>
      have heffect : (Script.around header texts body).effect =
          body.effect.within fun inner => .block text "end" inner .done := by
        simp [Script.around, effect, hheader, Effect.andThen, Effect.within, hfault]
      exact .raises (.block hscoped .done) (heffect ▸ hrequires) (heffect ▸ hfault)

/-- Scripts for some items realize the results of the items up to the first fault. -/
theorem join {α : Type} {script : α → Script} {step : α → Except MemberFault Outline}
    {items : List α} (h : ∀ item ∈ items, (script item).Realizes (step item)) :
    (join (items.map script)).Realizes ((items.mapM step).map Outline.join) := by
  induction items with
  | nil => exact .writes ⟨.done, rfl⟩
  | cons item rest ih =>
      have hrest := ih fun other hmem => h other (List.mem_cons_of_mem _ hmem)
      have hall := (h item List.mem_cons_self).append hrest
      have hresult : ((item :: rest).mapM step).map Outline.join =
          (do return (← step item) ++ (← (rest.mapM step).map Outline.join)) := by
        rw [List.mapM_cons]
        cases step item with
        | error fault => rfl
        | ok o => cases rest.mapM step <;> rfl
      rw [hresult]
      exact hall

end Realizes

namespace Decides

variable {r q : Except MemberFault Outline}

theorem isScoped (h : body.Decides r) : body.IsScoped := by
  cases h with
  | writes hwrites => exact hwrites.isScoped
  | refuses hscoped _ => exact hscoped

/-- A script that decides before it does anything realizes what it decides. -/
theorem realizes (h : body.Decides r) : body.Realizes r := by
  cases h with
  | writes hwrites => exact .writes hwrites
  | refuses hscoped heffect => exact .raises hscoped (heffect ▸ rfl) (heffect ▸ rfl)

theorem raising (fault : MemberFault) : (raising fault).Decides (.error fault) :=
  .refuses (.act (.fail _) .done) rfl

/-- What a script decides stands, if what comes behind it is not refused any more. -/
theorem append (hfirst : first.Decides r) (hsecond : second.Decides q)
    (hstands : ∀ o fault, r = .ok o → q ≠ .error fault) :
    (first ++ second).Decides (do return (← r) ++ (← q)) := by
  cases hfirst with
  | refuses hscoped heffect =>
      refine .refuses (hscoped.append hsecond.isScoped) ?_
      rw [effect_append, heffect]
      rfl
  | writes hwrites =>
      cases hsecond with
      | writes hwrites' => exact .writes (hwrites.append hwrites')
      | refuses => exact absurd rfl (hstands _ _ rfl)

theorem append_writes (hfirst : first.Decides r) (hsecond : second.Writes p) :
    (first ++ second).Decides (do return (← r) ++ p) :=
  hfirst.append (.writes hsecond) (by simp)

end Decides

end Script

end RubyClasses
