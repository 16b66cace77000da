import RubyClasses.Proofs.Name.Letters
import RubyClasses.Proofs.Outline.Lines

/-! # The wording of lines

Two kinds of lines matter to the order of declarations: those that open a class and those that
create an object of one. Most lines are of neither kind, which can be told from their start and from
what follows their first word.
-/

namespace RubyClasses.Line

/-- The lines that open a class, without their indentation. -/
def classLines (lines : List String) : List String :=
  (lines.map unindented).filter (startsWithAny ["class "])

/-- A line assigns a new object of a class to a variable. -/
def Creates (className line : String) : Prop :=
  ∃ target argument, ' ' ∉ target.toList ∧ target ≠ "module" ∧
    line = target ++ " = " ++ className ++ ".new(" ++ argument ++ ")"

/-- The line of a setter that turns an array into a list. -/
def listCreation : String := "list = List.new(list)"

/-- A line does not open a class and creates objects of the given classes only. -/
structure StaysWithin (classes : List String) (line : String) : Prop where
  flush : unindented line = line
  opensNoClass : startsWithAny ["class "] line = false
  creates : ∀ className, Creates className line → line = listCreation ∨ className ∈ classes

/-- A line neither opens a class nor assigns to its first word. -/
def isQuiet (cs : List Char) : Bool :=
  cs.head? != some ' ' && !"class ".toList.isPrefixOf cs &&
    !"= ".toList.isPrefixOf (cs.dropWhile (· != ' ')).tail

theorem unindented_eq_self {line : String} (h : line.toList.head? ≠ some ' ') :
    unindented line = line := by
  rw [unindented]
  cases hline : line.toList with
  | nil => simpa using hline.symm
  | cons c rest =>
      have hc : c ≠ ' ' := by simpa [hline] using h
      rw [List.dropWhile_cons_of_neg (by simpa using hc), ← hline, String.ofList_toList]

theorem startsWithAny_singleton (start line : String) :
    startsWithAny [start] line = start.toList.isPrefixOf line.toList := by
  simp [startsWithAny]

theorem opensNoClass_of_head? {line : String} (h : line.toList.head? ≠ some 'c') :
    startsWithAny ["class "] line = false := by
  rw [startsWithAny_singleton]
  cases hline : line.toList with
  | nil => rfl
  | cons c rest =>
      have hc : 'c' ≠ c := by
        rintro rfl
        simp [hline] at h
      simp [List.isPrefixOf, hc]

/-- A text starts with the first character of its first part. -/
theorem head?_append_ne {start : String} {c d : Char} (hstart : start.toList.head? = some c)
    (hne : c ≠ d) (rest : String) : (start ++ rest).toList.head? ≠ some d := by
  rw [String.toList_append, List.head?_append, hstart]
  simpa using hne

/-- What a line that creates an object says behind its first word. -/
theorem dropWhile_of_creation {target : String} (htarget : ' ' ∉ target.toList)
    (className argument : String) :
    (target ++ " = " ++ className ++ ".new(" ++ argument ++ ")").toList.dropWhile (· != ' ') =
      ' ' :: '=' :: ' ' ::
        (className.toList ++ '.' :: ("new(".toList ++ argument.toList ++ [')'])) := by
  have hword : ∀ c ∈ target.toList, (c != ' ') = true := by
    intro c hc
    simpa using ne_of_mem_of_not_mem hc htarget
  simp only [String.toList_append, List.append_assoc]
  rw [List.dropWhile_append_of_pos hword]
  simp

/-- A line tells which class it creates an object of. -/
theorem Creates.className_eq {target className argument other : String}
    (htarget : ' ' ∉ target.toList) (hname : '.' ∉ className.toList)
    (hargument : '.' ∉ argument.toList)
    (h : Creates other (target ++ " = " ++ className ++ ".new(" ++ argument ++ ")")) :
    other = className := by
  obtain ⟨first, given, hfirst, -, hline⟩ := h
  have hrest := congrArg (fun line => line.toList.dropWhile (· != ' ')) hline
  simp only [dropWhile_of_creation htarget, dropWhile_of_creation hfirst, List.cons.injEq,
    true_and] at hrest
  rw [List.append_cons_inj_of_notMem hname (by simpa using hargument)] at hrest
  exact String.toList_injective hrest.1.symm

/-- A line may create objects of the given classes, and of lists. -/
def CreatesWithin (classes : List String) (line : String) : Prop :=
  ∀ className, Creates className (unindented line) →
    unindented line = listCreation ∨ className ∈ classes

@[simp]
theorem createsWithin_indented {classes : List String} {level : Nat} {line : String} :
    CreatesWithin classes (Buffer.indented level line) ↔ CreatesWithin classes line := by
  simp only [CreatesWithin, unindented_indented]

theorem classLines_append (first second : List String) :
    classLines (first ++ second) = classLines first ++ classLines second := by
  simp [classLines]

namespace StaysWithin

variable {classes : List String}

theorem createsWithin {line : String} (h : StaysWithin classes (unindented line)) :
    CreatesWithin classes line := h.creates

theorem classLines_eq_nil {lines : List String}
    (h : ∀ line ∈ lines, StaysWithin classes (unindented line)) : classLines lines = [] := by
  rw [classLines, List.filter_eq_nil_iff]
  intro text hmem
  obtain ⟨line, hline, rfl⟩ := List.mem_map.mp hmem
  rw [(h line hline).opensNoClass]
  exact Bool.false_ne_true

theorem of_isQuiet {line : String} (h : isQuiet line.toList = true) :
    StaysWithin classes line := by
  simp only [isQuiet, Bool.and_eq_true, bne_iff_ne, Bool.not_eq_true'] at h
  obtain ⟨⟨hhead, hclass⟩, hgap⟩ := h
  refine ⟨unindented_eq_self hhead, by rw [startsWithAny_singleton, hclass], ?_⟩
  rintro className ⟨target, argument, htarget, -, rfl⟩
  rw [dropWhile_of_creation htarget] at hgap
  simp at hgap

/-- The creation of an object ends with a closing parenthesis. -/
theorem of_end {front last : String} {c : Char} (hlast : last.toList.getLast? = some c)
    (hc : c ≠ ')') (hflush : (front ++ last).toList.head? ≠ some ' ')
    (hclass : (front ++ last).toList.head? ≠ some 'c') : StaysWithin classes (front ++ last) := by
  refine ⟨unindented_eq_self hflush, opensNoClass_of_head? hclass, ?_⟩
  rintro className ⟨target, argument, -, -, hline⟩
  have hend := congrArg (fun line => line.toList.getLast?) hline
  simp only [String.toList_append, List.getLast?_append, hlast, Option.some_or] at hend
  exact absurd (Option.some.inj hend) hc

/-- A line that opens a module creates no object, whatever the module is called. -/
theorem of_module (name : String) : StaysWithin classes ("module " ++ name) := by
  refine ⟨unindented_eq_self (head?_append_ne (c := 'm') (by decide) (by decide) _),
    opensNoClass_of_head? (head?_append_ne (c := 'm') (by decide) (by decide) _), ?_⟩
  rintro className ⟨target, argument, htarget, hkeyword, hline⟩
  have hword := congrArg (fun line => line.toList.takeWhile (· != ' ')) hline
  have hchars : ∀ c ∈ target.toList, (c != ' ') = true := by
    intro c hc
    simpa using ne_of_mem_of_not_mem hc htarget
  simp only [String.append_assoc, String.toList_append,
    List.takeWhile_append_of_pos hchars] at hword
  refine absurd (String.toList_injective ?_) hkeyword
  simpa using hword.symm

/-- A line may create objects of the given classes. -/
theorem of_creation (target argument : String) {name first last : String} {c : Char}
    (hname : name ∈ classes) (hdotless : '.' ∉ name.toList) (hfirst : first = target ++ " = ")
    (hlast : last = ".new(" ++ argument ++ ")") (htarget : ' ' ∉ target.toList)
    (hargument : '.' ∉ argument.toList) (hstart : target.toList.head? = some c) (hclass : c ≠ 'c') :
    StaysWithin classes (first ++ name ++ last) := by
  have hflush : c ≠ ' ' := by
    rintro rfl
    exact htarget (List.mem_of_mem_head? hstart)
  have hline : first ++ name ++ last = target ++ (" = " ++ name ++ last) := by
    rw [hfirst, String.append_assoc, String.append_assoc, String.append_assoc]
  refine ⟨?_, ?_, ?_⟩
  · rw [hline]
    exact unindented_eq_self (head?_append_ne hstart hflush _)
  · rw [hline]
    exact opensNoClass_of_head? (head?_append_ne hstart hclass _)
  · intro className hcreates
    rw [hfirst, hlast, ← String.append_assoc, ← String.append_assoc] at hcreates
    rw [hcreates.className_eq htarget hdotless hargument]
    exact .inr hname

end StaysWithin

end RubyClasses.Line
