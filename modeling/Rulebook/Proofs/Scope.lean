import Mathlib.Data.List.Nodup
import Rulebook.Proofs.Linking
import Rulebook.Proofs.Rereading

/-!
# The variables of a rule source

A pattern declares a variable, and most statements use one. The names of both come from the objects
of conditions and actions, and nothing compares them: a second condition on an object declares its
variable again, and an action on an object that no condition is about uses a variable that is not
declared. `Graph.variables_scoped` says which variables these are, and so when they are well scoped.

What is declared and used is read off the lines as they are written, not off the documents they were
written from. A variable is the name after the sign that the line opens with; names have no
characters that could follow them there.
-/

set_option autoImplicit false

namespace Rulebook

/-! ## Names -/

namespace Text

/-- Whether a character may stand in a name. -/
def isNameChar (c : Char) : Bool :=
  inRanges nameStartRanges c.toNat || inRanges nameContinueRanges c.toNat

theorem all_isNameChar {cs : List Char} (h : isName cs = true) : ∀ c ∈ cs, isNameChar c = true := by
  cases cs with
  | nil => exact nofun
  | cons c cs =>
    rw [isName, Bool.and_eq_true, List.all_eq_true] at h
    rw [List.forall_mem_cons]
    refine ⟨by rw [isNameChar, h.1, Bool.true_or], fun d hd => ?_⟩
    rw [isNameChar, h.2 d hd, Bool.or_true]

theorem not_inRanges_of_lt {ranges : Array (Nat × Nat)} {k n : Nat}
    (hfirst : (ranges.all fun r => decide (k ≤ r.1)) = true) (h : n < k) :
    inRanges ranges n = false := by
  rw [inRanges, Array.any_eq_false']
  intro r hr hcovers
  have hk := of_decide_eq_true (Array.all_eq_true'.mp hfirst r hr)
  rw [Bool.and_eq_true, decide_eq_true_eq] at hcovers
  omega

theorem inRanges_of_mem {ranges : Array (Nat × Nat)} {r : Nat × Nat} {n : Nat} (h : r ∈ ranges)
    (hfirst : r.1 ≤ n) (hlast : n ≤ r.2) : inRanges ranges n = true := by
  rw [inRanges, Array.any_eq_true']
  exact ⟨r, h, Bool.and_eq_true_iff.mpr ⟨decide_eq_true hfirst, decide_eq_true hlast⟩⟩

set_option maxRecDepth 4000 in
/-- Digits are the first characters that names may have. The marks that follow them in the lines of
the template come before. -/
theorem not_isNameChar_of_lt {c : Char} (h : c.toNat < 0x30) : isNameChar c = false := by
  have hstart : (nameStartRanges.all fun r => decide (0x30 ≤ r.1)) = true := by
    rw [← Array.all_toList]
    rfl
  have hcontinue : (nameContinueRanges.all fun r => decide (0x30 ≤ r.1)) = true := by
    rw [← Array.all_toList]
    rfl
  rw [isNameChar, not_inRanges_of_lt hstart h, not_inRanges_of_lt hcontinue h, Bool.or_false]

set_option maxRecDepth 4000 in
/-- A word of small letters is a name. -/
theorem isName_of_isLower {cs : List Char} (hne : cs.isEmpty = false)
    (h : cs.all Char.isLower = true) : isName cs = true := by
  have hstart : (0x61, 0x7A) ∈ nameStartRanges := Array.mem_of_getElem? (i := 2) rfl
  have hcontinue : (0x61, 0x7A) ∈ nameContinueRanges := Array.mem_of_getElem? (i := 3) rfl
  have hletter : ∀ c ∈ cs, 0x61 ≤ c.toNat ∧ c.toNat ≤ 0x7A := by
    intro c hc
    have hlower := Bool.and_eq_true_iff.mp (List.all_eq_true.mp h c hc)
    exact hlower.imp of_decide_eq_true of_decide_eq_true
  cases cs with
  | nil => exact nomatch hne
  | cons c rest =>
    obtain ⟨hc, hrest⟩ := List.forall_mem_cons.mp hletter
    rw [isName, inRanges_of_mem hstart hc.1 hc.2, Bool.true_and, List.all_eq_true]
    exact fun d hd => inRanges_of_mem hcontinue (hrest d hd).1 (hrest d hd).2

end Text

/-- Whether every key of a path is a name. -/
def Path.IsNamed (path : String) : Prop :=
  ∀ key ∈ segments path, Text.isName key.toList = true

instance (path : String) : Decidable (Path.IsNamed path) :=
  inferInstanceAs (Decidable (∀ key ∈ Path.segments path, Text.isName key.toList = true))

/-- Whether every key of a path is a word of small letters. -/
def Path.isLower (path : String) : Bool :=
  (segments path).all fun key => !key.toList.isEmpty && key.toList.all Char.isLower

theorem Path.isNamed_of_isLower {path : String} (h : isLower path = true) : IsNamed path := by
  intro key hkey
  have hkey := List.all_eq_true.mp h key hkey
  rw [Bool.and_eq_true, Bool.not_eq_true'] at hkey
  exact Text.isName_of_isLower hkey.1 hkey.2

/-- The object that a condition is about. -/
def Condition.object (c : Condition) : String :=
  (Drl.splitPath c.field).1

/-- The object that an action is about. -/
def Action.object (a : Action) : String :=
  (Drl.splitPath a.target).1

/-- Whether an action is done to its object. Insertions make a new one, and what is not known is not
done at all. -/
def Action.usesObject (a : Action) : Bool :=
  match ActionKind.ofTag? a.tag with
  | some .insertFact | none => false
  | some _ => true

namespace Drl

/-! ## Variables -/

/-- The name at the start of a text. -/
def variableAt (cs : List Char) : String :=
  .ofList (cs.takeWhile Text.isNameChar)

/-- The variable that the line of a pattern declares. -/
def declared? (line : String) : Option String :=
  (line.toList.dropPrefix? (indent ++ "$").toList).map variableAt

/-- How the lines begin that use a variable. -/
def openings : List String :=
  [indent ++ "$", indent ++ "delete($", indent ++ "modify($", indent ++ "update($"]

/-- The variable that a line uses. -/
def used? (line : String) : Option String :=
  openings.findSome? fun opening => (line.toList.dropPrefix? opening.toList).map variableAt

/-- The variables that the patterns of a rule declare. -/
def declared (r : LinkedRule) : List String :=
  (Document.ofLinked r).whenLines.filterMap declared?

/-- The variables that the statements of a rule use. -/
def used (r : LinkedRule) : List String :=
  (Document.ofLinked r).thenLines.filterMap used?

/-- The first key of a path is its object. -/
theorem splitPath_object_mem (path : String) : (splitPath path).1 ∈ Path.segments path := by
  have hhead : ∀ cs : List Char, ∃ rest, cs.splitOn '.' = cs.takeWhile (· != '.') :: rest := by
    intro cs
    induction cs with
    | nil => exact ⟨[], List.splitOn_nil '.'⟩
    | cons c cs ih =>
      obtain ⟨rest, hcs⟩ := ih
      rw [List.splitOn_cons_eq_if_modifyHead, hcs, List.takeWhile_cons]
      by_cases hc : c = '.'
      · exact ⟨cs.takeWhile (· != '.') :: rest, by simp [hc]⟩
      · exact ⟨rest, by simp [hc]⟩
  obtain ⟨rest, hpath⟩ := hhead path.toList
  rw [Path.segments, hpath]
  exact List.mem_cons_self

/-- **Reading a name.** It ends before what cannot be part of it. -/
theorem variableAt_append {name : String} (h : Text.isName name.toList = true) {c : Char}
    (hc : c.toNat < 0x30) (rest : List Char) : variableAt (name.toList ++ c :: rest) = name := by
  have hmark := Text.not_isNameChar_of_lt hc
  rw [variableAt, List.takeWhile_append_of_pos (Text.all_isNameChar h),
    List.takeWhile_cons_of_neg (by simp [hmark]), List.append_nil, String.ofList_toList]

theorem dropPrefix?_append (before rest : List Char) :
    (before ++ rest).dropPrefix? before = some rest :=
  List.dropPrefix?_eq_some_iff.mpr ⟨before, rfl, beq_self_eq_true before⟩

theorem declared?_line {b : Binding} (h : Text.isName b.object.toList = true) :
    declared? b.line = some b.object := by
  have hline : b.line.toList = (indent ++ "$").toList ++ (b.object.toList ++ ' ' ::
      (": " ++ Text.capitalizeFirst b.object ++ "(" ++ b.property ++ " " ++ b.operator ++ " " ++
        b.literal ++ ")").toList) := by
    simp [Binding.line]
  rw [declared?, hline, dropPrefix?_append, Option.map_some,
    variableAt_append h (c := ' ') (by decide)]

/-- **The variable of a statement.** Only the line that a statement starts with has one. -/
theorem filterMap_used?_ofAction {a : Action} (h : Text.isName a.object.toList = true) :
    (Statement.ofAction a).lines.filterMap used? = if a.usesObject then [a.object] else [] := by
  -- The name ends at the point of a call or a setter, or else at a parenthesis.
  have hpoint := variableAt_append h (c := '.') (by decide)
  have hparenthesis := variableAt_append h (c := ')') (by decide)
  unfold Action.object at hpoint hparenthesis ⊢
  unfold Statement.ofAction Action.usesObject
  cases ActionKind.ofTag? a.tag with
  | none => simp [Statement.lines, used?, openings, indent, List.dropPrefix?]
  | some kind =>
    cases kind <;>
      simp [Statement.lines, used?, openings, indent, List.dropPrefix?, hpoint, hparenthesis]

theorem used?_update {object : String} (h : Text.isName object.toList = true) :
    used? (indent ++ "update($" ++ object ++ ");") = some object := by
  have hparenthesis := variableAt_append h (c := ')') (by decide)
  simp [used?, openings, indent, List.dropPrefix?, hparenthesis]

/-! ## Blocks -/

section Rules

variable {r : LinkedRule}

theorem declared_eq (h : ∀ c ∈ r.conditions, Text.isName c.content.object.toList = true) :
    declared r = r.conditions.map (·.content.object) := by
  unfold declared
  by_cases hnil : r.conditions = []
  · rw [Document.whenLines_of_nil hnil, hnil]
    rfl
  · have hline : ∀ c ∈ r.conditions,
        declared? (Binding.ofCondition c.content).line = some c.content.object :=
      fun c hc => declared?_line (h c hc)
    rw [Document.whenLines_of_ne_nil hnil, List.filterMap_map, Function.comp_def,
      List.filterMap_congr hline]
    exact congrFun List.filterMap_eq_map r.conditions

theorem filterMap_used?_statements {as : List (Placed Action)}
    (h : ∀ a ∈ as, Text.isName a.content.object.toList = true) :
    ((as.map fun a => Statement.ofAction a.content).flatMap (·.lines)).filterMap used? =
      (as.filter (·.content.usesObject)).map (·.content.object) := by
  induction as with
  | nil => rfl
  | cons a as ih =>
    rw [List.forall_mem_cons] at h
    rw [List.map_cons, List.flatMap_cons, List.filterMap_append, ih h.2,
      filterMap_used?_ofAction h.1, List.filter_cons]
    split_ifs <;> rfl

theorem used_eq (h : ∀ a ∈ r.actions, Text.isName a.content.object.toList = true) :
    used r = (r.actions.filter (·.content.usesObject)).map (·.content.object) ++
      (r.actions.take 1).map (·.content.object) := by
  unfold used Document.thenLines
  rw [Document.ofLinked_statements, List.isEmpty_map]
  split_ifs with hempty
  · rw [List.isEmpty_iff.mp hempty]
    rfl
  · rw [List.filterMap_append, filterMap_used?_statements h, List.append_cancel_left_eq]
    unfold Document.ofLinked
    cases hactions : r.actions with
    | nil => exact absurd (List.isEmpty_iff.mpr hactions) hempty
    | cons a as =>
      have hname := h a (hactions ▸ List.mem_cons_self)
      have hobject : orElse (splitPath a.content.target).1 "object" = a.content.object := by
        refine if_neg fun hempty => ?_
        rw [Action.object, hempty] at hname
        exact nomatch hname
      simp [hobject, used?_update hname]

theorem mem_declared_iff (h : ∀ c ∈ r.conditions, Text.isName c.content.object.toList = true)
    {x : String} : x ∈ declared r ↔ ∃ c ∈ r.conditions, c.content.object = x := by
  rw [declared_eq h, List.mem_map]

/-- A variable is used by an action on it, or in the last line, whatever the first action does. -/
theorem mem_used_iff (h : ∀ a ∈ r.actions, Text.isName a.content.object.toList = true)
    {x : String} : x ∈ used r ↔ ∃ a ∈ r.actions,
      (a.content.usesObject = true ∨ r.actions.head? = some a) ∧ a.content.object = x := by
  rw [used_eq h, List.mem_append]
  constructor
  · rintro (hx | hx)
    · obtain ⟨a, ha, hobject⟩ := List.mem_map.mp hx
      obtain ⟨ha, huses⟩ := List.mem_filter.mp ha
      exact ⟨a, ha, .inl huses, hobject⟩
    · obtain ⟨a, ha, hobject⟩ := List.mem_map.mp hx
      rw [List.take_one, Option.mem_toList] at ha
      exact ⟨a, List.mem_of_head? ha, .inr ha, hobject⟩
  · rintro ⟨a, ha, huses | hfirst, hobject⟩
    · exact .inl (List.mem_map.mpr ⟨a, List.mem_filter.mpr ⟨ha, huses⟩, hobject⟩)
    · obtain ⟨as, has⟩ := List.head?_eq_some_iff.mp hfirst
      exact .inr (by simp [has, hobject])

end Rules

end Drl

namespace Graph

/-- Whether the paths of all conditions and actions are names with points between them. -/
structure PathsNamed (g : Graph) : Prop where
  conditions : ∀ c ∈ g.conditions, Path.IsNamed c.content.field
  actions : ∀ a ∈ g.actions, Path.IsNamed a.content.target

namespace PathsNamed

variable {g : Graph} {r : LinkedRule}

theorem of_isLower (hconditions : g.conditions.all (Path.isLower ·.content.field) = true)
    (hactions : g.actions.all (Path.isLower ·.content.target) = true) : g.PathsNamed where
  conditions := fun c hc => Path.isNamed_of_isLower (List.all_eq_true.mp hconditions c hc)
  actions := fun a ha => Path.isNamed_of_isLower (List.all_eq_true.mp hactions a ha)

/-- Then the linked conditions and actions are about objects with names. -/
theorem objects (h : g.PathsNamed) (hlink : g.link = some r) :
    (∀ c ∈ r.conditions, Text.isName c.content.object.toList = true) ∧
      ∀ a ∈ r.actions, Text.isName a.content.object.toList = true := by
  obtain ⟨-, hconditions, hactions⟩ := link_eq_some hlink
  rw [hconditions, hactions]
  constructor
  · intro c hc
    exact h.conditions c (List.mem_filter.mp hc).1 _ (Drl.splitPath_object_mem _)
  · intro a ha
    exact h.actions a (List.mem_filter.mp ha).1 _ (Drl.splitPath_object_mem _)

end PathsNamed

/-- **Which variables the source of a valid graph has.** It declares the object of each linked
condition, and it uses the object of each action that is done to it, and once more that of the first
action. So no variable is declared twice exactly when no two conditions share an object, and all
that are used are declared exactly when these actions are about objects of conditions. -/
theorem variables_scoped {g : Graph} (hvalid : g.isValid = true) (hnamed : g.PathsNamed) :
    ∃ r, g.link = some r ∧
      Drl.declared r = r.conditions.map (·.content.object) ∧
      Drl.used r = (r.actions.filter (·.content.usesObject)).map (·.content.object) ++
        (r.actions.take 1).map (·.content.object) ∧
      ((∀ x, (Drl.declared r).count x ≤ 1) ↔
        r.conditions.Pairwise fun c d => c.content.object ≠ d.content.object) ∧
      ((∀ x ∈ Drl.used r, x ∈ Drl.declared r) ↔
        ∀ a ∈ r.actions, a.content.usesObject = true ∨ r.actions.head? = some a →
          ∃ c ∈ r.conditions, c.content.object = a.content.object) := by
  obtain ⟨rule, hrule⟩ := Option.ne_none_iff_exists'.mp
    (mt List.head?_eq_none_iff.mp (isValid_iff_complete.mp hvalid).hasRule)
  obtain ⟨r, hlink⟩ : ∃ r, g.link = some r := ⟨_, by rw [link, hrule]; rfl⟩
  obtain ⟨hobjects, htargets⟩ := hnamed.objects hlink
  refine ⟨r, hlink, Drl.declared_eq hobjects, Drl.used_eq htargets, ?_, ?_⟩
  · rw [Drl.declared_eq hobjects, ← List.nodup_iff_count_le_one, List.Nodup, List.pairwise_map]
  · constructor
    · intro hscoped a ha huses
      have hused := (Drl.mem_used_iff htargets).mpr ⟨a, ha, huses, rfl⟩
      exact (Drl.mem_declared_iff hobjects).mp (hscoped _ hused)
    · intro hbound x hx
      obtain ⟨a, ha, huses, rfl⟩ := (Drl.mem_used_iff htargets).mp hx
      exact (Drl.mem_declared_iff hobjects).mpr (hbound a ha huses)

/-- A graph with the given conditions and actions, all of its one rule. -/
def ofRule (conditions : List Condition) (actions : List Action) : Graph where
  nodes := ⟨"r", .rule ⟨"Scoping", "", 1⟩⟩ ::
    (conditions.map fun c => ⟨"c", .condition c⟩) ++ actions.map fun a => ⟨"a", .action a⟩
  edges := [⟨"r", "c", none⟩, ⟨"r", "a", none⟩]

/-- One condition for each object, and actions on these objects and on a new one. -/
def scoping : Graph :=
  ofRule [⟨"order.kind", "==", "new"⟩, ⟨"customer.age", ">=", "18"⟩]
    [⟨"modifyFact", "customer.level", "2"⟩, ⟨"insertFact", "audit.entry", "new"⟩,
      ⟨"callMethod", "order.total", "sum"⟩]

theorem variables_scoped_scoping :
    ∃ r, scoping.link = some r ∧ Drl.declared r = ["order", "customer"] ∧
      Drl.used r = ["customer", "order", "customer"] ∧
      (∀ x, (Drl.declared r).count x ≤ 1) ∧ ∀ x ∈ Drl.used r, x ∈ Drl.declared r := by
  have hnamed : scoping.PathsNamed := .of_isLower rfl rfl
  obtain ⟨r, hlink, hdeclared, hused, hdistinct, hbound⟩ := variables_scoped (by decide) hnamed
  obtain rfl := Option.some.inj (hlink.symm.trans rfl)
  exact ⟨_, rfl, hdeclared, hused, hdistinct.mpr (by decide), hbound.mpr (by decide)⟩

/-- Two conditions on one object, and an action on another one. -/
def crossing : Graph :=
  ofRule [⟨"order.kind", "==", "new"⟩, ⟨"order.amount", ">", "100"⟩]
    [⟨"setProperty", "customer.level", "gold"⟩]

/-- **Validation does not look at variables.** The graph is valid and all its names are in order,
but its source declares one variable twice and uses another one that it does not declare. -/
theorem not_valid_scoped :
    (crossing.isValid = true ∧ crossing.PathsNamed ∧
      (∀ c ∈ crossing.conditions, 2 ≤ (Path.segments c.content.field).length ∧
        Operator.ofTag? c.content.operator ≠ none) ∧
      ∀ a ∈ crossing.actions, 2 ≤ (Path.segments a.content.target).length ∧
        ActionKind.ofTag? a.content.tag ≠ none) ∧
    ∃ r, crossing.link = some r ∧ (Drl.declared r).count "order" = 2 ∧
      "customer" ∈ Drl.used r ∧ "customer" ∉ Drl.declared r := by
  have hnamed : crossing.PathsNamed := .of_isLower rfl rfl
  obtain ⟨r, hlink⟩ : ∃ r, crossing.link = some r := ⟨_, rfl⟩
  obtain ⟨hobjects, htargets⟩ := hnamed.objects hlink
  refine ⟨⟨by decide, hnamed, by decide, by decide⟩, r, hlink, ?_⟩
  rw [Drl.declared_eq hobjects, Drl.used_eq htargets]
  obtain rfl := Option.some.inj hlink
  decide

end Graph

end Rulebook
