import Rulebook.Proofs.Failing
import Rulebook.Proofs.Linking
import Rulebook.Proofs.Numbering
import Rulebook.Proofs.SavedRuns

/-!
# Saving under the name of the rule

The name and the description of a rule may be values of any kind. In the graph they count as their
texts, and a graph is valid if the text of the name is not blank. What is saved is not this text but
the value, and a text column makes a text of its own of it, or refuses it. `Value.KeepsText` says of
which values the two are the same, and `Service.saves_under_own_name_iff` that a valid graph can be
saved under its own name exactly when it has such a name and such a description.
-/

set_option autoImplicit false

namespace Rulebook

/-! ## Values in text columns -/

namespace Value

/-- A text column keeps of a value the text that it counts as. Zeros do not get that far: they are
taken for no value. -/
def KeepsText : Value → Prop
  | .text _ => True
  | .int n => n ≠ 0 ∧ -0x8000000000000000 ≤ n ∧ n < 0x8000000000000000
  | .double d => d.columnText? = some d.display
  | _ => False

instance : DecidablePred KeepsText
  | .text _ => isTrue trivial
  | .int n =>
    inferInstanceAs (Decidable (n ≠ 0 ∧ -0x8000000000000000 ≤ n ∧ n < 0x8000000000000000))
  | .double d => inferInstanceAs (Decidable (d.columnText? = some d.display))
  | .absent | .null | .bool _ | .list _ | .object _ => isFalse id

/-- A value, or a text if the value counts as none. -/
def orText (v : Value) (fallback : String) : Value :=
  if v.isTruthy then v else .text fallback

/-- Zero counts as the text `0`, and a column has a point in it. -/
theorem display_of_zero {d : Double} (h : d.toRat? = some 0) :
    d.display = "0" ∧ d.columnText? ≠ some "0" := by
  cases d with
  | nan => exact nomatch h
  | infinity negative => exact nomatch h
  | finite negative m e hcanonical =>
    have hmagnitude : Double.magnitude m e = 0 := by
      cases negative <;> simpa [Double.toRat?] using h
    have hm : m = 0 := by
      have hpower : (2 : Rat) ^ e ≠ 0 := zpow_ne_zero e (by decide)
      simpa [Double.magnitude, hpower] using hmagnitude
    subst hm
    cases negative <;> simp [Double.display, Double.write, Double.columnText?]

/-- What counts as given is kept with the text that it counts as when it keeps its text. -/
theorem keptAs_iff_of_isTruthy {v : Value} {core : String} (h : v.isTruthy = true)
    (hcore : v.fieldText = .ok core) : v.KeptAs core ↔ v.KeepsText := by
  cases v with
  | absent | null => exact nomatch h
  | bool b =>
    -- The core has `true` where a column writes `1`.
    obtain rfl : b = true := h
    obtain rfl : "true" = core := Except.ok.inj hcore
    exact iff_of_false (by simp [KeptAs, columnText?]) id
  | int n =>
    obtain ⟨-, rfl⟩ : n.natAbs < digitBound ∧ toString n = core := by
      change displayInt n = .ok core at hcore
      unfold displayInt at hcore
      split_ifs at hcore with hlong
      exact ⟨Nat.lt_of_not_le hlong, Except.ok.inj hcore⟩
    have hn : n ≠ 0 := by simpa [isTruthy] using h
    simp [KeptAs, columnText?, KeepsText, hn]
  | double d =>
    obtain rfl : d.display = core := Except.ok.inj hcore
    show Except.ok d.columnText? = Except.ok (some d.display) ↔ _
    rw [Except.ok.injEq]
    exact Iff.rfl
  | text s =>
    obtain rfl : s = core := Except.ok.inj hcore
    exact iff_of_true rfl trivial
  -- These have texts, but no column takes them.
  | list items => exact iff_of_false (by simp [KeptAs, columnText?]) id
  | object ms => exact iff_of_false (by simp [KeptAs, columnText?]) id

/-- What does not count as given has no text, or one of four texts that no column keeps. -/
theorem falsy_cases {v : Value} {core : String} (h : v.isTruthy = false)
    (hcore : v.fieldText = .ok core) :
    core = "" ∧ (v = .null ∨ v = .list [] ∨ v = .text "") ∨
      core ∈ ["undefined", "false", "0", "[object Object]"] ∧ ¬ v.KeepsText ∧ v ≠ .null ∧
        v ≠ .list [] := by
  cases v with
  | absent =>
    obtain rfl : "undefined" = core := Except.ok.inj hcore
    exact .inr ⟨by simp, id, nofun, nofun⟩
  | null =>
    obtain rfl : "" = core := Except.ok.inj hcore
    exact .inl ⟨rfl, .inl rfl⟩
  | bool b =>
    obtain rfl : b = false := h
    obtain rfl : "false" = core := Except.ok.inj hcore
    exact .inr ⟨by simp, id, nofun, nofun⟩
  | int n =>
    obtain rfl : n = 0 := by simpa [isTruthy] using h
    have hzero : displayInt 0 = .ok "0" := displayInt_of_lt (by decide)
    obtain rfl : "0" = core := Except.ok.inj (hzero.symm.trans hcore)
    exact .inr ⟨by simp, fun hkeeps => hkeeps.1 rfl, nofun, nofun⟩
  | double d =>
    have hzero : d.toRat? = some 0 := by simpa [isTruthy] using h
    obtain ⟨hdisplay, hcolumn⟩ := display_of_zero hzero
    obtain rfl : d.display = core := Except.ok.inj hcore
    refine .inr ⟨by simp [hdisplay], ?_, nofun, nofun⟩
    intro hkeeps
    exact hcolumn (hdisplay ▸ hkeeps)
  | text s =>
    obtain rfl : s = "" := by simpa [isTruthy] using h
    obtain rfl : "" = core := Except.ok.inj hcore
    exact .inl ⟨rfl, .inr (.inr rfl)⟩
  | list items =>
    obtain rfl : items = [] := by simpa [isTruthy] using h
    obtain rfl : "" = core := Except.ok.inj hcore
    exact .inl ⟨rfl, .inr (.inl rfl)⟩
  | object ms =>
    obtain rfl : "[object Object]" = core := Except.ok.inj hcore
    exact .inr ⟨by simp, id, nofun, nofun⟩

/-- **A name that is not blank** is kept with the text that it counts as when it keeps its text. -/
theorem name_keptAs_iff {v : Value} {core : String} (hcore : v.fieldText = .ok core)
    (hfilled : Text.isBlankText core = false) :
    (v.orText "Untitled Rule").KeptAs core ↔ v.KeepsText := by
  unfold orText
  cases htruthy : v.isTruthy with
  | true => exact keptAs_iff_of_isTruthy htruthy hcore
  | false =>
    rcases falsy_cases htruthy hcore with ⟨rfl, -⟩ | ⟨hother, hkeeps, -, -⟩
    · exact nomatch hfilled
    · refine iff_of_false ?_ hkeeps
      rintro (rfl : core = "Untitled Rule")
      exact absurd hother (by decide)

/-- **A description** also when it is null or an empty list, which count as no text. -/
theorem description_keptAs_iff {v : Value} {core : String} (hcore : v.fieldText = .ok core) :
    (v.orText "").KeptAs core ↔ v = .null ∨ v = .list [] ∨ v.KeepsText := by
  unfold orText
  cases htruthy : v.isTruthy with
  | true =>
    rw [if_pos rfl, keptAs_iff_of_isTruthy htruthy hcore]
    constructor
    · exact fun hkeeps => .inr (.inr hkeeps)
    · rintro (rfl | rfl | hkeeps)
      · exact nomatch htruthy
      · exact nomatch htruthy
      · exact hkeeps
  | false =>
    rcases falsy_cases htruthy hcore with ⟨rfl, hempty⟩ | ⟨hother, hkeeps, hnull, hlist⟩
    · refine iff_of_true rfl ?_
      rcases hempty with rfl | rfl | rfl
      · exact .inl rfl
      · exact .inr (.inl rfl)
      · exact .inr (.inr trivial)
    · refine iff_of_false ?_ (by simp [hnull, hlist, hkeeps])
      rintro (rfl : core = "")
      exact absurd hother (by decide)

end Value

/-! ## What is saved -/

namespace SaveRequest

/-- The name that a request gives. An empty one counts as none. -/
def givenName (q : SaveRequest) : Option String :=
  q.name.filter (· != "")

theorem savedName_eq (q : SaveRequest) :
    q.savedName = (q.givenName.map Value.text).getD (q.dataName.orText "Untitled Rule") := by
  unfold savedName givenName
  cases q.name with
  | none => rfl
  | some s =>
    by_cases hs : s = ""
    · simp [hs, savedName.fallback, Value.orText, Option.filter]
    · simp [hs, Option.filter]

theorem savedDescription_eq (q : SaveRequest) :
    q.savedDescription = (q.description.map Value.text).getD (q.dataDescription.orText "") := by
  unfold savedDescription
  cases q.description <;> rfl

/-- The description is always there, so no other one is put in its place. -/
theorem given?_savedDescription (q : SaveRequest) :
    q.savedDescription.given? = some q.savedDescription := by
  rw [savedDescription_eq, Value.orText]
  cases q.description with
  | some s => rfl
  | none =>
    split_ifs with htruthy
    · cases hvalue : q.dataDescription with
      | null => rw [hvalue] at htruthy; exact nomatch htruthy
      | _ => rfl
    · rfl

/-- What the node's data hold is what the first rule of the graph is made of. -/
theorem fieldText_of_first {q : SaveRequest} {g : Graph} {r : Placed Rule}
    (hgraph : q.drawing.toGraph = .ok g) (hfirst : g.rules.head? = some r) :
    q.dataName.fieldText = .ok r.content.name ∧
      q.dataDescription.fieldText = .ok r.content.description := by
  obtain ⟨n, hn, hname, hdescription⟩ := Drawing.exists_first_of_rules hgraph hfirst
  unfold dataName dataDescription Drawing.firstRuleData
  rw [hn]
  exact ⟨hname, hdescription⟩

end SaveRequest

namespace Service

/-- A request is answered with success, and it has stored one new rule with a name and a
description. -/
def SavesAs (db : Database) (a : Arrival) (name description : String) : Prop :=
  ∃ rule body, (handle db a.now a.request).2 = .ok (.json 200 body) ∧
    (handle db a.now a.request).1.store = ⟨db.store.rules ++ [rule]⟩ ∧
    db.store.get? rule.id = none ∧ rule.name = name ∧ rule.description = description

section Saving

variable {db : Database} {a : Arrival} {q : SaveRequest} {g : Graph}

theorem handle_of_read (hasks : a.Asks .save)
    (hread : decoded a.request.body SaveRequest.ofValue = .ok q) :
    handle db a.now a.request = save db a.now q := by
  rw [answer_of_asks hasks]
  simp only [answer, checkedAnswer, hread]

/-- A valid drawing is stored as what its columns keep, under the next id. -/
theorem save_eq_of_storedAs {now : Timestamp} {rule : SavedRule}
    (hgraph : q.drawing.toGraph = .ok g) (hvalid : g.isValid = true)
    (hstored : q.draft.StoredAs rule) (hfree : db.store.get? rule.id = none)
    (hid : rule.id = Database.idOf db.nextId) (hcreated : rule.createdAt = now)
    (hupdated : rule.updatedAt = now) :
    save db now q = (⟨⟨db.store.rules ++ [rule]⟩, db.nextId + 1⟩,
      changedReply "Rule saved successfully" rule) := by
  have hadd : db.store.add now (Database.idOf db.nextId) q.draft =
      .ok (⟨db.store.rules ++ [rule]⟩, rule) :=
    Store.add_eq_ok.mpr
      ⟨Store.contains_eq_false.mpr (hid ▸ hfree), hstored, hid, hcreated, hupdated, rfl⟩
  simp only [save, graphOf, hgraph, Except.mapError, hvalid, if_true, Database.add,
    Option.getD_none, hadd]

/-- **When a valid drawing is saved under a name and a description**: when these are what its
columns keep, and its nodes and edges can be written out. -/
theorem savesAs_iff (hnumbered : db.Numbered) (hasks : a.Asks .save)
    (hread : decoded a.request.body SaveRequest.ofValue = .ok q)
    (hgraph : q.drawing.toGraph = .ok g) (hvalid : g.isValid = true) {name description : String} :
    SavesAs db a name description ↔
      q.savedName.KeptAs name ∧ q.savedDescription.KeptAs description ∧
        q.draft.nodes.isWritable = true ∧ q.draft.edges.isWritable = true := by
  have hdescription : (q.draft.description.given?.getD (.text "")) = q.savedDescription := by
    show (q.savedDescription.given?.getD (.text "")) = _
    rw [q.given?_savedDescription, Option.getD_some]
  unfold SavesAs
  rw [handle_of_read hasks hread]
  constructor
  · -- A success has stored one rule, and what its columns keep is all there is to it.
    rintro ⟨rule, body, hreply, hstore, -, rfl, rfl⟩
    obtain ⟨-, stored, -, -, hstored, -, -, hstore', -⟩ := save_success hreply
    have hrules : db.store.rules ++ [rule] = db.store.rules ++ [stored] :=
      Store.mk.inj (hstore.symm.trans hstore')
    obtain rfl : rule = stored := by simpa using hrules
    exact ⟨hstored.name, hdescription ▸ hstored.description, hstored.nodesWritable,
      hstored.edgesWritable⟩
  · rintro ⟨hname, hdesc, hnodes, hedges⟩
    have hstored : q.draft.StoredAs ⟨Database.idOf db.nextId, name, description, q.draft.nodes,
        q.draft.edges, a.now, a.now⟩ :=
      ⟨hname, hdescription ▸ hdesc, rfl, rfl, hnodes, hedges⟩
    have hsave := save_eq_of_storedAs hgraph hvalid hstored hnumbered.get?_idOf rfl rfl rfl
    rw [hsave]
    exact ⟨_, _, changedReply_of_writable _ (SavedRule.writable_of_storedAs hstored), rfl,
      hnumbered.get?_idOf, rfl, rfl⟩

end Saving

/-- **When a valid graph can be saved under its own name.** After any requests, a request to save a
drawing with a valid graph is answered with success and stores one new rule under the name that the
request gives, or else the name of the first rule of the graph, and under the description that it
gives, or else that of the first rule, exactly when the node's data hold a name and a description
that keep their texts where none are given, and nodes and edges can be written out. -/
theorem saves_under_own_name_iff (earlier : List Arrival) {a : Arrival} {q : SaveRequest}
    {g : Graph} (hasks : a.Asks .save) (hread : decoded a.request.body SaveRequest.ofValue = .ok q)
    (hgraph : q.drawing.toGraph = .ok g) (hvalid : g.isValid = true) :
    ∃ r, g.rules.head? = some r ∧
      (SavesAs (after .empty earlier) a (q.givenName.getD r.content.name)
          (q.description.getD r.content.description) ↔
        (q.givenName = none → q.dataName.KeepsText) ∧
        (q.description = none → q.dataDescription = .null ∨ q.dataDescription = .list [] ∨
          q.dataDescription.KeepsText) ∧
        q.draft.nodes.isWritable = true ∧ q.draft.edges.isWritable = true) := by
  have hcomplete := Graph.isValid_iff_complete.mp hvalid
  obtain ⟨r, hfirst⟩ := Option.ne_none_iff_exists'.mp
    (mt List.head?_eq_none_iff.mp hcomplete.hasRule)
  obtain ⟨hname, hdescription⟩ := SaveRequest.fieldText_of_first hgraph hfirst
  -- A name that counts as none would be blank, and the graph not valid.
  have hfilled := hcomplete.named r (List.mem_of_head? hfirst)
  refine ⟨r, hfirst, ?_⟩
  rw [savesAs_iff (after_numbered earlier) hasks hread hgraph hvalid, q.savedName_eq,
    q.savedDescription_eq]
  refine and_congr ?_ (and_congr ?_ Iff.rfl)
  · cases q.givenName with
    | none => simpa using Value.name_keptAs_iff hname hfilled
    | some s => exact iff_of_true rfl nofun
  · cases q.description with
    | none => simpa using Value.description_keptAs_iff hdescription
    | some s => exact iff_of_true rfl nofun

/-- A drawing of a rule with a name of any kind. -/
def drawnAs (name : Value) : Drawing where
  nodes := [⟨"r", "rule", [("name", name)], []⟩,
    ⟨"c", "condition", [("field", .text "a"), ("operator", .text "=="), ("value", .text "1")], []⟩,
    ⟨"x", "action", [("type", .text "deleteFact"), ("target", .text "a"), ("value", .text "1")],
      []⟩]
  edges := [⟨none, "r", "c", []⟩, ⟨none, "r", "x", []⟩]

/-- A request that saves the drawing and gives it no other name. -/
def naming (name : Value) : Arrival where
  now := ⟨0⟩
  request := ⟨"POST", "/api/rules/", .tree (.object
    [("nodes", .list ((drawnAs name).nodes.map DrawnNode.toValue)),
      ("edges", .list ((drawnAs name).edges.map DrawnEdge.toValue))])⟩

theorem naming_asks (name : Value) : (naming name).Asks .save :=
  Request.endpoint_save _

theorem naming_read (name : Value) :
    decoded (naming name).request.body SaveRequest.ofValue = .ok ⟨drawnAs name, none, none⟩ := by
  rfl

/-- Its graph, with the text that the name counts as. -/
def graphAs (name : String) : Graph where
  nodes := [⟨"r", .rule ⟨name, "", 0⟩⟩, ⟨"c", .condition ⟨"a", "==", "1"⟩⟩,
    ⟨"x", .action ⟨"deleteFact", "a", "1"⟩⟩]
  edges := [⟨"r", "c", none⟩, ⟨"r", "x", none⟩]

theorem drawnAs_toGraph {name : Value} {core : String} (h : name.fieldText = .ok core) :
    (drawnAs name).toGraph = .ok (graphAs core) := by
  have hrule : DrawnNode.toNode? ⟨"r", "rule", [("name", name)], []⟩ =
      .ok (some ⟨"r", .rule ⟨core, "", 0⟩⟩) :=
    bind_eq_ok.mpr ⟨core, h, rfl⟩
  refine bind_eq_ok.mpr ⟨(graphAs core).nodes.map some, ?_, rfl⟩
  rw [drawnAs, List.mapM_cons]
  exact bind_eq_ok.mpr ⟨_, hrule, rfl⟩

/-- A name that is a whole number is kept with its digits. -/
theorem saves_under_own_name_counting :
    SavesAs (after .empty [saving]) (naming (.int 42)) "42" "" := by
  have hcore : (Value.int 42).fieldText = .ok "42" := displayInt_of_lt (n := 42) (by decide)
  have hgraph := drawnAs_toGraph hcore
  obtain ⟨r, hfirst, hiff⟩ := saves_under_own_name_iff [saving] (naming_asks _) (naming_read _)
    hgraph (by decide)
  obtain rfl := Option.some.inj (hfirst.symm.trans rfl)
  have hnodes : (Value.list ((drawnAs (.int 42)).nodes.map DrawnNode.toValue)).isWritable = true := by
    simp [drawnAs, DrawnNode.toValue, Value.isWritable, Value.allWritable,
      Value.allMembersWritable, lt_digitBound_of_lt]
  exact hiff.mpr ⟨fun _ => by decide, fun _ => .inl rfl, hnodes, rfl⟩

/-- **A valid graph need not be saved under its own name.** With `true` for a name the graph is
named `true`, and the rule is stored as `1`. With a list for a name the graph is named by its item,
and the request fails. -/
theorem own_name_lost :
    (∀ name, (naming name).Asks .save) ∧
    (∃ q g, decoded (naming (.bool true)).request.body SaveRequest.ofValue = .ok q ∧
      q.givenName = none ∧ q.drawing.toGraph = .ok g ∧ g.isValid = true ∧
      g.rules.head?.map (·.content.name) = some "true" ∧
      (handle .empty (naming (.bool true)).now (naming (.bool true)).request).1.store.rules.map
        (·.name) = ["1"]) ∧
    ∃ q g, decoded (naming (.list [.text "a"])).request.body SaveRequest.ofValue = .ok q ∧
      q.givenName = none ∧ q.drawing.toGraph = .ok g ∧ g.isValid = true ∧
      g.rules.head?.map (·.content.name) = some "a" ∧
      ¬ Succeeds (handle .empty (naming (.list [.text "a"])).now
        (naming (.list [.text "a"])).request).2 := by
  have hshown : (drawnAs (.bool true)).toGraph = .ok (graphAs "true") := drawnAs_toGraph rfl
  have hjoined : (drawnAs (.list [.text "a"])).toGraph = .ok (graphAs "a") := drawnAs_toGraph rfl
  refine ⟨naming_asks,
    ⟨_, _, naming_read (.bool true), rfl, hshown, by decide, rfl, ?_⟩,
    _, _, naming_read (.list [.text "a"]), rfl, hjoined, by decide, rfl, ?_⟩
  · with_unfolding_all rfl
  · with_unfolding_all decide

end Service

end Rulebook
