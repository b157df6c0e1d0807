import Rulebook.Proofs.JsonTexts
import Rulebook.Proofs.Result
import Rulebook.Settings

/-!
# Allowed origins as text

The allowed origins may be given as text in two ways, as a JSON list or with commas, in the
environment or as an argument. A text in brackets is tried as JSON first, so a list with commas is
taken as one if it is not in brackets as a whole. Either way the list that was written is found
again, and nothing else that is read depends on it (`Settings.origins_decoded`).
-/

set_option autoImplicit false

namespace Rulebook

/-- What is trimmed are the blanks around a text that neither starts nor ends with one. -/
theorem Text.trim_padded {before s after : List Char} (hbefore : ∀ c ∈ before, isBlank c = true)
    (hafter : ∀ c ∈ after, isBlank c = true) (hfirst : ∀ c ∈ s.head?, isBlank c = false)
    (hlast : ∀ c ∈ s.getLast?, isBlank c = false) (hne : s ≠ []) :
    trim (before ++ s ++ after) = s := by
  have hafter' : ∀ c ∈ after.reverse, isBlank c = true := by
    simpa using hafter
  obtain ⟨c, rest, rfl⟩ := List.exists_cons_of_ne_nil hne
  have hc : ¬ isBlank c = true := by
    simpa using hfirst c rfl
  have hsolid := trim_of_solid hfirst hlast
  unfold trim at hsolid ⊢
  rw [List.dropWhile_cons_of_neg hc] at hsolid
  rw [List.append_assoc, List.dropWhile_append_of_pos hbefore, List.cons_append,
    List.dropWhile_cons_of_neg hc, ← List.cons_append, List.reverse_append,
    List.dropWhile_append_of_pos hafter', hsolid]

namespace Settings

/-! ## Lists with commas -/

/-- A text that can be an item between commas. -/
structure IsItem (s : List Char) : Prop where
  nonempty : s ≠ []
  no_comma : ',' ∉ s
  first : ∀ c ∈ s.head?, Text.isBlank c = false
  last : ∀ c ∈ s.getLast?, Text.isBlank c = false

instance (s : List Char) : Decidable (IsItem s) :=
  decidable_of_iff (s ≠ [] ∧ ',' ∉ s ∧ s.head?.any Text.isBlank = false ∧
      s.getLast?.any Text.isBlank = false) <| by
    rw [Option.any_eq_false, Option.any_eq_false]
    exact ⟨fun h => ⟨h.1, h.2.1, h.2.2.1, h.2.2.2⟩, fun h => ⟨h.1, h.2, h.3, h.4⟩⟩

/-- A text with blanks around it. -/
def IsPadded (padded s : List Char) : Prop :=
  ∃ before after, padded = before ++ s ++ after ∧ (∀ c ∈ before, Text.isBlank c = true) ∧
    ∀ c ∈ after, Text.isBlank c = true

/-- Texts with commas between them, and blanks around each. -/
inductive Joins : List Char → List String → Prop
  | nil : Joins [] []
  | one {part : List Char} {text : String} : IsPadded part text.toList → Joins part [text]
  | cons {part rest : List Char} {text : String} {texts : List String} :
    IsPadded part text.toList → Joins rest texts → texts ≠ [] →
      Joins (part ++ ',' :: rest) (text :: texts)

theorem IsPadded.trim_eq {padded s : List Char} (h : IsPadded padded s) (hs : IsItem s) :
    Text.trim padded = s := by
  obtain ⟨before, after, rfl, hbefore, hafter⟩ := h
  exact Text.trim_padded hbefore hafter hs.first hs.last hs.nonempty

theorem IsPadded.no_comma {padded s : List Char} (h : IsPadded padded s) (hs : IsItem s) :
    ',' ∉ padded := by
  obtain ⟨before, after, rfl, hbefore, hafter⟩ := h
  have hcomma : Text.isBlank ',' = false := by decide
  intro hmem
  rcases List.mem_append.mp hmem with hmem | hmem
  · rcases List.mem_append.mp hmem with hmem | hmem
    · exact absurd ((hbefore ',' hmem).symm.trans hcomma) (by decide)
    · exact hs.no_comma hmem
  · exact absurd ((hafter ',' hmem).symm.trans hcomma) (by decide)

/-- A part between commas gives the item that the blanks were put around. -/
theorem IsPadded.item_eq {part : List Char} {text : String} (h : IsPadded part text.toList)
    (hitem : IsItem text.toList) :
    (if (Text.trim part).isEmpty then none
      else some (Value.text (String.ofList (Text.trim part)))) = some (.text text) := by
  have hnonempty : ¬ text.toList.isEmpty = true := by
    simpa using hitem.nonempty
  rw [h.trim_eq hitem, if_neg hnonempty, String.ofList_toList]

theorem separated_of_joins {s : String} {texts : List String} (h : Joins s.toList texts)
    (hitems : ∀ text ∈ texts, IsItem text.toList) : separated s = texts.map .text := by
  unfold separated
  generalize s.toList = s at h
  induction h with
  | nil => rfl
  | one hpart =>
    have hitem := hitems _ List.mem_cons_self
    rw [List.splitOn_eq_singleton (hpart.no_comma hitem), List.map_singleton,
      List.filterMap_cons, hpart.item_eq hitem]
    rfl
  | cons hpart _ _ ih =>
    have hitem := hitems _ List.mem_cons_self
    rw [List.splitOn_append_cons_self_of_not_mem (hpart.no_comma hitem), List.map_cons,
      List.filterMap_cons, hpart.item_eq hitem, ih fun t ht => hitems t (List.mem_cons_of_mem _ ht)]
    rfl

/-! ## Brackets -/

theorem IsItem.reverse {s : List Char} (h : IsItem s) : IsItem s.reverse where
  nonempty := List.reverse_ne_nil_iff.mpr h.nonempty
  no_comma := fun hmem => h.no_comma (List.mem_reverse.mp hmem)
  first := by simpa using h.last
  last := by simpa using h.first

theorem IsPadded.reverse {padded s : List Char} (h : IsPadded padded s) :
    IsPadded padded.reverse s.reverse := by
  obtain ⟨before, after, rfl, hbefore, hafter⟩ := h
  refine ⟨after.reverse, before.reverse, by simp, ?_, ?_⟩
  · simpa using hafter
  · simpa using hbefore

/-- What is not blank at the start is the start of the item. -/
theorem IsPadded.head?_eq {padded s : List Char} (h : IsPadded padded s) (hs : IsItem s) {c : Char}
    (hc : Text.isBlank c = false) (hhead : padded.head? = some c) : s.head? = some c := by
  obtain ⟨before, after, rfl, hbefore, -⟩ := h
  cases before with
  | nil =>
    obtain ⟨d, rest, rfl⟩ := List.exists_cons_of_ne_nil hs.nonempty
    exact hhead
  | cons d before =>
    obtain rfl := Option.some.inj hhead
    exact absurd ((hbefore d List.mem_cons_self).symm.trans hc) (by decide)

theorem IsPadded.getLast?_eq {padded s : List Char} (h : IsPadded padded s) (hs : IsItem s)
    {c : Char} (hc : Text.isBlank c = false) (hlast : padded.getLast? = some c) :
    s.getLast? = some c := by
  rw [← List.head?_reverse] at hlast ⊢
  exact h.reverse.head?_eq hs.reverse hc hlast

theorem IsPadded.ne_nil {padded s : List Char} (h : IsPadded padded s) (hs : IsItem s) :
    padded ≠ [] := by
  obtain ⟨before, after, rfl, -, -⟩ := h
  simp [hs.nonempty]

section Joined

variable {s : List Char} {texts : List String} {c : Char}

theorem Joins.head?_eq (h : Joins s texts) (hitems : ∀ text ∈ texts, IsItem text.toList)
    (hc : Text.isBlank c = false) (hhead : s.head? = some c) :
    ([','].intercalate (texts.map String.toList)).head? = some c := by
  cases h with
  | nil => exact hhead
  | one hpart =>
    rw [List.map_singleton, List.intercalate_singleton]
    exact hpart.head?_eq (hitems _ List.mem_cons_self) hc hhead
  | cons hpart _ hne =>
    have hitem := hitems _ List.mem_cons_self
    obtain ⟨d, part, rfl⟩ := List.exists_cons_of_ne_nil (hpart.ne_nil hitem)
    have hfirst := hpart.head?_eq hitem hc hhead
    rw [List.map_cons, List.intercalate_cons_of_ne_nil (by simpa using hne), List.head?_append,
      List.head?_append, hfirst]
    rfl

theorem Joins.getLast?_eq (h : Joins s texts) (hitems : ∀ text ∈ texts, IsItem text.toList)
    (hc : Text.isBlank c = false) (hlast : s.getLast? = some c) (hcomma : c ≠ ',') :
    ([','].intercalate (texts.map String.toList)).getLast? = some c := by
  induction h with
  | nil => exact hlast
  | one hpart =>
    rw [List.map_singleton, List.intercalate_singleton]
    exact hpart.getLast?_eq (hitems _ List.mem_cons_self) hc hlast
  | @cons part rest text texts hpart _ hne ih =>
    have hrest : rest.getLast? = some c := by
      rw [List.getLast?_append, List.getLast?_cons] at hlast
      cases hfound : rest.getLast? with
      | none =>
        rw [hfound] at hlast
        exact absurd (Option.some.inj hlast).symm hcomma
      | some d => rwa [hfound] at hlast
    have hjoined := ih (fun t ht => hitems t (List.mem_cons_of_mem text ht)) hrest
    rw [List.map_cons, List.intercalate_cons_of_ne_nil (by simpa using hne), List.getLast?_append,
      hjoined]
    rfl

end Joined

/-- Brackets around the whole are brackets of the first and the last item. -/
theorem isBracketed_of_joins {s : String} {texts : List String} (h : Joins s.toList texts)
    (hitems : ∀ text ∈ texts, IsItem text.toList) (hs : isBracketed s = true) :
    isBracketed (String.intercalate "," texts) = true := by
  have hseparator : ",".toList = [','] := rfl
  unfold isBracketed at hs ⊢
  simp only [Bool.and_eq_true, beq_iff_eq] at hs ⊢
  rw [String.toList_intercalate, hseparator]
  constructor
  · exact h.head?_eq hitems (by decide) hs.1
  · exact h.getLast?_eq hitems (by decide) hs.2 (by decide)

/-! ## Both ways to give origins -/

/-- The ways to give texts as allowed origins: in JSON, or with commas where the whole is not in
brackets. -/
inductive Encodes (text : String) (texts : List String) : Prop
  | json : Json.SpellsTexts text.toList texts → Encodes text texts
  | commas : Joins text.toList texts → (∀ t ∈ texts, IsItem t.toList) →
    isBracketed text = false ∨ isBracketed (String.intercalate "," texts) = false →
      Encodes text texts

theorem asOrigins_of_encodes {text : String} {texts : List String} (h : Encodes text texts) :
    asOrigins (.text text) = .ok (texts.map .text) := by
  cases h with
  | json h =>
    have hbrackets : isBracketed text = true := by
      obtain ⟨inner, hs⟩ := h.brackets
      rw [isBracketed, hs, ← List.cons_append, List.getLast?_concat]
      rfl
    simp [asOrigins, hbrackets, Json.read_eq_of_spellsTexts h]
  | commas h hitems hbrackets =>
    have hplain : isBracketed text = false := by
      rcases hbrackets with hplain | hplain
      · exact hplain
      · apply Bool.eq_false_iff.mpr
        intro hbracketed
        exact absurd (hplain.symm.trans (isBracketed_of_joins h hitems hbracketed)) (by decide)
    simp [asOrigins, hplain, separated_of_joins h hitems]

/-! ## Where settings come from -/

/-- A setting is given as text, as an argument or else in the environment, where later entries
count before earlier ones. -/
inductive Source.Sets (src : Source) (name text : String) : Prop
  | argument : src.arguments.get? name = some (.text text) → Source.Sets src name text
  | environment {before after : List (String × String)} {spelled : String} :
    src.arguments.get? name = none → src.environment = before ++ (spelled, text) :: after →
      sameName spelled name = true → (∀ p ∈ after, sameName p.1 name = false) →
        Source.Sets src name text

/-- The same without a setting. -/
def Source.unset (src : Source) (name : String) : Source where
  environment := src.environment.filter fun p => !sameName p.1 name
  arguments := src.arguments.without [name]

namespace Source

variable {src : Source} {name text : String}

theorem Sets.find?_eq (h : src.Sets name text) : src.find? name = some (.text text) := by
  unfold find?
  cases h with
  | argument h => rw [h]
  | @environment before after spelled harguments hentries hname hafter =>
    have hlater : after.reverse.find? (fun p => sameName p.1 name) = none := by
      rw [List.find?_eq_none]
      intro p hp
      simp [hafter p (List.mem_reverse.mp hp)]
    rw [harguments, hentries, List.reverse_append, List.reverse_cons, List.append_assoc,
      List.find?_append, hlater, Option.none_or, List.singleton_append, List.find?_cons]
    simp [hname]

theorem find?_unset (src : Source) (name : String) : (src.unset name).find? name = none := by
  have harguments : (src.unset name).arguments.get? name = none :=
    (Members.avoids_without src.arguments [name]).get?_eq_none List.mem_cons_self
  have hentries :
      (src.unset name).environment.reverse.find? (fun p => sameName p.1 name) = none := by
    rw [List.find?_eq_none]
    intro p hp
    have hkept := (List.mem_filter.mp (List.mem_reverse.mp hp)).2
    simpa using hkept
  unfold find?
  rw [harguments, hentries]
  rfl

theorem find?_unset_of_ne {other : String} (h : sameName name other = false) :
    (src.unset name).find? other = src.find? other := by
  have hne : other ∉ [name] := by
    intro hmem
    rw [List.mem_singleton.mp hmem] at h
    simp [sameName] at h
  have harguments : (src.unset name).arguments.get? other = src.arguments.get? other := by
    rw [unset, Members.get?_without, if_neg hne]
  have hentries : (src.unset name).environment.reverse.find? (fun p => sameName p.1 other) =
      src.environment.reverse.find? fun p => sameName p.1 other := by
    rw [unset, ← List.filter_reverse, List.find?_filter]
    apply congrArg (List.find? · _)
    funext p
    -- An entry for the other name is none for the one that is left out.
    simp only [sameName, beq_eq_false_iff_ne] at h ⊢
    by_cases hp : p.1.toList.map Char.toLower = other.toList.map Char.toLower
    · simp [hp, Ne.symm h]
    · simp [hp]
  unfold find?
  rw [harguments, hentries]

variable {α : Type} {default : α} {check : Value → Checked α}

theorem setting_unset : (src.unset name).setting name default check = .ok default := by
  rw [setting, find?_unset]

theorem setting_unset_of_ne {other : String} (h : sameName name other = false) :
    (src.unset name).setting other default check = src.setting other default check := by
  rw [setting, setting, find?_unset_of_ne h]

/-- A setting that is given as text is what its check gives. -/
theorem Sets.setting_eq (h : src.Sets name text) :
    src.setting name default check = Checked.under (.key name) (check (.text text)) := by
  rw [setting, h.find?_eq]

theorem noOthers_unset (h : name ∈ names) : (src.unset name).noOthers = src.noOthers := by
  have harguments : (src.arguments.without [name]).without names = src.arguments.without names := by
    unfold Members.without
    rw [List.filter_filter]
    apply List.filter_congr
    intro m _
    by_cases hm : m.1 = name
    · simp [hm, h]
    · simp [hm]
  unfold noOthers
  rw [unset, harguments]

end Source

/-- **Allowed origins are read as the list that was written,** and apart from them everything is
read as if they were not given. -/
theorem origins_decoded {src : Source} {text : String} {texts : List String}
    (hset : src.Sets "CORS_ORIGINS" text) (h : Encodes text texts) :
    read src = (read (src.unset "CORS_ORIGINS")).map fun s =>
      { s with corsOrigins := texts.map .text } := by
  have hgiven : src.setting "CORS_ORIGINS" defaultOrigins asOrigins = .ok (texts.map .text) := by
    rw [hset.setting_eq, asOrigins_of_encodes h]
    rfl
  have hother : ∀ {α : Type} (name : String) (default : α) (check : Value → Checked α),
      sameName "CORS_ORIGINS" name = false →
        (src.unset "CORS_ORIGINS").setting name default check = src.setting name default check := by
    intro α name default check hname
    exact Source.setting_unset_of_ne hname
  unfold read
  rw [hgiven, Source.setting_unset, Source.noOthers_unset (by decide)]
  iterate 12 rw [hother _ _ _ (by decide)]
  -- Both sides apply a function to the other settings, and it is the same function.
  simp only [Checked.map_fst_both, Checked.map_ap, Checked.ap_ok]
  rfl

/-- A list with a comma and a bracket in an item, as JSON in the environment, and a list with blanks
around its items, as an argument. -/
theorem origins_decoded_twice :
    (∃ s, read ⟨[("cors_origins", "[\"a, b]\"]")], []⟩ = .ok s ∧
      s.corsOrigins = [.text "a, b]"]) ∧
    ∃ s, read ⟨[], [("CORS_ORIGINS", .text " a ,[b]")]⟩ = .ok s ∧
      s.corsOrigins = [.text "a", .text "[b]"] := by
  constructor
  · have hset : Source.Sets ⟨[("cors_origins", "[\"a, b]\"]")], []⟩ "CORS_ORIGINS" "[\"a, b]\"]" :=
      @Source.Sets.environment _ _ _ [] [] "cors_origins" rfl rfl (by decide) (by simp)
    have hencodes : Encodes "[\"a, b]\"]" ["a, b]"] :=
      .json (Json.spellsTexts_written ["a, b]"])
    rw [origins_decoded hset hencodes]
    exact ⟨_, rfl, rfl⟩
  · have hset : Source.Sets ⟨[], [("CORS_ORIGINS", .text " a ,[b]")]⟩ "CORS_ORIGINS" " a ,[b]" :=
      .argument rfl
    have hfirst : IsPadded [' ', 'a', ' '] "a".toList :=
      ⟨[' '], [' '], rfl, List.forall_mem_singleton.mpr rfl, List.forall_mem_singleton.mpr rfl⟩
    have hlast : IsPadded ['[', 'b', ']'] "[b]".toList :=
      ⟨[], [], rfl, List.forall_mem_nil _, List.forall_mem_nil _⟩
    have hencodes : Encodes " a ,[b]" ["a", "[b]"] :=
      .commas (.cons hfirst (.one hlast) (List.cons_ne_nil _ _)) (by decide) (.inl (by decide))
    rw [origins_decoded hset hencodes]
    exact ⟨_, rfl, rfl⟩

end Settings

end Rulebook
