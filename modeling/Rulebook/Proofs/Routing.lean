import Mathlib.Data.List.TakeWhile
import Rulebook.Proofs.Escapes
import Rulebook.Service.Request
import Rulebook.Store

/-!
# Where a saved rule is found

The id of a saved rule is the second to last part of the paths under which its source is downloaded
and it is run. Paths are cut at their slashes only after their escapes are resolved, and an id might
hold a slash, an escape or the start of a query. The ids that the database gives out do not: they
are made of hexadecimal digits, so they come out of a path as they went in.
-/

set_option autoImplicit false

namespace Rulebook

namespace Text

/-- A character that stands for itself in the path of an address: it is a single byte, and it
neither starts an escape nor ends a segment or the path. -/
def Verbatim (c : Char) : Prop :=
  c.toNat < 0x80 ∧ c ∉ ['%', '/', '?', '#']

instance (c : Char) : Decidable (Verbatim c) :=
  inferInstanceAs (Decidable (c.toNat < 0x80 ∧ c ∉ ['%', '/', '?', '#']))

theorem verbatim_of_all {s : List Char} (h : s.all (fun c => decide (Verbatim c)) = true) :
    ∀ c ∈ s, Verbatim c :=
  fun c hc => of_decide_eq_true (List.all_eq_true.mp h c hc)

end Text

namespace Database

/-- The digits of a number in base sixteen stand for themselves. -/
theorem verbatim_of_mem_toDigits (n : Nat) : ∀ c ∈ Nat.toDigits 16 n, Text.Verbatim c := by
  have hdigit : ∀ d < 16, Text.Verbatim (Nat.digitChar d) := by decide
  induction n using Nat.strongRecOn with
  | ind n ih =>
    intro c hc
    by_cases hsmall : n < 16
    · rw [Nat.toDigits_of_lt_base hsmall, List.mem_singleton] at hc
      exact hc ▸ hdigit n hsmall
    · rw [Nat.toDigits_of_base_le (by decide) (Nat.le_of_not_lt hsmall), List.mem_append,
        List.mem_singleton] at hc
      rcases hc with hc | rfl
      · exact ih (n / 16) (by omega) c hc
      · exact hdigit (n % 16) (Nat.mod_lt n (by decide))

theorem verbatim_of_mem_idOf (n : Nat) : ∀ c ∈ (idOf n).toList, Text.Verbatim c := by
  intro c hc
  unfold idOf at hc
  rw [String.toList_ofList, List.mem_append] at hc
  rcases hc with hc | hc
  · rw [List.eq_of_mem_replicate hc]
    decide
  · exact verbatim_of_mem_toDigits n c hc

/-- The digits are filled up to 32. -/
theorem length_idOf (n : Nat) : 32 ≤ (idOf n).length := by
  have hlength : (idOf n).length =
      (List.replicate (32 - (Nat.toDigits 16 n).length) '0' ++ Nat.toDigits 16 n).length := by
    rw [← String.length_toList, idOf, String.toList_ofList]
  rw [hlength, List.length_append, List.length_replicate]
  omega

/-- So no id is a text that is shorter. -/
theorem idOf_ne {s : String} (h : s.length < 32) (n : Nat) : idOf n ≠ s := by
  rintro rfl
  exact absurd (length_idOf n) (Nat.not_le.mpr h)

end Database

namespace Request

/-- What stands in joined parts stands in one of them or between them. -/
theorem mem_intercalate {mark c : Char} {parts : List (List Char)}
    (h : c ∈ [mark].intercalate parts) : c = mark ∨ ∃ part ∈ parts, c ∈ part := by
  induction parts with
  | nil => exact absurd h List.not_mem_nil
  | cons part rest ih =>
    cases rest with
    | nil => exact .inr ⟨part, List.mem_cons_self, by simpa [List.intercalate] using h⟩
    | cons next rest =>
      have hjoin : [mark].intercalate (part :: next :: rest) =
          part ++ mark :: [mark].intercalate (next :: rest) := by
        simp [List.intercalate]
      rw [hjoin, List.mem_append, List.mem_cons] at h
      rcases h with h | h | h
      · exact .inr ⟨part, List.mem_cons_self, h⟩
      · exact .inl h
      · rcases ih h with h | ⟨other, hother, h⟩
        · exact .inl h
        · exact .inr ⟨other, List.mem_cons_of_mem part hother, h⟩

/-- Parts of characters that stand for themselves are what a path that they make up is cut into. -/
theorem segments_of_verbatim {method path : String} {body : Body} {parts : List String}
    (hpath : path.toList = ['/'].intercalate (parts.map String.toList)) (hparts : parts ≠ [])
    (hverbatim : ∀ s ∈ parts, ∀ c ∈ s.toList, Text.Verbatim c) :
    (Request.mk method path body).segments = parts := by
  have hchars : ∀ c ∈ path.toList, c ≠ '%' ∧ (c != '?' && c != '#') = true := by
    intro c hc
    rw [hpath] at hc
    rcases mem_intercalate hc with rfl | ⟨part, hpart, hc⟩
    · decide
    · obtain ⟨s, hs, rfl⟩ := List.mem_map.mp hpart
      have hmarks := (hverbatim s hs c hc).2
      simp only [List.mem_cons, List.not_mem_nil, or_false, not_or] at hmarks
      simp [hmarks]
  have hwhole : (path.toList.takeWhile fun c => c != '?' && c != '#') = path.toList :=
    List.takeWhile_eq_self_iff.mpr fun c hc => (hchars c hc).2
  have hdecoded : Text.percentDecoded path.toList = path.toList :=
    Text.percentDecoded_of_not_hasEscape (Text.not_hasEscape fun h => (hchars '%' h).1 rfl)
  have hcut : ∀ part ∈ parts.map String.toList, '/' ∉ part := by
    intro part hpart hslash
    obtain ⟨s, hs, rfl⟩ := List.mem_map.mp hpart
    exact absurd (hverbatim s hs '/' hslash) (by decide)
  have hid : String.ofList ∘ String.toList = id := funext fun _ => String.ofList_toList
  unfold segments
  dsimp only
  rw [hwhole, hdecoded, hpath, List.splitOn_intercalate '/' hcut (by simpa using hparts),
    List.map_map, hid, List.map_id]

/-- Below the path of all rules only the parts that follow matter. -/
theorem segments_below {method path : String} {body : Body} {parts : List String}
    (hpath : path.toList =
      ['/'].intercalate (("" :: "api" :: "rules" :: parts).map String.toList))
    (hverbatim : ∀ s ∈ parts, ∀ c ∈ s.toList, Text.Verbatim c) :
    (Request.mk method path body).segments = "" :: "api" :: "rules" :: parts := by
  apply segments_of_verbatim hpath (List.cons_ne_nil _ _)
  rw [List.forall_mem_cons, List.forall_mem_cons, List.forall_mem_cons]
  exact ⟨Text.verbatim_of_all (by decide), Text.verbatim_of_all (by decide),
    Text.verbatim_of_all (by decide), hverbatim⟩

/-- A rule is saved under the path of all rules, whatever is sent. -/
theorem endpoint_save (body : Body) :
    Endpoint.of "POST" (Request.mk "POST" "/api/rules/" body).segments = .ok .save := by
  have hempty : ∀ s ∈ [""], ∀ c ∈ s.toList, Text.Verbatim c :=
    List.forall_mem_singleton.mpr (Text.verbatim_of_all (by decide))
  rw [segments_below rfl hempty]
  rfl

/-- The path of something that can be asked of the rule with an id. -/
def pathOf (id what : String) : String :=
  "/api/rules/" ++ id ++ "/" ++ what

/-- Such a path is cut into the parts it is made of. -/
theorem segments_pathOf {id what : String} (hid : ∀ c ∈ id.toList, Text.Verbatim c)
    (hwhat : ∀ c ∈ what.toList, Text.Verbatim c) (method : String) (body : Body) :
    (Request.mk method (pathOf id what) body).segments = ["", "api", "rules", id, what] := by
  apply segments_below
  · simp [pathOf, List.intercalate]
  · rw [List.forall_mem_cons, List.forall_mem_singleton]
    exact ⟨hid, hwhat⟩

/-- Under an id that the database gives out the source of a rule is found, and it can be run. -/
theorem endpoint_pathOf (n : Nat) (body : Body) :
    Endpoint.of "GET" (Request.mk "GET" (pathOf (Database.idOf n) "drl") body).segments =
        .ok (.source (Database.idOf n)) ∧
      Endpoint.of "POST" (Request.mk "POST" (pathOf (Database.idOf n) "execute") body).segments =
        .ok (.executeSaved (Database.idOf n)) := by
  have hid := Database.verbatim_of_mem_idOf n
  have hne : Database.idOf n ≠ "" := Database.idOf_ne (by decide) n
  have hdrl : ∀ c ∈ "drl".toList, Text.Verbatim c := Text.verbatim_of_all (by decide)
  have hexecute : ∀ c ∈ "execute".toList, Text.Verbatim c := Text.verbatim_of_all (by decide)
  rw [segments_pathOf hid hdrl, segments_pathOf hid hexecute]
  simp [Endpoint.of, Endpoint.at?, Endpoint.below, hne]

/-- The path of the rule with an id. -/
def rulePath (id : String) : String :=
  "/api/rules/" ++ id

/-- Under an id that the database gives out the rule itself is found: no other path is that long. -/
theorem endpoint_rulePath (n : Nat) (body : Body) :
    Endpoint.of "GET" (Request.mk "GET" (rulePath (Database.idOf n)) body).segments =
      .ok (.fetch (Database.idOf n)) := by
  have hsegments : (Request.mk "GET" (rulePath (Database.idOf n)) body).segments =
      ["", "api", "rules", Database.idOf n] := by
    apply segments_below
    · simp [rulePath, List.intercalate]
    · exact List.forall_mem_singleton.mpr (Database.verbatim_of_mem_idOf n)
  have hempty : Database.idOf n ≠ "" := Database.idOf_ne (by decide) n
  have htemplates : Database.idOf n ≠ "templates" := Database.idOf_ne (by decide) n
  have hvalidate : Database.idOf n ≠ "validate" := Database.idOf_ne (by decide) n
  have hgenerate : Database.idOf n ≠ "generate" := Database.idOf_ne (by decide) n
  have hexecute : Database.idOf n ≠ "execute" := Database.idOf_ne (by decide) n
  have hbelow : Endpoint.below [Database.idOf n] = [("GET", .fetch (Database.idOf n)),
      ("PUT", .update (Database.idOf n)), ("DELETE", .delete (Database.idOf n))] := by
    rw [Endpoint.below]
    · simp [htemplates, hvalidate, hgenerate, hexecute]
    · exact hempty
  rw [hsegments]
  simp [Endpoint.of, Endpoint.at?, hbelow]

end Request

end Rulebook
