import Rulebook.Engine
import Rulebook.Proofs.Display
import Rulebook.Proofs.Drivers
import Rulebook.Proofs.Escapes
import Rulebook.Proofs.Readback

/-!
# Settings in the address of a server

Where a host is set, the address of the database is put together from user, password, host, port and
name just as they are, and taken apart again when the engine is made. Each part ends where a certain
character comes first, and what is found of user and password has its escapes resolved. So a part is
found again exactly if it does not hold the characters that end it and, for user and password, no
escape (`DatabaseUrl.Separable`). `Engine.carries_settings_iff` says this of the engine that the
settings lead to.
-/

set_option autoImplicit false

namespace Rulebook

/-! ## Ports -/

namespace Numeral

theorem ungroup?_of_not_mem {cs : List Char} (h : '_' ∉ cs) (afterDigit : Bool) :
    ungroup? afterDigit cs = some cs := by
  induction cs generalizing afterDigit with
  | nil => rfl
  | cons c cs ih =>
    have hc : c ≠ '_' := fun hc => h (hc ▸ List.mem_cons_self)
    have hrest := ih (fun hmem => h (List.mem_cons_of_mem c hmem)) (Text.isDigit c)
    rw [ungroup?, hrest, Option.map_some]
    · exact fun _ _ hmark => absurd hmark hc
    · exact fun hmark => absurd hmark hc

/-- An integer is read back from its digits. -/
theorem integer?_toString (n : Int) : integer? (toString n).toList = some n := by
  obtain ⟨ds, hds, hrun, hvalue⟩ := exists_run_toDigits n.natAbs
  have htrim : Text.trim (toString n).toList = (toString n).toList := by
    have hsolid := (spellsDecimal_toString n).isBlank
    apply Text.trim_of_solid
    · exact fun c hc => hsolid c (List.mem_of_mem_head? hc)
    · exact fun c hc => hsolid c (List.mem_of_mem_getLast? hc)
  have hungroup : ungroup? false (Nat.toDigits 10 n.natAbs) = some (Nat.toDigits 10 n.natAbs) := by
    apply ungroup?_of_not_mem
    intro hmem
    exact absurd (Nat.isDigit_of_mem_toDigits (by decide) (by decide) hmem) (by decide)
  have hdigits : digits (Nat.toDigits 10 n.natAbs) = (ds, []) := by
    simpa using digits_append hrun [] (by simp)
  have hsign : sign (toString n).toList = (decide (n < 0), Nat.toDigits 10 n.natAbs) := by
    have hhead : ∀ c ∈ (Nat.toDigits 10 n.natAbs).head?, c ≠ '-' ∧ c ≠ '+' := by
      simpa using hrun.head_ne_sign hds []
    rw [toList_toString]
    split_ifs with hnegative
    · simp [sign, hnegative]
    · simpa [hnegative] using sign_append .none hhead
  unfold integer?
  rw [htrim, hsign]
  simp only [hungroup, Option.bind_eq_bind, Option.bind_some, hdigits]
  cases ds with
  | nil => exact absurd rfl hds
  | cons d ds =>
    simp only [hvalue, decide_eq_true_eq, Option.some.injEq]
    split_ifs <;> omega

end Numeral

namespace DatabaseUrl

/-- **A port is read back from its digits,** if it can be written at all. -/
theorem readPort_toString {n : Int} (h : n.natAbs < digitBound) :
    readPort (toString n).toList = .ok n := by
  have hnonempty : (toString n).toList.isEmpty = false := by
    rw [Numeral.toList_toString]
    split_ifs
    · rfl
    · exact List.isEmpty_eq_false_iff.mpr Nat.toDigits_ne_nil
  have hcount : (toString n).toList.countP Text.isDigit ≤ portDigitLimit := by
    have hlimit : digitBound = 10 ^ portDigitLimit := by
      unfold digitBound portDigitLimit
      generalize 4300 = limit
      rfl
    have hlength : (Nat.toDigits 10 n.natAbs).length ≤ portDigitLimit := by
      rw [Nat.length_toDigits_le_iff (by decide) (by decide), ← hlimit]
      exact h
    rw [Numeral.toList_toString]
    split_ifs
    · rw [List.countP_cons_of_neg (by decide)]
      exact List.countP_le_length.trans hlength
    · exact List.countP_le_length.trans hlength
  rw [readPort, hnonempty, Numeral.integer?_toString]
  exact if_neg (Nat.not_lt.mpr hcount)

/-! ## Where a part ends -/

section Parts

variable {p : Char → Bool} {part rest : List Char} {mark : Char}

/-- A part ends at the first character that ends it. -/
theorem takeWhile_part (hpart : ∀ c ∈ part, p c = true) (hmark : p mark = false) :
    (part ++ mark :: rest).takeWhile p = part := by
  rw [List.takeWhile_append_of_pos hpart, List.takeWhile_cons_of_neg (by simp [hmark]),
    List.append_nil]

theorem dropWhile_part (hpart : ∀ c ∈ part, p c = true) (hmark : p mark = false) :
    (part ++ mark :: rest).dropWhile p = mark :: rest := by
  rw [List.dropWhile_append_of_pos hpart, List.dropWhile_cons_of_neg (by simp [hmark])]

/-- What is found of a part is all of it only if nothing in it ends it. -/
theorem forall_of_length_le_takeWhile
    (h : part.length ≤ ((part ++ rest).takeWhile p).length) : ∀ c ∈ part, p c = true := by
  induction part with
  | nil => simp
  | cons c part ih =>
    by_cases hc : p c = true
    · rw [List.cons_append, List.takeWhile_cons_of_pos hc, List.length_cons, List.length_cons,
        Nat.add_le_add_iff_right] at h
      exact List.forall_mem_cons.mpr ⟨hc, ih h⟩
    · rw [List.cons_append, List.takeWhile_cons_of_neg hc] at h
      exact absurd h (Nat.not_succ_le_zero _)

/-- A text is split at the last of the marks in it. -/
theorem splitLast?_eq_some {s before after : List Char}
    (h : splitLast? mark s = some (before, after)) :
    s = before ++ mark :: after ∧ mark ∉ after := by
  have hsplit := List.takeWhile_append_dropWhile (p := fun c => c != mark) (l := s.reverse)
  have hstop := List.head?_dropWhile_not (fun c => c != mark) s.reverse
  unfold splitLast? at h
  split at h
  · next c front hdrop =>
    obtain ⟨rfl, rfl⟩ := Prod.mk.inj (Option.some.inj h)
    obtain rfl : c = mark := by simpa [hdrop] using hstop
    constructor
    · rw [hdrop] at hsplit
      simpa using congrArg List.reverse hsplit.symm
    · intro hmem
      simpa using List.mem_takeWhile_imp (List.mem_reverse.mp hmem)
  · exact absurd h (by simp)

theorem exists_splitLast? {s : List Char} (h : mark ∈ s) :
    ∃ before after, splitLast? mark s = some (before, after) := by
  unfold splitLast?
  split
  · exact ⟨_, _, rfl⟩
  · next hdrop =>
    have hall := List.dropWhile_eq_nil_iff.mp hdrop mark (List.mem_reverse.mpr h)
    exact absurd hall (by simp)

end Parts

theorem introduced?_cons (start : Char) (ends : Char → Bool) (rest : List Char) :
    introduced? start ends (start :: rest) =
      (some (rest.takeWhile (!ends ·)), rest.dropWhile (!ends ·)) := by
  simp [introduced?]

/-! ## User and password -/

/-- A user that holds no character that ends it is found, and the password up to the first `@`. -/
theorem credentials_eq {user s : List Char} (huser : ∀ c ∈ user, c ≠ ':' ∧ c ≠ '/')
    (hs : '@' ∈ s) :
    credentials (user ++ ':' :: s) =
      (some user, some (s.takeWhile (· != '@')), (s.dropWhile (· != '@')).tail) := by
  have hpart : ∀ c ∈ user, (!(c == ':' || c == '/')) = true := by
    intro c hc
    simp [huser c hc]
  have htake : (user ++ ':' :: s).takeWhile (fun c => !(c == ':' || c == '/')) = user :=
    takeWhile_part hpart rfl
  have hdrop : (user ++ ':' :: s).dropWhile (fun c => !(c == ':' || c == '/')) = ':' :: s :=
    dropWhile_part hpart rfl
  -- A user with a password is only found before an `@`.
  have hfound : s.dropWhile (· != '@') ≠ [] := by
    intro hnil
    exact absurd (List.dropWhile_eq_nil_iff.mp hnil '@' hs) (by simp)
  obtain ⟨c, after, hafter⟩ := List.exists_cons_of_ne_nil hfound
  have hintroduced : introduced? ':' (· == '@') (':' :: s) =
      (some (s.takeWhile (· != '@')), c :: after) := by
    rw [introduced?_cons, ← hafter]
    rfl
  unfold credentials
  simp only [htake, hdrop, hintroduced, hafter, List.tail_cons]

/-- No more than what stands before the first character that ends a user is taken for one. -/
theorem length_user_le {s user : List Char} (h : (credentials s).1 = some user) :
    user.length ≤ (s.takeWhile fun c => !(c == ':' || c == '/')).length := by
  unfold credentials at h
  dsimp only at h
  split at h
  · obtain rfl := Option.some.inj h
    exact Nat.le_refl _
  · unfold userAlone at h
    dsimp only at h
    split at h
    · next hsplit =>
      obtain rfl := Option.some.inj h
      rw [(splitLast?_eq_some hsplit).1, List.length_append]
      exact Nat.le_add_right _ _
    · exact absurd h (by simp)

/-! ## Hosts -/

/-- An opening bracket is taken for one around a host if a bracket closes, before the host ends,
with something in between. -/
theorem bracketedHost?_bracket_eq_none_iff {inner : List Char} :
    bracketedHost? ('[' :: inner) = none ↔
      ']' ∉ (inner.takeWhile fun c => !(c == '/' || c == '?')).drop 1 := by
  simp only [bracketedHost?]
  generalize (inner.takeWhile fun c => !(c == '/' || c == '?')) = front
  split
  · next after hsplit =>
    obtain ⟨rfl, hafter⟩ := splitLast?_eq_some hsplit
    exact iff_of_true rfl hafter
  · next before after hnonempty hsplit =>
    obtain ⟨rfl, -⟩ := splitLast?_eq_some hsplit
    obtain ⟨c, before, rfl⟩ := List.exists_cons_of_ne_nil hnonempty
    simp
  · next hsplit =>
    apply iff_of_true rfl
    intro hmem
    obtain ⟨before, after, hfound⟩ := exists_splitLast? (List.mem_of_mem_drop hmem)
    exact absurd (hsplit.symm.trans hfound) (by simp)

theorem bracketedHost?_of_ne {c : Char} (h : c ≠ '[') (rest : List Char) :
    bracketedHost? (c :: rest) = none := by
  unfold bracketedHost?
  split
  · next hstart => exact absurd (List.cons.inj hstart).1 h
  · rfl

/-- A host that nothing ends before its port is taken for one in brackets only if its own brackets
close. -/
theorem bracketedHost?_host_eq_none_iff {host s : List Char} (hne : host ≠ [])
    (hhost : ∀ c ∈ host, c ≠ ':' ∧ c ≠ '/' ∧ c ≠ '?')
    (hs : ']' ∉ s.takeWhile fun c => !(c == '/' || c == '?')) :
    bracketedHost? (host ++ ':' :: s) = none ↔
      ¬ (host.head? = some '[' ∧ ']' ∈ host.drop 2) := by
  obtain ⟨c, inner, rfl⟩ := List.exists_cons_of_ne_nil hne
  by_cases hc : c = '['
  · subst hc
    have htake : ((inner ++ ':' :: s).takeWhile fun c => !(c == '/' || c == '?')) =
        inner ++ ':' :: s.takeWhile fun c => !(c == '/' || c == '?') := by
      rw [List.takeWhile_append_of_pos, List.takeWhile_cons_of_pos rfl]
      intro d hd
      simp [hhost d (List.mem_cons_of_mem _ hd)]
    rw [List.cons_append, bracketedHost?_bracket_eq_none_iff, htake]
    generalize (s.takeWhile fun c => !(c == '/' || c == '?')) = after at hs
    cases inner with
    | nil => simp [hs]
    | cons d inner => simp [hs]
  · apply iff_of_true
    · exact bracketedHost?_of_ne hc _
    · exact fun h => hc (Option.some.inj h.1)

/-- A host that holds no character that ends it is taken as it stands, unless a closing bracket is
found for an opening one at its start. -/
theorem hostPart_eq {host s : List Char} (hne : host ≠ [])
    (hhost : ∀ c ∈ host, c ≠ ':' ∧ c ≠ '/' ∧ c ≠ '?')
    (hbrackets : ¬ (host.head? = some '[' ∧ ']' ∈ host.drop 2))
    (hs : ']' ∉ s.takeWhile fun c => !(c == '/' || c == '?')) :
    hostPart (host ++ ':' :: s) = (some host, ':' :: s) := by
  have hbare := (bracketedHost?_host_eq_none_iff hne hhost hs).mpr hbrackets
  have hpart : ∀ c ∈ host, (!(c == '/' || c == ':' || c == '?')) = true := by
    intro c hc
    simp [hhost c hc]
  have hmark : (!(':' == '/' || ':' == ':' || ':' == '?')) = false := rfl
  unfold hostPart
  simp only [hbare, takeWhile_part hpart hmark, dropWhile_part hpart hmark]

/-- A host in brackets is never the whole of what stands before the port. -/
theorem bracketedHost?_ne {host s rest : List Char} :
    bracketedHost? (host ++ ':' :: s) ≠ some (host, rest) := by
  intro h
  unfold bracketedHost? at h
  dsimp only at h
  split at h
  · next inner htext =>
    split at h
    · exact absurd h (by simp)
    · next before after _ hsplit =>
      obtain ⟨rfl, -⟩ := Prod.mk.inj (Option.some.inj h)
      have hinner : before ++ ']' :: after <+: inner := by
        rw [← (splitLast?_eq_some hsplit).1]
        exact List.takeWhile_prefix _
      obtain ⟨rest, rfl⟩ := hinner
      -- The text would start with the host and a colon, and as well with a bracket and the host.
      have hboth : (before ++ [':']) ++ s = ('[' :: before) ++ (']' :: after ++ rest) := by
        simpa using htext
      have hcount := congrArg (List.count '[') (List.append_inj hboth (by simp)).1
      simp at hcount
    · exact absurd h (by simp)
  · exact absurd h (by simp)

/-- **Only such a host is found again.** -/
theorem of_hostPart_fst {host s : List Char} (h : (hostPart (host ++ ':' :: s)).1 = some host)
    (hs : ']' ∉ s.takeWhile fun c => !(c == '/' || c == '?')) :
    (∀ c ∈ host, c ≠ ':' ∧ c ≠ '/' ∧ c ≠ '?') ∧
      ¬ (host.head? = some '[' ∧ ']' ∈ host.drop 2) := by
  unfold hostPart at h
  dsimp only at h
  split at h
  · next hbracketed =>
    obtain rfl := Option.some.inj h
    exact absurd hbracketed bracketedHost?_ne
  · next hbare =>
    split at h
    · exact absurd h (by simp)
    · next hfound =>
      have hwhole := Option.some.inj h
      have hne : host ≠ [] := fun hnil => hfound (hwhole.trans hnil)
      have hhost : ∀ c ∈ host, c ≠ ':' ∧ c ≠ '/' ∧ c ≠ '?' := by
        intro c hc
        have hlength := Nat.le_of_eq (congrArg List.length hwhole.symm)
        simpa [and_left_comm, and_assoc] using forall_of_length_le_takeWhile hlength c hc
      exact ⟨hhost, (bracketedHost?_host_eq_none_iff hne hhost hs).mp hbare⟩

/-! ## Whole addresses -/

/-- Texts that can be told apart after they are put together. Each part holds no character that ends
it, user and password hold no escape, and no bracket of the host's own closes. -/
structure Separable (user password host database : List Char) : Prop where
  user_ends : ∀ c ∈ user, c ≠ ':' ∧ c ≠ '/'
  user_escapes : ¬ Text.HasEscape user
  password_ends : '@' ∉ password
  password_escapes : ¬ Text.HasEscape password
  host_ends : ∀ c ∈ host, c ≠ ':' ∧ c ≠ '/' ∧ c ≠ '?'
  host_brackets : ¬ (host.head? = some '[' ∧ ']' ∈ host.drop 2)
  database_ends : '?' ∉ database

/-- Most texts hold none of the characters that could matter. -/
theorem separable_of_not_mem {user password host database : List Char}
    (huser : ':' ∉ user ∧ '/' ∉ user ∧ '%' ∉ user) (hpassword : '@' ∉ password ∧ '%' ∉ password)
    (hhost : ':' ∉ host ∧ '/' ∉ host ∧ '?' ∉ host ∧ '[' ∉ host) (hdatabase : '?' ∉ database) :
    Separable user password host database where
  user_ends := fun _ hc =>
    ⟨ne_of_mem_of_not_mem hc huser.1, ne_of_mem_of_not_mem hc huser.2.1⟩
  user_escapes := Text.not_hasEscape huser.2.2
  password_ends := hpassword.1
  password_escapes := Text.not_hasEscape hpassword.2
  host_ends := fun _ hc =>
    ⟨ne_of_mem_of_not_mem hc hhost.1, ne_of_mem_of_not_mem hc hhost.2.1,
      ne_of_mem_of_not_mem hc hhost.2.2.1⟩
  host_brackets := fun h => hhost.2.2.2 (List.mem_of_mem_head? h.1)
  database_ends := hdatabase

/-- What stands after `://` in the address of a server. -/
def serverText (user password host port database : List Char) : List Char :=
  user ++ ':' :: (password ++ '@' :: (host ++ ':' :: (port ++ '/' :: database)))

/-- Where the parts of an address that is read come from. -/
theorem read_eq_ok {driver : String} {s : List Char} {u : DatabaseUrl} (h : read driver s = .ok u) :
    let decoded (part : List Char) : String := String.ofList (Text.percentDecoded part)
    let authority := hostPart (credentials s).2.2
    let path := (introduced? ':' (fun c => c == '/' || c == '?') authority.2).2
    u.user = (credentials s).1.map decoded ∧ u.password = (credentials s).2.1.map decoded ∧
      u.host = authority.1.map String.ofList ∧
      u.database = (introduced? '/' (· == '?') path).1.map String.ofList := by
  unfold read at h
  dsimp only at h
  split at h
  all_goals
    obtain ⟨port, -, hu⟩ := bind_eq_ok.mp h
    obtain rfl := Except.ok.inj hu
    exact ⟨rfl, rfl, rfl, rfl⟩

section Whole

variable {user password host database : List Char} {port : Int}

/-- A port holds no character that ends a part of an address. -/
theorem not_mem_port {c : Char} (hc : c ≠ '-') (hdigit : c.isDigit = false) :
    c ∉ (toString port).toList := by
  have hdigits : c ∉ Nat.toDigits 10 port.natAbs := by
    intro h
    have hc := Nat.isDigit_of_mem_toDigits (by decide) (by decide) h
    exact absurd (hdigit.symm.trans hc) (by decide)
  rw [Numeral.toList_toString]
  split_ifs
  · exact List.not_mem_cons_of_ne_of_not_mem hc hdigits
  · exact hdigits

theorem port_ends : ∀ c ∈ (toString port).toList, (!(c == '/' || c == '?')) = true := by
  intro c hc
  have hslash : c ≠ '/' := fun h => not_mem_port (by decide) (by decide) (h ▸ hc)
  have hmark : c ≠ '?' := fun h => not_mem_port (by decide) (by decide) (h ▸ hc)
  simp [hslash, hmark]

theorem not_mem_takeWhile_port :
    ']' ∉ ((toString port).toList ++ '/' :: database).takeWhile
      fun c => !(c == '/' || c == '?') := by
  rw [takeWhile_part port_ends rfl]
  exact not_mem_port (by decide) (by decide)

theorem introduced?_port :
    introduced? ':' (fun c => c == '/' || c == '?')
        (':' :: ((toString port).toList ++ '/' :: database)) =
      (some (toString port).toList, '/' :: database) := by
  rw [introduced?_cons, takeWhile_part port_ends rfl, dropWhile_part port_ends rfl]

theorem read_of_separable (h : Separable user password host database) (hne : host ≠ [])
    (hport : port.natAbs < digitBound) (driver : String) :
    read driver (serverText user password host (toString port).toList database) =
      .ok ⟨driver, some (String.ofList user), some (String.ofList password),
        some (String.ofList host), some port, some (String.ofList database), []⟩ := by
  have hpassword : ∀ c ∈ password, (c != '@') = true := by
    intro c hc
    exact bne_iff_ne.mpr fun hat => h.password_ends (hat ▸ hc)
  have hdatabase : ∀ c ∈ database, (!(c == '?')) = true := by
    intro c hc
    exact bne_iff_ne.mpr fun hmark => h.database_ends (hmark ▸ hc)
  generalize hafter : (toString port).toList ++ '/' :: database = after
  have hclosed : ']' ∉ after.takeWhile fun c => !(c == '/' || c == '?') := by
    rw [← hafter]
    exact not_mem_takeWhile_port
  have hintroduced : introduced? ':' (fun c => c == '/' || c == '?') (':' :: after) =
      (some (toString port).toList, '/' :: database) := by
    rw [← hafter]
    exact introduced?_port
  have hcredentials : credentials (user ++ ':' :: (password ++ '@' :: (host ++ ':' :: after))) =
      (some user, some password, host ++ ':' :: after) := by
    rw [credentials_eq h.user_ends (by simp), takeWhile_part hpassword rfl,
      dropWhile_part hpassword rfl, List.tail_cons]
  have hhost := hostPart_eq hne h.host_ends h.host_brackets hclosed
  have hname : introduced? '/' (· == '?') ('/' :: database) = (some database, []) := by
    rw [introduced?_cons, List.takeWhile_eq_self_iff.mpr hdatabase,
      List.dropWhile_eq_nil_iff.mpr hdatabase]
  have hnone : introduced? '?' (· == '\n') [] = (none, []) := rfl
  unfold read serverText
  simp only [hafter, hcredentials, hhost, hintroduced, hname, hnone, readPort_toString hport,
    Option.map_some, Text.percentDecoded_of_not_hasEscape h.user_escapes,
    Text.percentDecoded_of_not_hasEscape h.password_escapes]
  rfl

/-- A part is found and its text comes back only if nothing in it ends it and it has no escapes. -/
theorem of_percentDecoded_takeWhile {part rest : List Char} {p : Char → Bool} {mark : Char}
    (hmark : p mark = false)
    (h : Text.percentDecoded ((part ++ mark :: rest).takeWhile p) = part) :
    (∀ c ∈ part, p c = true) ∧ ¬ Text.HasEscape part := by
  have hlength := Text.length_percentDecoded_le ((part ++ mark :: rest).takeWhile p)
  rw [h] at hlength
  have hpart := forall_of_length_le_takeWhile hlength
  rw [takeWhile_part hpart hmark] at h
  exact ⟨hpart, Text.percentDecoded_eq_self_iff.mp h⟩

theorem separable_of_read (hne : host ≠ []) {driver : String} {u : DatabaseUrl}
    (h : read driver (serverText user password host (toString port).toList database) = .ok u)
    (huser : u.user = some (String.ofList user))
    (hpassword : u.password = some (String.ofList password))
    (hhost : u.host = some (String.ofList host))
    (hdatabase : u.database = some (String.ofList database)) :
    Separable user password host database := by
  obtain ⟨hfounduser, hfoundpassword, hfoundhost, hfounddatabase⟩ := read_eq_ok h
  rw [huser] at hfounduser
  rw [hpassword] at hfoundpassword
  rw [hhost] at hfoundhost
  rw [hdatabase] at hfounddatabase
  -- The user is found either as it stands or up to an `@`, in both cases before a `:` or `/`.
  have huserends : ∀ c ∈ user, (!(c == ':' || c == '/')) = true := by
    obtain ⟨found, hfound, hdecoded⟩ := Option.map_eq_some_iff.mp hfounduser.symm
    have hlength := Text.length_percentDecoded_le found
    rw [String.ofList_inj.mp hdecoded] at hlength
    exact forall_of_length_le_takeWhile (hlength.trans (length_user_le hfound))
  have huserends : ∀ c ∈ user, c ≠ ':' ∧ c ≠ '/' := by
    simpa using huserends
  unfold serverText at hfounduser hfoundpassword hfoundhost hfounddatabase
  rw [credentials_eq huserends (by simp)] at hfounduser hfoundpassword hfoundhost hfounddatabase
  have huserescapes := String.ofList_inj.mp (Option.some.inj hfounduser)
  -- From here on, each part is known before the next one is looked for.
  obtain ⟨hpasswordends, hpasswordescapes⟩ := of_percentDecoded_takeWhile rfl
    (String.ofList_inj.mp (Option.some.inj hfoundpassword)).symm
  rw [dropWhile_part hpasswordends rfl, List.tail_cons] at hfoundhost hfounddatabase
  obtain ⟨hhostends, hhostbrackets⟩ := of_hostPart_fst
    (Option.map_injective (fun _ _ => String.ofList_injective) hfoundhost.symm)
    not_mem_takeWhile_port
  rw [hostPart_eq hne hhostends hhostbrackets not_mem_takeWhile_port] at hfounddatabase
  dsimp only at hfounddatabase
  rw [introduced?_port, introduced?_cons] at hfounddatabase
  have hwhole := String.ofList_inj.mp (Option.some.inj hfounddatabase)
  exact {
    user_ends := huserends
    user_escapes := Text.percentDecoded_eq_self_iff.mp huserescapes.symm
    password_ends := fun hmem => by simpa using hpasswordends '@' hmem
    password_escapes := hpasswordescapes
    host_ends := hhostends
    host_brackets := hhostbrackets
    database_ends := fun hmem => by simpa using List.takeWhile_eq_self_iff.mp hwhole.symm '?' hmem }

end Whole

end DatabaseUrl

/-! ## The engine that settings lead to -/

namespace Engine

open DatabaseUrl

/-- The engine for a server reads what stands after `://`. -/
theorem forUrl_serverForService (poolSize : Int) (rest : String) :
    forUrl poolSize (address "postgresql+asyncpg" rest) =
      (DatabaseUrl.read "postgresql+asyncpg" rest.toList).map (⟨·, .queue poolSize⟩) := by
  have hurl : (address "postgresql+asyncpg" rest).toList = serverForService ++ rest.toList :=
    toList_address "postgresql+asyncpg" rest
  have hdriver : String.ofList (serverForService.takeWhile (· != ':')) = "postgresql+asyncpg" := by
    decide
  have hafter : readAfter serverForService (address "postgresql+asyncpg" rest) =
      DatabaseUrl.read "postgresql+asyncpg" rest.toList := by
    rw [readAfter, hurl, hdriver, List.drop_left]
  rw [forUrl, serviceUrl_serverForService, ← hafter]
  cases hread : readAfter serverForService (address "postgresql+asyncpg" rest) with
  | error e => simp [bind, Except.bind, Except.map, hread]
  | ok u => simp [bind, Except.bind, Except.map, hread, pure, Except.pure]

theorem ofSettings_eq {s : Settings} {host : String} (h : s.postgresHost = some host)
    (hne : host ≠ "") (hport : s.postgresPort.natAbs < digitBound) :
    ofSettings s = ((DatabaseUrl.read "postgresql+asyncpg" (serverText s.postgresUser.toList
      s.postgresPassword.toList host.toList (toString s.postgresPort).toList
        s.postgresDatabase.toList)).map (⟨·, .queue s.poolSize⟩)).mapError .url := by
  generalize htext : serverText _ _ _ _ _ = text
  have heffective : s.effectiveUrl = .ok (address "postgresql+asyncpg" (String.ofList text)) := by
    rw [Settings.effectiveUrl, h]
    dsimp only
    rw [if_neg hne, displayInt_eq_ok_iff.mpr ⟨hport, rfl⟩, ← htext]
    apply congrArg Except.ok
    simp [← String.toList_inj, address, serverText]
  have hmade : ofSettings s =
      (forUrl s.poolSize (address "postgresql+asyncpg" (String.ofList text))).mapError .url := by
    rw [ofSettings, heffective]
    rfl
  rw [hmade, forUrl_serverForService, String.toList_ofList]

theorem port_lt_of_ofSettings {s : Settings} {host : String} (h : s.postgresHost = some host)
    (hne : host ≠ "") {e : Engine} (he : ofSettings s = .ok e) :
    s.postgresPort.natAbs < digitBound := by
  obtain ⟨url, hurl, -⟩ := bind_eq_ok.mp he
  have heffective := mapError_eq_ok.mp hurl
  rw [Settings.effectiveUrl, h] at heffective
  dsimp only at heffective
  rw [if_neg hne] at heffective
  obtain ⟨port, hport, -⟩ := bind_eq_ok.mp heffective
  exact (displayInt_eq_ok_iff.mp hport).1

/-- The parts of an engine's address are the settings of a server. -/
structure Carries (e : Engine) (s : Settings) : Prop where
  user : e.url.user = some s.postgresUser
  password : e.url.password = some s.postgresPassword
  host : e.url.host = s.postgresHost
  port : e.url.port = some s.postgresPort
  database : e.url.database = some s.postgresDatabase

/-- **The engine gets the settings of a server exactly if their texts can be told apart** and the
port can be written. Otherwise it gets other parts, or there is none. -/
theorem carries_settings_iff {s : Settings} {host : String} (h : s.postgresHost = some host)
    (hne : host ≠ "") :
    (∃ e, ofSettings s = .ok e ∧ e.Carries s) ↔
      Separable s.postgresUser.toList s.postgresPassword.toList host.toList
        s.postgresDatabase.toList ∧ s.postgresPort.natAbs < digitBound := by
  have hnonempty : host.toList ≠ [] := by
    simpa using hne
  constructor
  · intro hcarried
    obtain ⟨e, he, hparts⟩ := hcarried
    have hport := port_lt_of_ofSettings h hne he
    rw [ofSettings_eq h hne hport] at he
    obtain ⟨u, hread, rfl⟩ := map_eq_ok.mp (mapError_eq_ok.mp he)
    refine ⟨separable_of_read hnonempty hread ?_ ?_ ?_ ?_, hport⟩
    · simpa using hparts.user
    · simpa using hparts.password
    · simpa using hparts.host.trans h
    · simpa using hparts.database
  · intro hseparable
    obtain ⟨hseparable, hport⟩ := hseparable
    have hread := read_of_separable hseparable hnonempty hport "postgresql+asyncpg"
    simp only [String.ofList_toList] at hread
    rw [ofSettings_eq h hne hport, hread]
    exact ⟨_, rfl, ⟨rfl, rfl, h.symm, rfl, rfl⟩⟩

/-- Settings of a server with a password, as the environment gives them. -/
def sourceWith (password : String) : Settings.Source where
  environment := [("POSTGRES_HOST", "db"), ("POSTGRES_USER", "rules"),
    ("POSTGRES_PASSWORD", password), ("POSTGRES_DB", "rules")]
  arguments := []

/-- What is read of them. -/
def settingsWith (password : String) : Settings where
  host := "0.0.0.0"
  port := 8000
  corsOrigins := Settings.defaultOrigins
  logLevel := "INFO"
  databaseUrl := "sqlite:///./rule_designer.db"
  postgresHost := some "db"
  postgresPort := 5432
  postgresUser := "rules"
  postgresPassword := password
  postgresDatabase := "rules"
  poolSize := 10
  poolOverflow := 20
  drlFileName := "rule.drl"

/-- A password may hold most of what has a meaning in an address. -/
theorem carries_settings_punctuated :
    (settingsWith ":/?#[]").postgresHost = some "db" ∧
      ∃ e, ofSettings (settingsWith ":/?#[]") = .ok e ∧ e.Carries (settingsWith ":/?#[]") := by
  have hseparable : Separable "rules".toList ":/?#[]".toList "db".toList "rules".toList :=
    separable_of_not_mem (by decide) (by decide) (by decide) (by decide)
  have hport : (settingsWith ":/?#[]").postgresPort.natAbs < digitBound :=
    lt_digitBound_of_lt (by decide)
  exact ⟨rfl, (carries_settings_iff rfl (by decide)).mpr ⟨hseparable, hport⟩⟩

/-- **A password with an `@` gives away its end to the host.** -/
theorem password_moves_host :
    Settings.read (sourceWith "p@ss") = .ok (settingsWith "p@ss") ∧
    ofSettings (settingsWith "p@ss") = .ok ⟨⟨"postgresql+asyncpg", some "rules", some "p",
      some "ss@db", some 5432, some "rules", []⟩, .queue 10⟩ ∧
    ¬ ∀ (source : Settings.Source) (s : Settings) (host : String),
      Settings.read source = .ok s → s.postgresHost = some host → host ≠ "" →
      s.postgresUser ≠ "" → s.postgresPassword ≠ "" → s.postgresDatabase ≠ "" →
      ∃ e, ofSettings s = .ok e ∧ e.Carries s := by
  have hread : Settings.read (sourceWith "p@ss") = .ok (settingsWith "p@ss") := rfl
  have hport : (5432 : Int).natAbs < digitBound := lt_digitBound_of_lt (by decide)
  have hseparable : Separable "rules".toList "p".toList "ss@db".toList "rules".toList :=
    separable_of_not_mem (by decide) (by decide) (by decide) (by decide)
  -- The address is the one of another host with another password.
  have hsame : serverText "rules".toList "p@ss".toList "db".toList (toString (5432 : Int)).toList
      "rules".toList = serverText "rules".toList "p".toList "ss@db".toList
        (toString (5432 : Int)).toList "rules".toList := rfl
  have hparts := read_of_separable hseparable (by decide) hport "postgresql+asyncpg"
  have hmade : ofSettings (settingsWith "p@ss") = .ok ⟨⟨"postgresql+asyncpg", some "rules",
      some "p", some "ss@db", some 5432, some "rules", []⟩, .queue 10⟩ := by
    rw [ofSettings_eq rfl (by decide) hport]
    change ((DatabaseUrl.read _ (serverText "rules".toList "p@ss".toList "db".toList
      (toString (5432 : Int)).toList "rules".toList)).map _).mapError _ = _
    rw [hsame, hparts]
    rfl
  refine ⟨hread, hmade, fun h => ?_⟩
  obtain ⟨e, he, hcarried⟩ :=
    h _ _ "db" hread rfl (by decide) (by decide) (by decide) (by decide)
  obtain rfl := Except.ok.inj (hmade.symm.trans he)
  exact absurd hcarried.host (by decide)

end Engine

end Rulebook
