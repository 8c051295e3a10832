import Mathlib
import MonitorWire.Proofs.VersionMachine
import MonitorWire.Proofs.TextForms

namespace MonitorWire

namespace ApiVersion

open Regex Regex.Compiled

def groupText (cs : List Char) (sl : Slots) (i : Nat) : Option String :=
  (groupSpan sl i).map fun (a, b) => String.ofList ((cs.drop a).take (b - a))

def groupNumber (cs : List Char) (sl : Slots) (i : Nat) : Option Nat :=
  (groupText cs sl i).bind fun g => Text.parseUnsigned g (Nat.pow 2 32)

def ofMatch (cs : List Char) (sl : Slots) : Option ApiVersion :=
  match groupNumber cs sl 1, groupNumber cs sl 2, groupNumber cs sl 3 with
  | some major, some minor, some revision =>
    some ⟨major, minor, revision, (groupText cs sl 4).getD ""⟩
  | _, _, _ => none

theorem exists_compileText_pattern :
    ∃ r, Regex.compileText pattern = .ok r ∧ r.program = program ∧ r.start = 29 ∧ r.groups = 4 := by
  have h := compileText_pattern
  cases hc : Regex.compileText pattern with
  | error e => rw [hc] at h; cases h
  | ok r =>
    rw [hc] at h
    simp only [Except.toOption, Option.map_some, Option.some.injEq, Prod.mk.injEq] at h
    exact ⟨r, rfl, h⟩

theorem captures_eq {r : Compiled} (hr : r.program = program ∧ r.start = 29 ∧ r.groups = 4)
    (raw : String) :
    r.captures raw = (accepted raw.toList.length (scan 0 .lead raw.toList)).map fun sl =>
      (List.range 5).map (groupText raw.toList sl) := by
  simp only [Regex.Compiled.captures, searchAt_eq_accepted hr, List.size_toArray, hr.2.2]
  rfl

theorem parse_eq (raw : String) :
    parse raw =
      match (accepted raw.toList.length (scan 0 .lead raw.toList)).bind (ofMatch raw.toList) with
      | some v => .ok v
      | none => .error (.invalidVersion raw) := by
  obtain ⟨r, hcompile, hr⟩ := exists_compileText_pattern
  rw [parse, hcompile]
  dsimp only
  rw [captures_eq hr]
  cases accepted raw.toList.length (scan 0 .lead raw.toList) with
  | none => rfl
  | some sl =>
    simp only [Option.map_some, Option.bind_some, ofMatch]
    -- the numbers are read in turn, the first that does not read failing the whole
    have hgroup : ∀ i < 5, ((List.range 5).map (groupText raw.toList sl))[i]?.join =
        groupText raw.toList sl i := by
      intro i hi
      simp [hi]
    rw [hgroup 1 (by decide), hgroup 2 (by decide), hgroup 3 (by decide),
      hgroup 4 (by decide)]
    have hnumber : ∀ i, (groupText raw.toList sl i).bind
        (fun g => Text.parseUnsigned g (Nat.pow 2 32)) = groupNumber raw.toList sl i :=
      fun _ => rfl
    simp only [hnumber]
    cases groupNumber raw.toList sl 1 <;> cases groupNumber raw.toList sl 2 <;>
      cases groupNumber raw.toList sl 3 <;> rfl

theorem parse_eq_ok_iff {raw : String} {v : ApiVersion} :
    parse raw = .ok v ↔
      (accepted raw.toList.length (scan 0 .lead raw.toList)).bind (ofMatch raw.toList) = some v := by
  rw [parse_eq]
  cases (accepted raw.toList.length (scan 0 .lead raw.toList)).bind (ofMatch raw.toList) with
  | none => simp
  | some w => simp

theorem exists_of_length_eq_five {bs : List Nat} (h : bs.length = 5) :
    ∃ a₁ e₁ a₂ e₂ a₃, bs = [a₁, e₁, a₂, e₂, a₃] := by
  rcases bs with _ | ⟨a₁, _ | ⟨e₁, _ | ⟨a₂, _ | ⟨e₂, _ | ⟨a₃, _ | ⟨x, bs⟩⟩⟩⟩⟩⟩ <;>
    simp at h
  exact ⟨a₁, e₁, a₂, e₂, a₃, rfl⟩

theorem groupText_match (cs : List Char) (a₁ e₁ a₂ e₂ a₃ e j n : Nat) :
    let sl := (boundSlots ([a₁, e₁, a₂, e₂, a₃] ++ [e, e, j])).setIfInBounds 1 (some n)
    groupText cs sl 1 = some (String.ofList ((cs.drop a₁).take (e₁ - a₁))) ∧
      groupText cs sl 2 = some (String.ofList ((cs.drop a₂).take (e₂ - a₂))) ∧
      groupText cs sl 3 = some (String.ofList ((cs.drop a₃).take (e - a₃))) ∧
      groupText cs sl 4 = some (String.ofList ((cs.drop e).take (j - e))) :=
  ⟨rfl, rfl, rfl, rfl⟩

theorem slice_middle {t A B C : List Char} {a b : Nat} (ht : t = A ++ B ++ C) (ha : a = A.length)
    (hb : b = a + B.length) : (t.drop a).take (b - a) = B := by
  subst ht ha hb
  simp

theorem readsWhole_of_parse {raw : String} {v : ApiVersion} (h : parse raw = .ok v) :
    ReadsWhole v.suffix.toList ∧ v.major < Nat.pow 2 32 ∧ v.minor < Nat.pow 2 32 ∧
      v.revision < Nat.pow 2 32 := by
  rw [parse_eq_ok_iff] at h
  obtain ⟨sl, hacc, hmatch⟩ := Option.bind_eq_some_iff.1 h
  have hh := holds_scan raw.toList raw.toList.length (le_refl _)
  rw [List.take_length] at hh
  generalize scan 0 .lead raw.toList = ph at hacc hh
  unfold ofMatch at hmatch
  split at hmatch
  · rename_i major minor revision h₁ h₂ h₃
    cases hmatch
    have hlt : ∀ i n, groupNumber raw.toList sl i = some n → n < Nat.pow 2 32 := by
      intro i n hn
      obtain ⟨g, -, hg⟩ := Option.bind_eq_some_iff.1 hn
      exact Text.parseUnsigned_lt hg
    refine ⟨?_, hlt 1 _ h₁, hlt 2 _ h₂, hlt 3 _ h₃⟩
    cases ph with
    | revision bs =>
      -- the revision number runs to the end: the suffix is empty
      obtain ⟨a₁, e₁, a₂, e₂, a₃, rfl⟩ := exists_of_length_eq_five hh
      simp only [accepted, Option.some.injEq] at hacc
      subst hacc
      rw [(groupText_match raw.toList a₁ e₁ a₂ e₂ a₃ _ _ _).2.2.2]
      simp only [Nat.sub_self, List.take_zero, Option.getD_some, String.toList_ofList]
      exact ⟨by simp, by simp, by simp⟩
    | tail bs e j unbroken =>
      obtain ⟨a₁, e₁, a₂, e₂, a₃, rfl⟩ := exists_of_length_eq_five hh.1
      simp only [accepted, Option.some.injEq] at hacc
      subst hacc
      rw [(groupText_match raw.toList a₁ e₁ a₂ e₂ a₃ _ _ _).2.2.2]
      simp only [Option.getD_some, String.toList_ofList]
      exact readsWhole_of_holds (le_refl _) hh
    | lead | number | dotted | dead => cases hacc
  · cases hmatch

theorem toList_display (v : ApiVersion) :
    v.display.toList = ((toString v.major).toList ++ ['.']) ++ ((toString v.minor).toList ++ ['.']) ++
      ((toString v.revision).toList ++ v.suffix.toList) := by
  have hdot : toString "." = "." := rfl
  simp [display, hdot]

theorem accepted_printed {bs : List Nat} {e n : Nat} {X : List Char} (hn : n = e + X.length) :
    accepted n (if X = [] then .revision bs else .tail bs e (e + X.length) true) =
      some ((boundSlots (bs ++ [e, e, e + X.length])).setIfInBounds 1 (some n)) := by
  split_ifs with hX
  · subst hX hn
    rfl
  · subst hn
    rfl

theorem groupText_printed (m₁ m₂ m₃ X : List Char) (n : Nat) :
    let t := (m₁ ++ ['.']) ++ (m₂ ++ ['.']) ++ (m₃ ++ X)
    let e := m₁.length + m₂.length + 2 + m₃.length
    let sl := (boundSlots ([0, m₁.length, m₁.length + 1, m₁.length + 1 + m₂.length,
      m₁.length + m₂.length + 2] ++ [e, e, e + X.length])).setIfInBounds 1 (some n)
    groupText t sl 1 = some (String.ofList m₁) ∧ groupText t sl 2 = some (String.ofList m₂) ∧
      groupText t sl 3 = some (String.ofList m₃) ∧ groupText t sl 4 = some (String.ofList X) := by
  intro t e sl
  obtain ⟨g₁, g₂, g₃, g₄⟩ := groupText_match t 0 m₁.length (m₁.length + 1)
    (m₁.length + 1 + m₂.length) (m₁.length + m₂.length + 2) e (e + X.length) n
  -- each group is the piece between the bounds its slots hold
  have s₁ : (t.drop 0).take (m₁.length - 0) = m₁ :=
    slice_middle (A := []) (C := ['.'] ++ (m₂ ++ ['.']) ++ (m₃ ++ X)) (by simp [t]) rfl (by simp)
  have s₂ : (t.drop (m₁.length + 1)).take (m₁.length + 1 + m₂.length - (m₁.length + 1)) = m₂ :=
    slice_middle (A := m₁ ++ ['.']) (C := ['.'] ++ (m₃ ++ X)) (by simp [t]) (by simp) rfl
  have s₃ : (t.drop (m₁.length + m₂.length + 2)).take (e - (m₁.length + m₂.length + 2)) = m₃ :=
    slice_middle (A := m₁ ++ ['.'] ++ (m₂ ++ ['.'])) (C := X) (by simp [t])
      (by simp only [List.length_append, List.length_singleton]; omega) rfl
  have s₄ : (t.drop e).take (e + X.length - e) = X :=
    slice_middle (A := m₁ ++ ['.'] ++ (m₂ ++ ['.']) ++ m₃) (C := []) (by simp [t])
      (by simp only [e, List.length_append, List.length_singleton]; omega) rfl
  rw [g₁, g₂, g₃, g₄, s₁, s₂, s₃, s₄]
  exact ⟨rfl, rfl, rfl, rfl⟩

theorem parse_display {v : ApiVersion} (hX : ReadsWhole v.suffix.toList)
    (h₁ : v.major < Nat.pow 2 32) (h₂ : v.minor < Nat.pow 2 32) (h₃ : v.revision < Nat.pow 2 32) :
    parse v.display = .ok v := by
  have hdigits : ∀ c ∈ (toString v.major).toList ++ (toString v.minor).toList ++
      (toString v.revision).toList, CharSet.digit.mem c = true := by
    intro c hc
    apply CharSet.digit_mem_of_isDigit
    simp only [List.mem_append] at hc
    rcases hc with (hc | hc) | hc <;> exact Text.isDigit_of_mem_toString hc
  have hscan := scan_printed (by simp) (by simp) (by simp) hdigits hX
  obtain ⟨g₁, g₂, g₃, g₄⟩ := groupText_printed (toString v.major).toList
    (toString v.minor).toList (toString v.revision).toList v.suffix.toList v.display.toList.length
  dsimp only at hscan g₁ g₂ g₃ g₄
  rw [← toList_display] at hscan g₁ g₂ g₃ g₄
  have hlen : v.display.toList.length = (toString v.major).toList.length +
      (toString v.minor).toList.length + 2 + (toString v.revision).toList.length +
      v.suffix.toList.length := by
    rw [toList_display]
    simp only [List.length_append, List.length_singleton]
    omega
  rw [parse_eq_ok_iff, hscan, accepted_printed hlen, Option.bind_some]
  simp only [ofMatch, groupNumber, g₁, g₂, g₃, g₄, String.ofList_toList, Option.bind_some,
    Text.parseUnsigned_toString h₁, Text.parseUnsigned_toString h₂,
    Text.parseUnsigned_toString h₃, Option.getD_some]

/-- A version that was read prints as a text that reads back as the same version. -/
theorem version_display_round_trip {s : String} {v : ApiVersion} (h : parse s = .ok v) :
    parse v.display = .ok v := by
  obtain ⟨hX, h₁, h₂, h₃⟩ := readsWhole_of_parse h
  exact parse_display hX h₁ h₂ h₃

theorem version_display_round_trip_padded :
    parse " 7.02.0rc1 " = .ok ⟨7, 2, 0, "rc1"⟩ ∧
      parse (display ⟨7, 2, 0, "rc1"⟩) = .ok ⟨7, 2, 0, "rc1"⟩ :=
  have h : parse " 7.02.0rc1 " = .ok ⟨7, 2, 0, "rc1"⟩ := parse_eq_ok_iff.2 (by decide +kernel)
  ⟨h, version_display_round_trip h⟩

example : display ⟨7, 2, 0, "rc1"⟩ = "7.2.0rc1" := by decide

end ApiVersion

end MonitorWire
