import Mathlib
import MonitorWire.Proofs.FieldSearch
import MonitorWire.Redact.Rule

namespace MonitorWire

namespace FieldScan

open Regex

theorem ofList_slice_append {l : List Char} {a b c : Nat} (hab : a ≤ b) (hbc : b ≤ c) :
    String.ofList ((l.drop a).take (b - a)) ++ String.ofList ((l.drop b).take (c - b)) =
      String.ofList ((l.drop a).take (c - a)) := by
  rw [← String.ofList_append, show c - a = (b - a) + (c - b) by omega, List.take_add,
    List.drop_drop, Nat.add_sub_cancel' hab]

namespace FieldPattern

variable (f : FieldPattern)

-- the hypothesis of the match serves only the termination proof
set_option linter.unusedVariables false in
/-- The text from `start` on with the values of the pattern masked: the text up to the value
of the first occurrence stays, the value is masked unless `keep` holds of the text from the
value on, and the masking goes on from the end of the value. -/
def maskFrom (keep : List Char → Bool) (visible : Nat) (cs : Array Char) (start : Nat) : String :=
  match hfirst : f.firstValue cs start with
  | none => String.ofList (cs.toList.drop start)
  | some (_, v, e) =>
    let value := String.ofList ((cs.toList.drop v).take (e - v))
    String.ofList ((cs.toList.drop start).take (v - start)) ++
      (if keep (cs.toList.drop v) then value else maskSecret value visible) ++
      maskFrom keep visible cs e
termination_by cs.size + 1 - start
decreasing_by
  obtain ⟨hs, hocc, -⟩ := firstValue_eq_some_iff.1 hfirst
  have hkv := hocc.key_lt
  have hve := hocc.value_lt
  have hsize : e ≤ cs.size := le_size_of_valueAt hocc
  show cs.size + 1 - e < cs.size + 1 - start
  omega

def maskValues (keep : List Char → Bool) (visible : Nat) (message : String) : String :=
  f.maskFrom keep visible message.toList.toArray 0

variable {f} {keep : List Char → Bool} {visible : Nat} {cs : Array Char}

theorem maskFrom_of_none {start : Nat} (h : f.firstValue cs start = none) :
    f.maskFrom keep visible cs start = String.ofList (cs.toList.drop start) := by
  rw [maskFrom]
  split <;> simp_all

theorem maskFrom_of_some {start s v e : Nat} (h : f.firstValue cs start = some (s, v, e)) :
    f.maskFrom keep visible cs start =
      String.ofList ((cs.toList.drop start).take (v - start)) ++
        (if keep (cs.toList.drop v) then String.ofList ((cs.toList.drop v).take (e - v))
          else maskSecret (String.ofList ((cs.toList.drop v).take (e - v))) visible) ++
        f.maskFrom keep visible cs e := by
  rw [maskFrom]
  split
  · simp_all
  · rename_i s' v' e' h'
    rw [h] at h'
    cases h'
    rfl

end FieldPattern

def excludes : Option Compiled → List Char → Bool
  | some ex, rest => ex.isMatch (String.ofList rest)
  | none, _ => false

@[simp] theorem groupSpan_matchSlots_zero (s v e : Nat) :
    Regex.groupSpan (matchSlots s v e) 0 = some (s, e) := rfl

@[simp] theorem groupSpan_matchSlots_one (s v e : Nat) :
    Regex.groupSpan (matchSlots s v e) 1 = some (v, e) := rfl

/-- How `replaceAll` takes in one match: the text since the end of the match before, then
what `g` makes of the match; the match's end is where the next text starts. -/
def replaceStep (cs : Array Char) (g : Array Char → Slots → String) (acc : String × Nat)
    (m : Slots) : String × Nat :=
  match Regex.groupSpan m 0 with
  | some (a, b) => (acc.1 ++ String.ofList ((cs.toList.drop acc.2).take (a - acc.2)) ++ g cs m, b)
  | none => acc

theorem replaceAll_eq (r : Compiled) (text : String) (g : Array Char → Slots → String) :
    r.replaceAll text g =
      let p := (r.allMatches text.toList.toArray).foldl (replaceStep text.toList.toArray g) ("", 0)
      p.1 ++ String.ofList ((text.toList.toArray.toList.drop p.2).take
        (text.toList.toArray.size - p.2)) := rfl

section Matches

variable {f : FieldPattern} {r : Compiled} {cs : Array Char}

theorem matchesFrom_of_none (hr : f.Compiles r) {fuel start : Nat} {lastEnd : Option Nat}
    (h : f.firstValue cs start = none) : r.matchesFrom cs (fuel + 1) start lastEnd = [] := by
  simp [Regex.Compiled.matchesFrom, FieldPattern.searchAt_eq_firstValue hr, h]

theorem matchesFrom_of_some (hr : f.Compiles r) {fuel start s v e : Nat} {lastEnd : Option Nat}
    (h : f.firstValue cs start = some (s, v, e)) :
    r.matchesFrom cs (fuel + 1) start lastEnd = matchSlots s v e :: r.matchesFrom cs fuel e (some e) := by
  obtain ⟨-, hocc, -⟩ := FieldPattern.firstValue_eq_some_iff.1 h
  have hkv := hocc.key_lt
  have hve := hocc.value_lt
  have hse : (s == e) = false := by simp; omega
  simp [Regex.Compiled.matchesFrom, FieldPattern.searchAt_eq_firstValue hr, h, hse]

/-- Replacing the successive matches of a field pattern, where `g` keeps a match's text up to
its value and masks the value unless `keep` holds, masks the pattern's values. The induction is
on the fuel, one match a step. -/
theorem foldl_matchesFrom (hr : f.Compiles r) (cs : Array Char) (g : Array Char → Slots → String)
    {keep : List Char → Bool} {visible : Nat}
    (hg : ∀ s v e, s ≤ v → v ≤ e → g cs (matchSlots s v e) =
      String.ofList ((cs.toList.drop s).take (v - s)) ++
        (if keep (cs.toList.drop v) then String.ofList ((cs.toList.drop v).take (e - v))
          else maskSecret (String.ofList ((cs.toList.drop v).take (e - v))) visible)) :
    ∀ fuel start (lastEnd : Option Nat) (out : String), cs.size + 1 - start < fuel →
      ((r.matchesFrom cs fuel start lastEnd).foldl (replaceStep cs g) (out, start)).1 ++
          String.ofList (cs.toList.drop
            ((r.matchesFrom cs fuel start lastEnd).foldl (replaceStep cs g) (out, start)).2) =
        out ++ f.maskFrom keep visible cs start := by
  intro fuel
  induction fuel with
  | zero => intro start lastEnd out h; omega
  | succ fuel ih =>
    intro start lastEnd out hfuel
    cases hfv : f.firstValue cs start with
    | none =>
      rw [matchesFrom_of_none hr hfv, FieldPattern.maskFrom_of_none hfv]
      rfl
    | some o =>
      obtain ⟨s, v, e⟩ := o
      obtain ⟨hs, hocc, -⟩ := FieldPattern.firstValue_eq_some_iff.1 hfv
      have hkv := hocc.key_lt
      have hve := hocc.value_lt
      have hsize := FieldPattern.le_size_of_valueAt hocc
      rw [matchesFrom_of_some hr hfv, List.foldl_cons]
      have hstep : replaceStep cs g (out, start) (matchSlots s v e) =
          (out ++ String.ofList ((cs.toList.drop start).take (s - start)) ++
            g cs (matchSlots s v e), e) := rfl
      rw [hstep, ih e (some e) _ (by omega), FieldPattern.maskFrom_of_some hfv,
        hg s v e (by omega) (by omega)]
      -- the text before the key and the key itself join into the text before the value
      rw [← ofList_slice_append (show start ≤ s by omega) (show s ≤ v by omega)]
      simp only [String.append_assoc]

end Matches

theorem apply_eq_maskValues {f : FieldPattern} {rule : RedactRule} (hr : f.Compiles rule.matcher)
    (message : String) (visible : Nat) :
    rule.apply message visible = f.maskValues (excludes rule.exclude) visible message := by
  -- a slice up to the end of the text is the whole rest of it
  have hrest : ∀ k, (message.toList.toArray.toList.drop k).take (message.toList.toArray.size - k) =
      message.toList.toArray.toList.drop k :=
    fun k => List.take_of_length_le (by simp)
  rw [RedactRule.apply, replaceAll_eq, Regex.Compiled.allMatches]
  simp only [hrest]
  rw [foldl_matchesFrom hr _ _ ?_ _ 0 none "" (by omega), String.empty_append]
  · rfl
  intro s v e hsv hve
  simp only [groupSpan_matchSlots_zero, groupSpan_matchSlots_one, hrest]
  cases hex : rule.exclude with
  | none => simp [excludes]
  | some ex =>
    by_cases hm : ex.isMatch (String.ofList (message.toList.toArray.toList.drop v)) = true
    · simp only [hm, if_true, excludes]
      exact (ofList_slice_append hsv hve).symm
    · simp [hm, excludes]

end FieldScan

namespace Redactor

open FieldScan

def alnumChars : Regex.CharSet := ⟨#[(0x30, 0x39), (0x41, 0x5A), (0x61, 0x7A)]⟩

def unquotedChars : Regex.CharSet :=
  ⟨#[(0, 0x21), (0x23, 0x26), (0x28, 0xD7FF), (0xE000, 0x10FFFF)]⟩

def jsonKey (name : List Char) : List Char := '"' :: name ++ ['"', ':']

def tokenField : FieldPattern where
  key := jsonKey ['t', 'o', 'k', 'e', 'n']
  value := alnumChars
  quote_first := rfl
  quote_not_value := by decide +kernel
  unbordered := by decide +kernel
  key_not_value := by decide +kernel

def authField : FieldPattern where
  key := jsonKey ['a', 'u', 't', 'h']
  value := alnumChars
  quote_first := rfl
  quote_not_value := by decide +kernel
  unbordered := by decide +kernel
  key_not_value := by decide +kernel

def sessionidField : FieldPattern where
  key := jsonKey ['s', 'e', 's', 's', 'i', 'o', 'n', 'i', 'd']
  value := alnumChars
  quote_first := rfl
  quote_not_value := by decide +kernel
  unbordered := by decide +kernel
  key_not_value := by decide +kernel

def passwordField : FieldPattern where
  key := jsonKey ['p', 'a', 's', 's', 'w', 'o', 'r', 'd']
  value := unquotedChars
  quote_first := rfl
  quote_not_value := by decide +kernel
  unbordered := by decide +kernel
  key_not_value := by decide +kernel

def resultField : FieldPattern where
  key := jsonKey ['r', 'e', 's', 'u', 'l', 't']
  value := alnumChars
  quote_first := rfl
  quote_not_value := by decide +kernel
  unbordered := by decide +kernel
  key_not_value := by decide +kernel

def resultKept : List Char → Bool := excludes (Regex.compileText resultExclude).toOption

def regexParts (ex : Regex.Compiled) : String × Regex.Program × Nat × Nat :=
  (ex.source, ex.program, ex.start, ex.groups)

theorem regexParts_injective : Function.Injective regexParts := by
  rintro ⟨a, b, c, d⟩ ⟨a', b', c', d'⟩ h
  simp only [regexParts, Prod.mk.injEq] at h
  obtain ⟨rfl, rfl, rfl, rfl⟩ := h
  rfl

theorem defaultRules_programs :
    defaultRules.map (fun rule => (rule.matcher.program, rule.matcher.start, rule.matcher.groups)) =
      [tokenField, authField, sessionidField, passwordField, resultField].map
        (fun f => (f.program, f.key.length + 10, 1)) := by
  decide +kernel

theorem defaultRules_exclusions :
    defaultRules.map (fun rule => rule.exclude.map regexParts) =
      [none, none, none, none, (Regex.compileText resultExclude).toOption.map regexParts] := by
  decide +kernel

/-- The default redactor masks the values of `token`, `auth` and `sessionid` (letters and
digits), `password` (no quote or apostrophe) and `result` (letters and digits), in that order.
Each value is the longest run of such characters after the key, blanks and a quote, masked
with `defaultVisible` characters shown at each end; a `result` value stays where the exclusion
matches the text from it on. -/
theorem default_redact_eq (message : String) :
    Redactor.default.redact message =
      resultField.maskValues resultKept defaultVisible
        (passwordField.maskValues (fun _ => false) defaultVisible
          (sessionidField.maskValues (fun _ => false) defaultVisible
            (authField.maskValues (fun _ => false) defaultVisible
              (tokenField.maskValues (fun _ => false) defaultVisible message)))) := by
  have hprograms := defaultRules_programs
  have hexclusions := defaultRules_exclusions
  rw [redact, Redactor.default]
  generalize defaultRules = rules at hprograms hexclusions ⊢
  have hlen : rules.length = 5 := by simpa using congrArg List.length hprograms
  rcases rules with _ | ⟨r₁, _ | ⟨r₂, _ | ⟨r₃, _ | ⟨r₄, _ | ⟨r₅, _ | ⟨r₆, rules⟩⟩⟩⟩⟩⟩ <;>
    simp at hlen
  simp only [List.map_cons, List.map_nil, List.cons.injEq, Prod.mk.injEq] at hprograms hexclusions
  obtain ⟨⟨hp₁, hs₁, hg₁⟩, ⟨hp₂, hs₂, hg₂⟩, ⟨hp₃, hs₃, hg₃⟩, ⟨hp₄, hs₄, hg₄⟩, ⟨hp₅, hs₅, hg₅⟩, -⟩ :=
    hprograms
  obtain ⟨hx₁, hx₂, hx₃, hx₄, hx₅, -⟩ := hexclusions
  -- the first four rules have no exclusion, the last that of `result` values
  rw [Option.map_eq_none_iff] at hx₁ hx₂ hx₃ hx₄
  have hx₅' := Option.map_injective regexParts_injective hx₅
  simp only [List.foldl_cons, List.foldl_nil]
  rw [apply_eq_maskValues ⟨hp₁, hs₁, hg₁⟩, apply_eq_maskValues ⟨hp₂, hs₂, hg₂⟩,
    apply_eq_maskValues ⟨hp₃, hs₃, hg₃⟩, apply_eq_maskValues ⟨hp₄, hs₄, hg₄⟩,
    apply_eq_maskValues ⟨hp₅, hs₅, hg₅⟩, hx₁, hx₂, hx₃, hx₄, hx₅']
  rfl

/-- A token with a dash in it is masked only up to the dash: the default redactor leaves
`-def-ghi-jkl` of the token `abc-def-ghi-jkl` in the clear. -/
theorem redact_leaves_token_after_dash :
    Redactor.default.redact "\x7b\"token\":\"abc-def-ghi-jkl\"\x7d" =
      "\x7b\"token\":\"********-def-ghi-jkl\"\x7d" := by
  decide +kernel

end Redactor

end MonitorWire
