import Mathlib
import MonitorWire.Regex.CharSet

namespace MonitorWire

namespace FieldScan

open Regex

section Runs

variable (text : Array Char) (P : Char → Bool)

def runEndFrom : Nat → Nat → Nat
  | 0, i => i
  | fuel + 1, i =>
    match text[i]? with
    | some c => if P c then runEndFrom fuel (i + 1) else i
    | none => i

/-- The end of the run of characters satisfying `P` that starts at `i`: the first position
from `i` on whose character fails `P`, or the end of the text. -/
def runEnd (i : Nat) : Nat := runEndFrom text P (text.size - i) i

variable {text P}

theorem lt_size_of_getElem? {i : Nat} {c : Char} (h : text[i]? = some c) : i < text.size :=
  (Array.getElem?_eq_some_iff.1 h).1

theorem runEnd_of_mem {i : Nat} {c : Char} (hc : text[i]? = some c) (hP : P c = true) :
    runEnd text P i = runEnd text P (i + 1) := by
  have hi := lt_size_of_getElem? hc
  unfold runEnd
  rw [show text.size - i = text.size - (i + 1) + 1 by omega, runEndFrom, hc]
  simp [hP]

theorem runEnd_of_not_mem {i : Nat} (h : ∀ c, text[i]? = some c → P c = false) :
    runEnd text P i = i := by
  unfold runEnd
  cases text.size - i with
  | zero => rfl
  | succ fuel =>
    rw [runEndFrom]
    cases hc : text[i]? with
    | none => rfl
    | some c => simp [h c hc]

theorem runEnd_eq {i e : Nat} (hie : i ≤ e)
    (hrun : ∀ j, i ≤ j → j < e → ∃ c, text[j]? = some c ∧ P c = true)
    (hend : ∀ c, text[e]? = some c → P c = false) : runEnd text P i = e := by
  induction h : e - i generalizing i with
  | zero =>
    have hi : i = e := by omega
    subst hi
    exact runEnd_of_not_mem hend
  | succ d ih =>
    obtain ⟨c, hc, hP⟩ := hrun i (Nat.le_refl i) (by omega)
    rw [runEnd_of_mem hc hP]
    exact ih (by omega) (fun j hj hje => hrun j (by omega) hje) (by omega)

theorem le_runEnd (i : Nat) : i ≤ runEnd text P i := by
  induction h : text.size - i generalizing i with
  | zero =>
    rw [runEnd_of_not_mem]
    intro c hc
    have := lt_size_of_getElem? hc
    omega
  | succ d ih =>
    cases hc : text[i]? with
    | none => rw [runEnd_of_not_mem (by simp [hc])]
    | some c =>
      cases hP : P c with
      | false => rw [runEnd_of_not_mem (by simp [hc, hP])]
      | true =>
        rw [runEnd_of_mem hc hP]
        exact Nat.le_of_succ_le (ih (i + 1) (by omega))

theorem mem_of_lt_runEnd {i j : Nat} (hij : i ≤ j) (hj : j < runEnd text P i) :
    ∃ c, text[j]? = some c ∧ P c = true := by
  induction h : j - i generalizing i with
  | zero =>
    have hi : i = j := by omega
    subst hi
    cases hc : text[i]? with
    | none => rw [runEnd_of_not_mem (by simp [hc])] at hj; omega
    | some c =>
      cases hP : P c with
      | false => rw [runEnd_of_not_mem (by simp [hc, hP])] at hj; omega
      | true => exact ⟨c, rfl, hP⟩
  | succ d ih =>
    cases hc : text[i]? with
    | none => rw [runEnd_of_not_mem (by simp [hc])] at hj; omega
    | some c =>
      cases hP : P c with
      | false => rw [runEnd_of_not_mem (by simp [hc, hP])] at hj; omega
      | true =>
        rw [runEnd_of_mem hc hP] at hj
        exact ih (by omega) hj (by omega)

theorem not_mem_runEnd (i : Nat) : ∀ c, text[runEnd text P i]? = some c → P c = false := by
  induction h : text.size - i generalizing i with
  | zero =>
    intro c hc
    have := lt_size_of_getElem? hc
    have : i ≤ runEnd text P i := le_runEnd i
    omega
  | succ d ih =>
    cases hc : text[i]? with
    | none => rw [runEnd_of_not_mem (by simp [hc])]; simp [hc]
    | some c =>
      cases hP : P c with
      | false => rw [runEnd_of_not_mem (by simp [hc, hP])]; simp [hc, hP]
      | true =>
        rw [runEnd_of_mem hc hP]
        exact ih (i + 1) (by omega)

variable (text P) in
def Run (a b : Nat) : Prop := ∀ j, a ≤ j → j < b → ∃ c, text[j]? = some c ∧ P c = true

theorem run_runEnd (i : Nat) : Run text P i (runEnd text P i) :=
  fun _ hij hj => mem_of_lt_runEnd hij hj

theorem run_empty (a : Nat) : Run text P a a := fun _ h₁ h₂ => absurd h₂ (by omega)

theorem Run.snoc {a b : Nat} {c : Char} (h : Run text P a b) (hc : text[b]? = some c)
    (hP : P c = true) : Run text P a (b + 1) := by
  intro j hj hjb
  by_cases hjb' : j < b
  · exact h j hj hjb'
  · exact ⟨c, by rw [show j = b by omega]; exact hc, hP⟩

theorem Run.mono {a b a' b' : Nat} (h : Run text P a b) (ha : a ≤ a') (hb : b' ≤ b) :
    Run text P a' b' := fun j hj hjb => h j (by omega) (by omega)

theorem le_runEnd_of_run {i j : Nat} (h : Run text P i j) : j ≤ runEnd text P i := by
  by_contra hlt
  obtain ⟨c, hc, hP⟩ := h (runEnd text P i) (le_runEnd i) (by omega)
  rw [not_mem_runEnd i c hc] at hP
  cases hP

end Runs

/-- A field pattern: its key, which starts with a quote and overlaps itself nowhere, and the
characters of its values, among which are neither the quote nor some later character of the
key. -/
structure FieldPattern where
  key : List Char
  value : CharSet
  quote_first : key[0]? = some '"'
  quote_not_value : value.mem '"' = false
  unbordered : ∀ d < key.length, 0 < d → ∃ i < key.length - d, key[i + d]? ≠ key[i]?
  key_not_value : ∃ i < key.length, 0 < i ∧ key[i]?.map value.mem = some false

/-- How far a run of a field pattern has got: `key k` after `k` characters of the key,
`blanks` after the key and blanks, `value v` in the value that starts at `v`, or `dead`. -/
inductive Phase where
  | key (k : Nat)
  | blanks
  | value (v : Nat)
  | dead
  deriving DecidableEq

theorem space_mem_quote : CharSet.space.mem '"' = false := by decide +kernel

namespace FieldPattern

variable (f : FieldPattern) (text : Array Char)

def read (pos : Nat) : Phase → Option Char → Phase
  | .key k, some c =>
    if f.key[k]? = some c then (if k + 1 < f.key.length then .key (k + 1) else .blanks)
    else .dead
  | .blanks, some c =>
    if CharSet.space.mem c then .blanks else if c = '"' then .value (pos + 1) else .dead
  | .value v, some c => if f.value.mem c then .value v else .dead
  | _, _ => .dead

def phase (s : Nat) : Nat → Phase
  | 0 => .key 0
  | d + 1 => f.read (s + d) (phase s d) text[s + d]?

def KeyFrom (s k : Nat) : Prop := ∀ i < k, text[s + i]? = f.key[i]?

/-- What the text says about the run started at `s` when it is in a phase after `d`
characters. -/
def Holds (s d : Nat) : Phase → Prop
  | .key k => d = k ∧ k < f.key.length ∧ f.KeyFrom text s k
  | .blanks => f.key.length ≤ d ∧ f.KeyFrom text s f.key.length ∧
      Run text CharSet.space.mem (s + f.key.length) (s + d)
  | .value v => f.KeyFrom text s f.key.length ∧ s + f.key.length < v ∧
      Run text CharSet.space.mem (s + f.key.length) (v - 1) ∧ text[v - 1]? = some '"' ∧
      v ≤ s + d ∧ Run text f.value.mem v (s + d)
  | .dead => True

/-- An occurrence of the pattern at `s`: the key, blanks, a quote at `v - 1`, and the value,
characters of the value set from `v` to `e`, at least one and as many as follow. -/
structure ValueAt (s v e : Nat) : Prop where
  key : f.KeyFrom text s f.key.length
  key_lt : s + f.key.length < v
  blanks : Run text CharSet.space.mem (s + f.key.length) (v - 1)
  quote : text[v - 1]? = some '"'
  value_lt : v < e
  run : Run text f.value.mem v e
  maximal : ∀ c, text[e]? = some c → f.value.mem c = false

def valueAt (s : Nat) : Option (Nat × Nat) :=
  let b := runEnd text CharSet.space.mem (s + f.key.length)
  if (∀ i < f.key.length, text[s + i]? = f.key[i]?) ∧ text[b]? = some '"' ∧
      text[b + 1]?.map f.value.mem = some true then
    some (b + 1, runEnd text f.value.mem (b + 1))
  else none

/-- The first occurrence from `start` on: where it starts, and where its value starts and
ends. -/
def firstValue (start : Nat) : Option (Nat × Nat × Nat) :=
  (List.range' start (text.size + 1 - start)).findSome? fun s =>
    (f.valueAt text s).map fun ve => (s, ve)

variable {f text}

theorem length_pos : 0 < f.key.length := by
  have h := f.quote_first
  by_contra h0
  simp_all

theorem holds_phase (s d : Nat) : f.Holds text s d (f.phase text s d) := by
  induction d with
  | zero => exact ⟨rfl, length_pos, fun i hi => absurd hi (Nat.not_lt_zero i)⟩
  | succ d ih =>
    rw [phase]
    generalize f.phase text s d = ph at ih
    cases ph with
    | dead => cases text[s + d]? <;> trivial
    | key k =>
      obtain ⟨rfl, hk, hkey⟩ := ih
      cases hc : text[s + d]? with
      | none => trivial
      | some c =>
        simp only [read]
        split_ifs with hck hlt
        · -- one more character of the key
          refine ⟨rfl, hlt, fun i hi => ?_⟩
          rcases Nat.lt_succ_iff_lt_or_eq.1 hi with hi | rfl
          · exact hkey i hi
          · rw [hc, hck]
        · -- the last character of the key
          have hn : d + 1 = f.key.length := by omega
          refine ⟨by omega, fun i hi => ?_, fun j hj hjd => absurd hjd (by omega)⟩
          rcases Nat.lt_succ_iff_lt_or_eq.1 (hn ▸ hi) with hi | rfl
          · exact hkey i hi
          · rw [hc, hck]
        · trivial
    | blanks =>
      obtain ⟨hn, hkey, hrun⟩ := ih
      cases hc : text[s + d]? with
      | none => trivial
      | some c =>
        simp only [read]
        split_ifs with hb hq
        · exact ⟨by omega, hkey, by rw [← Nat.add_assoc]; exact hrun.snoc hc hb⟩
        · subst hq
          refine ⟨hkey, by omega, by simpa using hrun, by simpa using hc, by omega,
            by rw [← Nat.add_assoc]; exact run_empty _⟩
        · trivial
    | value v =>
      obtain ⟨hkey, hlt, hblanks, hq, hle, hrun⟩ := ih
      cases hc : text[s + d]? with
      | none => trivial
      | some c =>
        simp only [read]
        split_ifs with hv
        · exact ⟨hkey, hlt, hblanks, hq, by omega, by rw [← Nat.add_assoc]; exact hrun.snoc hc hv⟩
        · trivial

theorem read_dead (pos : Nat) (c : Option Char) : f.read pos .dead c = .dead := by
  cases c <;> rfl

theorem phase_of_valueAt {s v e : Nat} (h : f.ValueAt text s v e) {d : Nat} (hd : s + d ≤ e) :
    f.phase text s d =
      if d < f.key.length then .key d else if s + d < v then .blanks else .value v := by
  induction d with
  | zero => simp [phase, length_pos]
  | succ d ih =>
    rw [phase, ih (by omega)]
    have hkv := h.key_lt
    by_cases hdk : d < f.key.length
    · -- the next character of the key
      obtain ⟨c, hc⟩ : ∃ c, f.key[d]? = some c := Option.isSome_iff_exists.1 (by simp [hdk])
      have htext : text[s + d]? = some c := by rw [h.key d hdk, hc]
      rw [if_pos hdk, htext]
      simp only [read, hc, if_true]
      by_cases hd1 : d + 1 < f.key.length
      · rw [if_pos hd1, if_pos hd1]
      · rw [if_neg hd1, if_neg hd1, if_pos (show s + (d + 1) < v by omega)]
    · by_cases hv : s + (d + 1) < v
      · -- a blank
        obtain ⟨c, hc, hb⟩ := h.blanks (s + d) (by omega) (by omega)
        simp [read, hdk, show ¬d + 1 < f.key.length by omega, show s + d < v by omega, hc, hb, hv]
      · by_cases hq : s + d + 1 = v
        · -- the quote before the value
          have hc : text[s + d]? = some '"' := by rw [show s + d = v - 1 by omega]; exact h.quote
          simp [read, hdk, show ¬d + 1 < f.key.length by omega, hc, space_mem_quote, ← hq]
        · -- a character of the value
          obtain ⟨c, hc, hm⟩ := h.run (s + d) (by omega) (by omega)
          simp [read, hdk, show ¬d + 1 < f.key.length by omega, show ¬s + d < v by omega, hc, hm, hv]

theorem valueAt_eq_some_iff {s v e : Nat} :
    f.valueAt text s = some (v, e) ↔ f.ValueAt text s v e := by
  constructor
  · intro h
    simp only [valueAt] at h
    split_ifs at h with hcond
    obtain ⟨hkey, hq, hm⟩ := hcond
    cases h
    obtain ⟨c, hc, hmc⟩ : ∃ c, text[runEnd text CharSet.space.mem (s + f.key.length) + 1]? =
        some c ∧ f.value.mem c = true := by
      cases hc : text[runEnd text CharSet.space.mem (s + f.key.length) + 1]? <;> simp_all
    have hle : s + f.key.length ≤ runEnd text CharSet.space.mem (s + f.key.length) := le_runEnd _
    refine ⟨hkey, by omega, by simpa using run_runEnd (s + f.key.length), by simpa using hq,
      ?_, run_runEnd _, not_mem_runEnd _⟩
    rw [runEnd_of_mem hc hmc]
    exact Nat.lt_of_lt_of_le (Nat.lt_succ_self _) (le_runEnd _)
  · intro h
    have hkv := h.key_lt
    -- the blanks end at the quote, which is no blank
    have hb : runEnd text CharSet.space.mem (s + f.key.length) = v - 1 :=
      runEnd_eq (by omega) h.blanks fun c hc => by
        rw [h.quote] at hc
        cases hc
        exact space_mem_quote
    obtain ⟨c, hc, hm⟩ := h.run v (Nat.le_refl v) h.value_lt
    have he : runEnd text f.value.mem v = e := runEnd_eq (Nat.le_of_lt h.value_lt) h.run h.maximal
    have hv : v - 1 + 1 = v := by omega
    rw [valueAt]
    simp only [hb, hv, h.quote, hc, Option.map_some, hm, he]
    rw [if_pos ⟨h.key, trivial, trivial⟩]

theorem lt_size_of_valueAt {s v e : Nat} (h : f.ValueAt text s v e) : s < text.size := by
  have h0 := h.key 0 length_pos
  rw [Nat.add_zero, f.quote_first] at h0
  exact lt_size_of_getElem? h0

theorem le_size_of_valueAt {s v e : Nat} (h : f.ValueAt text s v e) : e ≤ text.size := by
  have hve := h.value_lt
  obtain ⟨c, hc, -⟩ := h.run (e - 1) (by omega) (by omega)
  have := lt_size_of_getElem? hc
  omega

theorem phase_value_of_valueAt {s v e d : Nat} (h : f.ValueAt text s v e) (hv : v < s + d)
    (hd : s + d ≤ e) : f.phase text s d = .value v := by
  have hkv := h.key_lt
  rw [phase_of_valueAt h hd, if_neg (by omega), if_neg (by omega)]

theorem phase_ne_dead_of_valueAt {s v e d : Nat} (h : f.ValueAt text s v e) (hd : s + d ≤ e) :
    f.phase text s d ≠ .dead := by
  rw [phase_of_valueAt h hd]
  split_ifs <;> simp

theorem read_value_of_valueAt {s v e q : Nat} (h : f.ValueAt text s v e) (hvq : v ≤ q)
    (hqe : q ≤ e) : f.read q (.value v) text[q]? = if q < e then .value v else .dead := by
  by_cases hq : q < e
  · obtain ⟨c, hc, hm⟩ := h.run q hvq hq
    simp [read, hc, hm, hq]
  · obtain rfl : q = e := by omega
    rw [if_neg hq]
    cases hc : text[q]? with
    | none => rfl
    | some c => simp [read, h.maximal c hc]

theorem findSome?_range'_eq_some {g : Nat → Option (Nat × Nat)} :
    ∀ {a m s : Nat} {ve : Nat × Nat},
      (List.range' a m).findSome? (fun s => (g s).map fun ve => (s, ve)) = some (s, ve) ↔
        a ≤ s ∧ s < a + m ∧ g s = some ve ∧ ∀ s', a ≤ s' → s' < s → g s' = none := by
  intro a m
  induction m generalizing a with
  | zero =>
    intro s ve
    simp only [List.range'_zero, List.findSome?_nil]
    constructor
    · intro h
      cases h
    · rintro ⟨h₁, h₂, -⟩
      omega
  | succ m ih =>
    intro s ve
    rw [List.range'_succ, List.findSome?_cons]
    cases hg : g a with
    | some ve' =>
      simp only [Option.map_some, Option.some.injEq, Prod.mk.injEq]
      constructor
      · rintro ⟨rfl, rfl⟩
        exact ⟨Nat.le_refl _, by omega, hg, fun s' h₁ h₂ => absurd h₂ (by omega)⟩
      · rintro ⟨hs, -, hgs, hbefore⟩
        rcases Nat.lt_or_eq_of_le hs with hs | rfl
        · rw [hbefore a (Nat.le_refl a) hs] at hg
          cases hg
        · rw [hg] at hgs
          exact ⟨rfl, (Option.some.inj hgs)⟩
    | none =>
      simp only [Option.map_none]
      rw [ih]
      constructor
      · rintro ⟨hs, hlt, hgs, hbefore⟩
        refine ⟨by omega, by omega, hgs, fun s' h₁ h₂ => ?_⟩
        rcases Nat.lt_or_eq_of_le h₁ with h₁ | rfl
        · exact hbefore s' h₁ h₂
        · exact hg
      · rintro ⟨hs, hlt, hgs, hbefore⟩
        have has : a ≠ s := fun has => by rw [← has, hg] at hgs; cases hgs
        exact ⟨by omega, by omega, hgs, fun s' h₁ h₂ => hbefore s' (by omega) h₂⟩

theorem firstValue_eq_some_iff {start s v e : Nat} :
    f.firstValue text start = some (s, v, e) ↔
      start ≤ s ∧ f.ValueAt text s v e ∧ ∀ s', start ≤ s' → s' < s → f.valueAt text s' = none := by
  rw [firstValue, findSome?_range'_eq_some, ← valueAt_eq_some_iff]
  constructor
  · rintro ⟨hs, -, hve, hbefore⟩
    exact ⟨hs, hve, hbefore⟩
  · rintro ⟨hs, hve, hbefore⟩
    have := lt_size_of_valueAt (valueAt_eq_some_iff.1 hve)
    exact ⟨hs, by omega, hve, hbefore⟩

theorem firstValue_eq_none_iff {start : Nat} :
    f.firstValue text start = none ↔ ∀ s, start ≤ s → f.valueAt text s = none := by
  rw [firstValue, List.findSome?_eq_none_iff]
  constructor
  · intro h s hs
    cases hve : f.valueAt text s with
    | none => rfl
    | some ve =>
      have := lt_size_of_valueAt (valueAt_eq_some_iff.1 hve)
      have h' := h s (List.mem_range'_1.2 ⟨hs, by omega⟩)
      rw [hve] at h'
      cases h'
  · intro h s hs
    rw [h s (List.mem_range'_1.1 hs).1]
    rfl

theorem valueAt_of_phase {s d v : Nat} (h : f.phase text s d = .value v) (hv : v < s + d) :
    f.valueAt text s = some (v, runEnd text f.value.mem v) ∧
      s + d ≤ runEnd text f.value.mem v := by
  have hh : f.Holds text s d (f.phase text s d) := holds_phase s d
  rw [h] at hh
  obtain ⟨hkey, hkv, hblanks, hq, hle, hrun⟩ := hh
  obtain ⟨c, hc, hm⟩ := hrun v (Nat.le_refl v) hv
  have hlt : v < runEnd text f.value.mem v := by
    rw [runEnd_of_mem hc hm]
    exact Nat.lt_of_lt_of_le (Nat.lt_succ_self _) (le_runEnd _)
  exact ⟨valueAt_eq_some_iff.2 ⟨hkey, hkv, hblanks, hq, hlt, run_runEnd v, not_mem_runEnd v⟩,
    le_runEnd_of_run hrun⟩

theorem keyFrom_apart {s₁ s₂ : Nat} (h₁ : f.KeyFrom text s₁ f.key.length)
    (h₂ : f.KeyFrom text s₂ f.key.length) (hlt : s₁ < s₂) : s₁ + f.key.length ≤ s₂ := by
  by_contra hnear
  obtain ⟨i, hi, hne⟩ := f.unbordered (s₂ - s₁) (by omega) (by omega)
  apply hne
  rw [← h₁ (i + (s₂ - s₁)) (by omega), ← h₂ i (by omega), show s₁ + (i + (s₂ - s₁)) = s₂ + i by
    omega]

theorem quote_of_keyFrom {s : Nat} (h : f.KeyFrom text s f.key.length) : text[s]? = some '"' := by
  have h0 := h 0 length_pos
  rwa [Nat.add_zero, f.quote_first] at h0

theorem not_blanks_of_lt {s₁ s₂ d₁ d₂ : Nat} (h₁ : f.phase text s₁ d₁ = .blanks)
    (h₂ : f.phase text s₂ d₂ = .blanks) (hpos : s₁ + d₁ = s₂ + d₂) (hlt : s₁ < s₂) : False := by
  have hh₁ : f.Holds text s₁ d₁ (f.phase text s₁ d₁) := holds_phase s₁ d₁
  have hh₂ : f.Holds text s₂ d₂ (f.phase text s₂ d₂) := holds_phase s₂ d₂
  rw [h₁] at hh₁
  rw [h₂] at hh₂
  obtain ⟨-, hkey₁, hrun₁⟩ := hh₁
  obtain ⟨hn₂, hkey₂, -⟩ := hh₂
  have hapart := keyFrom_apart hkey₁ hkey₂ hlt
  have hn := f.length_pos
  -- the quote that opens the second key would be a blank of the first run
  obtain ⟨c, hc, hb⟩ := hrun₁ s₂ hapart (by omega)
  rw [quote_of_keyFrom hkey₂] at hc
  cases hc
  rw [space_mem_quote] at hb
  cases hb

theorem eq_of_blanks {s₁ s₂ d₁ d₂ : Nat} (h₁ : f.phase text s₁ d₁ = .blanks)
    (h₂ : f.phase text s₂ d₂ = .blanks) (hpos : s₁ + d₁ = s₂ + d₂) : s₁ = s₂ := by
  rcases Nat.lt_trichotomy s₁ s₂ with hlt | heq | hgt
  · exact (not_blanks_of_lt h₁ h₂ hpos hlt).elim
  · exact heq
  · exact (not_blanks_of_lt h₂ h₁ hpos.symm hgt).elim

theorem not_value_of_lt {s₁ s₂ d₁ d₂ v₁ v₂ : Nat} (h₁ : f.phase text s₁ d₁ = .value v₁)
    (h₂ : f.phase text s₂ d₂ = .value v₂) (hpos : s₁ + d₁ = s₂ + d₂) (hlt : s₁ < s₂) : False := by
  have hh₁ : f.Holds text s₁ d₁ (f.phase text s₁ d₁) := holds_phase s₁ d₁
  have hh₂ : f.Holds text s₂ d₂ (f.phase text s₂ d₂) := holds_phase s₂ d₂
  rw [h₁] at hh₁
  rw [h₂] at hh₂
  obtain ⟨hkey₁, hkv₁, hblanks₁, -, -, hrun₁⟩ := hh₁
  obtain ⟨hkey₂, hkv₂, -, -, hle₂, -⟩ := hh₂
  have hapart := keyFrom_apart hkey₁ hkey₂ hlt
  have hq := quote_of_keyFrom hkey₂
  rcases Nat.lt_trichotomy s₂ (v₁ - 1) with hb | hb | hb
  · -- the second key would open among the blanks of the first run
    obtain ⟨c, hc, hbl⟩ := hblanks₁ s₂ hapart hb
    rw [hq] at hc
    cases hc
    rw [space_mem_quote] at hbl
    cases hbl
  · -- the second key would follow the quote of the first, inside its value
    obtain ⟨i, hi, hi0, hmap⟩ := f.key_not_value
    obtain ⟨c, hc, hm⟩ := hrun₁ (s₂ + i) (by omega) (by omega)
    rw [hkey₂ i hi] at hc
    rw [hc] at hmap
    simp [hm] at hmap
  · -- the second key would open inside the value of the first
    obtain ⟨c, hc, hm⟩ := hrun₁ s₂ (by omega) (by omega)
    rw [hq] at hc
    cases hc
    rw [f.quote_not_value] at hm
    cases hm

theorem eq_of_value {s₁ s₂ d₁ d₂ v₁ v₂ : Nat} (h₁ : f.phase text s₁ d₁ = .value v₁)
    (h₂ : f.phase text s₂ d₂ = .value v₂) (hpos : s₁ + d₁ = s₂ + d₂) : s₁ = s₂ := by
  rcases Nat.lt_trichotomy s₁ s₂ with hlt | heq | hgt
  · exact (not_value_of_lt h₁ h₂ hpos hlt).elim
  · exact heq
  · exact (not_value_of_lt h₂ h₁ hpos.symm hgt).elim

theorem dead_of_lt_value {s s₁ d₁ v₁ : Nat} (h₁ : f.phase text s₁ d₁ = .value v₁) (hlt : s < s₁) :
    f.phase text s (s₁ + d₁ - s) = .dead := by
  have hh₁ : f.Holds text s₁ d₁ (f.phase text s₁ d₁) := holds_phase s₁ d₁
  rw [h₁] at hh₁
  obtain ⟨hkey₁, hkv₁, -, -, hle₁, -⟩ := hh₁
  have hh : f.Holds text s (s₁ + d₁ - s) (f.phase text s (s₁ + d₁ - s)) := holds_phase _ _
  generalize hph : f.phase text s (s₁ + d₁ - s) = ph at hh
  cases ph with
  | key k =>
    -- a run still in the key has read less than the whole key at `s₁`
    obtain ⟨hk, hkn, -⟩ := hh
    omega
  | blanks =>
    obtain ⟨-, hkey, hrun⟩ := hh
    obtain ⟨c, hc, hb⟩ := hrun s₁ (keyFrom_apart hkey hkey₁ hlt) (by omega)
    rw [quote_of_keyFrom hkey₁] at hc
    cases hc
    rw [space_mem_quote] at hb
    cases hb
  | value v => exact (not_value_of_lt hph h₁ (by omega) hlt).elim
  | dead => rfl

end FieldPattern

end FieldScan

end MonitorWire
