import Mathlib
import MonitorWire.Api.Version

namespace MonitorWire

namespace Unicode

theorem exists_of_rangesHoldIn {rs : Ranges} {c : Nat} :
    ∀ {fuel lo hi : Nat}, rangesHoldIn rs c fuel lo hi = true → hi ≤ rs.size →
      ∃ r ∈ rs, r.1 ≤ c ∧ c ≤ r.2
  | 0, _, _, h, _ => by simp [rangesHoldIn] at h
  | fuel + 1, lo, hi, h, hhi => by
    rw [rangesHoldIn] at h
    split at h
    · cases h
    · have hmid : (lo + hi) / 2 < rs.size := by omega
      dsimp only at h
      rw [dif_pos hmid] at h
      have hmem : Array.getInternal rs ((lo + hi) / 2) hmid ∈ rs := Array.getElem_mem hmid
      split at h
      · exact exists_of_rangesHoldIn h (by omega)
      · split at h
        · exact exists_of_rangesHoldIn h hhi
        · exact ⟨_, hmem, by omega, by omega⟩

end Unicode

namespace Regex.CharSet

theorem exists_of_mem {s : CharSet} {c : Char} (h : s.mem c = true) :
    ∃ r ∈ s.ranges, r.1 ≤ c.toNat ∧ c.toNat ≤ r.2 :=
  Unicode.exists_of_rangesHoldIn h (Nat.le_refl _)

theorem space_mem_of_digit {c : Char} (h : digit.mem c = true) : space.mem c = false := by
  have hapart : ∀ r ∈ digit.ranges, ∀ r' ∈ space.ranges, r.2 < r'.1 ∨ r'.2 < r.1 := by
    decide +kernel
  cases hs : space.mem c with
  | false => rfl
  | true =>
    obtain ⟨r, hr, hr₁, hr₂⟩ := exists_of_mem h
    obtain ⟨r', hr', hr'₁, hr'₂⟩ := exists_of_mem hs
    have := hapart r hr r' hr'
    omega

theorem digit_mem_dot : digit.mem '.' = false := by decide +kernel

theorem digit_mem_of_isDigit {c : Char} (h : c.isDigit = true) : digit.mem c = true := by
  have hascii : ∀ n < 10, digit.memCode (48 + n) = true := by decide +kernel
  simp only [Char.isDigit, Bool.and_eq_true, decide_eq_true_eq] at h
  have h1 : 48 ≤ c.toNat := h.1
  have h2 : c.toNat ≤ 57 := h.2
  have hc := hascii (c.toNat - 48) (by omega)
  rwa [Nat.add_sub_cancel' h1] at hc

end Regex.CharSet

namespace ApiVersion

open Regex

def lineChars : CharSet := (CharSet.single '\n').complement

inductive Phase where
  | lead
  /-- In the major (`k = 0`) or the minor (`k = 1`) number, which starts at the last of `bs`. -/
  | number (k : Nat) (bs : List Nat)
  | dotted (k : Nat) (bs : List Nat)
  /-- In the revision number, which starts at the last of `bs`. -/
  | revision (bs : List Nat)
  | tail (bs : List Nat) (e j : Nat) (unbroken : Bool)
  | dead
  deriving DecidableEq

/-- Reading the character at `p` after the revision number. A blank may end the text or belong
to the suffix; any other character extends the suffix up to it, unless a line break came
before. -/
def readTail (p : Nat) (bs : List Nat) (e j : Nat) (unbroken : Bool) (c : Char) : Phase :=
  if CharSet.space.mem c then .tail bs e j (unbroken && lineChars.mem c)
  else if unbroken && lineChars.mem c then .tail bs e (p + 1) true
  else .dead

def read (p : Nat) : Phase → Char → Phase
  | .lead, c =>
    if CharSet.space.mem c then .lead else if CharSet.digit.mem c then .number 0 [p] else .dead
  | .number k bs, c =>
    if CharSet.digit.mem c then .number k bs
    else if c = '.' then .dotted k (bs ++ [p, p + 1]) else .dead
  | .dotted k bs, c =>
    if CharSet.digit.mem c then (if k = 0 then .number 1 bs else .revision bs) else .dead
  | .revision bs, c => if CharSet.digit.mem c then .revision bs else readTail p bs p p true c
  | .tail bs e j unbroken, c => readTail p bs e j unbroken c
  | .dead, _ => .dead

def scan : Nat → Phase → List Char → Phase
  | _, ph, [] => ph
  | p, ph, c :: cs => scan (p + 1) (read p ph c) cs

theorem scan_append (p : Nat) (ph : Phase) (xs ys : List Char) :
    scan p ph (xs ++ ys) = scan (p + xs.length) (scan p ph xs) ys := by
  induction xs generalizing p ph with
  | nil => rfl
  | cons c xs ih =>
    rw [List.cons_append, scan, scan, ih, List.length_cons, Nat.add_assoc, Nat.add_comm 1]

theorem scan_take_succ {t : List Char} {p : Nat} {c : Char} (hc : t[p]? = some c) :
    scan 0 .lead (t.take (p + 1)) = read p (scan 0 .lead (t.take p)) c := by
  have hp : p < t.length := (List.getElem?_eq_some_iff.1 hc).1
  rw [List.take_add_one, hc, Option.toList_some, scan_append, List.length_take,
    Nat.min_eq_left (Nat.le_of_lt hp), Nat.zero_add, scan, scan]

def Holds (t : List Char) (p : Nat) : Phase → Prop
  | .lead | .dead => True
  | .number k bs => k < 2 ∧ bs.length = 2 * k + 1
  | .dotted k bs => k < 2 ∧ bs.length = 2 * k + 3
  | .revision bs => bs.length = 5
  | .tail bs e j unbroken =>
    bs.length = 5 ∧ (∀ c ∈ t[e]?, CharSet.digit.mem c = false) ∧ e ≤ j ∧ j ≤ p ∧
      (∀ i, e ≤ i → i < j → ∀ c ∈ t[i]?, lineChars.mem c = true) ∧
      (e < j → ∀ c ∈ t[j - 1]?, CharSet.space.mem c = false) ∧
      (unbroken = true → ∀ i, j ≤ i → i < p → ∀ c ∈ t[i]?, lineChars.mem c = true)

theorem holds_readTail {t : List Char} {p : Nat} {bs : List Nat} {e j : Nat} {unbroken : Bool}
    {c : Char} (hc : t[p]? = some c) (h : Holds t p (.tail bs e j unbroken)) :
    Holds t (p + 1) (readTail p bs e j unbroken c) := by
  obtain ⟨hbs, hdigit, hej, hjp, hline, hlast, hafter⟩ := h
  unfold readTail
  split
  · -- a blank: the suffix stays, and breaks off at a line break
    refine ⟨hbs, hdigit, hej, by omega, hline, hlast, fun hu i hji hip => ?_⟩
    rw [Bool.and_eq_true] at hu
    rcases Nat.lt_or_ge i p with hi | hi
    · exact hafter hu.1 i hji hi
    · rw [show i = p by omega, hc]
      simpa using hu.2
  · split
    · -- any other character of the line extends the suffix up to it
      rename_i hspace hu
      rw [Bool.and_eq_true] at hu
      refine ⟨hbs, hdigit, by omega, le_refl _, fun i hei hip => ?_, fun _ => ?_,
        fun _ i hi hi' => by omega⟩
      · rcases Nat.lt_or_ge i j with hij | hij
        · exact hline i hei hij
        · rcases Nat.lt_or_ge i p with hip' | hip'
          · exact hafter hu.1 i hij hip'
          · rw [show i = p by omega, hc]
            simpa using hu.2
      · rw [Nat.add_sub_cancel, hc]
        simpa using hspace
    · trivial

theorem holds_read {t : List Char} {p : Nat} {ph : Phase} {c : Char} (hc : t[p]? = some c)
    (h : Holds t p ph) : Holds t (p + 1) (read p ph c) := by
  cases ph with
  | lead =>
    simp only [read]
    split
    · trivial
    · split
      · exact ⟨by decide, rfl⟩
      · trivial
  | number k bs =>
    obtain ⟨hk, hbs⟩ := h
    simp only [read]
    split
    · exact ⟨hk, hbs⟩
    · split
      · exact ⟨hk, by simp [hbs]⟩
      · trivial
  | dotted k bs =>
    obtain ⟨hk, hbs⟩ := h
    simp only [read]
    split
    · split
      · exact ⟨by decide, by omega⟩
      · show bs.length = 5
        omega
    · trivial
  | revision bs =>
    simp only [read]
    split
    · exact h
    · -- the revision number ends at `p`, with a character that is no digit
      rename_i hdigit
      refine holds_readTail hc ⟨h, ?_, le_refl _, le_refl _,
        fun i hi hi' => by omega, fun h => by omega, fun _ i hi hi' => by omega⟩
      rw [hc]
      simpa using hdigit
  | tail bs e j unbroken => exact holds_readTail hc h
  | dead => trivial

theorem holds_scan (t : List Char) : ∀ p ≤ t.length, Holds t p (scan 0 .lead (t.take p))
  | 0, _ => trivial
  | p + 1, hp => by
    obtain ⟨c, hc⟩ : ∃ c, t[p]? = some c := ⟨t[p], List.getElem?_eq_getElem (by omega)⟩
    rw [scan_take_succ hc]
    exact holds_read hc (holds_scan t p (by omega))

/-- A suffix that is read whole after the revision number: it starts with no digit, holds no
line break and ends with no blank. -/
structure ReadsWhole (X : List Char) : Prop where
  head : ∀ c ∈ X.head?, CharSet.digit.mem c = false
  line : ∀ c ∈ X, lineChars.mem c = true
  last : ∀ c ∈ X.getLast?, CharSet.space.mem c = false

theorem readsWhole_of_holds {t : List Char} {p : Nat} {bs : List Nat} {e j : Nat}
    {unbroken : Bool} (hp : p ≤ t.length) (h : Holds t p (.tail bs e j unbroken)) :
    ReadsWhole ((t.drop e).take (j - e)) := by
  obtain ⟨-, hdigit, hej, hjp, hline, hlast, -⟩ := h
  refine ⟨fun c hc => hdigit c ?_, fun c hc => ?_, fun c hc => ?_⟩
  · rw [List.head?_take, List.head?_drop] at hc
    split at hc
    · cases hc
    · exact hc
  · obtain ⟨i, hi, rfl⟩ := List.getElem_of_mem hc
    rw [List.length_take, List.length_drop] at hi
    refine hline (e + i) (by omega) (by omega) _ ?_
    rw [List.getElem_take, List.getElem_drop]
    exact List.getElem?_eq_getElem _
  · -- the last character stands at `j - 1`
    have hej' : e < j := by
      by_contra hej'
      rw [show j - e = 0 by omega] at hc
      simp at hc
    refine hlast hej' c ?_
    rw [List.getLast?_eq_getElem?, List.getElem?_take, List.length_take, List.length_drop,
      List.getElem?_drop, show e + (min (j - e) (t.length - e) - 1) = j - 1 by omega] at hc
    split at hc
    · exact hc
    · simp at hc

theorem scan_number_digits {p k : Nat} {bs : List Nat} {ds : List Char}
    (hd : ∀ c ∈ ds, CharSet.digit.mem c = true) : scan p (.number k bs) ds = .number k bs := by
  induction ds generalizing p with
  | nil => rfl
  | cons c ds ih =>
    rw [scan, read, if_pos (hd c List.mem_cons_self)]
    exact ih fun d hd' => hd d (List.mem_cons_of_mem c hd')

theorem scan_revision_digits {p : Nat} {bs : List Nat} {ds : List Char}
    (hd : ∀ c ∈ ds, CharSet.digit.mem c = true) : scan p (.revision bs) ds = .revision bs := by
  induction ds generalizing p with
  | nil => rfl
  | cons c ds ih =>
    rw [scan, read, if_pos (hd c List.mem_cons_self)]
    exact ih fun d hd' => hd d (List.mem_cons_of_mem c hd')

/-- A suffix that ends with no blank and holds no line break, read after the revision number
while no line break has come, is taken whole. The induction is on the suffix. -/
theorem scan_tail_line {p e j : Nat} {bs : List Nat} {X : List Char} (hne : X ≠ [])
    (hline : ∀ c ∈ X, lineChars.mem c = true)
    (hlast : ∀ c ∈ X.getLast?, CharSet.space.mem c = false) :
    scan p (.tail bs e j true) X = .tail bs e (p + X.length) true := by
  induction X generalizing p j with
  | nil => exact absurd rfl hne
  | cons c X ih =>
    have hc := hline c List.mem_cons_self
    rw [scan, read, readTail]
    by_cases hX : X = []
    · -- the last character is no blank
      subst hX
      have hspace : CharSet.space.mem c = false := hlast c rfl
      simp [hspace, hc, scan]
    · have hline' : ∀ d ∈ X, lineChars.mem d = true := fun d hd =>
        hline d (List.mem_cons_of_mem c hd)
      have hlast' : ∀ d ∈ X.getLast?, CharSet.space.mem d = false := by
        rwa [List.getLast?_cons_of_ne_nil hX] at hlast
      split
      · rw [Bool.true_and, hc, ih hX hline' hlast', List.length_cons, Nat.add_assoc,
          Nat.add_comm 1]
      · rw [Bool.true_and, if_pos hc, ih hX hline' hlast', List.length_cons, Nat.add_assoc,
          Nat.add_comm 1]

theorem scan_revision_suffix {p : Nat} {bs : List Nat} {X : List Char} (hX : ReadsWhole X) :
    scan p (.revision bs) X = if X = [] then .revision bs else .tail bs p (p + X.length) true := by
  cases X with
  | nil => rfl
  | cons c X =>
    have hdigit : CharSet.digit.mem c = false := hX.head c rfl
    -- past the revision number, its first character is read as in the suffix
    have hread : read p (.revision bs) c = read p (.tail bs p p true) c := by
      rw [read, if_neg (by simp [hdigit])]
      rfl
    rw [if_neg (List.cons_ne_nil c X), scan, hread, ← scan]
    exact scan_tail_line (List.cons_ne_nil c X) hX.line hX.last

theorem scan_number_dot {p k : Nat} {bs : List Nat} {ds : List Char}
    (hd : ∀ c ∈ ds, CharSet.digit.mem c = true) :
    scan p (.number k bs) (ds ++ ['.']) = .dotted k (bs ++ [p + ds.length, p + ds.length + 1]) := by
  rw [scan_append, scan_number_digits hd, scan, read, if_neg (by simp [CharSet.digit_mem_dot]),
    if_pos rfl, scan]

theorem scan_lead_major {p : Nat} {d : Char} {ds : List Char}
    (hd : ∀ c ∈ d :: ds, CharSet.digit.mem c = true) :
    scan p .lead (d :: ds ++ ['.']) = .dotted 0 [p, p + 1 + ds.length, p + 1 + ds.length + 1] := by
  have hd₁ := hd d List.mem_cons_self
  rw [List.cons_append, scan, read, if_neg (by simp [CharSet.space_mem_of_digit hd₁]),
    if_pos hd₁, scan_number_dot fun c hc => hd c (List.mem_cons_of_mem d hc)]
  rfl

theorem scan_dotted_minor {p : Nat} {bs : List Nat} {d : Char} {ds : List Char}
    (hd : ∀ c ∈ d :: ds, CharSet.digit.mem c = true) :
    scan p (.dotted 0 bs) (d :: ds ++ ['.']) =
      .dotted 1 (bs ++ [p + 1 + ds.length, p + 1 + ds.length + 1]) := by
  have hd₁ := hd d List.mem_cons_self
  rw [List.cons_append, scan, read, if_pos hd₁, if_pos rfl,
    scan_number_dot fun c hc => hd c (List.mem_cons_of_mem d hc)]

theorem scan_dotted_revision {p : Nat} {bs : List Nat} {d : Char} {ds X : List Char}
    (hd : ∀ c ∈ d :: ds, CharSet.digit.mem c = true) (hX : ReadsWhole X) :
    scan p (.dotted 1 bs) (d :: ds ++ X) =
      if X = [] then .revision bs
      else .tail bs (p + 1 + ds.length) (p + 1 + ds.length + X.length) true := by
  have hd₁ := hd d List.mem_cons_self
  rw [List.cons_append, scan, read, if_pos hd₁, if_neg (by decide), scan_append,
    scan_revision_digits fun c hc => hd c (List.mem_cons_of_mem d hc), scan_revision_suffix hX]

theorem scan_printed {m₁ m₂ m₃ X : List Char} (h₁ : m₁ ≠ []) (h₂ : m₂ ≠ []) (h₃ : m₃ ≠ [])
    (hd : ∀ c ∈ m₁ ++ m₂ ++ m₃, CharSet.digit.mem c = true) (hX : ReadsWhole X) :
    let bs := [0, m₁.length, m₁.length + 1, m₁.length + 1 + m₂.length, m₁.length + m₂.length + 2]
    let e := m₁.length + m₂.length + 2 + m₃.length
    scan 0 .lead ((m₁ ++ ['.']) ++ (m₂ ++ ['.']) ++ (m₃ ++ X)) =
      if X = [] then .revision bs else .tail bs e (e + X.length) true := by
  intro bs e
  obtain ⟨d₁, r₁, rfl⟩ := List.exists_cons_of_ne_nil h₁
  obtain ⟨d₂, r₂, rfl⟩ := List.exists_cons_of_ne_nil h₂
  obtain ⟨d₃, r₃, rfl⟩ := List.exists_cons_of_ne_nil h₃
  have hdigit : ∀ c, c ∈ d₁ :: r₁ ∨ c ∈ d₂ :: r₂ ∨ c ∈ d₃ :: r₃ → CharSet.digit.mem c = true :=
    fun c hc => hd c (by simp only [List.mem_append]; tauto)
  rw [scan_append _ _ _ (d₃ :: r₃ ++ X), scan_append _ _ (d₁ :: r₁ ++ ['.']),
    scan_lead_major fun c hc => hdigit c (.inl hc),
    scan_dotted_minor fun c hc => hdigit c (.inr (.inl hc)),
    scan_dotted_revision (fun c hc => hdigit c (.inr (.inr hc))) hX]
  -- the bounds, counted from the lengths of the pieces read
  simp only [List.length_append, List.length_cons, List.length_nil, List.cons_append,
    List.nil_append, bs, e]
  split_ifs
  · congr 1
    simp only [List.cons.injEq, true_and, and_true]
    omega
  · congr 1
    · simp only [List.cons.injEq, true_and, and_true]
      omega
    · omega
    · omega

end ApiVersion

end MonitorWire
