import Mathlib
import MonitorWire.Text.Basic

namespace MonitorWire

namespace Text

theorem endsWith_eq_true_iff (s p : String) : s.endsWith p = true ↔ p.toList <:+ s.toList := by
  simp [← String.endsWith_toSlice]

theorem startsWith_eq_true_iff (s p : String) : s.startsWith p = true ↔ p.toList <+: s.toList :=
  String.startsWith_string_iff

theorem trimChars_eq_self {cs : List Char} (hhead : ∀ c ∈ cs.head?, isSpace c = false)
    (hlast : ∀ c ∈ cs.getLast?, isSpace c = false) : trimChars cs = cs := by
  cases cs with
  | nil => rfl
  | cons a rest =>
    have ha : isSpace a = false := hhead a rfl
    rw [trimChars, List.dropWhile_cons_of_neg (by simp [ha])]
    -- the last character is the first of the reversed text
    obtain ⟨init, b, hb⟩ := List.eq_nil_or_concat (a :: rest) |>.resolve_left (by simp)
    have hb' : isSpace b = false := hlast b (by rw [hb]; simp)
    rw [hb, List.concat_eq_append, List.reverse_append, List.reverse_singleton,
      List.singleton_append, List.dropWhile_cons_of_neg (by simp [hb']), List.reverse_cons,
      List.reverse_reverse]

theorem trimChars_isPrefix (cs : List Char) : trimChars cs <+: cs.dropWhile isSpace := by
  have h := List.dropWhile_suffix isSpace (l := (cs.dropWhile isSpace).reverse)
  rw [← List.reverse_prefix, List.reverse_reverse] at h
  exact h

theorem head_trimChars (cs : List Char) : ∀ c ∈ (trimChars cs).head?, isSpace c = false := by
  intro c hc
  have hpre := trimChars_isPrefix cs
  rw [List.prefix_iff_eq_take.1 hpre, List.head?_take] at hc
  split at hc
  · simp at hc
  · have hd := List.head?_dropWhile_not isSpace cs
    rw [Option.mem_def.1 hc] at hd
    exact hd

theorem mem_of_mem_trimChars {c : Char} {cs : List Char} (h : c ∈ trimChars cs) : c ∈ cs :=
  (List.dropWhile_suffix isSpace).subset ((trimChars_isPrefix cs).subset h)

theorem find?_range_reverse {p : Nat → Bool} {n i : Nat} :
    (List.range n).reverse.find? p = some i ↔
      i < n ∧ p i = true ∧ ∀ j, i < j → j < n → p j = false := by
  rw [List.find?_eq_some_iff_getElem]
  simp only [List.length_reverse, List.length_range, List.getElem_reverse, List.getElem_range,
    Bool.not_eq_eq_eq_not, Bool.not_true]
  constructor
  · rintro ⟨hp, k, hk, rfl, hbefore⟩
    refine ⟨by omega, hp, fun j hj hjn => ?_⟩
    have h := hbefore (n - 1 - j) (by omega)
    rwa [show n - 1 - (n - 1 - j) = j by omega] at h
  · rintro ⟨hi, hp, hafter⟩
    refine ⟨hp, n - 1 - i, by omega, by omega, fun j hj => hafter _ (by omega) (by omega)⟩

theorem splitLast_eq_some_iff {c : Char} {s a b : String} :
    splitLast c s = some (a, b) ↔ s.toList = a.toList ++ c :: b.toList ∧ c ∉ b.toList := by
  unfold splitLast
  dsimp only
  constructor
  · intro h
    split at h
    · rename_i i hi
      simp only [Option.some.injEq, Prod.mk.injEq] at h
      obtain ⟨rfl, rfl⟩ := h
      obtain ⟨hin, hci, hafter⟩ := find?_range_reverse.1 hi
      have hci' : s.toList[i] = c := by simpa [hin] using hci
      refine ⟨?_, fun hmem => ?_⟩
      · -- the text is what comes before the occurrence, the occurrence, and what follows
        rw [String.toList_ofList, String.toList_ofList, ← hci', List.getElem_cons_drop,
          List.take_append_drop]
      · -- a later occurrence would have been found first
        rw [String.toList_ofList] at hmem
        obtain ⟨t, ht, heq⟩ := List.getElem_of_mem hmem
        rw [List.getElem_drop] at heq
        have hlen : i + 1 + t < s.toList.length := by
          rw [List.length_drop] at ht
          omega
        have hnot := hafter (i + 1 + t) (by omega) hlen
        simp [hlen, heq] at hnot
    · cases h
  · rintro ⟨hs, hb⟩
    have hfind : (List.range s.toList.length).reverse.find? (fun i => s.toList[i]? == some c) =
        some a.toList.length := by
      rw [find?_range_reverse, hs]
      refine ⟨by simp, by simp, fun j hj hjn => ?_⟩
      -- every later position holds a character of `b`
      obtain ⟨t, rfl⟩ : ∃ t, j = a.toList.length + 1 + t := ⟨j - a.toList.length - 1, by omega⟩
      have hget : (a.toList ++ c :: b.toList)[a.toList.length + 1 + t]? = b.toList[t]? := by
        rw [List.getElem?_append_right (by omega), show a.toList.length + 1 + t -
          a.toList.length = t + 1 by omega, List.getElem?_cons_succ]
      rw [hget, beq_eq_false_iff_ne]
      exact fun h => hb (List.mem_of_getElem? h)
    rw [hfind, hs]
    simp

theorem mem_of_mem_splitOnP {p : Char → Bool} {c : Char} :
    ∀ {xs w : List Char}, w ∈ xs.splitOnP p → c ∈ w → c ∈ xs ∧ p c = false
  | [], w, hw, hc => by
    rw [List.splitOnP_nil, List.mem_singleton] at hw
    subst hw
    cases hc
  | x :: xs, w, hw, hc => by
    rw [List.splitOnP_cons_eq_if_modifyHead] at hw
    split at hw
    · -- a separator starts a new piece
      rcases List.mem_cons.1 hw with rfl | hw
      · cases hc
      · exact (mem_of_mem_splitOnP hw hc).imp_left (List.mem_cons_of_mem x)
    · -- any other character joins the first piece
      rename_i hx
      obtain ⟨r, rs, hr⟩ := List.exists_cons_of_ne_nil (List.splitOnP_ne_nil p xs)
      rw [hr, List.modifyHead_cons] at hw
      rcases List.mem_cons.1 hw with rfl | hw
      · rcases List.mem_cons.1 hc with rfl | hc
        · exact ⟨List.mem_cons_self, by simpa using hx⟩
        · exact (mem_of_mem_splitOnP (hr ▸ List.mem_cons_self) hc).imp_left
            (List.mem_cons_of_mem x)
      · exact (mem_of_mem_splitOnP (hr ▸ List.mem_cons_of_mem r hw) hc).imp_left
          (List.mem_cons_of_mem x)

theorem mem_of_mem_splitChar {x c : Char} {s w : String} (hw : w ∈ splitChar x s)
    (hc : c ∈ w.toList) : c ∈ s.toList ∧ c ≠ x := by
  obtain ⟨w', hw', rfl⟩ := List.mem_map.1 hw
  rw [String.toList_ofList] at hc
  obtain ⟨hcs, hcx⟩ := mem_of_mem_splitOnP hw' hc
  exact ⟨hcs, by simpa using hcx⟩

theorem splitChar_intercalate (x : Char) {ps : List String} (hne : ps ≠ [])
    (hx : ∀ p ∈ ps, x ∉ p.toList) :
    splitChar x ((String.singleton x).intercalate ps) = ps := by
  rw [splitChar, String.toList_intercalate, String.toList_singleton,
    List.splitOn_intercalate x (by simpa using hx) (by simpa using hne), List.map_map]
  simp

theorem foldl_digits_some {cs : List Char} (hd : ∀ c ∈ cs, c.isDigit = true) (a : Nat) :
    cs.foldl (fun acc c => acc.bind fun a =>
      if c.isDigit then some (10 * a + (c.toNat - 48)) else none) (some a) =
      some (Nat.ofDigitChars 10 cs a) := by
  induction cs generalizing a with
  | nil => rfl
  | cons c cs ih =>
    rw [List.foldl_cons, Option.bind_some, if_pos (hd c (by simp)),
      ih (fun d hd' => hd d (List.mem_cons_of_mem _ hd')), Nat.ofDigitChars_cons]
    rfl

theorem digitsValue?_eq {cs : List Char} (hne : cs ≠ []) (hd : ∀ c ∈ cs, c.isDigit = true) :
    digitsValue? cs = some (Nat.ofDigitChars 10 cs 0) := by
  rw [digitsValue?, if_neg (by simpa using hne), foldl_digits_some hd]

theorem parseUnsigned_lt {s : String} {bound n : Nat} (h : parseUnsigned s bound = some n) :
    n < bound := by
  unfold parseUnsigned at h
  dsimp only at h
  split at h
  · split at h
    · cases h
      assumption
    · cases h
  · cases h

theorem isDigit_of_mem_toString {n : Nat} {c : Char} (h : c ∈ (toString n).toList) :
    c.isDigit = true := by
  have h' : c ∈ Nat.toDigits 10 n := by simpa using h
  exact Nat.isDigit_of_mem_toDigits (by decide) (by decide) h'

theorem isSpace_of_isDigit {c : Char} (h : c.isDigit = true) : isSpace c = false := by
  simp only [Char.isDigit, Bool.and_eq_true, decide_eq_true_eq] at h
  have h1 : 48 ≤ c.toNat := h.1
  have h2 : c.toNat ≤ 57 := h.2
  simp only [isSpace]
  generalize c.toNat = n at h1 h2
  simp only [Bool.or_eq_false_iff, Bool.and_eq_false_iff, decide_eq_false_iff_not,
    beq_eq_false_iff_ne]
  omega

theorem parseUnsigned_toString {n bound : Nat} (h : n < bound) :
    parseUnsigned (toString n) bound = some n := by
  have hdigits : ∀ c ∈ (toString n).toList, c.isDigit = true := fun _ =>
    isDigit_of_mem_toString
  have hne : (toString n).toList ≠ [] := by simp
  have hvalue : digitsValue? (toString n).toList = some n := by
    rw [digitsValue?_eq hne hdigits]
    simp
  -- the first character is a digit, not a sign
  have hsign : ∀ rest, (toString n).toList ≠ '+' :: rest := fun rest heq =>
    absurd (hdigits '+' (by rw [heq]; simp)) (by decide)
  unfold parseUnsigned
  dsimp only
  split
  · rename_i v heq
    split at heq
    · rename_i rest hrest
      exact absurd hrest (hsign rest)
    · rw [hvalue] at heq
      cases heq
      simp [h]
  · rename_i heq
    split at heq
    · rename_i rest hrest
      exact absurd hrest (hsign rest)
    · rw [hvalue] at heq
      cases heq

end Text

end MonitorWire
