import Mathlib
import MonitorWire.Proofs.VersionScan
import MonitorWire.Proofs.FieldSearch

namespace MonitorWire

namespace Regex

open Regex

structure SeenExactly (prog : Program) (ts : Threads) (F : List Nat) : Prop where
  size_eq : ts.seen.size = prog.size
  getD_eq : ∀ q < prog.size, ts.seen.getD q true = decide (q ∈ F)

namespace SeenExactly

variable {prog : Program} {ts : Threads} {F : List Nat}

theorem empty : SeenExactly prog (Threads.empty prog.size) [] where
  size_eq := Array.size_replicate
  getD_eq q hq := by simp [Threads.empty, hq]

theorem mark (h : SeenExactly prog ts F) (q : Nat) :
    SeenExactly prog { ts with seen := ts.seen.setIfInBounds q true } (q :: F) where
  size_eq := by rw [Array.size_setIfInBounds, h.size_eq]
  getD_eq q' hq' := by
    have hlt : q' < ts.seen.size := h.size_eq ▸ hq'
    by_cases hqq : q' = q
    · subst hqq
      simp [Array.getD_eq_getD_getElem?, hlt]
    · have h' := h.getD_eq q' hq'
      simp only [Array.getD_eq_getD_getElem?, Array.getElem?_setIfInBounds, Ne.symm hqq,
        if_false] at h' ⊢
      simpa [hqq] using h'

theorem unseen (h : SeenExactly prog ts F) {q : Nat} (hq : q < prog.size) (hF : q ∉ F) :
    ts.seen.getD q true = false := by
  simp [h.getD_eq q hq, hF]

end SeenExactly

/-- From any threads whose marks are exactly `F`, the closure from `pc` at `pos` adds the
threads `T` behind them and marks the instructions `G` besides. -/
def ClosureStep (prog : Program) (text : Array Char) (pos fuel pc : Nat) (slots : Slots)
    (F : List Nat) (T : List Thread) (G : List Nat) : Prop :=
  ∀ ts, SeenExactly prog ts F →
    SeenExactly prog (Regex.closure prog text pos fuel pc slots ts) (G ++ F) ∧
      (Regex.closure prog text pos fuel pc slots ts).list.toList = ts.list.toList ++ T

theorem closure_look {prog : Program} {text : Array Char} {pos fuel pc : Nat} {slots : Slots}
    {ts : Threads} {l : Look} {a : Nat} (hseen : ts.seen.getD pc true = false)
    (hi : prog[pc]? = some (.look l a)) :
    Regex.closure prog text pos (fuel + 1) pc slots ts =
      if Regex.holds text pos l then
        Regex.closure prog text pos fuel a slots { ts with seen := ts.seen.setIfInBounds pc true }
      else { ts with seen := ts.seen.setIfInBounds pc true } := by
  simp [Regex.closure, hseen, hi]

namespace ClosureStep

variable {prog : Program} {text : Array Char} {pos fuel pc : Nat} {slots : Slots}
  {F G G₁ G₂ : List Nat} {T T₁ T₂ : List Thread}

theorem seen (hpc : pc < prog.size) (hF : pc ∈ F) :
    ClosureStep prog text pos (fuel + 1) pc slots F [] [] := by
  intro ts h
  have hseen : ts.seen.getD pc true = true := by simp [h.getD_eq pc hpc, hF]
  simp only [Regex.closure, hseen, if_true, List.nil_append, List.append_nil]
  exact ⟨h, trivial⟩

theorem chars {s : CharSet} {a : Nat} (hpc : pc < prog.size) (hF : pc ∉ F)
    (hi : prog[pc]? = some (.chars s a)) :
    ClosureStep prog text pos (fuel + 1) pc slots F [⟨pc, slots⟩] [pc] := by
  intro ts h
  rw [FieldScan.closure_chars (h.unseen hpc hF) hi]
  exact ⟨⟨(h.mark pc).size_eq, (h.mark pc).getD_eq⟩, by simp⟩

theorem accept (hpc : pc < prog.size) (hF : pc ∉ F) (hi : prog[pc]? = some .accept) :
    ClosureStep prog text pos (fuel + 1) pc slots F [⟨pc, slots⟩] [pc] := by
  intro ts h
  rw [FieldScan.closure_accept (h.unseen hpc hF) hi]
  exact ⟨⟨(h.mark pc).size_eq, (h.mark pc).getD_eq⟩, by simp⟩

theorem save {k a : Nat} (hpc : pc < prog.size) (hF : pc ∉ F)
    (hi : prog[pc]? = some (.save k a))
    (h : ClosureStep prog text pos fuel a (slots.setIfInBounds k (some pos)) (pc :: F) T G) :
    ClosureStep prog text pos (fuel + 1) pc slots F T (G ++ [pc]) := by
  intro ts hs
  rw [FieldScan.closure_save (hs.unseen hpc hF) hi]
  obtain ⟨hs', hl⟩ := h _ (hs.mark pc)
  exact ⟨by simpa using hs', hl⟩

theorem split {a b : Nat} (hpc : pc < prog.size) (hF : pc ∉ F)
    (hi : prog[pc]? = some (.split a b)) (h₁ : ClosureStep prog text pos fuel a slots (pc :: F) T₁ G₁)
    (h₂ : ClosureStep prog text pos fuel b slots (G₁ ++ pc :: F) T₂ G₂) :
    ClosureStep prog text pos (fuel + 1) pc slots F (T₁ ++ T₂) (G₂ ++ G₁ ++ [pc]) := by
  intro ts hs
  rw [FieldScan.closure_split (hs.unseen hpc hF) hi]
  obtain ⟨hs₁, hl₁⟩ := h₁ _ (hs.mark pc)
  obtain ⟨hs₂, hl₂⟩ := h₂ _ hs₁
  exact ⟨by simpa using hs₂, by rw [hl₂, hl₁, List.append_assoc]⟩

theorem look {l : Look} {a : Nat} (hpc : pc < prog.size) (hF : pc ∉ F)
    (hi : prog[pc]? = some (.look l a)) (hl : Regex.holds text pos l = true)
    (h : ClosureStep prog text pos fuel a slots (pc :: F) T G) :
    ClosureStep prog text pos (fuel + 1) pc slots F T (G ++ [pc]) := by
  intro ts hs
  rw [closure_look (hs.unseen hpc hF) hi, if_pos hl]
  obtain ⟨hs', hl'⟩ := h _ (hs.mark pc)
  exact ⟨by simpa using hs', hl'⟩

theorem lookFail {l : Look} {a : Nat} (hpc : pc < prog.size) (hF : pc ∉ F)
    (hi : prog[pc]? = some (.look l a)) (hl : Regex.holds text pos l = false) :
    ClosureStep prog text pos (fuel + 1) pc slots F [] [pc] := by
  intro ts hs
  rw [closure_look (hs.unseen hpc hF) hi, if_neg (by simp [hl])]
  exact ⟨⟨(hs.mark pc).size_eq, (hs.mark pc).getD_eq⟩, by simp⟩

end ClosureStep

section Advance

variable {prog : Program} {text : Array Char} {pos : Nat} {rest : List Thread} {next : Threads}
  {t : Thread} {s : CharSet} {a : Nat} {c : Char}

theorem advance_read (hi : prog[t.pc]? = some (.chars s a)) (hc : text[pos]? = some c)
    (hm : s.mem c = true) :
    Regex.advance prog text pos (t :: rest) next =
      Regex.advance prog text pos rest
        (Regex.closure prog text (pos + 1) (prog.size + 1) a t.slots next) := by
  rw [FieldScan.advance_chars hi, hc]
  simp [hm]

theorem advance_drop (hi : prog[t.pc]? = some (.chars s a)) (hc : text[pos]? = some c)
    (hm : s.mem c = false) :
    Regex.advance prog text pos (t :: rest) next = Regex.advance prog text pos rest next := by
  rw [FieldScan.advance_chars hi, hc]
  simp [hm]

theorem advance_at_end (hc : text[pos]? = none) :
    ∀ (list : List Thread) (next : Threads), (Regex.advance prog text pos list next).2 =
      (list.find? fun t => prog[t.pc]? == some .accept).map Thread.slots
  | [], _ => rfl
  | t :: rest, next => by
    rw [Regex.advance]
    cases hi : prog[t.pc]? with
    | none => simp [hi, advance_at_end hc rest next]
    | some inst =>
      cases inst <;> simp [hi, hc, advance_at_end hc rest next]

end Advance

end Regex

namespace ApiVersion

open Regex Regex.Compiled

def program : Program := #[.accept, .save 1 0, .look .finish 1, .split 4 2,
  .chars CharSet.space 3, .split 4 2, .save 9 5, .split 6 8, .chars lineChars 7, .split 6 8,
  .save 8 9, .save 7 10, .split 13 11, .chars CharSet.digit 12, .save 6 13,
  .chars (CharSet.single '.') 14, .save 5 15, .split 18 16, .chars CharSet.digit 17, .save 4 18,
  .chars (CharSet.single '.') 19, .save 3 20, .split 23 21, .chars CharSet.digit 22, .save 2 23,
  .split 26 24, .chars CharSet.space 25, .split 26 24, .look .start 27, .save 0 28]

theorem size_program : program.size = 30 := rfl

theorem compileText_pattern :
    (Regex.compileText pattern).toOption.map (fun r => (r.program, r.start, r.groups)) =
      some (program, 29, 4) := by
  decide +kernel

def boundSlots (bs : List Nat) : Slots :=
  (some 0 :: none :: (bs.map some ++ List.replicate (8 - bs.length) none)).toArray

theorem boundSlots_nil : (Array.replicate (2 * 4 + 2) none).setIfInBounds 0 (some 0) =
    boundSlots [] := rfl

theorem boundSlots_push {bs : List Nat} (h : bs.length < 8) (q : Nat) :
    (boundSlots bs).setIfInBounds (bs.length + 2) (some q) = boundSlots (bs ++ [q]) := by
  unfold boundSlots
  rw [List.setIfInBounds_toArray]
  obtain ⟨m, hm⟩ : ∃ m, 8 - bs.length = m + 1 := ⟨7 - bs.length, by omega⟩
  have hm' : 8 - (bs.length + 1) = m := by omega
  rw [List.set_cons_succ, List.set_cons_succ, List.set_append_right _ _ (by simp), hm,
    List.replicate_succ, List.length_map, Nat.sub_self, List.set_cons_zero, List.length_append,
    List.length_singleton, hm', List.map_append, List.map_singleton, List.append_assoc,
    List.singleton_append]

def ending (atEnd : Bool) (q : Nat) (sl : Slots) : List Thread :=
  if atEnd then [⟨0, sl.setIfInBounds 1 (some q)⟩] else []

def endMarks (atEnd : Bool) : List Nat := if atEnd then [0, 1, 2] else [2]

theorem not_mem_endMarks {atEnd : Bool} {x : Nat} (hx : 2 < x) : x ∉ endMarks atEnd := by
  cases atEnd <;> simp [endMarks] <;> omega

theorem fresh_cons {b b' pc : Nat} {F : List Nat} (hF : ∀ x ≤ b', x ∉ F) (hb : b ≤ b')
    (hpc : b < pc) : ∀ x ≤ b, x ∉ pc :: F := by
  intro x hx hmem
  rcases List.mem_cons.1 hmem with rfl | hmem
  · omega
  · exact hF x (by omega) hmem

def suffixMarks (atEnd : Bool) : List Nat := [8] ++ (endMarks atEnd ++ [4] ++ [5] ++ [6])

def tailThreads (atEnd : Bool) (p : Nat) (bs : List Nat) (e j : Nat) (unbroken : Bool) :
    List Thread :=
  ⟨4, boundSlots (bs ++ [e, e, j])⟩ :: ending atEnd p (boundSlots (bs ++ [e, e, j])) ++
    if unbroken then [⟨8, boundSlots (bs ++ [e, e])⟩] else []

def threads (n p : Nat) : Phase → List Thread
  | .lead => [⟨26, boundSlots []⟩, ⟨23, boundSlots [p]⟩]
  | .number k bs => [⟨23 - 5 * k, boundSlots bs⟩, ⟨20 - 5 * k, boundSlots (bs ++ [p])⟩]
  | .dotted k bs => [⟨18 - 5 * k, boundSlots bs⟩]
  | .revision bs => ⟨13, boundSlots bs⟩ :: tailThreads (p == n) p bs p p true
  | .tail bs e j unbroken => tailThreads (p == n) p bs e j unbroken
  | .dead => []

section Closures

variable {text : Array Char} {q : Nat} {sl : Slots} {F : List Nat}

theorem closure_end (fuel : Nat) (hF : ∀ x ≤ 2, x ∉ F) :
    ClosureStep program text q (fuel + 3) 2 sl F (ending (q == text.size) q sl)
      (endMarks (q == text.size)) := by
  cases hq : q == text.size with
  | true =>
    have h0 : ClosureStep program text q (fuel + 1) 0 (sl.setIfInBounds 1 (some q)) (1 :: 2 :: F)
        [⟨0, sl.setIfInBounds 1 (some q)⟩] [0] :=
      .accept (by decide) (by simp [hF 0 (by omega)]) rfl
    exact .look (by decide) (hF 2 (le_refl 2)) rfl (show Regex.holds text q .finish = true from hq)
      (.save (by decide) (by simp [hF 1 (by omega)]) rfl h0)
  | false =>
    exact .lookFail (by decide) (hF 2 (le_refl 2)) rfl
      (show Regex.holds text q .finish = false from hq)

theorem closure_blanks (fuel : Nat) {pc : Nat} (hpc : pc = 3 ∨ pc = 5) (hF : ∀ x ≤ 5, x ∉ F) :
    ClosureStep program text q (fuel + 4) pc sl F (⟨4, sl⟩ :: ending (q == text.size) q sl)
      (endMarks (q == text.size) ++ [4] ++ [pc]) := by
  have hi : program[pc]? = some (.split 4 2) := by rcases hpc with rfl | rfl <;> rfl
  have hpc' : pc < program.size := by rw [size_program]; omega
  refine .split hpc' (hF pc (by omega)) hi
    (.chars (by decide) (List.not_mem_cons_of_ne_of_not_mem (by omega) (hF 4 (by omega))) rfl)
    (closure_end fuel fun x hx hmem => ?_)
  simp only [List.cons_append, List.nil_append, List.mem_cons] at hmem
  rcases hmem with rfl | rfl | hmem
  · omega
  · omega
  · exact hF x (by omega) hmem

theorem closure_suffixEnd (fuel : Nat) (hF : ∀ x ≤ 6, x ∉ F) :
    ClosureStep program text q (fuel + 5) 6 sl F
      (⟨4, sl.setIfInBounds 9 (some q)⟩ :: ending (q == text.size) q (sl.setIfInBounds 9 (some q)))
      (endMarks (q == text.size) ++ [4] ++ [5] ++ [6]) :=
  .save (by decide) (hF 6 (le_refl 6)) rfl
    (closure_blanks fuel (.inr rfl) (fresh_cons hF (by omega) (by omega)))

theorem closure_suffix (fuel : Nat) {pc : Nat} (hpc : pc = 7 ∨ pc = 9) (hF : ∀ x ≤ 9, x ∉ F) :
    ClosureStep program text q (fuel + 6) pc sl F
      ((⟨4, sl.setIfInBounds 9 (some q)⟩ ::
          ending (q == text.size) q (sl.setIfInBounds 9 (some q))) ++ [⟨8, sl⟩])
      ([8] ++ (endMarks (q == text.size) ++ [4] ++ [5] ++ [6]) ++ [pc]) := by
  have hi : program[pc]? = some (.split 6 8) := by rcases hpc with rfl | rfl <;> rfl
  have hpc' : pc < program.size := by rw [size_program]; omega
  refine .split hpc' (hF pc (by omega)) hi
    (closure_suffixEnd fuel (fresh_cons hF (by omega) (by omega))) (.chars (by decide) ?_ rfl)
  intro hmem
  rcases List.mem_append.1 hmem with hG | hrest
  · -- the end of the suffix marks instructions below it
    simp only [List.append_assoc, List.singleton_append, List.mem_append, List.mem_cons,
      List.not_mem_nil, or_false] at hG
    rcases hG with hG | hG
    · exact not_mem_endMarks (by decide) hG
    · omega
  · rcases List.mem_cons.1 hrest with h | h
    · omega
    · exact hF 8 (by omega) h

theorem closure_revision (fuel : Nat) {bs : List Nat} (hbs : bs.length = 5)
    (hF : ∀ x ≤ 13, x ∉ F) :
    ClosureStep program text q (fuel + 9) 12 (boundSlots bs) F
      (⟨13, boundSlots bs⟩ :: tailThreads (q == text.size) q bs q q true)
      (suffixMarks (q == text.size) ++ [9] ++ [10] ++ [11] ++ [13] ++ [12]) := by
  -- the revision number's end and the suffix's start are saved, then the suffix's end
  have h7 : (boundSlots bs).setIfInBounds 7 (some q) = boundSlots (bs ++ [q]) := by
    simpa [hbs] using boundSlots_push (show bs.length < 8 by omega) q
  have h8 : (boundSlots (bs ++ [q])).setIfInBounds 8 (some q) = boundSlots (bs ++ [q, q]) := by
    simpa [hbs] using boundSlots_push (show (bs ++ [q]).length < 8 by simp [hbs]) q
  have h9 : (boundSlots (bs ++ [q, q])).setIfInBounds 9 (some q) =
      boundSlots (bs ++ [q, q, q]) := by
    simpa [hbs] using boundSlots_push (show (bs ++ [q, q]).length < 8 by simp [hbs]) q
  have hsuffix : ClosureStep program text q (fuel + 6) 9 (boundSlots (bs ++ [q, q]))
      (10 :: 11 :: ([13] ++ 12 :: F)) _ _ :=
    closure_suffix fuel (.inr rfl) fun x hx hmem => by
      simp only [List.cons_append, List.nil_append, List.mem_cons] at hmem
      rcases hmem with rfl | rfl | rfl | rfl | hmem
      · omega
      · omega
      · omega
      · omega
      · exact hF x (by omega) hmem
  rw [h9] at hsuffix
  have h10 : ClosureStep program text q (fuel + 7) 10 (boundSlots (bs ++ [q]))
      (11 :: ([13] ++ 12 :: F)) _ _ :=
    .save (by decide) (by simp [hF 10 (by omega)]) rfl (by rw [h8]; exact hsuffix)
  have h11 : ClosureStep program text q (fuel + 8) 11 (boundSlots bs) ([13] ++ 12 :: F) _ _ :=
    .save (by decide) (by simp [hF 11 (by omega)]) rfl (by rw [h7]; exact h10)
  have h12 := ClosureStep.split (by decide) (hF 12 (by omega)) rfl
    (.chars (by decide) (by simp [hF 13 (le_refl 13)]) rfl) h11
  simpa [tailThreads, suffixMarks] using h12

theorem closure_suffix_after_blank (fuel : Nat) {sl : Slots} (hseen : 4 ∈ F ∧ 2 ∈ F)
    (hF : ∀ x, 5 ≤ x → x ≤ 8 → x ∉ F) :
    ClosureStep program text q (fuel + 6) 7 sl F [⟨8, sl⟩] ([8] ++ ([5] ++ [6]) ++ [7]) := by
  have h5 : ClosureStep program text q (fuel + 4) 5 (sl.setIfInBounds 9 (some q)) (6 :: 7 :: F)
      [] ([] ++ [] ++ [5]) :=
    .split (by decide) (by simp [hF 5 (le_refl 5) (by omega)]) rfl
      (.seen (by decide) (by simp [hseen.1])) (.seen (by decide) (by simp [hseen.2]))
  exact .split (by decide) (hF 7 (by omega) (by omega)) rfl
    (.save (by decide) (by simp [hF 6 (by omega) (by omega)]) rfl h5)
    (.chars (by decide) (by simp [hF 8 (by omega) (le_refl 8)]) rfl)

theorem closure_suffix_after_digit (fuel : Nat) {sl : Slots} (h6 : 6 ∈ F) (h8 : 8 ∈ F)
    (h7 : 7 ∉ F) : ClosureStep program text q (fuel + 2) 7 sl F [] ([] ++ [] ++ [7]) :=
  .split (by decide) h7 rfl (.seen (by decide) (by simp [h6])) (.seen (by decide) (by simp [h8]))

theorem getElem?_program_number {k : Nat} (hk : k < 2) :
    program[22 - 5 * k]? = some (.split (23 - 5 * k) (21 - 5 * k)) ∧
      program[23 - 5 * k]? = some (.chars CharSet.digit (22 - 5 * k)) ∧
      program[21 - 5 * k]? = some (.save (2 * k + 3) (20 - 5 * k)) ∧
      program[20 - 5 * k]? = some (.chars (CharSet.single '.') (19 - 5 * k)) ∧
      program[19 - 5 * k]? = some (.save (2 * k + 4) (18 - 5 * k)) ∧
      program[18 - 5 * k]? = some (.chars CharSet.digit (17 - 5 * k)) := by
  obtain rfl | rfl : k = 0 ∨ k = 1 := by omega
  · exact ⟨rfl, rfl, rfl, rfl, rfl, rfl⟩
  · exact ⟨rfl, rfl, rfl, rfl, rfl, rfl⟩

theorem closure_number (fuel : Nat) {k : Nat} (hk : k < 2) {bs : List Nat}
    (hbs : bs.length = 2 * k + 1) :
    ClosureStep program text q (fuel + 3) (22 - 5 * k) (boundSlots bs) []
      [⟨23 - 5 * k, boundSlots bs⟩, ⟨20 - 5 * k, boundSlots (bs ++ [q])⟩]
      ([20 - 5 * k] ++ [21 - 5 * k] ++ [23 - 5 * k] ++ [22 - 5 * k]) := by
  obtain ⟨hsplit, hdigit, hsave, hdot, -, -⟩ := getElem?_program_number hk
  have hend : (boundSlots bs).setIfInBounds (2 * k + 3) (some q) = boundSlots (bs ++ [q]) := by
    rw [show 2 * k + 3 = bs.length + 2 by omega]
    exact boundSlots_push (by omega) q
  exact .split (by rw [size_program]; omega) (by simp) hsplit
    (.chars (by rw [size_program]; omega) (by simp; omega) hdigit)
    (.save (by rw [size_program]; omega) (by simp; omega) hsave
      (by rw [hend]; exact .chars (by rw [size_program]; omega) (by simp; omega) hdot))

theorem closure_dot (fuel : Nat) {k : Nat} (hk : k < 2) {bs : List Nat}
    (hbs : bs.length = 2 * k + 2) :
    ClosureStep program text q (fuel + 2) (19 - 5 * k) (boundSlots bs) []
      [⟨18 - 5 * k, boundSlots (bs ++ [q])⟩] ([18 - 5 * k] ++ [19 - 5 * k]) := by
  obtain ⟨-, -, -, -, hsave, hdigit⟩ := getElem?_program_number hk
  have hstart : (boundSlots bs).setIfInBounds (2 * k + 4) (some q) = boundSlots (bs ++ [q]) := by
    rw [show 2 * k + 4 = bs.length + 2 by omega]
    exact boundSlots_push (by omega) q
  exact .save (by rw [size_program]; omega) (by simp) hsave
    (by rw [hstart]; exact .chars (by rw [size_program]; omega) (by simp; omega) hdigit)

theorem closure_lead (fuel : Nat) {pc : Nat} (hpc : pc = 25 ∨ pc = 27)
    (hF : ∀ x, 23 ≤ x → x ≤ 27 → x ∉ F) :
    ClosureStep program text q (fuel + 3) pc (boundSlots []) F
      [⟨26, boundSlots []⟩, ⟨23, boundSlots [q]⟩] ([23] ++ [24] ++ [26] ++ [pc]) := by
  have hi : program[pc]? = some (.split 26 24) := by rcases hpc with rfl | rfl <;> rfl
  exact .split (by rw [size_program]; omega) (hF pc (by omega) (by omega)) hi
    (.chars (by decide) (by simp; exact ⟨by omega, hF 26 (by omega) (by omega)⟩) rfl)
    (.save (by decide) (by simp; exact ⟨by omega, hF 24 (by omega) (by omega)⟩) rfl
      (.chars (by decide) (by simp; exact ⟨by omega, hF 23 (by omega) (by omega)⟩) rfl))

theorem closure_start (fuel : Nat) :
    ClosureStep program text 0 (fuel + 5) 29 (Array.replicate (2 * 4 + 2) none) []
      [⟨26, boundSlots []⟩, ⟨23, boundSlots [0]⟩] ([23] ++ [24] ++ [26] ++ [27] ++ [28] ++ [29]) := by
  refine .save (by decide) (by simp) rfl ?_
  rw [boundSlots_nil]
  exact .look (by decide) (by simp) rfl rfl (closure_lead fuel (.inr rfl) (by simp; omega))

theorem closure_start_later {ts : Threads} (hq : q ≠ 0) (fuel : Nat) (slots : Slots) :
    (Regex.closure program text q fuel 29 slots ts).list = ts.list := by
  cases fuel with
  | zero => rfl
  | succ fuel =>
    rw [Regex.closure]
    split
    · rfl
    · -- the saved start goes to the assertion of the start, which fails here
      show (Regex.closure program text q fuel 28 _ _).list = ts.list
      cases fuel with
      | zero => rfl
      | succ fuel =>
        rw [Regex.closure]
        split
        · rfl
        · have h28 : program[28]? = some (.look .start 27) := rfl
          have hstart : Regex.holds text q .start = false := by simp [Regex.holds, hq]
          simp [h28, hstart]

end Closures

section Steps

variable {text : Array Char} {p : Nat} {c : Char}

theorem digit_mem_of_space (h : CharSet.space.mem c = true) : CharSet.digit.mem c = false := by
  cases hd : CharSet.digit.mem c with
  | false => rfl
  | true => rw [CharSet.space_mem_of_digit hd] at h; cases h

theorem dot_mem_of_digit (h : CharSet.digit.mem c = true) : (CharSet.single '.').mem c = false := by
  rw [FieldScan.mem_single, decide_eq_false_iff_not]
  rintro rfl
  rw [CharSet.digit_mem_dot] at h
  cases h

theorem lt_size_of_getElem? (hc : text[p]? = some c) : p < text.size :=
  (Array.getElem?_eq_some_iff.1 hc).1

theorem advance_lead (hc : text[p]? = some c) :
    ∃ next, next.list.toList = threads text.size (p + 1) (read p .lead c) ∧
      Regex.advance program text p (threads text.size p .lead) (Threads.empty program.size) =
        (next, none) := by
  rw [read]
  by_cases hspace : CharSet.space.mem c = true
  · -- another blank: the blanks' thread moves, the major number's does not
    have hcl : ClosureStep program text (p + 1) (program.size + 1) 25 (boundSlots []) [] _ _ :=
      closure_lead 28 (.inl rfl) (by simp)
    obtain ⟨-, hl⟩ := hcl _ SeenExactly.empty
    rw [if_pos hspace]
    simp only [threads]
    rw [advance_read rfl hc hspace, advance_drop rfl hc (digit_mem_of_space hspace),
      Regex.advance]
    exact ⟨_, by rw [hl]; rfl, rfl⟩
  · rw [if_neg hspace]
    simp only [threads]
    rw [advance_drop rfl hc (by simpa using hspace)]
    by_cases hdigit : CharSet.digit.mem c = true
    · -- the major number starts here
      have hcl : ClosureStep program text (p + 1) (program.size + 1) 22 (boundSlots [p]) [] _ _ :=
        closure_number 28 (k := 0) (by decide) (show [p].length = 2 * 0 + 1 from rfl)
      obtain ⟨-, hl⟩ := hcl _ SeenExactly.empty
      rw [if_pos hdigit, advance_read rfl hc hdigit, Regex.advance]
      exact ⟨_, by rw [hl]; rfl, rfl⟩
    · rw [if_neg hdigit, advance_drop rfl hc (by simpa using hdigit), Regex.advance]
      exact ⟨_, rfl, rfl⟩

theorem advance_number {k : Nat} {bs : List Nat} (hk : k < 2) (hbs : bs.length = 2 * k + 1)
    (hc : text[p]? = some c) :
    ∃ next, next.list.toList = threads text.size (p + 1) (read p (.number k bs) c) ∧
      Regex.advance program text p (threads text.size p (.number k bs))
        (Threads.empty program.size) = (next, none) := by
  obtain ⟨-, hdigitInst, -, hdotInst, -, -⟩ := getElem?_program_number hk
  rw [read]
  by_cases hdigit : CharSet.digit.mem c = true
  · -- more of the number
    have hcl : ClosureStep program text (p + 1) (program.size + 1) (22 - 5 * k) (boundSlots bs)
        [] _ _ := closure_number 28 hk hbs
    obtain ⟨-, hl⟩ := hcl _ SeenExactly.empty
    rw [if_pos hdigit]
    simp only [threads]
    rw [advance_read hdigitInst hc hdigit, advance_drop hdotInst hc (dot_mem_of_digit hdigit),
      Regex.advance]
    exact ⟨_, by rw [hl]; rfl, rfl⟩
  · rw [if_neg hdigit]
    simp only [threads]
    rw [advance_drop hdigitInst hc (by simpa using hdigit)]
    by_cases hdot : c = '.'
    · -- the dot: the next number starts past it
      subst hdot
      have hcl : ClosureStep program text (p + 1) (program.size + 1) (19 - 5 * k)
          (boundSlots (bs ++ [p])) [] _ _ := closure_dot 29 hk (by simp [hbs])
      obtain ⟨-, hl⟩ := hcl _ SeenExactly.empty
      rw [if_pos rfl, advance_read hdotInst hc (by simp [FieldScan.mem_single]), Regex.advance]
      exact ⟨_, by rw [hl]; simp [Threads.empty], rfl⟩
    · rw [if_neg hdot, advance_drop hdotInst hc (by simp [FieldScan.mem_single, hdot]),
        Regex.advance]
      exact ⟨_, rfl, rfl⟩

theorem advance_dotted {k : Nat} {bs : List Nat} (hk : k < 2) (hbs : bs.length = 2 * k + 3)
    (hc : text[p]? = some c) :
    ∃ next, next.list.toList = threads text.size (p + 1) (read p (.dotted k bs) c) ∧
      Regex.advance program text p (threads text.size p (.dotted k bs))
        (Threads.empty program.size) = (next, none) := by
  obtain ⟨-, -, -, -, -, hdigitInst⟩ := getElem?_program_number hk
  rw [read]
  by_cases hdigit : CharSet.digit.mem c = true
  · rw [if_pos hdigit]
    simp only [threads]
    rw [advance_read hdigitInst hc hdigit, Regex.advance]
    obtain rfl | rfl : k = 0 ∨ k = 1 := by omega
    · -- the minor number starts here
      have hcl : ClosureStep program text (p + 1) (program.size + 1) 17 (boundSlots bs) [] _ _ :=
        closure_number 28 (k := 1) (by decide) (by simpa using hbs)
      obtain ⟨-, hl⟩ := hcl _ SeenExactly.empty
      exact ⟨_, by rw [hl]; rfl, rfl⟩
    · -- the revision number starts here
      have hcl : ClosureStep program text (p + 1) (program.size + 1) 12 (boundSlots bs) [] _ _ :=
        closure_revision 22 (by simpa using hbs) (by simp)
      obtain ⟨-, hl⟩ := hcl _ SeenExactly.empty
      exact ⟨_, by rw [hl]; rfl, rfl⟩
  · rw [if_neg hdigit]
    simp only [threads]
    rw [advance_drop hdigitInst hc (by simpa using hdigit), Regex.advance]
    exact ⟨_, rfl, rfl⟩

theorem two_mem_endMarks (atEnd : Bool) : 2 ∈ endMarks atEnd := by
  cases atEnd <;> simp [endMarks]

theorem advance_tail_blank {bs : List Nat} {e j : Nat} {unbroken : Bool} (hc : text[p]? = some c)
    (hspace : CharSet.space.mem c = true) :
    ∃ next, next.list.toList =
        threads text.size (p + 1) (.tail bs e j (unbroken && lineChars.mem c)) ∧
      Regex.advance program text p (tailThreads false p bs e j unbroken)
        (Threads.empty program.size) = (next, none) := by
  have hblank : program[4]? = some (.chars CharSet.space 3) := rfl
  have hline : program[8]? = some (.chars lineChars 7) := rfl
  have hcl : ClosureStep program text (p + 1) (program.size + 1) 3
      (boundSlots (bs ++ [e, e, j])) [] _ _ := closure_blanks 27 (.inl rfl) (by simp)
  obtain ⟨hs₁, hl₁⟩ := hcl _ SeenExactly.empty
  simp only [tailThreads, ending, Bool.false_eq_true, if_false, List.nil_append,
    List.cons_append]
  rw [advance_read hblank hc hspace]
  cases unbroken with
  | false =>
    simp only [Bool.false_eq_true, if_false]
    rw [Regex.advance]
    exact ⟨_, by rw [hl₁]; simp [threads, tailThreads, Threads.empty], rfl⟩
  | true =>
    by_cases hl : lineChars.mem c = true
    · -- the blanks' closure has marked the trailing blanks and the end
      have hmarks : ∀ x, 5 ≤ x → x ≤ 8 →
          x ∉ endMarks (p + 1 == text.size) ++ [4] ++ [3] ++ [] := by
        intro x hx hx' hmem
        simp only [List.append_nil, List.mem_append, List.mem_cons, List.not_mem_nil,
          or_false] at hmem
        rcases hmem with (hmem | hmem) | hmem
        · exact not_mem_endMarks (by omega) hmem
        · omega
        · omega
      have hcl' : ClosureStep program text (p + 1) (program.size + 1) 7
          (boundSlots (bs ++ [e, e])) _ _ _ :=
        closure_suffix_after_blank 25
          ⟨by simp, by simp [two_mem_endMarks]⟩ hmarks
      obtain ⟨-, hl₂⟩ := hcl' _ hs₁
      simp only [if_true]
      rw [advance_read hline hc hl, Regex.advance]
      exact ⟨_, by rw [hl₂, hl₁]; simp [threads, tailThreads, hl, Threads.empty], rfl⟩
    · simp only [if_true]
      rw [advance_drop hline hc (by simpa using hl), Regex.advance]
      exact ⟨_, by rw [hl₁]; simp [threads, tailThreads, hl, Threads.empty], rfl⟩

theorem advance_tail_other {bs : List Nat} {e j : Nat} {unbroken : Bool} (hbs : bs.length = 5)
    (hc : text[p]? = some c) (hspace : ¬CharSet.space.mem c = true) :
    ∃ next, next.list.toList = threads text.size (p + 1)
        (if unbroken && lineChars.mem c then .tail bs e (p + 1) true else .dead) ∧
      Regex.advance program text p (tailThreads false p bs e j unbroken)
        (Threads.empty program.size) = (next, none) := by
  have hblank : program[4]? = some (.chars CharSet.space 3) := rfl
  have hline : program[8]? = some (.chars lineChars 7) := rfl
  simp only [tailThreads, ending, Bool.false_eq_true, if_false, List.nil_append,
    List.cons_append]
  rw [advance_drop hblank hc (by simpa using hspace)]
  by_cases hmore : (unbroken && lineChars.mem c) = true
  · -- another character of the suffix: the suffix ends past it
    obtain ⟨rfl, hl⟩ := Bool.and_eq_true_iff.1 hmore
    have h9 : (boundSlots (bs ++ [e, e])).setIfInBounds 9 (some (p + 1)) =
        boundSlots (bs ++ [e, e, p + 1]) := by
      simpa [hbs] using boundSlots_push (show (bs ++ [e, e]).length < 8 by simp [hbs]) (p + 1)
    have hcl : ClosureStep program text (p + 1) (program.size + 1) 7
        (boundSlots (bs ++ [e, e])) [] _ _ := closure_suffix 25 (.inl rfl) (by simp)
    obtain ⟨-, hl₁⟩ := hcl _ SeenExactly.empty
    rw [if_pos hmore]
    simp only [if_true]
    rw [advance_read hline hc hl, Regex.advance]
    exact ⟨_, by rw [hl₁, h9]; simp [threads, tailThreads, Threads.empty], rfl⟩
  · rw [if_neg hmore]
    cases unbroken with
    | false =>
      simp only [Bool.false_eq_true, if_false]
      rw [Regex.advance]
      exact ⟨_, rfl, rfl⟩
    | true =>
      have hl : lineChars.mem c = false := by simpa using hmore
      simp only [if_true]
      rw [advance_drop hline hc hl, Regex.advance]
      exact ⟨_, rfl, rfl⟩

theorem advance_tail {bs : List Nat} {e j : Nat} {unbroken : Bool} (hbs : bs.length = 5)
    (hc : text[p]? = some c) :
    ∃ next, next.list.toList = threads text.size (p + 1) (readTail p bs e j unbroken c) ∧
      Regex.advance program text p (tailThreads false p bs e j unbroken)
        (Threads.empty program.size) = (next, none) := by
  rw [readTail]
  by_cases hspace : CharSet.space.mem c = true
  · rw [if_pos hspace]
    exact advance_tail_blank hc hspace
  · rw [if_neg hspace]
    exact advance_tail_other hbs hc hspace

theorem advance_revision {bs : List Nat} (hbs : bs.length = 5) (hc : text[p]? = some c) :
    ∃ next, next.list.toList = threads text.size (p + 1) (read p (.revision bs) c) ∧
      Regex.advance program text p (threads text.size p (.revision bs))
        (Threads.empty program.size) = (next, none) := by
  have hdigitInst : program[13]? = some (.chars CharSet.digit 12) := rfl
  have hpn : (p == text.size) = false := by
    simpa using Nat.ne_of_lt (lt_size_of_getElem? hc)
  have hthreads : threads text.size p (.revision bs) =
      ⟨13, boundSlots bs⟩ :: tailThreads false p bs p p true := by
    simp [threads, hpn]
  rw [hthreads, read]
  by_cases hdigit : CharSet.digit.mem c = true
  · -- more of the revision number: its own move marks the suffix and the trailing blanks, and
    -- the threads behind it add nothing
    have hcl : ClosureStep program text (p + 1) (program.size + 1) 12 (boundSlots bs) [] _ _ :=
      closure_revision 22 hbs (by simp)
    obtain ⟨hs₁, hl₁⟩ := hcl _ SeenExactly.empty
    rw [if_pos hdigit, advance_read hdigitInst hc hdigit]
    simp only [tailThreads, ending, Bool.false_eq_true, if_false, List.nil_append,
      List.cons_append, if_true]
    rw [advance_drop rfl hc (CharSet.space_mem_of_digit hdigit)]
    by_cases hl : lineChars.mem c = true
    · have hcl' : ClosureStep program text (p + 1) (program.size + 1) 7
          (boundSlots (bs ++ [p, p]))
          (suffixMarks (p + 1 == text.size) ++ [9] ++ [10] ++ [11] ++ [13] ++ [12] ++ []) [] _ :=
        closure_suffix_after_digit 29 (by simp [suffixMarks]) (by simp [suffixMarks])
          (by simp [suffixMarks, not_mem_endMarks])
      obtain ⟨-, hl₂⟩ := hcl' _ hs₁
      rw [advance_read rfl hc hl, Regex.advance]
      exact ⟨_, by rw [hl₂, hl₁]; simp [threads, Threads.empty], rfl⟩
    · rw [advance_drop rfl hc (by simpa using hl), Regex.advance]
      exact ⟨_, by rw [hl₁]; simp [threads, Threads.empty], rfl⟩
  · -- past the revision number: its thread is dropped, and the others read as past it
    rw [if_neg hdigit, advance_drop hdigitInst hc (by simpa using hdigit)]
    exact advance_tail hbs hc

theorem advance_threads {ph : Phase} (hh : Holds text.toList p ph) (hc : text[p]? = some c) :
    ∃ next, next.list.toList = threads text.size (p + 1) (read p ph c) ∧
      Regex.advance program text p (threads text.size p ph) (Threads.empty program.size) =
        (next, none) := by
  cases ph with
  | lead => exact advance_lead hc
  | number k bs => exact advance_number hh.1 hh.2 hc
  | dotted k bs => exact advance_dotted hh.1 hh.2 hc
  | revision bs => exact advance_revision hh hc
  | tail bs e j unbroken =>
    have hpn : (p == text.size) = false := by
      simpa using Nat.ne_of_lt (lt_size_of_getElem? hc)
    rw [read]
    simp only [threads, hpn]
    exact advance_tail hh.1 hc
  | dead => exact ⟨Threads.empty program.size, rfl, rfl⟩

end Steps

def accepted (n : Nat) : Phase → Option Slots
  | .revision bs => some ((boundSlots (bs ++ [n, n, n])).setIfInBounds 1 (some n))
  | .tail bs e j _ => some ((boundSlots (bs ++ [e, e, j])).setIfInBounds 1 (some n))
  | _ => none

theorem accept_at {pc : Nat} (hpc : pc < 30) :
    (program[pc]? == some .accept) = (pc == 0) := by
  revert pc
  decide

theorem advance_end {text : Array Char} {ph : Phase} (hh : Holds text.toList text.size ph)
    (next : Threads) :
    (Regex.advance program text text.size (threads text.size text.size ph) next).2 =
      accepted text.size ph := by
  rw [advance_at_end (by simp)]
  cases ph with
  | number k bs =>
    obtain rfl | rfl : k = 0 ∨ k = 1 := by have := hh.1; omega
    all_goals simp [threads, accepted, accept_at]
  | dotted k bs =>
    obtain rfl | rfl : k = 0 ∨ k = 1 := by have := hh.1; omega
    all_goals simp [threads, accepted, accept_at]
  | _ => simp [threads, tailThreads, ending, accepted, accept_at]

variable {r : Compiled} {text : Array Char}

/-- From a position past the start on, the machine holds the threads of the phase of the text
read so far and finds no match before the end, where it reports the match of the last phase.
The induction is on the fuel, one position a step. -/
theorem run_threads (hr : r.program = program ∧ r.start = 29 ∧ r.groups = 4) :
    ∀ fuel p (curr : Threads), 0 < p → p ≤ text.size → text.size - p < fuel →
      curr.list.toList = threads text.size p (scan 0 .lead (text.toList.take p)) →
      r.run text fuel p curr none = accepted text.size (scan 0 .lead text.toList) := by
  intro fuel
  induction fuel with
  | zero => intro p curr _ _ hfuel; omega
  | succ fuel ih =>
    intro p curr hp hpn hfuel hcurr
    -- the match cannot start here: the closure from the start adds nothing
    have hstart : (Regex.closure r.program text p (r.program.size + 1) r.start
        (Array.replicate (2 * r.groups + 2) none) curr).list.toList =
          threads text.size p (scan 0 .lead (text.toList.take p)) := by
      rw [hr.1, hr.2.1, closure_start_later (by omega), hcurr]
    have hh := holds_scan text.toList p (by simpa using hpn)
    by_cases hend : p = text.size
    · -- the end of the text: the last phase reports its match
      subst hend
      rw [List.take_of_length_le (by simp)] at hstart hh
      rw [FieldScan.run_succ_none Prod.mk.eta.symm, hstart, hr.1, if_pos (le_refl _)]
      exact advance_end hh (Threads.empty program.size)
    · -- a character is read, and the phase moves on
      obtain ⟨c, hc⟩ : ∃ c, text[p]? = some c := ⟨text[p], Array.getElem?_eq_getElem (by omega)⟩
      obtain ⟨next, hnext, hadv⟩ := advance_threads hh hc
      rw [← hr.1, ← hstart] at hadv
      rw [FieldScan.run_succ_none hadv, if_neg (by omega)]
      refine ih (p + 1) next (by omega) (by omega) (by omega) ?_
      rw [hnext, scan_take_succ (by simpa using hc)]

theorem searchAt_eq_accepted (hr : r.program = program ∧ r.start = 29 ∧ r.groups = 4)
    (text : Array Char) : r.searchAt text 0 = accepted text.size (scan 0 .lead text.toList) := by
  rw [Regex.Compiled.searchAt, if_neg (by omega), Nat.sub_zero,
    show text.size + 2 = text.size + 1 + 1 from rfl]
  -- at the start the match starts: the threads of the leading blanks
  have hcl : ClosureStep program text 0 (program.size + 1) 29 (Array.replicate (2 * 4 + 2) none)
      [] _ _ := closure_start 26
  obtain ⟨-, hl⟩ := hcl _ SeenExactly.empty
  have hstart : (Regex.closure r.program text 0 (r.program.size + 1) r.start
      (Array.replicate (2 * r.groups + 2) none) (Threads.empty r.program.size)).list.toList =
        threads text.size 0 .lead := by
    rw [hr.1, hr.2.1, hr.2.2, hl]
    rfl
  by_cases hempty : text.size = 0
  · -- the empty text: nothing is read
    have hm := advance_end (show Holds text.toList text.size .lead from trivial)
      (Threads.empty program.size)
    have htext : text.toList = [] := by simpa using hempty
    rw [hempty] at hm hstart
    rw [FieldScan.run_succ_none Prod.mk.eta.symm, hstart, hr.1, if_pos (by omega), hm, hempty,
      htext]
    rfl
  · obtain ⟨c, hc⟩ : ∃ c, text[0]? = some c := ⟨text[0], Array.getElem?_eq_getElem (by omega)⟩
    obtain ⟨next, hnext, hadv⟩ := advance_threads
      (show Holds text.toList 0 .lead from trivial) hc
    rw [← hr.1, ← hstart] at hadv
    rw [FieldScan.run_succ_none hadv, if_neg (by omega)]
    refine run_threads hr _ 1 next (by omega) (by omega) (by omega) ?_
    rw [hnext, show (1 : Nat) = 0 + 1 from rfl, scan_take_succ (by simpa using hc)]
    rfl

end ApiVersion

end MonitorWire
