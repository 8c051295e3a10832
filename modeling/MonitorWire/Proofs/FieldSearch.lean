import Mathlib
import MonitorWire.Proofs.FieldValues
import MonitorWire.Regex.Machine

namespace MonitorWire

namespace FieldScan

open Regex Regex.Compiled

theorem mem_single {a c : Char} : (CharSet.single a).mem c = decide (c = a) := by
  simp only [CharSet.mem, CharSet.memCode, CharSet.single, Unicode.rangesHold,
    Unicode.rangesHoldIn]
  by_cases h : c = a
  · subst h
    simp
  · have hne : c.toNat ≠ a.toNat := fun e => h (Char.toNat_inj.1 e)
    rcases Nat.lt_or_gt_of_ne hne with hl | hl
    · simp [hl, h, Unicode.rangesHoldIn]
    · simp [hl, h, Nat.not_lt.2 (Nat.le_of_lt hl), Unicode.rangesHoldIn]

structure Marks (prog : Program) (ts : Threads) (F : List Nat) : Prop where
  size_eq : ts.seen.size = prog.size
  mem : ∀ q < prog.size, ts.seen.getD q true = true → q ∈ F

namespace Marks

variable {prog : Program} {ts : Threads} {F : List Nat}

theorem empty : Marks prog (Threads.empty prog.size) [] where
  size_eq := Array.size_replicate
  mem q hq h := by simp [Threads.empty, hq] at h

theorem mono (h : Marks prog ts F) {F' : List Nat} (hF : ∀ q ∈ F, q ∈ F') : Marks prog ts F' :=
  ⟨h.size_eq, fun q hq hm => hF q (h.mem q hq hm)⟩

theorem unmarked (h : Marks prog ts F) {q : Nat} (hq : q < prog.size) (hF : q ∉ F) :
    ts.seen.getD q true = false := by
  cases hm : ts.seen.getD q true with
  | false => rfl
  | true => exact absurd (h.mem q hq hm) hF

theorem mark (h : Marks prog ts F) (q : Nat) :
    Marks prog { ts with seen := ts.seen.setIfInBounds q true } (q :: F) where
  size_eq := by rw [Array.size_setIfInBounds, h.size_eq]
  mem q' hq' hm := by
    by_cases hqq : q' = q
    · exact hqq ▸ List.mem_cons_self
    · refine List.mem_cons_of_mem q (h.mem q' hq' ?_)
      have hlt : q' < ts.seen.size := h.size_eq ▸ hq'
      simpa [Array.getD_eq_getD_getElem?, Array.getElem?_setIfInBounds, Ne.symm hqq] using hm

end Marks

section Closure

variable {prog : Program} {text : Array Char} {pos fuel pc : Nat} {slots : Slots} {ts : Threads}

theorem closure_chars {s : CharSet} {a : Nat} (hseen : ts.seen.getD pc true = false)
    (hi : prog[pc]? = some (.chars s a)) :
    Regex.closure prog text pos (fuel + 1) pc slots ts =
      ⟨ts.seen.setIfInBounds pc true, ts.list.push ⟨pc, slots⟩⟩ := by
  simp [Regex.closure, hseen, hi]

theorem closure_accept (hseen : ts.seen.getD pc true = false) (hi : prog[pc]? = some .accept) :
    Regex.closure prog text pos (fuel + 1) pc slots ts =
      ⟨ts.seen.setIfInBounds pc true, ts.list.push ⟨pc, slots⟩⟩ := by
  simp [Regex.closure, hseen, hi]

theorem closure_save {k a : Nat} (hseen : ts.seen.getD pc true = false)
    (hi : prog[pc]? = some (.save k a)) :
    Regex.closure prog text pos (fuel + 1) pc slots ts =
      Regex.closure prog text pos fuel a (slots.setIfInBounds k (some pos))
        { ts with seen := ts.seen.setIfInBounds pc true } := by
  simp [Regex.closure, hseen, hi]

theorem closure_split {a b : Nat} (hseen : ts.seen.getD pc true = false)
    (hi : prog[pc]? = some (.split a b)) :
    Regex.closure prog text pos (fuel + 1) pc slots ts =
      Regex.closure prog text pos fuel b slots
        (Regex.closure prog text pos fuel a slots { ts with seen := ts.seen.setIfInBounds pc true }) := by
  simp [Regex.closure, hseen, hi]

end Closure

def valueInsts (value : CharSet) : List Inst :=
  [.accept, .save 1 0, .save 3 1, .split 4 2, .chars value 3, .save 2 4,
    .chars (CharSet.single '"') 5, .split 8 6, .chars CharSet.space 7, .split 8 6]

namespace FieldPattern

variable (f : FieldPattern)

def program : Program :=
  ((valueInsts f.value ++ (List.range f.key.length).map fun i =>
      Inst.chars (CharSet.single (f.key.getD (f.key.length - 1 - i) ' ')) (9 + i)) ++
    [Inst.save 0 (f.key.length + 9)]).toArray

def Compiles (r : Compiled) : Prop :=
  r.program = f.program ∧ r.start = f.key.length + 10 ∧ r.groups = 1

variable {f}

theorem size_program : f.program.size = f.key.length + 11 := by
  simp [program, valueInsts]

theorem getElem?_program_lower {pc : Nat} (hpc : pc < 10) :
    f.program[pc]? = (valueInsts f.value)[pc]? := by
  rw [program, List.getElem?_toArray, List.append_assoc, List.getElem?_append_left]
  simpa [valueInsts] using hpc

theorem getElem?_program_key {k : Nat} (hk : k < f.key.length) :
    f.program[f.key.length + 9 - k]? =
      some (.chars (CharSet.single f.key[k]) (f.key.length + 8 - k)) := by
  have hlen : (valueInsts f.value).length = 10 := rfl
  rw [program, List.getElem?_toArray, List.getElem?_append_left (by simp [hlen]; omega),
    List.getElem?_append_right (by omega), hlen,
    show f.key.length + 9 - k - 10 = f.key.length - 1 - k by omega]
  simp only [List.getElem?_map, List.getElem?_range (show f.key.length - 1 - k < f.key.length by
    omega), Option.map_some, Option.some.injEq, Inst.chars.injEq]
  refine ⟨?_, by omega⟩
  rw [show f.key.length - 1 - (f.key.length - 1 - k) = k by omega, List.getD_eq_getElem _ _ hk]

theorem getElem?_program_start :
    f.program[f.key.length + 10]? = some (.save 0 (f.key.length + 9)) := by
  rw [program, List.getElem?_toArray, List.getElem?_append_right (by simp [valueInsts])]
  simp [valueInsts]

end FieldPattern

/-- The closure from `pc` adds the threads `T` behind those it starts with and marks only
instructions of `G`, whenever none of them is marked yet. -/
def ClosureAdds (prog : Program) (text : Array Char) (pos fuel pc : Nat) (slots : Slots)
    (T : List Thread) (G : List Nat) : Prop :=
  ∀ ts F, Marks prog ts F → (∀ q ∈ G, q ∉ F) →
    Marks prog (Regex.closure prog text pos fuel pc slots ts) (G ++ F) ∧
      (Regex.closure prog text pos fuel pc slots ts).list.toList = ts.list.toList ++ T

namespace ClosureAdds

variable {prog : Program} {text : Array Char} {pos fuel pc : Nat} {slots : Slots}
  {T T₁ T₂ : List Thread} {G G₁ G₂ : List Nat}

theorem mono (h : ClosureAdds prog text pos fuel pc slots T G) {G' : List Nat}
    (hG : ∀ q ∈ G, q ∈ G') : ClosureAdds prog text pos fuel pc slots T G' := by
  intro ts F hm hF
  obtain ⟨hm', hlist⟩ := h ts F hm fun q hq => hF q (hG q hq)
  refine ⟨hm'.mono fun q hq => ?_, hlist⟩
  rcases List.mem_append.1 hq with hq | hq
  · exact List.mem_append_left F (hG q hq)
  · exact List.mem_append_right G' hq

theorem chars {s : CharSet} {a : Nat} (hpc : pc < prog.size) (hi : prog[pc]? = some (.chars s a)) :
    ClosureAdds prog text pos (fuel + 1) pc slots [⟨pc, slots⟩] [pc] := by
  intro ts F hm hF
  rw [closure_chars (hm.unmarked hpc (hF pc List.mem_cons_self)) hi]
  exact ⟨⟨(hm.mark pc).size_eq, (hm.mark pc).mem⟩, by simp⟩

theorem accept (hpc : pc < prog.size) (hi : prog[pc]? = some .accept) :
    ClosureAdds prog text pos (fuel + 1) pc slots [⟨pc, slots⟩] [pc] := by
  intro ts F hm hF
  rw [closure_accept (hm.unmarked hpc (hF pc List.mem_cons_self)) hi]
  exact ⟨⟨(hm.mark pc).size_eq, (hm.mark pc).mem⟩, by simp⟩

theorem save {k a : Nat} (hpc : pc < prog.size) (hi : prog[pc]? = some (.save k a)) (hpcG : pc ∉ G)
    (h : ClosureAdds prog text pos fuel a (slots.setIfInBounds k (some pos)) T G) :
    ClosureAdds prog text pos (fuel + 1) pc slots T (pc :: G) := by
  intro ts F hm hF
  rw [closure_save (hm.unmarked hpc (hF pc List.mem_cons_self)) hi]
  -- what the rest marks is neither `pc` nor marked before
  have hfresh : ∀ q ∈ G, q ∉ pc :: F := by
    intro q hq hqF
    rcases List.mem_cons.1 hqF with rfl | hqF
    · exact hpcG hq
    · exact hF q (List.mem_cons_of_mem pc hq) hqF
  obtain ⟨hm', hlist⟩ := h _ _ (hm.mark pc) hfresh
  refine ⟨hm'.mono fun q hq => ?_, hlist⟩
  simp only [List.mem_append, List.mem_cons] at hq ⊢
  tauto

theorem split {a b : Nat} (hpc : pc < prog.size) (hi : prog[pc]? = some (.split a b))
    (hpcG : pc ∉ G₁ ++ G₂) (hG : ∀ q ∈ G₂, q ∉ G₁)
    (h₁ : ClosureAdds prog text pos fuel a slots T₁ G₁)
    (h₂ : ClosureAdds prog text pos fuel b slots T₂ G₂) :
    ClosureAdds prog text pos (fuel + 1) pc slots (T₁ ++ T₂) (pc :: (G₁ ++ G₂)) := by
  intro ts F hm hF
  rw [closure_split (hm.unmarked hpc (hF pc List.mem_cons_self)) hi]
  have hfresh₁ : ∀ q ∈ G₁, q ∉ pc :: F := by
    intro q hq hqF
    rcases List.mem_cons.1 hqF with rfl | hqF
    · exact hpcG (List.mem_append_left G₂ hq)
    · exact hF q (by simp [hq]) hqF
  obtain ⟨hm₁, hl₁⟩ := h₁ _ _ (hm.mark pc) hfresh₁
  -- the second branch marks neither what the first marked nor `pc`
  have hfresh₂ : ∀ q ∈ G₂, q ∉ G₁ ++ pc :: F := by
    intro q hq hqF
    rcases List.mem_append.1 hqF with hqF | hqF
    · exact hG q hq hqF
    · rcases List.mem_cons.1 hqF with rfl | hqF
      · exact hpcG (List.mem_append_right G₁ hq)
      · exact hF q (by simp [hq]) hqF
  obtain ⟨hm₂, hl₂⟩ := h₂ _ _ hm₁ hfresh₂
  refine ⟨hm₂.mono fun q hq => ?_, by rw [hl₂, hl₁, List.append_assoc]⟩
  simp only [List.mem_append, List.mem_cons] at hq ⊢
  tauto

end ClosureAdds

def keySlots (s : Nat) : Slots := #[some s, none, none, none]

def valueSlots (s v : Nat) : Slots := #[some s, none, some v, none]

def matchSlots (s v e : Nat) : Slots := #[some s, some e, some v, some e]

@[simp] theorem replicate_setIfInBounds_start (s : Nat) :
    (Array.replicate (2 * 1 + 2) none).setIfInBounds 0 (some s) = keySlots s := rfl

@[simp] theorem keySlots_setIfInBounds (s v : Nat) :
    (keySlots s).setIfInBounds 2 (some v) = valueSlots s v := rfl

@[simp] theorem valueSlots_setIfInBounds (s v e : Nat) :
    ((valueSlots s v).setIfInBounds 3 (some e)).setIfInBounds 1 (some e) = matchSlots s v e := rfl

namespace FieldPattern

variable (f : FieldPattern) (text : Array Char)

def runThreads (s p : Nat) : Phase → List Thread
  | .key k => [⟨f.key.length + 9 - k, keySlots s⟩]
  | .blanks => [⟨8, keySlots s⟩, ⟨6, keySlots s⟩]
  | .value v => ⟨4, valueSlots s v⟩ :: if v < p then [⟨0, matchSlots s v p⟩] else []
  | .dead => []

def footprint : Phase → List Nat
  | .key k => if k = 0 then [f.key.length + 10, f.key.length + 9] else [f.key.length + 9 - k]
  | .blanks => [6, 7, 8, 9]
  | .value _ => [0, 1, 2, 3, 4, 5]
  | .dead => []

variable {f} {text} {pos : Nat} {slots : Slots}

theorem closureAdds_key {k : Nat} (hk : k < f.key.length) (fuel : Nat) :
    ClosureAdds f.program text pos (fuel + 1) (f.key.length + 9 - k) slots
      [⟨f.key.length + 9 - k, slots⟩] [f.key.length + 9 - k] :=
  .chars (by rw [size_program]; omega) (getElem?_program_key hk)

theorem closureAdds_blanks {pc : Nat} (hpc : pc = 7 ∨ pc = 9) :
    ClosureAdds f.program text pos (f.program.size + 1) pc slots [⟨8, slots⟩, ⟨6, slots⟩]
      [6, 7, 8, 9] := by
  have hsize := f.size_program
  have hi : f.program[pc]? = some (.split 8 6) := by
    rcases hpc with rfl | rfl <;> rw [getElem?_program_lower (by decide)] <;> rfl
  have h8 : ClosureAdds f.program text pos (f.key.length + 11) 8 slots [⟨8, slots⟩] [8] :=
    .chars (by omega) (by rw [getElem?_program_lower (by decide)]; rfl)
  have h6 : ClosureAdds f.program text pos (f.key.length + 11) 6 slots [⟨6, slots⟩] [6] :=
    .chars (by omega) (by rw [getElem?_program_lower (by decide)]; rfl)
  rw [hsize]
  refine (ClosureAdds.split (by omega) hi (by simp; omega) (by simp) h8 h6).mono ?_
  intro q hq
  simp only [List.mem_cons, List.mem_append, List.not_mem_nil, or_false] at hq ⊢
  omega

theorem closureAdds_valueStart :
    ClosureAdds f.program text pos (f.program.size + 1) 5 slots
      [⟨4, slots.setIfInBounds 2 (some pos)⟩] [0, 1, 2, 3, 4, 5] := by
  have hsize := f.size_program
  have h4 : ClosureAdds f.program text pos (f.key.length + 11) 4
      (slots.setIfInBounds 2 (some pos)) [⟨4, slots.setIfInBounds 2 (some pos)⟩] [4] :=
    .chars (by omega) (by rw [getElem?_program_lower (by decide)]; rfl)
  rw [hsize]
  refine (ClosureAdds.save (by omega) (by rw [getElem?_program_lower (by decide)]; rfl) (by simp)
    h4).mono ?_
  intro q hq
  simp only [List.mem_cons, List.not_mem_nil, or_false] at hq ⊢
  omega

theorem closureAdds_valueNext :
    ClosureAdds f.program text pos (f.program.size + 1) 3 slots
      [⟨4, slots⟩, ⟨0, (slots.setIfInBounds 3 (some pos)).setIfInBounds 1 (some pos)⟩]
      [0, 1, 2, 3, 4, 5] := by
  have hsize := f.size_program
  have hlow : ∀ pc, pc < 10 → f.program[pc]? = (valueInsts f.value)[pc]? :=
    fun pc hpc => getElem?_program_lower hpc
  have h0 : ClosureAdds f.program text pos (f.key.length + 8) 0
      ((slots.setIfInBounds 3 (some pos)).setIfInBounds 1 (some pos))
      [⟨0, (slots.setIfInBounds 3 (some pos)).setIfInBounds 1 (some pos)⟩] [0] :=
    .accept (by omega) (by rw [hlow 0 (by decide)]; rfl)
  have h1 : ClosureAdds f.program text pos (f.key.length + 9) 1 (slots.setIfInBounds 3 (some pos))
      [⟨0, (slots.setIfInBounds 3 (some pos)).setIfInBounds 1 (some pos)⟩] [1, 0] :=
    .save (by omega) (by rw [hlow 1 (by decide)]; rfl) (by simp) h0
  have h2 : ClosureAdds f.program text pos (f.key.length + 10) 2 slots
      [⟨0, (slots.setIfInBounds 3 (some pos)).setIfInBounds 1 (some pos)⟩] [2, 1, 0] :=
    .save (by omega) (by rw [hlow 2 (by decide)]; rfl) (by simp) h1
  have h4 : ClosureAdds f.program text pos (f.key.length + 10) 4 slots [⟨4, slots⟩] [4] :=
    .chars (by omega) (by rw [hlow 4 (by decide)]; rfl)
  rw [hsize]
  refine (ClosureAdds.split (by omega) (by rw [hlow 3 (by decide)]; rfl) (by simp) (by simp) h4
    h2).mono ?_
  intro q hq
  simp only [List.mem_cons, List.mem_append, List.not_mem_nil, or_false] at hq ⊢
  omega

theorem closureAdds_start :
    ClosureAdds f.program text pos (f.program.size + 1) (f.key.length + 10) slots
      [⟨f.key.length + 9, slots.setIfInBounds 0 (some pos)⟩]
      [f.key.length + 10, f.key.length + 9] := by
  have hkey : ClosureAdds f.program text pos (f.key.length + 11) (f.key.length + 9)
      (slots.setIfInBounds 0 (some pos)) [⟨f.key.length + 9, slots.setIfInBounds 0 (some pos)⟩]
      [f.key.length + 9] := by
    simpa using closureAdds_key (f := f) length_pos (f.key.length + 10)
  rw [size_program]
  exact .save (by rw [size_program]; omega) getElem?_program_start (by simp) hkey

end FieldPattern

section Advance

variable {prog : Program} {text : Array Char} {pos : Nat} {rest : List Thread} {next : Threads}

theorem advance_chars {t : Thread} {s : CharSet} {a : Nat} (hi : prog[t.pc]? = some (.chars s a)) :
    Regex.advance prog text pos (t :: rest) next =
      Regex.advance prog text pos rest
        (if text[pos]?.map s.mem = some true then
          Regex.closure prog text (pos + 1) (prog.size + 1) a t.slots next
        else next) := by
  cases hc : text[pos]? with
  | none => simp [Regex.advance, hi, hc]
  | some c => by_cases hm : s.mem c <;> simp [Regex.advance, hi, hc, hm]

theorem advance_accept {t : Thread} (hi : prog[t.pc]? = some .accept) :
    Regex.advance prog text pos (t :: rest) next = (next, some t.slots) := by
  simp [Regex.advance, hi]

end Advance

section Run

variable {r : Compiled} {text : Array Char} {fuel pos : Nat} {curr next : Threads}
  {m : Option Slots}

/-- A step of the search before it holds a match: the threads from the start join the current
ones, all of them move over the character, and the search goes on with what they report unless
the text ends. -/
theorem run_succ_none
    (hadv : Regex.advance r.program text pos
      (Regex.closure r.program text pos (r.program.size + 1) r.start
        (Array.replicate (2 * r.groups + 2) none) curr).list.toList
      (Threads.empty r.program.size) = (next, m)) :
    r.run text (fuel + 1) pos curr none =
      if text.size ≤ pos then m else r.run text fuel (pos + 1) next m := by
  simp [Regex.Compiled.run, hadv]

theorem run_succ_some {found : Slots} (hcurr : curr.list.toList ≠ [])
    (hadv : Regex.advance r.program text pos curr.list.toList (Threads.empty r.program.size) =
      (next, m)) :
    r.run text (fuel + 1) pos curr (some found) =
      if text.size ≤ pos then m.or (some found)
      else r.run text fuel (pos + 1) next (m.or (some found)) := by
  have hne : curr.list.isEmpty = false := by
    rw [← Array.isEmpty_toList]
    exact List.isEmpty_eq_false_iff.2 hcurr
  simp [Regex.Compiled.run, hne, hadv]

theorem run_of_done {found : Slots} (hcurr : curr.list.toList = []) :
    r.run text fuel pos curr (some found) = some found := by
  cases fuel with
  | zero => rfl
  | succ fuel =>
    have hempty : curr.list.isEmpty = true := by
      rw [← Array.isEmpty_toList, hcurr]
      rfl
    simp [Regex.Compiled.run, hempty]

end Run

namespace FieldPattern

variable {f : FieldPattern} {text : Array Char}

theorem phase_succ {s p : Nat} (hsp : s ≤ p) :
    f.phase text s (p + 1 - s) = f.read p (f.phase text s (p - s)) text[p]? := by
  rw [show p + 1 - s = p - s + 1 by omega, phase, Nat.add_sub_cancel' hsp]

theorem getElem?_program_accept : f.program[0]? = some .accept :=
  getElem?_program_lower (by decide)

theorem getElem?_program_value : f.program[4]? = some (.chars f.value 3) :=
  getElem?_program_lower (by decide)

theorem getElem?_program_quote : f.program[6]? = some (.chars (CharSet.single '"') 5) :=
  getElem?_program_lower (by decide)

theorem getElem?_program_blank : f.program[8]? = some (.chars CharSet.space 7) :=
  getElem?_program_lower (by decide)

variable (f text) in
/-- Moving the threads of the run started at `s`, in phase `ph` at `p`, over the character
there, ahead of the threads `rest`: the threads of the run's next phase come behind `next`, the
marks grow by that phase's instructions, and `rest` is moved on from there. A run's threads
either die on the character (`Moves.of_dead`) or read it and go on with what the closure after
them adds (`Moves.of_closure`). -/
def Moves (s p : Nat) (ph : Phase) (next : Threads) (F : List Nat) (rest : List Thread) : Prop :=
  ∃ next', Marks f.program next' (f.footprint (f.read p ph text[p]?) ++ F) ∧
    next'.list.toList = next.list.toList ++ f.runThreads s (p + 1) (f.read p ph text[p]?) ∧
    Regex.advance f.program text p (f.runThreads s p ph ++ rest) next =
      Regex.advance f.program text p rest next'

namespace Moves

variable {s p : Nat} {ph : Phase} {next : Threads} {F : List Nat} {rest : List Thread}

theorem of_dead (hm : Marks f.program next F) (hdead : f.read p ph text[p]? = .dead)
    (hadv : Regex.advance f.program text p (f.runThreads s p ph ++ rest) next =
      Regex.advance f.program text p rest next) :
    f.Moves text s p ph next F rest := by
  refine ⟨next, ?_, ?_, hadv⟩ <;> rw [hdead]
  · simpa [footprint] using hm
  · simp [runThreads]

theorem of_closure {pc : Nat} {slots : Slots} (hm : Marks f.program next F)
    (hF : ∀ q ∈ f.footprint (f.read p ph text[p]?), q ∉ F)
    (hadd : ClosureAdds f.program text (p + 1) (f.program.size + 1) pc slots
      (f.runThreads s (p + 1) (f.read p ph text[p]?)) (f.footprint (f.read p ph text[p]?)))
    (hadv : Regex.advance f.program text p (f.runThreads s p ph ++ rest) next =
      Regex.advance f.program text p rest
        (Regex.closure f.program text (p + 1) (f.program.size + 1) pc slots next)) :
    f.Moves text s p ph next F rest :=
  ⟨_, (hadd next F hm hF).1, (hadd next F hm hF).2, hadv⟩

end Moves

section Phases

variable {s p : Nat} {next : Threads} {F : List Nat} {rest : List Thread}

theorem moves_key {k : Nat} (hk : k < f.key.length) (hm : Marks f.program next F)
    (hF : ∀ q ∈ f.footprint (f.read p (.key k) text[p]?), q ∉ F) :
    f.Moves text s p (.key k) next F rest := by
  have hadv : Regex.advance f.program text p (f.runThreads s p (.key k) ++ rest) next =
      Regex.advance f.program text p rest
        (if text[p]?.map (CharSet.single f.key[k]).mem = some true then
          Regex.closure f.program text (p + 1) (f.program.size + 1) (f.key.length + 8 - k)
            (keySlots s) next
        else next) :=
    advance_chars (getElem?_program_key hk)
  cases hc : text[p]? with
  | none => exact .of_dead hm (by rw [hc]; rfl) (by simpa [hc] using hadv)
  | some c =>
    rw [hc] at hadv
    by_cases hck : c = f.key[k]
    · subst hck
      simp only [Option.map_some, mem_single, decide_true, if_true] at hadv
      by_cases hk1 : k + 1 < f.key.length
      · -- the next character of the key
        have hread : f.read p (.key k) (some f.key[k]) = .key (k + 1) := by simp [read, hk1]
        rw [show f.key.length + 8 - k = f.key.length + 9 - (k + 1) by omega] at hadv
        refine .of_closure hm hF ?_ hadv
        rw [hc, hread]
        simp only [runThreads, footprint, Nat.add_one_ne_zero, if_false]
        exact closureAdds_key hk1 _
      · -- the key is complete: on to the blanks
        have hread : f.read p (.key k) (some f.key[k]) = .blanks := by simp [read, hk1]
        rw [show f.key.length + 8 - k = 9 by omega] at hadv
        refine .of_closure hm hF ?_ hadv
        rw [hc, hread]
        exact closureAdds_blanks (.inr rfl)
    · have hread : f.read p (.key k) (some c) = .dead := by
        simp [read, List.getElem?_eq_getElem hk, Ne.symm hck]
      exact .of_dead hm (by rw [hc, hread]) (by simpa [mem_single, hck] using hadv)

theorem moves_blanks (hm : Marks f.program next F)
    (hF : ∀ q ∈ f.footprint (f.read p .blanks text[p]?), q ∉ F) :
    f.Moves text s p .blanks next F rest := by
  have hadv : Regex.advance f.program text p (f.runThreads s p .blanks ++ rest) next =
      Regex.advance f.program text p (⟨6, keySlots s⟩ :: rest)
        (if text[p]?.map CharSet.space.mem = some true then
          Regex.closure f.program text (p + 1) (f.program.size + 1) 7 (keySlots s) next
        else next) :=
    advance_chars getElem?_program_blank
  rw [advance_chars getElem?_program_quote] at hadv
  cases hc : text[p]? with
  | none => exact .of_dead hm (by rw [hc]; rfl) (by simpa [hc] using hadv)
  | some c =>
    rw [hc] at hadv
    by_cases hb : CharSet.space.mem c = true
    · -- another blank, which is no quote
      have hq : c ≠ '"' := by
        rintro rfl
        rw [space_mem_quote] at hb
        cases hb
      have hread : f.read p .blanks (some c) = .blanks := by simp [read, hb]
      refine .of_closure hm hF ?_ (by simpa [hb, mem_single, hq] using hadv)
      rw [hc, hread]
      exact closureAdds_blanks (.inl rfl)
    · by_cases hq : c = '"'
      · -- the quote: the value starts after it
        subst hq
        have hread : f.read p .blanks (some '"') = .value (p + 1) := by
          simp [read, space_mem_quote]
        refine .of_closure hm hF ?_
          (by simpa [space_mem_quote, mem_single] using hadv)
        have hadd : ClosureAdds f.program text (p + 1) (f.program.size + 1) 5 (keySlots s)
            [⟨4, (keySlots s).setIfInBounds 2 (some (p + 1))⟩] [0, 1, 2, 3, 4, 5] :=
          closureAdds_valueStart
        rw [hc, hread]
        simpa [runThreads, footprint] using hadd
      · have hread : f.read p .blanks (some c) = .dead := by simp [read, hb, hq]
        exact .of_dead hm (by rw [hc, hread]) (by simpa [hb, mem_single, hq] using hadv)

theorem moves_valueStart (hm : Marks f.program next F)
    (hF : ∀ q ∈ f.footprint (f.read p (.value p) text[p]?), q ∉ F) :
    f.Moves text s p (.value p) next F rest := by
  have hadv : Regex.advance f.program text p (f.runThreads s p (.value p) ++ rest) next =
      Regex.advance f.program text p rest
        (if text[p]?.map f.value.mem = some true then
          Regex.closure f.program text (p + 1) (f.program.size + 1) 3 (valueSlots s p) next
        else next) := by
    rw [show f.runThreads s p (.value p) ++ rest = ⟨4, valueSlots s p⟩ :: rest by
      simp [runThreads]]
    exact advance_chars getElem?_program_value
  cases hc : text[p]? with
  | none => exact .of_dead hm (by rw [hc]; rfl) (by simpa [hc] using hadv)
  | some c =>
    rw [hc] at hadv
    by_cases hv : f.value.mem c = true
    · have hread : f.read p (.value p) (some c) = .value p := by simp [read, hv]
      refine .of_closure hm hF ?_ (by simpa [hv] using hadv)
      have hadd : ClosureAdds f.program text (p + 1) (f.program.size + 1) 3 (valueSlots s p)
          [⟨4, valueSlots s p⟩,
            ⟨0, ((valueSlots s p).setIfInBounds 3 (some (p + 1))).setIfInBounds 1 (some (p + 1))⟩]
          [0, 1, 2, 3, 4, 5] :=
        closureAdds_valueNext
      rw [hc, hread]
      simpa [runThreads, footprint] using hadd
    · have hread : f.read p (.value p) (some c) = .dead := by simp [read, hv]
      exact .of_dead hm (by rw [hc, hread]) (by simpa [hv] using hadv)

end Phases

/-- Moving the threads of one run over the character at `p`, while the run is not past the
first character of its value, adds the threads of its next phase to `next` and marks that
phase's instructions. -/
theorem advance_run {s p : Nat} {next : Threads} {F : List Nat} (hsp : s ≤ p)
    (hval : ∀ v, f.phase text s (p - s) = .value v → p ≤ v)
    (hm : Marks f.program next F)
    (hF : ∀ q ∈ f.footprint (f.phase text s (p + 1 - s)), q ∉ F) (rest : List Thread) :
    ∃ next', Marks f.program next' (f.footprint (f.phase text s (p + 1 - s)) ++ F) ∧
      next'.list.toList =
        next.list.toList ++ f.runThreads s (p + 1) (f.phase text s (p + 1 - s)) ∧
      Regex.advance f.program text p (f.runThreads s p (f.phase text s (p - s)) ++ rest) next =
        Regex.advance f.program text p rest next' := by
  have hh : f.Holds text s (p - s) (f.phase text s (p - s)) := holds_phase s (p - s)
  rw [phase_succ hsp] at hF ⊢
  generalize f.phase text s (p - s) = ph at hval hh hF ⊢
  change f.Moves text s p ph next F rest
  cases ph with
  | key k => exact moves_key hh.2.1 hm hF
  | blanks => exact moves_blanks hm hF
  | value v =>
    -- a run in its value that has not passed its first character is at it
    obtain rfl : v = p := by
      have := hval v rfl
      have := hh.2.2.2.2.1
      omega
    exact moves_valueStart hm hF
  | dead => exact .of_dead hm (read_dead p _) rfl

variable (f text) in
def threadsOf (runs : List Nat) (p : Nat) : List Thread :=
  runs.flatMap fun s => f.runThreads s p (f.phase text s (p - s))

variable (f text) in
def footprints (runs : List Nat) (p : Nat) : List Nat :=
  runs.flatMap fun s => f.footprint (f.phase text s (p - s))

theorem mem_footprint_key {k q : Nat} :
    q ∈ f.footprint (.key k) ↔ k = 0 ∧ q = f.key.length + 10 ∨ q = f.key.length + 9 - k := by
  by_cases hk : k = 0 <;> simp [footprint, hk]

theorem footprint_cases {s d q : Nat} (h : q ∈ f.footprint (f.phase text s d)) :
    10 ≤ q ∧ (q = f.key.length + 10 ∧ d = 0 ∨ q + d = f.key.length + 9) ∨
      f.phase text s d = .blanks ∧ 6 ≤ q ∧ q ≤ 9 ∨
      (∃ v, f.phase text s d = .value v) ∧ q ≤ 5 := by
  have hh : f.Holds text s d (f.phase text s d) := holds_phase s d
  generalize f.phase text s d = ph at h hh ⊢
  cases ph with
  | key k =>
    obtain ⟨rfl, hk, -⟩ := hh
    rw [mem_footprint_key] at h
    omega
  | blanks =>
    simp only [footprint, List.mem_cons, List.not_mem_nil, or_false] at h
    exact Or.inr (Or.inl ⟨rfl, by omega, by omega⟩)
  | value v =>
    simp only [footprint, List.mem_cons, List.not_mem_nil, or_false] at h
    exact Or.inr (Or.inr ⟨⟨v, rfl⟩, by omega⟩)
  | dead => simp [footprint] at h

theorem eq_of_mem_footprint {s₁ s₂ d₁ d₂ q : Nat} (hpos : s₁ + d₁ = s₂ + d₂)
    (h₁ : q ∈ f.footprint (f.phase text s₁ d₁)) (h₂ : q ∈ f.footprint (f.phase text s₂ d₂)) :
    s₁ = s₂ := by
  rcases footprint_cases h₁ with ⟨hk₁, hq₁⟩ | ⟨hb₁, hq₁⟩ | ⟨⟨v₁, hv₁⟩, hq₁⟩
  · -- in the key, the instruction tells how far each run has read
    rcases footprint_cases h₂ with ⟨-, hq₂⟩ | ⟨-, hq₂⟩ | ⟨-, hq₂⟩ <;> omega
  · rcases footprint_cases h₂ with ⟨hk₂, -⟩ | ⟨hb₂, -⟩ | ⟨-, hq₂⟩
    · omega
    · exact eq_of_blanks hb₁ hb₂ hpos
    · omega
  · rcases footprint_cases h₂ with ⟨hk₂, -⟩ | ⟨-, hq₂⟩ | ⟨⟨v₂, hv₂⟩, -⟩
    · omega
    · omega
    · exact eq_of_value hv₁ hv₂ hpos

/-- Moving the threads of runs none of which is past the first character of its value moves
each of them one character on, behind the runs moved before. The induction is on the runs, in
the order of the thread list. -/
theorem advance_runs {p : Nat} (runs : List Nat) :
    ∀ (done : List Nat) (next : Threads),
      (∀ s ∈ runs, s ≤ p ∧ s ∉ done ∧ ∀ v, f.phase text s (p - s) = .value v → p ≤ v) →
      runs.Nodup → (∀ s ∈ done, s ≤ p) →
      Marks f.program next (f.footprints text done (p + 1)) →
      next.list.toList = f.threadsOf text done (p + 1) →
      ∃ next', Marks f.program next' (f.footprints text (done ++ runs) (p + 1)) ∧
        next'.list.toList = f.threadsOf text (done ++ runs) (p + 1) ∧
        Regex.advance f.program text p (f.threadsOf text runs p) next = (next', none) := by
  induction runs with
  | nil =>
    intro done next _ _ _ hm hl
    exact ⟨next, by simpa using hm, by simpa using hl, by simp [threadsOf, Regex.advance]⟩
  | cons s runs ih =>
    intro done next hruns hnodup hdone hm hl
    obtain ⟨hsp, hsd, hval⟩ := hruns s List.mem_cons_self
    -- no run moved before marks what this one's closure marks
    have hF : ∀ q ∈ f.footprint (f.phase text s (p + 1 - s)),
        q ∉ f.footprints text done (p + 1) := by
      intro q hq hqd
      obtain ⟨s', hs', hq'⟩ := List.mem_flatMap.1 hqd
      have hs'p := hdone s' hs'
      exact hsd (eq_of_mem_footprint (by omega) hq hq' ▸ hs')
    obtain ⟨next₁, hm₁, hl₁, hadv₁⟩ := advance_run hsp hval hm hF (f.threadsOf text runs p)
    have hruns' : ∀ s' ∈ runs, s' ≤ p ∧ s' ∉ done ++ [s] ∧
        ∀ v, f.phase text s' (p - s') = .value v → p ≤ v := by
      intro s' hs'
      obtain ⟨h₁, h₂, h₃⟩ := hruns s' (List.mem_cons_of_mem s hs')
      have hne : s' ≠ s := fun h => (List.nodup_cons.1 hnodup).1 (h ▸ hs')
      exact ⟨h₁, by simp [h₂, hne], h₃⟩
    have hm₁' : Marks f.program next₁ (f.footprints text (done ++ [s]) (p + 1)) :=
      hm₁.mono fun q hq => by
        simp only [footprints, List.flatMap_append, List.flatMap_cons, List.flatMap_nil,
          List.append_nil, List.mem_append] at hq ⊢
        tauto
    have hl₁' : next₁.list.toList = f.threadsOf text (done ++ [s]) (p + 1) := by
      rw [hl₁, hl]
      simp [threadsOf]
    obtain ⟨next', hm', hl', hadv⟩ := ih (done ++ [s]) next₁ hruns' (List.nodup_cons.1 hnodup).2
      (fun s' hs' => by
        rcases List.mem_append.1 hs' with hs' | hs'
        · exact hdone s' hs'
        · rw [List.mem_singleton.1 hs']
          exact hsp) hm₁' hl₁'
    refine ⟨next', by simpa using hm', by simpa using hl', ?_⟩
    rw [show f.threadsOf text (s :: runs) p =
      f.runThreads s p (f.phase text s (p - s)) ++ f.threadsOf text runs p by simp [threadsOf],
      hadv₁, hadv]

theorem advance_value {s v p : Nat} (hvp : v < p) (rest : List Thread) :
    ∃ next', next'.list.toList = f.runThreads s (p + 1) (f.read p (.value v) text[p]?) ∧
      Regex.advance f.program text p (f.runThreads s p (.value v) ++ rest)
          (Threads.empty f.program.size) = (next', some (matchSlots s v p)) := by
  rw [show f.runThreads s p (.value v) ++ rest =
      ⟨4, valueSlots s v⟩ :: ⟨0, matchSlots s v p⟩ :: rest by simp [runThreads, hvp],
    advance_chars getElem?_program_value, advance_accept getElem?_program_accept]
  cases hc : text[p]? with
  | none => exact ⟨_, by simp [read, runThreads, Threads.empty], rfl⟩
  | some c =>
    by_cases hm : f.value.mem c = true
    · have hadd : ClosureAdds f.program text (p + 1) (f.program.size + 1) 3 (valueSlots s v)
          [⟨4, valueSlots s v⟩,
            ⟨0, ((valueSlots s v).setIfInBounds 3 (some (p + 1))).setIfInBounds 1 (some (p + 1))⟩]
          [0, 1, 2, 3, 4, 5] :=
        closureAdds_valueNext
      obtain ⟨-, hl⟩ := hadd _ [] Marks.empty (by simp)
      refine ⟨_, ?_, by rw [if_pos (by simp [hm])]⟩
      rw [hl]
      simp [read, hm, runThreads, Threads.empty, show v < p + 1 by omega]
    · exact ⟨Threads.empty f.program.size, by simp [read, hm, runThreads, Threads.empty],
        by rw [if_neg (by simp [hm])]⟩

theorem le_of_phase_value {start p s v : Nat} (hs : start ≤ s) (hsp : s ≤ p)
    (hfirst : ∀ s₁ v₁ e₁, f.firstValue text start = some (s₁, v₁, e₁) → p ≤ v₁)
    (hph : f.phase text s (p - s) = .value v) : p ≤ v := by
  by_contra hvp
  obtain ⟨hve, -⟩ := valueAt_of_phase hph (by omega)
  cases hfv : f.firstValue text start with
  | none =>
    rw [firstValue_eq_none_iff.1 hfv s hs] at hve
    cases hve
  | some o =>
    obtain ⟨s₁, v₁, e₁⟩ := o
    have hp := hfirst s₁ v₁ e₁ hfv
    obtain ⟨-, hocc, hbefore⟩ := firstValue_eq_some_iff.1 hfv
    rcases Nat.lt_trichotomy s s₁ with hlt | rfl | hgt
    · rw [hbefore s hs hlt] at hve
      cases hve
    · -- the first occurrence's value starts at `v₁`, not before `p`
      rw [valueAt_eq_some_iff.2 hocc] at hve
      cases hve
      omega
    · -- the first occurrence's run is alive at `p`, which a later run in its value rules out
      have hve₁ := hocc.value_lt
      exact phase_ne_dead_of_valueAt hocc (d := s + (p - s) - s₁) (by omega)
        (dead_of_lt_value hph hgt)

variable {r : Compiled}

/-- Once the first occurrence's match is found, the machine extends it to the end of the
value, one character a step. The induction is on the fuel, the match's end moving on. -/
theorem run_of_accepted (hr : f.Compiles r) {s v e : Nat} (h : f.ValueAt text s v e) :
    ∀ fuel q (curr : Threads), v < q → q ≤ e → text.size - q < fuel →
      curr.list.toList = (if q < e then f.runThreads s (q + 1) (.value v) else []) →
      r.run text fuel (q + 1) curr (some (matchSlots s v q)) = some (matchSlots s v e) := by
  have hsize := le_size_of_valueAt h
  intro fuel
  induction fuel with
  | zero => intro q curr _ _ hfuel; omega
  | succ fuel ih =>
    intro q curr hvq hqe hfuel hl
    by_cases hq : q < e
    · rw [if_pos hq] at hl
      obtain ⟨next', hl', hadv⟩ := advance_value (s := s) (show v < q + 1 by omega) []
      rw [List.append_nil, ← hl, ← hr.1] at hadv
      rw [run_succ_some (by simp [hl, runThreads]) hadv, Option.some_or]
      by_cases hend : text.size ≤ q + 1
      · -- the text ends with the value
        rw [if_pos hend, show q + 1 = e by omega]
      · rw [if_neg hend]
        refine ih (q + 1) next' (by omega) (by omega) (by omega) ?_
        rw [hl', read_value_of_valueAt h (by omega) (by omega)]
        split_ifs <;> rfl
    · -- the match reached the end of the value: no thread is left
      obtain rfl : q = e := by omega
      rw [if_neg hq] at hl
      exact run_of_done hl

theorem closure_start_threads (hr : f.Compiles r) {start p : Nat} {curr : Threads}
    (hsp : start ≤ p) (hm : Marks f.program curr (f.footprints text (List.range' start (p - start)) p))
    (hl : curr.list.toList = f.threadsOf text (List.range' start (p - start)) p) :
    (Regex.closure r.program text p (r.program.size + 1) r.start
        (Array.replicate (2 * r.groups + 2) none) curr).list.toList =
      f.threadsOf text (List.range' start (p + 1 - start)) p := by
  have hfresh : ∀ q ∈ [f.key.length + 10, f.key.length + 9],
      q ∉ f.footprints text (List.range' start (p - start)) p := by
    intro q hq hqF
    have hn : 0 < f.key.length := length_pos
    obtain ⟨s, hs, hqs⟩ := List.mem_flatMap.1 hqF
    have hsp' := (List.mem_range'_1.1 hs).2
    simp only [List.mem_cons, List.not_mem_nil, or_false] at hq
    rcases footprint_cases hqs with ⟨-, hq'⟩ | ⟨-, -, hq'⟩ | ⟨-, hq'⟩ <;> omega
  have hadd : ClosureAdds f.program text p (f.program.size + 1) (f.key.length + 10)
      (Array.replicate (2 * 1 + 2) none)
      [⟨f.key.length + 9, (Array.replicate (2 * 1 + 2) none).setIfInBounds 0 (some p)⟩]
      [f.key.length + 10, f.key.length + 9] :=
    closureAdds_start
  obtain ⟨-, hl₀⟩ := hadd curr _ hm hfresh
  rw [hr.1, hr.2.1, hr.2.2, hl₀, hl, show p + 1 - start = p - start + 1 by omega,
    List.range'_concat]
  simp [threadsOf, runThreads, phase, show start + (p - start) = p by omega]

/-- Where the run of the first occurrence from `start` passes the first character of its value,
the runs started before it are dead: the threads are those of its run, then those of the runs
started after it. -/
theorem threadsOf_at_firstValue {start s₁ v₁ e₁ : Nat}
    (hfv : f.firstValue text start = some (s₁, v₁, e₁)) :
    f.threadsOf text (List.range' start (v₁ + 1 + 1 - start)) (v₁ + 1) =
      f.runThreads s₁ (v₁ + 1) (.value v₁) ++
        f.threadsOf text (List.range' (s₁ + 1) (v₁ + 1 - s₁)) (v₁ + 1) := by
  obtain ⟨hs₁, hocc, -⟩ := firstValue_eq_some_iff.1 hfv
  have hkv := hocc.key_lt
  have hve := hocc.value_lt
  have hph₁ : f.phase text s₁ (v₁ + 1 - s₁) = .value v₁ :=
    phase_value_of_valueAt hocc (by omega) (by omega)
  rw [show v₁ + 1 + 1 - start = s₁ - start + (v₁ + 1 - s₁ + 1) by omega,
    ← List.range'_append, show start + 1 * (s₁ - start) = s₁ by omega, List.range'_succ]
  simp only [threadsOf, List.flatMap_append, List.flatMap_cons, hph₁]
  rw [List.flatMap_eq_nil_iff.2 fun s hs => ?_, List.nil_append]
  obtain ⟨-, hs⟩ := List.mem_range'_1.1 hs
  rw [show v₁ + 1 - s = s₁ + (v₁ + 1 - s₁) - s by omega, dead_of_lt_value hph₁ (by omega)]
  rfl

/-- When the run of the first occurrence from `start` passes the first character of its value,
the machine reports the match, drops the threads behind it and extends it to the end of the
value. -/
theorem run_at_firstValue (hr : f.Compiles r) {start s₁ v₁ e₁ fuel : Nat} {curr : Threads}
    (hfv : f.firstValue text start = some (s₁, v₁, e₁)) (hfuel : text.size - v₁ ≤ fuel)
    (hl : (Regex.closure r.program text (v₁ + 1) (r.program.size + 1) r.start
        (Array.replicate (2 * r.groups + 2) none) curr).list.toList =
      f.threadsOf text (List.range' start (v₁ + 1 + 1 - start)) (v₁ + 1)) :
    r.run text (fuel + 1) (v₁ + 1) curr none = some (matchSlots s₁ v₁ e₁) := by
  obtain ⟨-, hocc, -⟩ := firstValue_eq_some_iff.1 hfv
  have hve := hocc.value_lt
  have hsize := le_size_of_valueAt hocc
  obtain ⟨next', hl', hadv⟩ := advance_value (s := s₁) (show v₁ < v₁ + 1 by omega)
    (f.threadsOf text (List.range' (s₁ + 1) (v₁ + 1 - s₁)) (v₁ + 1))
  rw [← threadsOf_at_firstValue hfv, ← hl, ← hr.1] at hadv
  rw [run_succ_none hadv]
  by_cases hend : text.size ≤ v₁ + 1
  · -- the text ends with the value's first character
    rw [if_pos hend, show v₁ + 1 = e₁ by omega]
  · rw [if_neg hend]
    refine run_of_accepted hr hocc fuel (v₁ + 1) next' (by omega) (by omega) (by omega) ?_
    rw [hl', read_value_of_valueAt hocc (by omega) (by omega)]
    split_ifs <;> rfl

/-- Until the run of the first occurrence from `start` passes the first character of its value,
the machine holds the threads of all the runs from `start` on, and marks only their
instructions; then it finds that occurrence. The induction is on the fuel, one position a step. -/
theorem run_before_accept (hr : f.Compiles r) {start : Nat} :
    ∀ fuel p (curr : Threads), start ≤ p → text.size + 1 - p < fuel →
      (∀ s v e, f.firstValue text start = some (s, v, e) → p ≤ v + 1) →
      (f.firstValue text start = none → p ≤ text.size) →
      Marks f.program curr (f.footprints text (List.range' start (p - start)) p) →
      curr.list.toList = f.threadsOf text (List.range' start (p - start)) p →
      r.run text fuel p curr none =
        (f.firstValue text start).map fun (s, v, e) => matchSlots s v e := by
  intro fuel
  induction fuel with
  | zero => intro p curr _ hfuel; omega
  | succ fuel ih =>
    intro p curr hsp hfuel hsome hnone hm hl
    have hl₁ := closure_start_threads hr hsp hm hl
    -- either the first occurrence's run passes the first character of its value here, or no
    -- run does
    by_cases hex : ∃ s₁ v₁ e₁, f.firstValue text start = some (s₁, v₁, e₁) ∧ p = v₁ + 1
    · obtain ⟨s₁, v₁, e₁, hfv, rfl⟩ := hex
      rw [run_at_firstValue hr hfv (by omega) hl₁, hfv]
      rfl
    have hfirst : ∀ s₁ v₁ e₁, f.firstValue text start = some (s₁, v₁, e₁) → p ≤ v₁ := by
      intro s₁ v₁ e₁ hfv
      have := hsome s₁ v₁ e₁ hfv
      have hne : p ≠ v₁ + 1 := fun h => hex ⟨s₁, v₁, e₁, hfv, h⟩
      omega
    -- no run passes the first character of its value: all of them move on
    have hmove : ∃ next', Marks f.program next'
          (f.footprints text ([] ++ List.range' start (p + 1 - start)) (p + 1)) ∧
        next'.list.toList = f.threadsOf text ([] ++ List.range' start (p + 1 - start)) (p + 1) ∧
        Regex.advance f.program text p (f.threadsOf text (List.range' start (p + 1 - start)) p)
          (Threads.empty f.program.size) = (next', none) := by
      refine advance_runs _ [] _ (fun s hs => ?_) (List.nodup_range' 1) (by simp) Marks.empty
        (by simp [threadsOf, Threads.empty])
      obtain ⟨h₁, h₂⟩ := List.mem_range'_1.1 hs
      exact ⟨by omega, List.not_mem_nil, fun v hv => le_of_phase_value h₁ (by omega) hfirst hv⟩
    obtain ⟨next', hm', hl', hadv⟩ := hmove
    rw [List.nil_append] at hm' hl'
    rw [← hl₁, ← hr.1] at hadv
    rw [run_succ_none hadv]
    by_cases hend : text.size ≤ p
    · -- the text ends before any occurrence from `start` on
      rw [if_pos hend]
      cases hfv : f.firstValue text start with
      | none => rfl
      | some o =>
        obtain ⟨s₁, v₁, e₁⟩ := o
        obtain ⟨-, hocc, -⟩ := firstValue_eq_some_iff.1 hfv
        have := hfirst s₁ v₁ e₁ hfv
        have := le_size_of_valueAt hocc
        have := hocc.value_lt
        omega
    · rw [if_neg hend]
      exact ih (p + 1) next' (by omega) (by omega)
        (fun s v e h => by have := hfirst s v e h; omega) (fun _ => by omega) hm' hl'

theorem searchAt_eq_firstValue (hr : f.Compiles r) (text : Array Char) (start : Nat) :
    r.searchAt text start = (f.firstValue text start).map fun (s, v, e) => matchSlots s v e := by
  rw [Regex.Compiled.searchAt]
  split
  · -- no occurrence starts past the end of the text
    have hnone : f.firstValue text start = none := by
      simp [firstValue, show text.size + 1 - start = 0 by omega]
    rw [hnone]
    rfl
  · rw [hr.1]
    refine run_before_accept hr _ start _ (Nat.le_refl start) (by omega) (fun s v e hfv => ?_)
      (fun _ => by omega) (by simpa [footprints] using Marks.empty) (by simp [threadsOf, Threads.empty])
    obtain ⟨hs, hocc, -⟩ := firstValue_eq_some_iff.1 hfv
    have := hocc.key_lt
    omega

end FieldPattern

end FieldScan

end MonitorWire
