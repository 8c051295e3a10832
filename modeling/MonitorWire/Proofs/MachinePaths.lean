import Mathlib
import MonitorWire.Regex.Machine

namespace MonitorWire

namespace Regex

inductive Step (prog : Program) (text : Array Char) : Nat × Nat × Slots → Nat × Nat × Slots → Prop
  | chars {pc pos : Nat} {slots : Slots} {s : CharSet} {next : Nat} {c : Char}
      (hi : prog[pc]? = some (.chars s next)) (hc : text[pos]? = some c) (hm : s.mem c = true) :
      Step prog text (pc, pos, slots) (next, pos + 1, slots)
  | look {pc pos : Nat} {slots : Slots} {l : Look} {next : Nat}
      (hi : prog[pc]? = some (.look l next)) (hl : holds text pos l = true) :
      Step prog text (pc, pos, slots) (next, pos, slots)
  | save {pc pos : Nat} {slots : Slots} {k next : Nat} (hi : prog[pc]? = some (.save k next)) :
      Step prog text (pc, pos, slots) (next, pos, slots.setIfInBounds k (some pos))
  | first {pc pos : Nat} {slots : Slots} {a b : Nat} (hi : prog[pc]? = some (.split a b)) :
      Step prog text (pc, pos, slots) (a, pos, slots)
  | second {pc pos : Nat} {slots : Slots} {a b : Nat} (hi : prog[pc]? = some (.split a b)) :
      Step prog text (pc, pos, slots) (b, pos, slots)
  | jump {pc pos : Nat} {slots : Slots} {a : Nat} (hi : prog[pc]? = some (.jump a)) :
      Step prog text (pc, pos, slots) (a, pos, slots)

abbrev Steps (prog : Program) (text : Array Char) := Relation.ReflTransGen (Step prog text)

section Threads

variable {prog : Program} {text : Array Char}

theorem closure_sound {pos : Nat} {P : Nat → Slots → Prop}
    (hP : ∀ {pc slots pc' slots'}, P pc slots →
      Step prog text (pc, pos, slots) (pc', pos, slots') → P pc' slots') :
    ∀ {fuel pc : Nat} {slots : Slots} {ts : Threads}, P pc slots →
      (∀ t ∈ ts.list, P t.pc t.slots) →
      ∀ t ∈ (closure prog text pos fuel pc slots ts).list, P t.pc t.slots := by
  intro fuel
  induction fuel with
  | zero => intro pc slots ts _ hts; exact hts
  | succ fuel ih =>
    intro pc slots ts hpc hts
    rw [closure]
    by_cases hseen : ts.seen.getD pc true = true
    · rw [if_pos hseen]
      exact hts
    · rw [if_neg hseen]
      -- marking the instruction seen keeps the threads
      have hts' : ∀ t ∈ ({ ts with seen := ts.seen.setIfInBounds pc true } : Threads).list,
          P t.pc t.slots := hts
      cases hi : prog[pc]? with
      | none => exact hts'
      | some inst =>
        cases inst with
        | chars s a =>
          intro t ht
          rcases Array.mem_push.1 ht with ht | rfl
          · exact hts t ht
          · exact hpc
        | accept =>
          intro t ht
          rcases Array.mem_push.1 ht with ht | rfl
          · exact hts t ht
          · exact hpc
        | look l a =>
          dsimp only
          split
          · exact ih (hP hpc (.look hi ‹_›)) hts'
          · exact hts'
        | save k a => exact ih (hP hpc (.save hi)) hts'
        | split a b => exact ih (hP hpc (.second hi)) (ih (hP hpc (.first hi)) hts')
        | jump a => exact ih (hP hpc (.jump hi)) hts'

theorem advance_sound {pos : Nat} {P Q : Nat → Slots → Prop}
    (hQ : ∀ {pc slots pc' slots'}, Q pc slots →
      Step prog text (pc, pos + 1, slots) (pc', pos + 1, slots') → Q pc' slots')
    (hPQ : ∀ {pc slots pc' slots'}, P pc slots →
      Step prog text (pc, pos, slots) (pc', pos + 1, slots') → Q pc' slots') :
    ∀ {list : List Thread} {next : Threads}, (∀ t ∈ list, P t.pc t.slots) →
      (∀ t ∈ next.list, Q t.pc t.slots) →
      (∀ t ∈ (advance prog text pos list next).1.list, Q t.pc t.slots) ∧
        ∀ s, (advance prog text pos list next).2 = some s →
          ∃ t ∈ list, prog[t.pc]? = some .accept ∧ t.slots = s := by
  intro list
  induction list with
  | nil => intro next _ hnext; exact ⟨hnext, fun s h => by simp [advance] at h⟩
  | cons t rest ih =>
    intro next hlist hnext
    have ht := hlist t List.mem_cons_self
    have hrest : ∀ u ∈ rest, P u.pc u.slots := fun u hu => hlist u (List.mem_cons_of_mem t hu)
    -- the threads after `t` are moved the same way, whatever `t` adds
    have hlater : ∀ {next : Threads}, (∀ u ∈ next.list, Q u.pc u.slots) →
        (∀ u ∈ (advance prog text pos rest next).1.list, Q u.pc u.slots) ∧
          ∀ s, (advance prog text pos rest next).2 = some s →
            ∃ u ∈ t :: rest, prog[u.pc]? = some .accept ∧ u.slots = s := by
      intro next hnext
      obtain ⟨h1, h2⟩ := ih hrest hnext
      exact ⟨h1, fun s hs => by
        obtain ⟨u, hu, hacc, hslots⟩ := h2 s hs
        exact ⟨u, List.mem_cons_of_mem t hu, hacc, hslots⟩⟩
    rw [advance]
    cases hi : prog[t.pc]? with
    | none => exact hlater hnext
    | some inst =>
      cases inst with
      | accept =>
        refine ⟨hnext, fun s hs => ⟨t, List.mem_cons_self, hi, ?_⟩⟩
        simpa using hs
      | chars cs a =>
        dsimp only
        cases hc : text[pos]? with
        | none => exact hlater hnext
        | some c =>
          dsimp only
          split
          · rename_i hm
            have hstep : Step prog text (t.pc, pos, t.slots) (a, pos + 1, t.slots) := .chars hi hc hm
            exact hlater (closure_sound hQ (hPQ ht hstep) hnext)
          · exact hlater hnext
      | look l a => exact hlater hnext
      | save k a => exact hlater hnext
      | split a b => exact hlater hnext
      | jump a => exact hlater hnext

end Threads

namespace Compiled

def initialSlots (r : Compiled) : Slots := Array.replicate (2 * r.groups + 2) none

def Accepts (r : Compiled) (text : Array Char) (p : Nat) (slots : Slots) : Prop :=
  ∃ pc q, Steps r.program text (r.start, p, r.initialSlots) (pc, q, slots) ∧
    r.program[pc]? = some .accept

def Reached (r : Compiled) (text : Array Char) (start pos pc : Nat) (slots : Slots) : Prop :=
  ∃ p, start ≤ p ∧ Steps r.program text (r.start, p, r.initialSlots) (pc, pos, slots)

variable {r : Compiled} {text : Array Char} {start : Nat}

theorem reached_step {pos pos' pc pc' : Nat} {slots slots' : Slots}
    (h : r.Reached text start pos pc slots)
    (hs : Step r.program text (pc, pos, slots) (pc', pos', slots')) :
    r.Reached text start pos' pc' slots' := by
  obtain ⟨p, hp, hrun⟩ := h
  exact ⟨p, hp, hrun.tail hs⟩

/-- The machine run from `pos` on, while its threads are reached and the match it holds is
accepted, reports only accepted matches. The induction is on the fuel, one position a time. -/
theorem run_sound :
    ∀ {fuel pos : Nat} {curr : Threads} {found : Option Slots}, start ≤ pos →
      (∀ t ∈ curr.list, r.Reached text start pos t.pc t.slots) →
      (∀ s, found = some s → ∃ p, start ≤ p ∧ r.Accepts text p s) →
      ∀ s, r.run text fuel pos curr found = some s → ∃ p, start ≤ p ∧ r.Accepts text p s := by
  intro fuel
  induction fuel with
  | zero => intro pos curr found _ _ hfound s h; exact hfound s h
  | succ fuel ih =>
    intro pos curr found hpos hcurr hfound s h
    rw [run] at h
    split at h
    · exact hfound s h
    · -- a search that has found nothing yet also tries the program from `pos`
      have hstart : ∀ t ∈ (if found.isNone then
            closure r.program text pos (r.program.size + 1) r.start
              (Array.replicate (2 * r.groups + 2) none) curr
          else curr).list, r.Reached text start pos t.pc t.slots := by
        split
        · exact closure_sound (fun hq hs => reached_step hq hs) ⟨pos, hpos, .refl⟩ hcurr
        · exact hcurr
      generalize (if found.isNone then
            closure r.program text pos (r.program.size + 1) r.start
              (Array.replicate (2 * r.groups + 2) none) curr
          else curr) = curr' at hstart h
      have hempty : ∀ t ∈ (Threads.empty r.program.size).list,
          r.Reached text start (pos + 1) t.pc t.slots := by
        simp [Threads.empty]
      obtain ⟨hnext, hm⟩ := advance_sound (fun hq hs => reached_step hq hs)
        (fun hq hs => reached_step hq hs) (fun t ht => hstart t (Array.mem_toList_iff.1 ht)) hempty
      -- the match moved to, or the one held before
      have hfound' : ∀ s, ((advance r.program text pos curr'.list.toList
          (Threads.empty r.program.size)).2 <|> found) = some s →
          ∃ p, start ≤ p ∧ r.Accepts text p s := by
        intro s hs
        cases hadv : (advance r.program text pos curr'.list.toList
            (Threads.empty r.program.size)).2 with
        | none => rw [hadv] at hs; exact hfound s hs
        | some s' =>
          rw [hadv] at hs
          cases hs
          obtain ⟨t, ht, hacc, rfl⟩ := hm _ hadv
          obtain ⟨p, hp, hrun⟩ := hstart t (Array.mem_toList_iff.1 ht)
          exact ⟨p, hp, t.pc, pos, hrun, hacc⟩
      dsimp only at h
      split at h
      · exact hfound' s h
      · exact ih (Nat.le_succ_of_le hpos) hnext hfound' s h

theorem searchAt_sound {s : Slots} (h : r.searchAt text start = some s) :
    ∃ p, start ≤ p ∧ r.Accepts text p s := by
  rw [searchAt] at h
  split at h
  · cases h
  · refine run_sound (Nat.le_refl start) ?_ (fun _ h => by cases h) s h
    simp [Threads.empty]

end Compiled

end Regex

end MonitorWire
