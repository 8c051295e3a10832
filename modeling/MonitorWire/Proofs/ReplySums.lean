import Mathlib
import MonitorWire.Reply

namespace MonitorWire

namespace Duration

@[simp] theorem totalNanos_ofNanos (n : Nat) : (ofNanos n).totalNanos = n :=
  Nat.div_add_mod' _ _

theorem totalNanos_add (a b : Duration) : (a + b).totalNanos = a.totalNanos + b.totalNanos :=
  totalNanos_ofNanos _

def nanosBound : Nat := secsBound * nanosPerSec

theorem checkedAdd_eq (a b : Duration) :
    a.checkedAdd b =
      if a.totalNanos + b.totalNanos < nanosBound then some (ofNanos (a.totalNanos + b.totalNanos))
      else none := by
  have hsecs : (a + b).secs < secsBound ↔ a.totalNanos + b.totalNanos < nanosBound := by
    change (a.totalNanos + b.totalNanos) / nanosPerSec < secsBound ↔ _
    rw [Nat.div_lt_iff_lt_mul (by decide), nanosBound]
  simp only [checkedAdd, hsecs]
  rfl

end Duration

namespace SenderResponse

def ofReplies (replies : List (Node × TrapperResult)) : SenderResponse where
  processed := (replies.map (·.2.processed)).sum % counterBound
  failed := (replies.map (·.2.failed)).sum % counterBound
  total := (replies.map (·.2.total)).sum % counterBound
  time := Duration.ofNanos (replies.map (·.2.time.totalNanos)).sum
  chunk := (replies.map (·.2.chunk)).foldl max 0
  details := replies.map fun p => ⟨p.1, p.2⟩

theorem ofReplies_nil : ofReplies [] = {} := rfl

theorem add_ofReplies (replies : List (Node × TrapperResult)) (p : Node × TrapperResult) :
    (ofReplies replies).add p.1 p.2 =
      if (replies.map (·.2.time.totalNanos)).sum + p.2.time.totalNanos < Duration.nanosBound then
        .ok (ofReplies (replies ++ [p]))
      else .error overflowMessage := by
  unfold add
  rw [Duration.checkedAdd_eq]
  simp only [ofReplies, Duration.totalNanos_ofNanos]
  split_ifs with hlt
  · -- each field of the summary takes the new answer in as the last of the list
    simp only [Option.elim_some, List.map_append, List.map_cons, List.map_nil, List.sum_append,
      List.sum_cons, List.sum_nil, Nat.add_zero, Nat.mod_add_mod, List.foldl_append,
      List.foldl_cons, List.foldl_nil]
  · rfl

theorem ok_bind {α : Type} (a : SenderResponse) (f : SenderResponse → Except String α) :
    (Except.ok a >>= f) = f a := rfl

theorem error_bind {α : Type} (m : String) (f : SenderResponse → Except String α) :
    (Except.error m >>= f) = Except.error m := rfl

/-- The answers added one by one to the empty summary give their summary at once, unless the
summed time reaches the bound. The induction adds the last answer to the summary of those
before it. -/
theorem foldlM_add (replies : List (Node × TrapperResult)) :
    replies.foldlM (fun s p => SenderResponse.add s p.1 p.2) {} =
      if (replies.map (·.2.time.totalNanos)).sum < Duration.nanosBound then .ok (ofReplies replies)
      else .error overflowMessage := by
  induction replies using List.reverseRecOn with
  | nil => rfl
  | append_singleton replies p ih =>
    have hsum : ((replies ++ [p]).map (·.2.time.totalNanos)).sum =
        (replies.map (·.2.time.totalNanos)).sum + p.2.time.totalNanos := by simp
    rw [List.foldlM_append, ih, hsum]
    simp only [List.foldlM_cons, List.foldlM_nil, bind_pure]
    by_cases hlt : (replies.map (·.2.time.totalNanos)).sum < Duration.nanosBound
    · rw [if_pos hlt, ok_bind, add_ofReplies]
    · -- the time of the first answers already reached the bound
      have hge : ¬(replies.map (·.2.time.totalNanos)).sum + p.2.time.totalNanos <
          Duration.nanosBound := by omega
      rw [if_neg hlt, if_neg hge, error_bind]

theorem isSuccess_ofReplies (replies : List (Node × TrapperResult)) :
    (ofReplies replies).isSuccess = true ↔ (replies.map (·.2.failed)).sum % counterBound = 0 := by
  simp [isSuccess, ofReplies]

end SenderResponse

/-- The answers added one by one to the empty summary give the exact sums of their counters
and times, their largest chunk and the answers in order, with success exactly when no item
failed, precisely when the summed time stays below `Duration.secsBound` seconds and each
summed counter below `SenderResponse.counterBound`. -/
theorem sender_response_exact_iff (replies : List (Node × TrapperResult)) :
    (∃ resp, replies.foldlM (fun s p => SenderResponse.add s p.1 p.2) {} = .ok resp ∧
        resp.processed = (replies.map (·.2.processed)).sum ∧
        resp.failed = (replies.map (·.2.failed)).sum ∧
        resp.total = (replies.map (·.2.total)).sum ∧
        resp.time.totalNanos = (replies.map (·.2.time.totalNanos)).sum ∧
        resp.chunk = (replies.map (·.2.chunk)).foldl max 0 ∧
        resp.details = replies.map (fun p => ⟨p.1, p.2⟩) ∧
        (resp.isSuccess = true ↔ ∀ p ∈ replies, p.2.failed = 0)) ↔
      (replies.map (·.2.time.totalNanos)).sum < Duration.nanosBound ∧
        (replies.map (·.2.processed)).sum < SenderResponse.counterBound ∧
        (replies.map (·.2.failed)).sum < SenderResponse.counterBound ∧
        (replies.map (·.2.total)).sum < SenderResponse.counterBound := by
  have hB : 0 < SenderResponse.counterBound := by decide
  rw [SenderResponse.foldlM_add]
  constructor
  · rintro ⟨resp, hfold, hp, hf, ht, -⟩
    split_ifs at hfold with hlt
    cases hfold
    -- a counter is its sum only when the sum did not wrap around the bound
    exact ⟨hlt, lt_of_eq_of_lt hp.symm (Nat.mod_lt _ hB), lt_of_eq_of_lt hf.symm (Nat.mod_lt _ hB),
      lt_of_eq_of_lt ht.symm (Nat.mod_lt _ hB)⟩
  · rintro ⟨hlt, hp, hf, ht⟩
    refine ⟨_, if_pos hlt, Nat.mod_eq_of_lt hp, Nat.mod_eq_of_lt hf, Nat.mod_eq_of_lt ht,
      Duration.totalNanos_ofNanos _, rfl, rfl, ?_⟩
    rw [SenderResponse.isSuccess_ofReplies, Nat.mod_eq_of_lt hf, List.sum_eq_zero_iff,
      List.forall_mem_map]

/-- Two answers whose failure counts add up to the counter bound: the summary counts no
failure and reports success, though the first answer counts failures. -/
theorem failed_count_wraps_to_success :
    ∃ resp, [(⟨"a", 10051⟩, ⟨1, 18446744073709551615, 18446744073709551615, ⟨1, 0⟩, 1⟩),
        ((⟨"b", 10051⟩ : Node), (⟨0, 1, 1, ⟨1, 0⟩, 2⟩ : TrapperResult))].foldlM
        (fun s p => SenderResponse.add s p.1 p.2) {} = .ok resp ∧ resp.failed = 0 ∧ resp.isSuccess = true :=
  ⟨_, rfl, rfl, rfl⟩

end MonitorWire
