import Mathlib
import MonitorWire.Proofs.ReplyReading

namespace MonitorWire

namespace Source

def readEach (s : Source) : List Nat → Traced (List Bytes × Source)
  | [] => pure ([], s)
  | size :: sizes => do
    let (got, s') ← s.readExact size
    let (rest, s'') ← s'.readEach sizes
    pure (got :: rest, s'')

def cuts : Bytes → List Nat → List Bytes
  | _, [] => []
  | d, size :: sizes => d.take size :: cuts (d.drop size) sizes

/-- Where the reads of `sizes` stand in `len` bytes after the first `i` of them:
`0` before the first, then `min (S + n) len` after a read of `n` bytes from `S`. -/
def stop (len : Nat) (sizes : List Nat) : Nat → Nat
  | 0 => 0
  | i + 1 => min (stop len sizes i + sizes.getD i 0) len

@[simp] theorem stop_zero (len : Nat) (sizes : List Nat) : stop len sizes 0 = 0 := rfl

theorem stop_succ (len : Nat) (sizes : List Nat) (i : Nat) :
    stop len sizes (i + 1) = min (stop len sizes i + sizes.getD i 0) len := rfl

theorem stop_le (len : Nat) (sizes : List Nat) (i : Nat) : stop len sizes i ≤ len := by
  cases i with
  | zero => simp
  | succ i => rw [stop_succ]; omega

theorem stop_le_succ (len : Nat) (sizes : List Nat) (i : Nat) :
    stop len sizes i ≤ stop len sizes (i + 1) := by
  have h := stop_le len sizes i
  rw [stop_succ]
  omega

theorem stop_cons_succ (len size : Nat) (sizes : List Nat) (i : Nat) :
    stop len (size :: sizes) (i + 1) = min size len + stop (len - size) sizes i := by
  induction i with
  | zero => simp [stop_succ]
  | succ i ih =>
    have hle := stop_le (len - size) sizes i
    rw [stop_succ, ih, stop_succ, List.getD_cons_succ]
    omega

theorem extract_drop (d : Bytes) (n a b : Nat) :
    (d.drop n).extract a b = d.extract (n + a) (n + b) := by
  rw [List.extract_eq_take_drop, List.extract_eq_take_drop, List.drop_drop]
  congr 1
  omega

theorem getElem?_cuts (d : Bytes) (sizes : List Nat) {i : Nat} (hi : i < sizes.length) :
    (cuts d sizes)[i]? = some (d.extract (stop d.length sizes i) (stop d.length sizes (i + 1))) := by
  induction sizes generalizing d i with
  | nil => simp at hi
  | cons size sizes ih =>
    cases i with
    | zero =>
      simp [cuts, stop_succ, List.extract_eq_take_drop]
    | succ i =>
      have hlen : (d.drop size).length = d.length - size := List.length_drop
      -- the later pieces are cut from what the first read left
      rw [cuts, List.getElem?_cons_succ, ih (d.drop size) (by simpa using hi), hlen,
        extract_drop, stop_cons_succ, stop_cons_succ]
      by_cases hsize : size ≤ d.length
      · rw [Nat.min_eq_left hsize]
      · -- the first read took everything: every later slice is empty
        have hs := stop_le (d.length - size) sizes i
        have hs' := stop_le (d.length - size) sizes (i + 1)
        simp only [List.extract_eq_take_drop]
        rw [List.drop_eq_nil_of_le (by omega), List.drop_eq_nil_of_le (by omega), List.take_nil,
          List.take_nil]

theorem length_cuts (d : Bytes) (sizes : List Nat) : (cuts d sizes).length = sizes.length := by
  induction sizes generalizing d with
  | nil => rfl
  | cons size sizes ih => simp [cuts, ih]

theorem flatten_cuts_isPrefix (d : Bytes) (sizes : List Nat) : (cuts d sizes).flatten <+: d := by
  induction sizes generalizing d with
  | nil => exact List.nil_prefix
  | cons size sizes ih =>
    rw [cuts, List.flatten_cons]
    calc d.take size ++ (cuts (d.drop size) sizes).flatten <+: d.take size ++ d.drop size :=
          List.prefix_append_right_inj _ |>.2 (ih _)
      _ = d := List.take_append_drop size d

theorem readEach_value_fst (s : Source) (hs : s.Live) (sizes : List Nat) :
    (s.readEach sizes).value.1 = cuts s.pending sizes := by
  induction sizes generalizing s with
  | nil => rfl
  | cons size sizes ih =>
    -- the next read starts on the rest of the bytes, whatever arrivals are left
    obtain ⟨k, hread⟩ := readExact_value s hs size
    simp only [readEach, Traced.value_bind, hread, Traced.value_pure, cuts]
    rw [ih (s.consume size k) (hs.consume size k), pending_consume]

theorem stop_eq_length_of_short (d : Bytes) (sizes : List Nat) {i : Nat} {r : Bytes} {n : Nat}
    (hr : (cuts d sizes)[i]? = some r) (hn : sizes[i]? = some n) (hshort : r.length < n) :
    stop d.length sizes (i + 1) = d.length := by
  have hi : i < sizes.length := (List.getElem?_eq_some_iff.1 hn).1
  rw [getElem?_cuts d sizes hi, Option.some.injEq] at hr
  have hgetD : sizes.getD i 0 = n := by simp [List.getD_eq_getElem?_getD, hn]
  have hle := stop_le_succ d.length sizes i
  have hlen := stop_le d.length sizes (i + 1)
  -- the piece holds exactly the bytes between the two stops
  have hrlen : r.length = stop d.length sizes (i + 1) - stop d.length sizes i := by
    rw [← hr, List.extract_eq_take_drop, List.length_take, List.length_drop]
    omega
  rw [stop_succ, hgetD] at hrlen ⊢
  omega

/-- Reads of `n₁, …, nₖ` bytes one after another from the bytes `d`, the `i`-th read handing
out at most `arrivals i` of them: there is one result per size, the `i`-th is the slice of `d`
between the stops `Sᵢ` and `Sᵢ₊₁` (`S₀ = 0`, `Sᵢ₊₁ = min (Sᵢ + nᵢ₊₁) |d|`), a result is short
only when its stop is the end of `d`, the results joined are a prefix of `d`, and any other
arrivals that hand out at least a byte a read give the same results. -/
theorem reads_are_consecutive_slices (d : Bytes) (arrivals : Nat → Nat)
    (hlive : ∀ i, 0 < arrivals i) (sizes : List Nat) :
    let reads := (readEach ⟨d, arrivals⟩ sizes).value.1
    reads.length = sizes.length ∧
      (∀ i (_ : i < sizes.length),
        reads[i]? = some (d.extract (stop d.length sizes i) (stop d.length sizes (i + 1)))) ∧
      (∀ i r n, reads[i]? = some r → sizes[i]? = some n → r.length < n →
        stop d.length sizes (i + 1) = d.length) ∧
      reads.flatten <+: d ∧
      ∀ arrivals' : Nat → Nat, (∀ i, 0 < arrivals' i) →
        (readEach ⟨d, arrivals'⟩ sizes).value.1 = reads := by
  intro reads
  have hreads : reads = cuts d sizes := readEach_value_fst ⟨d, arrivals⟩ hlive sizes
  refine ⟨by rw [hreads, length_cuts], fun i hi => by rw [hreads, getElem?_cuts d sizes hi],
    fun i r n hr hn hshort => ?_, hreads ▸ flatten_cuts_isPrefix d sizes,
    fun arrivals' hlive' => ?_⟩
  · exact stop_eq_length_of_short d sizes (hreads ▸ hr) hn hshort
  · rw [hreads]
    exact readEach_value_fst ⟨d, arrivals'⟩ hlive' sizes

theorem reads_are_consecutive_slices_header_body :
    let d : Bytes := [0x5A, 0x42, 0x58, 0x44, 0x01, 0x04, 0, 0, 0, 0, 0, 0, 0,
      0x74, 0x65, 0x73, 0x74]
    let arrivals := fun i => i % 3 + 1
    let sizes := [13, 4, 2]
    (∀ i, 0 < arrivals i) ∧
      let reads := (readEach ⟨d, arrivals⟩ sizes).value.1
      reads.length = sizes.length ∧
        (∀ i (_ : i < sizes.length),
          reads[i]? = some (d.extract (stop d.length sizes i) (stop d.length sizes (i + 1)))) ∧
        (∀ i r n, reads[i]? = some r → sizes[i]? = some n → r.length < n →
          stop d.length sizes (i + 1) = d.length) ∧
        reads.flatten <+: d ∧
        ∀ arrivals' : Nat → Nat, (∀ i, 0 < arrivals' i) →
          (readEach ⟨d, arrivals'⟩ sizes).value.1 = reads :=
  ⟨fun _ => Nat.succ_pos _, reads_are_consecutive_slices _ _ (fun _ => Nat.succ_pos _) _⟩

end Source

end MonitorWire
