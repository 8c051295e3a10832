import Mathlib
import MonitorWire.Zlib.Stored

namespace MonitorWire.Zlib

theorem bit_at (data : Array UInt8) (p : Nat) (h : p / 8 < data.size) :
    Decoder.bit ⟨data, p⟩ = some ((data[p / 8].toNat >>> (p % 8)) % 2, ⟨data, p + 1⟩) := by
  simp [Decoder.bit, h]

theorem bits_within (data : Array UInt8) (i : Nat) (hi : i < data.size) :
    ∀ n k, k + n ≤ 8 →
      Decoder.bits n ⟨data, 8 * i + k⟩ =
        some ((data[i].toNat >>> k) % 2 ^ n, ⟨data, 8 * i + k + n⟩) := by
  intro n
  induction n with
  | zero => intro k _; simp [Decoder.bits, pure, StateT.pure, Nat.mod_one]
  | succ n ih =>
      intro k hk
      have hdiv : (8 * i + k) / 8 = i := by omega
      have hmod : (8 * i + k) % 8 = k := by omega
      have hb := bit_at data (8 * i + k) (by rw [hdiv]; exact hi)
      simp only [hdiv, hmod] at hb
      have hr := ih (k + 1) (by omega)
      rw [← Nat.add_assoc] at hr
      simp only [Decoder.bits, bind, StateT.bind, hb, Option.bind_some, hr, pure, StateT.pure]
      have hsplit : (data[i].toNat >>> k) % 2 + 2 * ((data[i].toNat >>> (k + 1)) % 2 ^ n) =
          (data[i].toNat >>> k) % 2 ^ (n + 1) := by
        rw [Nat.shiftRight_succ, Nat.pow_succ', Nat.mod_mul]
      rw [hsplit, Nat.add_right_comm _ 1 n]
      rfl

theorem byte_at (data : Array UInt8) (i : Nat) (hi : i < data.size) :
    Decoder.byte ⟨data, 8 * i⟩ = some (data[i].toNat, ⟨data, 8 * i + 8⟩) := by
  have h := bits_within data i hi 8 0 (by omega)
  simp only [Nat.add_zero, Nat.shiftRight_zero] at h
  rw [Decoder.byte, h, Nat.mod_eq_of_lt (by have := data[i].toNat_lt; simpa using this)]

theorem lt_size_of_toList {data : Array UInt8} {pre post : Bytes} {m : UInt8}
    (hd : data.toList = pre ++ m :: post) : pre.length < data.size := by
  rw [← Array.length_toList, hd]
  simp

theorem getElem_of_toList {data : Array UInt8} {pre post : Bytes} {m : UInt8}
    (hd : data.toList = pre ++ m :: post) (h : pre.length < data.size) :
    data[pre.length] = m := by
  rw [← Array.getElem_toList]
  simp [hd]

theorem byte_of_toList (data : Array UInt8) (pre : Bytes) (m : UInt8) (post : Bytes) (p : Nat)
    (hd : data.toList = pre ++ m :: post) (hp : p = 8 * pre.length) :
    Decoder.byte ⟨data, p⟩ = some (m.toNat, ⟨data, p + 8⟩) := by
  have hlt := lt_size_of_toList hd
  rw [hp, byte_at data pre.length hlt, getElem_of_toList hd hlt]

theorem bytes_of_toList (data : Array UInt8) (pre mid post : Bytes) (p : Nat)
    (hd : data.toList = pre ++ mid ++ post) (hp : p = 8 * pre.length) :
    Decoder.bytes mid.length ⟨data, p⟩ = some (mid, ⟨data, p + 8 * mid.length⟩) := by
  induction mid generalizing pre p with
  | nil => simp [Decoder.bytes, pure, StateT.pure]
  | cons m mid ih =>
      have hb := byte_of_toList data pre m (mid ++ post) p (by simpa using hd) hp
      have hr := ih (pre ++ [m]) (p + 8) (by simpa using hd) (by simp; omega)
      simp only [Decoder.bytes, List.length_cons, bind, StateT.bind, hb, Option.bind_some, hr,
        pure, StateT.pure, UInt8.ofNat_toNat]
      congr 3
      omega

theorem align_of_mod (data : Array UInt8) (i k : Nat) (hk : 0 < k) (hk8 : k ≤ 8) :
    Decoder.align ⟨data, 8 * i + k⟩ = some ((), ⟨data, 8 * i + 8⟩) := by
  simp only [Decoder.align, Option.some.injEq, Prod.mk.injEq, true_and, BitReader.mk.injEq]
  omega

theorem align_of_aligned (data : Array UInt8) {p k : Nat} (hp : p = 8 * k) :
    Decoder.align ⟨data, p⟩ = some ((), ⟨data, p⟩) := by
  simp only [Decoder.align, Option.some.injEq, Prod.mk.injEq, true_and, BitReader.mk.injEq]
  omega

theorem stored_of_toList {data : Array UInt8} {pre mid post : Bytes} (final : Bool)
    (out : Array UInt8) (hd : data.toList = pre ++ storedHead final mid.length ++ mid ++ post)
    (hn : mid.length ≤ 65535) :
    stored out ⟨data, 8 * pre.length + 3⟩ =
      some (out ++ mid.toArray, ⟨data, 8 * (pre.length + 5 + mid.length)⟩) := by
  simp only [storedHead] at hd
  have h1 := byte_of_toList data (pre ++ [if final then 1 else 0]) _ _ (8 * pre.length + 8)
    (by simpa using hd) (by simp; omega)
  have h2 := byte_of_toList data (pre ++ [if final then 1 else 0, UInt8.ofNat mid.length]) _ _
    (8 * pre.length + 8 + 8) (by simpa using hd) (by simp; omega)
  have h3 := byte_of_toList data (pre ++ [if final then 1 else 0, UInt8.ofNat mid.length,
    UInt8.ofNat (mid.length / 256)]) _ _ (8 * pre.length + 8 + 8 + 8) (by simpa using hd)
    (by simp; omega)
  have h4 := byte_of_toList data (pre ++ [if final then 1 else 0, UInt8.ofNat mid.length,
    UInt8.ofNat (mid.length / 256), UInt8.ofNat (65535 - mid.length)]) _ _
    (8 * pre.length + 8 + 8 + 8 + 8) (by simpa using hd) (by simp; omega)
  have h5 := bytes_of_toList data (pre ++ [if final then 1 else 0, UInt8.ofNat mid.length,
    UInt8.ofNat (mid.length / 256), UInt8.ofNat (65535 - mid.length),
    UInt8.ofNat ((65535 - mid.length) / 256)]) mid post
    (8 * pre.length + 8 + 8 + 8 + 8 + 8) (by simpa using hd) (by simp; omega)
  -- The two length words agree, so the check passes and `mid.length` bytes are read.
  have hlen : (UInt8.ofNat mid.length).toNat + 256 * (UInt8.ofNat (mid.length / 256)).toNat =
      mid.length := by
    simp only [UInt8.toNat_ofNat']; omega
  have hcheck : mid.length + ((UInt8.ofNat (65535 - mid.length)).toNat +
      256 * (UInt8.ofNat ((65535 - mid.length) / 256)).toNat) = 65535 := by
    simp only [UInt8.toNat_ofNat']; omega
  simp only [stored, bind, StateT.bind, align_of_mod data pre.length 3 (by omega) (by omega),
    Option.bind_some, h1, h2, h3, h4, hlen, hcheck, bne_self_eq_false, Bool.false_eq_true,
    if_false, h5, pure, StateT.pure]
  congr 3
  omega

theorem blocks_stored_step (fuel left : Nat) (data : Array UInt8) (pre mid post : Bytes)
    (final : Bool) (out : Array UInt8)
    (hd : data.toList = pre ++ storedHead final mid.length ++ mid ++ post)
    (hn : mid.length ≤ 65535) :
    blocks fuel (left + 1) out ⟨data, 8 * pre.length⟩ =
      if final then some (out ++ mid.toArray, ⟨data, 8 * (pre.length + 5 + mid.length)⟩)
      else blocks fuel left (out ++ mid.toArray) ⟨data, 8 * (pre.length + 5 + mid.length)⟩ := by
  have hd' : data.toList = pre ++ (if final then 1 else 0) ::
      ((storedHead final mid.length).tail ++ mid ++ post) := by
    simp [hd, storedHead]
  have hsize := lt_size_of_toList hd'
  have hhead := getElem_of_toList hd' hsize
  have hbit : Decoder.bit ⟨data, 8 * pre.length⟩ =
      some (if final then 1 else 0, ⟨data, 8 * pre.length + 1⟩) := by
    rw [bit_at data _ (by omega)]
    simp only [Nat.mul_div_cancel_left _ (by omega : 0 < 8), Nat.mul_mod_right, hhead]
    cases final <;> rfl
  -- The two block-type bits of a stored block are zero.
  have hkind : Decoder.bits 2 ⟨data, 8 * pre.length + 1⟩ =
      some (0, ⟨data, 8 * pre.length + 3⟩) := by
    rw [bits_within data pre.length hsize 2 1 (by omega), hhead]
    cases final <;> rfl
  simp only [blocks, bind, StateT.bind, hbit, Option.bind_some, hkind,
    stored_of_toList final out hd hn]
  cases final <;> rfl

theorem blockLimit_eq : blockLimit = 65535 := by
  unfold blockLimit; rfl

theorem storedBlocks_of_le {bs : Bytes} (h : bs.length ≤ blockLimit) :
    storedBlocks bs = storedHead true bs.length ++ bs := by
  rw [storedBlocks]
  simp [h]

theorem storedBlocks_of_gt {bs : Bytes} (h : ¬bs.length ≤ blockLimit) :
    storedBlocks bs = storedHead false (bs.take blockLimit).length ++ bs.take blockLimit ++
      storedBlocks (bs.drop blockLimit) := by
  rw [storedBlocks]
  simp only [h, dite_false, List.length_take]
  rw [Nat.min_eq_left (by omega)]

/-- The block loop reads back the stored blocks of `bs`, given one round per block; every
block takes at least five bytes, so a fifth of the blocks' length is enough rounds. -/
theorem blocks_storedBlocks (fuel : Nat) (bs : Bytes) :
    ∀ (left : Nat) (out : Array UInt8) (data : Array UInt8) (pre post : Bytes) (p : Nat),
      data.toList = pre ++ storedBlocks bs ++ post → p = 8 * pre.length →
      (storedBlocks bs).length ≤ 5 * left →
      blocks fuel left out ⟨data, p⟩ =
        some (out ++ bs.toArray, ⟨data, p + 8 * (storedBlocks bs).length⟩) := by
  induction bs using storedBlocks.induct with
  | case1 bs h =>
      intro left out data pre post p hd hp hleft
      rw [storedBlocks_of_le h] at hd hleft ⊢
      simp only [storedHead, List.length_append, List.length_cons, List.length_nil] at hleft
      obtain ⟨left, rfl⟩ : ∃ l, left = l + 1 := ⟨left - 1, by omega⟩
      rw [hp, blocks_stored_step fuel left data pre bs post true out
        (by rw [hd]; simp only [List.append_assoc]) (by rw [blockLimit_eq] at h; exact h)]
      simp [storedHead]
      omega
  | case2 bs h ih =>
      intro left out data pre post p hd hp hleft
      rw [blockLimit_eq] at h ih
      rw [storedBlocks_of_gt (by rw [blockLimit_eq]; exact h), blockLimit_eq] at hd hleft ⊢
      simp only [storedHead, List.length_append, List.length_cons, List.length_nil] at hleft
      obtain ⟨left, rfl⟩ : ∃ l, left = l + 1 := ⟨left - 1, by omega⟩
      rw [hp, blocks_stored_step fuel left data pre (bs.take 65535)
        (storedBlocks (bs.drop 65535) ++ post) false out
        (by rw [hd]; simp only [List.append_assoc]) (by simp), if_neg Bool.false_ne_true]
      rw [ih left _ data (pre ++ storedHead false (bs.take 65535).length ++ bs.take 65535) post _
        (by rw [hd]; simp only [List.append_assoc]) (by simp [storedHead]; omega) (by omega)]
      rw [Array.append_assoc, List.append_toArray (bs.take 65535), List.take_append_drop]
      simp [storedHead]
      omega

theorem adler32_lt (bs : Bytes) : adler32 bs < 4294967296 := by
  have h := List.foldlRecOn (motive := fun acc : Nat × Nat => acc.1 < 65521 ∧ acc.2 < 65521) bs
    (fun (acc : Nat × Nat) (x : UInt8) =>
      ((acc.1 + x.toNat) % 65521, (acc.2 + (acc.1 + x.toNat) % 65521) % 65521)) (b := (1, 0))
    (by decide) (fun _ _ _ _ => ⟨Nat.mod_lt _ (by decide), Nat.mod_lt _ (by decide)⟩)
  simp only [adler32]
  omega

theorem foldl_wordBE (n : Nat) :
    (wordBE n).foldl (fun acc b => acc * 256 + b.toNat) 0 = n % 4294967296 := by
  simp only [wordBE, List.foldl_cons, List.foldl_nil, UInt8.toNat_ofNat']
  omega

theorem inflate_deflateStored (bs : Bytes) : inflate? (deflateStored bs) = some bs := by
  have hcmf := byte_of_toList (deflateStored bs).toArray [] 0x78
    (0x01 :: (storedBlocks bs ++ wordBE (adler32 bs))) 0 (by simp [deflateStored]) rfl
  have hflg := byte_of_toList (deflateStored bs).toArray [0x78] 0x01
    (storedBlocks bs ++ wordBE (adler32 bs)) (0 + 8) (by simp [deflateStored]) rfl
  have hblocks := blocks_storedBlocks (8 * (deflateStored bs).length + 1) bs
    (8 * (deflateStored bs).length + 1) #[] (deflateStored bs).toArray [0x78, 0x01]
    (wordBE (adler32 bs)) (0 + 8 + 8) (by simp [deflateStored]) rfl
    (by simp [deflateStored]; omega)
  have halign := align_of_aligned (deflateStored bs).toArray
    (p := 0 + 8 + 8 + 8 * (storedBlocks bs).length) (k := 2 + (storedBlocks bs).length) (by omega)
  have hcheck : Decoder.bytes 4 ⟨(deflateStored bs).toArray,
      0 + 8 + 8 + 8 * (storedBlocks bs).length⟩ =
      some (wordBE (adler32 bs), ⟨(deflateStored bs).toArray,
        0 + 8 + 8 + 8 * (storedBlocks bs).length + 8 * 4⟩) :=
    bytes_of_toList (deflateStored bs).toArray ([0x78, 0x01] ++ storedBlocks bs)
      (wordBE (adler32 bs)) [] _ (by simp [deflateStored]) (by simp; omega)
  have hok : headerOk (UInt8.toNat 0x78) (UInt8.toNat 0x01) = true := by decide
  simp only [inflate?, stream, bind, StateT.bind, hcmf, hflg, Option.bind_some, hok, Bool.not_true,
    Bool.false_eq_true, if_false, hblocks, halign, hcheck, foldl_wordBE,
    Nat.mod_eq_of_lt (adler32_lt bs)]
  simp [pure, StateT.pure]

end MonitorWire.Zlib
