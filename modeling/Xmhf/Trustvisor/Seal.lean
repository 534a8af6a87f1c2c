import Xmhf.Bitfield

/-!
# Sealing in the micro-TPM

`utpm_seal` and `utpm_unseal` (`utpm.c`), as the hypercalls of a PAL call them (`hc_utpm.c`): the
accesses to buffers, each a buffer, an offset and a length, and the length of what is produced.
Hash and cipher are parameters. Where lengths are subtracted, they wrap around as in the source.
-/

namespace Xmhf

def TPM_HASH_SIZE : Nat := 32
def TPM_PCR_NUM : Nat := 32
def MAX_SEALDATA_LEN : Nat := 2048
def SEALDATA_HEADER_LEN : Nat := 48

/-- `sizeof(TPM_PCR_INFO)`: a selection of 2 and 4 bytes, and two digests -/
def sizeofTpmPcrInfo : Nat := 70

inductive SealBuf where
  /-- `indata` and `output` or `outdata` of the hypercalls -/
  | indata
  | outdata
  /-- `plaintext`, for the length of the input -/
  | plaintext (inlen : Nat)
  /-- Any `TPM_PCR_INFO` -/
  | pcrInfo
  /-- `tpm_pcr_composite`, for `sizeOfSelect` and the number of PCRs -/
  | composite (select pcrs : Nat)

def SealBuf.size : SealBuf → Nat
  | .indata | .outdata => MAX_SEALDATA_LEN
  | .plaintext inlen => inlen + 100
  | .pcrInfo => sizeofTpmPcrInfo
  | .composite select pcrs => 2 + select + 4 + pcrs * TPM_HASH_SIZE

structure BufAccess where
  buf : SealBuf
  off : Int
  len : Nat

def BufAccess.Inside (a : BufAccess) : Prop := 0 ≤ a.off ∧ a.off + a.len ≤ a.buf.size

instance (a : BufAccess) : Decidable a.Inside := inferInstanceAs (Decidable (_ ∧ _))

/-- What a routine accesses, and the length that it returns unless it fails. -/
abbrev Accesses := List BufAccess × Option Nat

def Accesses.Safe (r : Accesses) : Prop :=
  (∀ a ∈ r.1, a.Inside) ∧ ∀ outlen ∈ r.2, outlen ≤ MAX_SEALDATA_LEN

/-- The PCRs for which `utpm_pcr_is_selected` holds. -/
def numPcrs (select : Nat) (pcrSelect : Nat → U8) : Nat :=
  ((List.range TPM_PCR_NUM).filter fun i =>
    i / 8 < select && (pcrSelect (i / 8)).getLsbD (i % 8)).length

/-- The bytes that `utpm_internal_memcpy_TPM_PCR_INFO` consumes. -/
def pcrInfoBytes (select : Nat) : Nat := if select = 0 then 2 else 2 + select + 2 * TPM_HASH_SIZE

/-- `utpm_internal_memcpy_TPM_PCR_INFO`: the selection has the size that it says, and the digests
follow it in the copy. -/
def memcpyTpmPcrInfo (src dst : SealBuf) (off select : Nat) : List BufAccess :=
  [⟨src, 0, 2 + select⟩, ⟨dst, off, 2 + select⟩] ++
    if select = 0 then []
    else [⟨src, 6, 32⟩, ⟨dst, off + 2 + select, 32⟩, ⟨src, 38, 32⟩, ⟨dst, off + 34 + select, 32⟩]

/-- `utpm_internal_allocate_and_populate_current_TpmPcrComposite`, and the digest of the result -/
def populateTpmPcrComposite (select pcrs : Nat) : List BufAccess :=
  [⟨.pcrInfo, 2, min select 4⟩, ⟨.pcrInfo, 0, 2 + select⟩,
    ⟨.composite select pcrs, 0, 2 + select⟩, ⟨.composite select pcrs, 2 + select, 4⟩] ++
  (List.range pcrs).map (fun i => ⟨.composite select pcrs, 2 + select + 4 + i * 32, 32⟩) ++
  [⟨.composite select pcrs, 0, 2 + select + 4 + pcrs * 32⟩]

/-- `utpm_seal`; `ready` says that there is memory for the plaintext and for the composite of the
PCRs, and entropy for the IV. -/
def utpmSeal (ready : Bool) (sizeOfSelect : U16) (pcrSelect : Nat → U8) (inlen : Nat) : Accesses :=
  let select := sizeOfSelect.toNat
  if select ≠ 0 ∧ pcrInfoBytes select ≠ sizeofTpmPcrInfo then ([⟨.pcrInfo, 0, 2⟩], none)
  else
    let created := ⟨.pcrInfo, 0, 2⟩ :: if select = 0 then [] else
      memcpyTpmPcrInfo .pcrInfo .pcrInfo 0 select ++
        populateTpmPcrComposite select (numPcrs select pcrSelect)
    if !ready then (created, none)
    else
      let text := SealBuf.plaintext inlen
      let header := 16 + pcrInfoBytes select
      let beforepad := header + 4 + inlen
      let outlen := if beforepad % 16 ≠ 0 then (beforepad + 16) / 16 * 16 else beforepad
      (created ++ [⟨text, 0, 16⟩, ⟨.outdata, 0, 16⟩] ++ memcpyTpmPcrInfo .pcrInfo text 16 select ++
        [⟨text, header, 4⟩, ⟨.indata, 0, inlen⟩, ⟨text, header + 4, inlen⟩,
          ⟨text, beforepad, outlen - beforepad⟩, ⟨text, 16, outlen - 16⟩,
          ⟨.outdata, 16, outlen - 16⟩, ⟨.outdata, 0, outlen⟩, ⟨.outdata, outlen, 32⟩],
        some (outlen + TPM_HASH_SIZE))

/-- What a hypercall copies to the PAL, if it is not too long. -/
def copyOut (r : Accesses) : Accesses :=
  (r.1 ++ match r.2 with
    | some outlen => if outlen ≤ MAX_SEALDATA_LEN then [⟨.outdata, 0, outlen⟩] else []
    | none => [], r.2)

def hcUtpmSeal (ready : Bool) (sizeOfSelect : U16) (pcrSelect : Nat → U8) (inputLen : U32) :
    Accesses :=
  if inputLen.toNat ≤ MAX_SEALDATA_LEN - SEALDATA_HEADER_LEN - 16 then
    let r := copyOut (utpmSeal ready sizeOfSelect pcrSelect inputLen.toNat)
    ([⟨.indata, 0, inputLen.toNat⟩, ⟨.pcrInfo, 0, sizeofTpmPcrInfo⟩] ++ r.1, r.2)
  else ([], none)

/-- The authentication code of a byte string; what `outdata` holds after the decryption of an
input; and whether the PCRs have the digest that the plaintext asks for. -/
structure UtpmCrypto where
  hmacSha : List U8 → List U8
  decrypt : List U8 → Nat → U8
  pcrsMatch : (Nat → U8) → Bool

def bytesAt (text : Nat → U8) (off count : Nat) : Nat :=
  (List.range count).foldr (fun i n => n * 256 + (text (off + i)).toNat) 0

def utpmUnseal (c : UtpmCrypto) (input : List U8) : Accesses :=
  let inlen : U32 := BitVec.ofNat 32 input.length
  let body := (inlen - 32).toNat
  if body % 16 ≠ 0 then ([], none)
  else
    let checked : List BufAccess := [⟨.indata, 0, body⟩, ⟨.indata, (inlen.toNat : Int) - 32, 32⟩]
    if c.hmacSha (input.take body) ≠ input.drop body then (checked, none)
    else
      let outlen := (inlen - 16 - 32).toNat
      let text := c.decrypt input
      let select := bytesAt text 0 2
      let header := pcrInfoBytes select
      let decrypted := checked ++ [⟨.indata, 0, 16⟩, ⟨.indata, 16, outlen⟩, ⟨.outdata, 0, outlen⟩] ++
        memcpyTpmPcrInfo .outdata .pcrInfo 0 select ++
        if select = 0 then [] else populateTpmPcrComposite select (numPcrs select fun i => text (2 + i))
      if select ≠ 0 ∧ c.pcrsMatch text = false then (decrypted, none)
      else
        let outlen := bytesAt text header 4
        (decrypted ++ [⟨.outdata, header, 4⟩, ⟨.outdata, header + 4, outlen⟩, ⟨.outdata, 0, outlen⟩],
          some outlen)

def hcUtpmUnseal (c : UtpmCrypto) (input : List U8) : Accesses :=
  if input.length ≤ MAX_SEALDATA_LEN then
    let r := copyOut (utpmUnseal c input)
    (⟨.indata, 0, input.length⟩ :: r.1, r.2)
  else ([], none)

variable {select : Nat}

/-! ## Bounds -/

theorem populateTpmPcrComposite_inside (small : select ≤ 4) (pcrs : Nat) :
    ∀ a ∈ populateTpmPcrComposite select pcrs, a.Inside := by
  intro a mem
  simp only [populateTpmPcrComposite, List.mem_append, List.mem_cons, List.mem_map, List.mem_range,
    List.not_mem_nil, or_false] at mem
  rcases mem with ((rfl | rfl | rfl | rfl) | ⟨i, inside, rfl⟩) | rfl <;>
    simp only [BufAccess.Inside, SealBuf.size, sizeofTpmPcrInfo, TPM_HASH_SIZE] <;> omega

theorem copyOut_safe (r : Accesses) : (copyOut r).Safe ↔ r.Safe := by
  obtain ⟨accesses, _ | outlen⟩ := r
  · simp [copyOut, Accesses.Safe]
  · simp only [copyOut, Accesses.Safe, List.forall_mem_append, Option.mem_some_iff, forall_eq']
    refine and_congr_left fun fits => and_iff_left ?_
    rw [if_pos fits]
    simpa [BufAccess.Inside, SealBuf.size] using fits

theorem safe_append (accesses rest : List BufAccess) (outlen : Option Nat) :
    Accesses.Safe (accesses ++ rest, outlen) ↔
      (∀ a ∈ accesses, a.Inside) ∧ Accesses.Safe (rest, outlen) := by
  simp only [Accesses.Safe, List.forall_mem_append, and_assoc]

theorem memcpyTpmPcrInfo_inside {src dst : SealBuf} {off : Nat} (read : 70 ≤ src.size)
    (small : select ≤ 4) :
    (∀ a ∈ memcpyTpmPcrInfo src dst off select, a.Inside) ↔
      off + pcrInfoBytes select ≤ dst.size := by
  unfold memcpyTpmPcrInfo pcrInfoBytes
  by_cases none : select = 0
  · simp [none, BufAccess.Inside]
    omega
  · simp [none, BufAccess.Inside, TPM_HASH_SIZE]
    omega

theorem pcrInfoBytes_eq_size (some : select ≠ 0) :
    pcrInfoBytes select = sizeofTpmPcrInfo ↔ select = 4 := by
  rw [pcrInfoBytes, if_neg some, sizeofTpmPcrInfo, TPM_HASH_SIZE]
  omega

theorem created_inside (small : select ≤ 4) (pcrs : Nat) :
    ∀ a ∈ (⟨.pcrInfo, 0, 2⟩ :: if select = 0 then [] else
      memcpyTpmPcrInfo .pcrInfo .pcrInfo 0 select ++ populateTpmPcrComposite select pcrs :
        List BufAccess), a.Inside := by
  refine List.forall_mem_cons.mpr ⟨by decide, ?_⟩
  split
  · exact List.forall_mem_nil _
  · next some =>
    refine List.forall_mem_append.mpr ⟨?_, populateTpmPcrComposite_inside small pcrs⟩
    refine (memcpyTpmPcrInfo_inside (by decide) small).mpr ?_
    simp only [pcrInfoBytes, if_neg some, TPM_HASH_SIZE, SealBuf.size, sizeofTpmPcrInfo]
    omega

theorem utpmSeal_safe_iff (ready : Bool) (sizeOfSelect : U16) (pcrSelect : Nat → U8) {inlen : Nat}
    (accepted : inlen ≤ 1984) : (utpmSeal ready sizeOfSelect pcrSelect inlen).Safe ↔
      ¬ (ready = true ∧ sizeOfSelect = 4) ∨ inlen ≤ 1926 ∧ (inlen % 16 < 7 ∨ 11 < inlen % 16) := by
  have four : sizeOfSelect = 4 ↔ sizeOfSelect.toNat = 4 := BitVec.toNat_inj.symm
  rw [four]
  unfold utpmSeal
  generalize sizeOfSelect.toNat = select
  dsimp only
  by_cases other : select ≠ 0 ∧ pcrInfoBytes select ≠ sizeofTpmPcrInfo
  · have not_four : select ≠ 4 := fun four => other.2 ((pcrInfoBytes_eq_size other.1).mpr four)
    rw [if_pos other]
    refine iff_of_true ⟨?_, nofun⟩ (.inl fun h => not_four h.2)
    exact List.forall_mem_singleton.mpr (by decide)
  rw [if_neg other]
  have cases_select : select = 0 ∨ select = 4 := by
    by_contra neither
    have some : select ≠ 0 := fun zero => neither (.inl zero)
    exact other ⟨some, fun four => neither (.inr ((pcrInfoBytes_eq_size some).mp four))⟩
  have small : select ≤ 4 := by omega
  have created := created_inside small (numPcrs select pcrSelect)
  cases ready with
  | false => exact iff_of_true ⟨created, nofun⟩ (.inl fun h => Bool.false_ne_true h.1)
  | true =>
    rw [if_neg (by decide), Accesses.Safe, List.forall_mem_append, List.forall_mem_append,
      List.forall_mem_append, memcpyTpmPcrInfo_inside (by decide) small]
    rcases cases_select with rfl | rfl
    all_goals
      simp only [and_iff_right created]
      simp [BufAccess.Inside, SealBuf.size, pcrInfoBytes, sizeofTpmPcrInfo, TPM_HASH_SIZE,
        MAX_SEALDATA_LEN]
      split <;> omega

/-- The lengths and the selection for which unsealing an input stays inside the buffers. -/
def UnsealFits (c : UtpmCrypto) (input : List U8) : Prop :=
  let text := c.decrypt input
  let select := bytesAt text 0 2
  input.length % 16 ≠ 0 ∨ 32 ≤ input.length ∧
    (c.hmacSha (input.take (input.length - 32)) ≠ input.drop (input.length - 32) ∨
      48 ≤ input.length ∧ select ≤ 4 ∧ (select ≠ 0 ∧ c.pcrsMatch text = false ∨
        pcrInfoBytes select + 4 + bytesAt text (pcrInfoBytes select) 4 ≤ MAX_SEALDATA_LEN))

theorem decrypted_inside_iff {len : Nat} {checked : List BufAccess} (hash : 32 ≤ len)
    (accepted : len ≤ 2048) (whole : len % 16 = 0) (fine : ∀ a ∈ checked, a.Inside)
    (select pcrs : Nat) :
    (∀ a ∈ checked ++ [⟨.indata, 0, 16⟩, ⟨.indata, 16, (2 ^ 32 - 48 + len) % 2 ^ 32⟩,
        ⟨.outdata, 0, (2 ^ 32 - 48 + len) % 2 ^ 32⟩] ++ memcpyTpmPcrInfo .outdata .pcrInfo 0 select ++
        if select = 0 then [] else populateTpmPcrComposite select pcrs, a.Inside) ↔
      48 ≤ len ∧ select ≤ 4 := by
  rw [List.forall_mem_append, List.forall_mem_append, List.forall_mem_append]
  constructor
  · rintro ⟨⟨⟨-, text⟩, info⟩, -⟩
    have cipher := text _ (List.mem_cons_of_mem _ List.mem_cons_self)
    have copied := info ⟨.pcrInfo, 0, 2 + select⟩ (by simp [memcpyTpmPcrInfo])
    simp only [BufAccess.Inside, SealBuf.size, MAX_SEALDATA_LEN, sizeofTpmPcrInfo] at cipher copied
    refine ⟨by omega, ?_⟩
    by_contra large
    have digest := info ⟨.pcrInfo, ((0 : Nat) : Int) + 34 + select, 32⟩
      (by simp [memcpyTpmPcrInfo, show select ≠ 0 by omega])
    simp only [BufAccess.Inside, SealBuf.size, sizeofTpmPcrInfo] at digest
    omega
  · rintro ⟨long, small⟩
    refine ⟨⟨⟨fine, ?_⟩, ?_⟩, ?_⟩
    · simp [BufAccess.Inside, SealBuf.size, MAX_SEALDATA_LEN]
      omega
    · refine (memcpyTpmPcrInfo_inside (by decide) small).mpr ?_
      unfold pcrInfoBytes TPM_HASH_SIZE
      show _ ≤ 70
      split <;> omega
    · split
      · exact List.forall_mem_nil _
      · exact populateTpmPcrComposite_inside small pcrs

theorem utpmUnseal_safe_iff (c : UtpmCrypto) {input : List U8} (accepted : input.length ≤ 2048) :
    (utpmUnseal c input).Safe ↔ UnsealFits c input := by
  have length_toNat : (BitVec.ofNat 32 input.length).toNat = input.length := by
    rw [BitVec.toNat_ofNat, Nat.mod_eq_of_lt (by omega)]
  have body_toNat : (BitVec.ofNat 32 input.length - 32).toNat =
      (2 ^ 32 - 32 + input.length) % 2 ^ 32 := by
    rw [BitVec.toNat_sub, length_toNat]
    rfl
  have unsealed_toNat : (BitVec.ofNat 32 input.length - 16 - 32).toNat =
      (2 ^ 32 - 48 + input.length) % 2 ^ 32 := by
    rw [BitVec.toNat_sub, BitVec.toNat_sub, length_toNat, show BitVec.toNat (16 : U32) = 16 from rfl,
      show BitVec.toNat (32 : U32) = 32 from rfl]
    omega
  unfold utpmUnseal UnsealFits
  dsimp only
  rw [body_toNat, length_toNat]
  by_cases whole : input.length % 16 = 0
  swap
  · rw [if_pos (by omega)]
    exact iff_of_true ⟨List.forall_mem_nil _, nofun⟩ (.inl whole)
  rw [if_neg (by omega)]
  by_cases hash : 32 ≤ input.length
  swap
  · -- The length of the body wraps around, and the first access is far too long.
    refine iff_of_false (fun safe => ?_) (by tauto)
    have body : BufAccess.Inside ⟨.indata, 0, (2 ^ 32 - 32 + input.length) % 2 ^ 32⟩ := by
      refine safe.1 _ ?_
      split_ifs <;> simp
    simp only [BufAccess.Inside, SealBuf.size, MAX_SEALDATA_LEN] at body
    omega
  rw [show (2 ^ 32 - 32 + input.length) % 2 ^ 32 = input.length - 32 by omega]
  have checked : ∀ a ∈ ([⟨.indata, 0, input.length - 32⟩,
      ⟨.indata, (input.length : Int) - 32, 32⟩] : List BufAccess), a.Inside := by
    simp only [List.forall_mem_cons, BufAccess.Inside, SealBuf.size, MAX_SEALDATA_LEN]
    refine ⟨by omega, by omega, List.forall_mem_nil _⟩
  by_cases mac : c.hmacSha (input.take (input.length - 32)) = input.drop (input.length - 32)
  swap
  · rw [if_pos mac]
    exact iff_of_true ⟨checked, nofun⟩ (.inr ⟨hash, .inl mac⟩)
  rw [if_neg (not_not.mpr mac), unsealed_toNat]
  generalize bytesAt (c.decrypt input) 0 2 = select
  generalize numPcrs select (fun i => c.decrypt input (2 + i)) = pcrs
  have decrypted := decrypted_inside_iff hash accepted whole checked select pcrs
  by_cases stop : select ≠ 0 ∧ c.pcrsMatch (c.decrypt input) = false
  · rw [if_pos stop, Accesses.Safe, decrypted]
    simp only [stop, ne_eq, not_false_eq_true, and_self, true_or, and_true]
    simp [whole, hash, mac]
  · rw [if_neg stop, Accesses.Safe, List.forall_mem_append, decrypted]
    have out : ∀ header outlen : Nat, (∀ a ∈ ([⟨.outdata, header, 4⟩, ⟨.outdata, header + 4, outlen⟩,
        ⟨.outdata, 0, outlen⟩] : List BufAccess), a.Inside) ↔
          header + 4 + outlen ≤ MAX_SEALDATA_LEN := by
      intro header outlen
      simp [BufAccess.Inside, SealBuf.size]
      omega
    rw [out]
    simp only [Option.mem_some_iff, forall_eq']
    simp [whole, hash, mac, stop]
    omega

/-! ## The hypercalls -/

theorem hcUtpmSeal_safe (ready : Bool) (sizeOfSelect : U16) (pcrSelect : Nat → U8)
    (inputLen : U32) : (hcUtpmSeal ready sizeOfSelect pcrSelect inputLen).Safe ↔
      1984 < inputLen.toNat ∨ ¬ (ready = true ∧ sizeOfSelect = 4) ∨
        inputLen.toNat ≤ 1926 ∧ (inputLen.toNat % 16 < 7 ∨ 11 < inputLen.toNat % 16) := by
  unfold hcUtpmSeal
  split
  · next accepted =>
    have accepted : inputLen.toNat ≤ 1984 := accepted
    have copied : ∀ a ∈ ([⟨.indata, 0, inputLen.toNat⟩, ⟨.pcrInfo, 0, sizeofTpmPcrInfo⟩] :
        List BufAccess), a.Inside := by
      simp [BufAccess.Inside, SealBuf.size, MAX_SEALDATA_LEN]
      omega
    dsimp only
    rw [safe_append, and_iff_right copied, copyOut_safe, utpmSeal_safe_iff _ _ _ accepted,
      or_iff_right (Nat.not_lt.mpr accepted)]
  · next refused =>
    exact iff_of_true ⟨List.forall_mem_nil _, nofun⟩ (.inl (Nat.lt_of_not_le refused))

theorem hcUtpmUnseal_safe (c : UtpmCrypto) (input : List U8) :
    (hcUtpmUnseal c input).Safe ↔ 2048 < input.length ∨ UnsealFits c input := by
  unfold hcUtpmUnseal
  split
  · next accepted =>
    have accepted : input.length ≤ 2048 := accepted
    have copied : ∀ a ∈ ([⟨.indata, 0, input.length⟩] : List BufAccess), a.Inside := by
      simp [BufAccess.Inside, SealBuf.size, MAX_SEALDATA_LEN]
      omega
    dsimp only
    rw [← List.singleton_append, safe_append, and_iff_right copied, copyOut_safe,
      utpmUnseal_safe_iff _ accepted, or_iff_right (Nat.not_lt.mpr accepted)]
  · next refused =>
    exact iff_of_true ⟨List.forall_mem_nil _, by rintro _ ⟨⟩⟩ (.inl (Nat.lt_of_not_le refused))

/-- Sealing for a selection of PCRs stays inside the buffers exactly if the data are refused, or are
at most 1926 bytes that end less than 7 or more than 11 bytes into a block; unsealing does exactly if
the input is refused or `UnsealFits`. -/
theorem utpm_seal_unseal_safe_iff (ready : Bool) (sizeOfSelect : U16) (pcrSelect : Nat → U8)
    (inputLen : U32) (c : UtpmCrypto) (input : List U8) :
    ((hcUtpmSeal ready sizeOfSelect pcrSelect inputLen).Safe ↔
      1984 < inputLen.toNat ∨ ¬ (ready = true ∧ sizeOfSelect = 4) ∨
        inputLen.toNat ≤ 1926 ∧ (inputLen.toNat % 16 < 7 ∨ 11 < inputLen.toNat % 16)) ∧
    ((hcUtpmUnseal c input).Safe ↔ 2048 < input.length ∨ UnsealFits c input) :=
  ⟨hcUtpmSeal_safe .., hcUtpmUnseal_safe ..⟩

/-- Seven bytes of data are, with header and padding, longer than the buffer for the plaintext. -/
theorem utpm_seal_seven_bytes : ¬ (hcUtpmSeal true 4 (fun _ => 0) 7).Safe := by
  rw [hcUtpmSeal_safe]
  decide

end Xmhf
