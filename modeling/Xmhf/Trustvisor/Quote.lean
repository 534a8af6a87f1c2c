import Xmhf.Trustvisor.Seal

/-!
# Quotes of the micro-TPM

`hc_utpm_quote` (`hc_utpm.c`) and `utpm_quote` (`utpm.c`), by where each byte comes from that the
PAL receives. `utpm_quote` returns 0 even where it has set `rv`, so the buffers are copied out as
they are. The PAL's own buffers can be written.
-/

namespace Xmhf

inductive QuoteByte where
  /-- Of the selection that the PAL has passed, and of `valueSize` -/
  | select (i : Nat)
  | valueSize (i : Nat)
  | pcr (i j : Nat)
  /-- Of the signature over the composite and the nonce -/
  | signature (i : Nat)
  /-- Whatever else lies in the memory of the hypervisor -/
  | hypervisor
deriving DecidableEq

/-- What may fail: the checks before `utpm_quote` and both buffers; `tpm_pcr_composite`; signing. -/
structure QuoteEnv where
  ready : Bool
  composite : Bool
  signs : Bool

def TPM_RSA_KEY_LEN : Nat := 256
def TPM_QUOTE_SIZE : Nat :=
  8 + (4 + 4 * TPM_PCR_NUM) + TPM_PCR_NUM * TPM_HASH_SIZE + 32 + TPM_RSA_KEY_LEN

abbrev QuoteBytes := List QuoteByte

/-- The selected PCRs, of which there are `numPcrs`. -/
def selectedPcrs (select : Nat) (pcrSelect : Nat → U8) : List Nat :=
  (List.range TPM_PCR_NUM).filter fun i =>
    i / 8 < select && (pcrSelect (i / 8)).getLsbD (i % 8)

/-- `tpm_pcr_composite`; `tpmsel` has six bytes. -/
def pcrComposite (select : Nat) (pcrSelect : Nat → U8) : QuoteBytes :=
  (List.range (2 + select)).map (fun i => if i < 6 then .select i else .hypervisor) ++
    (List.range 4).map .valueSize ++
    (selectedPcrs select pcrSelect).flatMap fun i => (List.range TPM_HASH_SIZE).map (.pcr i)

/-- Bytes of a buffer that nothing was written to. -/
def unwritten (n : Nat) : QuoteBytes := List.replicate n .hypervisor

def quoteSignature : QuoteBytes := (List.range TPM_RSA_KEY_LEN).map .signature

/-- `utpm_quote`: the bytes of `output` and `pcrComp`, as many as the lengths say that it leaves. -/
def utpmQuote (env : QuoteEnv) (composite : QuoteBytes) (outlen pcrCompLen : Nat) :
    QuoteBytes × QuoteBytes :=
  if !env.composite then (unwritten outlen, unwritten pcrCompLen)
  else if pcrCompLen < composite.length then (unwritten outlen, unwritten composite.length)
  else
    -- `memcpy` takes the length of the PAL's buffer
    (if outlen < TPM_RSA_KEY_LEN || !env.signs then unwritten TPM_RSA_KEY_LEN else quoteSignature,
      composite.take pcrCompLen ++ unwritten (pcrCompLen - composite.length))

/-- `hc_utpm_quote`: what the PAL receives, unless the call fails. -/
def hcUtpmQuote (env : QuoteEnv) (sizeOfSelect : U16) (pcrSelect : Nat → U8) (siglen : U32)
    (pcrCompLen : U64) : Option (QuoteBytes × QuoteBytes) :=
  if !env.ready || 5 * TPM_QUOTE_SIZE < siglen.toNat then none
  else
    let (sig, comp) := utpmQuote env (pcrComposite sizeOfSelect.toNat pcrSelect) siglen.toNat
      pcrCompLen.toNat
    some (if 2 * TPM_QUOTE_SIZE < sig.length then sig.take TPM_QUOTE_SIZE else sig, comp)

/-- A quote, or a failure: nothing else of the hypervisor's memory. -/
def QuoteRight (composite : QuoteBytes) (result : Option (QuoteBytes × QuoteBytes)) : Prop :=
  ∀ r ∈ result, r = (quoteSignature, composite) ∧ .hypervisor ∉ r.1 ++ r.2

variable {select : Nat} {pcrSelect : Nat → U8}

theorem length_pcrComposite :
    (pcrComposite select pcrSelect).length = 6 + select + 32 * numPcrs select pcrSelect := by
  have pcrs : (selectedPcrs select pcrSelect).length = numPcrs select pcrSelect := rfl
  simp only [pcrComposite, List.length_append, List.length_map, List.length_range,
    List.length_flatMap, List.map_const', List.sum_replicate_nat, pcrs]
  rw [TPM_HASH_SIZE]
  omega

theorem hypervisor_mem_pcrComposite : .hypervisor ∈ pcrComposite select pcrSelect ↔ 4 < select := by
  simp only [pcrComposite, List.mem_append, List.mem_map, List.mem_flatMap, List.mem_range,
    reduceCtorEq, and_false, exists_false, or_false, ite_eq_right_iff]
  constructor
  · rintro ⟨i, inside, beyond⟩
    by_contra small
    exact absurd (beyond (by omega)) (by simp)
  · exact fun large => ⟨6, by omega, by simp⟩

theorem hypervisor_not_mem_quoteSignature : .hypervisor ∉ quoteSignature := by
  simp [quoteSignature]

theorem unwritten_ne_quoteSignature (n : Nat) : unwritten n ≠ quoteSignature := by
  intro eq
  have first : .signature 0 ∈ quoteSignature := by simp [quoteSignature, TPM_RSA_KEY_LEN]
  rw [← eq] at first
  cases List.eq_of_mem_replicate first

theorem utpmQuote_sig (env : QuoteEnv) (bytes : QuoteBytes) (outlen len : Nat) :
    (utpmQuote env bytes outlen len).1 = quoteSignature ∨
      ∃ n, (utpmQuote env bytes outlen len).1 = unwritten n := by
  unfold utpmQuote
  split
  · exact .inr ⟨_, rfl⟩
  · split
    · exact .inr ⟨_, rfl⟩
    · dsimp only
      split
      · exact .inr ⟨_, rfl⟩
      · exact .inl rfl

theorem utpmQuote_iff (env : QuoteEnv) (bytes : QuoteBytes) (outlen len : Nat) :
    (utpmQuote env bytes outlen len).1 = quoteSignature ∧ (utpmQuote env bytes outlen len).2 = bytes ↔
      env.composite = true ∧ env.signs = true ∧ len = bytes.length ∧ TPM_RSA_KEY_LEN ≤ outlen := by
  unfold utpmQuote
  cases env.composite with
  | false => exact iff_of_false (fun quote => unwritten_ne_quoteSignature _ quote.1) (by simp)
  | true =>
    by_cases short : len < bytes.length
    · rw [if_neg (by simp), if_pos short]
      exact iff_of_false (fun quote => unwritten_ne_quoteSignature _ quote.1) (by omega)
    · rw [if_neg (by simp), if_neg short]
      dsimp only
      by_cases fails : (outlen < TPM_RSA_KEY_LEN || !env.signs) = true
      · rw [if_pos fails]
        refine iff_of_false (fun quote => unwritten_ne_quoteSignature _ quote.1) fun holds => ?_
        simp [holds.2.1, Nat.not_lt.mpr holds.2.2.2] at fails
      · rw [if_neg fails, List.take_of_length_le (Nat.le_of_not_lt short)]
        simp only [Bool.or_eq_true, decide_eq_true_eq, Bool.not_eq_true', not_or, Nat.not_lt,
          Bool.not_eq_false] at fails
        simp only [true_and, fails, and_true, List.append_right_eq_self, unwritten,
          List.replicate_eq_nil_iff]
        omega

/-- The check of the length of the signature does not make one. -/
theorem cut_eq_quoteSignature {sig : QuoteBytes}
    (known : sig = quoteSignature ∨ ∃ n, sig = unwritten n) :
    (if 2 * TPM_QUOTE_SIZE < sig.length then sig.take TPM_QUOTE_SIZE else sig) = quoteSignature ↔
      sig = quoteSignature := by
  rcases known with rfl | ⟨n, rfl⟩
  · refine iff_of_true (if_neg ?_) rfl
    rw [quoteSignature, List.length_map, List.length_range]
    decide
  · refine iff_of_false ?_ (unwritten_ne_quoteSignature n)
    split
    · rw [unwritten, List.take_replicate]
      exact unwritten_ne_quoteSignature _
    · exact unwritten_ne_quoteSignature n

/-- A call that is not refused gives a quote exactly if the selection is no longer than `tpmsel`,
the buffer for the composite has its length, the other one has room, and nothing fails. -/
theorem quote_right_iff (env : QuoteEnv) (sizeOfSelect : U16) (pcrSelect : Nat → U8) (siglen : U32)
    (pcrCompLen : U64) :
    QuoteRight (pcrComposite sizeOfSelect.toNat pcrSelect)
        (hcUtpmQuote env sizeOfSelect pcrSelect siglen pcrCompLen) ↔
      env.ready = false ∨ 5 * TPM_QUOTE_SIZE < siglen.toNat ∨
      env.composite = true ∧ env.signs = true ∧ sizeOfSelect.toNat ≤ 4 ∧
        pcrCompLen.toNat = 6 + sizeOfSelect.toNat + 32 * numPcrs sizeOfSelect.toNat pcrSelect ∧
        TPM_RSA_KEY_LEN ≤ siglen.toNat := by
  unfold QuoteRight hcUtpmQuote
  rw [← or_assoc]
  by_cases refused : (!env.ready || 5 * TPM_QUOTE_SIZE < siglen.toNat) = true
  · rw [if_pos refused]
    exact iff_of_true nofun (.inl (by simpa using refused))
  · rw [if_neg refused, or_iff_right (by simpa using refused)]
    have quote := utpmQuote_iff env (pcrComposite sizeOfSelect.toNat pcrSelect) siglen.toNat
      pcrCompLen.toNat
    have cut := cut_eq_quoteSignature (utpmQuote_sig env
      (pcrComposite sizeOfSelect.toNat pcrSelect) siglen.toNat pcrCompLen.toNat)
    rw [← length_pcrComposite]
    have clean : .hypervisor ∉ quoteSignature ++ pcrComposite sizeOfSelect.toNat pcrSelect ↔
        sizeOfSelect.toNat ≤ 4 := by
      rw [List.mem_append, hypervisor_mem_pcrComposite,
        or_iff_right hypervisor_not_mem_quoteSignature, Nat.not_lt]
    generalize utpmQuote env (pcrComposite sizeOfSelect.toNat pcrSelect) siglen.toNat
      pcrCompLen.toNat = r at quote cut ⊢
    obtain ⟨sig, comp⟩ := r
    simp only [Option.mem_def, Option.some.injEq, forall_eq', Prod.mk.injEq, cut]
    constructor
    · rintro ⟨right, none⟩
      obtain ⟨composed, signs, len, room⟩ := quote.mp right
      rw [cut.mpr right.1, right.2, clean] at none
      exact ⟨composed, signs, none, len, room⟩
    · rintro ⟨composed, signs, small, len, room⟩
      obtain ⟨signed, rfl⟩ := quote.mpr ⟨composed, signs, len, room⟩
      rw [cut.mpr signed, clean]
      exact ⟨⟨signed, rfl⟩, small⟩

/-- A buffer with room to spare gets what lies behind the composite. -/
theorem quote_leaks_behind_composite :
    (hcUtpmQuote ⟨true, true, true⟩ 1 (fun _ => 0) 256 8).map (·.2.drop 7) = some [.hypervisor] := by
  decide

end Xmhf
