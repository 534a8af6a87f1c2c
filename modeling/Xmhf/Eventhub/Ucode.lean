import Xmhf.Memprot.GuestVirtual

/-!
# Microcode updates

`handle_intel_ucode_update` (`peh-x86vmx-ucode.c`) copies the update that the guest points to
into the CPU's part of `ucode_copy_area`, checks the copy and gives it to the processor. The
guest's other CPUs may write the update, and the page tables through which it is read, at any
time: memory is a function of time here, and every byte is read at its own time.

A copy that fails halts the CPU, but the bytes before have been written. So the state records
what was written and read, also by a request that halts.
-/

namespace Xmhf

def UCODE_TOTAL_SIZE_MAX : Nat := 4096

/-- `sizeof(intel_ucode_update_t)` -/
def UCODE_HEADER_SIZE : Nat := 48

/-- `sizeof(intel_ucode_ext_sign_table_t)` -/
def UCODE_EXT_SIGN_TABLE_SIZE : Nat := 20

/-- `sizeof(intel_ucode_ext_sign_t)` -/
def UCODE_EXT_SIGN_SIZE : Nat := 12

structure UcodeEnv where
  /-- `vcpu->idx` -/
  idx : Nat
  vmcs : Vmcs
  cr4 : U64
  /-- The tables of EPT01, which the read lock keeps as they are. -/
  mem01 : Mem
  ram : Nat → Pa → U8
  /-- `sha1_buffer`, none if it fails. -/
  sha1Buffer : List U8 → Option (List U8)
  /-- `ucode_recognized_sha1s` -/
  recognizedSha1s : List (List U8)
  /-- EAX of `cpuid(1)` -/
  signature : U32
  /-- `IA32_PLATFORM_ID` -/
  platformId : U64

/-- A read of `len` bytes at the host address `src`, to which the guest's linear address `va`
was translated at the given time. -/
structure UcodeRead where
  time : Nat
  va : Va
  src : Pa
  len : Nat

structure UcodeState where
  /-- The memory from the start of `ucode_copy_area` on. -/
  area : Nat → U8
  clock : Nat
  reads : List UcodeRead
  /-- Offset and length of each write. -/
  writes : List (Nat × Nat)
  /-- The offset of the update data written to `IA32_BIOS_UPDT_TRIG`. -/
  update : Option Nat

namespace UcodeState

def memcpy (env : UcodeEnv) (s : UcodeState) (dst : Nat) (va : Va) (src : Pa) (len : Nat) :
    UcodeState :=
  { s with
    area := fun i =>
      if dst ≤ i ∧ i < dst + len then
        env.ram (s.clock + 1 + (i - dst)) (src + BitVec.ofNat 64 (i - dst))
      else s.area i
    clock := s.clock + 1 + len
    reads := ⟨s.clock, va, src, len⟩ :: s.reads
    writes := (dst, len) :: s.writes }

/-- The `u32` at an offset of the update that lies at `base`. -/
def word (s : UcodeState) (base offset : Nat) : U32 :=
  (leWord ((List.range 4).map fun i => s.area (base + offset + i))).setWidth 32

def dataSize (s : UcodeState) (base : Nat) : U32 := s.word base 28

def totalSize (s : UcodeState) (base : Nat) : U32 := s.word base 32

def image (s : UcodeState) (base : Nat) : List U8 :=
  (List.range (s.totalSize base).toNat).map fun i => s.area (base + i)

end UcodeState

variable (env : UcodeEnv)

/-- The loop of `hptw_checked_copy_from_va` in the guest context. It returns the number of bytes
copied, which is less than `len` when the copy fails. -/
def ucodeCopy (t : HptType) (dst : Nat) (srcVaBase : Va) (len : Nat) :
    Nat → Nat → UcodeState → Nat × UcodeState
  | 0, copied, s => (copied, s)
  | fuel + 1, copied, s =>
    if copied < len then
      let va := srcVaBase + BitVec.ofNat 64 copied
      let (src, toCopy) := hptwCheckedAccessVa (guestmemGuestCtx t env.vmcs env.mem01)
        (pageMaps t (env.ram s.clock)) hptProtsR 0 va (len - copied)
      if src = nullPtr then (copied, s)
      else
        ucodeCopy t dst srcVaBase len fuel (copied + toCopy)
          (s.memcpy env (dst + copied) va src toCopy)
    else (copied, s)

/-- `guestmem_copy_gv2h` -/
def ucodeCopyGv2h (t : HptType) (dst : Nat) (src : U64) (len : Nat) (s : UcodeState) :
    Nat × UcodeState :=
  ucodeCopy env t dst src len len 0 s

/-- A failure of `sha1_buffer` halts, like the rejection that false stands for. -/
def ucodeCheckSha1 (image : List U8) : Bool :=
  match env.sha1Buffer image with
  | some md => decide (md ∈ env.recognizedSha1s)
  | none => false

def ucodeCheckProcessorFlags (processorFlags : U32) : Bool :=
  processorFlags &&& (1#32 <<< ((env.platformId >>> 50) &&& 7).toNat) ≠ 0

/-- A failing assertion halts, like the rejection that false stands for. Sizes are `u32`, but
the size of the table of extended signatures is computed as a `size_t`. -/
def ucodeCheckProcessor (s : UcodeState) (base : Nat) : Bool :=
  if s.word base 0 ≠ 1 then false
  else if s.word base 12 = env.signature then ucodeCheckProcessorFlags env (s.word base 24)
  else if s.dataSize base + 48 < s.totalSize base then
    let extSize := (s.totalSize base - (s.dataSize base + 48)).toNat
    let table := (s.dataSize base + 48).toNat
    if extSize < UCODE_EXT_SIGN_TABLE_SIZE then false
    else
      let n := (s.word base table).toNat
      if extSize < UCODE_EXT_SIGN_TABLE_SIZE + n * UCODE_EXT_SIGN_SIZE then false
      else
        let signature := fun i => table + UCODE_EXT_SIGN_TABLE_SIZE + i * UCODE_EXT_SIGN_SIZE
        match (List.range n).find? fun i => s.word base (signature i) = env.signature with
        | some i => ucodeCheckProcessorFlags env (s.word base (signature i + 4))
        | none => false
  else false

/-- `copy_area` of the CPU. -/
def ucodeCopyArea : Nat := UCODE_TOTAL_SIZE_MAX * env.idx

/-- The copy of the header, 48 bytes before the update data. -/
def ucodeCopyHeader (t : HptType) (updateData : U64) (s : UcodeState) : Nat × UcodeState :=
  ucodeCopyGv2h env t (ucodeCopyArea env) (updateData - BitVec.ofNat 64 UCODE_HEADER_SIZE)
    UCODE_HEADER_SIZE s

/-- The `size_t` of the rest of the update. -/
def ucodeRestSize (s : UcodeState) : Nat :=
  ((s.totalSize (ucodeCopyArea env)).setWidth 64 - BitVec.ofNat 64 UCODE_HEADER_SIZE : U64).toNat

def ucodeCopyRest (t : HptType) (updateData : U64) (s : UcodeState) : Nat × UcodeState :=
  ucodeCopyGv2h env t (ucodeCopyArea env + UCODE_HEADER_SIZE) updateData (ucodeRestSize env s) s

def ucodeApply (s : UcodeState) : UcodeState :=
  if ucodeCheckSha1 env (s.image (ucodeCopyArea env)) then
    if ucodeCheckProcessor env s (ucodeCopyArea env) then
      { s with update := some (ucodeCopyArea env + UCODE_HEADER_SIZE) }
    else s
  else s

/-- `handle_intel_ucode_update`, to its end or to the point where it halts. -/
def handleIntelUcodeUpdate (updateData : U64) (s : UcodeState) : UcodeState :=
  match guestHptType env.cr4 env.vmcs.glm with
  | none => s
  | some t =>
    if env.idx < UCODE_TOTAL_SIZE_MAX then
      let (copied, s) := ucodeCopyHeader env t updateData s
      if copied < UCODE_HEADER_SIZE then s
      else if (s.totalSize (ucodeCopyArea env)).toNat ≤ UCODE_TOTAL_SIZE_MAX then
        let size := ucodeRestSize env s
        let (copied, s) := ucodeCopyRest env t updateData s
        if copied < size then s else ucodeApply env s
      else s
    else s

/-! ## What a request may do -/

/-- The guest may read the bytes: its page tables at the time and EPT01 translate the address
and grant reading, each on one page that holds all the bytes. -/
def GuestMayRead (r : UcodeRead) : Prop :=
  ∃ t leaf leaf01, guestHptType env.cr4 env.vmcs.glm = some t ∧
    hptwCheckedGetPmeo (guestmemGuestCtx t env.vmcs env.mem01) (pageMaps t (env.ram r.time))
      hptProtsR 0 r.va = some leaf ∧
    r.len ≤ leaf.remainingOnPage (leaf.vaToPa r.va) ∧
    hptwCheckedGetPmeo (guestmemHostCtx (env.vmcs .controlEPTPointer)) env.mem01 hptProtsR 0
      (leaf.vaToPa r.va) = some leaf01 ∧
    r.src = leaf01.vaToPa (leaf.vaToPa r.va) ∧ r.len ≤ leaf01.remainingOnPage r.src

/-- The update names the processor: in its header, or in an extended signature among its
bytes. -/
def UcodeMatches (s : UcodeState) (base : Nat) : Prop :=
  (s.word base 12 = env.signature ∧ ucodeCheckProcessorFlags env (s.word base 24) = true) ∨
    ∃ offset, offset + UCODE_EXT_SIGN_SIZE ≤ (s.totalSize base).toNat ∧
      s.word base offset = env.signature ∧
      ucodeCheckProcessorFlags env (s.word base (offset + 4)) = true

structure UcodeSafe (s : UcodeState) : Prop where
  writes : ∀ w ∈ s.writes, ucodeCopyArea env ≤ w.1 ∧
    w.1 + w.2 ≤ ucodeCopyArea env + UCODE_TOTAL_SIZE_MAX
  reads : ∀ r ∈ s.reads, GuestMayRead env r
  /-- The processor is given the update data of a complete update in the CPU's copy area. -/
  place : ∀ offset, s.update = some offset → offset = ucodeCopyArea env + UCODE_HEADER_SIZE ∧
    UCODE_HEADER_SIZE ≤ (s.totalSize (ucodeCopyArea env)).toNat ∧
    (s.totalSize (ucodeCopyArea env)).toNat ≤ UCODE_TOTAL_SIZE_MAX
  approved : s.update ≠ none → ∃ md, env.sha1Buffer (s.image (ucodeCopyArea env)) = some md ∧
    md ∈ env.recognizedSha1s
  processor : s.update ≠ none → UcodeMatches env s (ucodeCopyArea env)

/-! ## The copy loop -/

variable {env} {t : HptType} {s : UcodeState} {dst len : Nat} {va : Va}

theorem hptwCheckedAccessVa_guest {ram : Pa → U8} {sz : Nat} {src : Ptr} {n : Nat}
    (access : hptwCheckedAccessVa (guestmemGuestCtx t env.vmcs env.mem01) (pageMaps t ram)
      hptProtsR 0 va sz = (src, n)) (found : src ≠ nullPtr) :
    n ≤ sz ∧ ∃ leaf leaf01,
      hptwCheckedGetPmeo (guestmemGuestCtx t env.vmcs env.mem01) (pageMaps t ram) hptProtsR 0 va =
        some leaf ∧
      n ≤ leaf.remainingOnPage (leaf.vaToPa va) ∧
      hptwCheckedGetPmeo (guestmemHostCtx (env.vmcs .controlEPTPointer)) env.mem01 hptProtsR 0
        (leaf.vaToPa va) = some leaf01 ∧
      src = leaf01.vaToPa (leaf.vaToPa va) ∧ n ≤ leaf01.remainingOnPage src := by
  unfold hptwCheckedAccessVa at access
  split at access
  · next leaf walk =>
    dsimp only [guestmemGuestCtx] at access
    cases host : hptwCheckedGetPmeo (guestmemHostCtx (env.vmcs .controlEPTPointer)) env.mem01
        hptProtsR 0 (leaf.vaToPa va) with
    | none =>
      rw [hptwCheckedAccessVa_none host] at access
      cases access
      exact absurd rfl found
    | some leaf01 =>
      rw [hptwCheckedAccessVa_some rfl host] at access
      cases access
      refine ⟨?_, leaf, leaf01, walk, ?_, host, rfl, min_le_right _ _⟩
      · exact (min_le_left _ _).trans (min_le_left _ _)
      · exact (min_le_left _ _).trans (min_le_right _ _)
  · cases access
    exact absurd rfl found

/-- What a copy into `dst` does from the byte `start` on. -/
structure UcodeCopied (env : UcodeEnv) (dst start len : Nat) (s : UcodeState)
    (result : Nat × UcodeState) : Prop where
  grows : start ≤ result.1
  bounded : start ≤ len → result.1 ≤ len
  writes : ∀ w ∈ result.2.writes, w ∈ s.writes ∨ dst + start ≤ w.1 ∧ w.1 + w.2 ≤ dst + result.1
  kept : ∀ w ∈ s.writes, w ∈ result.2.writes
  last : start < result.1 → ∃ w ∈ result.2.writes, w.1 + w.2 = dst + result.1
  reads : ∀ r ∈ result.2.reads, r ∈ s.reads ∨ GuestMayRead env r
  below : ∀ i < dst + start, result.2.area i = s.area i
  update : result.2.update = s.update

theorem UcodeCopied.refl (copied : Nat) : UcodeCopied env dst copied len s (copied, s) where
  grows := le_rfl
  bounded := id
  writes _ member := .inl member
  kept _ member := member
  last less := absurd less (lt_irrefl _)
  reads _ member := .inl member
  below _ _ := rfl
  update := rfl

theorem UcodeCopied.memcpy {copied toCopy : Nat} {src : Pa} {result : Nat × UcodeState}
    (fits : toCopy ≤ len - copied) (readable : GuestMayRead env ⟨s.clock, va, src, toCopy⟩)
    (rest : UcodeCopied env dst (copied + toCopy) len
      (s.memcpy env (dst + copied) va src toCopy) result) :
    UcodeCopied env dst copied len s result where
  grows := by
    have := rest.grows
    omega
  bounded inside := rest.bounded (by omega)
  writes w member := by
    have grows := rest.grows
    rcases rest.writes w member with old | new
    · rcases List.mem_cons.mp old with rfl | older
      · right
        omega
      · exact .inl older
    · right
      omega
  kept w member := rest.kept w (List.mem_cons_of_mem _ member)
  last less := by
    rcases Nat.lt_or_ge (copied + toCopy) result.1 with more | done
    · exact rest.last more
    · -- nothing is copied after this chunk
      have same : result.1 = copied + toCopy := le_antisymm done rest.grows
      exact ⟨_, rest.kept _ List.mem_cons_self, by rw [same, Nat.add_assoc]⟩
  reads r member := by
    rcases rest.reads r member with old | new
    · rcases List.mem_cons.mp old with rfl | older
      · exact .inr readable
      · exact .inl older
    · exact .inr new
  below i inside := by
    rw [rest.below i (by omega)]
    exact if_neg (by omega)
  update := rest.update

theorem ucodeCopy_copied (paging : guestHptType env.cr4 env.vmcs.glm = some t) (src : Va)
    (fuel copied : Nat) (s : UcodeState) :
    UcodeCopied env dst copied len s (ucodeCopy env t dst src len fuel copied s) := by
  induction fuel generalizing copied s with
  | zero => exact .refl copied
  | succ fuel ih =>
    unfold ucodeCopy
    split
    · dsimp only
      generalize access : hptwCheckedAccessVa (guestmemGuestCtx t env.vmcs env.mem01)
        (pageMaps t (env.ram s.clock)) hptProtsR 0 (src + BitVec.ofNat 64 copied) (len - copied) =
        chunk
      obtain ⟨ptr, toCopy⟩ := chunk
      split
      · exact .refl copied
      · next found =>
        obtain ⟨fits, leaf, leaf01, readable⟩ := hptwCheckedAccessVa_guest access found
        exact .memcpy fits ⟨t, leaf, leaf01, paging, readable⟩ (ih _ _)
    · exact .refl copied

theorem ucodeCopyGv2h_copied (paging : guestHptType env.cr4 env.vmcs.glm = some t) (dst : Nat)
    (src : U64) (len : Nat) (s : UcodeState) :
    UcodeCopied env dst 0 len s (ucodeCopyGv2h env t dst src len s) :=
  ucodeCopy_copied paging src len 0 s

/-! ## The checks -/

theorem ucodeRestSize_of_le (fits : UCODE_HEADER_SIZE ≤ (s.totalSize (ucodeCopyArea env)).toNat) :
    ucodeRestSize env s = (s.totalSize (ucodeCopyArea env)).toNat - UCODE_HEADER_SIZE := by
  have header : (BitVec.ofNat 64 UCODE_HEADER_SIZE).toNat = UCODE_HEADER_SIZE := rfl
  have wide : ((s.totalSize (ucodeCopyArea env)).setWidth 64).toNat =
      (s.totalSize (ucodeCopyArea env)).toNat := by
    rw [BitVec.toNat_setWidth]
    have := (s.totalSize (ucodeCopyArea env)).isLt
    omega
  unfold ucodeRestSize
  rw [BitVec.toNat_sub_of_le, wide, header]
  rw [BitVec.le_def, wide, header]
  exact fits

theorem ucodeRestSize_of_lt (short : (s.totalSize (ucodeCopyArea env)).toNat < UCODE_HEADER_SIZE) :
    UCODE_TOTAL_SIZE_MAX < ucodeRestSize env s := by
  have header : UCODE_HEADER_SIZE = 48 := rfl
  have max : UCODE_TOTAL_SIZE_MAX = 4096 := rfl
  unfold ucodeRestSize
  rw [BitVec.toNat_sub, BitVec.toNat_setWidth, BitVec.toNat_ofNat]
  omega

theorem ucodeCheckSha1_true {image : List U8} (checked : ucodeCheckSha1 env image = true) :
    ∃ md, env.sha1Buffer image = some md ∧ md ∈ env.recognizedSha1s := by
  unfold ucodeCheckSha1 at checked
  split at checked
  · next md hash => exact ⟨md, hash, of_decide_eq_true checked⟩
  · cases checked

theorem ucodeCheckProcessor_true {base : Nat}
    (checked : ucodeCheckProcessor env s base = true) : UcodeMatches env s base := by
  unfold ucodeCheckProcessor at checked
  split at checked
  · cases checked
  split at checked
  · next signature => exact .inl ⟨signature, checked⟩
  split at checked
  · next table =>
    dsimp only at checked
    split at checked
    · cases checked
    split at checked
    · cases checked
    next fits =>
      split at checked
      · next i found =>
        have signature := List.find?_some found
        have member := List.mem_range.mp (List.mem_of_find?_eq_some found)
        refine .inr ⟨_, ?_, of_decide_eq_true signature, checked⟩
        have size := BitVec.toNat_sub_of_le (BitVec.le_of_lt table)
        rw [size] at fits
        have last : (i + 1) * UCODE_EXT_SIGN_SIZE ≤
            (s.word base (s.dataSize base + 48).toNat).toNat * UCODE_EXT_SIGN_SIZE :=
          Nat.mul_le_mul_right _ member
        rw [Nat.add_mul, Nat.one_mul] at last
        have := BitVec.lt_def.mp table
        omega
      · cases checked
  · cases checked

theorem ucodeApply_cases (env : UcodeEnv) (s : UcodeState) : ucodeApply env s = s ∨
      ucodeApply env s = { s with update := some (ucodeCopyArea env + UCODE_HEADER_SIZE) } ∧
        (∃ md, env.sha1Buffer (s.image (ucodeCopyArea env)) = some md ∧ md ∈ env.recognizedSha1s) ∧
        UcodeMatches env s (ucodeCopyArea env) := by
  unfold ucodeApply
  split
  · next hash =>
    split
    · next processor =>
      exact .inr ⟨rfl, ucodeCheckSha1_true hash, ucodeCheckProcessor_true processor⟩
    · exact .inl rfl
  · exact .inl rfl

/-! ## Requests -/

structure UcodeIdle (s : UcodeState) : Prop where
  reads : s.reads = []
  writes : s.writes = []
  update : s.update = none

/-- Of an update whose header gives a total size below that of the header, the guest can read
no more than the copy area holds. -/
def UcodeFits (env : UcodeEnv) (updateData : U64) (s : UcodeState) : Prop :=
  ∀ t, guestHptType env.cr4 env.vmcs.glm = some t → env.idx < UCODE_TOTAL_SIZE_MAX →
    UCODE_HEADER_SIZE ≤ (ucodeCopyHeader env t updateData s).1 →
    ((ucodeCopyHeader env t updateData s).2.totalSize (ucodeCopyArea env)).toNat <
      UCODE_HEADER_SIZE →
    UCODE_HEADER_SIZE + (ucodeCopyRest env t updateData (ucodeCopyHeader env t updateData s).2).1 ≤
      UCODE_TOTAL_SIZE_MAX

/-- The copy of the rest, after that of the header. -/
abbrev ucodeCopyAll (env : UcodeEnv) (t : HptType) (updateData : U64) (s : UcodeState) :
    Nat × UcodeState :=
  ucodeCopyRest env t updateData (ucodeCopyHeader env t updateData s).2

theorem UcodeSafe.of_halted (none_ : s.update = none)
    (writes : ∀ w ∈ s.writes, ucodeCopyArea env ≤ w.1 ∧
      w.1 + w.2 ≤ ucodeCopyArea env + UCODE_TOTAL_SIZE_MAX)
    (reads : ∀ r ∈ s.reads, GuestMayRead env r) : UcodeSafe env s where
  writes := writes
  reads := reads
  place _ given := absurd (none_.symm.trans given) nofun
  approved given := absurd none_ given
  processor given := absurd none_ given

theorem UcodeSafe.of_idle (idle : UcodeIdle s) : UcodeSafe env s := by
  refine .of_halted idle.update ?_ ?_
  · rw [idle.writes]
    exact List.forall_mem_nil _
  · rw [idle.reads]
    exact List.forall_mem_nil _

theorem ucodeCopyRest_totalSize (paging : guestHptType env.cr4 env.vmcs.glm = some t)
    (updateData : U64) (s : UcodeState) :
    (ucodeCopyRest env t updateData s).2.totalSize (ucodeCopyArea env) =
      s.totalSize (ucodeCopyArea env) := by
  have copied := ucodeCopyGv2h_copied paging (ucodeCopyArea env + UCODE_HEADER_SIZE) updateData
    (ucodeRestSize env s) s
  have header : UCODE_HEADER_SIZE = 48 := rfl
  unfold UcodeState.totalSize UcodeState.word
  congr 2
  refine List.map_congr_left fun i member => copied.below _ ?_
  have := List.mem_range.mp member
  omega

section

variable {updateData : U64} (paging : guestHptType env.cr4 env.vmcs.glm = some t)
  (idle : UcodeIdle s)

include paging idle

theorem ucodeCopyHeader_safe :
    (∀ w ∈ (ucodeCopyHeader env t updateData s).2.writes, ucodeCopyArea env ≤ w.1 ∧
      w.1 + w.2 ≤ ucodeCopyArea env + UCODE_HEADER_SIZE) ∧
    (∀ r ∈ (ucodeCopyHeader env t updateData s).2.reads, GuestMayRead env r) ∧
    (ucodeCopyHeader env t updateData s).2.update = none := by
  have copied := ucodeCopyGv2h_copied paging (ucodeCopyArea env)
    (updateData - BitVec.ofNat 64 UCODE_HEADER_SIZE) UCODE_HEADER_SIZE s
  have bounded := copied.bounded (Nat.zero_le _)
  refine ⟨fun w member => ?_, fun r member => ?_, copied.update.trans idle.update⟩
  · rcases copied.writes w member with old | new
    · rw [idle.writes] at old
      cases old
    · omega
  · rcases copied.reads r member with old | new
    · rw [idle.reads] at old
      cases old
    · exact new

theorem ucodeCopyRest_safe (inside : UCODE_HEADER_SIZE +
      (ucodeCopyAll env t updateData s).1 ≤
        UCODE_TOTAL_SIZE_MAX) :
    (∀ w ∈ (ucodeCopyAll env t updateData s).2.writes,
      ucodeCopyArea env ≤ w.1 ∧ w.1 + w.2 ≤ ucodeCopyArea env + UCODE_TOTAL_SIZE_MAX) ∧
    (∀ r ∈ (ucodeCopyAll env t updateData s).2.reads,
      GuestMayRead env r) ∧
    (ucodeCopyAll env t updateData s).2.update = none := by
  obtain ⟨writes, reads, update⟩ := @ucodeCopyHeader_safe env t s updateData paging idle
  have copy : UcodeCopied env (ucodeCopyArea env + UCODE_HEADER_SIZE) 0 _ _
      (ucodeCopyAll env t updateData s) :=
    ucodeCopyGv2h_copied paging _ _ _ _
  refine ⟨fun w member => ?_, fun r member => ?_, copy.update.trans update⟩
  · rcases copy.writes w member with old | new
    · have := writes w old
      omega
    · omega
  · exact (copy.reads r member).elim (reads r) id

end

section

variable {updateData : U64} (paging : guestHptType env.cr4 env.vmcs.glm = some t)
  (index : env.idx < UCODE_TOTAL_SIZE_MAX)
  (done : UCODE_HEADER_SIZE ≤ (ucodeCopyHeader env t updateData s).1)
  (fits : ((ucodeCopyHeader env t updateData s).2.totalSize (ucodeCopyArea env)).toNat ≤
    UCODE_TOTAL_SIZE_MAX)

include paging index done fits

theorem handleIntelUcodeUpdate_eq :
    handleIntelUcodeUpdate env updateData s =
      if (ucodeCopyAll env t updateData s).1 <
          ucodeRestSize env (ucodeCopyHeader env t updateData s).2 then
        (ucodeCopyAll env t updateData s).2
      else
        ucodeApply env (ucodeCopyAll env t updateData s).2 := by
  unfold handleIntelUcodeUpdate
  rw [paging]
  dsimp only
  rw [if_pos index, if_neg (not_lt.mpr done), if_pos fits]

theorem handleIntelUcodeUpdate_writes :
    (handleIntelUcodeUpdate env updateData s).writes =
      (ucodeCopyAll env t updateData s).2.writes := by
  rw [handleIntelUcodeUpdate_eq paging index done fits]
  split
  · rfl
  · rcases ucodeApply_cases env
      (ucodeCopyAll env t updateData s).2 with
      same | ⟨same, -⟩
    · rw [same]
    · rw [same]

end

theorem UcodeSafe.fits {updateData : U64}
    (safe : UcodeSafe env (handleIntelUcodeUpdate env updateData s)) :
    UcodeFits env updateData s := by
  intro t paging index done short
  have max : UCODE_TOTAL_SIZE_MAX = 4096 := rfl
  have header : UCODE_HEADER_SIZE = 48 := rfl
  have copy := ucodeCopyGv2h_copied paging (ucodeCopyArea env + UCODE_HEADER_SIZE) updateData
    (ucodeRestSize env (ucodeCopyHeader env t updateData s).2)
    (ucodeCopyHeader env t updateData s).2
  by_contra beyond
  obtain ⟨w, member, stop⟩ := copy.last (by unfold ucodeCopyRest at beyond; omega)
  have written : w ∈ (handleIntelUcodeUpdate env updateData s).writes := by
    rw [handleIntelUcodeUpdate_writes paging index done (by omega)]
    exact member
  have inside := (safe.writes w written).2
  unfold ucodeCopyRest at beyond
  omega

theorem ucodeApply_safe (none_ : s.update = none)
    (writes : ∀ w ∈ s.writes, ucodeCopyArea env ≤ w.1 ∧
      w.1 + w.2 ≤ ucodeCopyArea env + UCODE_TOTAL_SIZE_MAX)
    (reads : ∀ r ∈ s.reads, GuestMayRead env r)
    (complete : UCODE_HEADER_SIZE ≤ (s.totalSize (ucodeCopyArea env)).toNat)
    (fits : (s.totalSize (ucodeCopyArea env)).toNat ≤ UCODE_TOTAL_SIZE_MAX) :
    UcodeSafe env (ucodeApply env s) := by
  rcases ucodeApply_cases env s with same | ⟨same, approved, processor⟩
  · rw [same]
    exact .of_halted none_ writes reads
  · rw [same]
    refine ⟨writes, reads, fun offset given => ?_, fun _ => approved, fun _ => processor⟩
    cases given
    exact ⟨rfl, complete, fits⟩

/-- A request writes only to the CPU's copy area, reads only what the guest may read and gives
the processor only an approved update, exactly when an update smaller than its header cannot be
read past the copy area. -/
theorem ucode_update_safe_iff {updateData : U64} (idle : UcodeIdle s) :
    UcodeSafe env (handleIntelUcodeUpdate env updateData s) ↔ UcodeFits env updateData s := by
  refine ⟨UcodeSafe.fits, fun fits => ?_⟩
  have max : UCODE_TOTAL_SIZE_MAX = 4096 := rfl
  have header : UCODE_HEADER_SIZE = 48 := rfl
  cases paging : guestHptType env.cr4 env.vmcs.glm with
  | none =>
    rw [handleIntelUcodeUpdate, paging]
    exact .of_idle idle
  | some t =>
    obtain ⟨writes, reads, update⟩ := @ucodeCopyHeader_safe env t s updateData paging idle
    have halted : UcodeSafe env (ucodeCopyHeader env t updateData s).2 := by
      refine .of_halted update (fun w member => ?_) reads
      have := writes w member
      omega
    by_cases index : env.idx < UCODE_TOTAL_SIZE_MAX
    case neg =>
      rw [handleIntelUcodeUpdate, paging]
      dsimp only
      rw [if_neg index]
      exact .of_idle idle
    by_cases done : UCODE_HEADER_SIZE ≤ (ucodeCopyHeader env t updateData s).1
    case neg =>
      rw [handleIntelUcodeUpdate, paging]
      dsimp only
      rw [if_pos index, if_pos (not_le.mp done)]
      exact halted
    by_cases small : ((ucodeCopyHeader env t updateData s).2.totalSize
        (ucodeCopyArea env)).toNat ≤ UCODE_TOTAL_SIZE_MAX
    case neg =>
      rw [handleIntelUcodeUpdate, paging]
      dsimp only
      rw [if_pos index, if_neg (not_lt.mpr done), if_neg small]
      exact halted
    have size := ucodeCopyRest_totalSize paging updateData (ucodeCopyHeader env t updateData s).2
    have bounded : (ucodeCopyAll env t updateData s).1 ≤
        ucodeRestSize env (ucodeCopyHeader env t updateData s).2 :=
      (ucodeCopyGv2h_copied paging _ _ _ _).bounded (Nat.zero_le _)
    rw [handleIntelUcodeUpdate_eq paging index done small]
    by_cases complete : UCODE_HEADER_SIZE ≤ ((ucodeCopyHeader env t updateData s).2.totalSize
        (ucodeCopyArea env)).toNat
    · rw [ucodeRestSize_of_le complete] at bounded
      obtain ⟨writes, reads, update⟩ := @ucodeCopyRest_safe env t s updateData paging idle
        (by omega)
      split
      · exact .of_halted update writes reads
      · rw [← size] at complete small
        exact ucodeApply_safe update writes reads complete small
    · -- the copy of the wrapped size fails
      have inside : _ + (ucodeCopyAll env t updateData s).1 ≤ _ :=
        fits t paging index done (not_le.mp complete)
      have wrapped := ucodeRestSize_of_lt (not_le.mp complete)
      obtain ⟨writes, reads, update⟩ := @ucodeCopyRest_safe env t s updateData paging idle inside
      rw [if_pos (by omega)]
      exact .of_halted update writes reads

def sampleUcodeEnv (totalSize : U8) : UcodeEnv where
  idx := 1
  vmcs
    | .guestCR3 => 0x3000
    | .controlEPTPointer => 0x501e
    | _ => 0
  cr4 := 0
  mem01 pm _ := if pm = 0x5000 then 0x1007 else 0x87
  ram _ pa :=
    if pa = 0x3000 then 0xe7
    -- version, processor flags and total size
    else if pa = 0x2000 then 1
    else if pa = 0x2018 then 1
    else if pa = 0x2020 then totalSize
    else 0
  sha1Buffer _ := some []
  recognizedSha1s := [[]]
  signature := 0
  platformId := 0

def sampleUcodeState : UcodeState where
  area _ := 0
  clock := 0
  reads := []
  writes := []
  update := none

theorem sampleUcodeState_idle : UcodeIdle sampleUcodeState := ⟨rfl, rfl, rfl⟩

theorem ucode_update_safe_sample :
    (handleIntelUcodeUpdate (sampleUcodeEnv 64) 0x2030 sampleUcodeState).update = some 0x1030 ∧
      UcodeSafe (sampleUcodeEnv 64)
        (handleIntelUcodeUpdate (sampleUcodeEnv 64) 0x2030 sampleUcodeState) := by
  refine ⟨by decide +kernel, (ucode_update_safe_iff sampleUcodeState_idle).mpr ?_⟩
  intro t paging _ _ short
  have norm : guestHptType 0 false = some .norm := rfl
  have type : t = .norm := Option.some.inj (paging.symm.trans norm)
  subst type
  have long : ¬ ((ucodeCopyHeader (sampleUcodeEnv 64) .norm 0x2030 sampleUcodeState).2.totalSize
      (ucodeCopyArea (sampleUcodeEnv 64))).toNat < UCODE_HEADER_SIZE := by decide +kernel
  exact absurd short long

/-- With a total size of zero, the rest of the update is everything that the guest has mapped
after its header: 4186064 bytes, of which the copy area holds 4048. -/
theorem ucode_update_overruns : UcodeIdle sampleUcodeState ∧
      (handleIntelUcodeUpdate (sampleUcodeEnv 0) 0x2030 sampleUcodeState).writes =
        [(0x1030, 4186064), (0x1000, 48)] ∧
      ¬ UcodeSafe (sampleUcodeEnv 0)
        (handleIntelUcodeUpdate (sampleUcodeEnv 0) 0x2030 sampleUcodeState) := by
  have writes : (handleIntelUcodeUpdate (sampleUcodeEnv 0) 0x2030 sampleUcodeState).writes =
      [(0x1030, 4186064), (0x1000, 48)] := by decide +kernel
  refine ⟨sampleUcodeState_idle, writes, fun safe => ?_⟩
  have inside := (safe.writes (0x1030, 4186064) (writes ▸ List.mem_cons_self)).2
  exact absurd inside (by decide)

end Xmhf
