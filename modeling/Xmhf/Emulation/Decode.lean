import Xmhf.Memprot.GuestAccess

/-!
# Decoding for the instruction emulator

The parsing functions of `x86vmx-emulation.c`: prefixes, the bytes after the opcode, and the
operand that ModRM and SIB select. A failed assertion is `none`; all bytes that the caller
gives have to be used up.

`ArchInst` is the decoding of the processor, for the opcodes that the emulator knows. The
general form of an address is right except under the address-size prefix in 64-bit mode,
where mod 0, rm 5 is relative to the instruction pointer and the emulator takes the
displacement alone.
-/

namespace Xmhf

/-! ## The parser -/

/-- `prefix_t`. The segment is `none` for `CPU_SEG_UNKNOWN`. -/
structure InstPrefix where
  lock : Bool := false
  repe : Bool := false
  repne : Bool := false
  seg : Option Nat := none
  opsize : Bool := false
  addrsize : Bool := false
  rex : U8 := 0

/-- `g64` and `cs_d` of `emu_env_t`. -/
structure CodeMode where
  g64 : Bool
  csD : Bool

def InstPrefix.legacy (p : InstPrefix) (byte : U8) : Option InstPrefix :=
  if byte = 0x26 then some { p with seg := some 0 }
  else if byte = 0x2e then some { p with seg := some 1 }
  else if byte = 0x36 then some { p with seg := some 2 }
  else if byte = 0x3e then some { p with seg := some 3 }
  else if byte = 0x64 then some { p with seg := some 4 }
  else if byte = 0x65 then some { p with seg := some 5 }
  else if byte = 0x66 then some { p with opsize := true }
  else if byte = 0x67 then some { p with addrsize := true }
  else if byte = 0xf0 then some { p with lock := true }
  else if byte = 0xf2 then some { p with repne := true }
  else if byte = 0xf3 then some { p with repe := true }
  else none

/-- The loop of `parse_prefix`. -/
def parseLegacy : InstPrefix → List U8 → Option (InstPrefix × List U8)
  | _, [] => none
  | p, byte :: rest =>
    match p.legacy byte with
    | some p' => parseLegacy p' rest
    | none => some (p, byte :: rest)

def isRex (byte : U8) : Bool := byte &&& 0xf0 == 0x40

def parsePrefix (m : CodeMode) (inst : List U8) : Option (InstPrefix × List U8) :=
  (parseLegacy {} inst).bind fun (p, rest) =>
    match rest with
    | [] => none
    | byte :: rest' =>
      if m.g64 && isRex byte then
        if rest' = [] then none else some ({ p with rex := byte }, rest')
      else some (p, rest)

def getOperandSize (m : CodeMode) (p : InstPrefix) : Nat :=
  if m.g64 then
    if p.rex.getLsbD 3 then 8 else if p.opsize then 2 else 4
  else if p.opsize then (if m.csD then 2 else 4)
  else if m.csD then 4 else 2

def getAddressSize (m : CodeMode) (p : InstPrefix) : Nat :=
  if m.g64 then (if p.addrsize then 4 else 8)
  else if p.addrsize then (if m.csD then 2 else 4)
  else if m.csD then 4 else 2

/-- The fields of ModRM, and those of SIB at the same places. -/
def modrmMod (modrm : U8) : Nat := modrm.toNat / 64

def modrmRegop (modrm : U8) : Nat := modrm.toNat / 8 % 8

def modrmRm (modrm : U8) : Nat := modrm.toNat % 8

/-- A register number with bit `bit` of REX, if there is a REX. -/
def rexExtend (p : InstPrefix) (bit : Nat) (field : Nat) : Nat :=
  if p.rex >>> 4 ≠ 0 ∧ p.rex.getLsbD bit then field + 8 else field

/-- `postfix_t` -/
structure InstPostfix where
  modrm : U8
  sib : U8
  displacement : List U8
  immediate : List U8

def modrmDisp (addressSize : Nat) (modrm : U8) : Nat :=
  match modrmMod modrm with
  | 0 =>
    if addressSize = 2 then (if modrmRm modrm = 6 then 2 else 0)
    else if modrmRm modrm = 5 then 4 else 0
  | 1 => 1
  | 2 => min addressSize 4
  | _ => 0

def modrmSib (addressSize : Nat) (modrm : U8) : Bool :=
  modrmMod modrm != 3 && addressSize != 2 && modrmRm modrm == 4

/-- The end of `parse_postfix`: displacement and immediate. -/
def parseRest (modrm sib : U8) (displacementLen immediateLen : Nat) (pinst : List U8) :
    Option InstPostfix :=
  if pinst.length = displacementLen + immediateLen then
    some ⟨modrm, sib, pinst.take displacementLen, pinst.drop displacementLen⟩
  else none

/-- `parse_postfix` with ModRM. Asserted: the displacement is not set twice, which SIB never does,
as it goes with another rm. -/
def parseModrm (addressSize immediateLen : Nat) : List U8 → Option InstPostfix
  | [] => none
  | modrm :: pinst =>
    if modrmSib addressSize modrm then
      match pinst with
      | [] => none
      | sib :: pinst =>
        let len := if modrmMod modrm = 0 ∧ modrmRm sib = 5 then 4 else modrmDisp addressSize modrm
        parseRest modrm sib len immediateLen pinst
    else parseRest modrm 0 (modrmDisp addressSize modrm) immediateLen pinst

/-- The low `size` bytes of an address: `zero_extend`. -/
def truncAddr (size : Nat) (addr : U64) : U64 := BitVec.ofNat 64 (addr.toNat % 2 ^ (8 * size))

/-- `sign_extend` of a displacement. -/
def signDisp (bytes : List U8) : U64 := ((leWord bytes).setWidth (8 * bytes.length)).signExtend 64

/-- An operand that ModRM selects: a register, or an offset in a segment. -/
inductive ModrmOperand where
  | reg (index : Nat)
  | mem (seg : Nat) (offset : U64)

/-- `compute_segment` for the base register. -/
def computeSegment (p : InstPrefix) (index : Nat) : Nat :=
  p.seg.getD (if index = 5 ∨ index = 4 then 2 else 3)

section

variable (m : CodeMode) (regs : Nat → U64) (p : InstPrefix) (post : InstPostfix)

/-- `eval_sib_addr`, with the segment. -/
def evalSibAddr : Nat × U64 :=
  let size := getAddressSize m p
  let id := rexExtend p 1 (modrmRegop post.sib)
  let bs := rexExtend p 0 (modrmRm post.sib)
  let scaledIndex := if id ≠ 4 then truncAddr size (regs id) <<< modrmMod post.sib else 0
  if modrmMod post.modrm = 0 ∧ bs % 8 = 5 then (computeSegment p 0, scaledIndex)
  else (computeSegment p bs, scaledIndex + truncAddr size (regs bs))

/-- `eval_modrm_addr`. Asserted: the address size is not 16 bits, and addressing relative to RIP is
not used with 64 bits. -/
def evalModrmAddr : Option ModrmOperand :=
  let size := getAddressSize m p
  let rm := rexExtend p 0 (modrmRm post.modrm)
  if size = 2 then none
  else if modrmMod post.modrm = 3 then some (.reg rm)
  else
    let found : Option (Nat × U64) :=
      if rm % 8 = 4 then some (evalSibAddr m regs p post)
      else if rm % 8 = 5 ∧ modrmMod post.modrm = 0 then
        if size = 8 then none else some (computeSegment p 0, 0)
      else some (computeSegment p rm, truncAddr size (regs rm))
    found.map fun (seg, addr) => .mem seg (truncAddr size (addr + signDisp post.displacement))

end

/-! ## The processor's decoding -/

def isLegacyPrefix (byte : U8) : Bool :=
  [0x26, 0x2e, 0x36, 0x3e, 0x64, 0x65, 0x66, 0x67, 0xf0, 0xf2, 0xf3].contains byte

/-- The segment that an override prefix names; the segments are numbered ES, CS, SS, DS, FS, GS. -/
def archOverride (byte : U8) : Option Nat := [0x26, 0x2e, 0x36, 0x3e, 0x64, 0x65].idxOf? byte

/-- The prefixes in front of an opcode: any number of legacy prefixes, and REX in 64-bit mode. The
last segment override counts. -/
structure ArchPrefixes where
  seg : Option Nat
  opsize : Bool
  addrsize : Bool
  rex : U8
  length : Nat

def archPrefixes (m : CodeMode) (inst : List U8) : ArchPrefixes :=
  let legacy := inst.takeWhile isLegacyPrefix
  let rex := (inst.drop legacy.length).head?.filter fun byte => m.g64 && isRex byte
  { seg := legacy.foldl (fun seg byte => (archOverride byte).or seg) none
    opsize := legacy.contains 0x66
    addrsize := legacy.contains 0x67
    rex := rex.getD 0
    length := legacy.length + (if rex.isSome then 1 else 0) }

def ArchPrefixes.operandSize (a : ArchPrefixes) (m : CodeMode) : Nat :=
  if m.g64 && a.rex.getLsbD 3 then 8
  else if (m.g64 || m.csD) ^^ a.opsize then 4 else 2

def ArchPrefixes.addressSize (a : ArchPrefixes) (m : CodeMode) : Nat :=
  if m.g64 && !a.addrsize then 8
  else if m.g64 || (m.csD ^^ a.addrsize) then 4 else 2

def archSib (addressSize : Nat) (modrm : U8) : Bool :=
  addressSize != 2 && modrmMod modrm != 3 && modrmRm modrm == 4

def archDisp (addressSize : Nat) (modrm sib : U8) : Nat :=
  if modrmMod modrm = 3 then 0
  else if modrmMod modrm = 1 then 1
  else if addressSize = 2 then (if modrmMod modrm = 2 ∨ modrmRm modrm = 6 then 2 else 0)
  else if modrmMod modrm = 2 ∨ modrmRm modrm = 5 ∨ modrmRm modrm = 4 ∧ modrmRm sib = 5 then 4
  else 0

def archBase16 (regs : Nat → U64) (modrm : U8) : U64 :=
  match modrmRm modrm with
  | 0 => regs 3 + regs 6
  | 1 => regs 3 + regs 7
  | 2 => regs 5 + regs 6
  | 3 => regs 5 + regs 7
  | 4 => regs 6
  | 5 => regs 7
  | 6 => if modrmMod modrm = 0 then 0 else regs 5
  | _ => regs 3

def archReg (rex : U8) (bit field : Nat) : Nat := field + (if rex.getLsbD bit then 8 else 0)

/-- The effective address but for the displacement; `next` is the following instruction's. -/
def archBase (m : CodeMode) (regs : Nat → U64) (addressSize : Nat) (rex modrm sib : U8) (next : U64) :
    U64 :=
  if addressSize = 2 then archBase16 regs modrm
  else if modrmRm modrm = 4 then
    (if archReg rex 1 (modrmRegop sib) = 4 then 0
      else regs (archReg rex 1 (modrmRegop sib)) <<< modrmMod sib) +
    (if modrmMod modrm = 0 ∧ modrmRm sib = 5 then 0 else regs (archReg rex 0 (modrmRm sib)))
  else if modrmMod modrm = 0 ∧ modrmRm modrm = 5 then (if m.g64 then next else 0)
  else regs (archReg rex 0 (modrmRm modrm))

/-- The segment of a memory operand with an address of more than 16 bits: an override, or the stack
segment if the base register is rSP or rBP, or the data segment. -/
def archSegment (override : Option Nat) (rex modrm sib : U8) : Nat :=
  let base : Option Nat :=
    if modrmRm modrm = 4 then
      if modrmMod modrm = 0 ∧ modrmRm sib = 5 then none else some (archReg rex 0 (modrmRm sib))
    else if modrmMod modrm = 0 ∧ modrmRm modrm = 5 then none
    else some (archReg rex 0 (modrmRm modrm))
  override.getD (if base = some 4 ∨ base = some 5 then 2 else 3)

/-- Opcode bytes, whether ModRM follows, and the bytes of the immediate or the offset. -/
def archForm (operandSize addressSize : Nat) : List U8 → Option (Nat × Bool × Nat)
  | [] => none
  | op :: rest =>
    if op = 0x0f then
      match rest with
      | [] => none
      | op :: _ =>
        if op = 0x11 ∨ op = 0x29 ∨ op = 0x7f then some (2, true, 0)
        else if op = 0xba then some (2, true, 1)
        else none
    else if op = 0x83 then some (1, true, 1)
    else if op = 0x88 ∨ op = 0x89 ∨ op = 0x8b then some (1, true, 0)
    else if op = 0xc7 then some (1, true, min operandSize 4)
    else if op = 0xa1 ∨ op = 0xa3 then some (1, false, addressSize)
    else none

/-- The length of an instruction and the effective address of its memory operand. -/
structure ArchInst where
  length : Nat
  ea : Option U64

/-- An instruction with ModRM, from the bytes after the opcode, which `before` bytes precede. -/
def archModrm (m : CodeMode) (regs : Nat → U64) (rip : U64) (addressSize : Nat) (rex : U8)
    (before immediateLen : Nat) (tail : List U8) : ArchInst :=
  let modrm := tail.headD 0
  let sib := (tail.drop 1).headD 0
  let sibLen := if archSib addressSize modrm then 1 else 0
  let dispLen := archDisp addressSize modrm sib
  let length := before + (1 + sibLen + dispLen + immediateLen)
  let next := rip + BitVec.ofNat 64 length
  { length := length
    ea := if modrmMod modrm = 3 then none
      else some (truncAddr addressSize (archBase m regs addressSize rex modrm sib next +
        signDisp ((tail.drop (1 + sibLen)).take dispLen))) }

def archDecode (m : CodeMode) (regs : Nat → U64) (rip : U64) (inst : List U8) : Option ArchInst :=
  let pre := archPrefixes m inst
  let ops := inst.drop pre.length
  (archForm (pre.operandSize m) (pre.addressSize m) ops).map fun (opcodeLen, hasModrm, immLen) =>
    let tail := ops.drop opcodeLen
    let before := pre.length + opcodeLen
    if hasModrm then archModrm m regs rip (pre.addressSize m) pre.rex before immLen tail
    else ⟨before + immLen, some (leWord (tail.take immLen))⟩

/-! ## Prefixes -/

theorem legacy_isSome (p : InstPrefix) (byte : U8) : (p.legacy byte).isSome = isLegacyPrefix byte := by
  unfold InstPrefix.legacy isLegacyPrefix
  simp only [apply_ite Option.isSome, Option.isSome_some, Option.isSome_none, Bool.if_true_left,
    List.contains_cons, List.contains_nil]
  rfl

theorem legacy_parts {p p' : InstPrefix} {byte : U8} (taken : p.legacy byte = some p') :
    p'.opsize = (p.opsize || byte == 0x66) ∧ p'.addrsize = (p.addrsize || byte == 0x67) ∧
      p'.rex = p.rex ∧ p'.seg = (archOverride byte).or p.seg := by
  unfold InstPrefix.legacy at taken
  iterate 11
    rcases ite_eq_iff.mp taken with ⟨rfl, ⟨⟩⟩ | ⟨-, taken⟩
    · refine ⟨by simp, by simp, rfl, rfl⟩
  cases taken

theorem parseLegacy_spec {p p' : InstPrefix} {inst rest : List U8}
    (parsed : parseLegacy p inst = some (p', rest)) :
    let legacy := inst.takeWhile isLegacyPrefix
    inst.drop legacy.length = rest ∧ legacy.length + rest.length = inst.length ∧
      p'.opsize = (p.opsize || legacy.contains 0x66) ∧
      p'.addrsize = (p.addrsize || legacy.contains 0x67) ∧ p'.rex = p.rex ∧
      p'.seg = legacy.foldl (fun seg byte => (archOverride byte).or seg) p.seg := by
  induction inst generalizing p with
  | nil => cases parsed
  | cons byte tail ih =>
    rw [parseLegacy] at parsed
    have known := legacy_isSome p byte
    cases taken : p.legacy byte with
    | none =>
      rw [taken] at parsed known
      cases parsed
      have other : isLegacyPrefix byte = false := known.symm
      simp [other]
    | some q =>
      rw [taken] at parsed known
      have legacy : isLegacyPrefix byte = true := known.symm
      obtain ⟨opsize, addrsize, rex, seg⟩ := legacy_parts taken
      obtain ⟨dropped, length, opsize', addrsize', rex', seg'⟩ := ih parsed
      have size : ∀ b : U8, ((byte :: tail).takeWhile isLegacyPrefix).contains b =
          (b == byte || (tail.takeWhile isLegacyPrefix).contains b) := by
        intro b
        rw [List.takeWhile_cons, if_pos legacy, List.contains_cons]
      refine ⟨?_, ?_, ?_, ?_, rex'.trans rex, ?_⟩
      · rw [List.takeWhile_cons, if_pos legacy]
        exact dropped
      · rw [List.takeWhile_cons, if_pos legacy, List.length_cons, List.length_cons]
        omega
      · rw [size, opsize', opsize, Bool.or_assoc, Bool.beq_comm]
      · rw [size, addrsize', addrsize, Bool.or_assoc, Bool.beq_comm]
      · rw [seg', seg, List.takeWhile_cons, if_pos legacy, List.foldl_cons]

theorem rex_high (byte : U8) (rex : isRex byte = true) : byte >>> 4 ≠ 0 := by
  revert byte
  decide +kernel

def RexSame (p : InstPrefix) : Prop :=
  ∀ bit field, rexExtend p bit field = archReg p.rex bit field

structure SamePrefixes (m : CodeMode) (inst : List U8) (p : InstPrefix) (rest : List U8) : Prop where
  dropped : inst.drop (archPrefixes m inst).length = rest
  length : (archPrefixes m inst).length + rest.length = inst.length
  opsize : (archPrefixes m inst).opsize = p.opsize
  addrsize : (archPrefixes m inst).addrsize = p.addrsize
  rex : (archPrefixes m inst).rex = p.rex
  seg : (archPrefixes m inst).seg = p.seg
  rexSame : RexSame p

theorem parsePrefix_spec {m : CodeMode} {inst rest : List U8} {p : InstPrefix}
    (parsed : parsePrefix m inst = some (p, rest)) : SamePrefixes m inst p rest := by
  obtain ⟨⟨q, tail⟩, legacy, rexed⟩ := Option.bind_eq_some_iff.mp parsed
  obtain ⟨dropped, length, opsize, addrsize, noRex, seg⟩ := parseLegacy_spec legacy
  cases tail with
  | nil => cases rexed
  | cons byte tail =>
    dsimp only at rexed
    split at rexed
    · rename_i isRexByte
      split at rexed
      · cases rexed
      · cases rexed
        have found : (inst.drop (inst.takeWhile isLegacyPrefix).length).head?.filter
            (fun byte => m.g64 && isRex byte) = some byte := by
          rw [dropped, List.head?_cons, Option.filter_some, if_pos isRexByte]
        have high := rex_high byte (Bool.and_eq_true_iff.mp isRexByte).2
        refine ⟨?_, ?_, opsize.symm, addrsize.symm, ?_, seg.symm, ?_⟩
        · simp only [archPrefixes, found, Option.isSome_some, if_true]
          rw [← List.drop_drop, dropped]
          rfl
        · simp only [archPrefixes, found, Option.isSome_some, if_true]
          rw [List.length_cons] at length
          omega
        · simp only [archPrefixes, found, Option.getD_some]
        · intro bit field
          unfold rexExtend archReg
          split <;> simp_all
    · rename_i isRexByte
      cases rexed
      have missing : (inst.drop (inst.takeWhile isLegacyPrefix).length).head?.filter
          (fun byte => m.g64 && isRex byte) = none := by
        rw [dropped, List.head?_cons, Option.filter_some, if_neg isRexByte]
      refine ⟨?_, ?_, opsize.symm, addrsize.symm, ?_, seg.symm, ?_⟩
      · simp only [archPrefixes, missing, Option.isSome_none, Bool.false_eq_true, if_false]
        exact dropped
      · simp only [archPrefixes, missing, Option.isSome_none, Bool.false_eq_true, if_false]
        exact length
      · simp only [archPrefixes, missing, Option.getD_none]
        exact noRex.symm
      · intro bit field
        simp [rexExtend, archReg, noRex]

section

variable {m : CodeMode} {inst rest : List U8} {p : InstPrefix}

theorem SamePrefixes.operandSize (same : SamePrefixes m inst p rest) :
    (archPrefixes m inst).operandSize m = getOperandSize m p := by
  unfold ArchPrefixes.operandSize getOperandSize
  rw [same.opsize, same.rex]
  cases m.g64 <;> cases m.csD <;> cases p.opsize <;> simp

theorem SamePrefixes.addressSize (same : SamePrefixes m inst p rest) :
    (archPrefixes m inst).addressSize m = getAddressSize m p := by
  unfold ArchPrefixes.addressSize getAddressSize
  rw [same.addrsize]
  cases m.g64 <;> cases m.csD <;> cases p.addrsize <;> rfl

theorem getAddressSize_cases (m : CodeMode) (p : InstPrefix) :
    getAddressSize m p = 2 ∨ getAddressSize m p = 4 ∨ getAddressSize m p = 8 := by
  unfold getAddressSize
  cases m.g64 <;> cases m.csD <;> cases p.addrsize <;> simp

end

/-! ## The bytes after the opcode -/

theorem modrmMod_lt (modrm : U8) : modrmMod modrm < 4 := by
  have small := modrm.isLt
  unfold modrmMod
  omega

theorem archDisp_eq {size : Nat} (sizes : size = 2 ∨ size = 4 ∨ size = 8) (modrm sib : U8) :
    archDisp size modrm sib =
      if archSib size modrm = true ∧ modrmMod modrm = 0 ∧ modrmRm sib = 5 then 4
      else modrmDisp size modrm := by
  have small := modrmMod_lt modrm
  unfold archDisp modrmDisp archSib
  generalize modrmMod modrm = mod at *
  generalize modrmRm modrm = rm at *
  interval_cases mod <;> rcases sizes with rfl | rfl | rfl <;> simp <;> grind

structure ModrmParts (size immediateLen : Nat) (tail : List U8) (post : InstPostfix) : Prop where
  modrm : post.modrm = tail.headD 0
  sib : archSib size (tail.headD 0) = true → post.sib = (tail.drop 1).headD 0
  length : tail.length = 1 + (if archSib size (tail.headD 0) then 1 else 0) +
    archDisp size (tail.headD 0) ((tail.drop 1).headD 0) + immediateLen
  displacement : post.displacement =
    (tail.drop (1 + (if archSib size (tail.headD 0) then 1 else 0))).take
      (archDisp size (tail.headD 0) ((tail.drop 1).headD 0))
  immediate : post.immediate = tail.drop (tail.length - immediateLen)

theorem parseRest_some {modrm sib : U8} {dispLen immLen : Nat} {pinst : List U8} {post : InstPostfix}
    (parsed : parseRest modrm sib dispLen immLen pinst = some post) :
    pinst.length = dispLen + immLen ∧
      post = ⟨modrm, sib, pinst.take dispLen, pinst.drop dispLen⟩ := by
  unfold parseRest at parsed
  split at parsed
  · rename_i length
    cases parsed
    exact ⟨length, rfl⟩
  · cases parsed

theorem parseModrm_parts {size immediateLen : Nat} (sizes : size = 2 ∨ size = 4 ∨ size = 8)
    {tail : List U8} {post : InstPostfix} (parsed : parseModrm size immediateLen tail = some post) :
    ModrmParts size immediateLen tail post := by
  cases tail with
  | nil => cases parsed
  | cons modrm pinst =>
    have same : modrmSib size modrm = archSib size modrm := by
      unfold modrmSib archSib
      rw [Bool.and_comm (modrmMod modrm != 3)]
    unfold parseModrm at parsed
    dsimp only at parsed
    rw [same] at parsed
    split at parsed
    · rename_i hasSib
      cases pinst with
      | nil => cases parsed
      | cons sib pinst =>
        obtain ⟨length, rfl⟩ := parseRest_some parsed
        have disp := archDisp_eq sizes modrm sib
        simp only [hasSib, true_and] at disp
        rw [← disp] at length ⊢
        refine ⟨rfl, fun _ => rfl, ?_, ?_, ?_⟩
        · simp only [List.headD_cons, List.drop_succ_cons, List.drop_zero, List.length_cons,
            hasSib, if_true]
          omega
        · simp only [List.headD_cons, List.drop_succ_cons, List.drop_zero, hasSib, if_true]
        · rw [List.length_cons, List.length_cons, length,
            show ∀ d, d + immediateLen + 1 + 1 - immediateLen = d + 1 + 1 by omega]
          rfl
    · rename_i noSib
      obtain ⟨length, rfl⟩ := parseRest_some parsed
      have missing : archSib size modrm = false := Bool.eq_false_iff.mpr noSib
      have without := archDisp_eq sizes modrm
      simp only [missing, Bool.false_eq_true, false_and, if_false] at without
      refine ⟨rfl, fun has => absurd has noSib, ?_, ?_, ?_⟩
      · simp only [List.headD_cons, List.length_cons, missing, Bool.false_eq_true, if_false, without]
        omega
      · simp only [List.headD_cons, missing, Bool.false_eq_true, if_false, without]
        rfl
      · rw [List.length_cons, length, show ∀ d, d + immediateLen + 1 - immediateLen = d + 1 by omega]
        rfl

/-! ## Effective addresses -/

section

variable {size : Nat}

section

variable (small : size ≤ 8)

include small

theorem toNat_truncAddr (addr : U64) :
    (truncAddr size addr).toNat = addr.toNat % 2 ^ (8 * size) := by
  have bound : 2 ^ (8 * size) ≤ 2 ^ 64 := Nat.pow_le_pow_right (by decide) (by omega)
  have below := Nat.mod_lt addr.toNat (Nat.two_pow_pos (8 * size))
  unfold truncAddr
  rw [BitVec.toNat_ofNat, Nat.mod_eq_of_lt (Nat.lt_of_lt_of_le below bound)]

theorem truncAddr_eq_iff {a b : U64} :
    truncAddr size a = truncAddr size b ↔ a.toNat ≡ b.toNat [MOD 2 ^ (8 * size)] := by
  rw [← BitVec.toNat_inj, toNat_truncAddr small, toNat_truncAddr small]
  rfl

theorem toNat_add_modEq (a b : U64) : (a + b).toNat ≡ a.toNat + b.toNat [MOD 2 ^ (8 * size)] := by
  have divides : 2 ^ (8 * size) ∣ 2 ^ 64 := Nat.pow_dvd_pow 2 (by omega)
  rw [BitVec.toNat_add]
  exact (Nat.mod_modEq _ _).of_dvd divides

theorem toNat_shift_modEq (a : U64) (k : Nat) :
    (a <<< k).toNat ≡ a.toNat * 2 ^ k [MOD 2 ^ (8 * size)] := by
  have divides : 2 ^ (8 * size) ∣ 2 ^ 64 := Nat.pow_dvd_pow 2 (by omega)
  rw [BitVec.toNat_shiftLeft, Nat.shiftLeft_eq]
  exact (Nat.mod_modEq _ _).of_dvd divides

theorem toNat_truncAddr_modEq (a : U64) :
    (truncAddr size a).toNat ≡ a.toNat [MOD 2 ^ (8 * size)] := by
  rw [toNat_truncAddr small]
  exact Nat.mod_modEq _ _

theorem truncAddr_add_congr {a a' : U64} (same : a.toNat ≡ a'.toNat [MOD 2 ^ (8 * size)])
    (b : U64) : truncAddr size (a + b) = truncAddr size (a' + b) := by
  rw [truncAddr_eq_iff small]
  exact (toNat_add_modEq small a b).trans
    ((same.add_right b.toNat).trans (toNat_add_modEq small a' b).symm)

end

theorem modrmRm_lt (modrm : U8) : modrmRm modrm < 8 := Nat.mod_lt _ (by decide)

theorem archReg_mod (rex : U8) (bit : Nat) {field : Nat} (small : field < 8) :
    archReg rex bit field % 8 = field := by
  unfold archReg
  split <;> omega

variable {m : CodeMode} {regs : Nat → U64} {p : InstPrefix} {post : InstPostfix} {seg : Nat}
  {offset : U64}

theorem evalModrmAddr_mem (rexSame : RexSame p)
    (found : evalModrmAddr m regs p post = some (.mem seg offset)) :
    modrmMod post.modrm ≠ 3 ∧ offset = truncAddr (getAddressSize m p)
      (archBase m regs (getAddressSize m p) p.rex post.modrm post.sib 0 +
        signDisp post.displacement) := by
  have sizes := getAddressSize_cases m p
  have small : getAddressSize m p ≤ 8 := by omega
  have rmMod := archReg_mod p.rex 0 (modrmRm_lt post.modrm)
  have baseMod := archReg_mod p.rex 0 (modrmRm_lt post.sib)
  unfold evalModrmAddr at found
  simp only [rexSame _ _, rmMod] at found
  split at found
  · cases found
  · rename_i wide
    split at found
    · cases found
    · rename_i memory
      refine ⟨memory, ?_⟩
      obtain ⟨⟨seg', addr⟩, part, operand⟩ := Option.map_eq_some_iff.mp found
      cases operand
      refine truncAddr_add_congr small ?_ _
      unfold archBase
      rw [if_neg wide]
      split at part
      · rename_i hasSib
        rw [if_pos hasSib]
        unfold evalSibAddr at part
        simp only [rexSame _ _, baseMod] at part
        have index : (if archReg p.rex 1 (modrmRegop post.sib) ≠ 4 then
            truncAddr (getAddressSize m p) (regs (archReg p.rex 1 (modrmRegop post.sib))) <<<
              modrmMod post.sib else 0).toNat ≡
            (if archReg p.rex 1 (modrmRegop post.sib) = 4 then 0
              else regs (archReg p.rex 1 (modrmRegop post.sib)) <<< modrmMod post.sib).toNat
              [MOD 2 ^ (8 * getAddressSize m p)] := by
          by_cases none : archReg p.rex 1 (modrmRegop post.sib) = 4
          · rw [if_neg (not_not.mpr none), if_pos none]
          · rw [if_pos none, if_neg none]
            exact (toNat_shift_modEq small _ _).trans
              (((toNat_truncAddr_modEq small _).mul_right _).trans (toNat_shift_modEq small _ _).symm)
        split at part
        · rename_i noBase
          cases part
          rw [if_pos noBase, show ∀ x : U64, x + 0 = x from BitVec.add_zero]
          exact index
        · rename_i hasBase
          cases part
          rw [if_neg hasBase]
          exact (toNat_add_modEq small _ _).trans
            ((index.add (toNat_truncAddr_modEq small _)).trans (toNat_add_modEq small _ _).symm)
      · rename_i noSib
        rw [if_neg noSib]
        split at part
        · rename_i displacementOnly
          rw [if_pos displacementOnly.symm]
          split at part
          · cases part
          · cases part
            cases m.g64 <;> rfl
        · rename_i register
          cases part
          rw [if_neg fun both => register both.symm]
          exact toNat_truncAddr_modEq small _

theorem evalModrmAddr_segment (rexSame : RexSame p)
    (found : evalModrmAddr m regs p post = some (.mem seg offset)) :
    seg = archSegment p.seg p.rex post.modrm post.sib := by
  have rmMod := archReg_mod p.rex 0 (modrmRm_lt post.modrm)
  have baseMod := archReg_mod p.rex 0 (modrmRm_lt post.sib)
  unfold evalModrmAddr at found
  simp only [rexSame _ _, rmMod] at found
  unfold archSegment
  split at found
  · cases found
  · split at found
    · cases found
    · obtain ⟨⟨seg', addr⟩, part, operand⟩ := Option.map_eq_some_iff.mp found
      cases operand
      split at part
      · rename_i hasSib
        simp only [evalSibAddr, rexSame _ _, baseMod] at part
        rw [if_pos hasSib]
        split at part <;> cases part <;> simp_all [computeSegment, or_comm]
      · rename_i noSib
        rw [if_neg noSib]
        split at part
        · split at part
          · cases part
          · cases part
            simp_all [computeSegment]
        · cases part
          simp_all [computeSegment, or_comm, and_comm]

theorem archSegment_sib {seg : Option Nat} {rex modrm sib sib' : U8}
    (same : modrmRm modrm = 4 → sib = sib') :
    archSegment seg rex modrm sib = archSegment seg rex modrm sib' := by
  unfold archSegment
  by_cases rm : modrmRm modrm = 4
  · rw [same rm]
  · simp only [if_neg rm]

theorem evalModrmAddr_reg {index : Nat} (found : evalModrmAddr m regs p post = some (.reg index)) :
    modrmMod post.modrm = 3 ∧ index = rexExtend p 0 (modrmRm post.modrm) := by
  unfold evalModrmAddr at found
  dsimp only at found
  split at found
  · cases found
  · split at found
    · rename_i register
      cases found
      exact ⟨register, rfl⟩
    · obtain ⟨part, -, operand⟩ := Option.map_eq_some_iff.mp found
      cases operand

theorem evalModrmAddr_narrow (rexSame : RexSame p)
    {operand : ModrmOperand} (found : evalModrmAddr m regs p post = some operand)
    (mod : modrmMod post.modrm = 0) (rm : modrmRm post.modrm = 5) : getAddressSize m p = 4 := by
  have sizes := getAddressSize_cases m p
  have rmMod := archReg_mod p.rex 0 (modrmRm_lt post.modrm)
  rw [rm] at rmMod
  unfold evalModrmAddr at found
  simp only [rexSame _ _, mod, rm, rmMod] at found
  split at found
  · cases found
  · simp only [Nat.reduceEqDiff, if_false, and_self, if_true, OfNat.zero_ne_ofNat] at found
    split at found
    · cases found
    · omega

theorem archBase_of_not_rip {size' : Nat} {rex modrm : U8} (other : ¬ (modrmMod modrm = 0 ∧
    modrmRm modrm = 5 ∧ m.g64 = true)) (sib : U8) (next : U64) :
    archBase m regs size' rex modrm sib next = archBase m regs size' rex modrm sib 0 := by
  unfold archBase
  split
  · rfl
  · split
    · rfl
    · split
      · rename_i form
        rw [if_neg fun long => other ⟨form.1, form.2, long⟩]
        rw [if_neg fun long => other ⟨form.1, form.2, long⟩]
      · rfl

theorem archBase_rip {rex modrm : U8} (mod : modrmMod modrm = 0) (rm : modrmRm modrm = 5)
    (long : m.g64 = true) (sib : U8) (next : U64) :
    archBase m regs 4 rex modrm sib next = next := by
  unfold archBase
  simp [mod, rm, long]

theorem archBase_sib {size' : Nat} {rex modrm sib sib' : U8}
    (same : size' ≠ 2 → modrmRm modrm = 4 → sib = sib') (next : U64) :
    archBase m regs size' rex modrm sib next = archBase m regs size' rex modrm sib' next := by
  unfold archBase
  split
  · rfl
  · rename_i wide
    split
    · rename_i rm
      rw [same wide rm]
    · rfl

theorem truncAddr_add_eq_iff (small : size ≤ 8) (a d : U64) :
    truncAddr size (a + d) = truncAddr size (0 + d) ↔ truncAddr size a = 0 := by
  have zero : truncAddr size 0 = 0 := by
    unfold truncAddr
    simp
  rw [← zero, truncAddr_eq_iff small, truncAddr_eq_iff small]
  constructor
  · intro same
    have sums := (toNat_add_modEq small a d).symm.trans (same.trans (toNat_add_modEq small 0 d))
    exact Nat.ModEq.add_right_cancel' _ sums
  · intro same
    exact (toNat_add_modEq small a d).trans
      ((same.add_right d.toNat).trans (toNat_add_modEq small 0 d).symm)

end

end Xmhf
