import Xmhf.Emulation.Decode

/-!
# The instruction emulator

`x86_vmx_emulate_instruction` (`x86vmx-emulation.c`) decodes an instruction of the guest and
returns what its caller in `xmhf_memprot_emulate_guest_ring0_*` needs: the source operand
with its value, and the destination. It neither writes the destination nor advances the
instruction pointer; the bit tests change CF.

Some instructions are matched by their bytes and not decoded; those return a source only.
A failed assertion and a return value other than 0 are both `none`.
-/

namespace Xmhf

open Option (bind_eq_some_iff map_eq_some_iff map_some)

/-- What the emulator reads: the guest's registers by number, its memory, and XMM0. -/
structure EmuState where
  tables : GvTables
  regs : Nat → U64
  ram : Pa → U8
  xmm0 : List U8

namespace EmuState

variable (e : EmuState)

def mode : CodeMode :=
  ⟨e.tables.vmcs.g64, (e.tables.vmcs .guestCSAccessRights).getLsbD 14⟩

def cpl : Nat := (e.tables.vmcs .guestCSSelector).toNat % 4

def rip : U64 := e.tables.vmcs .guestRIP

def rflags : U64 := e.tables.vmcs .guestRFLAGS

/-- `eval_operand_value` of a memory operand. -/
def readMemory (seg : Nat) (offset : U64) (size : Nat) : Option (List U8) :=
  match accessMemoryGv e.tables ⟨offset, seg, size, hptProtsR, e.cpl⟩ false
      ⟨e.ram, fun _ => 0, []⟩ with
  | some (.returned true _ s) => some ((List.range size).map s.hvaddr)
  | _ => none

end EmuState

/-- `struct operand`; memory has the segment, the offset and `gvaddr`. -/
inductive OperandType where
  | reg (index : Nat)
  | mem (seg : Nat) (offset gvaddr : U64)
  | imm
  | xmm
  deriving DecidableEq

structure Operand where
  type : OperandType
  operandSize : Nat
  val : List U8
  deriving DecidableEq

/-- What an accepted instruction leaves: the operands, the effective address that was computed,
and RFLAGS. -/
structure Emulated where
  src : Operand
  dst : Option Operand
  ea : Option U64
  rflags : U64
  deriving DecidableEq

def ModrmOperand.ea : ModrmOperand → Option U64
  | .reg _ => none
  | .mem _ offset => some offset

section

variable (e : EmuState) (p : InstPrefix)

/-- A memory operand; `guestmem_desegment` may halt. -/
def memOperand (access : Prot) (seg : Nat) (offset : U64) (size : Nat) (val : List U8) :
    Option Operand :=
  (guestmemDesegment e.tables.vmcs seg offset size access e.cpl).map fun gvaddr =>
    ⟨.mem seg offset gvaddr, size, val⟩

def regOperand (index size : Nat) : Operand := ⟨.reg index, size, leBytes size (e.regs index)⟩

def modrmDst (size : Nat) : ModrmOperand → Option Operand
  | .reg index => some ⟨.reg index, size, []⟩
  | .mem seg offset => memOperand e hptProtWriteMask seg offset size []

def modrmSrc (size : Nat) : ModrmOperand → Option Operand
  | .reg index => some (regOperand e index size)
  | .mem seg offset =>
    (memOperand e hptProtsR seg offset size []).bind fun op =>
      (e.readMemory seg offset size).map fun val => { op with val := val }

def InstPrefix.plain : Bool := !p.lock && !p.repe && !p.repne

def parseOperand (immediateLen : Nat) (tail : List U8) : Option (InstPostfix × ModrmOperand) :=
  (parseModrm (getAddressSize e.mode p) immediateLen tail).bind fun post =>
    (evalModrmAddr e.mode e.regs p post).map fun operand => (post, operand)

/-- `case 0x89`: MOV Ev, Gv -/
def movStore (tail : List U8) : Option Emulated :=
  if p.plain then
    (parseOperand e p 0 tail).bind fun (post, operand) =>
      let size := getOperandSize e.mode p
      (modrmDst e size operand).map fun dst =>
        ⟨regOperand e (rexExtend p 2 (modrmRegop post.modrm)) size, some dst, operand.ea, e.rflags⟩
  else none

/-- `case 0x8b`: MOV Gv, Ev -/
def movLoad (tail : List U8) : Option Emulated :=
  if p.plain then
    (parseOperand e p 0 tail).bind fun (post, operand) =>
      let size := getOperandSize e.mode p
      (modrmSrc e size operand).map fun src =>
        ⟨src, some ⟨.reg (rexExtend p 2 (modrmRegop post.modrm)), size, []⟩, operand.ea, e.rflags⟩
  else none

/-- `eval_operand_value` of an immediate. -/
def immediateValue (size : Nat) (immediate : List U8) : List U8 :=
  if size = 8 then leBytes 8 (signDisp immediate) else immediate

/-- `case 0xc7`: MOV Ev, Iz. The test of the reg field comes before ModRM is parsed, when the
field is still 0. -/
def movImmediate (tail : List U8) : Option Emulated :=
  if p.plain then
    let size := getOperandSize e.mode p
    (parseOperand e p (min size 4) tail).bind fun (post, operand) =>
      (modrmDst e size operand).map fun dst =>
        ⟨⟨.imm, size, immediateValue size post.immediate⟩, some dst, operand.ea, e.rflags⟩
  else none

/-- `case 0xa0` to `case 0xa3`: MOV with an offset. The source is AX for either direction, and an
8-bit register is not implemented. -/
def movOffset (opcode : U8) (tail : List U8) : Option Emulated :=
  if p.plain ∧ opcode.getLsbD 0 = true ∧ tail.length = getAddressSize e.mode p then
    let size := getOperandSize e.mode p
    let access := if opcode.getLsbD 1 then hptProtWriteMask else hptProtsR
    (memOperand e access (computeSegment p 0) (leWord tail) size []).map fun dst =>
      ⟨regOperand e 0 size, some dst, some (leWord tail), e.rflags⟩
  else none

/-- `case 0xba` of the two-byte opcodes: BT, BTS, BTR and BTC with an immediate. The value that is
tested and modified is a local variable with value 0. -/
def bitTest (tail : List U8) : Option Emulated :=
  if !p.repe && !p.repne then
    (parseOperand e p 1 tail).bind fun (post, operand) =>
      let size := getOperandSize e.mode p
      let bit := (leWord post.immediate).toNat % (size * 8)
      match operand with
      | .reg _ => none
      | .mem seg offset =>
        (modrmSrc e size operand).bind fun src =>
          let value : Option U64 :=
            match modrmRegop post.modrm with
            | 4 => some 0
            | 5 => some (1 <<< bit)
            | 6 => some 0
            | 7 => some (1 <<< bit)
            | _ => none
          value.bind fun value =>
            (memOperand e hptProtsR seg offset size []).map fun dst =>
              ⟨{ src with val := leBytes 8 value }, some dst, some offset, e.rflags &&& ~~~1⟩
  else none

/-- `case 0x83`, matched by its bytes: XOR of the doubleword at RAX + 0xc with 1. -/
def xorPattern (tail : List U8) : Option Emulated :=
  if tail = [0x70, 0x0c, 0x01] then
    let gvaddr := e.regs 0 + 0xc
    (copyFromVa e.tables.guestCtx e.tables.guestMem e.ram 0 gvaddr 4 4 0).map fun value =>
      ⟨⟨.mem 0 0 0, 4, leBytes 4 (leWord value ^^^ 1)⟩, none, some gvaddr, e.rflags⟩
  else none

/-- `case 0x88`, matched by its bytes: a store of AL. -/
def storeAlPattern (tail : List U8) : Option Emulated :=
  if tail = [0x44, 0xd1, 0x0c] ∨ tail = [0x47, 0x0c] ∨ tail = [0x41, 0x0c] then
    some ⟨⟨.reg 0, 1, leBytes 1 (e.regs 0)⟩, none, none, e.rflags⟩
  else none

def storeXmm (matched : Bool) : Option Emulated :=
  if matched then some ⟨⟨.xmm, 16, e.xmm0⟩, none, none, e.rflags⟩ else none

def parseOpcodeTwo0f : List U8 → Option Emulated
  | [] => none
  | opcode :: tail =>
    if opcode = 0x11 then
      storeXmm e (tail == [0x01] || tail.length == 2 && tail.head? == some 0x04 || tail == [0x00])
    else if opcode = 0x29 then
      storeXmm e (tail == [0x01] || tail.length == 2 && tail.head? == some 0x41)
    else if opcode = 0x7f then storeXmm e (tail == [0x04, 0xc8] || tail == [0x01])
    else if opcode = 0xba then bitTest e p tail
    else none

def parseOpcodeOne : List U8 → Option Emulated
  | [] => none
  | opcode :: tail =>
    if opcode = 0x0f then parseOpcodeTwo0f e p tail
    else if opcode = 0x83 then xorPattern e tail
    else if opcode = 0x88 then storeAlPattern e tail
    else if opcode = 0x89 then movStore e p tail
    else if opcode = 0x8b then movLoad e p tail
    else if opcode = 0xa0 ∨ opcode = 0xa1 ∨ opcode = 0xa2 ∨ opcode = 0xa3 then
      movOffset e p opcode tail
    else if opcode = 0xc7 then movImmediate e p tail
    else none

end

/-- `x86_vmx_emulate_instruction` -/
def emulateInstruction (e : EmuState) (inst : List U8) : Option Emulated :=
  (parsePrefix e.mode inst).bind fun (p, rest) => parseOpcodeOne e p rest

/-! ## Length and effective address -/

/-- An accepted instruction is as long as the processor takes it, and the effective address that the
emulator works with is the processor's. -/
def DecodedRight (e : EmuState) (inst : List U8) (r : Emulated) : Prop :=
  ∃ a, archDecode e.mode e.regs e.rip inst = some a ∧ a.length = inst.length ∧
    ∀ ea, r.ea = some ea → a.ea = some ea

/-- The bytes after the opcode, for the opcodes whose ModRM is parsed. -/
def modrmTail : List U8 → Option (List U8)
  | [] => none
  | op :: tail =>
    if op = 0x89 ∨ op = 0x8b ∨ op = 0xc7 then some tail
    else if op = 0x0f ∧ tail.head? = some 0xba then some (tail.drop 1)
    else none

/-- Mod 0, rm 5: relative to the instruction pointer in 64-bit mode. -/
def ripForm (tail : List U8) : Prop := modrmMod (tail.headD 0) = 0 ∧ modrmRm (tail.headD 0) = 5

/-- What an instruction has to be like, by its prefixes and the bytes `ops` from the opcode on. An
address relative to EIP is right only if the following instruction is at 0 modulo 2^32. Of the
instructions matched by their bytes, one uses RAX for its address, and three are shorter with
16-bit addresses or have a displacement that was not looked for. -/
structure PlainForm (e : EmuState) (pre : ArchPrefixes) (ops : List U8) : Prop where
  eip : ∀ tail, modrmTail ops = some tail → ripForm tail → e.mode.g64 = true → pre.addrsize = true →
    truncAddr 4 (e.rip + BitVec.ofNat 64 (pre.length + ops.length)) = 0
  rax : ops = [0x83, 0x70, 0x0c, 0x01] →
    (archModrm e.mode e.regs e.rip (pre.addressSize e.mode) pre.rex (pre.length + 1) 1
      [0x70, 0x0c, 0x01]).ea = some (e.regs 0 + 0xc)
  scaled : ops = [0x88, 0x44, 0xd1, 0x0c] ∨ ops = [0x0f, 0x7f, 0x04, 0xc8] →
    pre.addressSize e.mode ≠ 2
  based : ∀ sib, ops = [0x0f, 0x11, 0x04, sib] → pre.addressSize e.mode ≠ 2 ∧ modrmRm sib ≠ 5

variable {post : InstPostfix} {operand : ModrmOperand} {immLen n : Nat} {opcode : U8}

section

variable {e : EmuState} {p : InstPrefix} {inst rest tail : List U8}

theorem archDecode_eq (same : SamePrefixes e.mode inst p rest) :
    archDecode e.mode e.regs e.rip inst =
      (archForm (getOperandSize e.mode p) (getAddressSize e.mode p) rest).map
        fun (opcodeLen, hasModrm, immLen) =>
          let before := (archPrefixes e.mode inst).length + opcodeLen
          if hasModrm then
            archModrm e.mode e.regs e.rip (getAddressSize e.mode p) p.rex before immLen
              (rest.drop opcodeLen)
          else ⟨before + immLen, some (leWord ((rest.drop opcodeLen).take immLen))⟩ := by
  unfold archDecode
  simp only [same.dropped, same.operandSize, same.addressSize, same.rex]

theorem parseOperand_spec (same : SamePrefixes e.mode inst p rest) (before : Nat)
    (parsed : parseOperand e p immLen tail = some (post, operand)) :
    let a := archModrm e.mode e.regs e.rip (getAddressSize e.mode p) p.rex before immLen tail
    a.length = before + tail.length ∧ ((∀ ea, operand.ea = some ea → a.ea = some ea) ↔
        (ripForm tail → e.mode.g64 = true → p.addrsize = true →
          truncAddr 4 (e.rip + BitVec.ofNat 64 (before + tail.length)) = 0)) := by
  intro a
  obtain ⟨post', whole, rest'⟩ := bind_eq_some_iff.mp parsed
  obtain ⟨operand', found, pair⟩ := map_eq_some_iff.mp rest'
  cases pair
  have parts := parseModrm_parts (getAddressSize_cases e.mode p) whole
  have length : a.length = before + tail.length := by
    rw [parts.length]
    rfl
  refine ⟨length, ?_⟩
  have modrm := parts.modrm
  cases operand with
  | reg index =>
    have mod := (evalModrmAddr_reg found).1
    refine iff_of_true (fun ea none => by cases none) fun form => ?_
    rw [modrm, form.1] at mod
    cases mod
  | mem seg offset =>
    obtain ⟨memory, rfl⟩ := evalModrmAddr_mem same.rexSame found
    have address : a.ea = some (truncAddr (getAddressSize e.mode p)
        (archBase e.mode e.regs (getAddressSize e.mode p) p.rex post.modrm post.sib
          (e.rip + BitVec.ofNat 64 (before + tail.length)) + signDisp post.displacement)) := by
      have sibs : getAddressSize e.mode p ≠ 2 → modrmRm post.modrm = 4 →
          post.sib = (tail.drop 1).headD 0 := by
        intro wide rm
        refine parts.sib ?_
        rw [← modrm]
        simp [archSib, wide, memory, rm]
      rw [archBase_sib sibs, parts.displacement, modrm, ← length]
      rw [modrm] at memory
      exact if_neg memory
    rw [address]
    have only (x y : U64) :
        (∀ ea, ModrmOperand.ea (.mem seg x) = some ea → some y = some ea) ↔ y = x :=
      ⟨fun all => Option.some.inj (all _ rfl), fun eq ea is => by rw [eq]; exact is⟩
    rw [only]
    by_cases form : modrmMod post.modrm = 0 ∧ modrmRm post.modrm = 5 ∧ e.mode.g64 = true
    · obtain ⟨mod, rm, long⟩ := form
      have narrow := evalModrmAddr_narrow same.rexSame found mod rm
      have addrsize : p.addrsize = true := by
        unfold getAddressSize at narrow
        rw [long] at narrow
        cases small : p.addrsize with
        | true => rfl
        | false => simp [small] at narrow
      rw [narrow, archBase_rip mod rm long, archBase_rip mod rm long,
        truncAddr_add_eq_iff (by decide)]
      rw [modrm] at mod rm
      exact ⟨fun zero _ _ _ => zero, fun zero => zero ⟨mod, rm⟩ long addrsize⟩
    · rw [archBase_of_not_rip form]
      refine iff_of_true rfl fun rip long _ => absurd ⟨?_, ?_, long⟩ form
      · rw [modrm]
        exact rip.1
      · rw [modrm]
        exact rip.2

section

variable (same : SamePrefixes e.mode inst p rest)
  (form : archForm (getOperandSize e.mode p) (getAddressSize e.mode p) rest = some
    (n, true, immLen))

include same form

theorem decoded_modrm {r : Emulated} (isTail : modrmTail rest = some tail)
    (dropped : rest.drop n = tail) (length : rest.length = n + tail.length)
    (parsed : parseOperand e p immLen tail = some (post, operand)) (address : r.ea = operand.ea) :
    DecodedRight e inst r ↔ PlainForm e (archPrefixes e.mode inst) rest := by
  obtain ⟨whole, right⟩ := parseOperand_spec same ((archPrefixes e.mode inst).length + n) parsed
  have total := same.length
  unfold DecodedRight
  rw [archDecode_eq same, form, map_some]
  simp only [if_true, dropped]
  constructor
  · rintro ⟨a, arch, -, eas⟩
    cases arch
    rw [← address] at right
    refine ⟨fun tail' isTail' rip long addrsize => ?_, fun pattern => ?_, fun pattern => ?_,
      fun sib pattern => ?_⟩
    · cases isTail.symm.trans isTail'
      rw [length, ← Nat.add_assoc]
      exact right.mp eas rip long (same.addrsize ▸ addrsize)
    · rw [pattern] at isTail
      cases isTail
    · rcases pattern with pattern | pattern
      · rw [pattern] at isTail
        cases isTail
      · rw [pattern] at isTail
        cases isTail
    · rw [pattern] at isTail
      cases isTail
  · intro plain
    refine ⟨_, rfl, by omega, ?_⟩
    rw [address]
    refine right.mpr fun rip long addrsize => ?_
    have zero := plain.eip tail isTail rip long (same.addrsize.trans addrsize)
    rwa [length, ← Nat.add_assoc] at zero

theorem decoded_pattern {r : Emulated} (address : r.ea = none) :
    DecodedRight e inst r ↔ (archModrm e.mode e.regs e.rip (getAddressSize e.mode p) p.rex
        ((archPrefixes e.mode inst).length + n) immLen (rest.drop n)).length =
      (archPrefixes e.mode inst).length + rest.length := by
  have total := same.length
  unfold DecodedRight
  rw [archDecode_eq same, form, map_some, address, total]
  constructor
  · rintro ⟨a, arch, length, -⟩
    cases arch
    exact length
  · intro length
    exact ⟨_, rfl, length, fun ea none => by cases none⟩

end

variable {r : Emulated}

theorem movStore_some (accepted : movStore e p tail = some r) :
    ∃ post operand dst, parseOperand e p 0 tail = some (post, operand) ∧
      modrmDst e (getOperandSize e.mode p) operand = some dst ∧
      r = ⟨regOperand e (rexExtend p 2 (modrmRegop post.modrm)) (getOperandSize e.mode p), some dst,
        operand.ea, e.rflags⟩ := by
  unfold movStore at accepted
  split at accepted
  · obtain ⟨⟨post, operand⟩, parsed, found⟩ := bind_eq_some_iff.mp accepted
    obtain ⟨dst, place, result⟩ := map_eq_some_iff.mp found
    exact ⟨post, operand, dst, parsed, place, result.symm⟩
  · cases accepted

theorem movLoad_some (accepted : movLoad e p tail = some r) :
    ∃ post operand src, parseOperand e p 0 tail = some (post, operand) ∧
      modrmSrc e (getOperandSize e.mode p) operand = some src ∧
      r = ⟨src, some ⟨.reg (rexExtend p 2 (modrmRegop post.modrm)), getOperandSize e.mode p, []⟩,
        operand.ea, e.rflags⟩ := by
  unfold movLoad at accepted
  split at accepted
  · obtain ⟨⟨post, operand⟩, parsed, found⟩ := bind_eq_some_iff.mp accepted
    obtain ⟨src, place, result⟩ := map_eq_some_iff.mp found
    exact ⟨post, operand, src, parsed, place, result.symm⟩
  · cases accepted

theorem movImmediate_some (accepted : movImmediate e p tail = some r) :
    ∃ post operand dst, parseOperand e p (min (getOperandSize e.mode p) 4) tail = some (post, operand) ∧
      modrmDst e (getOperandSize e.mode p) operand = some dst ∧
      r = ⟨⟨.imm, getOperandSize e.mode p, immediateValue (getOperandSize e.mode p) post.immediate⟩,
        some dst, operand.ea, e.rflags⟩ := by
  unfold movImmediate at accepted
  split at accepted
  · obtain ⟨⟨post, operand⟩, parsed, found⟩ := bind_eq_some_iff.mp accepted
    obtain ⟨dst, place, result⟩ := map_eq_some_iff.mp found
    exact ⟨post, operand, dst, parsed, place, result.symm⟩
  · cases accepted

theorem bitTest_parsed (accepted : bitTest e p tail = some r) :
    ∃ post operand, parseOperand e p 1 tail = some (post, operand) ∧ r.ea = operand.ea := by
  unfold bitTest at accepted
  split at accepted
  · obtain ⟨⟨post, operand⟩, parsed, found⟩ := bind_eq_some_iff.mp accepted
    refine ⟨post, operand, parsed, ?_⟩
    cases operand with
    | reg index => cases found
    | mem seg offset =>
      obtain ⟨src, -, rest⟩ := bind_eq_some_iff.mp found
      obtain ⟨value, -, rest⟩ := bind_eq_some_iff.mp rest
      obtain ⟨dst, -, rfl⟩ := map_eq_some_iff.mp rest
      rfl
  · cases accepted

theorem plainForm_iff {pre : ArchPrefixes} {ops : List U8} (noTail : modrmTail ops = none)
    (noXor : ops ≠ [0x83, 0x70, 0x0c, 0x01]) :
    PlainForm e pre ops ↔ (ops = [0x88, 0x44, 0xd1, 0x0c] ∨ ops = [0x0f, 0x7f, 0x04, 0xc8] →
        pre.addressSize e.mode ≠ 2) ∧
      ∀ sib, ops = [0x0f, 0x11, 0x04, sib] → pre.addressSize e.mode ≠ 2 ∧ modrmRm sib ≠ 5 := by
  constructor
  · intro plain
    exact ⟨plain.scaled, plain.based⟩
  · rintro ⟨scaled, based⟩
    refine ⟨fun tail isTail => ?_, fun pattern => absurd pattern noXor, scaled, based⟩
    rw [noTail] at isTail
    cases isTail

section

variable (same : SamePrefixes e.mode inst p rest)

include same

theorem decoded_offset (ops : rest = opcode :: tail) (known : opcode = 0xa1 ∨ opcode = 0xa3)
    (accepted : movOffset e p opcode tail = some r) :
    DecodedRight e inst r ↔ PlainForm e (archPrefixes e.mode inst) rest := by
  have total := same.length
  unfold movOffset at accepted
  split at accepted
  · rename_i checked
    obtain ⟨dst, -, rfl⟩ := map_eq_some_iff.mp accepted
    have form : archForm (getOperandSize e.mode p) (getAddressSize e.mode p) rest =
        some (1, false, getAddressSize e.mode p) := by
      rw [ops]
      rcases known with rfl | rfl <;> rfl
    have right : DecodedRight e inst ⟨regOperand e 0 (getOperandSize e.mode p), some dst,
        some (leWord tail), e.rflags⟩ := by
      unfold DecodedRight
      rw [archDecode_eq same, form, map_some]
      refine ⟨_, rfl, ?_, ?_⟩
      · rw [ops, List.length_cons] at total
        simp only [Bool.false_eq_true, if_false]
        omega
      · intro ea address
        simp only [Bool.false_eq_true, if_false, ops, List.drop_succ_cons, List.drop_zero]
        rw [← checked.2.2, List.take_length]
        exact address
    refine iff_of_true right ?_
    rw [ops]
    rcases known with rfl | rfl
    iterate 2 exact (plainForm_iff rfl (by simp)).mpr ⟨by simp, by simp⟩
  · cases accepted

theorem decoded_xor (ops : rest = 0x83 :: tail) (accepted : xorPattern e tail = some r) :
    DecodedRight e inst r ↔ PlainForm e (archPrefixes e.mode inst) rest := by
  have total := same.length
  unfold xorPattern at accepted
  split at accepted
  · rename_i pattern
    obtain ⟨value, -, rfl⟩ := map_eq_some_iff.mp accepted
    subst pattern ops
    have length : (archModrm e.mode e.regs e.rip (getAddressSize e.mode p) p.rex
        ((archPrefixes e.mode inst).length + 1) 1 [0x70, 0x0c, 0x01]).length = inst.length := by
      rw [← total]
      rcases getAddressSize_cases e.mode p with size | size | size <;> rw [size] <;> rfl
    unfold DecodedRight
    rw [archDecode_eq same, show archForm (getOperandSize e.mode p) (getAddressSize e.mode p)
      [0x83, 0x70, 0x0c, 0x01] = some (1, true, 1) from rfl, map_some]
    simp only [if_true, List.drop_succ_cons, List.drop_zero]
    constructor
    · rintro ⟨a, arch, -, eas⟩
      cases arch
      refine ⟨fun tail isTail => (by cases isTail), fun _ => ?_, by simp, by simp⟩
      rw [same.addressSize, same.rex]
      exact eas _ rfl
    · intro plain
      have address := plain.rax rfl
      rw [same.addressSize, same.rex] at address
      refine ⟨_, rfl, length, fun ea is => ?_⟩
      cases is
      exact address
  · cases accepted

theorem decoded_storeAl (ops : rest = 0x88 :: tail) (accepted : storeAlPattern e tail = some r) :
    DecodedRight e inst r ↔ PlainForm e (archPrefixes e.mode inst) rest := by
  have sizes := getAddressSize_cases e.mode p
  unfold storeAlPattern at accepted
  split at accepted
  · rename_i pattern
    cases accepted
    subst ops
    rw [decoded_pattern same (show archForm (getOperandSize e.mode p) (getAddressSize e.mode p)
      (0x88 :: tail) = some (1, true, 0) from rfl) rfl,
      plainForm_iff rfl (by simp), same.addressSize]
    rcases pattern with rfl | rfl | rfl
    all_goals
      rcases sizes with size | size | size <;>
        simp [size, archModrm, archSib, archDisp, modrmMod, modrmRm]
  · cases accepted

omit same in
theorem storeXmm_some {matched : Bool} (accepted : storeXmm e matched = some r) :
    matched = true ∧ r.ea = none := by
  unfold storeXmm at accepted
  split at accepted
  · rename_i yes
    cases accepted
    exact ⟨yes, rfl⟩
  · cases accepted

theorem decoded_xmm (ops : rest = 0x0f :: opcode :: tail)
    (known : opcode = 0x11 ∨ opcode = 0x29 ∨ opcode = 0x7f) (address : r.ea = none) :
    DecodedRight e inst r ↔
      1 + (if archSib (getAddressSize e.mode p) (tail.headD 0) then 1 else 0) +
        archDisp (getAddressSize e.mode p) (tail.headD 0) ((tail.drop 1).headD 0) = tail.length := by
  have form : archForm (getOperandSize e.mode p) (getAddressSize e.mode p) rest = some (2, true, 0) := by
    rw [ops]
    rcases known with rfl | rfl | rfl <;> rfl
  rw [decoded_pattern same form address, ops]
  simp only [archModrm, List.drop_succ_cons, List.drop_zero, List.length_cons]
  omega

omit same in
theorem xmm_whole {size : Nat} (sizes : size = 2 ∨ size = 4 ∨ size = 8)
    (whole : tail = [0x00] ∨ tail = [0x01] ∨ tail.length = 2 ∧ tail.head? = some 0x41) :
    1 + (if archSib size (tail.headD 0) then 1 else 0) +
      archDisp size (tail.headD 0) ((tail.drop 1).headD 0) = tail.length := by
  rcases whole with rfl | rfl | ⟨two, head⟩
  · rcases sizes with rfl | rfl | rfl <;> rfl
  · rcases sizes with rfl | rfl | rfl <;> rfl
  · obtain ⟨modrm, disp, rfl⟩ := List.length_eq_two.mp two
    cases head
    rcases sizes with rfl | rfl | rfl <;> simp [archSib, archDisp, modrmMod, modrmRm]

theorem decoded_two (ops : rest = 0x0f :: tail) (accepted : parseOpcodeTwo0f e p tail = some r) :
    DecodedRight e inst r ↔ PlainForm e (archPrefixes e.mode inst) rest := by
  have sizes := getAddressSize_cases e.mode p
  cases tail with
  | nil => cases accepted
  | cons opcode tail =>
    unfold parseOpcodeTwo0f at accepted
    dsimp only at accepted
    split at accepted
    · rename_i is
      obtain ⟨pattern, address⟩ := storeXmm_some accepted
      rw [decoded_xmm same ops (Or.inl is) address, ops, is,
        plainForm_iff rfl (by simp), same.addressSize]
      simp only [Bool.or_eq_true, Bool.and_eq_true, beq_iff_eq] at pattern
      rcases pattern with (rfl | ⟨two, head⟩) | rfl
      · exact iff_of_true (xmm_whole sizes (by simp)) (by simp)
      · obtain ⟨modrm, sib, rfl⟩ := List.length_eq_two.mp two
        cases head
        rcases sizes with size | size | size <;>
          simp [size, archSib, archDisp, modrmMod, modrmRm]
      · exact iff_of_true (xmm_whole sizes (by simp)) (by simp)
    · split at accepted
      · rename_i is
        obtain ⟨pattern, address⟩ := storeXmm_some accepted
        rw [decoded_xmm same ops (Or.inr (Or.inl is)) address, ops, is,
          plainForm_iff rfl (by simp), same.addressSize]
        simp only [Bool.or_eq_true, Bool.and_eq_true, beq_iff_eq] at pattern
        exact iff_of_true (xmm_whole sizes (.inr pattern)) (by simp)
      · split at accepted
        · rename_i is
          obtain ⟨pattern, address⟩ := storeXmm_some accepted
          rw [decoded_xmm same ops (Or.inr (Or.inr is)) address, ops, is,
            plainForm_iff rfl (by simp), same.addressSize]
          simp only [Bool.or_eq_true, beq_iff_eq] at pattern
          rcases pattern with rfl | rfl
          · rcases sizes with size | size | size <;>
              simp [size, archSib, archDisp, modrmMod, modrmRm]
          · exact iff_of_true (xmm_whole sizes (by simp)) (by simp)
        · split at accepted
          · rename_i is
            obtain ⟨post, operand, parsed, address⟩ := bitTest_parsed accepted
            subst ops is
            have length : (0x0f :: 0xba :: tail).length = 2 + tail.length := by
              rw [List.length_cons, List.length_cons]
              omega
            exact decoded_modrm same rfl rfl rfl length parsed address
          · cases accepted

omit same in
theorem length_cons_one (opcode : U8) (tail : List U8) :
    (opcode :: tail).length = 1 + tail.length := by
  rw [List.length_cons, Nat.add_comm]

theorem decoded_one (parsed : parseOpcodeOne e p rest = some r) :
    DecodedRight e inst r ↔ PlainForm e (archPrefixes e.mode inst) rest := by
  cases rest with
  | nil => cases parsed
  | cons opcode tail =>
    unfold parseOpcodeOne at parsed
    dsimp only at parsed
    split at parsed
    · rename_i is
      exact decoded_two same (by rw [is]) parsed
    · split at parsed
      · rename_i is
        exact decoded_xor same (by rw [is]) parsed
      · split at parsed
        · rename_i is
          exact decoded_storeAl same (by rw [is]) parsed
        · split at parsed
          · rename_i is
            obtain ⟨post, operand, place, found, -, rfl⟩ := movStore_some parsed
            subst is
            exact decoded_modrm same rfl rfl rfl (length_cons_one _ _) found rfl
          · split at parsed
            · rename_i is
              obtain ⟨post, operand, place, found, -, rfl⟩ := movLoad_some parsed
              subst is
              exact decoded_modrm same rfl rfl rfl (length_cons_one _ _) found rfl
            · split at parsed
              · rename_i is
                have odd : opcode = 0xa1 ∨ opcode = 0xa3 := by
                  unfold movOffset at parsed
                  split at parsed
                  · rename_i checked
                    rcases is with rfl | rfl | rfl | rfl
                    · exact absurd checked.2.1 (by decide)
                    · exact Or.inl rfl
                    · exact absurd checked.2.1 (by decide)
                    · exact Or.inr rfl
                  · cases parsed
                exact decoded_offset same rfl odd parsed
              · split at parsed
                · rename_i is
                  obtain ⟨post, operand, place, found, -, rfl⟩ := movImmediate_some parsed
                  subst is
                  exact decoded_modrm same rfl rfl rfl (length_cons_one _ _) found rfl
                · cases parsed

end

end

/-- An accepted instruction is decoded as by the processor exactly if it is of a plain form. -/
theorem emulator_decodes_iff (e : EmuState) (inst : List U8) (r : Emulated)
    (accepted : emulateInstruction e inst = some r) :
    DecodedRight e inst r ↔
      PlainForm e (archPrefixes e.mode inst) (inst.drop (archPrefixes e.mode inst).length) := by
  obtain ⟨⟨p, rest⟩, prefixes, parsed⟩ := Option.bind_eq_some_iff.mp accepted
  have same := parsePrefix_spec prefixes
  rw [same.dropped]
  exact decoded_one same parsed

def longEmu : EmuState where
  tables :=
    let vmcs : Vmcs := fun _ => 0#_
    { unpagedTables with
      vmcs := (vmcs.vmwrite .guestCSAccessRights 0x2000).vmwrite .guestRIP 0x1000 }
  regs := fun _ => 0
  ram := fun _ => 0
  xmm0 := []

theorem longEmu_store : ∃ r, emulateInstruction longEmu [0x89, 0x08] = some r :=
  Option.isSome_iff_exists.mp (by decide +kernel)

theorem emulator_decodes_store : ∃ r, emulateInstruction longEmu [0x89, 0x08] = some r ∧
    (DecodedRight longEmu [0x89, 0x08] r ↔ PlainForm longEmu (archPrefixes longEmu.mode [0x89, 0x08])
      ([0x89, 0x08].drop (archPrefixes longEmu.mode [0x89, 0x08]).length)) := by
  obtain ⟨r, result⟩ := longEmu_store
  exact ⟨r, result, emulator_decodes_iff longEmu [0x89, 0x08] r result⟩

/-- `mov [eip + 0x10], ecx` is decoded as `mov [0x10], ecx`. -/
theorem emulator_drops_eip :
    let inst := [0x67, 0x89, 0x0d, 0x10, 0x00, 0x00, 0x00]
    (emulateInstruction longEmu inst).map Emulated.ea = some (some 0x10) ∧
      (archDecode longEmu.mode longEmu.regs longEmu.rip inst).map ArchInst.ea =
        some (some 0x1017) := by
  decide +kernel

end Xmhf
