import Xmhf.Emulation.Instruction

/-!
# Moves in the instruction emulator

For the moves that `x86_vmx_emulate_instruction` decodes, the operands that it returns are
those of the instruction, with the operand size and the value of the source. The caller
carries the move out and moves on; the emulator writes neither memory nor registers, flags
or RIP.

Left out are MOV from an offset to rAX (A1), which is taken for the other direction, the
encodings of C7 other than MOV, which pass as MOV, and the bit tests, which test and modify
0 in place of the operand.
-/

namespace Xmhf

/-- The segment of the operand that ModRM gives. -/
def segmentAt (pre : ArchPrefixes) (tail : List U8) : Nat :=
  archSegment pre.seg pre.rex (tail.headD 0) ((tail.drop 1).headD 0)

/-- A place in a register or in memory as ModRM gives it; `a` has the effective address. -/
def AtModrm (e : EmuState) (pre : ArchPrefixes) (tail : List U8) (a : ArchInst) (size : Nat)
    (access : Prot) : OperandType → Prop
  | .reg index =>
    modrmMod (tail.headD 0) = 3 ∧ index = archReg pre.rex 0 (modrmRm (tail.headD 0))
  | .mem seg offset gvaddr => seg = segmentAt pre tail ∧ a.ea = some offset ∧
      guestmemDesegment e.tables.vmcs seg offset size access e.cpl = some gvaddr
  | _ => False

def valueAt (e : EmuState) (size : Nat) : OperandType → Option (List U8)
  | .reg index => some (leBytes size (e.regs index))
  | .mem seg offset _ => e.readMemory seg offset size
  | _ => none

/-- The immediate of an instruction: its last bytes, extended to the operand size. -/
def archImmediate (size : Nat) (tail : List U8) : List U8 :=
  let immediate := tail.drop (tail.length - min size 4)
  if size = 8 then leBytes 8 (signDisp immediate) else immediate

section

variable (e : EmuState) (pre : ArchPrefixes) (size : Nat) (a : ArchInst) (tail : List U8)
  (r : Emulated)

def DstAtModrm : Prop :=
  ∃ dst, r.dst = some dst ∧ dst.operandSize = size ∧
    AtModrm e pre tail a size hptProtWriteMask dst.type

def StoreRight : Prop :=
  r.rflags = e.rflags ∧ r.src = regOperand e (archReg pre.rex 2 (modrmRegop (tail.headD 0))) size ∧
    DstAtModrm e pre size a tail r

def LoadRight : Prop :=
  r.rflags = e.rflags ∧ r.src.operandSize = size ∧
    AtModrm e pre tail a size hptProtsR r.src.type ∧
    valueAt e size r.src.type = some r.src.val ∧
    ∃ dst, r.dst = some dst ∧ dst.operandSize = size ∧
      dst.type = .reg (archReg pre.rex 2 (modrmRegop (tail.headD 0)))

def ImmediateRight : Prop :=
  r.rflags = e.rflags ∧ r.src = ⟨.imm, size, archImmediate size tail⟩ ∧
    DstAtModrm e pre size a tail r

def OffsetRight : Prop :=
  r.rflags = e.rflags ∧ r.src = regOperand e 0 size ∧
    ∃ offset gvaddr, r.dst = some ⟨.mem (pre.seg.getD 3) offset gvaddr, size, []⟩ ∧
      a.ea = some offset ∧
      guestmemDesegment e.tables.vmcs (pre.seg.getD 3) offset size hptProtWriteMask e.cpl = some gvaddr

end

/-- The operands that are returned for a move, against the bytes `ops` from the opcode on. -/
structure MoveRight (e : EmuState) (pre : ArchPrefixes) (ops : List U8) (a : ArchInst)
    (r : Emulated) : Prop where
  store : ∀ tail, ops = 0x89 :: tail → StoreRight e pre (pre.operandSize e.mode) a tail r
  load : ∀ tail, ops = 0x8b :: tail → LoadRight e pre (pre.operandSize e.mode) a tail r
  immediate : ∀ tail, ops = 0xc7 :: tail → modrmRegop (tail.headD 0) = 0 →
    ImmediateRight e pre (pre.operandSize e.mode) a tail r
  offset : ∀ tail, ops = 0xa3 :: tail → OffsetRight e pre (pre.operandSize e.mode) a r

section

variable {e : EmuState} {p : InstPrefix} {inst rest tail : List U8} {post : InstPostfix}
  {operand : ModrmOperand}

theorem parseOperand_plain (same : SamePrefixes e.mode inst p rest) {n immLen : Nat}
    (isTail : modrmTail rest = some tail) (length : rest.length = n + tail.length)
    (plain : PlainForm e (archPrefixes e.mode inst) rest)
    (parsed : parseOperand e p immLen tail = some (post, operand)) :
    post.modrm = tail.headD 0 ∧ post.immediate = tail.drop (tail.length - immLen) ∧
    (∀ index, operand = .reg index →
      modrmMod (tail.headD 0) = 3 ∧
        index = archReg (archPrefixes e.mode inst).rex 0 (modrmRm (tail.headD 0))) ∧
    (∀ seg offset, operand = .mem seg offset → seg = segmentAt (archPrefixes e.mode inst) tail) ∧
    ∀ ea, operand.ea = some ea → (archModrm e.mode e.regs e.rip (getAddressSize e.mode p) p.rex
      ((archPrefixes e.mode inst).length + n) immLen tail).ea = some ea := by
  obtain ⟨-, right⟩ := parseOperand_spec same ((archPrefixes e.mode inst).length + n) parsed
  obtain ⟨post', whole, rest'⟩ := Option.bind_eq_some_iff.mp parsed
  obtain ⟨operand', found, pair⟩ := Option.map_eq_some_iff.mp rest'
  cases pair
  have parts := parseModrm_parts (getAddressSize_cases e.mode p) whole
  refine ⟨parts.modrm, parts.immediate, ?_, ?_, ?_⟩
  · rintro index rfl
    rw [← parts.modrm, same.rex, ← same.rexSame _ _]
    exact evalModrmAddr_reg found
  · rintro seg offset rfl
    rw [evalModrmAddr_segment same.rexSame found, segmentAt, same.seg, same.rex, ← parts.modrm]
    refine archSegment_sib fun rm => parts.sib ?_
    have memory := (evalModrmAddr_mem same.rexSame found).1
    have wide : getAddressSize e.mode p ≠ 2 := by
      intro narrow
      simp [evalModrmAddr, narrow] at found
    rw [parts.modrm] at rm memory
    simp only [archSib, rm, bne_iff_ne.mpr wide, bne_iff_ne.mpr memory, beq_self_eq_true, Bool.and_self]
  · refine right.mpr fun rip long addrsize => ?_
    have zero := plain.eip tail isTail rip long (same.addrsize.trans addrsize)
    rwa [length, ← Nat.add_assoc] at zero

section

variable {pre : ArchPrefixes} {a : ArchInst} {size : Nat}

section

variable
  (registers : ∀ index, operand = .reg index → modrmMod (tail.headD 0) = 3 ∧
    index = archReg pre.rex 0 (modrmRm (tail.headD 0)))
  (segments : ∀ seg offset, operand = .mem seg offset → seg = segmentAt pre tail)
  (addresses : ∀ ea, operand.ea = some ea → a.ea = some ea)

include registers segments addresses

theorem modrmDst_at {dst : Operand} (found : modrmDst e size operand = some dst) :
    dst.operandSize = size ∧ AtModrm e pre tail a size hptProtWriteMask dst.type := by
  cases operand with
  | reg index =>
    cases found
    exact ⟨rfl, registers index rfl⟩
  | mem seg offset =>
    obtain ⟨gvaddr, segment, rfl⟩ := Option.map_eq_some_iff.mp found
    exact ⟨rfl, segments seg offset rfl, addresses offset rfl, segment⟩

theorem modrmSrc_at {src : Operand} (found : modrmSrc e size operand = some src) :
    src.operandSize = size ∧ AtModrm e pre tail a size hptProtsR src.type ∧
      valueAt e size src.type = some src.val := by
  cases operand with
  | reg index =>
    cases found
    exact ⟨rfl, registers index rfl, rfl⟩
  | mem seg offset =>
    obtain ⟨op, place, value⟩ := Option.bind_eq_some_iff.mp found
    obtain ⟨gvaddr, segment, rfl⟩ := Option.map_eq_some_iff.mp place
    obtain ⟨val, read, rfl⟩ := Option.map_eq_some_iff.mp value
    exact ⟨rfl, ⟨segments seg offset rfl, addresses offset rfl, segment⟩, read⟩

end

end

section

variable {r : Emulated} {a : ArchInst}

theorem moveRight_store (same : SamePrefixes e.mode inst p (0x89 :: tail))
    (plain : PlainForm e (archPrefixes e.mode inst) (0x89 :: tail))
    (accepted : movStore e p tail = some r) :
    StoreRight e (archPrefixes e.mode inst) (getOperandSize e.mode p) (archModrm e.mode e.regs e.rip
      (getAddressSize e.mode p) p.rex ((archPrefixes e.mode inst).length + 1) 0 tail) tail r := by
  obtain ⟨post, operand, dst, parsed, place, rfl⟩ := movStore_some accepted
  obtain ⟨modrm, -, registers, segments, addresses⟩ :=
    parseOperand_plain same rfl (length_cons_one _ _) plain parsed
  refine ⟨rfl, ?_, dst, rfl, modrmDst_at registers segments addresses place⟩
  rw [← modrm, same.rex, ← same.rexSame _ _]

theorem moveRight_load (same : SamePrefixes e.mode inst p (0x8b :: tail))
    (plain : PlainForm e (archPrefixes e.mode inst) (0x8b :: tail))
    (accepted : movLoad e p tail = some r) :
    LoadRight e (archPrefixes e.mode inst) (getOperandSize e.mode p) (archModrm e.mode e.regs e.rip
      (getAddressSize e.mode p) p.rex ((archPrefixes e.mode inst).length + 1) 0 tail) tail r := by
  obtain ⟨post, operand, src, parsed, place, rfl⟩ := movLoad_some accepted
  obtain ⟨modrm, -, registers, segments, addresses⟩ :=
    parseOperand_plain same rfl (length_cons_one _ _) plain parsed
  obtain ⟨size, where', value⟩ := modrmSrc_at registers segments addresses place
  refine ⟨rfl, size, where', value, _, rfl, rfl, ?_⟩
  rw [← modrm, same.rex, ← same.rexSame _ _]

theorem moveRight_immediate (same : SamePrefixes e.mode inst p (0xc7 :: tail))
    (plain : PlainForm e (archPrefixes e.mode inst) (0xc7 :: tail))
    (accepted : movImmediate e p tail = some r) :
    ImmediateRight e (archPrefixes e.mode inst) (getOperandSize e.mode p) (archModrm e.mode e.regs e.rip
      (getAddressSize e.mode p) p.rex ((archPrefixes e.mode inst).length + 1)
      (min (getOperandSize e.mode p) 4) tail) tail r := by
  obtain ⟨post, operand, dst, parsed, place, rfl⟩ := movImmediate_some accepted
  obtain ⟨-, immediate, registers, segments, addresses⟩ :=
    parseOperand_plain same rfl (length_cons_one _ _) plain parsed
  refine ⟨rfl, ?_, dst, rfl, modrmDst_at registers segments addresses place⟩
  rw [immediate]
  rfl

end

end

/-- The guest after the call: of its state only RFLAGS is stored. -/
def EmuState.after (e : EmuState) (r : Emulated) : EmuState :=
  { e with tables := { e.tables with vmcs := e.tables.vmcs.vmwrite .guestRFLAGS r.rflags } }

end Xmhf
