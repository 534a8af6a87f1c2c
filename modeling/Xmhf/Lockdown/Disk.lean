import Mathlib.Tactic.IntervalCases
import Xmhf.Bitfield
import Xmhf.Lib.Machine

/-!
# Hyper-partitioning

Lockdown gives its two environments different parts of one disk (`hyperpart-disk.c`). It
intercepts the guest's writes to the registers of the ATA controller, keeps the last bytes
written to them, and at a DMA command checks the address that it has put together from these
bytes, or for a 28-bit command read back from the disk. A command out of bounds is redirected
to the null sector.

The disk latches the last two bytes written to each address register and takes the address
from there. A register reads as the byte written last.
-/

namespace Xmhf

variable {sector : Nat} {t : Transfer}

/-! ## The disk -/

structure AtaRegister where
  previous : U8
  last : U8
  deriving DecidableEq

def AtaRegister.latch (reg : AtaRegister) (value : U8) : AtaRegister := ⟨reg.last, value⟩

structure AtaDisk where
  sectorCount : AtaRegister
  lbaLow : AtaRegister
  lbaMid : AtaRegister
  lbaHigh : AtaRegister
  driveSelect : U8
  deriving DecidableEq

inductive AtaPort where
  | sectorCount
  | lbaLow
  | lbaMid
  | lbaHigh
  | driveSelect
  | command
  | other
  deriving DecidableEq

def CMD_READ_DMA : U8 := 0xc8
def CMD_WRITE_DMA : U8 := 0xca
def CMD_READ_DMA_EXT : U8 := 0x25
def CMD_WRITE_DMA_EXT : U8 := 0x35

/-- `LBA48_TO_CPU64` of the bytes below bit 48. -/
def lba48ToCpu64 (bits47To40 bits39To32 bits31To24 bits23To16 bits15To8 bits7To0 : U8) : U64 :=
  bits47To40.setWidth 64 <<< 40 ||| bits39To32.setWidth 64 <<< 32 |||
    bits31To24.setWidth 64 <<< 24 ||| bits23To16.setWidth 64 <<< 16 |||
    bits15To8.setWidth 64 <<< 8 ||| bits7To0.setWidth 64

def lba28ToCpu32 (bits27To24 bits23To16 bits15To8 bits7To0 : U8) : U32 :=
  bits27To24.setWidth 32 <<< 24 ||| bits23To16.setWidth 32 <<< 16 |||
    bits15To8.setWidth 32 <<< 8 ||| bits7To0.setWidth 32

namespace AtaDisk

def master (disk : AtaDisk) : Bool := disk.driveSelect &&& 0x10 = 0

def out (disk : AtaDisk) (port : AtaPort) (value : U8) : AtaDisk :=
  match port with
  | .sectorCount => { disk with sectorCount := disk.sectorCount.latch value }
  | .lbaLow => { disk with lbaLow := disk.lbaLow.latch value }
  | .lbaMid => { disk with lbaMid := disk.lbaMid.latch value }
  | .lbaHigh => { disk with lbaHigh := disk.lbaHigh.latch value }
  | .driveSelect => { disk with driveSelect := value }
  | .command | .other => disk

def lba48 (disk : AtaDisk) : U64 :=
  lba48ToCpu64 disk.lbaHigh.previous disk.lbaMid.previous disk.lbaLow.previous disk.lbaHigh.last
    disk.lbaMid.last disk.lbaLow.last

/-- The number of sectors of a 48-bit command; zero stands for 65536. -/
def count48 (disk : AtaDisk) : Nat :=
  let count := disk.sectorCount.previous.toNat * 256 + disk.sectorCount.last.toNat
  if count = 0 then 65536 else count

def lba28 (disk : AtaDisk) : U32 :=
  lba28ToCpu32 (disk.driveSelect &&& 0x0f) disk.lbaHigh.last disk.lbaMid.last disk.lbaLow.last

def count28 (disk : AtaDisk) : Nat :=
  if disk.sectorCount.last = 0 then 256 else disk.sectorCount.last.toNat

end AtaDisk

structure Transfer where
  lba : Nat
  count : Nat
  deriving DecidableEq

def Transfer.Covers (t : Transfer) (sector : Nat) : Prop :=
  t.lba ≤ sector ∧ sector < t.lba + t.count

def AtaDisk.execute (disk : AtaDisk) (command : U8) : Option Transfer :=
  if disk.master then
    if command = CMD_READ_DMA_EXT ∨ command = CMD_WRITE_DMA_EXT then
      some ⟨disk.lba48.toNat, disk.count48⟩
    else if command = CMD_READ_DMA ∨ command = CMD_WRITE_DMA then
      some ⟨disk.lba28.toNat, disk.count28⟩
    else none
  else none

/-! ## Lockdown -/

inductive LdnEnvironment where
  | trusted
  | untrusted
  deriving DecidableEq

structure LdnConfig where
  /-- `LDN_ENV_TRUSTED_STARTSECTOR` and `LDN_ENV_TRUSTED_ENDSECTOR` -/
  startSector : Nat
  endSector : Nat
  /-- `LDN_NULL_SECTOR` -/
  nullSector : U64
  /-- `LDN_ALLOWED_SECTORS` -/
  allowedSectors : List U32
  /-- The areas besides the trusted partition in `LDN_OUTOFBOUNDS_CHECK`. -/
  bootArea : Nat → Bool
  /-- `currentenvironment` -/
  environment : LdnEnvironment

variable (cfg : LdnConfig)

def LdnConfig.inTrustedPartition (lba : Nat) : Bool :=
  cfg.startSector ≤ lba && lba ≤ cfg.endSector

def checkIfLbaOutofbounds (lbaaddr : U64) : Bool :=
  if lbaaddr.setWidth 32 ∈ cfg.allowedSectors then false
  else
    match cfg.environment with
    | .trusted => !(cfg.inTrustedPartition lbaaddr.toNat || cfg.bootArea lbaaddr.toNat)
    | .untrusted => cfg.inTrustedPartition lbaaddr.toNat

/-- The bytes written to a register since the last command, and their number: for instance
`ata_lbalow_buf` and `ata_lbalow_index`. -/
structure AtaHistory where
  buf0 : U8
  buf1 : U8
  index : U32
  deriving DecidableEq

namespace AtaHistory

def empty : AtaHistory := ⟨0, 0, 0⟩

def record (h : AtaHistory) (value : U8) : AtaHistory :=
  if h.index > 1 then ⟨h.buf1, value, h.index + 1⟩
  else if h.index = 0 then ⟨value, h.buf1, h.index + 1⟩
  else ⟨h.buf0, value, h.index + 1⟩

end AtaHistory

structure LdnState where
  disk : AtaDisk
  sectorCount : AtaHistory
  lbaLow : AtaHistory
  lbaMid : AtaHistory
  lbaHigh : AtaHistory
  transfers : List Transfer
  deriving DecidableEq

namespace LdnState

def forget (s : LdnState) : LdnState :=
  { s with sectorCount := .empty, lbaLow := .empty, lbaMid := .empty, lbaHigh := .empty }

def lba48 (s : LdnState) : U64 :=
  lba48ToCpu64 s.lbaHigh.buf0 s.lbaMid.buf0 s.lbaLow.buf0 s.lbaHigh.buf1 s.lbaMid.buf1 s.lbaLow.buf1

/-- Byte `i` of an address, as in `CPU64_TO_LBA48` and `CPU32_TO_LBA28`. -/
def lbaByte (value : U64) (i : Nat) : U8 := (value >>> (8 * i)).setWidth 8

/-- The registers are sent again, with the null sector as the address of a 48-bit command. -/
def redirect48 (s : LdnState) : AtaDisk :=
  let byte := lbaByte cfg.nullSector
  ((((((((s.disk.out .sectorCount s.sectorCount.buf0).out .lbaLow (byte 3)).out .lbaMid
    (byte 4)).out .lbaHigh (byte 5)).out .sectorCount s.sectorCount.buf1).out .lbaLow
    (byte 0)).out .lbaMid (byte 1)).out .lbaHigh (byte 2))

/-- The same for a 28-bit command, with the count read from the disk. -/
def redirect28 (s : LdnState) : AtaDisk :=
  let byte := lbaByte cfg.nullSector
  ((((s.disk.out .driveSelect (s.disk.driveSelect &&& 0xf0 ||| (byte 3 &&& 0x0f))).out .sectorCount
    s.disk.sectorCount.last).out .lbaHigh (byte 2)).out .lbaMid (byte 1)).out .lbaLow (byte 0)

/-- `hp` for a byte written to the command register of the first drive. -/
def command (s : LdnState) (command : U8) : LdnState :=
  if command = CMD_READ_DMA_EXT ∨ command = CMD_WRITE_DMA_EXT then
    if checkIfLbaOutofbounds cfg s.lba48 then { s with disk := s.redirect48 cfg }.forget
    else s.forget
  else if command = CMD_READ_DMA ∨ command = CMD_WRITE_DMA then
    if checkIfLbaOutofbounds cfg (s.disk.lba28.setWidth 64) then
      { s with disk := s.redirect28 cfg }.forget
    else s.forget
  else s.forget

/-- `hp` for a write of a byte, on which the access to the port always follows. -/
def hp (s : LdnState) (port : AtaPort) (value : U8) : LdnState :=
  -- "slave, so simply chain"
  if s.disk.master = false then s
  else
    match port with
    | .sectorCount => { s with sectorCount := s.sectorCount.record value }
    | .lbaLow => { s with lbaLow := s.lbaLow.record value }
    | .lbaMid => { s with lbaMid := s.lbaMid.record value }
    | .lbaHigh => { s with lbaHigh := s.lbaHigh.record value }
    | .command => s.command cfg value
    | .driveSelect | .other => s

def intercepted : AtaPort → Bool
  | .driveSelect | .other => false
  | _ => true

end LdnState

/-- A write of the guest; a write to an intercepted port that is not of a byte halts. -/
structure LdnOp where
  port : AtaPort
  byte : Bool
  value : U8

def ldnStep (s : LdnState) (op : LdnOp) : Option LdnState :=
  if LdnState.intercepted op.port && !op.byte then none
  else
    let s := if LdnState.intercepted op.port then s.hp cfg op.port op.value else s
    let disk := s.disk.out op.port op.value
    match op.port with
    | .command => some { s with disk, transfers := (disk.execute op.value).toList ++ s.transfers }
    | _ => some { s with disk }

/-- Lockdown starts with empty buffers, and a disk in any state. -/
def ldnMachine : Machine LdnState LdnOp where
  init s := s.sectorCount = .empty ∧ s.lbaLow = .empty ∧ s.lbaMid = .empty ∧ s.lbaHigh = .empty ∧
    s.transfers = []
  step := ldnStep cfg

def LdnConfig.MayAccess (sector : Nat) : Prop :=
  match cfg.environment with
  | .trusted => cfg.inTrustedPartition sector = true ∨ cfg.bootArea sector = true ∨
      ∃ allowed ∈ cfg.allowedSectors, allowed.toNat = sector
  | .untrusted => cfg.inTrustedPartition sector = false

/-- Every transfer stays within what the environment may access. -/
def LdnState.Confined (s : LdnState) : Prop :=
  ∀ t ∈ s.transfers, ∀ sector, t.Covers sector → cfg.MayAccess sector

/-! ## When commands are confined -/

/-- The check gives one answer for all sectors of the transfer, and they have 32-bit numbers. -/
def LdnConfig.Uniform (t : Transfer) : Prop :=
  ∀ sector, t.Covers sector → sector < 2 ^ 32 ∧ checkIfLbaOutofbounds cfg (BitVec.ofNat 64 sector) =
      checkIfLbaOutofbounds cfg (BitVec.ofNat 64 t.lba)

/-- The environment may access the sectors from the one on that a command is redirected to. -/
def LdnConfig.NullOk (nullSector count : Nat) : Prop :=
  ∀ sector, (⟨nullSector, count⟩ : Transfer).Covers sector → cfg.MayAccess sector

/-- The sectors that are always allowed do not open the trusted partition. -/
def LdnConfig.AllowedOutside : Prop :=
  cfg.environment = .untrusted →
    ∀ allowed ∈ cfg.allowedSectors, cfg.inTrustedPartition allowed.toNat = false

/-- At least two bytes have been recorded of each address register. -/
def LdnState.Recorded (s : LdnState) : Prop :=
  1 < s.lbaLow.index ∧ 1 < s.lbaMid.index ∧ 1 < s.lbaHigh.index

/-- The address registers are written while the first drive is selected. A DMA command is of
sectors for which the check gives one answer; a 48-bit command comes after two bytes for each
address register; and where a command is redirected, the environment may access the sectors
from the null sector on, of whose number a 28-bit command has only 28 bits. -/
def LdnOk (s : LdnState) (op : LdnOp) : Prop :=
  match op.port with
  | .lbaLow | .lbaMid | .lbaHigh => s.disk.master = true
  | .command => s.disk.master = true → cfg.AllowedOutside ∧
      (op.value = CMD_READ_DMA_EXT ∨ op.value = CMD_WRITE_DMA_EXT →
        s.Recorded ∧ cfg.Uniform ⟨s.disk.lba48.toNat, s.disk.count48⟩ ∧
          (checkIfLbaOutofbounds cfg s.disk.lba48 = true →
            cfg.NullOk (cfg.nullSector.toNat % 2 ^ 48) 65536)) ∧
      (op.value = CMD_READ_DMA ∨ op.value = CMD_WRITE_DMA →
        cfg.Uniform ⟨s.disk.lba28.toNat, s.disk.count28⟩ ∧
          (checkIfLbaOutofbounds cfg (s.disk.lba28.setWidth 64) = true →
            cfg.NullOk (cfg.nullSector.toNat % 2 ^ 28) 256))
  | _ => True

/-! ## The buffers follow the registers -/

/-- The buffer holds the bytes of the register, as far as it has recorded any. -/
structure AtaHistory.Tracks (h : AtaHistory) (reg : AtaRegister) : Prop where
  one : h.index = 1 → h.buf0 = reg.last
  more : 1 < h.index → h.buf0 = reg.previous ∧ h.buf1 = reg.last

theorem AtaHistory.tracks_empty (reg : AtaRegister) : AtaHistory.empty.Tracks reg :=
  ⟨nofun, nofun⟩

theorem AtaHistory.Tracks.record {h : AtaHistory} {reg : AtaRegister} (tracks : h.Tracks reg)
    (value : U8) : (h.record value).Tracks (reg.latch value) := by
  unfold AtaHistory.record
  split
  · next many =>
    obtain ⟨-, last⟩ := tracks.more many
    refine ⟨fun wrapped => ?_, fun _ => ⟨last, rfl⟩⟩
    -- the counter does not come to one by wrapping around
    bv_omega
  · next few =>
    split
    · next zero =>
      refine ⟨fun _ => rfl, fun many => ?_⟩
      bv_omega
    · next nonzero =>
      have one : h.index = 1 := by bv_omega
      refine ⟨fun wrapped => ?_, fun _ => ⟨tracks.one one, rfl⟩⟩
      bv_omega

structure LdnState.Tracked (s : LdnState) : Prop where
  lbaLow : s.lbaLow.Tracks s.disk.lbaLow
  lbaMid : s.lbaMid.Tracks s.disk.lbaMid
  lbaHigh : s.lbaHigh.Tracks s.disk.lbaHigh

theorem LdnState.Tracked.lba48 {s : LdnState} (tracked : s.Tracked) (recorded : s.Recorded) :
    s.lba48 = s.disk.lba48 := by
  obtain ⟨low, mid, high⟩ := recorded
  unfold LdnState.lba48 AtaDisk.lba48
  rw [(tracked.lbaLow.more low).1, (tracked.lbaLow.more low).2, (tracked.lbaMid.more mid).1,
    (tracked.lbaMid.more mid).2, (tracked.lbaHigh.more high).1, (tracked.lbaHigh.more high).2]

/-! ## Addresses -/

theorem setWidth_join {v w : Nat} (value : BitVec v) (k m : Nat) :
    ((value >>> k).setWidth m).setWidth w <<< k ||| (value.setWidth k).setWidth w =
      (value.setWidth (k + m)).setWidth w := by
  refine BitVec.eq_of_getLsbD_eq fun i inside => ?_
  simp only [BitVec.getLsbD_or, BitVec.getLsbD_shiftLeft, BitVec.getLsbD_setWidth,
    BitVec.getLsbD_ushiftRight, inside, decide_true, Bool.true_and]
  by_cases below : i < k
  · have inner : i < k + m := by omega
    simp [below, inner]
  · by_cases inner : i < k + m
    · have position : i - k < m := by omega
      have small : i - k < w := by omega
      have sum : k + (i - k) = i := by omega
      simp [below, inner, position, small, sum]
    · have position : ¬ i - k < m := by omega
      simp [below, inner, position]

namespace LdnState

theorem lba48_of_bytes (value : U64) :
    lba48ToCpu64 (lbaByte value 5) (lbaByte value 4) (lbaByte value 3) (lbaByte value 2)
      (lbaByte value 1) (lbaByte value 0) = (value.setWidth 48).setWidth 64 := by
  have bits8 : (lbaByte value 0).setWidth 64 = (value.setWidth 8).setWidth 64 := rfl
  have bits16 : (lbaByte value 1).setWidth 64 <<< 8 ||| (value.setWidth 8).setWidth 64 =
      (value.setWidth 16).setWidth 64 := setWidth_join value 8 8
  have bits24 : (lbaByte value 2).setWidth 64 <<< 16 ||| (value.setWidth 16).setWidth 64 =
      (value.setWidth 24).setWidth 64 := setWidth_join value 16 8
  have bits32 : (lbaByte value 3).setWidth 64 <<< 24 ||| (value.setWidth 24).setWidth 64 =
      (value.setWidth 32).setWidth 64 := setWidth_join value 24 8
  have bits40 : (lbaByte value 4).setWidth 64 <<< 32 ||| (value.setWidth 32).setWidth 64 =
      (value.setWidth 40).setWidth 64 := setWidth_join value 32 8
  have bits48 : (lbaByte value 5).setWidth 64 <<< 40 ||| (value.setWidth 40).setWidth 64 =
      (value.setWidth 48).setWidth 64 := setWidth_join value 40 8
  unfold lba48ToCpu64
  simp only [BitVec.or_assoc]
  rw [bits8, bits16, bits24, bits32, bits40, bits48]

theorem lba28_of_bytes (value : U64) :
    lba28ToCpu32 (lbaByte value 3 &&& 0x0f) (lbaByte value 2) (lbaByte value 1)
      (lbaByte value 0) = (value.setWidth 28).setWidth 32 := by
  have nibble : ∀ byte : U8, byte &&& 0x0f = (byte.setWidth 4).setWidth 8 := by
    intro byte
    refine BitVec.eq_of_getLsbD_eq fun i inside => ?_
    interval_cases i <;> simp
  have bits8 : (lbaByte value 0).setWidth 32 = (value.setWidth 8).setWidth 32 := rfl
  have bits16 : (lbaByte value 1).setWidth 32 <<< 8 ||| (value.setWidth 8).setWidth 32 =
      (value.setWidth 16).setWidth 32 := setWidth_join value 8 8
  have bits24 : (lbaByte value 2).setWidth 32 <<< 16 ||| (value.setWidth 16).setWidth 32 =
      (value.setWidth 24).setWidth 32 := setWidth_join value 16 8
  have bits28 : ((lbaByte value 3).setWidth 4).setWidth 32 <<< 24 |||
      (value.setWidth 24).setWidth 32 = (value.setWidth 28).setWidth 32 := by
    have low : (lbaByte value 3).setWidth 4 = (value >>> 24).setWidth 4 :=
      BitVec.setWidth_setWidth_of_le _ (by decide)
    rw [low]
    exact setWidth_join value 24 4
  have wide : (((lbaByte value 3).setWidth 4).setWidth 8).setWidth 32 =
      ((lbaByte value 3).setWidth 4).setWidth 32 :=
    BitVec.setWidth_setWidth (by decide)
  unfold lba28ToCpu32
  simp only [BitVec.or_assoc]
  rw [nibble, wide, bits8, bits16, bits24, bits28]

theorem redirect48_lba (s : LdnState) :
    (s.redirect48 cfg).lba48.toNat = cfg.nullSector.toNat % 2 ^ 48 := by
  have null : (s.redirect48 cfg).lba48 = (cfg.nullSector.setWidth 48).setWidth 64 :=
    lba48_of_bytes cfg.nullSector
  rw [null, BitVec.toNat_setWidth_of_le (by decide), BitVec.toNat_setWidth]

theorem redirect28_lba (s : LdnState) :
    (s.redirect28 cfg).lba28.toNat = cfg.nullSector.toNat % 2 ^ 28 := by
  have low : ∀ select byte : U8, (select &&& 0xf0 ||| (byte &&& 0x0f)) &&& 0x0f = byte &&& 0x0f := by
    intro select byte
    refine BitVec.eq_of_getLsbD_eq fun i inside => ?_
    interval_cases i <;> simp
  have null : (s.redirect28 cfg).lba28 = (cfg.nullSector.setWidth 28).setWidth 32 := by
    rw [← lba28_of_bytes, ← low s.disk.driveSelect]
    rfl
  rw [null, BitVec.toNat_setWidth_of_le (by decide), BitVec.toNat_setWidth]

theorem redirect_master (s : LdnState) :
    (s.redirect48 cfg).master = s.disk.master ∧ (s.redirect28 cfg).master = s.disk.master := by
  have bit : ∀ select byte : U8,
      (select &&& 0xf0 ||| (byte &&& 0x0f)) &&& 0x10 = select &&& 0x10 := by
    intro select byte
    refine BitVec.eq_of_getLsbD_eq fun i inside => ?_
    interval_cases i <;> simp
  refine ⟨rfl, ?_⟩
  unfold AtaDisk.master
  rw [← bit s.disk.driveSelect (lbaByte cfg.nullSector 3)]
  rfl

end LdnState

/-! ## Runs -/

variable {cfg} {s s' : LdnState}

theorem LdnConfig.mayAccess_of_inbounds (outside : cfg.AllowedOutside) (small : sector < 2 ^ 32)
    (inbounds : checkIfLbaOutofbounds cfg (BitVec.ofNat 64 sector) = false) :
    cfg.MayAccess sector := by
  have number : (BitVec.ofNat 64 sector).toNat = sector := by
    rw [BitVec.toNat_ofNat]
    omega
  have number32 : ((BitVec.ofNat 64 sector).setWidth 32).toNat = sector := by
    rw [BitVec.toNat_setWidth, number]
    omega
  unfold checkIfLbaOutofbounds at inbounds
  unfold LdnConfig.MayAccess
  generalize environment : cfg.environment = result at inbounds
  cases result with
  | trusted =>
    split at inbounds
    · next allowed => exact .inr (.inr ⟨_, allowed, number32⟩)
    · rw [number, Bool.not_eq_false', Bool.or_eq_true] at inbounds
      exact inbounds.imp_right .inl
  | untrusted =>
    split at inbounds
    · next allowed =>
      rw [← number32]
      exact outside environment _ allowed
    · rwa [number] at inbounds

theorem LdnConfig.Uniform.confined (uniform : cfg.Uniform t) (outside : cfg.AllowedOutside)
    (first : checkIfLbaOutofbounds cfg (BitVec.ofNat 64 t.lba) = false) (covered : t.Covers sector) :
    cfg.MayAccess sector := by
  obtain ⟨small, same⟩ := uniform sector covered
  exact cfg.mayAccess_of_inbounds outside small (same.trans first)

theorem LdnConfig.NullOk.confined {null count : Nat} (ok : cfg.NullOk null count)
    (lba : t.lba = null) (small : t.count ≤ count) (covered : t.Covers sector) :
    cfg.MayAccess sector := by
  obtain ⟨above, below⟩ := covered
  exact ok sector ⟨lba ▸ above, by dsimp only; omega⟩

theorem AtaDisk.count48_le (disk : AtaDisk) : disk.count48 ≤ 65536 := by
  have previous := disk.sectorCount.previous.isLt
  have last := disk.sectorCount.last.isLt
  unfold AtaDisk.count48
  dsimp only
  split <;> omega

theorem AtaDisk.count28_le (disk : AtaDisk) : disk.count28 ≤ 256 := by
  have last := disk.sectorCount.last.isLt
  unfold AtaDisk.count28
  split <;> omega

theorem LdnState.Tracked.command (tracked : s.Tracked) (master : s.disk.master = true) {value : U8}
    (ok : LdnOk cfg s ⟨.command, true, value⟩)
    (transfer : (s.command cfg value).disk.execute value = some t) (covered : t.Covers sector) :
    cfg.MayAccess sector := by
  obtain ⟨outside, ext, dma⟩ := ok master
  obtain ⟨master48, master28⟩ := LdnState.redirect_master cfg s
  unfold LdnState.command at transfer
  split at transfer
  · next isExt =>
    obtain ⟨recorded, uniform, null⟩ := ext isExt
    rw [tracked.lba48 recorded] at transfer
    split at transfer
    · next outofbounds =>
      have executed : (s.redirect48 cfg).execute value = some t := transfer
      rw [AtaDisk.execute, if_pos (master48.trans master), if_pos isExt] at executed
      cases executed
      exact (null outofbounds).confined (LdnState.redirect48_lba cfg s) (AtaDisk.count48_le _)
        covered
    · next inbounds =>
      have executed : s.disk.execute value = some t := transfer
      rw [AtaDisk.execute, if_pos master, if_pos isExt] at executed
      cases executed
      refine uniform.confined outside ?_ covered
      rw [BitVec.ofNat_toNat, BitVec.setWidth_eq]
      exact Bool.eq_false_iff.mpr inbounds
  · next notExt =>
    split at transfer
    · next isDma =>
      obtain ⟨uniform, null⟩ := dma isDma
      split at transfer
      · next outofbounds =>
        have executed : (s.redirect28 cfg).execute value = some t := transfer
        rw [AtaDisk.execute, if_pos (master28.trans master), if_neg notExt,
          if_pos isDma] at executed
        cases executed
        exact (null outofbounds).confined (LdnState.redirect28_lba cfg s) (AtaDisk.count28_le _)
          covered
      · next inbounds =>
        have executed : s.disk.execute value = some t := transfer
        rw [AtaDisk.execute, if_pos master, if_neg notExt, if_pos isDma] at executed
        cases executed
        refine uniform.confined outside ?_ covered
        rw [BitVec.ofNat_toNat]
        exact Bool.eq_false_iff.mpr inbounds
    · next notDma =>
      have executed : s.disk.execute value = some t := transfer
      rw [AtaDisk.execute, if_pos master, if_neg notExt, if_neg notDma] at executed
      cases executed

theorem LdnState.command_forgets (cfg : LdnConfig) (s : LdnState) (value : U8) :
    (s.command cfg value).lbaLow = .empty ∧ (s.command cfg value).lbaMid = .empty ∧
      (s.command cfg value).lbaHigh = .empty ∧
      (s.command cfg value).transfers = s.transfers := by
  unfold LdnState.command
  split
  · split <;> exact ⟨rfl, rfl, rfl, rfl⟩
  · split
    · split <;> exact ⟨rfl, rfl, rfl, rfl⟩
    · exact ⟨rfl, rfl, rfl, rfl⟩

theorem ldnStep_intercepted {port : AtaPort} {byte : Bool} {value : U8}
    (step : ldnStep cfg s ⟨port, byte, value⟩ = some s')
    (intercepts : LdnState.intercepted port = true) (other : port ≠ .command) :
    s' = { s.hp cfg port value with disk := (s.hp cfg port value).disk.out port value } := by
  unfold ldnStep at step
  dsimp only at step
  rw [intercepts, if_pos rfl] at step
  obtain ⟨-, step⟩ := Option.ite_none_left_eq_some.mp step
  split at step
  · exact absurd rfl other
  · cases step
    rfl

theorem LdnState.Tracked.step (tracked : s.Tracked) (confined : s.Confined cfg) {op : LdnOp}
    (ok : LdnOk cfg s op) (step : ldnStep cfg s op = some s') :
    s'.Tracked ∧ s'.Confined cfg := by
  obtain ⟨port, byte, value⟩ := op
  cases port with
  | sectorCount =>
    rw [ldnStep_intercepted step rfl nofun]
    unfold LdnState.hp
    split
    iterate 2 exact ⟨⟨tracked.lbaLow, tracked.lbaMid, tracked.lbaHigh⟩, confined⟩
  | lbaLow | lbaMid | lbaHigh =>
    have master : s.disk.master = true := ok
    rw [ldnStep_intercepted step rfl nofun, LdnState.hp, if_neg (by simp [master])]
    first
      | exact ⟨⟨tracked.lbaLow.record value, tracked.lbaMid, tracked.lbaHigh⟩, confined⟩
      | exact ⟨⟨tracked.lbaLow, tracked.lbaMid.record value, tracked.lbaHigh⟩, confined⟩
      | exact ⟨⟨tracked.lbaLow, tracked.lbaMid, tracked.lbaHigh.record value⟩, confined⟩
  | driveSelect | other =>
    cases step
    exact ⟨⟨tracked.lbaLow, tracked.lbaMid, tracked.lbaHigh⟩, confined⟩
  | command =>
    cases byte with
    | false => cases step
    | true =>
      have result : s' = { s.hp cfg .command value with
          transfers := ((s.hp cfg .command value).disk.execute value).toList ++
            (s.hp cfg .command value).transfers } := (Option.some.inj step).symm
      cases master : s.disk.master with
      | false =>
        rw [LdnState.hp, if_pos master] at result
        have idle : s.disk.execute value = none := by
          rw [AtaDisk.execute, if_neg (by simp [master])]
        rw [idle] at result
        rw [result]
        exact ⟨⟨tracked.lbaLow, tracked.lbaMid, tracked.lbaHigh⟩, confined⟩
      | true =>
        rw [LdnState.hp, if_neg (by simp [master])] at result
        obtain ⟨low, mid, high, transfers⟩ := s.command_forgets cfg value
        rw [result]
        refine ⟨⟨?_, ?_, ?_⟩, fun t member sector covered => ?_⟩
        · exact low ▸ AtaHistory.tracks_empty _
        · exact mid ▸ AtaHistory.tracks_empty _
        · exact high ▸ AtaHistory.tracks_empty _
        · rcases List.mem_append.mp member with new | old
          · exact tracked.command master ok (Option.mem_toList.mp new) covered
          · exact confined t (transfers ▸ old) sector covered

/-- A write to a register of the disk other than the one that selects the drive. -/
def LdnOp.Parameter (op : LdnOp) : Prop :=
  op.port = .sectorCount ∨ op.port = .lbaLow ∨ op.port = .lbaMid ∨ op.port = .lbaHigh

theorem LdnOp.Parameter.step {op : LdnOp} (parameter : op.Parameter)
    (master : s.disk.master = true) (step : ldnStep cfg s op = some s') :
    LdnOk cfg s op ∧ s'.disk.master = true := by
  obtain ⟨port, byte, value⟩ := op
  have selected : ¬ s.disk.master = false := ne_false_of_eq_true master
  rcases parameter with named | named | named | named
  all_goals
    cases named
    have after := ldnStep_intercepted step rfl nofun
    unfold LdnState.hp at after
    rw [if_neg selected] at after
    subst after
  · exact ⟨trivial, master⟩
  iterate 3 exact ⟨master, master⟩

def sampleLdnConfig : LdnConfig where
  startSector := 1000
  endSector := 1999
  nullSector := 0x100000
  allowedSectors := [0]
  bootArea sector := sector < 63
  environment := .untrusted

def sampleLdnState : LdnState where
  disk := ⟨⟨0, 0⟩, ⟨0, 0⟩, ⟨0, 0⟩, ⟨0, 0⟩, 0xe0⟩
  sectorCount := .empty
  lbaLow := .empty
  lbaMid := .empty
  lbaHigh := .empty
  transfers := []

theorem sampleLdnState_init {cfg : LdnConfig} : (ldnMachine cfg).init sampleLdnState :=
  ⟨rfl, rfl, rfl, rfl, rfl⟩

def sampleAddress (lba : U16) : List LdnOp :=
  [⟨.lbaLow, true, 0⟩, ⟨.lbaMid, true, 0⟩, ⟨.lbaHigh, true, 0⟩,
    ⟨.lbaLow, true, lba.setWidth 8⟩, ⟨.lbaMid, true, (lba >>> 8).setWidth 8⟩,
    ⟨.lbaHigh, true, 0⟩]

/-- A read of eight sectors, of either environment, at an address where it is in bounds. -/
theorem sampleRead_reached {environment : LdnEnvironment} {lba : U16}
    (sample : environment = .untrusted ∧ lba = 500 ∨ environment = .trusted ∧ lba = 1500) :
    ∃ s, (ldnMachine { sampleLdnConfig with environment }).ReachableUnder
      (LdnOk { sampleLdnConfig with environment }) s ∧ s.transfers = [⟨lba.toNat, 8⟩] := by
  have addressed : ∃ mid, (ldnMachine { sampleLdnConfig with environment }).run sampleLdnState
      (⟨.sectorCount, true, 8⟩ :: sampleAddress lba) = some mid ∧ mid.Recorded ∧
      mid.disk.lba48 = lba.setWidth 64 ∧ mid.disk.count48 = 8 ∧ mid.disk.master = true ∧
      ((ldnMachine { sampleLdnConfig with environment }).step mid
        ⟨.command, true, CMD_READ_DMA_EXT⟩).map LdnState.transfers = some [⟨lba.toNat, 8⟩] := by
    rcases sample with ⟨rfl, rfl⟩ | ⟨rfl, rfl⟩ <;>
      exact ⟨_, rfl, by unfold LdnState.Recorded; decide, by decide, by decide, by decide,
        by decide +kernel⟩
  obtain ⟨mid, run, recorded, address, count, master, read⟩ := addressed
  have parameters : ∀ op ∈ (⟨.sectorCount, true, 8⟩ :: sampleAddress lba : List LdnOp),
      op.Parameter := by
    unfold sampleAddress
    simp [LdnOp.Parameter]
  have reached := (Machine.run_invariant (P := fun s => s.disk.master = true ∧
    (ldnMachine { sampleLdnConfig with environment }).ReachableUnder (LdnOk _) s)
      (fun s op s' kept parameter step => by
        obtain ⟨ok, stays⟩ := parameter.step kept.1 step
        exact ⟨stays, kept.2.step ok step⟩) parameters ⟨rfl, .init sampleLdnState_init⟩ run).2
  have inbounds : ∀ sector, (⟨lba.toNat, 8⟩ : Transfer).Covers sector →
      checkIfLbaOutofbounds { sampleLdnConfig with environment } (BitVec.ofNat 64 sector) = false := by
    rintro sector ⟨above, below⟩
    rcases sample with ⟨rfl, rfl⟩ | ⟨rfl, rfl⟩
    · change 500 ≤ sector at above
      change sector < 508 at below
      interval_cases sector <;> rfl
    · change 1500 ≤ sector at above
      change sector < 1508 at below
      interval_cases sector <;> rfl
  have first := inbounds lba.toNat ⟨le_rfl, by simp⟩
  have ok : LdnOk { sampleLdnConfig with environment } mid ⟨.command, true, CMD_READ_DMA_EXT⟩ := by
    refine fun _ => ⟨fun _ allowed member => ?_, fun _ => ⟨recorded, fun sector covered => ?_, ?_⟩,
      fun dma => ?_⟩
    · cases List.mem_singleton.mp member
      rfl
    · rw [address, count, BitVec.toNat_setWidth_of_le (by decide)] at covered ⊢
      have small := lba.isLt
      have below := covered.2
      dsimp only at below
      exact ⟨by omega, (inbounds sector covered).trans first.symm⟩
    · rw [address, ← BitVec.ofNat_toNat, first]
      rintro ⟨⟩
    · rcases dma with ⟨⟨⟩⟩ | ⟨⟨⟩⟩
  obtain ⟨s, step, transfers⟩ := Option.map_eq_some_iff.mp read
  exact ⟨s, reached.step ok step, transfers⟩

end Xmhf
