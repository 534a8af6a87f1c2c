import Xmhf.Bitfield

/-!
# Startup IPIs

How XMHF starts the guest's application processors: a startup IPI that the guest
writes to an interrupt command register is not sent but noted in the destination's
`VCPU` (`smpg-x86vmx.c`, without `__EXTRA_AP_INIT_COUNT__`). `none` is a halted CPU.
-/

namespace Xmhf

/-- An entry of `g_midtable` with the fields of the `VCPU` it points to. -/
structure SmpVcpu where
  cpuLapicId : U32
  id : U32
  isbsp : Bool
  sipireceived : Bool
  sipivector : U8
  deriving DecidableEq

/-- `processSIPIcpu`: a second startup IPI is ignored. -/
def processSIPIcpu (icrLowValue : U32) (dest : SmpVcpu) : SmpVcpu :=
  if dest.sipireceived then dest
  else { dest with sipivector := icrLowValue.setWidth 8, sipireceived := true }

def haveAllCoresRecievedSIPI (midtable : List SmpVcpu) : Bool :=
  midtable.all fun vcpu => vcpu.isbsp || vcpu.sipireceived

/-- The loops of `processSIPI`: the IPI goes to the first entry with the LAPIC id, or to all
processors but the sender. A destination that does not exist halts, and so does a
shorthand that includes the sender. -/
def passSIPI (midtable : List SmpVcpu) (vcpuId icrLowValue destLapicId : U32) :
    Option (List SmpVcpu) :=
  if icrLowValue &&& 0xc0000 = 0 then
    (midtable.findIdx? fun vcpu => vcpu.cpuLapicId = destLapicId).bind fun i =>
      if midtable[i]?.map (·.id) = some destLapicId then
        some (midtable.modify i (processSIPIcpu icrLowValue))
      else none
  else if icrLowValue &&& 0xc0000 = 0xc0000 then
    some (midtable.map fun vcpu =>
      if vcpu.id = vcpuId then vcpu else processSIPIcpu icrLowValue vcpu)
  else none

/-- `processSIPI`, which answers whether all cores have received one. -/
def processSIPI (midtable : List SmpVcpu) (vcpuId icrLowValue destLapicId : U32) :
    Option (Bool × List SmpVcpu) :=
  (passSIPI midtable vcpuId icrLowValue destLapicId).map fun midtable =>
    (haveAllCoresRecievedSIPI midtable, midtable)

end Xmhf
