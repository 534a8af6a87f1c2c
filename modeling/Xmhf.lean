import Xmhf.Nested.Interception
import Xmhf.Eventhub.Optimize
import Xmhf.Nested.Answers
import Xmhf.Smpguest.Nmi
import Xmhf.Memprot.Eptlock
import Xmhf.Memprot.MtrrRuns
import Xmhf.LruRuns
import Xmhf.Eventhub.Ucode
import Xmhf.Lockdown.Disk
import Xmhf.Trustvisor.Measure
import Xmhf.Dmaprot.IommuIsolation
import Xmhf.Dmaprot.IommuHandles
import Xmhf.Trustvisor.Quote
import Xmhf.Trustvisor.Switch
import Xmhf.Trustvisor.CallErrors
import Xmhf.Hpt.Effective
import Xmhf.Memprot.Protection
import Xmhf.Memprot.Segment
import Xmhf.Mm.Records
import Xmhf.Eventhub.CrAccess
import Xmhf.Smpguest.Ipi
import Xmhf.Nested.NmiBlocking
import Xmhf.Nested.Redelivery
import Xmhf.Nested.HostState
import Xmhf.Emulation.Move
import Xmhf.Boot.E820
import Xmhf.Stl.Bitmap
