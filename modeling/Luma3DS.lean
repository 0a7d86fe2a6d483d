import Luma3DS.Spec.Basic
import Luma3DS.Spec.ErrFormat
import Luma3DS.Spec.ErrDisp
import Luma3DS.Proofs.FormatBound
import Luma3DS.Proofs.ErrfCommands
import Luma3DS.Proofs.ErrDispSession
import Luma3DS.Proofs.ErrDispRun
import Luma3DS.Spec.Svc
import Luma3DS.Proofs.SvcDispatch
import Luma3DS.Proofs.ExitProcess
import Luma3DS.Proofs.SvcReturn
import Luma3DS.Spec.Unmap
import Luma3DS.Proofs.Unmap
import Luma3DS.Spec.MenuDraw
import Luma3DS.Proofs.DrawBuffers
import Luma3DS.Spec.Menu
import Luma3DS.Proofs.MenuRefCount
import Luma3DS.Proofs.MenuShow
import Luma3DS.Proofs.MenuCursor
import Luma3DS.Spec.Services
import Luma3DS.Spec.Ntp
import Luma3DS.Proofs.NtpTime
import Luma3DS.Proofs.ServiceSessions
import Luma3DS.Spec.Input
import Luma3DS.Proofs.WaitCombo
import Luma3DS.Proofs.WaitInput
import Luma3DS.Spec.MenuSession
import Luma3DS.Proofs.MenuSession
import Luma3DS.Proofs.MenuDrawCursor
