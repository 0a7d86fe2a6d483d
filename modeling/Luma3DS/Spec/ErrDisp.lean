import Luma3DS.Spec.ErrFormat

/-! The `err:f` service thread: `ERRF_HandleCommands`, which answers one request
in place in the thread's command buffer, and the loop of `errDispThreadMain`
around `svcReplyAndReceive`, together with the kernel's side of the one session
the loop may hold. -/

namespace Luma

/-- What `ERRF_HandleCommands` reads and writes; `staticBuf` is static buffer 0 and `shown` the
errors put on screen with their banners. -/
structure ErrfState where
  cmdbuf : Nat → U32
  userString : Nat → U8
  staticBuf : Nat → U8
  shown : List (List U8 × FatalErrInfo)

def cmdbufByte (cmdbuf : Nat → U32) (off : Nat) : U8 := (wordBytes (cmdbuf (off / 4))).getD (off % 4) 0

def errfGetErrInfo (cmdbuf : Nat → U32) : FatalErrInfo :=
  ⟨(List.range 0x80).map fun off => cmdbufByte cmdbuf (4 + off), by simp⟩

def errorOccurredText : List U8 := "An error occurred (bruh)".toList.map fun c => BitVec.ofNat 8 c.toNat

/-- The banner `ERRF_DisplayError` draws: `userString`, or a fixed text when it is empty. -/
def banner (userString : Nat → U8) : List U8 :=
  if userString 0 = 0 then errorOccurredText else cString ((List.range 0x101).map userString)

def errfDisplayError (s : ErrfState) (info : FatalErrInfo) : ErrfState :=
  { s with shown := s.shown ++ [(banner s.userString, info)] }

def reply (cmdbuf : Nat → U32) (hdr res : U32) : Nat → U32 :=
  Function.update (Function.update cmdbuf 0 hdr) 1 res

def commandId (hdr : U32) : Nat := (hdr >>> 16).toNat

/-- `ERRF_HandleCommands()`; `menuShouldExit` is the global the Throw branch tests. -/
def errfHandleCommands (menuShouldExit : Bool) (s : ErrfState) : ErrfState :=
  let cmdbuf := s.cmdbuf
  match commandId (cmdbuf 0) with
  | 1 =>
    let info := errfGetErrInfo cmdbuf
    let s := if !menuShouldExit ∧ (info.type ≠ errTypeLogged ∨ info.procId = 0) then
      errfDisplayError s info else s
    { s with cmdbuf := reply cmdbuf (ipcMakeHeader 1 1 0) 0 }
  | 2 =>
    if cmdbuf 0 ≠ ipcMakeHeader 2 1 2 ∨ (cmdbuf 2 &&& 0x3C0F) ≠ 2 then
      { s with cmdbuf := reply cmdbuf (ipcMakeHeader 0 1 0) 0xD9001830 }
    else
      let sz := if cmdbuf 1 ≤ 0x100 then cmdbuf 1 else 0x100
      { s with
        userString := fun i =>
          if i < sz.toNat then cmdbufByte cmdbuf (3 * 4 + i)
          else if i = sz.toNat then 0 else s.userString i
        cmdbuf := reply cmdbuf (ipcMakeHeader 2 1 0) 0 }
  | _ => s

/-- The loop's locals; `held` are the handles the thread has open, `pending` that `sessionHandle`
has an unanswered request. -/
structure ErrDispState where
  errf : ErrfState
  sessionHandle : Handle
  replyTarget : U32
  held : List Handle
  pending : Bool

/-- How `svcReplyAndReceive` returns; a request comes with its words in `cmdbuf` and the bytes the
kernel copied into static buffer 0. -/
inductive Wakeup where
  | preTermination
  | connection (session : Handle)
  | acceptFailed (res : Result)
  | request (cmdbuf : Nat → U32) (staticData : List U8) (menuShouldExit : Bool)
  | failure (res : Result)

inductive LoopStep where
  | next (s : ErrDispState)
  | exit
  | panic

def sessionClosedByRemote : Result := 0xC920181A

/-- The kernel's delivery of a request: its translated words in `cmdbuf`, and
the bytes of its static-buffer parameter in `staticBuf`. -/
def deliverRequest (errf : ErrfState) (cmdbuf : Nat → U32) (staticData : List U8) : ErrfState :=
  { errf with cmdbuf, staticBuf := fun i => staticData.getD i (errf.staticBuf i) }

/-- `svcReplyAndReceive` replies to a non-zero `replyTarget`; with 0 the loop sets `cmdbuf[0] =
0xFFFF0000` and nothing is sent. -/
def replyAndReceive (s : ErrDispState) : ErrDispState :=
  if s.replyTarget = 0 then
    { s with errf := { s.errf with cmdbuf := Function.update s.errf.cmdbuf 0 0xFFFF0000 } }
  else { s with pending := false }

def errDispStep (s : ErrDispState) (w : Wakeup) : LoopStep :=
  let s := replyAndReceive s
  match w with
  | .failure res =>
    if res = sessionClosedByRemote then
      .next { s with
        held := s.held.erase s.sessionHandle
        sessionHandle := 0
        replyTarget := 0
        pending := false }
    else .panic
  | .preTermination => .exit
  | .connection session =>
    if s.sessionHandle = 0 then .next { s with sessionHandle := session, held := session :: s.held }
    else .next s
  | .acceptFailed _ => .panic
  | .request cmdbuf staticData menuShouldExit =>
    .next { s with
      errf := errfHandleCommands menuShouldExit (deliverRequest s.errf cmdbuf staticData)
      replyTarget := s.sessionHandle
      pending := true }

/-- What the kernel can return: a request only on the held session with nothing outstanding and at
most `0x100` static bytes, a fresh session handle, a remote close of a session in use. -/
def KernelAllows (s : ErrDispState) : Wakeup → Prop
  | .preTermination => True
  | .connection session => session ≠ 0 ∧ session ∉ s.held
  | .acceptFailed _ => True
  | .request _ staticData _ =>
    s.sessionHandle ≠ 0 ∧ (replyAndReceive s).pending = false ∧ staticData.length ≤ 0x100
  | .failure res => res = sessionClosedByRemote → s.sessionHandle ≠ 0 ∨ s.replyTarget ≠ 0

def errDispInit (errf : ErrfState) : ErrDispState :=
  { errf, sessionHandle := 0, replyTarget := 0, held := [], pending := false }

/-- The states at the head of the loop over any run of kernel wakeups. -/
inductive ErrDispReachable : ErrDispState → Prop
  | init (errf : ErrfState) : ErrDispReachable (errDispInit errf)
  | step {s s' : ErrDispState} {w : Wakeup} :
      ErrDispReachable s → KernelAllows s w → errDispStep s w = .next s' → ErrDispReachable s'

def errDispRun (s : ErrDispState) : List Wakeup → LoopStep
  | [] => .next s
  | w :: ws =>
    match errDispStep s w with
    | .next s' => errDispRun s' ws
    | r => r

end Luma
