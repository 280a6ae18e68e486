import WncFirmware.Foundation.Bytes
import WncFirmware.Foundation.PointerLists
import WncFirmware.Foundation.Runs
import WncFirmware.Kernel.Ipc

/-!
# Message queues

`rt_mq_*` of `ipc.c`.  The messages of a queue lie in one pool, each behind a
header with a link.  A call holds the interrupts off twice, around its work on
the links; the message itself is copied in between with the interrupts on.
Here a step of a caller is one such section, or one byte of a copy, and the
steps of different callers follow each other in any order.
-/

namespace WncFirmware.Kernel

open WncFirmware.Foundation

def sizeofMqMessage : Nat := 4

/--
`struct rt_messagequeue`.  A message is named by the place of its header in
`msg_pool`; `next` are the links of the headers, `pool` the bytes.
-/
structure MessageQueue (Thread : Type) where
  msgSize : UInt16
  maxMsgs : UInt16
  entry : UInt16
  msgQueueHead : Option Nat
  msgQueueTail : Option Nat
  msgQueueFree : Option Nat
  next : Nat → Option Nat
  pool : Nat → UInt8
  flag : RtIpcFlag
  suspendThread : List Thread

variable {Thread : Type}

/-! ## Setting up -/

def rtAlign (size align : UInt32) : UInt32 := (size + align - 1) &&& ~~~(align - 1)

namespace MessageQueue

def place (mq : MessageQueue Thread) (temp : Nat) : Nat :=
  temp * (mq.msgSize.toNat + sizeofMqMessage)

/-- The empty list, as its loop makes it from the first `count` messages. -/
def fillFree (mq : MessageQueue Thread) : Nat → MessageQueue Thread
  | 0 => { mq with msgQueueFree := none }
  | temp + 1 =>
      let mq := mq.fillFree temp
      let head := mq.place temp
      { mq with
        next := Function.update mq.next head mq.msgQueueFree
        msgQueueFree := some head }

/-- The queue before the loop; its memory holds something. -/
def cleared (next : Nat → Option Nat) (pool : Nat → UInt8)
    (msgSize maxMsgs : UInt16) (flag : RtIpcFlag) : MessageQueue Thread where
  msgSize := msgSize
  maxMsgs := maxMsgs
  entry := 0
  msgQueueHead := none
  msgQueueTail := none
  msgQueueFree := none
  next := next
  pool := pool
  flag := flag
  suspendThread := []

/-- What `rt_mq_init` and `rt_mq_create` have in common. -/
def setUp (next : Nat → Option Nat) (pool : Nat → UInt8)
    (msgSize maxMsgs : UInt16) (flag : RtIpcFlag) : MessageQueue Thread :=
  (cleared next pool msgSize maxMsgs flag).fillFree maxMsgs.toNat

end MessageQueue

/-- `RT_ALIGN_SIZE` is a parameter: it is set by the configuration. -/
def rtMqInit (rtAlignSize : UInt32) (next : Nat → Option Nat)
    (pool : Nat → UInt8) (msgSize poolSize : UInt32) (flag : RtIpcFlag) :
    MessageQueue Thread :=
  let size := (rtAlign msgSize rtAlignSize).toUInt16
  .setUp next pool size
    (poolSize.toNat / (size.toNat + sizeofMqMessage)).toUInt16 flag

/-- The pool was allocated. -/
def rtMqCreate (rtAlignSize : UInt32) (next : Nat → Option Nat)
    (pool : Nat → UInt8) (msgSize maxMsgs : UInt32) (flag : RtIpcFlag) :
    MessageQueue Thread :=
  .setUp next pool (rtAlign msgSize rtAlignSize).toUInt16 maxMsgs.toUInt16 flag

/-! ## The sections with the interrupts off -/

namespace MessageQueue

/-- The first section of `rt_mq_send` and of `rt_mq_urgent`. -/
def getFree (mq : MessageQueue Thread) : Option (Nat × MessageQueue Thread) :=
  match mq.msgQueueFree with
  | none => none
  | some msg => some (msg, { mq with msgQueueFree := mq.next msg })

/-- The second section of `rt_mq_send`, up to `mq->entry ++`. -/
def linkTail (mq : MessageQueue Thread) (msg : Nat) : MessageQueue Thread :=
  let mq := match mq.msgQueueTail with
    | none => mq
    | some tail =>
        { mq with next := Function.update mq.next tail (some msg) }
  { mq with
    msgQueueTail := some msg
    msgQueueHead := match mq.msgQueueHead with
      | none => some msg
      | some head => some head
    entry := mq.entry + 1 }

/-- The second section of `rt_mq_urgent`, up to `mq->entry ++`. -/
def linkHead (mq : MessageQueue Thread) (msg : Nat) : MessageQueue Thread :=
  { mq with
    next := Function.update mq.next msg mq.msgQueueHead
    msgQueueHead := some msg
    msgQueueTail := match mq.msgQueueTail with
      | none => some msg
      | some tail => some tail
    entry := mq.entry + 1 }

/-- The end of the first section of `rt_mq_recv`: a message is there. -/
def getHead (mq : MessageQueue Thread) : Option (Nat × MessageQueue Thread) :=
  match mq.msgQueueHead with
  | none => none
  | some msg =>
      some (msg, { mq with
        msgQueueHead := mq.next msg
        msgQueueTail :=
          if mq.msgQueueTail = some msg then none else mq.msgQueueTail
        entry := mq.entry - 1 })

def putFree (mq : MessageQueue Thread) (msg : Nat) : MessageQueue Thread :=
  { mq with
    next := Function.update mq.next msg mq.msgQueueFree
    msgQueueFree := some msg }

/-- The loop of `rt_mq_control` over the messages, for at most `fuel` turns. -/
def releaseAll : Nat → MessageQueue Thread → MessageQueue Thread
  | 0, mq => mq
  | fuel + 1, mq =>
      match mq.msgQueueHead with
      | none => mq
      | some msg =>
          releaseAll fuel
            (putFree { mq with
              msgQueueHead := mq.next msg
              msgQueueTail :=
                if mq.msgQueueTail = some msg then none else mq.msgQueueTail }
              msg)

end MessageQueue

/-! ## The callers -/

/-- Where a thread, or an interrupt, is in its call. -/
inductive Caller where
  /-- not in a call, with what the last one returned -/
  | returned (result : RtErr) (received : Bytes)
  /-- `rt_mq_send` before `msg->next = RT_NULL` -/
  | clearing (msg : Nat) (buffer : Bytes)
  /-- in the copy of `rt_mq_send` or `rt_mq_urgent` -/
  | filling (urgent : Bool) (msg : Nat) (buffer : Bytes) (copied : Nat)
  /-- in the waiting list, since the tick `since` -/
  | suspended (size : Nat) (timeout : Int32) (since : UInt32)
  /-- out of the waiting list again -/
  | resumed (size : Nat) (timeout : Int32) (since : UInt32)
  /-- in the copy of `rt_mq_recv` -/
  | reading (msg : Nat) (size : Nat) (received : Bytes)
  deriving DecidableEq, Repr

structure MqSystem (Thread : Type) where
  mq : MessageQueue Thread
  caller : Thread → Caller

variable [DecidableEq Thread]

namespace MqSystem

def goOn (system : MqSystem Thread) (thread : Thread) (caller : Caller) :
    MqSystem Thread :=
  { system with caller := Function.update system.caller thread caller }

/-- The end of the second section: the first thread that waits is resumed. -/
def resumeFirst (system : MqSystem Thread) : MqSystem Thread :=
  match system.mq.suspendThread with
  | [] => system
  | thread :: rest =>
      let system := { system with mq := { system.mq with suspendThread := rest } }
      match system.caller thread with
      | .suspended size timeout since =>
          system.goOn thread (.resumed size timeout since)
      | _ => system

/-- `rt_ipc_list_resume_all`: the calls return `-RT_ERROR`. -/
def resumeAll (system : MqSystem Thread) : MqSystem Thread where
  mq := { system.mq with suspendThread := [] }
  caller thread :=
    if thread ∈ system.mq.suspendThread then .returned .error []
    else system.caller thread

def startSend (system : MqSystem Thread) (thread : Thread) (urgent : Bool)
    (buffer : Bytes) : MqSystem Thread :=
  if system.mq.msgSize.toNat < buffer.length then
    system.goOn thread (.returned .error [])
  else
    match system.mq.getFree with
    | none => system.goOn thread (.returned .efull [])
    | some (msg, mq) =>
        { system with mq := mq }.goOn thread
          (if urgent then .filling true msg buffer 0 else .clearing msg buffer)

/-- One turn of the loop of `rt_mq_recv`, with the interrupts off. -/
def recvTurn (currentPriority : Thread → UInt8) (system : MqSystem Thread)
    (thread : Thread) (size : Nat) (timeout : Int32) (now : UInt32) :
    Option (MqSystem Thread) :=
  if system.mq.entry = 0 then
    if timeout = 0 then
      some (system.goOn thread (.returned .etimeout []))
    else
      some ({ system with mq := { system.mq with
          suspendThread := rtIpcListSuspend currentPriority
            system.mq.suspendThread thread system.mq.flag } }.goOn thread
        (.suspended size timeout now))
  else
    match system.mq.getHead with
    | none => none
    | some (msg, mq) =>
        some ({ system with mq := mq }.goOn thread (.reading msg size []))

def remaining (timeout : Int32) (since now : UInt32) : Int32 :=
  if 0 < timeout then
    let timeout := timeout - (now - since).toInt32
    if timeout < 0 then 0 else timeout
  else timeout

end MqSystem

inductive MqStep (Thread : Type) where
  | send (thread : Thread) (buffer : Bytes)
  | urgent (thread : Thread) (buffer : Bytes)
  | clear (thread : Thread)
  | copyIn (thread : Thread)
  | link (thread : Thread)
  | recv (thread : Thread) (size : Nat) (timeout : Int32) (now : UInt32)
  | again (thread : Thread) (now : UInt32)
  | copyOut (thread : Thread)
  | putBack (thread : Thread)
  | expire (thread : Thread)
  | reset

namespace MqSystem

/--
One step, or nothing where the code cannot take it: another step is due for
the caller, an assertion fails, or a null pointer is followed.
-/
def step (currentPriority : Thread → UInt8) (system : MqSystem Thread) :
    MqStep Thread → Option (MqSystem Thread)
  | .send thread buffer =>
      match system.caller thread with
      | .returned _ _ =>
          if buffer = [] then none
          else some (system.startSend thread false buffer)
      | _ => none
  | .urgent thread buffer =>
      match system.caller thread with
      | .returned _ _ =>
          if buffer = [] then none
          else some (system.startSend thread true buffer)
      | _ => none
  | .clear thread =>
      match system.caller thread with
      | .clearing msg buffer =>
          some ({ system with mq := { system.mq with
              next := Function.update system.mq.next msg none } }.goOn thread
            (.filling false msg buffer 0))
      | _ => none
  | .copyIn thread =>
      match system.caller thread with
      | .filling urgent msg buffer copied =>
          match buffer[copied]? with
          | none => none
          | some byte =>
              some ({ system with mq := { system.mq with
                  pool := Function.update system.mq.pool
                    (msg + sizeofMqMessage + copied) byte } }.goOn thread
                (.filling urgent msg buffer (copied + 1)))
      | _ => none
  | .link thread =>
      match system.caller thread with
      | .filling urgent msg buffer copied =>
          if copied < buffer.length then none
          else
            let mq :=
              if urgent then system.mq.linkHead msg else system.mq.linkTail msg
            some (({ system with mq := mq }.goOn thread
              (.returned .eok [])).resumeFirst)
      | _ => none
  | .recv thread size timeout now =>
      match system.caller thread with
      | .returned _ _ =>
          if size = 0 then none
          else system.recvTurn currentPriority thread size timeout now
      | _ => none
  | .again thread now =>
      match system.caller thread with
      | .resumed size timeout since =>
          system.recvTurn currentPriority thread size
            (remaining timeout since now) now
      | _ => none
  | .copyOut thread =>
      match system.caller thread with
      | .reading msg size received =>
          if received.length < min size system.mq.msgSize.toNat then
            some (system.goOn thread (.reading msg size (received ++
              [system.mq.pool (msg + sizeofMqMessage + received.length)])))
          else none
      | _ => none
  | .putBack thread =>
      match system.caller thread with
      | .reading msg size received =>
          if received.length < min size system.mq.msgSize.toNat then none
          else
            some ({ system with mq := system.mq.putFree msg }.goOn thread
              (.returned .eok received))
      | _ => none
  | .expire thread =>
      match system.caller thread with
      | .suspended _ timeout _ =>
          if 0 < timeout then
            some ({ system with mq := { system.mq with
                suspendThread := system.mq.suspendThread.erase thread } }.goOn
              thread (.returned .etimeout []))
          else none
      | _ => none
  | .reset =>
      let system := system.resumeAll
      some { system with mq := { system.mq.releaseAll system.mq.maxMsgs.toNat with
        entry := 0 } }

end MqSystem

end WncFirmware.Kernel
