import WncFirmware.Kernel.MutexEffects
import WncFirmware.Lora.Packets
import WncFirmware.Sysctrl.SoftDogs

/-!
# The threads at the radio

`thread_lora_send` and `thread_lora_recv` share the concentrator and lock it
with `mutex_lora`.  A step takes one thread from one of its points to the next.
-/

namespace WncFirmware.Lora

open WncFirmware.Foundation WncFirmware.Kernel WncFirmware.Sysctrl

/-! ## Data rates -/

def loraGetDatarate (dr : UInt8) : UInt8 :=
  if dr = 0x02 then 7
  else if dr = 0x04 then 8
  else if dr = 0x08 then 9
  else if dr = 0x10 then 10
  else 0

def loraSetDatarate (dr : UInt8) : UInt8 :=
  if dr = 7 then 0x02
  else if dr = 8 then 0x04
  else if dr = 9 then 0x08
  else if dr = 10 then 0x10
  else 0

/-! ## Packets of the concentrator -/

/-- `struct lgw_pkt_rx_s`, with the signal values already cut to integers. -/
structure RxPkt where
  freqHz : UInt32
  status : UInt8
  datarate : UInt32
  rssi : Int16
  snr : Int8
  size : UInt16
  payload : Bytes
  deriving DecidableEq, Repr

/-- `struct lgw_pkt_tx_s` as far as it is not left at zero. -/
structure TxPkt where
  freqHz : UInt32
  rfPower : UInt8
  modulation : UInt8 := 0x10
  bandwidth : UInt8 := 0x03
  coderate : UInt8 := 0x01
  preamble : UInt16 := 8
  datarate : UInt32
  size : UInt16
  payload : Bytes
  deriving DecidableEq, Repr

/-- The message for the data process thread; only packets with a correct CRC
and twelve bytes are passed on. -/
def acceptPkt (p : RxPkt) : Option LoraPkt :=
  if p.status = 0x10 ∧ p.size = 12 then
    some
      { freqHz := p.freqHz
        rssi := p.rssi
        snr := p.snr
        datarate := loraGetDatarate p.datarate.toUInt8
        len := p.size.toUInt8
        payload := slice p.payload 0 p.size.toUInt8.toNat }
  else none

def txPkt (basePowr : UInt8) (pkt : LoraPkt) : TxPkt where
  freqHz := pkt.freqHz
  rfPower := basePowr
  datarate := (loraSetDatarate pkt.datarate).toUInt32
  size := pkt.len.toUInt16
  payload := slice pkt.payload 0 pkt.len.toNat

/-- `lora_send_test`: the text is copied in before the packet is cleared. -/
def testPkt (basePowr : UInt8) : TxPkt where
  freqHz := 471100000
  rfPower := basePowr
  datarate := 0x04
  size := 12
  payload := List.replicate 12 0

/-! ## The threads -/

inductive LoraThread where
  | send
  | recv
  deriving DecidableEq, Repr

inductive LoraSendMsg where
  | data (pkt : LoraPkt)
  | test
  | feedDog
  | other
  deriving DecidableEq, Repr

/-- Where `thread_lora_send` is.  In `taken` and `testTaken` it has called
`rt_mutex_take` and goes on when the call returns. -/
inductive SendAt where
  | waiting
  | taking (pkt : LoraPkt)
  | taken (pkt : LoraPkt)
  | releasing
  | polling
  | testTaking
  | testTaken
  | testStopping
  | testReleasing
  | feeding
  deriving DecidableEq, Repr

/-- Where `thread_lora_recv` is; `received` is the answer of `lgw_receive`. -/
inductive RecvAt where
  | feeding
  | taking
  | taken
  | releasing (received : Option (List RxPkt))
  | handling (pkts : List RxPkt)
  deriving DecidableEq, Repr

structure Radio where
  mutexLora : MutexSystem LoraThread Unit
  /-- how often each thread is inside the mutex -/
  depth : Depth LoraThread Unit
  mqLoraSend : List LoraSendMsg
  sendAt : SendAt
  recvAt : RecvAt
  inTest : Bool
  /-- register `LGW_TX_MODE` -/
  txMode : Bool
  /-- packets given to `lgw_send` -/
  sent : List TxPkt
  /-- messages given to `rt_mq_send` for the data process thread -/
  passed : List LoraPkt

/-- Another thread posts a message, or one of the two goes on.  `free` is the
answer of `lgw_status`, `received` the one of `lgw_receive`, where asked for. -/
inductive RadioStep where
  | post (msg : LoraSendMsg)
  | send (free : Bool)
  | recv (received : Option (List RxPkt))
  deriving DecidableEq, Repr

namespace Radio

def start (priority : LoraThread → UInt8) : Radio where
  mutexLora := .start (fun _ => .prio) priority
  depth := fun _ _ => 0
  mqLoraSend := []
  sendAt := .waiting
  recvAt := .feeding
  inTest := false
  txMode := false
  sent := []
  passed := []

def callMutex (radio : Radio) (call : MutexStep LoraThread Unit) :
    Option Radio :=
  (countedStep (radio.mutexLora, radio.depth) call).map fun reached =>
    { radio with
      mutexLora := reached.1
      depth := reached.2 }

/-- `rt_mutex_take(&mutex_lora, RT_WAITING_FOREVER)` is called. -/
def take (radio : Radio) (thread : LoraThread) : Option Radio :=
  radio.callMutex (.take thread () rtWaitingForever)

def release (radio : Radio) (thread : LoraThread) : Option Radio :=
  radio.callMutex (.release thread ())

def runs (radio : Radio) (thread : LoraThread) : Bool :=
  match radio.mutexLora.caller thread with
  | .running _ => true
  | .waiting _ _ => false

/-- `rt_mq_send(mq_lora_send, ..)` loses the message when ten are waiting. -/
def post (radio : Radio) (msg : LoraSendMsg) : Radio :=
  if radio.mqLoraSend.length < 10 then
    { radio with mqLoraSend := radio.mqLoraSend ++ [msg] }
  else radio

def handle (radio : Radio) : LoraSendMsg → Radio
  | .data pkt => { radio with sendAt := .taking pkt }
  | .test =>
      let inTest := !radio.inTest
      { radio with
        inTest := inTest
        sendAt := if inTest then .testTaking else .testStopping }
  | .feedDog => { radio with sendAt := .feeding }
  | .other => radio

def stepSend (basePowr : UInt8) (radio : Radio) (free : Bool) : Option Radio :=
  match radio.sendAt with
  | .waiting =>
      match radio.mqLoraSend with
      | [] => none
      | msg :: rest => some (({ radio with mqLoraSend := rest }).handle msg)
  | .taking pkt =>
      (radio.take .send).map fun radio => { radio with sendAt := .taken pkt }
  | .taken pkt =>
      if radio.runs .send then
        some { radio with
          sent := radio.sent ++ [txPkt basePowr pkt]
          sendAt := .releasing }
      else none
  | .releasing =>
      (radio.release .send).map fun radio => { radio with sendAt := .polling }
  | .polling =>
      some (if free then { radio with sendAt := .waiting } else radio)
  | .testTaking =>
      (radio.take .send).map fun radio => { radio with sendAt := .testTaken }
  | .testTaken =>
      if radio.runs .send then
        some { radio with
          txMode := true
          sent := radio.sent ++ [testPkt basePowr]
          sendAt := .waiting }
      else none
  | .testStopping =>
      some { radio with
        txMode := false
        sendAt := .testReleasing }
  | .testReleasing =>
      (radio.release .send).map fun radio => { radio with sendAt := .waiting }
  | .feeding => some { radio with sendAt := .waiting }

def stepRecv (radio : Radio) (received : Option (List RxPkt)) : Option Radio :=
  match radio.recvAt with
  | .feeding => some { radio with recvAt := .taking }
  | .taking =>
      (radio.take .recv).map fun radio => { radio with recvAt := .taken }
  | .taken =>
      if radio.runs .recv then some { radio with recvAt := .releasing received }
      else none
  | .releasing received =>
      (radio.release .recv).map fun radio =>
        { radio with recvAt := .handling (received.getD []) }
  | .handling [] => some { radio with recvAt := .feeding }
  | .handling (p :: pkts) =>
      some { radio with
        passed := radio.passed ++ (acceptPkt p).toList
        recvAt := .handling pkts }

def step (basePowr : UInt8) (radio : Radio) : RadioStep → Option Radio
  | .post msg => some (radio.post msg)
  | .send free => radio.stepSend basePowr free
  | .recv received => radio.stepRecv received

def feeds (radio : Radio) : RadioStep → Option ThreadsSoftDog
  | .post _ => none
  | .send _ => if radio.sendAt = .feeding then some .loraSendDog else none
  | .recv _ => if radio.recvAt = .feeding then some .loraRecvDog else none

end Radio

end WncFirmware.Lora
