import WncFirmware.Udp.Report

/-!
# The UDP report says what is due

The three loops keep the records in the buffer one behind the other, so a reader
of the datagram finds the first 80 nodes that are due, in the order of the
lists.
-/

namespace WncFirmware.Udp

open WncFirmware.Foundation WncFirmware.Lora WncFirmware.Tcp

/-! ## The bytes in the buffer -/

@[simp] theorem buf_countNode (buffer : UdpBuffer) :
    buffer.countNode.buf = buffer.buf := rfl

@[simp] theorem buf_put (buffer : UdpBuffer) (bytes : Bytes) (skip : Nat) :
    (buffer.put bytes skip).buf = buffer.buf + bytes.length + skip := rfl

theorem byteAt_countNode {buffer : UdpBuffer} {position : Nat}
    (h : position ≠ nodeNumOffset) :
    byteAt buffer.countNode.data position = byteAt buffer.data position := by
  simp only [UdpBuffer.countNode, byteAt_putBytes, List.length_singleton]
  rw [if_neg (by omega)]

theorem loraNodeNum_countNode (buffer : UdpBuffer) :
    buffer.countNode.loraNodeNum = buffer.loraNodeNum + 1 := by
  simp [UdpBuffer.countNode, UdpBuffer.loraNodeNum, byteAt_putBytes]

theorem byteAt_put_before {buffer : UdpBuffer} {bytes : Bytes} {skip position : Nat}
    (h : position < buffer.buf) :
    byteAt (buffer.put bytes skip).data position = byteAt buffer.data position :=
  byteAt_putBytes_before _ _ h

theorem byteAt_put_record {buffer : UdpBuffer} (bytes : Bytes)
    (skip offset : Nat)
    (hclear : ∀ position, buffer.buf ≤ position →
      byteAt buffer.data position = 0) :
    byteAt (buffer.put bytes skip).data (buffer.buf + offset) =
      byteAt (bytes ++ List.replicate skip 0) offset := by
  simp only [UdpBuffer.put, byteAt_putBytes, Nat.le_add_right, true_and,
    Nat.add_lt_add_iff_left, Nat.add_sub_cancel_left]
  split
  case isTrue hin => rw [byteAt_append_left _ hin]
  case isFalse hout =>
    obtain ⟨rest, rfl⟩ := Nat.exists_eq_add_of_le (Nat.le_of_not_lt hout)
    rw [byteAt_append_right, hclear _ (Nat.le_add_right _ _)]
    simp only [byteAt, List.getD_eq_getElem?_getD, List.getElem?_replicate]
    split <;> rfl

structure Drafted (position : Nat) (buffer : UdpBuffer) : Prop where
  size : buffer.data.length = sendBufSize
  buf : buffer.buf = position
  clear : ∀ later, buffer.buf ≤ later → byteAt buffer.data later = 0

theorem drafted_start : Drafted 0 ⟨List.replicate sendBufSize 0, 0⟩ where
  size := List.length_replicate
  buf := rfl
  clear := by
    intro later _
    simp only [byteAt, List.getD_eq_getElem?_getD, List.getElem?_replicate]
    split <;> rfl

theorem Drafted.put {position : Nat} {buffer : UdpBuffer}
    (h : Drafted position buffer) (bytes : Bytes) (skip next : Nat)
    (hnext : position + bytes.length + skip = next)
    (hroom : next ≤ sendBufSize) : Drafted next (buffer.put bytes skip) where
  size := by
    rw [UdpBuffer.put, length_putBytes, h.size, h.buf]
    omega
  buf := by rw [buf_put, h.buf, hnext]
  clear := by
    intro later hlater
    rw [buf_put] at hlater
    obtain ⟨offset, rfl⟩ := Nat.exists_eq_add_of_le
      (show buffer.buf ≤ later by omega)
    rw [byteAt_put_record _ _ _ h.clear]
    apply byteAt_of_length_le
    rw [List.length_append, List.length_replicate]
    omega

theorem Drafted.countNode {position : Nat} {buffer : UdpBuffer}
    (h : Drafted position buffer) (hcounter : nodeNumOffset < position) :
    Drafted position buffer.countNode where
  size := by
    have hsize := h.size
    simp only [UdpBuffer.countNode, length_putBytes, List.length_singleton]
    simp only [nodeNumOffset, sendBufSize] at *
    omega
  buf := h.buf
  clear := by
    intro later hlater
    rw [buf_countNode, h.buf] at hlater
    rw [byteAt_countNode (by omega)]
    exact h.clear later (by rw [h.buf]; exact hlater)

/-! ## The records in the buffer -/

def headerLen : Nat := 80
def recordLen : Nat := 10

def NodeLoop.bytes {Node : Type} (loop : NodeLoop Node) (node : Node) : Bytes :=
  loop.record node ++ List.replicate loop.skip 0

def NodeLoop.Fits {Node : Type} (loop : NodeLoop Node) : Prop :=
  ∀ node, (loop.record node).length + loop.skip = recordLen

theorem detectorLoop_fits (sendAll : Bool) : (detectorLoop sendAll).Fits := by
  intro info
  rfl

theorem lightLoop_fits : lightLoop.Fits := by
  intro light
  rfl

theorem newNodeLoop_fits : newNodeLoop.Fits := by
  intro node
  rfl

structure HoldsRecords (header : Bytes) (records : List Bytes) (buffer : UdpBuffer) :
    Prop extends Drafted (headerLen + recordLen * records.length) buffer where
  few : records.length ≤ maxNodeNumInUdp
  count : buffer.loraNodeNum.toNat = records.length
  header : ∀ position < headerLen, position ≠ nodeNumOffset →
    byteAt buffer.data position = byteAt header position
  record : ∀ (place : Nat) record, records[place]? = some record →
    ∀ offset < recordLen,
      byteAt buffer.data (headerLen + recordLen * place + offset) =
        byteAt record offset

theorem getElem?_concat {Item : Type} {items : List Item} {last item : Item}
    {place : Nat} (h : (items ++ [last])[place]? = some item) :
    (place < items.length ∧ items[place]? = some item) ∨
      (place = items.length ∧ last = item) := by
  rcases Nat.lt_or_ge place items.length with hplace | hplace
  · rw [List.getElem?_append_left hplace] at h
    exact .inl ⟨hplace, h⟩
  · rw [List.getElem?_append_right hplace, List.getElem?_singleton] at h
    split at h
    · exact .inr ⟨by omega, Option.some.inj h⟩
    · cases h

theorem holds_put {Node : Type} {loop : NodeLoop Node} {header : Bytes}
    {records : List Bytes} {buffer : UdpBuffer} (hfits : loop.Fits)
    (h : HoldsRecords header records buffer)
    (hroom : records.length < maxNodeNumInUdp) (node : Node) :
    HoldsRecords header (records ++ [loop.bytes node])
      (buffer.countNode.put (loop.record node) loop.skip) := by
  have hlen := hfits node
  have hcounted := h.toDrafted.countNode
    (show nodeNumOffset < headerLen + recordLen * records.length by
      simp only [nodeNumOffset, headerLen]
      omega)
  have hbefore : ∀ position < headerLen + recordLen * records.length,
      byteAt (buffer.countNode.put (loop.record node) loop.skip).data position =
        byteAt buffer.countNode.data position := by
    intro position hposition
    exact byteAt_put_before (hcounted.buf.symm ▸ hposition)
  refine { toDrafted := ?_, few := ?_, count := ?_, header := ?_, record := ?_ }
  · apply hcounted.put
    · rw [List.length_append, List.length_singleton, Nat.mul_add]
      omega
    · simp only [List.length_append, List.length_singleton, headerLen,
        recordLen, maxNodeNumInUdp, sendBufSize] at *
      omega
  · rw [List.length_append, List.length_singleton]
    exact hroom
  · rw [UdpBuffer.loraNodeNum, hbefore _ (by
      simp only [nodeNumOffset, headerLen]
      omega)]
    show buffer.countNode.loraNodeNum.toNat = _
    rw [loraNodeNum_countNode, UInt8.toNat_add, h.count, List.length_append]
    simp only [maxNodeNumInUdp] at hroom
    exact Nat.mod_eq_of_lt (by show records.length + 1 < 256; omega)
  · intro position hposition hne
    rw [hbefore position (by omega), byteAt_countNode hne]
    exact h.header position hposition hne
  · intro place record hrecord offset hoffset
    rcases getElem?_concat hrecord with ⟨hplace, hrecord⟩ | ⟨hlast, rfl⟩
    · rw [hbefore, byteAt_countNode]
      · exact h.record place record hrecord offset hoffset
      · simp only [headerLen, nodeNumOffset]
        omega
      · simp only [recordLen] at *
        omega
    · rw [hlast, ← hcounted.buf]
      exact byteAt_put_record _ _ _ hcounted.clear

theorem take_of_full {Item : Type} {first : List Item} {limit : Nat}
    (h : first.length = limit) (second : List Item) :
    (first ++ second).take limit = first := by
  rw [← h, List.take_left]

theorem HoldsRecords.full_iff {header : Bytes} {records : List Bytes}
    {buffer : UdpBuffer} (h : HoldsRecords header records buffer) :
    maxNodeNumInUdp ≤ buffer.loraNodeNum.toNat ↔
      records.length = maxNodeNumInUdp := by
  rw [h.count]
  exact ⟨fun hge => Nat.le_antisymm h.few hge, fun heq => Nat.le_of_eq heq.symm⟩

theorem fillNodes_holds {Node : Type} {loop : NodeLoop Node} {header : Bytes}
    {records : List Bytes} {buffer : UdpBuffer} (hfits : loop.Fits)
    (h : HoldsRecords header records buffer) (nodes : List Node) :
    HoldsRecords header
      ((records ++ (nodes.filter loop.due).map loop.bytes).take maxNodeNumInUdp)
      (fillNodes loop nodes buffer).2 := by
  induction nodes generalizing records buffer with
  | nil =>
      rw [List.filter_nil, List.map_nil, List.append_nil,
        List.take_of_length_le h.few]
      exact h
  | cons node nodes ih =>
      rw [fillNodes]
      split
      case isTrue hfull =>
        rw [take_of_full (h.full_iff.mp hfull)]
        exact h
      case isFalse hroom =>
        have hless : records.length < maxNodeNumInUdp :=
          Nat.lt_of_le_of_ne h.few (hroom ∘ h.full_iff.mpr)
        split
        case isTrue hdue =>
          have hlater := ih (holds_put hfits h hless node)
          rw [List.append_assoc] at hlater
          rw [List.filter_cons_of_pos hdue, List.map_cons]
          exact hlater
        case isFalse hdue =>
          rw [List.filter_cons_of_neg hdue]
          exact ih h

theorem getElem?_fillNodes {Node : Type} {loop : NodeLoop Node}
    {header : Bytes} {records : List Bytes} {buffer : UdpBuffer}
    (hfits : loop.Fits) (h : HoldsRecords header records buffer) (nodes : List Node)
    (place : Nat) :
    (fillNodes loop nodes buffer).1[place]? =
      nodes[place]?.map fun node =>
        if loop.due node ∧
            records.length + (nodes.take place).countP loop.due <
              maxNodeNumInUdp then loop.reported node
        else node := by
  induction nodes generalizing records buffer place with
  | nil => rfl
  | cons node nodes ih =>
      rw [fillNodes]
      split
      case isTrue hfull =>
        have hlength := h.full_iff.mp hfull
        have hnone : ∀ count, ¬records.length + count < maxNodeNumInUdp := by
          intro count
          omega
        simp [hnone]
      case isFalse hroom =>
        have hless : records.length < maxNodeNumInUdp :=
          Nat.lt_of_le_of_ne h.few (hroom ∘ h.full_iff.mpr)
        split
        case isTrue hdue =>
          cases place with
          | zero => simp [hdue, hless]
          | succ place =>
              have hlater := ih (holds_put hfits h hless node) place
              simp only [List.length_append, List.length_singleton] at hlater
              simp only [List.getElem?_cons_succ, List.take_succ_cons,
                List.countP_cons_of_pos hdue]
              rw [hlater]
              simp only [Nat.add_assoc, Nat.add_comm 1]
        case isFalse hdue =>
          cases place with
          | zero => simp [hdue]
          | succ place =>
              simp only [List.getElem?_cons_succ, List.take_succ_cons,
                List.countP_cons_of_neg hdue]
              exact ih h place

/-! ## The header in the buffer -/

theorem drafted_fillDatetime {buffer : UdpBuffer} (env : UdpEnv)
    (h : Drafted 54 buffer) : Drafted 61 (fillDatetime env buffer) := by
  unfold fillDatetime
  split
  case isTrue hreadable =>
    refine h.put _ 0 61 ?_ (by decide)
    rw [getDatetime, if_pos hreadable]
    rfl
  case isFalse => exact h.put [] 7 61 rfl (by decide)

theorem drafted_fillHeader (env : UdpEnv) (device : Device) :
    Drafted headerLen (fillHeader env device (List.replicate sendBufSize 0)) ∧
      (fillHeader env device
        (List.replicate sendBufSize 0)).loraNodeNum = 0 := by
  have hid := drafted_start.put (networkOrder32 device.wncDevice.id) 0 4 rfl
    (by decide)
  have htype := hid.put (ascii "LN" ++ [0, env.behindType]) 0 8 rfl (by decide)
  have hname := htype.put (idString env device.wncDevice.id) 10 28
    (by rw [idString, length_slice]) (by decide)
  have hmac := hname.put (slice device.wncDevice.ethMac 0 6) 0 34
    (by rw [length_slice]) (by decide)
  have hsoftware := hmac.put (slice env.softwareVersion 0 10) 0 44
    (by rw [length_slice]) (by decide)
  have hhardware := hsoftware.put (slice env.hardwareVersion 0 10) 0 54
    (by rw [length_slice]) (by decide)
  have hpc := (drafted_fillDatetime env hhardware).put
    (littleEndian32 device.wncConfig.netConfig.pcIp) 2 67 rfl (by decide)
  have hhvcs := hpc.put
    (littleEndian32 device.wncConfig.netConfig.hvcsIp) 2 73 rfl (by decide)
  have hsn := hhvcs.put
    (networkOrder32 device.fileInfoList.sensorList.sn) 0 77 rfl (by decide)
  have hreserved := hsn.put [0] 0 78 rfl (by decide)
  have hnum := hreserved.put [] 1 79 rfl (by decide)
  refine ⟨hnum.put [10] 0 80 rfl (by decide), ?_⟩
  -- The counter is the byte that the pointer has moved over.
  have hcounter := byteAt_put_record [] 1 0 hreserved.clear
  rw [hreserved.buf] at hcounter
  rw [UdpBuffer.loraNodeNum, fillHeader, byteAt_put_before]
  · exact hcounter
  · exact Nat.lt_of_lt_of_eq (by decide) hnum.buf.symm

theorem holds_fillHeader (env : UdpEnv) (device : Device) :
    HoldsRecords (fillHeader env device (List.replicate sendBufSize 0)).data []
      (fillHeader env device (List.replicate sendBufSize 0)) := by
  obtain ⟨hdrafted, hcounter⟩ := drafted_fillHeader env device
  refine ⟨hdrafted, Nat.zero_le _, ?_, fun _ _ _ => rfl, ?_⟩
  · rw [hcounter]
    rfl
  · intro place record hrecord
    cases hrecord

/-! ## Reading a report -/

structure NodeReport where
  type : UInt8
  id : UInt32
  state : UInt8
  deriving DecidableEq, Repr

def decodeRecord (datagram : Bytes) (position : Nat) : NodeReport where
  type := byteAt datagram position
  id := bigEndian32 (byteAt datagram (position + 1))
    (byteAt datagram (position + 2)) (byteAt datagram (position + 3))
    (byteAt datagram (position + 4))
  state := byteAt datagram (position + 5)

def decodeReport (datagram : Bytes) : List NodeReport :=
  (List.range (byteAt datagram nodeNumOffset).toNat).map fun place =>
    decodeRecord datagram (headerLen + recordLen * place)

def reportDetector (info : SingleDetectorInfo) : NodeReport :=
  ⟨deviceTypeCode .detector, info.id, info.state⟩

def reportLight (light : SingleLightInfo) : NodeReport where
  type := deviceTypeCode .light
  id := light.id
  state :=
    if light.state = nodeStateOffline then nodeStateOffline
    else light.currentColor

def reportNewNode (node : SingleNewNode) : NodeReport :=
  ⟨deviceTypeCode node.deviceType, node.id, nodeStateNewDevice⟩

def dueReports (sendAll : Bool) (state : LoraState) : List NodeReport :=
  (state.detectors.filter fun info => sendAll || info.isParkStateChanged).map
      reportDetector ++
    (lightRecords state).map reportLight ++
    (state.newNodeList.node.filter fun node => node.timeLeft != 0).map
      reportNewNode

theorem decodeRecord_bytes (type : UInt8) (id : UInt32) (state : UInt8)
    (rest : Bytes) :
    decodeRecord (type :: networkOrder32 id ++ state :: rest) 0 =
      ⟨type, id, state⟩ := by
  have hid := bigEndian32_byteOf id
  simp [decodeRecord, networkOrder32, littleEndian32, hid]

theorem decodeRecord_detector (sendAll : Bool) (info : SingleDetectorInfo) :
    decodeRecord ((detectorLoop sendAll).bytes info) 0 = reportDetector info :=
  decodeRecord_bytes _ _ _ _

theorem decodeRecord_light (light : SingleLightInfo) :
    decodeRecord (lightLoop.bytes light) 0 = reportLight light :=
  decodeRecord_bytes _ _ _ _

theorem decodeRecord_newNode (node : SingleNewNode) :
    decodeRecord (newNodeLoop.bytes node) 0 = reportNewNode node :=
  decodeRecord_bytes _ _ _ _

/-- The record at a place is read from the datagram or from its own bytes. -/
theorem decodeRecord_congr {datagram record : Bytes} {position : Nat}
    (h : ∀ offset < recordLen,
      byteAt datagram (position + offset) = byteAt record offset) :
    decodeRecord datagram position = decodeRecord record 0 := by
  have hbyte := h 0 (by decide)
  simp only [decodeRecord, h 1 (by decide), h 2 (by decide), h 3 (by decide),
    h 4 (by decide), h 5 (by decide), Nat.zero_add]
  rw [← hbyte, Nat.add_zero]

theorem byteAt_take {position count : Nat} (bytes : Bytes)
    (h : position < count) :
    byteAt (bytes.take count) position = byteAt bytes position := by
  simp [byteAt, List.getD_eq_getElem?_getD, h]

theorem take_putBytes {buffer : Bytes} {index : Nat} (bytes : Bytes)
    (h : index ≤ buffer.length) :
    (putBytes buffer index bytes).take (index + bytes.length) =
      buffer.take index ++ bytes := by
  have hlength : ((putBytes buffer index bytes).take
      (index + bytes.length)).length = index + bytes.length := by
    rw [List.length_take, length_putBytes]
    omega
  have hfirst : (buffer.take index).length = index :=
    List.length_take_of_le h
  apply bytes_ext
  · rw [hlength, List.length_append, hfirst]
  · intro position hposition
    rw [hlength] at hposition
    rw [byteAt_take _ hposition, byteAt_putBytes]
    split
    case isTrue hin =>
      obtain ⟨offset, rfl⟩ := Nat.exists_eq_add_of_le hin.1
      have hsecond := byteAt_append_right (buffer.take index) bytes offset
      rw [hfirst] at hsecond
      rw [Nat.add_sub_cancel_left, hsecond]
    case isFalse hout =>
      have hbefore : position < index := by omega
      rw [byteAt_append_left _ (by omega), byteAt_take _ hbefore]

theorem take_take_append {Item : Type} (first second : List Item)
    (limit : Nat) :
    (first.take limit ++ second).take limit = (first ++ second).take limit := by
  rcases Nat.le_total first.length limit with hle | hge
  · rw [List.take_of_length_le hle]
  · rw [take_of_full (List.length_take_of_le hge),
      List.take_append_of_le_length hge]

def UdpFill.datagram (fill : UdpFill) : Bytes := fill.data.take fill.len

section

variable (env : UdpEnv) (device : Device) (state : LoraState) (sendAll : Bool)

def dueRecords : List Bytes :=
  (state.detectors.filter (detectorLoop sendAll).due).map
      (detectorLoop sendAll).bytes ++
    ((lightRecords state).filter lightLoop.due).map lightLoop.bytes ++
    (state.newNodeList.node.filter newNodeLoop.due).map newNodeLoop.bytes

theorem map_decodeRecord_dueRecords :
    (dueRecords state sendAll).map (decodeRecord · 0) =
      dueReports sendAll state := by
  have hlights : (lightRecords state).filter lightLoop.due =
      lightRecords state := by
    simp [lightLoop]
  simp only [dueRecords, dueReports, List.map_append, List.map_map,
    Function.comp_def, decodeRecord_detector, decodeRecord_light,
    decodeRecord_newNode, hlights]
  rfl

/-! The header, and the nodes and the buffer after each of the three loops. -/

def drafted : UdpBuffer :=
  fillHeader env device (List.replicate sendBufSize 0)

def filledDetectors : List SingleDetectorInfo × UdpBuffer :=
  fillNodes (detectorLoop sendAll) state.detectors (drafted env device)

def filledLights : List SingleLightInfo × UdpBuffer :=
  fillNodes lightLoop (lightRecords state)
    (filledDetectors env device state sendAll).2

def filledNewNodes : List SingleNewNode × UdpBuffer :=
  fillNodes newNodeLoop state.newNodeList.node
    (filledLights env device state sendAll).2

theorem holds_filledDetectors :
    HoldsRecords (drafted env device).data
      (((state.detectors.filter (detectorLoop sendAll).due).map
        (detectorLoop sendAll).bytes).take maxNodeNumInUdp)
      (filledDetectors env device state sendAll).2 :=
  fillNodes_holds (detectorLoop_fits sendAll) (holds_fillHeader env device) _

theorem holds_filledLights :
    HoldsRecords (drafted env device).data
      (((state.detectors.filter (detectorLoop sendAll).due).map
          (detectorLoop sendAll).bytes ++
        ((lightRecords state).filter lightLoop.due).map lightLoop.bytes).take
          maxNodeNumInUdp)
      (filledLights env device state sendAll).2 := by
  rw [← take_take_append]
  exact fillNodes_holds lightLoop_fits
    (holds_filledDetectors env device state sendAll) _

theorem holds_filledNewNodes :
    HoldsRecords (drafted env device).data
      ((dueRecords state sendAll).take maxNodeNumInUdp)
      (filledNewNodes env device state sendAll).2 := by
  rw [dueRecords, ← take_take_append]
  exact fillNodes_holds newNodeLoop_fits
    (holds_filledLights env device state sendAll) _

def reportBody : Bytes :=
  let buffer := (filledNewNodes env device state sendAll).2
  buffer.data.take buffer.buf

theorem length_reportBody :
    (reportBody env device state sendAll).length =
      headerLen + recordLen *
        ((dueRecords state sendAll).take maxNodeNumInUdp).length := by
  have hholds := holds_filledNewNodes env device state sendAll
  have hfew := hholds.few
  have hsize := hholds.size
  simp only [reportBody, List.length_take, hholds.buf]
  rw [List.length_take] at hfew
  simp only [hsize, headerLen, recordLen, maxNodeNumInUdp, sendBufSize] at *
  omega

theorem byteAt_reportBody {position : Nat}
    (h : position < (filledNewNodes env device state sendAll).2.buf) :
    byteAt (reportBody env device state sendAll) position =
      byteAt (filledNewNodes env device state sendAll).2.data position :=
  byteAt_take _ h

theorem datagram_udpReport :
    (udpReport env device state sendAll).datagram =
      reportBody env device state sendAll ++
        [xorVerify (reportBody env device state sendAll)] := by
  have hholds := holds_filledNewNodes env device state sendAll
  have hlength := length_reportBody env device state sendAll
  rw [← hholds.buf, reportBody, List.length_take] at hlength
  have hroom : (filledNewNodes env device state sendAll).2.buf ≤
      (filledNewNodes env device state sendAll).2.data.length := by
    omega
  exact take_putBytes [xorVerify (reportBody env device state sendAll)] hroom

/-! ## What a report has to say -/

structure UdpFill.Encodes (fill : UdpFill) : Prop where
  len : fill.len = headerLen + recordLen *
    min maxNodeNumInUdp (dueReports sendAll state).length + 1
  len_le : fill.len ≤ 881
  size : fill.datagram.length = fill.len
  number : (byteAt fill.datagram 78).toNat =
    min maxNodeNumInUdp (dueReports sendAll state).length
  header : ∀ position < 80, position ≠ 78 →
    byteAt fill.datagram position = byteAt (drafted env device).data position
  records : decodeReport fill.datagram =
    (dueReports sendAll state).take maxNodeNumInUdp
  check : fill.datagram =
    fill.datagram.dropLast ++ [xorVerify fill.datagram.dropLast]
  sendAllCleared : fill.sendAll = false
  detector : ∀ place : Nat, fill.state.detectors[place]? =
    state.detectors[place]?.map fun info =>
      let due := (detectorLoop sendAll).due
      if due info ∧ (state.detectors.take place).countP due < maxNodeNumInUdp
      then { info with isParkStateChanged := false } else info
  newNode : ∀ place : Nat, fill.state.newNodeList.node[place]? =
    state.newNodeList.node[place]?.map fun node =>
      let first := state.detectors.countP (detectorLoop sendAll).due +
        (lightRecords state).length
      if node.timeLeft ≠ 0 ∧
          first + (state.newNodeList.node.take place).countP newNodeLoop.due <
            maxNodeNumInUdp
      then { node with timeLeft := node.timeLeft - 1 } else node
  others : fill.state = { state with
    parkingLists := { state.parkingLists with
      detectorInfoList := fill.state.parkingLists.detectorInfoList }
    newNodeList := fill.state.newNodeList }

theorem length_dueReports :
    (dueReports sendAll state).length = (dueRecords state sendAll).length := by
  rw [← map_decodeRecord_dueRecords, List.length_map]

theorem byteAt_datagram {position : Nat}
    (h : position < headerLen + recordLen *
      ((dueRecords state sendAll).take maxNodeNumInUdp).length) :
    byteAt (udpReport env device state sendAll).datagram position =
      byteAt (filledNewNodes env device state sendAll).2.data position := by
  have hbuf := (holds_filledNewNodes env device state sendAll).buf
  rw [datagram_udpReport, byteAt_append_left]
  · exact byteAt_reportBody env device state sendAll (hbuf.symm ▸ h)
  · rw [length_reportBody]
    exact h

theorem number_udpReport :
    (byteAt (udpReport env device state sendAll).datagram
        nodeNumOffset).toNat =
      ((dueRecords state sendAll).take maxNodeNumInUdp).length := by
  rw [byteAt_datagram]
  · exact (holds_filledNewNodes env device state sendAll).count
  · simp only [nodeNumOffset, headerLen]
    omega

theorem decodeReport_udpReport :
    decodeReport (udpReport env device state sendAll).datagram =
      (dueReports sendAll state).take maxNodeNumInUdp := by
  rw [decodeReport, number_udpReport, ← map_decodeRecord_dueRecords,
    ← List.map_take]
  apply List.ext_getElem
  · simp
  · intro place _ hplace
    rw [List.length_map] at hplace
    simp only [List.getElem_map, List.getElem_range]
    apply decodeRecord_congr
    intro offset hoffset
    rw [byteAt_datagram]
    · exact (holds_filledNewNodes env device state sendAll).record place _
        (List.getElem?_eq_getElem hplace) offset hoffset
    · simp only [recordLen] at *
      omega

theorem getElem?_reportedDetectors (place : Nat) :
    (udpReport env device state sendAll).state.detectors[place]? =
      state.detectors[place]?.map fun info =>
        if (detectorLoop sendAll).due info ∧
            (state.detectors.take place).countP (detectorLoop sendAll).due <
              maxNodeNumInUdp
        then { info with isParkStateChanged := false } else info := by
  have hfilled := getElem?_fillNodes (detectorLoop_fits sendAll)
    (holds_fillHeader env device) state.detectors place
  simp only [List.length_nil, Nat.zero_add] at hfilled
  exact hfilled

theorem getElem?_reportedNewNodes (place : Nat) :
    (udpReport env device state sendAll).state.newNodeList.node[place]? =
      state.newNodeList.node[place]?.map fun node =>
        if node.timeLeft ≠ 0 ∧
            state.detectors.countP (detectorLoop sendAll).due +
                (lightRecords state).length +
              (state.newNodeList.node.take place).countP newNodeLoop.due <
              maxNodeNumInUdp
        then { node with timeLeft := node.timeLeft - 1 } else node := by
  have hfilled := getElem?_fillNodes newNodeLoop_fits
    (holds_filledLights env device state sendAll) state.newNodeList.node place
  have hlights : ((lightRecords state).filter lightLoop.due).length =
      (lightRecords state).length := by
    simp [lightLoop]
  have hroom : ∀ first count : Nat,
      min maxNodeNumInUdp first + count < maxNodeNumInUdp ↔
        first + count < maxNodeNumInUdp := by
    intro first count
    omega
  have hdue : ∀ node, newNodeLoop.due node = true ↔ node.timeLeft ≠ 0 := by
    simp [newNodeLoop]
  simp only [List.length_take, List.length_append, List.length_map, hlights,
    ← List.countP_eq_length_filter, hroom, hdue] at hfilled
  exact hfilled

theorem udp_report_encodes :
    (udpReport env device state sendAll).Encodes env device state sendAll := by
  have hholds := holds_filledNewNodes env device state sendAll
  have hlen : (udpReport env device state sendAll).len =
      headerLen + recordLen *
        min maxNodeNumInUdp (dueReports sendAll state).length + 1 := by
    rw [length_dueReports, ← List.length_take, ← hholds.buf]
    rfl
  have hdatagram := datagram_udpReport env device state sendAll
  have hdrop : (udpReport env device state sendAll).datagram.dropLast =
      reportBody env device state sendAll := by
    rw [hdatagram, List.dropLast_concat]
  constructor
  · exact hlen
  · simp only [hlen, headerLen, recordLen, maxNodeNumInUdp]
    omega
  · rw [hdatagram, List.length_append, length_reportBody, hlen,
      length_dueReports, List.length_take]
    rfl
  · rw [length_dueReports, ← List.length_take]
    exact number_udpReport env device state sendAll
  · intro position hposition hne
    rw [byteAt_datagram]
    · exact hholds.header position hposition hne
    · simp only [headerLen]
      omega
  · exact decodeReport_udpReport env device state sendAll
  · rw [hdrop]
    exact hdatagram
  · rfl
  · exact getElem?_reportedDetectors env device state sendAll
  · exact getElem?_reportedNewNodes env device state sendAll
  · rfl

end

end WncFirmware.Udp
