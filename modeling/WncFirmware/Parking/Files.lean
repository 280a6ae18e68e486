import Mathlib.Data.Nat.Bitwise
import WncFirmware.Device

/-!
# What the configuration files say

The three readers work on pieces of a file.  Here the pieces are described on
the whole content, and the lists in terms of the pieces.
-/

namespace WncFirmware

open WncFirmware.Foundation

/-! ## The pieces of a file -/

/-- Pieces end with a newline, after 63 bytes or at the end of the content. -/
def splitPieces (current : Bytes) : Bytes → List Bytes
  | [] => if current = [] then [] else [current]
  | byte :: rest =>
      let piece := current ++ [byte]
      if byte = 10 ∨ piece.length = 63 then piece :: splitPieces [] rest
      else splitPieces piece rest

def filePieces (content : Bytes) : List Bytes := splitPieces [] content

def fileContent (flash : Memory) (addr : Nat) (info : SingleFileInfo) : Bytes :=
  if fileMissing info then [] else readBytes flash addr info.size.toNat

theorem splitPieces_eq_cons {current content : Bytes} {room : Nat}
    (hroom : current.length + (room + 1) = 63) (hcontent : content ≠ []) :
    splitPieces current content =
      (current ++ takeLine (content.take (room + 1))) ::
        splitPieces [] (content.drop
          (takeLine (content.take (room + 1))).length) := by
  induction content generalizing current room with
  | nil => exact absurd rfl hcontent
  | cons byte rest ih =>
      rw [splitPieces, List.take_succ_cons, takeLine, List.length_append,
        List.length_singleton]
      by_cases hline : byte = 10
      · rw [if_pos (.inl hline), if_pos hline]
        rfl
      · rw [if_neg hline]
        cases room with
        | zero =>
            rw [if_pos (.inr (by omega))]
            rfl
        | succ room =>
            rw [if_neg (by simp only [hline, false_or]; omega)]
            cases rest with
            | nil => simp [splitPieces, takeLine]
            | cons next rest =>
                have hpiece : (current ++ [byte]).length + (room + 1) = 63 := by
                  rw [List.length_append, List.length_singleton]
                  omega
                rw [ih hpiece (List.cons_ne_nil _ _), List.append_assoc,
                  List.length_cons, List.drop_succ_cons]
                rfl

theorem filePieces_eq_cons {content : Bytes} (h : content ≠ []) :
    filePieces content = takeLine (content.take 63) ::
      filePieces (content.drop (takeLine (content.take 63)).length) :=
  splitPieces_eq_cons rfl h

theorem takeLine_length_le (bytes : Bytes) :
    (takeLine bytes).length ≤ bytes.length := by
  induction bytes with
  | nil => exact Nat.le_refl 0
  | cons byte bytes ih =>
      rw [takeLine]
      split
      · simp
      · exact Nat.succ_le_succ ih

theorem takeLine_length_pos {bytes : Bytes} (h : bytes ≠ []) :
    0 < (takeLine bytes).length := by
  cases bytes with
  | nil => exact absurd rfl h
  | cons byte bytes =>
      rw [takeLine]
      split <;> simp

theorem readBytes_take (flash : Memory) (start size count : Nat) :
    (readBytes flash start size).take count =
      readBytes flash start (min count size) := by
  rw [readBytes, ← List.map_take, List.take_range, readBytes]

theorem readBytes_drop {size count : Nat} (flash : Memory) (start : Nat)
    (h : count ≤ size) :
    (readBytes flash start size).drop count =
      readBytes flash (start + count) (size - count) := by
  obtain ⟨rest, rfl⟩ := Nat.exists_eq_add_of_le h
  rw [readBytes_add, List.drop_left' (length_readBytes _ _ _),
    Nat.add_sub_cancel_left]

section Reading

variable {Items : Type} (full : Items → Bool) (add : Items → Bytes → Items)

/-- Pieces are added until the items are full. -/
def addPieces (items : Items) (pieces : List Bytes) : Items :=
  pieces.foldl (fun items piece =>
    if full items = true then items else add items piece) items

theorem addPieces_cons (items : Items) (piece : Bytes) (pieces : List Bytes) :
    addPieces full add items (piece :: pieces) = addPieces full add
      (if full items = true then items else add items piece) pieces := rfl

theorem addPieces_full {items : Items} (h : full items = true)
    (pieces : List Bytes) : addPieces full add items pieces = items := by
  induction pieces with
  | nil => rfl
  | cons piece pieces ih =>
      rw [addPieces_cons, if_pos h]
      exact ih

theorem readLines_eq {flash : Memory} {addr fuel byteLeft offset : Nat}
    {items : Items} (hfuel : byteLeft ≤ fuel) :
    readLines flash addr full add fuel byteLeft offset items =
      addPieces full add items
        (filePieces (readBytes flash (addr + offset) byteLeft)) := by
  induction fuel generalizing byteLeft offset items with
  | zero =>
      obtain rfl : byteLeft = 0 := by omega
      rfl
  | succ fuel ih =>
      rw [readLines]
      by_cases hzero : byteLeft = 0
      · subst hzero
        rw [if_pos (.inl rfl)]
        rfl
      · by_cases hfull : full items = true
        · rw [if_pos (.inr hfull), addPieces_full full add hfull]
        · have hline : flashFileReadLine flash addr offset
              (if byteLeft < 64 then byteLeft + 1 else 64) =
                takeLine ((readBytes flash (addr + offset) byteLeft).take
                  63) := by
            rw [flashFileReadLine, readBytes_take]
            congr 2
            split <;> omega
          have hne : readBytes flash (addr + offset) byteLeft ≠ [] := by
            intro hnil
            have hlength := congrArg List.length hnil
            rw [length_readBytes] at hlength
            exact hzero hlength
          have hpos : 0 < (takeLine ((readBytes flash (addr + offset)
              byteLeft).take 63)).length :=
            takeLine_length_pos (by simpa using hne)
          have hle : (takeLine ((readBytes flash (addr + offset)
              byteLeft).take 63)).length ≤ byteLeft := by
            refine (takeLine_length_le _).trans ?_
            rw [List.length_take, length_readBytes]
            exact Nat.min_le_right _ _
          rw [if_neg (by simp [hzero, hfull])]
          dsimp only
          rw [hline, filePieces_eq_cons hne, readBytes_drop _ _ hle,
            ih (by omega), addPieces_cons, if_neg hfull, Nat.add_assoc]

theorem readListFile_eq (flash : Memory) (addr : Nat) (info : SingleFileInfo)
    (start : Items) :
    readListFile flash addr info full add start =
      addPieces full add start (filePieces (fileContent flash addr info)) := by
  unfold readListFile fileContent
  split
  · rfl
  · rw [readLines_eq full add (Nat.le_refl _), Nat.add_zero]

end Reading

/-! ## The devices of a concentrator -/

/-- The id in a piece `id;wnc` for this concentrator. -/
def deviceOf (wncId : UInt32) (piece : Bytes) : Option UInt32 :=
  match scanPair piece with
  | some (id, wnc) => if wnc = wncId then some id else none
  | none => none

theorem addDeviceId_eq (wncId : UInt32) (ids : List UInt32) (piece : Bytes) :
    addDeviceId wncId ids piece = ids ++ (deviceOf wncId piece).toList := by
  cases hpair : scanPair piece with
  | none => simp [addDeviceId, deviceOf, hpair]
  | some pair =>
      by_cases hwnc : pair.2 = wncId
      · simp [addDeviceId, deviceOf, hpair, hwnc]
      · simp [addDeviceId, deviceOf, hpair, hwnc]

theorem addPieces_devices {wncId : UInt32} {limit : Nat} {ids : List UInt32}
    (h : ids.length ≤ limit) (pieces : List Bytes) :
    addPieces (fun ids => limit ≤ ids.length) (addDeviceId wncId) ids pieces =
      (ids ++ pieces.filterMap (deviceOf wncId)).take limit := by
  induction pieces generalizing ids with
  | nil =>
      rw [List.filterMap_nil, List.append_nil, List.take_of_length_le h]
      rfl
  | cons piece pieces ih =>
      rw [addPieces_cons]
      by_cases hfull : limit ≤ ids.length
      · rw [if_pos (by simpa using hfull),
          addPieces_full _ _ (by simpa using hfull),
          List.take_append_of_le_length hfull, List.take_of_length_le h]
      · rw [if_neg (by simpa using hfull), addDeviceId_eq]
        have hroom : (ids ++ (deviceOf wncId piece).toList).length ≤ limit := by
          have hone : (deviceOf wncId piece).toList.length ≤ 1 := by
            cases deviceOf wncId piece <;> simp
          rw [List.length_append]
          omega
        rw [ih hroom, List.append_assoc]
        cases hdevice : deviceOf wncId piece with
        | none => simp [hdevice]
        | some id => simp [hdevice]

theorem readDeviceIds_eq (flash : Memory) (addr : Nat) (info : SingleFileInfo)
    (limit : Nat) (wncId : UInt32) :
    readDeviceIds flash addr info limit wncId =
      ((filePieces (fileContent flash addr info)).filterMap
        (deviceOf wncId)).take limit := by
  rw [readDeviceIds, readListFile_eq, addPieces_devices (Nat.zero_le _)]
  rfl

/-! ## Lights and detectors that belong together -/

/-- A piece `a;b` where `a` and `b` are first found at the two places. -/
def links (lightIds detectorIds : List UInt32) (light detector : Nat)
    (piece : Bytes) : Bool :=
  match scanPair piece with
  | some (lightId, detectorId) =>
      lightIds.findIdx? (· == lightId) == some light &&
        detectorIds.findIdx? (· == detectorId) == some detector
  | none => false

theorem toNat_bit {bit : Nat} (h : bit < 8) :
    ((1 : UInt8) <<< UInt8.ofNat bit).toNat = 2 ^ bit := by
  have hall : ∀ bit < 8, ((1 : UInt8) <<< UInt8.ofNat bit).toNat = 2 ^ bit := by
    decide
  exact hall bit h

theorem and_bit_ne_zero {bit : Nat} (byte : UInt8) (h : bit < 8) :
    (byte &&& 1 <<< UInt8.ofNat bit != 0) = byte.toNat.testBit bit := by
  have hand : (byte &&& 1 <<< UInt8.ofNat bit).toNat =
      (byte.toNat.testBit bit).toNat * 2 ^ bit := by
    rw [UInt8.toNat_and, toNat_bit h, Nat.and_two_pow]
  rw [Bool.eq_iff_iff, bne_iff_ne, ne_eq, ← UInt8.toNat_inj, hand]
  cases byte.toNat.testBit bit <;> simp

theorem maskBit_eq_testBit (relation : SingleRelation) (light : Nat) :
    maskBit relation light =
      (byteAt relation.mask (light / 8)).toNat.testBit (light % 8) :=
  and_bit_ne_zero _ (Nat.mod_lt _ (by omega))

def setMaskBit (light : Nat) (relation : SingleRelation) : SingleRelation :=
  { relation with
    mask := relation.mask.modify (light / 8) fun byte =>
      byte ||| (1 <<< UInt8.ofNat (light % 8)) }

theorem maskBit_setMaskBit {relation : SingleRelation} {light : Nat}
    (hlight : light / 8 < relation.mask.length) (other : Nat) :
    maskBit (setMaskBit light relation) other =
      (maskBit relation other || other == light) := by
  rw [maskBit_eq_testBit, maskBit_eq_testBit]
  by_cases hbyte : other / 8 = light / 8
  · have hset : byteAt (setMaskBit light relation).mask (other / 8) =
        byteAt relation.mask (other / 8) |||
          1 <<< UInt8.ofNat (light % 8) := by
      simp [setMaskBit, byteAt, List.getD_eq_getElem?_getD, hbyte,
        hlight]
    rw [hset, UInt8.toNat_or, toNat_bit (Nat.mod_lt _ (by omega)),
      Nat.testBit_or, Nat.testBit_two_pow]
    congr 1
    rw [Bool.eq_iff_iff, decide_eq_true_iff, beq_iff_eq]
    omega
  · have hkept : byteAt (setMaskBit light relation).mask (other / 8) =
        byteAt relation.mask (other / 8) := by
      simp [setMaskBit, byteAt, List.getD_eq_getElem?_getD,
        Ne.symm hbyte]
    have hne : other ≠ light := fun heq => hbyte (by rw [heq])
    rw [hkept, beq_false_of_ne hne, Bool.or_false]

structure MasksSay (lightIds detectorIds : List UInt32) (pieces : List Bytes)
    (relations : List SingleRelation) : Prop where
  ids : relations.map (·.detectorId) = detectorIds
  size : ∀ relation ∈ relations, relation.mask.length = 5
  bits : ∀ detector relation, relations[detector]? = some relation →
    ∀ light, maskBit relation light =
      pieces.any (links lightIds detectorIds light detector)

theorem masksSay_nil (lightIds detectorIds : List UInt32) :
    MasksSay lightIds detectorIds []
      (detectorIds.map fun id => { detectorId := id }) := by
  constructor
  · simp [Function.comp_def]
  · intro relation hrelation
    obtain ⟨id, -, rfl⟩ := List.mem_map.mp hrelation
    rfl
  · intro detector relation hrelation light
    rw [List.getElem?_map] at hrelation
    obtain ⟨id, -, rfl⟩ := Option.map_eq_some_iff.mp hrelation
    have hzero : byteAt (List.replicate 5 (0 : UInt8)) (light / 8) = 0 := by
      rw [byteAt, List.getD_eq_getElem?_getD, List.getElem?_replicate]
      split <;> rfl
    rw [maskBit_eq_testBit, hzero]
    simp

theorem getElem?_setRegionMask {relations : List SingleRelation}
    {detector light place : Nat} {relation : SingleRelation}
    (h : (setRegionMaskByIndex detector light relations)[place]? =
      some relation) :
    ∃ old, relations[place]? = some old ∧
      relation = if detector = place then setMaskBit light old else old := by
  rw [setRegionMaskByIndex, List.getElem?_modify] at h
  obtain ⟨old, hold, hnew⟩ := Option.map_eq_some_iff.mp h
  exact ⟨old, hold, hnew.symm⟩

theorem detectorIds_setRegionMask (relations : List SingleRelation)
    (detector light : Nat) :
    (setRegionMaskByIndex detector light relations).map (·.detectorId) =
      relations.map (·.detectorId) := by
  apply List.ext_getElem?
  intro place
  rw [setRegionMaskByIndex, List.getElem?_map, List.getElem?_map,
    List.getElem?_modify]
  cases relations[place]? with
  | none => rfl
  | some relation =>
      by_cases hplace : detector = place <;> simp [hplace]

theorem findIdx?_lt_length {ids : List UInt32} {id : UInt32} {place : Nat}
    (h : ids.findIdx? (· == id) = some place) : place < ids.length :=
  (List.findIdx?_eq_some_iff_getElem.mp h).1

theorem MasksSay.add {lightIds detectorIds : List UInt32}
    {pieces : List Bytes} {relations : List SingleRelation}
    (h : MasksSay lightIds detectorIds pieces relations)
    (hlights : lightIds.length ≤ maxLightPerWnc) (piece : Bytes) :
    MasksSay lightIds detectorIds (pieces ++ [piece])
      (addRelation lightIds relations piece) := by
  have hsame (hno : ∀ light detector,
      links lightIds detectorIds light detector piece = false) :
      MasksSay lightIds detectorIds (pieces ++ [piece]) relations := by
    refine ⟨h.ids, h.size, fun detector relation hrelation light => ?_⟩
    simp [h.bits detector relation hrelation light, hno light detector]
  have hfind : ∀ id, relations.findIdx? (·.detectorId == id) =
      detectorIds.findIdx? (· == id) := by
    intro id
    rw [← h.ids, List.findIdx?_map]
    rfl
  unfold addRelation
  cases hpair : scanPair piece with
  | none =>
      apply hsame
      simp [links, hpair]
  | some pair =>
      dsimp only
      rw [hfind]
      cases hlight : lightIds.findIdx? (· == pair.1) with
      | none =>
          apply hsame
          simp [links, hpair, hlight]
      | some light =>
          cases hdetector : detectorIds.findIdx? (· == pair.2) with
          | none =>
              apply hsame
              simp [links, hpair, hdetector]
          | some detector =>
              have hbyte : light / 8 < 5 := by
                have hlt := findIdx?_lt_length hlight
                rw [maxLightPerWnc] at hlights
                omega
              have hlinks : ∀ other place,
                  links lightIds detectorIds other place piece =
                    (light == other && detector == place) := by
                intro other place
                simp [links, hpair, hlight, hdetector]
              constructor
              · rw [detectorIds_setRegionMask]
                exact h.ids
              · intro relation hrelation
                obtain ⟨place, hplace⟩ := List.mem_iff_getElem?.mp hrelation
                obtain ⟨old, hold, rfl⟩ := getElem?_setRegionMask hplace
                have hsize := h.size old (List.mem_of_getElem? hold)
                split
                · simpa [setMaskBit] using hsize
                · exact hsize
              · intro place relation hplace other
                obtain ⟨old, hold, rfl⟩ := getElem?_setRegionMask hplace
                have hsize := h.size old (List.mem_of_getElem? hold)
                have hbits := h.bits place old hold other
                rw [List.any_append, List.any_cons, List.any_nil,
                  Bool.or_false, hlinks, ← hbits]
                by_cases hsame : detector = place
                · rw [if_pos hsame, maskBit_setMaskBit (by omega), hsame,
                    beq_self_eq_true, Bool.and_true, BEq.comm]
                · rw [if_neg hsame]
                  simp [hsame]

theorem masksSay_addPieces {lightIds detectorIds : List UInt32}
    {done : List Bytes} {relations : List SingleRelation}
    (h : MasksSay lightIds detectorIds done relations)
    (hlights : lightIds.length ≤ maxLightPerWnc) (pieces : List Bytes) :
    MasksSay lightIds detectorIds (done ++ pieces)
      (addPieces (fun _ => false) (addRelation lightIds) relations pieces) := by
  induction pieces generalizing done relations with
  | nil =>
      rw [List.append_nil]
      exact h
  | cons piece pieces ih =>
      rw [addPieces_cons, if_neg Bool.false_ne_true, List.append_cons]
      exact ih (h.add hlights piece)

/-! ## What `init_parking_lists` leaves -/

/-- The first 40 lights of the file that belong to the device. -/
def Device.lightIds (device : Device) : List UInt32 :=
  ((filePieces (fileContent device.flash lightConnectFileAddr
    (readFileInfoList device.flash).lightConnect)).filterMap
      (deviceOf device.wncDevice.id)).take maxLightPerWnc

/-- The first 60 detectors of the file that belong to the device. -/
def Device.detectorIds (device : Device) : List UInt32 :=
  ((filePieces (fileContent device.flash sensorListFileAddr
    (readFileInfoList device.flash).sensorList)).filterMap
      (deviceOf device.wncDevice.id)).take maxDetectorPerWnc

/-- Some piece of the light parking file links the light and the detector. -/
def Device.linked (device : Device) (light detector : Nat) : Bool :=
  (filePieces (fileContent device.flash lightParkingFileAddr
    (readFileInfoList device.flash).lightParking)).any
      (links device.lightIds device.detectorIds light detector)

theorem lightId_initParkingLists (device : Device) :
    (initParkingLists device).parkingLists.relationList.lightId =
      device.lightIds := by
  simp only [initParkingLists, readLightParkingFile, readSensorListFile,
    readLightConnectFile, readDeviceIds_eq, Device.lightIds]

theorem lightNum_initParkingLists (device : Device) :
    (initParkingLists device).parkingLists.lightInfoList.num =
      device.lightIds.length := by
  simp only [initParkingLists, readLightParkingFile, readSensorListFile,
    readLightConnectFile, readDeviceIds_eq, Device.lightIds]

theorem lightInfo_initParkingLists {device : Device} {place : Nat}
    {id : UInt32} (h : device.lightIds[place]? = some id) :
    (initParkingLists device).parkingLists.lightInfoList.lightInfo place =
      { id := id, timeLeft := 10 } := by
  simp only [initParkingLists, readLightParkingFile, readSensorListFile,
    readLightConnectFile, readDeviceIds_eq]
  rw [Device.lightIds] at h
  simp only [h]

theorem detectors_initParkingLists (device : Device) :
    (initParkingLists device).parkingLists.detectorInfoList.detectorInfo =
      device.detectorIds.map fun id =>
        { id := id, state := nodeStateOffline } := by
  rw [detectorInfo_initParkingLists, readDeviceIds_eq, Device.detectorIds]

theorem masksSay_initParkingLists (device : Device) :
    MasksSay device.lightIds device.detectorIds
      (filePieces (fileContent device.flash lightParkingFileAddr
        (readFileInfoList device.flash).lightParking))
      (initParkingLists device).parkingLists.relationList.relation := by
  have hlights : device.lightIds.length ≤ maxLightPerWnc :=
    List.length_take_le _ _
  have hstart := masksSay_nil device.lightIds device.detectorIds
  have hread := masksSay_addPieces hstart hlights
    (filePieces (fileContent device.flash lightParkingFileAddr
      (readFileInfoList device.flash).lightParking))
  simpa only [initParkingLists, readLightParkingFile, readSensorListFile,
    readLightConnectFile, readDeviceIds_eq, readListFile_eq, Device.lightIds,
    Device.detectorIds, List.nil_append] using hread

end WncFirmware
