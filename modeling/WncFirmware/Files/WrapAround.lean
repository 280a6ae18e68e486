import WncFirmware.Files.Completion

/-!
# Transfers of more than 256 packets

Packet 257 has the number 1 again.  It is taken for a request for an upload, or
for the first packet of another file.  If such a packet is accepted, the data
that follows is stored at the wrong place.
-/

namespace WncFirmware

open WncFirmware.Foundation WncFirmware.Tcp

/-! ## What a delivery in order says about its frames -/

theorem ReturnsInOrder.cons_inv {effect : List Effect}
    {effects : List (List Effect)} {count : Nat}
    (h : ReturnsInOrder (effect :: effects) (count + 1)) :
    (count = 0 ∧ downloadRets effect = [.over]) ∨
      (0 < count ∧ downloadRets effect = [.downloading] ∧
        ReturnsInOrder effects count) := by
  unfold ReturnsInOrder at *
  cases count with
  | zero =>
      left
      simp only [List.map_cons, Nat.zero_add, Nat.sub_self,
        List.replicate_zero, List.nil_append, List.cons.injEq] at h
      exact ⟨rfl, h.1⟩
  | succ count =>
      right
      simp only [List.map_cons, Nat.add_sub_cancel, List.replicate_succ,
        List.cons_append, List.cons.injEq] at h
      exact ⟨Nat.succ_pos count, h.1, h.2⟩

theorem downloadRets_upload {env : CommandEnv} {device : Device}
    {frame : Bytes} {result : CommandResult}
    (h : uploadCommand env device frame = some result) :
    downloadRets result.effects = [] := by
  obtain ⟨uploaded, -, hresult⟩ := Option.bind_eq_some_iff.mp h
  cases hresult
  simp only [downloadRets, List.filterMap_append, List.filterMap_map]
  split <;> simp [reply]

/-- A frame delivered in order went to `download_file`, which did not refuse it. -/
theorem deliverAll_cons_inv {env : Nat → CommandEnv} {fd : Int}
    {number : Nat} {device final : Device} {target : Addressee}
    {part : Bytes} {parts : List Bytes} {effects : List (List Effect)}
    (hid : target.id = device.wncDevice.id ∨ target.id = 0)
    (h : deliverAll env fd number device
      (frameSequence target number (part :: parts)) = some (effects, final))
    (horder : ReturnsInOrder effects (parts.length + 1)) :
    ∃ ret next later, downloadFile device (env number).rtc
        (UInt8.ofNat number) (cmdBufPayload (env number)
          (target.fileCommand (UInt8.ofNat number) part)) = (ret, next) ∧
      ret ≠ .err ∧
      deliverAll env fd (number + 1) next
        (frameSequence target (number + 1) parts) = some (later, final) ∧
      (parts = [] ∨
        (ret = .downloading ∧ ReturnsInOrder later parts.length)) := by
  obtain ⟨result, hresult, hrest⟩ := Option.bind_eq_some_iff.mp h
  obtain ⟨⟨later, last⟩, hlater, heq⟩ := Option.bind_eq_some_iff.mp hrest
  cases heq
  have hrets := horder.cons_inv
  cases hupload : isUpload (target.fileCommand (UInt8.ofNat number) part) with
  | true =>
      have hcommand : uploadCommand (env number) device
          (target.fileCommand (UInt8.ofNat number) part) = some result := by
        simpa [analyzeCommand, commandAccepted_fileCommand target _ part hid,
          command_fileCommand, handleCommand, configureFilesOpt,
          hupload] using hresult
      rw [downloadRets_upload hcommand] at hrets
      simp at hrets
  | false =>
      rw [analyzeCommand_download target _ part hid hupload] at hresult
      cases hresult
      rw [downloadRets_downloadCommand, headerPackSn_fileCommand] at hrets
      simp only [downloadCommand, headerPackSn_fileCommand] at hlater
      generalize downloadFile device (env number).rtc (UInt8.ofNat number)
        (cmdBufPayload (env number)
          (target.fileCommand (UInt8.ofNat number) part)) = outcome at *
      refine ⟨outcome.1, outcome.2, later, rfl, ?_, hlater, ?_⟩
      · rcases hrets with ⟨-, hret⟩ | ⟨-, hret, -⟩
        · simp [List.cons.inj hret]
        · simp [List.cons.inj hret]
      · rcases hrets with ⟨hlast, -⟩ | ⟨-, hret, horder⟩
        · exact .inl (List.length_eq_zero_iff.mp hlast)
        · exact .inr ⟨(List.cons.inj hret).1, horder⟩

/-! ## A name in the middle of the content -/

theorem nameDef_start (type : FileType) :
    ∃ third rest, type.nameDef = 76 :: 78 :: third :: rest ∧ third ≠ 0 := by
  cases type <;> exact ⟨_, _, rfl, by decide⟩

theorem Payload.Opens.start {payload : Payload} {type : FileType}
    {version : UInt32} {base limit : Nat}
    (h : payload.Opens type version base limit) :
    payload.bytes 2 = 76 ∧ payload.bytes 4 ≠ 0 := by
  obtain ⟨third, rest, hname, hthird⟩ := nameDef_start type
  have hfound := List.find?_some h.fileType
  simp only [List.isPrefixOf_iff_prefix, hname] at hfound
  obtain ⟨tail, htail⟩ := hfound
  have hbyte : ∀ index (hindex : index < payload.fileName.length),
      payload.fileName[index] = payload.bytes (2 + index) := by
    intro index hindex
    simp [Payload.fileName]
  have hlong : 3 ≤ payload.fileName.length := by
    rw [← htail]
    simp
  constructor
  · rw [← hbyte 0 (by omega)]
    simp [← htail]
  · rw [← hbyte 2 (by omega)]
    simpa [← htail] using hthird

/-! ## Two bytes that betray a misplaced content -/

/--
Two positions in the content: an `L`, and at or behind it the last byte that is
not `0xff`.
-/
structure FileTransfer.Landmarks (file : FileTransfer) (early late : Nat) :
    Prop where
  early_le : early ≤ late
  late_lt : late < file.content.length
  early_byte : byteAt file.content early = 76
  late_byte : byteAt file.content late ≠ 255
  behind : ∀ index, late < index → index < file.content.length →
    byteAt file.content index = 255

theorem FileTransfer.exists_landmarks {file : FileTransfer} {early : Nat}
    (hlt : early < file.content.length)
    (hbyte : byteAt file.content early = 76) :
    ∃ late, file.Landmarks early late := by
  let telling := fun index =>
    index < file.content.length ∧ byteAt file.content index ≠ 255
  have hearly : telling early := ⟨hlt, by rw [hbyte]; decide⟩
  have hbound : early ≤ file.content.length := by omega
  obtain ⟨hlate, hne⟩ := Nat.findGreatest_spec (P := telling) hbound hearly
  refine ⟨_, Nat.le_findGreatest hbound hearly, hlate, hbyte, hne, ?_⟩
  intro index hbehind hindex
  by_contra hother
  exact Nat.findGreatest_is_greatest hbehind (by omega) ⟨hindex, hother⟩

/-- At the place of one of the two bytes the region holds something else. -/
def FileTransfer.Spoiled (file : FileTransfer) (early late : Nat)
    (flash : Memory) : Prop :=
  flash (file.base + early) = 0 ∨ flash (file.base + late) = 255

theorem FileTransfer.Spoiled.congr {file : FileTransfer} {early late : Nat}
    {first second : Memory} (h : file.Spoiled early late second)
    (hmarks : file.Landmarks early late)
    (hagree : AgreeOn file.base (file.base + file.limit) first second) :
    file.Spoiled early late first := by
  have horder := hmarks.early_le
  have hlate := hmarks.late_lt
  have hbounds := file.bounds
  unfold FileTransfer.Spoiled
  rw [hagree _ (by omega) (by omega), hagree _ (by omega) (by omega)]
  exact h

theorem FileTransfer.StoredIn.byteAt {file : FileTransfer} {flash : Memory}
    (h : file.StoredIn flash) {index : Nat}
    (hindex : index < file.content.length) :
    flash (file.base + index) = Foundation.byteAt file.content index := by
  have hstored := h.stored
  rw [Foundation.byteAt, ← hstored]
  simp [readBytes, hindex]

theorem FileTransfer.Landmarks.not_stored {file : FileTransfer}
    {early late : Nat} (hmarks : file.Landmarks early late) {flash : Memory}
    (h : file.Spoiled early late flash) : ¬ file.StoredIn flash := by
  intro hstored
  have hearly := hstored.byteAt (hmarks.early_le.trans_lt hmarks.late_lt)
  have hlate := hstored.byteAt hmarks.late_lt
  rw [hmarks.early_byte] at hearly
  rcases h with hzero | hones
  · rw [hzero] at hearly
    exact absurd hearly (by decide)
  · rw [hones] at hlate
    exact hmarks.late_byte hlate.symm

structure FileTransfer.Spoils (file : FileTransfer) (early late : Nat)
    (device : Device) (position : Nat) : Prop where
  flash : device.flash (file.base + early) = 0 ∨
    (device.flash (file.base + late) = 255 ∧
      (device.fileOperateState.flashAddr.toNat < file.base + position ∨
        file.base + file.limit ≤ device.fileOperateState.flashAddr.toNat))
  addr : device.fileOperateState.flashAddr.toNat ≤ 3866624 + position

theorem FileTransfer.Spoils.spoiled {file : FileTransfer} {early late : Nat}
    {device : Device} {position : Nat}
    (h : file.Spoils early late device position) :
    file.Spoiled early late device.flash := by
  rcases h.flash with hzero | ⟨hones, -⟩
  · exact .inl hzero
  · exact .inr hones

section Store

variable {file : FileTransfer} {early late : Nat} {device : Device}
  {part : Payload} {position : Nat}

theorem storePayload_keeps_zero {address : Nat}
    (h : device.flash address = 0) :
    (storePayload device part).flash address = 0 := by
  rw [storePayload_byte, h]
  split <;> simp

theorem FileTransfer.Landmarks.late_kept
    (hmarks : file.Landmarks early late)
    (hbytes : ∀ index < part.length.toNat,
      part.bytes index = byteAt file.content (position + index))
    (hroom : position + part.length.toNat ≤ file.content.length)
    (haddr : device.fileOperateState.flashAddr.toNat < file.base + position ∨
      file.base + file.limit ≤ device.fileOperateState.flashAddr.toNat)
    (h : device.flash (file.base + late) = 255) :
    (storePayload device part).flash (file.base + late) = 255 := by
  have hbounds := file.bounds
  have hlate := hmarks.late_lt
  rw [storePayload_byte, h]
  split
  case isFalse => rfl
  case isTrue hinside =>
    rw [hbytes _ (by omega), hmarks.behind _ (by omega) (by omega)]
    decide

theorem storePayload_flashAddr (device : Device) (part : Payload)
    (h : device.fileOperateState.flashAddr.toNat + part.length.toNat <
      2 ^ 32) :
    (storePayload device part).fileOperateState.flashAddr.toNat =
      device.fileOperateState.flashAddr.toNat + part.length.toNat := by
  rw [storePayload_fileOperateState]
  dsimp only
  rw [UInt32.toNat_add, UInt16.toNat_toUInt32, Nat.mod_eq_of_lt h]

theorem FileTransfer.Spoils.next (hmarks : file.Landmarks early late)
    (h : file.Spoils early late device position)
    (hbytes : ∀ index < part.length.toNat,
      part.bytes index = byteAt file.content (position + index))
    (hroom : position + part.length.toNat ≤ file.content.length) :
    file.Spoils early late (storePayload device part)
      (position + part.length.toNat) := by
  have hbounds := file.bounds
  have haddr := h.addr
  have hnext := storePayload_flashAddr device part (by omega)
  constructor
  · rcases h.flash with hzero | ⟨hones, hplace⟩
    · exact .inl (storePayload_keeps_zero hzero)
    · right
      refine ⟨hmarks.late_kept hbytes hroom hplace hones, ?_⟩
      rw [hnext]
      omega
  · rw [hnext]
    omega

end Store

/-! ## A packet taken for the first one of a file -/

section Reopened

variable {file : FileTransfer} {early late : Nat} {device : Device}
  {packSn : UInt8} {payload : Bytes}
  (hlength : payload.length ≤ maxPayloadLength)

theorem sample_bytes_behind {index : Nat} (h : payload.length < index) :
    (cmdBufPayload .sample (file.target.fileCommand packSn payload)).bytes
      index = 0 := by
  simp only [cmdBufPayload, CommandEnv.sample]
  split
  · exact byteAt_fileCommand_behind file.target packSn payload h
  · rfl

theorem length_drop_wrapped {part : Payload} {count : Nat}
    (hcount : part.length.toNat < count) (hsmall : count ≤ 261) :
    (part.drop count).length.toNat = 65536 + part.length.toNat - count := by
  have hlt := part.length.toNat_lt
  simp only [Payload.drop]
  rw [UInt16.toNat_sub, UInt16.toNat_ofNat']
  omega

include hlength

theorem opens_length {type : FileType} {version : UInt32} {base limit : Nat}
    (h : (cmdBufPayload .sample
      (file.target.fileCommand packSn payload)).Opens type version base
        limit) :
    4 ≤ payload.length ∧ byteAt payload 2 = 76 := by
  obtain ⟨hletter, hthird⟩ := h.start
  have hlong : 4 ≤ payload.length := by
    by_contra hshort
    exact hthird (sample_bytes_behind (by omega))
  refine ⟨hlong, ?_⟩
  rw [← hletter]
  exact (cmdBufPayload_bytes .sample file.target packSn hlength (by omega)).symm

theorem part_bytes {position : Nat} {rest : Bytes}
    (hcontent : file.content.drop position = payload ++ rest) {index : Nat}
    (hindex : index < payload.length) :
    (cmdBufPayload .sample (file.target.fileCommand packSn payload)).bytes
      index = byteAt file.content (position + index) := by
  rw [cmdBufPayload_bytes .sample file.target packSn hlength hindex]
  have hbyte := byteAt_append_left rest hindex
  rw [← hcontent] at hbyte
  rw [← hbyte]
  simp [byteAt]

end Reopened

section Restart

variable {file : FileTransfer} {early late : Nat} {begun : Device}
  {part : Payload} {position : Nat}

theorem spoils_of_restart (hmarks : file.Landmarks early late)
    (hbase : begun.fileOperateState.flashAddr.toNat = file.base)
    (herased : Erased file.base (file.base + file.limit) begun.flash)
    (hposition : 0 < position)
    (hbytes : ∀ index < part.length.toNat,
      part.bytes index = byteAt file.content (position + index))
    (hroom : position + part.length.toNat ≤ file.content.length) :
    file.Spoils early late (storePayload begun part)
      (position + part.length.toNat) := by
  have hbounds := file.bounds
  have hlate := hmarks.late_lt
  have hones := herased (file.base + late) (by omega) (by omega)
  have haddr := storePayload_flashAddr begun part (by omega)
  constructor
  · right
    refine ⟨hmarks.late_kept hbytes hroom (by omega) hones, ?_⟩
    omega
  · omega

theorem spoils_of_zeros (hmarks : file.Landmarks early late)
    (hbase : begun.fileOperateState.flashAddr.toNat = file.base)
    (herased : Erased file.base (file.base + file.limit) begun.flash)
    (hzeros : ∀ index < part.length.toNat, part.bytes index = 0)
    (hposition : early < position) :
    file.Spoils early late (storePayload begun part) position := by
  have hbounds := file.bounds
  have hlate := hmarks.late_lt
  have horder := hmarks.early_le
  have hlength := part.length.toNat_lt
  have haddr := storePayload_flashAddr begun part (by omega)
  constructor
  · by_cases hcovered : early < part.length.toNat
    · left
      rw [storePayload_byte, if_pos (by omega), hzeros _ (by omega)]
      simp
    · right
      rw [storePayload_byte, if_neg (by omega)]
      refine ⟨herased _ (by omega) (by omega), ?_⟩
      omega
  · omega

theorem spoils_of_elsewhere (hmarks : file.Landmarks early late)
    (h : file.Spoiled early late begun.flash)
    (hplace : begun.fileOperateState.flashAddr.toNat + part.length.toNat ≤
        file.base ∨
      file.base + file.limit ≤ begun.fileOperateState.flashAddr.toNat)
    (hbound : begun.fileOperateState.flashAddr.toNat ≤ 3801088)
    (hposition : 0 < position) :
    file.Spoils early late (storePayload begun part) position := by
  have hbounds := file.bounds
  have hlate := hmarks.late_lt
  have hlength := part.length.toNat_lt
  have haddr := storePayload_flashAddr begun part (by omega)
  constructor
  · rcases h with hzero | hones
    · exact .inl (storePayload_keeps_zero hzero)
    · right
      rw [storePayload_byte, if_neg (by omega)]
      refine ⟨hones, ?_⟩
      omega
  · omega

end Restart

section Landmarks

variable {file : FileTransfer} {early late : Nat} {part : Payload}
  {type : FileType} {version : UInt32} {base limit position count : Nat}

theorem FileTransfer.Landmarks.reopened_same (device : Device)
    (hmarks : file.Landmarks early late)
    (hopens : part.Opens file.type version base limit)
    (htotal : part.length.toNat = count) (hlong : 4 ≤ count)
    (hbytes : ∀ index < count,
      part.bytes index = byteAt file.content (position + index))
    (hzeros : ∀ index > count, part.bytes index = 0)
    (hroom : position + count ≤ file.content.length)
    (hearly : early ≤ position + 2) :
    file.Spoils early late
      (storePayload (device.begun part file.type version base)
        (part.drop (part.fileNameLen + 6))) (position + count) := by
  have hname : part.fileNameLen < 256 := (part.bytes 1).toNat_lt
  have hbase := begun_flashAddr device hopens
  obtain ⟨rfl, rfl⟩ : base = file.base ∧ limit = file.limit := by
    simpa using hopens.region.symm.trans file.region
  have herased := FileType.erases_erase file.region device.flash
  by_cases hfits : part.fileNameLen + 6 ≤ count
  · have hdrop := Payload.length_drop (htotal ▸ hfits)
    have hplace : position + count = position + (part.fileNameLen + 6) +
        (part.drop (part.fileNameLen + 6)).length.toNat := by
      omega
    rw [hplace]
    apply spoils_of_restart hmarks hbase herased
    · omega
    · intro index hindex
      rw [Payload.drop]
      dsimp only
      rw [hbytes _ (by omega)]
      congr 1
      omega
    · omega
  · have hdrop := length_drop_wrapped
      (by omega : part.length.toNat < part.fileNameLen + 6) (by omega)
    apply spoils_of_zeros hmarks hbase herased
    · intro index hindex
      exact hzeros _ (by omega)
    · omega

theorem FileTransfer.Landmarks.reopened_other {device : Device}
    (hmarks : file.Landmarks early late)
    (h : file.Spoiled early late device.flash) (htype : file.type ≠ type)
    (hopens : part.Opens type version base limit) (hposition : 0 < position)
    (data : Payload) :
    file.Spoils early late
      (storePayload (device.begun part type version base) data) position := by
  obtain ⟨hapart, herases⟩ := FileType.regions_apart htype file.region
    hopens.region
  have hbounds := FileType.region?_bounds hopens.region
  have hlength := data.length.toNat_lt
  have hbase := begun_flashAddr device hopens
  apply spoils_of_elsewhere hmarks
  · exact h.congr hmarks (agreeOn_applyOps device.flash herases)
  · rw [hbase]
    omega
  · rw [hbase]
    omega
  · exact hposition

end Landmarks

theorem FileTransfer.Landmarks.reopened {file : FileTransfer}
    {early late : Nat} {device : Device} {packSn : UInt8}
    {payload rest : Bytes} {position : Nat} {type : FileType}
    {version : UInt32} {base limit : Nat}
    (hmarks : file.Landmarks early late)
    (h : file.Spoiled early late device.flash)
    (hlength : payload.length ≤ maxPayloadLength)
    (hcontent : file.content.drop position = payload ++ rest)
    (hearly : early ≤ position + 2)
    (hopens : (cmdBufPayload .sample (file.target.fileCommand packSn
      payload)).Opens type version base limit) :
    file.Spoils early late
      (storePayload (device.begun (cmdBufPayload .sample
          (file.target.fileCommand packSn payload)) type version base)
        ((cmdBufPayload .sample
          (file.target.fileCommand packSn payload)).drop
            ((cmdBufPayload .sample (file.target.fileCommand packSn
              payload)).fileNameLen + 6))) (position + payload.length) := by
  obtain ⟨hlong, -⟩ := opens_length hlength hopens
  by_cases htype : file.type = type
  · subst htype
    have hroom : position + payload.length ≤ file.content.length := by
      have hlengths := congrArg List.length hcontent
      simp only [List.length_drop, List.length_append] at hlengths
      omega
    exact hmarks.reopened_same device hopens
      (cmdBufPayload_length .sample file.target packSn hlength) hlong
      (fun index hindex => part_bytes hlength hcontent hindex)
      (fun index hindex => sample_bytes_behind hindex) hroom hearly
  · exact hmarks.reopened_other h htype hopens (by omega) _

/-! ## To the end of the file -/

section Wrapped

variable {file : FileTransfer} {early late : Nat} {fd : Int} {final : Device}

theorem FileTransfer.Spoils.afterPayload {device : Device} {position : Nat}
    (hmarks : file.Landmarks early late)
    (h : file.Spoils early late device position) (rtc : RtcTime) :
    file.Spoiled early late (device.afterPayload rtc).2.flash := by
  unfold Device.afterPayload
  split
  · exact h.spoiled.congr hmarks
      (finishDownloadOption_agrees device rtc file.region)
  · exact h.spoiled

theorem FileTransfer.Spoils.packet {device next : Device} {position : Nat}
    {packSn : UInt8} {payload rest : Bytes} {ret : DownloadRet}
    (hmarks : file.Landmarks early late)
    (h : file.Spoils early late device position)
    (hpos : 1 ≤ payload.length) (hlength : payload.length ≤ maxPayloadLength)
    (hcontent : file.content.drop position = payload ++ rest)
    (hearly : early ≤ position + 2) (hret : ret ≠ .err)
    (hdownload : downloadFile device CommandEnv.sample.rtc packSn
      (cmdBufPayload .sample (file.target.fileCommand packSn payload)) =
        (ret, next)) :
    ∃ stored, file.Spoils early late stored (position + payload.length) ∧
      stored.wncDevice = device.wncDevice ∧
      (ret, next) = stored.afterPayload CommandEnv.sample.rtc := by
  have hcases := receivePacket_received device packSn
    (cmdBufPayload .sample (file.target.fileCommand packSn payload))
  generalize hreceived : receivePacket device packSn (cmdBufPayload .sample
    (file.target.fileCommand packSn payload)) = result at hcases
  cases hcases with
  | wrong hseq =>
      rw [downloadFile_refused _ hreceived] at hdownload
      cases hdownload
      exact absurd rfl hret
  | refuses fileType version hseq hsn hnone =>
      rw [downloadFile_refused _ hreceived] at hdownload
      cases hdownload
      exact absurd rfl hret
  | opens type version base limit hseq hsn hopens =>
      rw [downloadFile_received _ hreceived] at hdownload
      exact ⟨_, hmarks.reopened h.spoiled hlength hcontent hearly hopens, rfl,
        hdownload.symm⟩
  | next hseq hsn =>
      rw [downloadFile_received _ hreceived] at hdownload
      have htotal := cmdBufPayload_length .sample file.target packSn hlength
      have hroom : position + payload.length ≤ file.content.length := by
        have hlengths := congrArg List.length hcontent
        simp only [List.length_drop, List.length_append] at hlengths
        omega
      have hcounted : file.Spoils early late device.countPacket position :=
        ⟨h.flash, h.addr⟩
      have hstored := hcounted.next hmarks
        (fun index hindex => part_bytes hlength hcontent (htotal ▸ hindex))
        (htotal.symm ▸ hroom)
      rw [htotal] at hstored
      exact ⟨_, hstored, rfl, hdownload.symm⟩

theorem afterPayload_downloading {stored next : Device} {rtc : RtcTime}
    (h : (.downloading, next) = stored.afterPayload rtc) : next = stored := by
  unfold Device.afterPayload at h
  split at h
  · cases h
  · cases h
    rfl

theorem FileTransfer.Spoils.rest {parts : List Bytes}
    {stored next : Device} {ret : DownloadRet} {later : List (List Effect)}
    {position number : Nat} (hmarks : file.Landmarks early late)
    (h : file.Spoils early late stored position)
    (hid : file.target.id = stored.wncDevice.id ∨ file.target.id = 0)
    (hnext : (ret, next) = stored.afterPayload CommandEnv.sample.rtc)
    (hcontent : file.content.drop position = parts.flatten)
    (hparts : ∀ part ∈ parts, 1 ≤ part.length ∧
      part.length ≤ maxPayloadLength)
    (hearly : early ≤ position + 2)
    (hlater : deliverAll (fun _ => .sample) fd number next
      (frameSequence file.target number parts) = some (later, final))
    (horder : parts = [] ∨ (ret = .downloading ∧
      ReturnsInOrder later parts.length)) :
    file.Spoiled early late final.flash := by
  induction parts generalizing stored next ret later position number with
  | nil =>
      cases hlater
      have hspoiled := h.afterPayload hmarks CommandEnv.sample.rtc
      rw [← hnext] at hspoiled
      exact hspoiled
  | cons part parts ih =>
      obtain ⟨rfl, hreturns⟩ := horder.resolve_left (by simp)
      obtain rfl := afterPayload_downloading hnext
      obtain ⟨hpos, hlength⟩ := hparts part List.mem_cons_self
      obtain ⟨ret, following, rets, hdownload, hret, hlater, hagain⟩ :=
        deliverAll_cons_inv hid hlater hreturns
      obtain ⟨stored, hspoils, hdevice, hafter⟩ :=
        h.packet hmarks hpos hlength hcontent hearly hret hdownload
      apply ih hspoils
      · rw [hdevice]
        exact hid
      · exact hafter
      · rw [← List.drop_drop, hcontent, List.flatten_cons, List.drop_left]
      · exact fun other hother => hparts other (List.mem_cons_of_mem _ hother)
      · omega
      · exact hlater
      · exact hagain

/-- Packet 257 is not appended: if it is not an error, it spoils the region. -/
theorem FileTransfer.Ready.wraps {device : Device} {sent : Nat}
    {part : Bytes} {parts : List Bytes} {effects : List (List Effect)}
    (h : file.Ready device sent)
    (hseq : device.fileOperateState.packetSeq = 0)
    (hid : file.target.id = device.wncDevice.id ∨ file.target.id = 0)
    (hcontent : file.content.drop sent = (part :: parts).flatten)
    (hparts : ∀ other ∈ part :: parts, 1 ≤ other.length ∧
      other.length ≤ maxPayloadLength)
    (hdeliver : deliverAll (fun _ => .sample) fd 257 device
      (frameSequence file.target 257 (part :: parts)) = some (effects, final))
    (horder : ReturnsInOrder effects (parts.length + 1)) :
    ∃ early late, file.Landmarks early late ∧
      file.Spoiled early late final.flash := by
  obtain ⟨hpos, hlength⟩ := hparts part List.mem_cons_self
  obtain ⟨ret, next, rets, hdownload, hret, hlater, hagain⟩ :=
    deliverAll_cons_inv hid hdeliver horder
  have hsn : UInt8.ofNat 257 = 1 := rfl
  have hcases := receivePacket_received device (UInt8.ofNat 257)
    (cmdBufPayload .sample (file.target.fileCommand (UInt8.ofNat 257) part))
  generalize hreceived : receivePacket device (UInt8.ofNat 257)
    (cmdBufPayload .sample (file.target.fileCommand (UInt8.ofNat 257) part)) =
      result at hcases
  cases hcases with
  | wrong hwrong =>
      rw [hseq] at hwrong
      exact absurd hsn.symm hwrong
  | refuses fileType version _ _ hnone =>
      rw [downloadFile_refused _ hreceived] at hdownload
      cases hdownload
      exact absurd rfl hret
  | next _ hne => exact absurd hsn hne
  | opens type version base limit _ _ hopens =>
      rw [downloadFile_received _ hreceived] at hdownload
      obtain ⟨hlong, hletter⟩ := opens_length hlength hopens
      have hbyte : byteAt file.content (sent + 2) = 76 := by
        rw [← part_bytes hlength hcontent (by omega : 2 < part.length)]
        exact hopens.start.1
      have hlengths := congrArg List.length hcontent
      simp only [List.length_drop, List.flatten_cons,
        List.length_append] at hlengths
      obtain ⟨late, hmarks⟩ := exists_landmarks (by omega) hbyte
      have hlate := hmarks.late_lt
      have horder := hmarks.early_le
      have hfile := file.bounds
      have hspoiled : file.Spoiled (sent + 2) late device.flash := by
        right
        apply h.filling.holds.behind
        · rw [List.length_take_of_le h.sent_le]
          omega
        · omega
      have hspoils := hmarks.reopened hspoiled hlength hcontent le_rfl hopens
      have hrest : file.content.drop (sent + part.length) = parts.flatten := by
        rw [← List.drop_drop, hcontent, List.flatten_cons, List.drop_left]
      refine ⟨sent + 2, late, hmarks, ?_⟩
      exact hspoils.rest hmarks hid hdownload.symm hrest
        (fun other hother => hparts other (List.mem_cons_of_mem _ hother))
        (by omega) hlater hagain

theorem FileTransfer.Ready.reaches_wrap {parts : List Bytes}
    {device : Device} {sent number : Nat} {effects : List (List Effect)}
    (h : file.Ready device sent)
    (hseq : device.fileOperateState.packetSeq = UInt8.ofNat number)
    (hid : file.target.id = device.wncDevice.id ∨ file.target.id = 0)
    (hcontent : file.content.drop sent = parts.flatten)
    (hparts : ∀ part ∈ parts, 1 ≤ part.length ∧
      part.length ≤ maxPayloadLength)
    (hlow : 1 ≤ number) (hhigh : number ≤ 256)
    (hcount : 256 < number + parts.length)
    (hdeliver : deliverAll (fun _ => .sample) fd (number + 1) device
      (frameSequence file.target (number + 1) parts) = some (effects, final))
    (horder : ReturnsInOrder effects parts.length) :
    ∃ early late, file.Landmarks early late ∧
      file.Spoiled early late final.flash := by
  induction parts generalizing device sent number effects with
  | nil =>
      simp only [List.length_nil] at hcount
      omega
  | cons part parts ih =>
      by_cases hlast : number = 256
      · subst hlast
        exact h.wraps hseq hid hcontent hparts hdeliver horder
      · obtain ⟨hpos, hlength⟩ := hparts part List.mem_cons_self
        simp only [List.length_cons] at hcount
        have hsn : UInt8.ofNat (number + 1) ≠ 1 :=
          ofNat_ne_one (by omega) (by omega)
        obtain ⟨stored, hstored, hready, hcounted, hdevice, -⟩ :=
          h.next_download .sample hseq hsn hcontent hlength
        obtain ⟨ret, next, rets, hdownload, -, hlater, hagain⟩ :=
          deliverAll_cons_inv hid hdeliver horder
        obtain ⟨rfl, horder⟩ := hagain.resolve_left (by
          rintro rfl
          simp only [List.length_nil] at hcount
          omega)
        obtain rfl := afterPayload_downloading (hdownload.symm.trans hstored)
        apply ih hready hcounted
        · rw [hdevice]
          exact hid
        · rw [← List.drop_drop, hcontent, List.flatten_cons, List.drop_left]
        · exact fun other hother =>
            hparts other (List.mem_cons_of_mem _ hother)
        · omega
        · omega
        · omega
        · exact hlater
        · exact horder

end Wrapped

theorem FileTransfer.not_received_of_many_packets (file : FileTransfer)
    (fd : Int) {device : Device} (hidle : device.fileOperateState = .reset)
    (hid : file.target.id = device.wncDevice.id ∨ file.target.id = 0)
    (hcount : 256 < file.payloads.length) :
    ¬ file.Received (fun _ => .sample) fd device := by
  rintro ⟨effects, final, hdeliver, horder, hstored⟩
  have hseq : device.fileOperateState.packetSeq = 0 := by
    rw [hidle]
    rfl
  simp only [payloads, List.length_cons] at hcount horder
  obtain ⟨stored, hfirst, hready, hcounted, hdevice, -⟩ :=
    file.first_download .sample hseq
  obtain ⟨ret, next, rets, hdownload, -, hlater, hagain⟩ :=
    deliverAll_cons_inv hid hdeliver horder
  obtain ⟨rfl, horder⟩ := hagain.resolve_left (by
    intro hnil
    rw [hnil, List.length_nil] at hcount
    omega)
  obtain rfl := afterPayload_downloading (hdownload.symm.trans hfirst)
  obtain ⟨early, late, hmarks, hspoiled⟩ := hready.reaches_wrap hcounted
    (by rw [hdevice]; exact hid) List.drop_left file.length_later le_rfl
    (by omega) (by omega) hlater horder
  exact hmarks.not_stored hspoiled hstored

/--
From the idle state a file is received and stored, whatever lies behind the
command buffer, exactly if it is sent in at most 256 packets.
-/
theorem received_iff_few_packets (file : FileTransfer) (fd : Int)
    {device : Device} (hidle : device.fileOperateState = .reset)
    (hid : file.target.id = device.wncDevice.id ∨ file.target.id = 0) :
    (∀ env, file.Received env fd device) ↔ file.payloads.length ≤ 256 := by
  constructor
  · intro hreceived
    by_contra hmany
    exact file.not_received_of_many_packets fd hidle hid (by omega)
      (hreceived fun _ => .sample)
  · intro hfew env
    exact file.received_of_few_packets env fd hidle hid hfew

/-- `LN_sensor_1` with `count` bytes, each of them in a packet of its own. -/
def sensorFile (count : Nat) (h : count ≤ 65536) : FileTransfer where
  target := ⟨0, [76, 78, 0, 0], rfl⟩
  mark := 1
  name := ascii "LN_sensor_1"
  first := []
  later := List.replicate count [65]
  type := .sensorList
  version := 1
  base := sensorListFileAddr
  limit := maxConfigFileSize
  mark_ne_zero := by decide
  length_name := by decide
  fileType := by decide
  hasVersion := by decide
  region := by decide
  length_first := by decide
  length_later := by
    intro part hpart
    rw [List.eq_of_mem_replicate hpart]
    decide
  length_content := by
    rw [List.nil_append, List.length_flatten, List.map_replicate,
      List.sum_replicate_nat]
    exact (Nat.mul_one count).symm ▸ h

theorem received_iff_few_packets_sensor :
    (∀ env, (sensorFile 3 (by decide)).Received env 0 Device.blank) ↔
      (sensorFile 3 (by decide)).payloads.length ≤ 256 :=
  received_iff_few_packets (sensorFile 3 (by decide)) 0 rfl (.inr rfl)

/-- A file of 256 bytes, sent in 257 packets, is not received. -/
theorem long_file_not_received :
    (sensorFile 256 (by decide)).payloads.length = 257 ∧
      ¬ (sensorFile 256 (by decide)).Received (fun _ => .sample) 0
        Device.blank := by
  have hlength : (sensorFile 256 (by decide)).payloads.length = 257 :=
    congrArg (· + 1) List.length_replicate
  refine ⟨hlength, ?_⟩
  apply FileTransfer.not_received_of_many_packets
  · rfl
  · exact .inr rfl
  · omega

end WncFirmware
