import WncFirmware.Config.Agreement
import WncFirmware.Foundation.BitRuns
import WncFirmware.Tcp.Replies

/-!
# Network parameters read and written back

What `get_device_net_params` sends is a request that `set_device_net_params`
understands: the addresses are the same, and only the netmask can be refused.
-/

namespace WncFirmware.Tcp

open WncFirmware.Foundation

/-! ## Decimal numbers -/

theorem decimal_natCast (number : Nat) :
    decimal number = (Nat.toDigits 10 number).map fun char =>
      UInt8.ofNat char.toNat := by
  have htext : toString (number : Int) = Nat.repr number := rfl
  simp [decimal, ascii, htext]

theorem decimal_digit {number : Nat} (h : number < 10) :
    decimal number = [UInt8.ofNat (48 + number)] := by
  have hchar : ∀ number < 10, UInt8.ofNat number.digitChar.toNat =
      UInt8.ofNat (48 + number) := by
    decide
  rw [decimal_natCast, Nat.toDigits_of_lt_base h, List.map_singleton,
    hchar number h]

theorem decimal_append_digit {number : Nat} (h : 10 ≤ number) :
    decimal number =
      decimal (number / 10 : Nat) ++ [UInt8.ofNat (48 + number % 10)] := by
  have hlast := decimal_digit (Nat.mod_lt number (show 10 > 0 by decide))
  rw [decimal_natCast, Nat.toDigits_of_lt_base (Nat.mod_lt _ (by decide))]
    at hlast
  rw [decimal_natCast, decimal_natCast, Nat.toDigits_of_base_le (by decide) h,
    List.map_append, ← hlast]

theorem isDigit_of_lt {digit : Nat} (h : digit < 10) :
    isDigit (UInt8.ofNat (48 + digit)) = true := by
  have hall : ∀ digit < 10, isDigit (UInt8.ofNat (48 + digit)) = true := by
    decide
  exact hall digit h

theorem isDigit_decimal (number : Nat) :
    ∀ digit ∈ decimal number, isDigit digit = true := by
  induction number using Nat.strong_induction_on with
  | _ number ih =>
      intro digit hmem
      by_cases hlt : number < 10
      · rw [decimal_digit hlt, List.mem_singleton] at hmem
        exact hmem ▸ isDigit_of_lt hlt
      · rw [decimal_append_digit (by omega), List.mem_append,
          List.mem_singleton] at hmem
        rcases hmem with hmem | rfl
        · exact ih (number / 10) (by omega) digit hmem
        · exact isDigit_of_lt (Nat.mod_lt _ (by decide))

theorem digitsValue_decimal (number : Nat) :
    digitsValue (decimal number) = number := by
  have hdigit : ∀ digit < 10, (UInt8.ofNat (48 + digit)).toNat - 48 = digit := by
    decide
  induction number using Nat.strong_induction_on with
  | _ number ih =>
      by_cases hlt : number < 10
      · rw [decimal_digit hlt]
        simp only [digitsValue, List.foldl_cons, List.foldl_nil,
          hdigit number hlt]
        omega
      · have hfront := ih (number / 10) (by omega)
        have hlast := hdigit (number % 10) (Nat.mod_lt _ (by decide))
        rw [decimal_append_digit (by omega), digitsValue, List.foldl_concat,
          hlast]
        rw [digitsValue] at hfront
        rw [hfront]
        omega

theorem decimal_ne_nil (number : Nat) : decimal number ≠ [] := by
  rw [decimal_natCast]
  exact mt List.map_eq_nil_iff.mp Nat.toDigits_ne_nil

theorem scanInt_decimal (number : Nat) {rest : Bytes}
    (hrest : ∀ first ∈ rest.head?, isDigit first = false) :
    scanInt (decimal number ++ rest) = some (Int32.ofInt number, rest) := by
  rw [scanInt_digits (decimal_ne_nil number) (isDigit_decimal number) hrest,
    digitsValue_decimal]

/-! ## Addresses -/

def ipText (ip : UInt32) : Bytes :=
  decimal (byteOf ip.toNat 0).toNat ++ ascii "." ++
    decimal (byteOf ip.toNat 1).toNat ++ ascii "." ++
    decimal (byteOf ip.toNat 2).toNat ++ ascii "." ++
    decimal (byteOf ip.toNat 3).toNat

theorem ipDigitToStr_eq (ip : UInt32) :
    ipDigitToStr ip = UInt8.ofNat (ipText ip).length :: ipText ip := rfl

theorem length_ipText_le (ip : UInt32) : (ipText ip).length ≤ 15 :=
  Nat.le_of_succ_le_succ (length_ipDigitToStr_le ip)

theorem ne_zero_of_mem_ipText {ip : UInt32} {char : UInt8}
    (h : char ∈ ipText ip) : char ≠ 0 := by
  have hdecimal : ∀ number : Nat, char ∈ decimal number → char ≠ 0 := by
    rintro number hmem rfl
    exact absurd (isDigit_decimal number 0 hmem) (by decide)
  have hdot : char ∈ ascii "." → char ≠ 0 := by
    rintro hmem rfl
    exact absurd hmem (by decide)
  simp only [ipText, List.mem_append] at h
  rcases h with (((((h | h) | h) | h) | h) | h) | h
  exacts [hdecimal _ h, hdot h, hdecimal _ h, hdot h, hdecimal _ h, hdot h,
    hdecimal _ h]

theorem sscanf_ipText (ip : UInt32) :
    sscanf (ipText ip) ipFormat =
      [Int32.ofInt (byteOf ip.toNat 0).toNat,
        Int32.ofInt (byteOf ip.toNat 1).toNat,
        Int32.ofInt (byteOf ip.toNat 2).toNat,
        Int32.ofInt (byteOf ip.toNat 3).toNat] := by
  have hdot : ∀ rest : Bytes, ∀ first ∈ (46 :: rest).head?,
      isDigit first = false := by
    rintro rest first hfirst
    cases hfirst
    decide
  have hend : ∀ first ∈ ([] : Bytes).head?, isDigit first = false := nofun
  have hpoint : ascii "." = [46] := by decide
  have hlast := scanInt_decimal (byteOf ip.toNat 3).toNat hend
  rw [List.append_nil] at hlast
  simp only [ipText, hpoint, List.append_assoc, List.cons_append,
    List.nil_append, ipFormat, sscanf, scanInt_decimal _ (hdot _), if_true, hlast]

theorem toUInt32_ofInt_byte (byte : UInt8) :
    inByteRange (Int32.ofInt byte.toNat) = true ∧
      (Int32.ofInt byte.toNat).toUInt32 = byte.toUInt32 := by
  have hall : ∀ number : Nat, number < 256 →
      inByteRange (Int32.ofInt number) = true ∧
      (Int32.ofInt number).toUInt32 = (UInt8.ofNat number).toUInt32 := by
    decide +kernel
  have hbyte := hall byte.toNat byte.toNat_lt
  rwa [UInt8.ofNat_toNat] at hbyte

theorem or_shifted {place : Nat} (high : Nat) {low : Nat} (h : low < 2 ^ place) :
    high * 2 ^ place ||| low = high * 2 ^ place + low := by
  rw [Nat.mul_comm, Nat.two_pow_add_eq_or_of_lt h]

theorem or_bytes {first second third : Nat} (fourth : Nat) (hfirst : first < 256)
    (hsecond : second < 256) (hthird : third < 256) :
    fourth * 2 ^ 24 ||| third * 2 ^ 16 ||| second * 2 ^ 8 ||| first =
      ((fourth * 256 + third) * 256 + second) * 256 + first := by
  have hhigh : fourth * 2 ^ 24 ||| third * 2 ^ 16 =
      (fourth * 256 + third) * 2 ^ 16 := by
    rw [or_shifted _ (by omega)]
    omega
  have hmiddle : (fourth * 256 + third) * 2 ^ 16 ||| second * 2 ^ 8 =
      ((fourth * 256 + third) * 256 + second) * 2 ^ 8 := by
    rw [or_shifted _ (by omega)]
    omega
  rw [hhigh, hmiddle, or_shifted _ (show first < 2 ^ 8 from hfirst)]
  omega

theorem join_bytes (ip : UInt32) :
    ((byteOf ip.toNat 3).toUInt32 <<< 24) |||
        ((byteOf ip.toNat 2).toUInt32 <<< 16) |||
        ((byteOf ip.toNat 1).toUInt32 <<< 8) |||
        (byteOf ip.toNat 0).toUInt32 = ip := by
  have hip := ip.toNat_lt
  rw [← UInt32.toNat_inj]
  simp only [UInt32.toNat_or, UInt32.toNat_shiftLeft, UInt8.toNat_toUInt32,
    byteOf, UInt8.toNat_ofNat', UInt32.reduceToNat, Nat.reduceMod,
    Nat.shiftLeft_eq]
  rw [Nat.mod_eq_of_lt (show ip.toNat / 256 ^ 3 % 2 ^ 8 * 2 ^ 24 < _ by omega),
    Nat.mod_eq_of_lt (show ip.toNat / 256 ^ 2 % 2 ^ 8 * 2 ^ 16 < _ by omega),
    Nat.mod_eq_of_lt (show ip.toNat / 256 ^ 1 % 2 ^ 8 * 2 ^ 8 < _ by omega),
    or_bytes _ (by omega) (by omega) (by omega)]
  omega

theorem ipValue_ipText (ip : UInt32) : ipValue (ipText ip) = some ip := by
  have hfirst := toUInt32_ofInt_byte (byteOf ip.toNat 0)
  have hsecond := toUInt32_ofInt_byte (byteOf ip.toNat 1)
  have hthird := toUInt32_ofInt_byte (byteOf ip.toNat 2)
  have hfourth := toUInt32_ofInt_byte (byteOf ip.toNat 3)
  simp only [ipValue, sscanf_ipText, hfirst.1, hsecond.1, hthird.1, hfourth.1,
    Bool.and_self, if_true, hfirst.2, hsecond.2, hthird.2, hfourth.2,
    join_bytes]

/-! ## Addresses in the payload -/

structure HasIp (payload : Bytes) (index : Nat) (ip : UInt32) : Prop where
  fieldLen_eq : fieldLen payload index = (ipText ip).length
  nextField_eq : nextField payload index = index + (ipDigitToStr ip).length
  copyField_eq : copyField payload index =
    some (ipText ip ++ List.replicate (16 - (ipText ip).length) 0)

theorem hasIp_append (front rest : Bytes) (ip : UInt32) :
    HasIp (front ++ (ipDigitToStr ip ++ rest)) front.length ip := by
  have hlength := length_ipText_le ip
  have hfieldLen : fieldLen (front ++ (ipDigitToStr ip ++ rest)) front.length =
      (ipText ip).length := by
    have hbyte := byteAt_append_right front (ipDigitToStr ip ++ rest) 0
    rw [Nat.add_zero] at hbyte
    rw [fieldLen, hbyte]
    exact UInt8.toNat_ofNat_of_lt' (show (ipText ip).length < 256 by omega)
  have hslice := slice_append (front ++ [UInt8.ofNat (ipText ip).length])
    (ipText ip) rest
  rw [List.length_append, List.length_singleton, List.append_assoc,
    ← List.append_assoc [_], List.singleton_append,
    ← ipDigitToStr_eq] at hslice
  refine ⟨hfieldLen, ?_, ?_⟩
  · rw [nextField, hfieldLen, ipDigitToStr_eq, List.length_cons]
    omega
  · rw [copyField, hfieldLen, stringBufferSize, if_pos (by omega), hslice]

theorem ipStrToDigit_ipText (ip : UInt32) :
    ipStrToDigit (ipText ip ++ List.replicate (16 - (ipText ip).length) 0) =
      some (some ip) := by
  have hlength := length_ipText_le ip
  obtain ⟨room, hroom⟩ : ∃ room, 16 - (ipText ip).length = room + 1 :=
    ⟨15 - (ipText ip).length, by omega⟩
  have htext : ∀ char ∈ ipText ip, (char != 0) = true := fun char hmem =>
    bne_iff_ne.mpr (ne_zero_of_mem_ipText hmem)
  have hstring : cString (ipText ip ++ List.replicate (room + 1) 0) =
      ipText ip := by
    rw [cString, List.takeWhile_append_of_pos htext, List.replicate_succ,
      List.takeWhile_cons_of_neg (by decide), List.append_nil]
  rw [hroom, ipStrToDigit, if_pos (by simp), hstring, ipValue_ipText]

/-! ## The request -/

/-- The operation byte, the mode, three addresses, and what follows. -/
def sentNetParams (ip netmask gateway : UInt32) (behind : Bytes) : Bytes :=
  [1, 1] ++ ipDigitToStr ip ++ ipDigitToStr netmask ++ ipDigitToStr gateway ++
    behind

section Request

variable (ip netmask gateway : UInt32) (behind : Bytes)

theorem hasIp_sent : HasIp (sentNetParams ip netmask gateway behind) 2 ip := by
  have hfield := hasIp_append [1, 1] (ipDigitToStr netmask ++
    ipDigitToStr gateway ++ behind) ip
  simp only [sentNetParams, List.append_assoc] at hfield ⊢
  exact hfield

theorem hasIp_netmask_sent : HasIp (sentNetParams ip netmask gateway behind)
    (netmaskIndex (sentNetParams ip netmask gateway behind)) netmask := by
  have hfield := hasIp_append ([1, 1] ++ ipDigitToStr ip)
    (ipDigitToStr gateway ++ behind) netmask
  rw [netmaskIndex, (hasIp_sent ip netmask gateway behind).nextField_eq]
  simp only [sentNetParams, List.append_assoc, List.length_append,
    List.length_cons, List.length_nil, Nat.reduceAdd] at hfield ⊢
  exact hfield

theorem hasIp_gateway_sent : HasIp (sentNetParams ip netmask gateway behind)
    (gatewayIndex (sentNetParams ip netmask gateway behind)) gateway := by
  have hfield := hasIp_append ([1, 1] ++ ipDigitToStr ip ++ ipDigitToStr netmask)
    behind gateway
  rw [gatewayIndex, (hasIp_netmask_sent ip netmask gateway behind).nextField_eq,
    netmaskIndex, (hasIp_sent ip netmask gateway behind).nextField_eq,
    Nat.add_assoc]
  simp only [sentNetParams, List.append_assoc, List.length_append,
    List.length_cons, List.length_nil, Nat.reduceAdd] at hfield ⊢
  exact hfield

theorem readNetParams_sent {dataLen : UInt16}
    (hlength : dataLen.toNat = (sentNetParams ip netmask gateway []).length) :
    readNetParams (sentNetParams ip netmask gateway behind) dataLen =
      some (if netmaskValid netmask then some (.dedicated ip gateway netmask)
        else none) := by
  have hip := hasIp_sent ip netmask gateway behind
  have hnetmask := hasIp_netmask_sent ip netmask gateway behind
  have hgateway := hasIp_gateway_sent ip netmask gateway behind
  have hmode : ¬byteAt (sentNetParams ip netmask gateway behind) 1 = 0 := by
    change ¬(1 : UInt8) = 0
    decide
  have htotal : dataLen.toNat = (ipText ip).length + (ipText netmask).length +
      (ipText gateway).length + 5 := by
    rw [hlength]
    simp only [sentNetParams, ipDigitToStr_eq, List.length_append,
      List.length_cons, List.length_nil]
    omega
  rw [readNetParams]
  simp only [hmode, if_false, hip.fieldLen_eq, hip.copyField_eq,
    hnetmask.fieldLen_eq, hnetmask.copyField_eq, hgateway.fieldLen_eq,
    hgateway.copyField_eq, htotal, ne_eq, not_true_eq_false,
    Option.bind_eq_bind, Option.bind_some, netmaskStrToDigit,
    ipStrToDigit_ipText, withValue]
  by_cases hvalid : netmaskValid netmask = true
  · simp only [hvalid, if_true]
  · simp only [hvalid, Bool.false_eq_true, if_false]

theorem length_sentNetParams_le :
    (sentNetParams ip netmask gateway []).length ≤ 50 := by
  have hip := length_ipText_le ip
  have hnetmask := length_ipText_le netmask
  have hgateway := length_ipText_le gateway
  simp only [sentNetParams, ipDigitToStr_eq, List.length_append,
    List.length_cons, List.length_nil]
  omega

end Request

/-- Ones and then zeros, in host order. -/
def IsNetmask (netmask : UInt32) : Prop :=
  ∃ zeros ≤ 32, OnesAbove zeros (swapBytes netmask).toBitVec

theorem netmaskValid_iff (netmask : UInt32) :
    netmaskValid netmask = true ↔ IsNetmask netmask := by
  rw [netmaskValid, beq_iff_eq, ← UInt32.toBitVec_inj, UInt32.toBitVec_or,
    UInt32.toBitVec_sub]
  exact or_pred_eq_allOnes_iff _

theorem net_params_written_back (env : CommandEnv) (device : Device)
    (ip gateway netmask : UInt32) (behind : Bytes) :
    let sent := 1 :: getDeviceNetParams { env with
      isDhcpEnable := false
      ipAddr := ip
      netmask := netmask
      gwAddr := gateway }
    ∃ done next,
      setDeviceNetParams device (sent ++ behind) (UInt16.ofNat sent.length) =
        some (done, next) ∧
      (done = true ↔ IsNetmask netmask) ∧
      (done = true →
        next.wncConfigBak = { device.wncConfigBak with
          netConfig := { device.wncConfigBak.netConfig with
            netMode := dedicatedMode
            ip := ip
            gateway := gateway
            netmask := netmask } } ∧
        next.wncConfig = next.wncConfigBak ∧
        mainCopy next.flash = next.wncConfigBak ∧
        bakCopy next.flash = next.wncConfigBak) ∧
      (done = false → next = device) := by
  intro sent
  have hsent : sent = sentNetParams ip netmask gateway [] := by
    simp only [sent, getDeviceNetParams, sentNetParams, List.append_assoc,
      List.append_nil, List.cons_append, List.nil_append]
    rfl
  have hlength : (UInt16.ofNat sent.length).toNat =
      (sentNetParams ip netmask gateway []).length := by
    rw [hsent]
    exact UInt16.toNat_ofNat_of_lt' ((length_sentNetParams_le _ _ _).trans_lt
      (show 50 < 65536 by decide))
  have hread := readNetParams_sent ip netmask gateway behind hlength
  have hbehind : sent ++ behind = sentNetParams ip netmask gateway behind := by
    rw [hsent, sentNetParams, List.append_nil]
    rfl
  rw [hbehind, setDeviceNetParams, hread, Option.map_some,
    ← netmaskValid_iff]
  by_cases hvalid : netmaskValid netmask = true
  · rw [if_pos hvalid]
    refine ⟨true, _, rfl, iff_of_true rfl hvalid, fun _ => ⟨rfl, rfl, ?_, ?_⟩,
      fun hrefused => absurd hrefused (by decide)⟩
    · exact mainCopy_setWncConfigOps _ _
    · exact bakCopy_setWncConfigOps _ _
  · rw [if_neg hvalid]
    exact ⟨false, _, rfl, iff_of_false Bool.false_ne_true hvalid,
      fun hdone => absurd hdone (by decide), fun _ => rfl⟩

end WncFirmware.Tcp
