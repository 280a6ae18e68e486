import WncFirmware.Foundation.NorFlash
import WncFirmware.Foundation.Scanf
import WncFirmware.Tcp.Commands

/-!
# Device parameters in the embedded flash

The page of the flash controller that `embedded_flash.c` uses: the loader, the
writer with its erase and its eleven half-words, and the check at boot.  How the
controller ends an operation is an argument; it always ends before
`FMC_B1_WaitReady` gives up, so that there is no busy flag and no
`FMC_TIMEOUT_ERR`.
-/

namespace WncFirmware.Embedded

open WncFirmware.Foundation

/-! ## `strtol` with base 0 -/

/-- The value of a digit; a character that is no digit has the value 16. -/
def digitValue (char : UInt8) : Nat :=
  if isDigit char then char.toNat - 48
  else if 97 ≤ char.toNat ∧ char.toNat ≤ 102 then char.toNat - 87
  else if 65 ≤ char.toNat ∧ char.toNat ≤ 70 then char.toNat - 55
  else 16

/-- The base that the first characters choose, and the text behind them. -/
def chooseBase (text : Bytes) : Nat × Bytes :=
  if byteAt text 0 = 48 then
    if (byteAt text 1 = 120 ∨ byteAt text 1 = 88) ∧
        digitValue (byteAt text 2) < 16 then (16, text.drop 2)
    else (8, text)
  else (10, text)

def magnitude (base : Nat) (text : Bytes) : Nat :=
  (text.takeWhile fun char => decide (digitValue char < base)).foldl
    (fun value char => value * base + digitValue char) 0

/-- A `long` has 32 bits; a number out of its range becomes the nearest one. -/
def strtol (text : Bytes) : Int :=
  let signed := scanSign (text.dropWhile isSpace)
  let chosen := chooseBase signed.2
  let number : Int := magnitude chosen.1 chosen.2
  if signed.1 then max (-2147483648) (-number) else min 2147483647 number

example : strtol (ascii " -0x1Fz") = -31 ∧ strtol (ascii "0178") = 15 ∧
    strtol (ascii "2448000123") = 2147483647 := by decide +kernel

/-! ## The flash controller -/

inductive FmcState where
  | ready
  | wrperr
  | pgerr
  deriving DecidableEq, Repr

/-- How the controller ends an operation. -/
inductive FmcOutcome where
  | done
  | writeProtected
  | notErased
  deriving DecidableEq, Repr

/-- Nothing but a reset clears the two error flags. -/
structure Fmc where
  flash : Memory
  wpef : Bool
  pgef : Bool

namespace Fmc

def reset (fmc : Fmc) : Fmc := ⟨fmc.flash, false, false⟩

def getB1State (fmc : Fmc) : FmcState :=
  if fmc.wpef then .wrperr else if fmc.pgef then .pgerr else .ready

def perform (fmc : Fmc) (op : FlashOp) : FmcOutcome → Fmc
  | .done => { fmc with flash := op.apply fmc.flash }
  | .writeProtected => { fmc with wpef := true }
  | .notErased => { fmc with pgef := true }

/--
The frame of `FMC_ErasePage` and `FMC_ProgramHalfWord` in bank 1.  The variable
that takes the state after the operation hides the one that is returned, so the
state returned is the one before the operation.
-/
def operate (fmc : Fmc) (op : FlashOp) (outcome : FmcOutcome) :
    FmcState × Fmc :=
  let tempState := fmc.getB1State
  (tempState, if tempState = .ready then fmc.perform op outcome else fmc)

def erasePage (fmc : Fmc) (address : Nat) (outcome : FmcOutcome) :
    FmcState × Fmc :=
  fmc.operate (.erase address 2048) outcome

def programHalfWord (fmc : Fmc) (address : Nat) (data : UInt16)
    (outcome : FmcOutcome) : FmcState × Fmc :=
  fmc.operate (.program address (littleEndian16 data)) outcome

end Fmc

/-! ## Loading and saving -/

def deviceParamsAddress : Nat := 0x08007800

def sizeofWncDevice : Nat := 22

/--
`id_str`, `eth_mac`, `reserved` and `id` lie at 0, 10, 16 and 18.  If `id` is
erased, `strtol` stops at its bytes at the latest.
-/
def loadedParams (image : Bytes) : DeviceParams where
  id := if read32 image 18 = 0xffffffff then UInt32.ofInt (strtol image)
    else read32 image 18
  ethMac := slice image 10 6

def getDeviceParams (flash : Memory) : DeviceParams :=
  loadedParams (readBytes flash deviceParamsAddress sizeofWncDevice)

def programLoop (data : Bytes) (outcome : Nat → FmcOutcome) :
    Nat → Nat → Fmc → Bool × Fmc
  | 0, _, fmc => (true, fmc)
  | left + 1, i, fmc =>
      let programmed := fmc.programHalfWord (deviceParamsAddress + i * 2)
        (read16 data (i * 2)) (outcome (i + 1))
      if programmed.1 = .ready then
        programLoop data outcome left (i + 1) programmed.2
      else (false, programmed.2)

def saveDeviceParams (fmc : Fmc) (data : Bytes) (outcome : Nat → FmcOutcome) :
    Bool × Fmc :=
  let erased := fmc.erasePage deviceParamsAddress (outcome 0)
  if erased.1 = .ready then
    programLoop data outcome (sizeofWncDevice / 2) 0 erased.2
  else (false, erased.2)

/-- `DEFAULT_DEVICE_PARAMS` as it lies in memory. -/
def defaultImage : Bytes :=
  ascii "448" ++ List.replicate 7 0 ++ Tcp.defaultDeviceParams.ethMac ++
    littleEndian16 0 ++ littleEndian32 Tcp.defaultDeviceParams.id

def initDeviceParam (fmc : Fmc) (outcome : Nat → FmcOutcome) : Bool × Fmc :=
  saveDeviceParams fmc defaultImage outcome

/-- `tmp_device`, with what was on the stack in the fields nobody assigns. -/
def tmpDevice (stack : Bytes) (id : UInt32) (mac : Bytes) : Bytes :=
  slice stack 0 10 ++ slice mac 0 6 ++ slice stack 16 2 ++ littleEndian32 id

def setDeviceIdAndMac (fmc : Fmc) (stack : Bytes) (id : UInt32) (mac : Bytes)
    (outcome : Nat → FmcOutcome) : Bool × Fmc :=
  if Tcp.idValid id && Tcp.macValid mac then
    saveDeviceParams fmc (tmpDevice stack id mac) outcome
  else (false, fmc)

/-- The part of `user_params_init` that fills `wnc_device`. -/
def userParamsInit (fmc : Fmc) (outcome : Nat → FmcOutcome) :
    DeviceParams × Fmc :=
  let params := getDeviceParams fmc.flash
  if Tcp.macValid params.ethMac then (params, fmc)
  else (Tcp.defaultDeviceParams, (initDeviceParam fmc outcome).2)

/-! ## The end of a text -/

theorem byteAt_terminated (text rest : Bytes) {index : Nat}
    (h : index ≤ text.length) :
    byteAt (text ++ 0 :: rest) index = byteAt text index := by
  rcases Nat.lt_or_eq_of_le h with hlt | rfl
  · exact byteAt_append_left _ hlt
  · rw [byteAt_of_length_le (Nat.le_refl _)]
    exact byteAt_append_right text (0 :: rest) 0

theorem scanSign_terminated (text rest : Bytes) :
    scanSign (text ++ 0 :: rest) =
      ((scanSign text).1, (scanSign text).2 ++ 0 :: rest) := by
  cases text with
  | nil => rfl
  | cons first others =>
      by_cases hminus : first = 45
      · subst hminus
        rfl
      · by_cases hplus : first = 43
        · subst hplus
          rfl
        · simp [scanSign, hminus, hplus]

theorem dropWhile_terminated (text rest : Bytes) :
    (text ++ 0 :: rest).dropWhile isSpace =
      text.dropWhile isSpace ++ 0 :: rest := by
  induction text with
  | nil => rfl
  | cons first others ih =>
      by_cases hspace : isSpace first <;> simp [hspace, ih]

theorem chooseBase_le (text : Bytes) : (chooseBase text).1 ≤ 16 := by
  unfold chooseBase
  split <;> (try split) <;> simp

theorem chooseBase_terminated (text rest : Bytes) :
    chooseBase (text ++ 0 :: rest) =
      ((chooseBase text).1, (chooseBase text).2 ++ 0 :: rest) := by
  have hzero := byteAt_terminated text rest (Nat.zero_le _)
  unfold chooseBase
  rw [hzero]
  by_cases hfirst : byteAt text 0 = 48
  · have hone : byteAt (text ++ 0 :: rest) 1 = byteAt text 1 :=
      byteAt_terminated text rest
        (lt_length_of_byteAt_ne_zero text 0 (by simp [hfirst]))
    rw [if_pos hfirst, if_pos hfirst, hone]
    by_cases hx : byteAt text 1 = 120 ∨ byteAt text 1 = 88
    · have hlength : 2 ≤ text.length := by
        apply lt_length_of_byteAt_ne_zero
        rcases hx with hx | hx <;> simp [hx]
      rw [byteAt_terminated text rest hlength]
      split
      · simp [List.drop_append_of_le_length hlength]
      · rfl
    · simp [hx]
  · simp [hfirst]

theorem magnitude_terminated {base : Nat} (text rest : Bytes)
    (hbase : base ≤ 16) :
    magnitude base (text ++ 0 :: rest) = magnitude base text := by
  have hend : decide (digitValue 0 < base) = false := by
    simpa [digitValue, isDigit] using hbase
  have hfront : (text ++ 0 :: rest).takeWhile
      (fun char => decide (digitValue char < base)) =
        text.takeWhile fun char => decide (digitValue char < base) := by
    induction text with
    | nil => simp [hend]
    | cons first others ih =>
        by_cases hdigit : digitValue first < base <;> simp [hdigit, ih]
  rw [magnitude, magnitude, hfront]

/-- `strtol` reads no further than the zero byte that ends its text. -/
theorem strtol_terminated (text rest : Bytes) :
    strtol (text ++ 0 :: rest) = strtol text := by
  simp only [strtol, dropWhile_terminated, scanSign_terminated,
    chooseBase_terminated, magnitude_terminated _ rest (chooseBase_le _)]

end WncFirmware.Embedded
