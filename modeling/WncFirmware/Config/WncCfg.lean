import Mathlib.Tactic.Tauto
import WncFirmware.FlashLayout

/-!
# The configuration record

`wnc_cfg_t` with its packed memory image, the boot-time check and the factory
defaults.
-/

namespace WncFirmware

open WncFirmware.Foundation

structure NetCfg where
  netMode : UInt8
  ip : UInt32
  gateway : UInt32
  netmask : UInt32
  pcIp : UInt32
  hvcsIp : UInt32
  deriving DecidableEq, Repr

structure LoraCfg where
  threshold : UInt8
  rfFreq : UInt32
  rfPower : UInt8
  timeOffline : UInt16
  deriving DecidableEq, Repr

structure WncCfg where
  version : UInt32
  netConfig : NetCfg
  loraConfig : LoraCfg
  deriving DecidableEq, Repr

def configVersion : UInt32 := 0x20170503

def dhcpMode : UInt8 := 0
def dedicatedMode : UInt8 := 1

/-! ## The packed image -/

def WncCfg.encode (config : WncCfg) : Bytes :=
  littleEndian32 config.version ++
    config.netConfig.netMode :: littleEndian32 config.netConfig.ip ++
    littleEndian32 config.netConfig.gateway ++
    littleEndian32 config.netConfig.netmask ++
    littleEndian32 config.netConfig.pcIp ++
    littleEndian32 config.netConfig.hvcsIp ++
    config.loraConfig.threshold :: littleEndian32 config.loraConfig.rfFreq ++
    config.loraConfig.rfPower :: littleEndian16 config.loraConfig.timeOffline

/-- `sizeof(g_wnc_config)` -/
def wncCfgSize : Nat := 33

def WncCfg.decode (bytes : Bytes) : WncCfg where
  version := read32 bytes 0
  netConfig :=
    { netMode := byteAt bytes 4
      ip := read32 bytes 5
      gateway := read32 bytes 9
      netmask := read32 bytes 13
      pcIp := read32 bytes 17
      hvcsIp := read32 bytes 21 }
  loraConfig :=
    { threshold := byteAt bytes 25
      rfFreq := read32 bytes 26
      rfPower := byteAt bytes 30
      timeOffline := read16 bytes 31 }

@[simp] theorem WncCfg.length_encode (config : WncCfg) :
    config.encode.length = wncCfgSize := rfl

@[simp] theorem WncCfg.decode_encode (config : WncCfg) :
    WncCfg.decode config.encode = config := by
  rcases config with
    ⟨version, ⟨netMode, ip, gateway, netmask, pcIp, hvcsIp⟩,
      ⟨threshold, rfFreq, rfPower, timeOffline⟩⟩
  simp only [WncCfg.decode, WncCfg.mk.injEq, NetCfg.mk.injEq, LoraCfg.mk.injEq]
  -- the image as one list of bytes, so that each field is found by counting
  simp only [WncCfg.encode, littleEndian32, littleEndian16, List.cons_append,
    List.nil_append]
  refine ⟨?_, ⟨rfl, ?_, ?_, ?_, ?_, ?_⟩, rfl, ?_, rfl, ?_⟩
  · exact read32_of_bytes rfl rfl rfl rfl
  · exact read32_of_bytes rfl rfl rfl rfl
  · exact read32_of_bytes rfl rfl rfl rfl
  · exact read32_of_bytes rfl rfl rfl rfl
  · exact read32_of_bytes rfl rfl rfl rfl
  · exact read32_of_bytes rfl rfl rfl rfl
  · exact read32_of_bytes rfl rfl rfl rfl
  · exact read16_of_bytes rfl rfl

/-! ## Validity -/

def addressInvalid (address : UInt32) : Bool :=
  address == 0 || address == 0xffffffff

/-- `check_wnc_config` returns 0. -/
def checkWncConfig (config : WncCfg) : Bool :=
  if config.version != configVersion then false
  else if config.netConfig.netMode == dedicatedMode &&
      addressInvalid config.netConfig.ip then false
  else if config.netConfig.netMode == dedicatedMode &&
      addressInvalid config.netConfig.gateway then false
  else if config.netConfig.netMode == dedicatedMode &&
      addressInvalid config.netConfig.netmask then false
  else if config.loraConfig.rfFreq < 470300000 ||
      config.loraConfig.rfFreq > 489300000 then false
  else if config.loraConfig.rfPower > 17 || config.loraConfig.rfPower < 5 then
    false
  else true

def defaultNetCfg : NetCfg where
  netMode := dhcpMode
  ip := 0x0200a8c0
  gateway := 0x0100aec0
  netmask := 0x00ffffff
  pcIp := 0
  hvcsIp := 0

/-- `init_wnc_config` without its call of `user_init`; `threshold` keeps its value. -/
def WncCfg.withDefaultLora (config : WncCfg) : WncCfg :=
  { config with
    version := configVersion
    loraConfig :=
      { config.loraConfig with
        rfFreq := 471100000
        rfPower := 17
        timeOffline := 35 } }

/-! ## The parts of the check -/

def NetCfg.Usable (net : NetCfg) : Prop :=
  net.netMode = dedicatedMode →
    addressInvalid net.ip = false ∧ addressInvalid net.gateway = false ∧
      addressInvalid net.netmask = false

def LoraCfg.Usable (lora : LoraCfg) : Prop :=
  470300000 ≤ lora.rfFreq ∧ lora.rfFreq ≤ 489300000 ∧
    5 ≤ lora.rfPower ∧ lora.rfPower ≤ 17

instance (net : NetCfg) : Decidable net.Usable :=
  inferInstanceAs (Decidable (_ → _))

instance (lora : LoraCfg) : Decidable lora.Usable :=
  inferInstanceAs (Decidable (_ ∧ _ ∧ _ ∧ _))

theorem defaultNetCfg_usable : defaultNetCfg.Usable := by decide

theorem checkWncConfig_iff (config : WncCfg) :
    checkWncConfig config = true ↔
      config.version = configVersion ∧ config.netConfig.Usable ∧
        config.loraConfig.Usable := by
  simp only [checkWncConfig, NetCfg.Usable, LoraCfg.Usable]
  by_cases hversion : config.version = configVersion
  · by_cases hmode : config.netConfig.netMode = dedicatedMode
    · simp [hversion, hmode]
      tauto
    · simp [hversion, hmode]
      tauto
  · simp [hversion]

end WncFirmware
