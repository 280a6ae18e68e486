import WncFirmware.Config.PowerCut
import WncFirmware.Config.Runs

/-!
# Agreement of the configuration and its shadow

A setter edits `g_wnc_config_bak` and copies the whole of it over `g_wnc_config`
and over both flash copies.  It leaves foreign fields alone as long as the two
agree.  `user_init` writes `g_wnc_config` only.
-/

namespace WncFirmware

open WncFirmware.Foundation WncFirmware.Tcp

def Setter.OnlyOwnFields : Setter → WncCfg → WncCfg → Prop
  | netParams, before, after =>
      after.version = before.version ∧ after.loraConfig = before.loraConfig ∧
        after.netConfig.pcIp = before.netConfig.pcIp ∧
        after.netConfig.hvcsIp = before.netConfig.hvcsIp
  | serverIp, before, after =>
      after.version = before.version ∧ after.loraConfig = before.loraConfig ∧
        after.netConfig.netMode = before.netConfig.netMode ∧
        after.netConfig.ip = before.netConfig.ip ∧
        after.netConfig.gateway = before.netConfig.gateway ∧
        after.netConfig.netmask = before.netConfig.netmask
  | loraParams, before, after =>
      after.version = before.version ∧ after.netConfig = before.netConfig ∧
        after.loraConfig.threshold = before.loraConfig.threshold ∧
        after.loraConfig.timeOffline = before.loraConfig.timeOffline
  | offlineTimeout, before, after =>
      after.version = before.version ∧ after.netConfig = before.netConfig ∧
        after.loraConfig.threshold = before.loraConfig.threshold ∧
        after.loraConfig.rfFreq = before.loraConfig.rfFreq ∧
        after.loraConfig.rfPower = before.loraConfig.rfPower

theorem Setter.change?_onlyOwnFields {setter : Setter} {payload : Bytes}
    {dataLen : UInt16} {change : WncCfg → WncCfg}
    (h : setter.change? payload dataLen = some change) (config : WncCfg) :
    setter.OnlyOwnFields config (change config) := by
  cases setter with
  | netParams =>
      obtain ⟨request, -, rfl⟩ := Option.map_eq_some_iff.mp h
      cases request with
      | dhcp => exact ⟨rfl, rfl, rfl, rfl⟩
      | dedicated ip gateway netmask => exact ⟨rfl, rfl, rfl, rfl⟩
  | serverIp =>
      obtain ⟨request, -, rfl⟩ := Option.map_eq_some_iff.mp h
      exact ⟨rfl, rfl, rfl, rfl, rfl, rfl⟩
  | loraParams =>
      obtain ⟨request, -, rfl⟩ := Option.map_eq_some_iff.mp h
      exact ⟨rfl, rfl, rfl, rfl⟩
  | offlineTimeout =>
      obtain ⟨time, -, rfl⟩ := Option.map_eq_some_iff.mp h
      exact ⟨rfl, rfl, rfl, rfl, rfl⟩

/-! ## The shadow -/

def Device.Agrees (device : Device) : Prop :=
  device.wncConfigBak = device.wncConfig

/-- `CMD_USER_INIT` only comes when the shadow has the default network settings. -/
def InitKeepsShadow (device : Device) : DeviceEvent → Prop
  | .command _ _ frame =>
      Command.ofCode? (byteAt frame 0) = some .userInit →
        device.wncConfigBak.netConfig = defaultNetCfg
  | .reboot _ => True

theorem Device.commit_configs (device : Device)
    (change : WncCfg → WncCfg) :
    (device.commit change).wncConfig = change device.wncConfigBak ∧
      (device.commit change).wncConfigBak = change device.wncConfigBak :=
  ⟨rfl, rfl⟩

theorem Device.commit_flash (device : Device) (change : WncCfg → WncCfg) :
    (device.commit change).flash = applyOps device.flash
      (setWncConfigOps (change device.wncConfigBak)) := rfl

theorem userInit_wncConfigBak (device : Device) :
    (userInit device).wncConfigBak = device.wncConfigBak := by
  unfold userInit
  rfl

theorem userInit_agrees {device : Device} (h : device.Agrees)
    (hnet : device.wncConfigBak.netConfig = defaultNetCfg) :
    (userInit device).Agrees := by
  have hconfig : (userInit device).wncConfig =
      { device.wncConfig with netConfig := defaultNetCfg } := rfl
  rw [Device.Agrees, hconfig, userInit_wncConfigBak, ← hnet, h]

theorem acts_agrees {env : CommandEnv} {fd : Int} {frame : Bytes}
    {device next : Device} (h : device.Agrees)
    (hguard : InitKeepsShadow device (.command env fd frame))
    (hacts : Acts env device frame next) : next.Agrees := by
  cases hacts with
  | none => exact h
  | params => exact h
  | setter setter done next hrun =>
      rcases Setter.run_cases hrun with ⟨-, rfl⟩ | ⟨change, -, -, rfl⟩
      · exact h
      · exact (device.commit_configs change).2.trans
          (device.commit_configs change).1.symm
  | files result hopt =>
      obtain ⟨hconfig, hbak⟩ := sameConfigs_configureFilesOpt hopt
      rw [Device.Agrees, hconfig, hbak]
      exact h
  | userInit hcommand => exact userInit_agrees h (hguard hcommand)

theorem boot_agrees (params : DeviceParams) (flash : Memory) :
    (boot params flash).Agrees := by
  rw [Device.Agrees, boot_wncConfigBak, boot_wncConfig]

/--
If `CMD_USER_INIT` never meets a shadow with other network settings than the
defaults, then the shadow agrees with the configuration in every state reached,
and a successful setter changes its own fields only, in RAM and in both copies.
-/
theorem setters_change_own_fields {device : Device}
    (hreach : ReachedBy InitKeepsShadow device) :
    device.wncConfigBak = device.wncConfig ∧
      ∀ (setter : Setter) (payload : Bytes) (dataLen : UInt16) (next : Device),
        setter.run device payload dataLen = some (true, next) →
          setter.OnlyOwnFields device.wncConfig next.wncConfig ∧
            setter.OnlyOwnFields device.wncConfig (mainCopy next.flash) ∧
            setter.OnlyOwnFields device.wncConfig (bakCopy next.flash) := by
  have hagrees : device.Agrees := hreach.invariant boot_agrees
    fun _ _ _ _ _ hdevice hguard hacts => acts_agrees hdevice hguard hacts
  refine ⟨hagrees, ?_⟩
  intro setter payload dataLen next hrun
  rcases Setter.run_cases hrun with ⟨hrefused, -⟩ | ⟨change, -, hchange, rfl⟩
  · cases hrefused
  · have hown := setter.change?_onlyOwnFields hchange device.wncConfigBak
    rw [device.commit_flash, mainCopy_setWncConfigOps, bakCopy_setWncConfigOps,
      (device.commit_configs change).1, ← hagrees]
    exact ⟨hown, hown, hown⟩

/-! ## `CMD_USER_INIT` and the shadow -/

/-- `CMD_USER_INIT` for any device id. -/
def userInitFrame : Bytes := [241, 0, 0, 0, 0, 76, 78, 0, 0, 1, 0, 0, 242]

theorem deviceStep_userInitFrame (device : Device) :
    deviceStep device (.command .sample 0 userInitFrame) =
      some (userInit device) := by
  have haccepted : commandAccepted device userInitFrame = true := by
    have hsum : checksumCorrect userInitFrame = true := by decide
    have hid : (headerId userInitFrame == 0) = true := by decide
    simp [commandAccepted, addressed, hsum, hid]
  have hcommand :
      Command.ofCode? (byteAt userInitFrame 0) = some .userInit := by decide
  simp [deviceStep, analyzeCommand, haccepted, hcommand, handleCommand]

/-- A request for 470.3 MHz and 10 dBm. -/
def loraPayload : Bytes := [1, 0x1c, 0x08, 0x41, 0x60, 10]

/-- The configuration has the default network settings, so `CMD_USER_INIT`
leaves the shadow as it is, and a change of the radio settings follows. -/
theorem setters_change_own_fields_after_user_init :
    let flash := applyOps sampleDevice.flash (setWncConfigOps (sampleConfig 0))
    ∃ device next,
      Run deviceStep InitKeepsShadow (boot sampleParams flash)
        [.command .sample 0 userInitFrame] device ∧
      Setter.loraParams.run device loraPayload 6 = some (true, next) ∧
      next.wncConfig ≠ device.wncConfig ∧
      device.wncConfigBak = device.wncConfig ∧
      Setter.loraParams.OnlyOwnFields device.wncConfig next.wncConfig ∧
      Setter.loraParams.OnlyOwnFields device.wncConfig (mainCopy next.flash) ∧
      Setter.loraParams.OnlyOwnFields device.wncConfig (bakCopy next.flash) := by
  intro flash
  have hread : (readLoraParams loraPayload 6).isSome = true := by decide
  obtain ⟨request, hrequest⟩ := Option.isSome_iff_exists.mp hread
  let booted := boot sampleParams flash
  have hconfig : booted.wncConfig = sampleConfig 0 :=
    boot_wncConfig_of_main sampleParams (mainCopy_setWncConfigOps _ _)
      (sampleConfig_valid 0)
  have hshadow : booted.wncConfigBak = sampleConfig 0 :=
    (boot_agrees sampleParams flash).trans hconfig
  have run : Run deviceStep InitKeepsShadow booted
      [.command .sample 0 userInitFrame] (userInit booted) := by
    refine .cons (fun _ => ?_) (deviceStep_userInitFrame booted) (.nil _)
    rw [hshadow]
    rfl
  have hset : Setter.loraParams.run (userInit booted) loraPayload 6 =
      some (true, (userInit booted).commit request.change) := by
    simp [Setter.run, setLoraParams, hrequest, carryOut]
  obtain ⟨hagrees, hown⟩ :=
    setters_change_own_fields ⟨sampleParams, flash, _, run⟩
  refine ⟨_, _, run, hset, fun hsame => ?_, hagrees,
    hown .loraParams loraPayload 6 _ hset⟩
  -- the power of the radio goes from 17 to 10 dBm
  have hpower : request.rfPower = 10 := by
    have hseen : (readLoraParams loraPayload 6).map LoraRequest.rfPower =
        some 10 := by decide
    rw [hrequest] at hseen
    exact Option.some.inj hseen
  have hold : (userInit booted).wncConfigBak = sampleConfig 0 :=
    (userInit_wncConfigBak booted).trans hshadow
  rw [((userInit booted).commit_configs request.change).1, ← hagrees, hold]
    at hsame
  have hkept : request.rfPower = 17 :=
    congrArg (fun config : WncCfg => config.loraConfig.rfPower) hsame
  exact absurd (hpower.symm.trans hkept) (by decide)

/--
After `CMD_USER_INIT` has cleared the server address, a change of the radio
settings brings the old one back.
-/
theorem user_init_then_lora_restores_server :
    ∃ device next,
      Run deviceStep (fun _ _ => True) (boot sampleParams sampleDevice.flash)
        [.command .sample 0 userInitFrame] device ∧
      Setter.loraParams.run device loraPayload 6 = some (true, next) ∧
      device.wncConfigBak ≠ device.wncConfig ∧
      ¬ Setter.loraParams.OnlyOwnFields device.wncConfig next.wncConfig := by
  have hread : (readLoraParams loraPayload 6).isSome = true := by decide
  obtain ⟨request, hrequest⟩ := Option.isSome_iff_exists.mp hread
  let booted := boot sampleParams sampleDevice.flash
  have hbooted : booted.wncConfigBak = sampleConfig 1 :=
    (boot_agrees sampleParams sampleDevice.flash).trans
      (sampleBoot_wncConfig sampleParams)
  have hcleared : (userInit booted).wncConfig.netConfig = defaultNetCfg := rfl
  have hshadow : (userInit booted).wncConfigBak = sampleConfig 1 := hbooted
  refine ⟨userInit booted, (userInit booted).commit request.change,
    .cons trivial (deviceStep_userInitFrame booted) (.nil _), ?_, ?_, ?_⟩
  · simp [Setter.run, setLoraParams, hrequest, carryOut]
  · intro hagrees
    have hnet := congrArg WncCfg.netConfig hagrees
    rw [hshadow, hcleared] at hnet
    exact absurd hnet (by decide)
  · rintro ⟨-, hnet, -⟩
    rw [((userInit booted).commit_configs request.change).1, hshadow,
      hcleared] at hnet
    exact absurd (congrArg NetCfg.pcIp hnet) (by decide : (1 : UInt32) ≠ 0)

end WncFirmware
