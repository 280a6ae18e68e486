import WncFirmware.Config.Agreement

/-!
# Accepted settings and the check at boot

The setters and `check_wnc_config` test the same record independently.  They
agree on the radio settings.  The setters accept the addresses `0.0.0.0` and
`255.255.255.255`, also as a network mask, and `check_wnc_config` does not.
-/

namespace WncFirmware

open WncFirmware.Foundation WncFirmware.Tcp

/-! ## The address texts of a network request -/

def textField (payload : Bytes) (index : Nat) : Bytes :=
  cString (slice payload (index + 1) (fieldLen payload index))

/-- The address of a text is neither `0.0.0.0` nor `255.255.255.255`. -/
def FieldUsable (payload : Bytes) (index : Nat) : Prop :=
  ∀ address, ipValue (textField payload index) = some address →
    addressInvalid address = false

/--
The addresses in force after the command can be used: those of the request if it
asks for a dedicated address, and those of the shadow if a different setter
finds dedicated mode there.
-/
def Setter.AddressesUsable (setter : Setter) (bak : WncCfg)
    (payload : Bytes) : Prop :=
  match setter with
  | netParams => byteAt payload 1 ≠ 0 →
      FieldUsable payload 2 ∧ FieldUsable payload (gatewayIndex payload) ∧
        FieldUsable payload (netmaskIndex payload)
  | serverIp | loraParams | offlineTimeout => bak.netConfig.Usable

theorem cString_append_zeros (text : Bytes) (count : Nat) :
    cString (text ++ List.replicate count 0) = cString text := by
  induction text with
  | nil => cases count <;> simp [cString, List.replicate_succ]
  | cons byte text ih =>
      simp only [cString, List.cons_append, List.takeWhile_cons] at ih ⊢
      split
      · rw [ih]
      · rfl

theorem ipStrToDigit_copied {payload buffer : Bytes} {index : Nat}
    {address : UInt32}
    (hcopy : copyField payload index = some buffer)
    (hparse : ipStrToDigit buffer = some (some address)) :
    ipValue (textField payload index) = some address := by
  unfold copyField at hcopy
  split at hcopy
  · cases hcopy
    unfold ipStrToDigit at hparse
    split at hparse
    · rw [cString_append_zeros] at hparse
      exact Option.some.inj hparse
    · cases hparse
  · cases hcopy

theorem withValue_accepts {Value Request : Type}
    {parsed : Option (Option Value)}
    {rest : Value → Option (Option Request)} {request : Request}
    (h : withValue parsed rest = some (some request)) :
    ∃ value, parsed = some (some value) ∧ rest value = some (some request) := by
  unfold withValue at h
  split at h
  · cases h
  · cases h
  · exact ⟨_, rfl, h⟩

theorem netmaskStrToDigit_value {buffer : Bytes} {netmask : UInt32}
    (h : netmaskStrToDigit buffer = some (some netmask)) :
    ipStrToDigit buffer = some (some netmask) := by
  obtain ⟨value, hparsed, hrest⟩ := withValue_accepts h
  have hvalue : (if netmaskValid value then some value else none) =
      some netmask := Option.some.inj hrest
  split at hvalue
  · rw [hparsed, hvalue]
  · cases hvalue

theorem readNetParams_dhcp {payload : Bytes} (dataLen : UInt16)
    (h : byteAt payload 1 = 0) :
    readNetParams payload dataLen = some (some .dhcp) := by
  simp [readNetParams, h]

theorem readNetParams_dedicated {payload : Bytes} {dataLen : UInt16}
    {request : NetParamsRequest} (hmode : byteAt payload 1 ≠ 0)
    (h : readNetParams payload dataLen = some (some request)) :
    ∃ ip gateway netmask, request = .dedicated ip gateway netmask ∧
      ipValue (textField payload 2) = some ip ∧
      ipValue (textField payload (gatewayIndex payload)) = some gateway ∧
      ipValue (textField payload (netmaskIndex payload)) = some netmask := by
  unfold readNetParams at h
  simp only [hmode, if_false] at h
  obtain ⟨ipBuffer, hipCopy, h⟩ := Option.bind_eq_some_iff.mp h
  obtain ⟨netmaskBuffer, hnetmaskCopy, h⟩ := Option.bind_eq_some_iff.mp h
  obtain ⟨gatewayBuffer, hgatewayCopy, h⟩ := Option.bind_eq_some_iff.mp h
  split at h
  · cases h
  · obtain ⟨ip, hip, h⟩ := withValue_accepts h
    obtain ⟨gateway, hgateway, h⟩ := withValue_accepts h
    obtain ⟨netmask, hnetmask, h⟩ := withValue_accepts h
    cases h
    exact ⟨ip, gateway, netmask, rfl, ipStrToDigit_copied hipCopy hip,
      ipStrToDigit_copied hgatewayCopy hgateway,
      ipStrToDigit_copied hnetmaskCopy (netmaskStrToDigit_value hnetmask)⟩

/-! ## The new network settings -/

theorem netParams_usable_iff {payload : Bytes} {dataLen : UInt16}
    {change : WncCfg → WncCfg} (bak : WncCfg)
    (h : Setter.netParams.change? payload dataLen = some change) :
    (change bak).netConfig.Usable ↔
      Setter.netParams.AddressesUsable bak payload := by
  obtain ⟨request, hread, rfl⟩ := Option.map_eq_some_iff.mp h
  have hrequest : readNetParams payload dataLen = some (some request) :=
    Option.join_eq_some_iff.mp hread
  by_cases hmode : byteAt payload 1 = 0
  · rw [readNetParams_dhcp dataLen hmode] at hrequest
    cases hrequest
    constructor
    · intro _ hdedicated
      exact absurd hmode hdedicated
    · intro _ hdedicated
      exact absurd hdedicated (by simp [NetParamsRequest.change, dhcpMode,
        dedicatedMode])
  · obtain ⟨ip, gateway, netmask, rfl, hip, hgateway, hnetmask⟩ :=
      readNetParams_dedicated hmode hrequest
    simp only [NetCfg.Usable, NetParamsRequest.change, Setter.AddressesUsable,
      FieldUsable, hip, hgateway, hnetmask, Option.some.injEq, forall_eq',
      ne_eq, hmode, not_false_eq_true, forall_const]

theorem Setter.usable_iff {setter : Setter} {payload : Bytes}
    {dataLen : UInt16} {change : WncCfg → WncCfg} (bak : WncCfg)
    (h : setter.change? payload dataLen = some change) :
    (change bak).netConfig.Usable ↔ setter.AddressesUsable bak payload := by
  cases setter with
  | netParams => exact netParams_usable_iff bak h
  | serverIp =>
      obtain ⟨request, -, rfl⟩ := Option.map_eq_some_iff.mp h
      rfl
  | loraParams =>
      obtain ⟨request, -, rfl⟩ := Option.map_eq_some_iff.mp h
      rfl
  | offlineTimeout =>
      obtain ⟨time, -, rfl⟩ := Option.map_eq_some_iff.mp h
      rfl

/-! ## The radio settings -/

def WncCfg.RadioUsable (config : WncCfg) : Prop :=
  config.version = configVersion ∧ config.loraConfig.Usable

theorem checkWncConfig_iff_usable {config : WncCfg} (h : config.RadioUsable) :
    checkWncConfig config = true ↔ config.netConfig.Usable := by
  rw [checkWncConfig_iff]
  constructor
  · rintro ⟨-, hnet, -⟩
    exact hnet
  · intro hnet
    exact ⟨h.1, hnet, h.2⟩

theorem readLoraParams_usable {payload : Bytes} {dataLen : UInt16}
    {request : LoraRequest}
    (h : readLoraParams payload dataLen = some request) (lora : LoraCfg) :
    LoraCfg.Usable { lora with
      rfFreq := request.rfFreq
      rfPower := request.rfPower } := by
  unfold readLoraParams at h
  dsimp only at h
  split at h
  · cases h
  · split at h
    · cases h
    · rename_i hfreq
      split at h
      · cases h
      · rename_i hpower
        cases h
        simp only [not_or, UInt32.not_lt, UInt8.not_lt] at hfreq hpower
        exact ⟨hfreq.1, hfreq.2, hpower.1, hpower.2⟩

theorem Setter.change?_radioUsable {setter : Setter} {payload : Bytes}
    {dataLen : UInt16} {change : WncCfg → WncCfg} {config : WncCfg}
    (h : setter.change? payload dataLen = some change)
    (hconfig : config.RadioUsable) : (change config).RadioUsable := by
  cases setter with
  | netParams =>
      obtain ⟨request, -, rfl⟩ := Option.map_eq_some_iff.mp h
      cases request with
      | dhcp => exact hconfig
      | dedicated ip gateway netmask => exact hconfig
  | serverIp =>
      obtain ⟨request, -, rfl⟩ := Option.map_eq_some_iff.mp h
      exact hconfig
  | loraParams =>
      obtain ⟨request, hread, rfl⟩ := Option.map_eq_some_iff.mp h
      exact ⟨hconfig.1, readLoraParams_usable hread config.loraConfig⟩
  | offlineTimeout =>
      obtain ⟨time, -, rfl⟩ := Option.map_eq_some_iff.mp h
      exact hconfig

theorem loadWncConfig_radioUsable (device : Device) :
    (loadWncConfig device).wncConfig.RadioUsable := by
  cases hmain : checkWncConfig (mainCopy device.flash) with
  | true =>
      rw [loadWncConfig_main device hmain]
      obtain ⟨hversion, -, hlora⟩ := (checkWncConfig_iff _).mp hmain
      exact ⟨hversion, hlora⟩
  | false =>
      cases hbak : checkWncConfig (bakCopy device.flash) with
      | true =>
          rw [loadWncConfig_bak device hmain hbak]
          obtain ⟨hversion, -, hlora⟩ := (checkWncConfig_iff _).mp hbak
          exact ⟨hversion, hlora⟩
      | false =>
          rw [loadWncConfig_defaults device hmain hbak,
            initWncConfig_wncConfig]
          exact ⟨rfl, by simp [WncCfg.withDefaultLora, LoraCfg.Usable]⟩

theorem boot_bak_radioUsable (params : DeviceParams) (flash : Memory) :
    (boot params flash).wncConfigBak.RadioUsable := by
  rw [boot_wncConfigBak]
  exact loadWncConfig_radioUsable _

theorem acts_bak_radioUsable {env : CommandEnv} {frame : Bytes}
    {device next : Device} (h : device.wncConfigBak.RadioUsable)
    (hacts : Acts env device frame next) :
    next.wncConfigBak.RadioUsable := by
  cases hacts with
  | none => exact h
  | params => exact h
  | setter setter done next hrun =>
      rcases Setter.run_cases hrun with ⟨-, rfl⟩ | ⟨change, -, hchange, rfl⟩
      · exact h
      · rw [(device.commit_configs change).2]
        exact Setter.change?_radioUsable hchange h
  | files result hopt =>
      rw [(sameConfigs_configureFilesOpt hopt).2]
      exact h
  | userInit hcommand => exact h

/-! ## Loading what was stored -/

theorem boot_loads_stored_iff {flash : Memory} {config : WncCfg}
    (params : DeviceParams) (hmain : mainCopy flash = config)
    (hbak : bakCopy flash = config) (hradio : config.RadioUsable) :
    (boot params flash).wncConfig = config ↔ config.netConfig.Usable := by
  rw [boot_wncConfig, ← checkWncConfig_iff_usable hradio]
  cases hcheck : checkWncConfig config with
  | true =>
      rw [loadWncConfig_main _ (by rw [← hcheck, ← hmain]; rfl)]
      exact ⟨fun _ => rfl, fun _ => hmain⟩
  | false =>
      have hnet : ¬ config.netConfig.Usable := by
        rw [← checkWncConfig_iff_usable hradio, hcheck]
        simp
      rw [loadWncConfig_defaults _ (by rw [← hcheck, ← hmain]; rfl)
        (by rw [← hcheck, ← hbak]; rfl), initWncConfig_wncConfig]
      constructor
      · intro hloaded
        apply absurd _ hnet
        rw [← hloaded]
        exact defaultNetCfg_usable
      · intro hfalse
        cases hfalse

/--
An accepted setting is loaded at the next boot exactly if the addresses it
leaves in force are neither `0.0.0.0` nor `255.255.255.255`.
-/
theorem accepted_survives_reboot_iff {device next : Device} {setter : Setter}
    {payload : Bytes} {dataLen : UInt16} (params : DeviceParams)
    (hreach : ReachedBy (fun _ _ => True) device)
    (haccepted : setter.run device payload dataLen = some (true, next)) :
    (boot params next.flash).wncConfig = next.wncConfig ↔
      setter.AddressesUsable device.wncConfigBak payload := by
  have hradio : device.wncConfigBak.RadioUsable :=
    hreach.invariant boot_bak_radioUsable
      fun _ _ _ _ _ hdevice _ hacts => acts_bak_radioUsable hdevice hacts
  rcases Setter.run_cases haccepted with
    ⟨hrefused, -⟩ | ⟨change, -, hchange, rfl⟩
  · cases hrefused
  · rw [(device.commit_configs change).1,
      ← Setter.usable_iff device.wncConfigBak hchange]
    apply boot_loads_stored_iff params
    · rw [device.commit_flash, mainCopy_setWncConfigOps]
    · rw [device.commit_flash, bakCopy_setWncConfigOps]
    · exact Setter.change?_radioUsable hchange hradio

/-- Mode 1, address 1.1.1.1, mask 255.255.255.255, gateway 1.1.1.2. -/
def hostMaskPayload : Bytes :=
  [1, 1, 7] ++ ascii "1.1.1.1" ++ [15] ++ ascii "255.255.255.255" ++ [7] ++
    ascii "1.1.1.2"

theorem readNetParams_hostMask :
    readNetParams hostMaskPayload 34 =
      some (some (.dedicated 0x01010101 0x02010101 0xffffffff)) := by
  decide

def hostMaskDevice : Device :=
  (boot sampleParams sampleDevice.flash).commit
    (NetParamsRequest.change (.dedicated 0x01010101 0x02010101 0xffffffff))

theorem run_hostMask :
    Setter.netParams.run (boot sampleParams sampleDevice.flash)
      hostMaskPayload 34 = some (true, hostMaskDevice) := by
  simp only [Setter.run, setDeviceNetParams, readNetParams_hostMask,
    Option.map_some, carryOut, hostMaskDevice]

theorem accepted_survives_reboot_host_mask :
    (boot sampleParams hostMaskDevice.flash).wncConfig =
        hostMaskDevice.wncConfig ↔
      Setter.netParams.AddressesUsable
        (boot sampleParams sampleDevice.flash).wncConfigBak hostMaskPayload :=
  accepted_survives_reboot_iff sampleParams
    ⟨sampleParams, sampleDevice.flash, [], .nil _⟩ run_hostMask

/-- The mask of all ones is accepted, and the next boot loads the defaults. -/
theorem host_mask_lost_at_reboot :
    Setter.netParams.run (boot sampleParams sampleDevice.flash)
        hostMaskPayload 34 = some (true, hostMaskDevice) ∧
      (boot sampleParams hostMaskDevice.flash).wncConfig ≠
        hostMaskDevice.wncConfig := by
  refine ⟨run_hostMask, ?_⟩
  have hradio : hostMaskDevice.wncConfig.RadioUsable :=
    boot_bak_radioUsable sampleParams sampleDevice.flash
  have hloads : (boot sampleParams hostMaskDevice.flash).wncConfig =
      hostMaskDevice.wncConfig ↔ hostMaskDevice.wncConfig.netConfig.Usable :=
    boot_loads_stored_iff sampleParams (mainCopy_setWncConfigOps _ _)
      (bakCopy_setWncConfigOps _ _) hradio
  intro hloaded
  obtain ⟨-, -, hmask⟩ := hloads.mp hloaded rfl
  exact absurd hmask (by decide : addressInvalid 0xffffffff ≠ false)

end WncFirmware
