import Mathlib.Data.List.Nodup
import MeterLine.Proofs.Settings.Valid

/-!
# Accepted settings

The settings of an adapter are accepted if and only if every port and every
device is sound by itself, no two ports and no two devices have one name, every
device names a port that is there, and no two devices have one address on one
port.  Settings that are refused are refused for a flaw that they have.
-/

namespace MeterLine

namespace PortSettings

structure Sound (settings : PortSettings) : Prop where
  named : isBlank settings.name = false
  baudRate : settings.baudRate ∈ ([1200, 2400, 4800, 9600] : List UInt32)
  dataBits : 5 ≤ settings.dataBits ∧ settings.dataBits ≤ 8
  responseWait : 0 < settings.responseWait

/-- What is wrong with a port by itself. -/
inductive Flaw (settings : PortSettings) : SettingsFault → Prop where
  | blank :
      isBlank settings.name = true → Flaw settings .blankPortName
  | baudRate :
      settings.baudRate ∉ ([1200, 2400, 4800, 9600] : List UInt32) →
      Flaw settings
        (.unsupportedBaudRate settings.name settings.baudRate.toNat
          [1200, 2400, 4800, 9600])
  | dataBits :
      ¬(5 ≤ settings.dataBits ∧ settings.dataBits ≤ 8) →
      Flaw settings
        (.dataBitsOutside settings.name settings.dataBits.toNat 5 8)
  | responseWait :
      settings.responseWait = 0 →
      Flaw settings (.noResponseWait settings.name)

variable (settings : PortSettings)

theorem mem_supportedBaudRates :
    settings.baudRate.toNat ∈ supportedBaudRates ↔
      settings.baudRate ∈ ([1200, 2400, 4800, 9600] : List UInt32) := by
  simp only [supportedBaudRates, List.mem_cons, List.not_mem_nil, or_false,
    ← UInt32.toNat_inj]
  rfl

theorem dataBits_outside :
    (settings.dataBits.toNat < leastDataBits ∨
      greatestDataBits < settings.dataBits.toNat) ↔
        ¬(5 ≤ settings.dataBits ∧ settings.dataBits ≤ 8) := by
  simp only [UInt8.le_iff_toNat_le, leastDataBits, greatestDataBits,
    UInt8.reduceToNat]
  omega

theorem validate_eq_ok_iff : settings.validate = .ok () ↔ settings.Sound := by
  rw [validate, guarded_eq_ok, guarded_eq_ok, guarded_eq_ok, guarded_eq_ok,
    settings.mem_supportedBaudRates, settings.dataBits_outside, not_not,
    not_not, ← ne_eq settings.responseWait, ← UInt64.pos_iff_ne_zero,
    Bool.not_eq_true]
  constructor
  · rintro ⟨named, baudRate, dataBits, responseWait, _⟩
    exact ⟨named, baudRate, dataBits, responseWait⟩
  · rintro ⟨named, baudRate, dataBits, responseWait⟩
    exact ⟨named, baudRate, dataBits, responseWait, rfl⟩

theorem flaw_of_validate {settings : PortSettings} {fault : SettingsFault}
    (refused : settings.validate = .error fault) : settings.Flaw fault := by
  rw [validate, guarded_eq_error, guarded_eq_error, guarded_eq_error,
    guarded_eq_error, settings.mem_supportedBaudRates,
    settings.dataBits_outside] at refused
  rcases refused with ⟨blank, rfl⟩ | ⟨_, ⟨baudRate, rfl⟩ | ⟨_,
    ⟨dataBits, rfl⟩ | ⟨_, ⟨responseWait, rfl⟩ | ⟨_, nothing⟩⟩⟩⟩
  · exact .blank blank
  · exact .baudRate baudRate
  · exact .dataBits dataBits
  · exact .responseWait responseWait
  · cases nothing

end PortSettings

namespace DeviceSettings

structure Sound (settings : DeviceSettings) : Prop where
  address : 1 ≤ settings.address
  named : isBlank settings.name = false
  wired : isBlank settings.port = false
  measurements : settings.measurements ≠ []

/-- What is wrong with a device by itself. -/
inductive Flaw (settings : DeviceSettings) : SettingsFault → Prop where
  | address :
      settings.address = 0 → Flaw settings (.zeroAddress settings.name)
  | blank :
      isBlank settings.name = true → Flaw settings .blankDeviceName
  | unwired :
      isBlank settings.port = true →
      Flaw settings (.blankDevicePort settings.name)
  | measurements :
      settings.measurements = [] →
      Flaw settings (.noMeasurement settings.name)

variable (settings : DeviceSettings)

theorem one_le_address : ¬settings.address = 0 ↔ 1 ≤ settings.address := by
  rw [UInt8.le_iff_toNat_le, ← UInt8.toNat_inj]
  exact Nat.pos_iff_ne_zero.symm

theorem validate_eq_ok_iff : settings.validate = .ok () ↔ settings.Sound := by
  rw [validate, guarded_eq_ok, guarded_eq_ok, guarded_eq_ok, guarded_eq_ok,
    settings.one_le_address, Bool.not_eq_true, Bool.not_eq_true]
  constructor
  · rintro ⟨address, named, wired, measurements, _⟩
    exact ⟨address, named, wired, measurements⟩
  · rintro ⟨address, named, wired, measurements⟩
    exact ⟨address, named, wired, measurements, rfl⟩

theorem flaw_of_validate {settings : DeviceSettings} {fault : SettingsFault}
    (refused : settings.validate = .error fault) : settings.Flaw fault := by
  rw [validate, guarded_eq_error, guarded_eq_error, guarded_eq_error,
    guarded_eq_error] at refused
  rcases refused with ⟨address, rfl⟩ | ⟨_, ⟨blank, rfl⟩ | ⟨_,
    ⟨unwired, rfl⟩ | ⟨_, ⟨measurements, rfl⟩ | ⟨_, nothing⟩⟩⟩⟩
  · exact .address address
  · exact .blank blank
  · exact .unwired unwired
  · exact .measurements measurements
  · cases nothing

end DeviceSettings

namespace AdapterSettings

/-- What is wrong with the ports of an adapter. -/
inductive PortsFlaw (ports : List PortSettings) : SettingsFault → Prop where
  | port {port : PortSettings} {fault : SettingsFault} :
      port ∈ ports → port.Flaw fault → PortsFlaw ports fault
  | name {name : String} :
      1 < (ports.map (·.name)).count name →
      PortsFlaw ports (.duplicatePort name)

/-- What is wrong with the devices of an adapter with ports of these names. -/
inductive DevicesFlaw (ports : List String) (devices : List DeviceSettings) :
    SettingsFault → Prop where
  | device {device : DeviceSettings} {fault : SettingsFault} :
      device ∈ devices → device.Flaw fault → DevicesFlaw ports devices fault
  | name {name : String} :
      1 < (devices.map (·.name)).count name →
      DevicesFlaw ports devices (.duplicateDevice name)
  | port {device : DeviceSettings} :
      device ∈ devices → device.port ∉ ports →
      DevicesFlaw ports devices (.unknownPort device.name device.port)
  | address {device : DeviceSettings} :
      device ∈ devices →
      1 < (devices.map addressOnPort).count (addressOnPort device) →
      DevicesFlaw ports devices
        (.duplicateAddress device.name device.port device.address.toNat)

/-- What is wrong with the settings of an adapter. -/
def Flaw (settings : AdapterSettings) (fault : SettingsFault) : Prop :=
  PortsFlaw settings.ports fault ∨
    DevicesFlaw (settings.ports.map (·.name)) settings.devices fault

section

variable {α β : Type} [BEq β] {key : α → β} {value : β} {item : α}
  {seen items others : List α}

theorem one_lt_count_of_seen [LawfulBEq β] (old : key item ∈ seen.map key) :
    1 < ((seen ++ item :: others).map key).count (key item) := by
  have before := List.count_pos_iff.mpr old
  simp only [List.map_append, List.map_cons, List.count_append,
    List.count_cons_self]
  omega

theorem one_lt_count_of_perm (same : items.Perm others)
    (twice : 1 < (items.map key).count value) :
    1 < (others.map key).count value := by
  rw [← (same.map key).count_eq value]
  exact twice

end

variable {fault : SettingsFault}

theorem PortsFlaw.perm {ports others : List PortSettings}
    (flaw : PortsFlaw ports fault) (same : ports.Perm others) :
    PortsFlaw others fault := by
  cases flaw with
  | port member flaw => exact .port (same.subset member) flaw
  | name twice => exact .name (one_lt_count_of_perm same twice)

theorem DevicesFlaw.perm {ports : List String}
    {devices others : List DeviceSettings}
    (flaw : DevicesFlaw ports devices fault) (same : devices.Perm others) :
    DevicesFlaw ports others fault := by
  cases flaw with
  | device member flaw => exact .device (same.subset member) flaw
  | name twice => exact .name (one_lt_count_of_perm same twice)
  | port member unknown => exact .port (same.subset member) unknown
  | address member twice =>
      exact .address (same.subset member) (one_lt_count_of_perm same twice)

theorem flaw_of_validatePorts {seen ports : List PortSettings}
    (refused : validatePorts (seen.map (·.name)) ports = .error fault) :
    PortsFlaw (seen ++ ports) fault := by
  induction ports generalizing seen with
  | nil => cases refused
  | cons port ports induction =>
      rw [validatePorts, then_eq_error, guarded_eq_error] at refused
      rcases refused with itself | ⟨_, ⟨old, rfl⟩ | ⟨_, later⟩⟩
      · exact .port (by simp) (PortSettings.flaw_of_validate itself)
      · exact .name (one_lt_count_of_seen old)
      · exact (@induction (port :: seen) later).perm List.perm_middle.symm

theorem flaw_of_validateDevices {ports : List String}
    {seen devices : List DeviceSettings}
    (refused : validateDevices ports seen devices = .error fault) :
    DevicesFlaw ports (seen ++ devices) fault := by
  induction devices generalizing seen with
  | nil => cases refused
  | cons device devices induction =>
      rw [validateDevices, then_eq_error, guarded_eq_error, guarded_eq_error,
        guarded_eq_error] at refused
      rcases refused with itself | ⟨_, ⟨named, rfl⟩ | ⟨_, ⟨unknown, rfl⟩ | ⟨_,
        ⟨addressed, rfl⟩ | ⟨_, later⟩⟩⟩⟩
      · exact .device (by simp) (DeviceSettings.flaw_of_validate itself)
      · have old : device.name ∈ seen.map (·.name) := by
          simpa using named
        exact .name (one_lt_count_of_seen old)
      · exact .port (by simp) unknown
      · have old : addressOnPort device ∈ seen.map addressOnPort := by
          simpa [addressOnPort] using addressed
        exact .address (by simp) (one_lt_count_of_seen old)
      · exact (@induction (device :: seen) later).perm List.perm_middle.symm

theorem flaw_of_validate {settings : AdapterSettings}
    (refused : settings.validate = .error fault) : settings.Flaw fault := by
  rw [validate, then_eq_error] at refused
  rcases refused with ports | ⟨_, devices⟩
  · exact Or.inl (@flaw_of_validatePorts fault [] _ ports)
  · exact Or.inr (@flaw_of_validateDevices fault _ [] _ devices)

theorem Valid.perm {settings other : AdapterSettings}
    (valid : settings.Valid) (ports : settings.ports.Perm other.ports)
    (devices : settings.devices.Perm other.devices) : other.Valid := by
  have names := ports.map (·.name)
  constructor
  · exact fun port member => valid.ports port (ports.symm.subset member)
  · exact names.nodup valid.portNames
  · exact fun device member =>
      valid.devices device (devices.symm.subset member)
  · exact (devices.map (·.name)).nodup valid.deviceNames
  · exact fun device member =>
      names.subset (valid.wired device (devices.symm.subset member))
  · exact (devices.map addressOnPort).nodup valid.addresses

/-- The settings of an adapter are accepted if and only if its ports and
devices are sound and do not clash.  Whatever they are refused for is a flaw
that they have, and is told as a configuration error.  In which order the ports
and the devices stand does not matter to their acceptance. -/
theorem accepted_iff_sound (settings : AdapterSettings) :
    (settings.validate = .ok () ↔
      (∀ port ∈ settings.ports, port.Sound) ∧
      settings.ports.Pairwise (fun left right => left.name ≠ right.name) ∧
      (∀ device ∈ settings.devices, device.Sound) ∧
      settings.devices.Pairwise (fun left right => left.name ≠ right.name) ∧
      (∀ device ∈ settings.devices,
        ∃ port ∈ settings.ports, port.name = device.port) ∧
      settings.devices.Pairwise fun left right =>
        ¬(left.port = right.port ∧ left.address = right.address)) ∧
    (∀ fault, settings.validate = .error fault →
      settings.Flaw fault ∧
        fault.toFailure = .configuration fault.message) ∧
    ∀ other : AdapterSettings, settings.ports.Perm other.ports →
      settings.devices.Perm other.devices →
        (other.validate = .ok () ↔ settings.validate = .ok ()) := by
  refine ⟨?accepted, ?refused, ?order⟩
  case accepted =>
    have addresses : (settings.devices.map addressOnPort).Nodup ↔
        settings.devices.Pairwise fun left right =>
          ¬(left.port = right.port ∧ left.address = right.address) := by
      simp only [List.Nodup, List.pairwise_map, addressOnPort, ne_eq,
        Prod.mk.injEq]
    simp only [validate_eq_ok_iff, ← PortSettings.validate_eq_ok_iff,
      ← DeviceSettings.validate_eq_ok_iff, ← addresses]
    constructor
    · intro valid
      exact ⟨valid.ports, List.pairwise_map.mp valid.portNames,
        valid.devices, List.pairwise_map.mp valid.deviceNames,
        fun device member => List.mem_map.mp (valid.wired device member),
        valid.addresses⟩
    · rintro ⟨ports, portNames, devices, deviceNames, wired, addresses⟩
      exact
        { ports := ports
          portNames := List.pairwise_map.mpr portNames
          devices := devices
          deviceNames := List.pairwise_map.mpr deviceNames
          wired := fun device member =>
            List.mem_map.mpr (wired device member)
          addresses := addresses }
  case refused =>
    exact fun fault refused => ⟨flaw_of_validate refused, rfl⟩
  case order =>
    intro other ports devices
    rw [validate_eq_ok_iff, validate_eq_ok_iff]
    exact ⟨fun valid => valid.perm ports.symm devices.symm,
      fun valid => valid.perm ports devices⟩

end AdapterSettings

end MeterLine
