import MeterLine.Settings.Adapter
import Mathlib.Data.List.Nodup

/-!
# Valid settings

The checks of an adapter walk through its ports and then through its devices,
and remember what they have seen.  They find no fault if and only if every port
and every device is valid by itself, names and addresses are taken once, and
every device is wired to a port that is there.  None of these conditions
depends on an order.
-/

namespace MeterLine

section

variable {first next : Except SettingsFault Unit} {fault found : SettingsFault}

theorem then_eq_ok :
    (first >>= fun _ => next) = .ok () ↔ first = .ok () ∧ next = .ok () := by
  cases first with
  | error fault => simp [bind, Except.bind]
  | ok => simp [bind, Except.bind]

theorem then_eq_error :
    (first >>= fun _ => next) = .error fault ↔
      first = .error fault ∨ (first = .ok () ∧ next = .error fault) := by
  cases first with
  | error found => simp [bind, Except.bind]
  | ok => simp [bind, Except.bind]

variable {condition : Prop} [Decidable condition]

theorem guarded_eq_ok :
    (if condition then .error found else next) = .ok () ↔
      ¬condition ∧ next = .ok () := by
  by_cases holds : condition <;> simp [holds]

theorem guarded_eq_error :
    (if condition then .error found else next) = .error fault ↔
      (condition ∧ found = fault) ∨ (¬condition ∧ next = .error fault) := by
  by_cases holds : condition <;> simp [holds]

end

namespace AdapterSettings

def addressOnPort (device : DeviceSettings) : String × UInt8 :=
  (device.port, device.address)

structure Valid (settings : AdapterSettings) : Prop where
  ports : ∀ port ∈ settings.ports, port.validate = .ok ()
  portNames : (settings.ports.map (·.name)).Nodup
  devices : ∀ device ∈ settings.devices, device.validate = .ok ()
  deviceNames : (settings.devices.map (·.name)).Nodup
  wired : ∀ device ∈ settings.devices,
    device.port ∈ settings.ports.map (·.name)
  addresses : (settings.devices.map addressOnPort).Nodup

theorem validatePorts_eq_ok_iff (seen : List String)
    (ports : List PortSettings) :
    validatePorts seen ports = .ok () ↔
      (∀ port ∈ ports, port.validate = .ok ()) ∧
      (ports.map (·.name)).Nodup ∧ ∀ port ∈ ports, port.name ∉ seen := by
  induction ports generalizing seen with
  | nil => simp [validatePorts]
  | cons port ports induction =>
      rw [validatePorts, then_eq_ok, guarded_eq_ok, induction]
      simp only [List.mem_cons, List.map_cons, List.nodup_cons, List.mem_map,
        forall_eq_or_imp, not_or, not_exists, not_and]
      constructor
      · rintro ⟨valid, unseen, others, distinct, fresh⟩
        refine ⟨⟨valid, others⟩, ⟨?_, distinct⟩, unseen, ?_⟩
        · intro other member same
          exact (fresh other member).1 same
        · intro other member
          exact (fresh other member).2
      · rintro ⟨⟨valid, others⟩, ⟨first, distinct⟩, unseen, fresh⟩
        refine ⟨valid, unseen, others, distinct, ?_⟩
        intro other member
        exact ⟨first other member, fresh other member⟩

/-- A device does not clash with those seen before. -/
def Apart (seen : List DeviceSettings) (device : DeviceSettings) : Prop :=
  ∀ earlier ∈ seen, earlier.name ≠ device.name ∧
    addressOnPort earlier ≠ addressOnPort device

private theorem apart_cons {seen : List DeviceSettings}
    {first device : DeviceSettings} :
    Apart (first :: seen) device ↔
      (first.name ≠ device.name ∧
        addressOnPort first ≠ addressOnPort device) ∧ Apart seen device :=
  List.forall_mem_cons

theorem validateDevices_eq_ok_iff (ports : List String)
    (seen devices : List DeviceSettings) :
    validateDevices ports seen devices = .ok () ↔
      (∀ device ∈ devices, device.validate = .ok ()) ∧
      (devices.map (·.name)).Nodup ∧
      (∀ device ∈ devices, device.port ∈ ports) ∧
      (devices.map addressOnPort).Nodup ∧
      ∀ device ∈ devices, Apart seen device := by
  induction devices generalizing seen with
  | nil => simp [validateDevices]
  | cons device devices induction =>
      have apart : (¬ (seen.any fun earlier =>
            earlier.name == device.name) = true ∧
          ¬ (seen.any fun earlier =>
            earlier.port == device.port &&
              earlier.address == device.address) = true) ↔
          Apart seen device := by
        simp only [Apart, addressOnPort, List.any_eq_true, Bool.and_eq_true,
          beq_iff_eq, ne_eq, Prod.mk.injEq, not_exists, not_and, forall_and]
      rw [validateDevices, then_eq_ok, guarded_eq_ok, guarded_eq_ok,
        guarded_eq_ok, induction]
      simp only [List.map_cons, List.nodup_cons, List.forall_mem_cons,
        List.mem_map, not_exists, not_and, not_not]
      constructor
      · rintro ⟨valid, unnamed, wired, unused, others, names, wiredOthers,
          addresses, fresh⟩
        refine ⟨⟨valid, others⟩, ⟨?_, names⟩, ⟨wired, wiredOthers⟩,
          ⟨?_, addresses⟩, apart.mp ⟨unnamed, unused⟩, ?_⟩
        · intro other member same
          exact (apart_cons.mp (fresh other member)).1.1 same.symm
        · intro other member same
          exact (apart_cons.mp (fresh other member)).1.2 same.symm
        · intro other member
          exact (apart_cons.mp (fresh other member)).2
      · rintro ⟨⟨valid, others⟩, ⟨name, names⟩, ⟨wired, wiredOthers⟩,
          ⟨address, addresses⟩, here, fresh⟩
        obtain ⟨unnamed, unused⟩ := apart.mpr here
        refine ⟨valid, unnamed, wired, unused, others, names, wiredOthers,
          addresses, ?_⟩
        intro other member
        apply apart_cons.mpr
        refine ⟨⟨?_, ?_⟩, fresh other member⟩
        · exact fun same => name other member same.symm
        · exact fun same => address other member same.symm

theorem validate_eq_ok_iff (settings : AdapterSettings) :
    settings.validate = .ok () ↔ settings.Valid := by
  rw [validate, then_eq_ok, validatePorts_eq_ok_iff,
    validateDevices_eq_ok_iff]
  constructor
  · rintro ⟨⟨ports, portNames, _⟩, devices, deviceNames, wired, addresses, _⟩
    exact ⟨ports, portNames, devices, deviceNames, wired, addresses⟩
  · rintro ⟨ports, portNames, devices, deviceNames, wired, addresses⟩
    exact ⟨⟨ports, portNames, fun _ _ => List.not_mem_nil⟩, devices,
      deviceNames, wired, addresses, fun _ _ => nofun⟩

end AdapterSettings

end MeterLine
