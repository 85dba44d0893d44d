import MeterLine.Registry
import MeterLine.Proofs.Settings.Valid

/-!
# Starting a registry

The check of the settings knows ports by their names only, while the binding of
devices looks each port up among those that were set up.  Both agree: settings
that pass the check leave nothing for the binding to fail on, so that a
registry is started as a whole or not at all.
-/

namespace MeterLine

namespace Registry

variable {σ : Type} {reopenDelay : Nat} {line : String → σ}

/-- The port of settings as it is set up. -/
def portOf (reopenDelay : Nat) (line : String → σ) (settings : PortSettings) :
    Port σ :=
  Port.fresh settings reopenDelay (line settings.name)

theorem setUp_of_new {ports : List (Port σ)} {settings : PortSettings}
    (unused : ∀ port ∈ ports, port.settings.name ≠ settings.name) :
    setUp reopenDelay line ports settings =
      ports ++ [portOf reopenDelay line settings] := by
  have kept : ports.filter
      (fun port => port.settings.name != settings.name) = ports := by
    apply List.filter_eq_self.mpr
    intro port member
    simpa using unused port member
  rw [setUp, kept, portOf]

theorem foldl_setUp {settings : List PortSettings}
    (distinct : (settings.map (·.name)).Nodup) {ports : List (Port σ)}
    (unused : ∀ port ∈ ports, port.settings.name ∉ settings.map (·.name)) :
    settings.foldl (setUp reopenDelay line) ports =
      ports ++ settings.map (portOf reopenDelay line) := by
  induction settings generalizing ports with
  | nil => simp
  | cons first others induction =>
      obtain ⟨new, distinctOthers⟩ := List.nodup_cons.mp distinct
      have unusedFirst : ∀ port ∈ ports,
          port.settings.name ≠ first.name := by
        intro port member same
        apply unused port member
        rw [same]
        exact List.mem_cons_self
      have unusedOthers : ∀ port ∈
          ports ++ [portOf reopenDelay line first],
          port.settings.name ∉ others.map (·.name) := by
        intro port member
        rcases List.mem_append.mp member with before | latest
        · exact fun later => unused port before (List.mem_cons_of_mem _ later)
        · rw [List.mem_singleton.mp latest]
          exact new
      rw [List.foldl_cons, setUp_of_new unusedFirst,
        induction distinctOthers unusedOthers, List.map_cons,
        List.append_assoc]
      rfl

def boundTo (ports : List (Port σ)) (settings : DeviceSettings) :
    BoundDevice :=
  { device := Device.ofSettings settings
    port := ports.findIdx fun port => port.settings.name == settings.port }

theorem findIdx_lt_of_wired {ports : List (Port σ)} {name : String}
    (wired : name ∈ ports.map (·.settings.name)) :
    ports.findIdx (fun port => port.settings.name == name) <
      ports.length := by
  obtain ⟨port, member, same⟩ := List.mem_map.mp wired
  apply List.findIdx_lt_length_of_exists
  exact ⟨port, member, by simpa using same⟩

theorem bind_of_wired {ports : List (Port σ)} {settings : DeviceSettings}
    (wired : settings.port ∈ ports.map (·.settings.name)) :
    bind ports settings = .ok (boundTo ports settings) := by
  have position : Port.position? ports settings.port =
      some (boundTo ports settings).port :=
    List.findIdx?_eq_some_iff_findIdx_eq.mpr
      ⟨findIdx_lt_of_wired wired, rfl⟩
  rw [bind, position]
  rfl

theorem mapM_bind_of_wired {ports : List (Port σ)}
    {devices : List DeviceSettings}
    (wired : ∀ device ∈ devices,
      device.port ∈ ports.map (·.settings.name)) :
    devices.mapM (bind ports) = .ok (devices.map (boundTo ports)) := by
  induction devices with
  | nil => rfl
  | cons device devices induction =>
      obtain ⟨first, others⟩ := List.forall_mem_cons.mp wired
      rw [List.mapM_cons, bind_of_wired first, induction others]
      rfl

/-- The registry of valid settings. -/
def ofSettings (settings : AdapterSettings) (reopenDelay : Nat)
    (line : String → σ) : Registry σ :=
  let ports := settings.ports.map (portOf reopenDelay line)
  { ports := ports
    devices := settings.devices.map (boundTo ports) }

theorem names_of_ports (settings : AdapterSettings) :
    (settings.ports.map (portOf reopenDelay line)).map (·.settings.name) =
      settings.ports.map (·.name) := by
  rw [List.map_map]
  rfl

theorem startUp_of_valid {settings : AdapterSettings}
    (valid : settings.Valid)
    (host : Option (Except Failure (List String))) :
    startUp settings host reopenDelay line =
      { warnings := hostWarnings settings.ports host
        ports := (ofSettings settings reopenDelay line).ports
        outcome := .ok (ofSettings settings reopenDelay line) } := by
  have ports : settings.ports.foldl (setUp reopenDelay line) [] =
      settings.ports.map (portOf reopenDelay line) := by
    apply foldl_setUp valid.portNames
    intro port member
    cases member
  have bound : settings.devices.mapM
      (bind (settings.ports.map (portOf reopenDelay line))) =
        .ok (ofSettings settings reopenDelay line).devices := by
    apply mapM_bind_of_wired
    rw [names_of_ports]
    exact valid.wired
  rw [startUp, (AdapterSettings.validate_eq_ok_iff settings).mpr valid]
  simp only [ports, bound]
  rfl

theorem startUp_of_fault {settings : AdapterSettings} {fault : SettingsFault}
    (faulty : settings.validate = .error fault)
    (host : Option (Except Failure (List String))) :
    startUp settings host reopenDelay line =
      { warnings := []
        ports := []
        outcome := .error fault } := by
  rw [startUp, faulty]

/-- A port is found by its name if and only if the settings have one. -/
theorem port?_ofSettings (settings : AdapterSettings) (name : String) :
    (ofSettings settings reopenDelay line).port? name =
      (settings.port? name).map (portOf reopenDelay line) := by
  rw [port?, ofSettings, List.find?_map]
  rfl

/-- What is found by a key that is taken once is what has the key. -/
theorem find?_of_distinct {α : Type} {key : α → String} {items : List α}
    (distinct : (items.map key).Nodup) {item : α} (member : item ∈ items) :
    items.find? (fun other => key other == key item) = some item := by
  induction items with
  | nil => cases member
  | cons first others induction =>
      obtain ⟨new, distinctOthers⟩ := List.nodup_cons.mp distinct
      rcases List.mem_cons.mp member with rfl | later
      · simp
      · have other : key first ≠ key item := by
          intro same
          apply new
          rw [same]
          exact List.mem_map_of_mem later
        rw [List.find?_cons_of_neg (by simpa using other)]
        exact induction distinctOthers later

theorem device?_ofSettings {settings : AdapterSettings}
    (valid : settings.Valid) {device : DeviceSettings}
    (member : device ∈ settings.devices) :
    (ofSettings settings reopenDelay line).device? device.name =
      some (boundTo (ofSettings settings reopenDelay line).ports device) := by
  have found : settings.devices.find?
      (fun other => other.name == device.name) = some device :=
    find?_of_distinct valid.deviceNames member
  rw [device?, ofSettings, List.find?_map]
  have same : ((fun bound : BoundDevice =>
        bound.device.name == device.name) ∘
      boundTo (settings.ports.map (portOf reopenDelay line))) =
      fun other : DeviceSettings => other.name == device.name := rfl
  rw [same, found]
  rfl

theorem port_boundTo {ports : List (Port σ)} {settings : DeviceSettings}
    (wired : settings.port ∈ ports.map (·.settings.name)) :
    ∃ port, ports[(boundTo ports settings).port]? = some port ∧
      port.settings.name = settings.port := by
  have inside := findIdx_lt_of_wired wired
  refine ⟨_, List.getElem?_eq_getElem inside, ?_⟩
  simpa using List.findIdx_getElem (w := inside)

/-- An adapter is started if and only if the check of its settings finds no
fault, whatever is known of the host; otherwise no port is set up and the fault
is that of the check.  Once the check has passed, every device can be bound.
The registry then has one port for each port of the settings and no other, not
yet opened and found by its name, and the devices of the settings in order,
each found by its name and bound to the port that it is wired to. -/
theorem started_as_whole (settings : AdapterSettings)
    (host : Option (Except Failure (List String))) (reopenDelay : Nat)
    (line : String → σ) :
    let startup := startUp settings host reopenDelay line
    (∀ fault, startup.outcome = .error fault ↔
      settings.validate = .error fault) ∧
    (∀ fault, startup.outcome = .error fault → startup.ports = []) ∧
    (settings.validate = .ok () → ∀ device ∈ settings.devices,
      ∃ bound, bind startup.ports device = .ok bound) ∧
    ∀ registry, startup.outcome = .ok registry →
      startup.ports = registry.ports ∧
      registry.ports = settings.ports.map (fun port =>
        Port.fresh port reopenDelay (line port.name)) ∧
      (registry.ports.map (·.settings.name)).Nodup ∧
      (∀ name, registry.port? name = (settings.port? name).map fun port =>
        Port.fresh port reopenDelay (line port.name)) ∧
      (∀ port ∈ settings.ports, settings.port? port.name = some port) ∧
      List.Forall₂ (fun device bound =>
          bound.device = Device.ofSettings device ∧
          registry.device? device.name = some bound ∧
          ∃ port, registry.ports[bound.port]? = some port ∧
            port.settings.name = device.port)
        settings.devices registry.devices := by
  intro startup
  cases checked : settings.validate with
  | error fault =>
      have started : startup = _ := startUp_of_fault checked host
      rw [started]
      refine ⟨?same, ?nothing, nofun, nofun⟩
      case same => simp
      case nothing => exact fun _ _ => rfl
  | ok =>
      have valid := (AdapterSettings.validate_eq_ok_iff settings).mp checked
      have started : startup = _ := startUp_of_valid valid host
      have wired : ∀ device ∈ settings.devices, device.port ∈
          (ofSettings settings reopenDelay line).ports.map
            (·.settings.name) := by
        intro device member
        rw [ofSettings, names_of_ports]
        exact valid.wired device member
      rw [started]
      refine ⟨?same, nofun, ?binds, ?whole⟩
      case same => simp
      case binds =>
        intro _ device member
        exact ⟨_, bind_of_wired (wired device member)⟩
      case whole =>
        rintro registry ⟨⟩
        refine ⟨rfl, rfl, ?distinct, ?ports, ?configured, ?devices⟩
        case distinct =>
          rw [ofSettings, names_of_ports]
          exact valid.portNames
        case ports => exact port?_ofSettings settings
        case configured =>
          intro port member
          exact find?_of_distinct valid.portNames member
        case devices =>
          apply List.forall₂_map_right_iff.mpr
          apply List.forall₂_same.mpr
          intro device member
          exact ⟨rfl, device?_ofSettings valid member,
            port_boundTo (wired device member)⟩

end Registry

end MeterLine
