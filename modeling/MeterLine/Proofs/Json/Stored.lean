import MeterLine.Health
import MeterLine.Proofs.Json.ReadBack
import MeterLine.Settings.Adapter

/-!
# Stored settings and reports

Settings and health reports are made of texts and natural numbers, so that the
text of their document is read as that document.  The document is then taken
apart into what it was made of: every field is found under its name, every
choice under its key, and the fields of details are put in the order in which
they already were.
-/

namespace MeterLine

namespace Json

/-- The text of a document is read as the document itself. -/
def Exact (document : Json) : Prop :=
  ReadsAs document document

namespace Exact

theorem text (value : String) : (Json.text value).Exact :=
  ReadsAs.text value

theorem natural {value : Nat} (small : value < 2 ^ 64) :
    (Json.natural value).Exact :=
  ReadsAs.number (Number.readsAs_natural small)

theorem list {items : List Json} (each : ∀ item ∈ items, item.Exact) :
    (Json.list items).Exact := by
  have read : ItemsReadAs items items := by
    induction items with
    | nil => exact .nil
    | cons item items induction =>
        obtain ⟨first, others⟩ := List.forall_mem_cons.mp each
        exact .cons first (induction others)
  exact ReadsAs.list read

theorem record {fields : List Field} (distinct : (fields.map Prod.fst).Nodup)
    (each : ∀ field ∈ fields, field.2.Exact) : (Json.record fields).Exact := by
  have read : FieldsReadAs fields fields := by
    clear distinct
    induction fields with
    | nil => exact .nil
    | cons field fields induction =>
        obtain ⟨first, others⟩ := List.forall_mem_cons.mp each
        exact .cons field.1 first (induction others)
  exact ReadsAs.record distinct read

end Exact

theorem naturalUpTo?_natural {limit value : Nat} (within : value ≤ limit) :
    naturalUpTo? limit (.natural value) = some value :=
  if_pos within

theorem listOf?_map {α : Type} {read : Json → Option α} {write : α → Json}
    (reads : ∀ value, read (write value) = some value) (values : List α) :
    listOf? read (.list (values.map write)) = some values := by
  rw [listOf?]
  induction values with
  | nil => rfl
  | cons value values induction =>
      rw [List.map_cons, List.mapM_cons, reads, induction]
      rfl

end Json

namespace PortSettings

theorem exact_toJson (settings : PortSettings) : settings.toJson.Exact := by
  apply Json.Exact.record (by simp)
  simp only [List.forall_mem_cons, Json.Exact.text, true_and]
  refine ⟨.natural ?_, .natural ?_, .natural ?_, nofun⟩
  · exact Nat.lt_trans settings.baudRate.toNat_lt (by decide)
  · exact Nat.lt_trans settings.dataBits.toNat_lt (by decide)
  · exact settings.responseWait.toNat_lt

theorem ofJson?_toJson (settings : PortSettings) :
    ofJson? settings.toJson = some settings := by
  have baudRate := Json.naturalUpTo?_natural
    (Nat.le_of_lt_succ settings.baudRate.toNat_lt)
  have dataBits := Json.naturalUpTo?_natural
    (Nat.le_of_lt_succ settings.dataBits.toNat_lt)
  have responseWait := Json.naturalUpTo?_natural
    (Nat.le_of_lt_succ settings.responseWait.toNat_lt)
  simp [ofJson?, toJson, Json.parts?, Json.lookup, Json.required?,
    Json.optional?, Json.text?, Json.choice?, Parity.ofKey?_key,
    StopBits.ofKey?_key, baudRate, dataBits, responseWait]

end PortSettings

theorem Measurement.ofJson?_text (measurement : Measurement) :
    ofJson? (.text measurement.name) = some measurement :=
  measurement.ofName?_name

namespace DeviceSettings

theorem exact_toJson (settings : DeviceSettings) : settings.toJson.Exact := by
  apply Json.Exact.record (by simp)
  simp only [List.forall_mem_cons, Json.Exact.text, true_and]
  refine ⟨.natural ?_, .list ?_, nofun⟩
  · exact Nat.lt_trans settings.address.toNat_lt (by decide)
  · intro item member
    obtain ⟨measurement, _, rfl⟩ := List.mem_map.mp member
    exact .text _

theorem ofJson?_toJson (settings : DeviceSettings) :
    ofJson? settings.toJson = some settings := by
  have address := Json.naturalUpTo?_natural
    (Nat.le_of_lt_succ settings.address.toNat_lt)
  have measurements := Json.listOf?_map Measurement.ofJson?_text
    settings.measurements
  simp [ofJson?, toJson, Json.parts?, Json.lookup, Json.required?,
    Json.text?, address, measurements]

end DeviceSettings

namespace AdapterSettings

theorem exact_toJson (settings : AdapterSettings) :
    settings.toJson.Exact := by
  apply Json.Exact.record (by simp)
  simp only [List.forall_mem_cons]
  refine ⟨.list ?_, .list ?_, nofun⟩
  · intro item member
    obtain ⟨port, _, rfl⟩ := List.mem_map.mp member
    exact port.exact_toJson
  · intro item member
    obtain ⟨device, _, rfl⟩ := List.mem_map.mp member
    exact device.exact_toJson

theorem ofJson?_toJson (settings : AdapterSettings) :
    ofJson? settings.toJson = some settings := by
  have ports := Json.listOf?_map PortSettings.ofJson?_toJson settings.ports
  have devices :=
    Json.listOf?_map DeviceSettings.ofJson?_toJson settings.devices
  simp [ofJson?, toJson, Json.parts?, Json.lookup, Json.optional?, ports,
    devices]

end AdapterSettings

theorem DetailEntries.insert_of_last {name text : String}
    {entries : DetailEntries} (last : ∀ entry ∈ entries, entry.1 < name) :
    insert name text entries = entries ++ [(name, text)] := by
  induction entries with
  | nil => rfl
  | cons entry entries induction =>
      obtain ⟨first, others⟩ := List.forall_mem_cons.mp last
      have behind : ¬name < entry.1 := String.lt_asymm first
      have different : name ≠ entry.1 := (String.ne_of_lt first).symm
      rw [insert, if_neg behind, if_neg different, induction others]
      rfl

namespace Details

def fields (details : Details) : List Json.Field :=
  details.entries.map fun entry => (entry.1, .text entry.2)

theorem distinct_fields (details : Details) :
    (details.fields.map Prod.fst).Nodup := by
  have names : details.fields.map Prod.fst = details.entries.map Prod.fst := by
    rw [fields, List.map_map]
    rfl
  rw [names]
  exact details.nodup_names

theorem exact_fields (details : Details) :
    (Json.record details.fields).Exact := by
  apply Json.Exact.record details.distinct_fields
  intro field member
  obtain ⟨entry, _, rfl⟩ := List.mem_map.mp member
  exact .text _

/-- Texts that stand in the order of their names are put one behind the
other. -/
theorem foldlM_insert (later : DetailEntries) :
    ∀ {before whole : Details}, whole.entries = before.entries ++ later →
      (later.map fun entry => (entry.1, Json.text entry.2)).foldlM
        (fun details field => do
          let text ← Json.text? field.2
          some (details.insert field.1 text)) before = some whole := by
  induction later with
  | nil =>
      intro before whole same
      obtain ⟨entries, sorted⟩ := before
      obtain ⟨entries, sorted⟩ := whole
      simpa using same.symm
  | cons entry later induction =>
      intro before whole same
      have last : ∀ earlier ∈ before.entries, earlier.1 < entry.1 := by
        have sorted := whole.sorted
        rw [same] at sorted
        intro earlier member
        exact (List.pairwise_append.mp sorted).2.2 earlier member entry
          List.mem_cons_self
      have put : (before.insert entry.1 entry.2).entries =
          before.entries ++ [entry] := DetailEntries.insert_of_last last
      have next : whole.entries =
          (before.insert entry.1 entry.2).entries ++ later := by
        rw [same, put, List.append_assoc]
        rfl
      rw [List.map_cons, List.foldlM_cons]
      exact induction next

theorem ofFields?_fields (details : Details) :
    ofFields? details.fields = some details :=
  foldlM_insert details.entries rfl

end Details

namespace Health

theorem exact_toJson (health : Health) : health.toJson.Exact := by
  have details := health.details.exact_fields
  rw [Details.fields] at details
  unfold toJson
  split
  case h_1 =>
      apply Json.Exact.record (by simp)
      simp [Json.Exact.text]
  case h_2 =>
      apply Json.Exact.record (by simp)
      simp [Json.Exact.text, details]

theorem ofJson?_toJson (health : Health) :
    ofJson? health.toJson = some health := by
  obtain ⟨status, details⟩ := health
  have read := details.ofFields?_fields
  rw [Details.fields] at read
  unfold toJson
  split
  case h_1 empty =>
      have bare : details = Details.empty := by
        obtain ⟨entries, sorted⟩ := details
        simpa [Details.empty] using empty
      simp [ofJson?, Json.parts?, Json.lookup, Json.required?, Json.optional?,
        Json.choice?, HealthStatus.ofKey?_key, bare]
  case h_2 =>
      simp [ofJson?, Json.parts?, Json.lookup, Json.required?, Json.optional?,
        Json.choice?, HealthStatus.ofKey?_key, detailsOfJson?, read]

end Health

/-- Whatever the settings of an adapter and whatever a health report, the text
of its document is read as equal ones. -/
theorem Json.stored_read_back :
    (∀ settings : AdapterSettings,
      (parse settings.toJson.render).bind AdapterSettings.ofJson? =
        some settings) ∧
    ∀ health : Health,
      (parse health.toJson.render).bind Health.ofJson? = some health := by
  constructor
  · intro settings
    rw [parse_render settings.exact_toJson, Option.bind_some,
      settings.ofJson?_toJson]
  · intro health
    rw [parse_render health.exact_toJson, Option.bind_some,
      health.ofJson?_toJson]

end MeterLine
