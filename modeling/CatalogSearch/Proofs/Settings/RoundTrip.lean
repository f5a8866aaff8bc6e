import CatalogSearch.Proofs.Codec.Payloads
import CatalogSearch.Proofs.Codec.RoundTrip
import CatalogSearch.Proofs.Json.Indentation
import CatalogSearch.Settings.Store

/-!
# Settings and their file

Settings are decoded from their written form (`SearchSettings.decode_toJson`). What is written has
no flaw, so the file is read as the settings if they are of the current version, and refused if they
are of any other, which writing does not ask about (`SettingsStore.read_of_write`).
-/

namespace CatalogSearch

section Decoding

open Record (reads_done reads_fieldOr)

/-- The settings of a portal are decoded from their written form. -/
theorem PortalSettings.decode_toJson (settings : PortalSettings) :
    decode settings.toJson = .ok settings := by
  have distinct : ([("allowed_fields", Json.ofStrings settings.allowedFields),
      ("filterable_fields", .ofStrings settings.filterableFields),
      ("param_fields", .ofStrings settings.parameterFields)].map Prod.fst).Nodup := by
    simp
  refine Record.Reads.decode_eq (((reads_done.andThen ?_).andThen ?_).andThen ?_)
    "PortalSettings" nofun
  · exact reads_fieldOr distinct rfl (Decode.list_ofStrings settings.allowedFields) none
  · exact reads_fieldOr distinct rfl (Decode.list_ofStrings settings.filterableFields) none
  · exact reads_fieldOr distinct rfl (Decode.list_ofStrings settings.parameterFields) none

theorem OgcSettings.decode_toJson (settings : OgcSettings) :
    decode settings.toJson = .ok settings := by
  have distinct : ([("reserved_fields", Json.ofStrings settings.reservedFields),
      ("default_limit", .number (.ofUInt32 settings.defaultLimit))].map Prod.fst).Nodup := by
    simp
  refine Record.Reads.decode_eq ((reads_done.andThen ?_).andThen ?_) "OgcSettings" nofun
  · exact reads_fieldOr distinct rfl (Decode.list_ofStrings settings.reservedFields) none
  · exact reads_fieldOr distinct rfl (Decode.unsigned32_ofUInt32 settings.defaultLimit) none

/-- Settings are decoded from their written form. -/
theorem SearchSettings.decode_toJson (settings : SearchSettings) :
    decode settings.toJson = .ok settings := by
  have distinct : ([("version", Json.string settings.version), ("portal", settings.portal.toJson),
      ("ogc", settings.ogc.toJson)].map Prod.fst).Nodup := by
    simp
  refine Record.Reads.decode_eq (((reads_done.andThen ?_).andThen ?_).andThen ?_)
    "SearchConfig" nofun
  · exact reads_fieldOr distinct rfl (Decode.string_string settings.version) none
  · exact reads_fieldOr distinct rfl settings.portal.decode_toJson none
  · exact reads_fieldOr distinct rfl settings.ogc.decode_toJson none

end Decoding

section Text

open Json (isPlain_object isPlain_string isPlain_number isPlain_ofStrings)

/-- The settings of a portal are plain, with two levels. -/
theorem PortalSettings.isPlain_toJson (settings : PortalSettings) : settings.toJson.IsPlain 2 :=
  isPlain_object (List.forall_mem_cons.mpr ⟨isPlain_ofStrings _,
    List.forall_mem_cons.mpr ⟨isPlain_ofStrings _,
      List.forall_mem_singleton.mpr (isPlain_ofStrings _)⟩⟩)

theorem OgcSettings.isPlain_toJson (settings : OgcSettings) : settings.toJson.IsPlain 2 :=
  isPlain_object (List.forall_mem_cons.mpr ⟨isPlain_ofStrings _,
    List.forall_mem_singleton.mpr (isPlain_number rfl)⟩)

/-- Settings are plain, with three levels. -/
theorem SearchSettings.isPlain_toJson (settings : SearchSettings) : settings.toJson.IsPlain 3 :=
  isPlain_object (List.forall_mem_cons.mpr ⟨isPlain_string _,
    List.forall_mem_cons.mpr ⟨settings.portal.isPlain_toJson,
      List.forall_mem_singleton.mpr settings.ogc.isPlain_toJson⟩⟩)

end Text

namespace SearchSettings

/-- The text of settings denotes their written form. -/
theorem parse?_text (settings : SearchSettings) :
    Json.parse? settings.text = some settings.toJson :=
  Json.parse?_indented (settings.isPlain_toJson.mono (Nat.le_add_right 3 124))

/-- What becomes of settings that are read again: those of the current version are kept, and all
others are refused. -/
def reopened (settings : SearchSettings) : Except StoreError SearchSettings :=
  if settings.version = currentVersion then .ok settings
  else .error (.unsupportedVersion settings.version)

/-- The text of settings without a flaw is read as these, if they are of the current version. -/
theorem ofText_text {settings : SearchSettings} (flawless : settings.flaw? = none) :
    ofText settings.text = settings.reopened := by
  simp only [ofText, parse?_text, ofJson, decode_toJson, flawless, reopened, ne_eq]
  by_cases current : settings.version = currentVersion
  · rw [if_neg (not_not_intro current), if_pos current]
  · rw [if_pos current, if_neg current]

end SearchSettings

namespace SettingsStore

/-- Settings with a flaw are refused, and nothing is written. -/
theorem write_flawed {settings : SearchSettings} {flaw : SettingsFlaw}
    (flawed : settings.flaw? = some flaw) (store : SettingsStore) :
    store.write settings = (.error (.flawed flaw), store) := by
  unfold write
  rw [flawed]

/-- Settings without flaw are written if the directory is there and the file can be written. -/
theorem write_flawless {settings : SearchSettings} (flawless : settings.flaw? = none)
    {entry : SettingsEntry} (writable : entry ≠ .directory) :
    (present entry).write settings = (.ok (), present (.file (.text settings.text))) := by
  unfold write
  rw [flawless]
  cases entry with
  | directory => exact absurd rfl writable
  | absent => rfl
  | file content => rfl

/-- Where the file can be written, settings are accepted exactly if they have no flaw. -/
theorem write_eq_ok_iff {entry : SettingsEntry} (writable : entry ≠ .directory)
    {settings : SearchSettings} :
    ((present entry).write settings).1 = .ok () ↔ settings.flaw? = none := by
  cases found : settings.flaw? with
  | none => simp [write_flawless found writable]
  | some flaw => simp [write_flawed found]

theorem read_text {settings : SearchSettings} (flawless : settings.flaw? = none) :
    (present (.file (.text settings.text))).read = settings.reopened :=
  SearchSettings.ofText_text flawless

/-- **Settings of the current version survive their file.** Where the file can be written, settings
are accepted exactly if they have no flaw. Reading then gives back those that are of the current
version, and refuses those of every other. -/
theorem read_of_write {entry : SettingsEntry} (writable : entry ≠ .directory)
    (settings : SearchSettings) :
    (((present entry).write settings).1 = .ok () ↔ settings.flaw? = none) ∧
      (((present entry).write settings).1 = .ok () →
        ((present entry).write settings).2.read =
          if settings.version = SearchSettings.currentVersion then .ok settings
          else .error (.unsupportedVersion settings.version)) := by
  refine ⟨write_eq_ok_iff writable, fun accepted => ?_⟩
  have flawless := (write_eq_ok_iff writable).mp accepted
  rw [write_flawless flawless writable]
  exact read_text flawless

/-- Names that must be escaped and the greatest limit, over a file that was no text. -/
theorem read_of_write_escaped :
    let entry : SettingsEntry := .file (.bytes [0xFF])
    let settings : SearchSettings :=
      ⟨"1.0.0", ⟨["a\"b\\c", "\n\x01", "é😀", ""], [], ["bbox"]⟩, ⟨["x, y"], 4294967295⟩⟩
    entry ≠ .directory ∧ settings.flaw? = none ∧
      ((present entry).write settings).1 = .ok () ∧
      ((present entry).write settings).2.read = .ok settings := by
  intro entry settings
  have writable : entry ≠ .directory := SettingsEntry.noConfusion
  have flawless : settings.flaw? = none := by decide
  obtain ⟨accepted, back⟩ := read_of_write writable settings
  exact ⟨writable, flawless, accepted.mpr flawless, back (accepted.mpr flawless)⟩

/-- Settings of another version are written but not read. -/
theorem other_version_unread :
    let store : SettingsStore := present .absent
    let settings : SearchSettings := { SearchSettings.initial with version := "2.0.0" }
    (store.write settings).1 = .ok () ∧
      (store.write settings).2.read = .error (.unsupportedVersion "2.0.0") ∧
      (store.write settings).2.read ≠ .ok settings := by
  intro store settings
  have flawless : settings.flaw? = none := by decide
  have written : store.write settings = (.ok (), present (.file (.text settings.text))) :=
    write_flawless flawless SettingsEntry.noConfusion
  have refused : (store.write settings).2.read = .error (.unsupportedVersion "2.0.0") := by
    rw [written, read_text flawless]
    rfl
  exact ⟨by rw [written], refused, by rw [refused]; exact nofun⟩

end SettingsStore

end CatalogSearch
