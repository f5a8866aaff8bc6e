import CatalogSearch.Proofs.Settings.RoundTrip

/-!
# Sessions on the settings file

The file is created by loading where it is missing, and replaced by writing. Whatever is done
with it, it holds the text of the settings that were stored last, or is not there as long as nothing
was (`SettingsAccess.run_missing`). So it answers for these settings alone, and what fails changes
nothing (`SettingsAccess.answersFor_run`).
-/

namespace CatalogSearch

/-- One access to the settings file. -/
inductive SettingsAccess where
  | load
  | read
  | write (settings : SearchSettings)

namespace SettingsAccess

/-- Accesses the settings of a store. Loading and reading return settings, writing returns none. -/
def perform (store : SettingsStore) :
    SettingsAccess → Except StoreError (Option SearchSettings) × SettingsStore
  | .load => (store.load.1.map some, store.load.2)
  | .read => (store.read.map some, store)
  | .write settings => ((store.write settings).1.map fun _ => none, (store.write settings).2)

/-- The store after some accesses in order. -/
def run (store : SettingsStore) (accesses : List SettingsAccess) : SettingsStore :=
  accesses.foldl (fun store access => (perform store access).2) store

/-- The settings that an access puts into the file: the initial ones if loading succeeds where no
file is, and those that are written if writing succeeds. -/
def stored? (store : SettingsStore) : SettingsAccess → Option SearchSettings
  | .load =>
      match store.content?, store.load.1 with
      | none, .ok _ => some .initial
      | _, _ => none
  | .read => none
  | .write settings =>
      match (store.write settings).1 with
      | .ok _ => some settings
      | .error _ => none

/-- The settings that were put into the file last, if any were. -/
def lastStored? (store : SettingsStore) : List SettingsAccess → Option SearchSettings
  | [] => none
  | access :: rest => (lastStored? (perform store access).2 rest).or (stored? store access)

end SettingsAccess

namespace SettingsStore

/-- The store whose file holds the text of the given settings. Without settings, the directory is
missing. -/
def holding : Option SearchSettings → SettingsStore
  | none => missing
  | some settings => present (.file (.text settings.text))

theorem content?_holding (held : Option SearchSettings) :
    (holding held).content? = held.map fun settings => .text settings.text := by
  cases held <;> rfl

/-- Settings are accepted exactly if there is a directory and they have no flaw. -/
theorem write_holding_eq_ok_iff {held : Option SearchSettings} {settings : SearchSettings} :
    ((holding held).write settings).1 = .ok () ↔
      held.isSome = true ∧ settings.flaw? = none := by
  cases held with
  | some earlier =>
      have writable : SettingsEntry.file (.text earlier.text) ≠ .directory :=
        SettingsEntry.noConfusion
      simp [holding, write_eq_ok_iff writable]
  | none =>
      unfold write
      cases settings.flaw? <;> simp [holding]

/-- Loading changes nothing if it fails. -/
theorem load_of_error {store : SettingsStore} {error : StoreError}
    (failed : store.load.1 = .error error) : store.load.2 = store := by
  cases store with
  | missing => cases failed
  | obstructed => rfl
  | present entry =>
      cases entry with
      | absent => cases failed
      | file content => rfl
      | directory => rfl

theorem write_of_error {store : SettingsStore} {settings : SearchSettings} {error : StoreError}
    (failed : (store.write settings).1 = .error error) : (store.write settings).2 = store := by
  cases found : settings.flaw? with
  | some flaw => rw [write_flawed found]
  | none =>
      unfold write at failed ⊢
      rw [found] at failed ⊢
      cases store with
      | missing => rfl
      | obstructed => rfl
      | present entry =>
          cases entry with
          | directory => rfl
          | absent => cases failed
          | file content => cases failed

/-- Where there is a file, loading reads it and changes nothing. -/
theorem load_of_content {store : SettingsStore} (content : store.content?.isSome = true) :
    store.load = (store.read, store) := by
  unfold content? at content
  split at content
  · rfl
  · cases content

end SettingsStore

namespace SettingsAccess

/-- An access that fails changes nothing. -/
theorem perform_of_error {store : SettingsStore} {access : SettingsAccess} {error : StoreError}
    (failed : (perform store access).1 = .error error) : (perform store access).2 = store := by
  cases access with
  | read => rfl
  | load =>
      cases outcome : store.load.1 with
      | error cause => exact SettingsStore.load_of_error outcome
      | ok settings =>
          rw [perform, outcome] at failed
          cases failed
  | write settings =>
      cases outcome : (store.write settings).1 with
      | error cause => exact SettingsStore.write_of_error outcome
      | ok _ =>
          rw [perform, outcome] at failed
          cases failed

end SettingsAccess

namespace SettingsStore

/-- How the settings file answers when the given settings were stored last, or when none were. -/
structure AnswersFor (store : SettingsStore) (held : Option SearchSettings) : Prop where
  content : store.content? = held.map fun settings => .text settings.text
  failure : ∀ access error, (SettingsAccess.perform store access).1 = .error error →
    (SettingsAccess.perform store access).2 = store
  kept : store.content?.isSome = true → store.load.2 = store
  created : held = none → store.load.1 = .ok .initial
  returned : ∀ settings ∈ held,
    store.load.1 = settings.reopened ∧ store.read = settings.reopened
  accepted : ∀ settings, (store.write settings).1 = .ok () ↔
    held.isSome = true ∧ settings.flaw? = none

/-- A store that holds settings answers for these. -/
theorem answersFor_holding {held : Option SearchSettings}
    (flawless : ∀ settings ∈ held, settings.flaw? = none) : (holding held).AnswersFor held where
  content := content?_holding held
  failure _ _ := SettingsAccess.perform_of_error
  kept content := by rw [load_of_content content]
  created absent := by
    subst absent
    rfl
  returned settings member := by
    obtain rfl := Option.mem_def.mp member
    have read := read_text (flawless settings rfl)
    rw [holding, load_of_content rfl]
    exact ⟨read, read⟩
  accepted _ := write_holding_eq_ok_iff

end SettingsStore

namespace SettingsAccess

open SettingsStore (holding)

section Run

variable {held : Option SearchSettings}

/-- What an access stores has no flaw. -/
theorem flawless_of_stored? {access : SettingsAccess} {settings : SearchSettings}
    (stored : stored? (holding held) access = some settings) : settings.flaw? = none := by
  cases access with
  | read => cases stored
  | load =>
      cases held with
      | none =>
          obtain rfl := Option.some.inj stored
          rfl
      | some earlier => cases stored
  | write given =>
      cases outcome : ((holding held).write given).1 with
      | error cause =>
          rw [stored?, outcome] at stored
          cases stored
      | ok _ =>
          rw [stored?, outcome] at stored
          obtain rfl := Option.some.inj stored
          exact (SettingsStore.write_holding_eq_ok_iff.mp outcome).2

/-- An access puts settings into the file or leaves it as it was. -/
theorem perform_holding (held : Option SearchSettings) (access : SettingsAccess) :
    (perform (holding held) access).2 = holding ((stored? (holding held) access).or held) := by
  cases access with
  | read => rfl
  | load => cases held <;> rfl
  | write settings =>
      cases outcome : ((holding held).write settings).1 with
      | ok _ =>
          obtain ⟨present, flawless⟩ := SettingsStore.write_holding_eq_ok_iff.mp outcome
          obtain ⟨earlier, rfl⟩ := Option.isSome_iff_exists.mp present
          rw [stored?, outcome, perform, holding,
            SettingsStore.write_flawless flawless SettingsEntry.noConfusion]
          rfl
      | error cause =>
          rw [stored?, outcome, perform, SettingsStore.write_of_error outcome]
          rfl

/-- After some accesses, a store holds what was stored last, or else what it held before. -/
theorem run_holding (held : Option SearchSettings) (accesses : List SettingsAccess) :
    run (holding held) accesses = holding ((lastStored? (holding held) accesses).or held) := by
  induction accesses generalizing held with
  | nil => rfl
  | cons access rest ih =>
      have step := perform_holding held access
      calc run (holding held) (access :: rest)
          = run (perform (holding held) access).2 rest := rfl
        _ = holding ((lastStored? (perform (holding held) access).2 rest).or
              ((stored? (holding held) access).or held)) := by rw [step, ih]
        _ = holding ((lastStored? (holding held) (access :: rest)).or held) := by
              rw [lastStored?, Option.or_assoc]

/-- What was stored last has no flaw. -/
theorem flawless_of_lastStored? {accesses : List SettingsAccess} {settings : SearchSettings}
    (stored : lastStored? (holding held) accesses = some settings) : settings.flaw? = none := by
  induction accesses generalizing held with
  | nil => cases stored
  | cons access rest ih =>
      rw [lastStored?, perform_holding] at stored
      rcases Option.or_eq_some_iff.mp stored with later | ⟨_, now⟩
      · exact ih later
      · exact flawless_of_stored? now

end Run

/-- A session that begins without a directory leaves the text of what was stored last. -/
theorem run_missing (accesses : List SettingsAccess) :
    run .missing accesses = holding (lastStored? .missing accesses) :=
  (run_holding none accesses).trans (congrArg holding (Option.or_none))

/-- **The settings file answers for what was stored last.** At every point of a session that begins
without a directory, the file holds exactly the text of the settings that were written last, or of
the initial ones if loading has created it since; loading and reading return these settings if they
are of the current version and refuse them otherwise; loading never changes a file that is there,
and what fails changes nothing. -/
theorem answersFor_run (accesses : List SettingsAccess) :
    (run .missing accesses).AnswersFor (lastStored? .missing accesses) := by
  rw [run_missing]
  exact SettingsStore.answersFor_holding fun settings stored =>
    @flawless_of_lastStored? none accesses settings stored

/-- Settings of another version stay in the file until others are written. -/
example : lastStored? .missing [.write .initial, .load, .write ⟨"2.0.0", .initial, .initial⟩,
    .load, .write ⟨" ", .initial, .initial⟩, .read] = some ⟨"2.0.0", .initial, .initial⟩ := rfl

end SettingsAccess

end CatalogSearch
