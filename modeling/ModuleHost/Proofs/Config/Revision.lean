import Mathlib.Algebra.Group.Nat.Defs
import ModuleHost.Config.Document
import ModuleHost.Proofs.Toml.Document

/-!
# What a configuration file says

A document says what its tables hold for each setting (`settingAt`); the order, and what else is there,
say nothing. The document of a configuration is read as that configuration (`ofValue?_toDocument`), and a
revision of a document is read as the document was (`ofValue?_revised`): a setting may be left out where it
has its default, because a section that is not there, a setting that is not there and what is written for a
default come to the same.
-/
namespace ModuleHost.Config

open Toml

variable {es saved : Toml.Entries} {name key : String}

/-! ## Revised documents -/

/-- The names of the settings, by section. -/
def settingNames : List (String × List String) :=
  [("module", ["path", "search_paths", "require_abi_version"]),
   ("host", ["drain_warn_interval_ms", "default_status"]),
   ("logging", ["level", "format"])]

/-- What the tables of a document hold for a setting. -/
def settingAt (es : Toml.Entries) (name key : String) : Option Value :=
  match Toml.Entries.get? es name with
  | some (.table _ sub) => Toml.Entries.get? sub key
  | _ => none

/-- Whether a section is a table, if it is there at all. -/
def IsSection (es : Toml.Entries) (name : String) : Prop :=
  Toml.Entries.get? es name = none ∨ ∃ o sub, Toml.Entries.get? es name = some (.table o sub)

/-- Whether a setting was kept as it was saved, or was saved with its default and taken out. -/
def IsKept (saved es : Toml.Entries) (name key : String) : Prop :=
  settingAt es name key = settingAt saved name key ∨
    settingAt es name key = none ∧
      settingAt saved name key = settingAt (tables (toDocument {})) name key

/-- Tables that come from those that were saved: settings with their defaults were taken out, some or
all of a section, and anything was added under names that no setting or section has. -/
structure Revision (saved es : Toml.Entries) : Prop where
  sections : ∀ s ∈ settingNames, IsSection es s.1
  settings : ∀ s ∈ settingNames, ∀ key ∈ s.2, IsKept saved es s.1 key

theorem Revision.refl (form : ∀ s ∈ settingNames, IsSection saved s.1) : Revision saved saved :=
  ⟨form, fun _ _ _ _ => .inl rfl⟩

/-- A section as its settings are found by their names. -/
def lookupIn (es : Toml.Entries) (name : String) : Lookup := ⟨fun _ key => settingAt es name key⟩

theorem part?_eq {α : Type} (read : Lookup → Option α) {x : α} (form : IsSection es name)
    (empty : read ⟨fun _ _ => none⟩ = some x) : part? es name read x = read (lookupIn es name) := by
  rcases form with none | ⟨o, sub, table⟩
  · simp only [part?, lookupIn, settingAt, none, empty]
  · simp only [part?, lookupIn, settingAt, table]
    rfl

theorem ofValue?_eq (form : ∀ s ∈ settingNames, IsSection es s.1) (o : Origin) :
    ofValue? (.table o es) = (do
      let module ← moduleSettings? (lookupIn es "module")
      let host ← hostSettings? (lookupIn es "host")
      let logging ← logSettings? (lookupIn es "logging")
      return { module, host, logging }) := by
  simp only [settingNames, List.forall_mem_cons] at form
  obtain ⟨module, host, logging, -⟩ := form
  rw [ofValue?, part?_eq moduleSettings? module rfl, part?_eq hostSettings? host rfl,
    part?_eq logSettings? logging rfl]

theorem setting_lookupIn {α : Type} (position : Nat) (read : Value → Option α) (x : α) :
    (lookupIn es name).setting position key read x = (settingAt es name key).elim (some x) read := by
  cases held : settingAt es name key <;> simp only [Lookup.setting, lookupIn, held] <;> rfl

theorem setting_eq {α : Type} (position : Nat) (read : Value → Option α) (x : α)
    (kept : IsKept saved es name key)
    (same : (settingAt (tables (toDocument {})) name key).elim (some x) read = some x) :
    (lookupIn es name).setting position key read x =
      (lookupIn saved name).setting position key read x := by
  rw [setting_lookupIn, setting_lookupIn]
  rcases kept with kept | ⟨gone, kept⟩
  · rw [kept]
  · rw [gone, kept, same]
    rfl

theorem moduleSettings?_revised (r : Revision saved es) :
    moduleSettings? (lookupIn es "module") = moduleSettings? (lookupIn saved "module") := by
  have kept := r.settings ("module", ["path", "search_paths", "require_abi_version"]) (by decide)
  simp only [List.forall_mem_cons] at kept
  obtain ⟨path, searchPaths, require, -⟩ := kept
  rw [moduleSettings?, moduleSettings?, setting_eq 0 _ none path rfl, setting_eq 1 _ [] searchPaths rfl,
    setting_eq 2 _ false require rfl]

theorem hostSettings?_revised (r : Revision saved es) :
    hostSettings? (lookupIn es "host") = hostSettings? (lookupIn saved "host") := by
  have kept := r.settings ("host", ["drain_warn_interval_ms", "default_status"]) (by decide)
  simp only [List.forall_mem_cons] at kept
  obtain ⟨drain, status, -⟩ := kept
  let default : HostSettings := {}
  rw [hostSettings?, hostSettings?, setting_eq 0 _ default.drainWarnInterval drain rfl,
    setting_eq 1 _ default.defaultStatus status rfl]

theorem logSettings?_revised (r : Revision saved es) :
    logSettings? (lookupIn es "logging") = logSettings? (lookupIn saved "logging") := by
  have kept := r.settings ("logging", ["level", "format"]) (by decide)
  simp only [List.forall_mem_cons] at kept
  obtain ⟨level, format, -⟩ := kept
  let default : LogSettings := {}
  rw [logSettings?, logSettings?, setting_eq 0 _ default.level level rfl,
    setting_eq 1 _ default.format format rfl]

/-- **A revised document means what was saved.** -/
theorem ofValue?_revised (form : ∀ s ∈ settingNames, IsSection saved s.1) (r : Revision saved es)
    (o o' : Origin) : ofValue? (.table o es) = ofValue? (.table o' saved) := by
  rw [ofValue?_eq form, ofValue?_eq r.sections, moduleSettings?_revised r, hostSettings?_revised r,
    logSettings?_revised r]

/-! ## Saved documents -/

theorem texts?_map (items : List String) : texts? (.array (items.map .string)) = some items := by
  rw [texts?, List.mapM_map]
  exact List.mapM_pure.trans (congrArg some (List.map_id items))

theorem number?_natCast {max n : Nat} (small : n ≤ max) : number? max (.integer n) = some n := by
  simp [number?, small]

theorem formatOfName?_name (f : LogFormat) : formatOfName? f.name = some f := by
  cases f <;> rfl

theorem isSection_saved (c : Config) : ∀ s ∈ settingNames, IsSection (tables c.toDocument) s.1 := by
  simp only [settingNames, List.forall_mem_cons]
  exact ⟨.inr ⟨_, _, rfl⟩, .inr ⟨_, _, rfl⟩, .inr ⟨_, _, rfl⟩, by simp⟩

theorem moduleSettings?_saved (c : Config) :
    moduleSettings? (lookupIn (tables c.toDocument) "module") = some c.module := by
  have path : settingAt (tables c.toDocument) "module" "path" = c.module.path.map .string := by
    obtain ⟨⟨_ | path⟩⟩ := c <;> rfl
  have searchPaths : settingAt (tables c.toDocument) "module" "search_paths" =
      some (.array (c.module.searchPaths.map .string)) := by
    obtain ⟨⟨_ | path⟩⟩ := c <;> rfl
  have require : settingAt (tables c.toDocument) "module" "require_abi_version" =
      some (.boolean c.module.requireAbiVersion) := by
    obtain ⟨⟨_ | path⟩⟩ := c <;> rfl
  have read : (c.module.path.map Value.string).elim (some none) (fun v => (text? v).map some) =
      some c.module.path := by
    cases c.module.path <;> rfl
  rw [moduleSettings?, setting_lookupIn, setting_lookupIn, setting_lookupIn, path, searchPaths, require,
    read, Option.elim_some, texts?_map]
  rfl

theorem hostSettings?_saved (c : Config) :
    hostSettings? (lookupIn (tables c.toDocument) "host") = some c.host := by
  have drain : settingAt (tables c.toDocument) "host" "drain_warn_interval_ms" =
      some (.integer c.host.drainWarnInterval.toNat) := rfl
  have status : settingAt (tables c.toDocument) "host" "default_status" =
      some (.integer c.host.defaultStatus.toNat) := rfl
  have wide : c.host.drainWarnInterval.toNat ≤ UInt64.size - 1 :=
    Nat.le_sub_one_of_lt c.host.drainWarnInterval.toNat_lt
  have short : c.host.defaultStatus.toNat ≤ UInt16.size - 1 :=
    Nat.le_sub_one_of_lt c.host.defaultStatus.toNat_lt
  rw [hostSettings?, setting_lookupIn, setting_lookupIn, drain, status, Option.elim_some,
    Option.elim_some, number?_natCast wide, number?_natCast short]
  simp

theorem logSettings?_saved (c : Config) :
    logSettings? (lookupIn (tables c.toDocument) "logging") = some c.logging := by
  have level : settingAt (tables c.toDocument) "logging" "level" = some (.string c.logging.level) := rfl
  have format : settingAt (tables c.toDocument) "logging" "format" =
      some (.string c.logging.format.name) := rfl
  rw [logSettings?, setting_lookupIn, setting_lookupIn, level, format, Option.elim_some,
    Option.elim_some, format?, formatOfName?_name]
  rfl

/-- **A configuration is read from its document.** -/
theorem ofValue?_toDocument (c : Config) (o : Origin) :
    ofValue? (.table o (tables c.toDocument)) = some c := by
  rw [ofValue?_eq (isSection_saved c), moduleSettings?_saved, hostSettings?_saved, logSettings?_saved]
  rfl

theorem inRange_natCast (n : Nat) : inRange n = true ↔ n ≤ 2 ^ 63 - 1 := by
  have least : Int64.minValue.toInt = -9223372036854775808 := rfl
  have greatest : Int64.maxValue.toInt = 9223372036854775807 := rfl
  simp only [inRange, least, greatest, Bool.and_eq_true, decide_eq_true_eq]
  omega

/-- The interval is the one number that can be too great for a document. -/
theorem isWritable_toDocument (c : Config) :
    c.toDocument.isWritable = true ↔ c.host.drainWarnInterval.toNat ≤ 2 ^ 63 - 1 := by
  have status : inRange c.host.defaultStatus.toNat = true :=
    (inRange_natCast _).mpr (Nat.le_trans (Nat.le_of_lt c.host.defaultStatus.toNat_lt) (by decide))
  rw [← inRange_natCast]
  obtain ⟨⟨_ | path⟩⟩ := c <;> simp [toDocument, Document.isWritable, Setting.isWritable, status]

theorem wellFormed_toDocument {c : Config} (small : c.host.drainWarnInterval.toNat ≤ 2 ^ 63 - 1) :
    c.toDocument.WellFormed where
  bare := by
    have names : ∀ s ∈ settingNames, IsBareKey s.1 ∧ ∀ key ∈ s.2, IsBareKey key := by decide
    simp only [settingNames, List.forall_mem_cons] at names
    obtain ⟨⟨module, path, searchPaths, require, -⟩, ⟨host, drain, status, -⟩,
      ⟨logging, level, format, -⟩, -⟩ := names
    have moduleKeys : ∀ e ∈ (c.module.path.map fun p => ("path", Setting.text p)).toList,
        IsBareKey e.1 := by
      cases c.module.path <;> simp [path]
    simp only [toDocument, List.forall_mem_cons, List.forall_mem_append, List.not_mem_nil, false_imp_iff,
      implies_true, and_true]
    exact ⟨⟨module, moduleKeys, searchPaths, require⟩, ⟨host, drain, status⟩, logging, level, format⟩
  names := by simp [toDocument]
  keys := by obtain ⟨⟨_ | path⟩⟩ := c <;> simp [toDocument]
  writable := (isWritable_toDocument c).mpr small

end ModuleHost.Config
