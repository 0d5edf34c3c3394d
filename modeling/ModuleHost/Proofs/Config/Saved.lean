import Mathlib.Data.Set.List
import ModuleHost.Config.Raw
import ModuleHost.Proofs.Config.Revision
import ModuleHost.Proofs.File.Following
import ModuleHost.Proofs.Text.Utf8

/-!
# Saving and loading

A configuration that a file can hold is saved under every path that can be written to, and loaded again as
it was, also from what somebody made of the file, as long as that is a revision; any other is refused
before a file is touched. That is so with every printer and parser that keep the laws of TOML
(`saved_and_loaded`). For a configuration with texts as its paths, saving is `Config.save`
(`save_ofConfig`).
-/
namespace ModuleHost.RawConfig

open File Text Toml Config

variable {c : RawConfig} {d : Config} {t t' : Tree} {path text : String} {toml : Codec}

/-- Whether a file can hold a configuration: its search paths are texts, and the interval is one of the
integers of TOML. -/
structure IsStorable (c : RawConfig) : Prop where
  texts : ∀ p ∈ c.module.searchPaths, ∃ s, .text s = p
  small : c.host.drainWarnInterval.toNat ≤ 2 ^ 63 - 1

theorem mapM_text? {l : List RawPath} {texts : List String} :
    l.mapM RawPath.text? = some texts ↔ l = texts.map .text := by
  induction l generalizing texts with
  | nil => simp [eq_comm]
  | cons p l ih =>
    cases p with
    | bytes b broken => simp [RawPath.text?, eq_comm, List.map_eq_cons_iff]
    | text s =>
      simp only [List.mapM_cons, RawPath.text?, Option.bind_eq_bind, Option.bind_some,
        Option.bind_eq_some_iff, ih]
      constructor
      · rintro ⟨rest, rfl, ⟨⟩⟩
        rfl
      · intro same
        obtain ⟨_, rest, rfl, ⟨⟩, rfl⟩ := List.map_eq_cons_iff.mp same.symm
        exact ⟨rest, rfl, rfl⟩

theorem config?_eq_some : c.config? = some d ↔ c = ofConfig d := by
  obtain ⟨⟨path, searchPaths, require⟩, host, logging⟩ := c
  obtain ⟨⟨path', texts, require'⟩, host', logging'⟩ := d
  simp [config?, ofConfig, mapM_text?, and_assoc, and_left_comm]

theorem IsStorable.exists_config (storable : c.IsStorable) : ∃ d, c = ofConfig d := by
  obtain ⟨⟨path, searchPaths, require⟩, host, logging⟩ := c
  obtain ⟨texts, rfl⟩ : searchPaths ∈ Set.range (List.map RawPath.text) := by
    rw [Set.range_list_map]
    exact storable.texts
  exact ⟨⟨⟨path, texts, require⟩, host, logging⟩, rfl⟩

theorem isStorable_ofConfig : (ofConfig d).IsStorable ↔ d.host.drainWarnInterval.toNat ≤ 2 ^ 63 - 1 := by
  refine ⟨IsStorable.small, fun small => ⟨?_, small⟩⟩
  simp [ofConfig]

/-- Opening the file and then writing is one write: whether a path can be written to does not depend on
the bytes, and of two writes the second stays. -/
theorem save_ofConfig (d : Config) (t : Tree) (path : String) (toml : Codec) :
    (ofConfig d).save t path toml =
      match d.save t path toml with
      | .ok t' => (.ok (), t')
      | .error e => (.error e, t) := by
  rw [save, Config.save, config?_eq_some.mpr rfl, Option.bind_some]
  cases toml.print d.toDocument with
  | none => rfl
  | some text =>
    have same := t.isSome_write? path [] (encode text)
    cases opened : t.write? path [] with
    | none =>
      cases whole : t.write? path (encode text) with
      | none => simp only [whole]
      | some written => simp [opened, whole] at same
    | some emptied =>
      rw [opened, Option.isSome_some] at same
      obtain ⟨written, whole⟩ := Option.isSome_iff_exists.mp same.symm
      simp only [Tree.write?_write? opened, whole]

/-- What no file can hold is refused before a file is touched. -/
theorem save_of_not_isStorable (lawful : toml.Lawful) (other : ¬ c.IsStorable) (t : Tree)
    (path : String) : c.save t path toml = (.error .io, t) := by
  cases texts : c.config? with
  | none => simp only [save, texts, Option.bind_none]
  | some d =>
    obtain rfl := config?_eq_some.mp texts
    have unwritable : d.toDocument.isWritable = false := by
      rw [isStorable_ofConfig, ← isWritable_toDocument] at other
      simpa using other
    simp only [save_ofConfig, Config.save, lawful.refuses _ unwritable]

theorem save_of_isStorable (printed : toml.print d.toDocument = some text)
    (writable : t.IsWritable path) : ∃ t', (ofConfig d).save t path toml = (.ok (), t') ∧
      t.write? path (encode text) = some t' := by
  obtain ⟨t', written⟩ := Tree.write?_of_isWritable writable (encode text)
  exact ⟨t', by simp only [save_ofConfig, Config.save, printed, written], written⟩

theorem load_revised {o : Origin} {es : Toml.Entries} (held : t.read? path = some (encode text))
    (read : toml.parse text = some (.table o es)) (r : Revision (tables d.toDocument) es) :
    load t path toml = .ok (ofConfig d) := by
  have means : ofValue? (.table o es) = some d :=
    (ofValue?_revised (isSection_saved d) r o .header).trans (ofValue?_toDocument d .header)
  have loaded : Config.load t path toml = .ok d := by
    rw [Config.load, if_pos (Tree.exists?_of_read? held), held]
    simp only [ofBytes, decode?_encode, read, Option.bind_some, means]
  rw [load, loaded]
  rfl

/-- **A configuration comes back from its file**, with every printer and parser that keep the laws of
TOML. One that a file can hold is saved under every path that can be written to: the file has the text
of its document, and is loaded as the configuration. So is any text that says the same, with defaults
left out or with more than anybody asks for. Every other configuration is refused, and all files are as
they were. -/
theorem saved_and_loaded (toml : Codec) (lawful : toml.Lawful) (c : RawConfig) (path : String) :
    (c.IsStorable → ∀ t : Tree, t.IsWritable path → ∃ d text t',
      c = ofConfig d ∧ toml.print d.toDocument = some text ∧
      toml.parse text = some (.table .header (tables d.toDocument)) ∧
      c.save t path toml = (.ok (), t') ∧ t.write? path (encode text) = some t' ∧
      load t' path toml = .ok c ∧
      ∀ (edited : Tree) (text : String) (o : Origin) (es : Toml.Entries),
        edited.read? path = some (encode text) → toml.parse text = some (.table o es) →
        Revision (tables d.toDocument) es → load edited path toml = .ok c) ∧
    (¬ c.IsStorable → ∀ t : Tree, c.save t path toml = (.error .io, t)) := by
  refine ⟨fun storable t writable => ?_, fun other t => save_of_not_isStorable lawful other t path⟩
  obtain ⟨d, rfl⟩ := storable.exists_config
  have wellFormed := wellFormed_toDocument storable.small
  obtain ⟨text, printed⟩ := lawful.prints _ wellFormed
  obtain ⟨t', saved, written⟩ := save_of_isStorable printed writable
  have parsed := lawful.parses _ text wellFormed printed
  have loaded := load_revised (Tree.read?_write? written) parsed (.refl (isSection_saved d))
  exact ⟨d, text, t', rfl, printed, parsed, saved, written, loaded, fun _ _ _ _ => load_revised⟩

/-- A module by its name, a search path and a longer interval. -/
def patient : Config where
  module := { path := some "demo", searchPaths := ["/opt/modules"] }
  host := { drainWarnInterval := 5000 }

/-- Its document in another order, without three defaults and a whole table of them, and with a key and a
table that nobody knows. -/
def trimmed : Document :=
  [⟨"limits", [("calls", .number 8)]⟩,
   ⟨"host", [("drain_warn_interval_ms", .number 5000)]⟩,
   ⟨"module", [("note", .text "for the demo"), ("search_paths", .texts ["/opt/modules"]),
     ("path", .text "demo")]⟩]

/-- A search path that is no text. -/
def unnamed : RawConfig where
  module := { searchPaths := [.bytes [0xff] (by decide)] }

/-- With the writer and the reader of this project, a configuration is saved where no file was and loaded,
also from its trimmed document; one with a search path that is no text is refused. -/
theorem saved_and_loaded_sample : Codec.own.Lawful ∧
    (ofConfig patient).IsStorable ∧ Tree.IsWritable {} "/modhost.toml" ∧
    (∃ t', (ofConfig patient).save {} "/modhost.toml" = (.ok (), t') ∧
      load t' "/modhost.toml" = .ok (ofConfig patient)) ∧
    load { nodes := [(["modhost.toml"], .file 0 (encode trimmed.render))] } "/modhost.toml" =
      .ok (ofConfig patient) ∧
    ¬ unnamed.IsStorable ∧ unnamed.save {} "/modhost.toml" = (.error .io, {}) := by
  have storable : (ofConfig patient).IsStorable := isStorable_ofConfig.mpr (by decide)
  have writable : Tree.IsWritable {} "/modhost.toml" := .inr ⟨["modhost.toml"], rfl⟩
  have other : ¬ unnamed.IsStorable := fun ⟨texts, _⟩ => by
    obtain ⟨s, ⟨⟩⟩ := texts _ (List.mem_singleton_self _)
  have wellFormed : trimmed.WellFormed :=
    ⟨by decide, by decide, by decide, rfl⟩
  have revision : Revision (tables patient.toDocument) (tables trimmed) := by
    constructor
    · simp only [settingNames, List.forall_mem_cons]
      exact ⟨.inr ⟨_, _, rfl⟩, .inr ⟨_, _, rfl⟩, .inl rfl, by simp⟩
    · simp only [settingNames, List.forall_mem_cons]
      exact ⟨⟨.inl rfl, .inl rfl, .inr ⟨rfl, rfl⟩, by simp⟩, ⟨.inl rfl, .inr ⟨rfl, rfl⟩, by simp⟩,
        ⟨.inr ⟨rfl, rfl⟩, .inr ⟨rfl, rfl⟩, by simp⟩, by simp⟩
  have held (b : Bytes) :
      Tree.read? { nodes := [(["modhost.toml"], .file 0 b)] } "/modhost.toml" = some b := rfl
  have lawful := Codec.lawful_own
  have parsed := lawful.parses trimmed trimmed.render wellFormed (Codec.print_own wellFormed)
  obtain ⟨d, text, t', same, -, -, saved, -, loaded, edited⟩ :=
    (saved_and_loaded .own lawful (ofConfig patient) "/modhost.toml").1 storable {} writable
  obtain rfl : patient = d :=
    Option.some.inj ((config?_eq_some.mpr rfl).symm.trans (config?_eq_some.mpr same))
  exact ⟨lawful, storable, writable, ⟨t', saved, loaded⟩,
    edited _ trimmed.render .header (tables trimmed) (held _) parsed revision,
    other, (saved_and_loaded .own lawful unnamed "/modhost.toml").2 other {}⟩

end ModuleHost.RawConfig
