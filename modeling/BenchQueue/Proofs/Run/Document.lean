import Mathlib
import BenchQueue.Proofs.Toml.Values
import BenchQueue.Run.Config

/-!
# The document of a configuration

A configuration is written as a TOML document, unless a setting, a variable or the name of a file has no
form in one. If the configuration is regular, as every one is that was read, then what is read from the
document is this configuration again, in whatever order the entries of its tables were written.
-/

namespace BenchQueue

/-! ## Settings of a provider -/

namespace Infra.Config

variable {c : Config}

/-- The settings of a provider are read from all members but the kind, which has a default. -/
theorem ofJson?_obj (members : List (String × Json)) :
    ofJson? (.obj members) = (Json.recordOfMembers ["kind"] members).bind fun r =>
      (r.defaulted "kind" localKind Json.str?).bind fun kind =>
        some { kind, settings := Members.sort (Json.canonicalMembers
          (members.filter fun entry => decide (entry.1 ≠ "kind"))) } := by
  rw [Json.canonicalMembers_eq_map]
  rfl

/-- The settings of a provider are read alike in every order of the members. -/
theorem orderFree_ofJson? : Json.OrderFree ofJson? := by
  intro json
  cases json with
  | obj members =>
    have hsettings :=
      Json.sort_canonical_filter_ordered (fun name => decide (name ≠ "kind")) members
    rw [Json.ordered, ofJson?_obj, ofJson?_obj, hsettings]
    refine Json.Record.Changed.bind_eq
      (Json.recordOfMembers_changed fun name _ => Json.occurrences_ordered name members)
      fun r' r hchanged => ?_
    rw [Json.orderFree_str?.defaulted hchanged List.mem_cons_self]
  | _ => rfl

/-- Settings that were read are canonical, and the kind is not among them. -/
theorem canonical_of_ofJson? {json : Json} (h : ofJson? json = some c) :
    (Json.obj c.settings).canonical = .obj c.settings ∧ "kind" ∉ c.settings.names := by
  cases json with
  | obj members =>
    rw [ofJson?_obj] at h
    obtain ⟨r, -, h⟩ := Option.bind_eq_some_iff.mp h
    obtain ⟨kind, -, h⟩ := Option.bind_eq_some_iff.mp h
    obtain rfl := Option.some.inj h
    refine ⟨Json.canonical_canonical (.obj _), fun hmem => ?_⟩
    rw [Members.mem_names_sort, Json.canonicalMembers_eq_map] at hmem
    simp [Members.names] at hmem
  | _ => cases h

/-- Canonical settings are read as they are. -/
theorem ofJson?_toJson (hsettings : (Json.obj c.settings).canonical = .obj c.settings)
    (hkind : "kind" ∉ c.settings.names) : ofJson? c.toJson = some c := by
  have hsorted : Members.sort (Json.canonicalMembers c.settings) = c.settings :=
    Json.obj.inj hsettings
  have hnames : (Members.names (("kind", Json.str c.kind) :: c.settings)).Nodup :=
    List.nodup_cons.mpr ⟨hkind, hsorted ▸ (Members.increasing_sort _).nodup_names⟩
  have hothers : ∀ entry ∈ c.settings, entry.1 ≠ "kind" := fun entry hentry hsame =>
    hkind (hsame ▸ List.mem_map_of_mem hentry)
  obtain ⟨r, hr, hfields⟩ := Json.exists_recordOfMembers hnames ["kind"]
  rw [toJson, ofJson?_obj, hr, Option.bind_some,
    Json.Record.defaulted_of_find? (hfields "kind" List.mem_cons_self), Json.str?, Option.bind_some,
    List.filter_cons_of_neg (by simp), List.filter_eq_self.mpr (by simpa using hothers), hsorted]

end Infra.Config

/-! ## Workflows -/

namespace Infra.Workflow

/-- A workflow is read alike in every order of the members. -/
theorem orderFree_ofJson? : Json.OrderFree ofJson? :=
  Json.orderFree_record? fun r' r hchanged => by
    rw [Json.orderFree_str?.defaulted hchanged (by decide),
      Json.orderFree_str?.listOf.defaulted hchanged (by decide),
      Json.orderFree_str?.optional hchanged (by decide),
      Json.orderFree_str?.optional hchanged (by decide),
      Json.orderFree_obj?.defaulted hchanged (by decide)]

/-- Variables that were read are canonical, and no file for the output was. -/
theorem canonical_of_ofJson? {w : Workflow} {json : Json} (h : ofJson? json = some w) :
    (Json.obj w.extraVars).canonical = .obj w.extraVars ∧
      w.stdoutPath = none ∧ w.stderrPath = none := by
  obtain ⟨r, -, h⟩ := Option.bind_eq_some_iff.mp h
  iterate 4 obtain ⟨_, -, h⟩ := Option.bind_eq_some_iff.mp h
  obtain ⟨vars, hvars, h⟩ := Option.bind_eq_some_iff.mp h
  obtain rfl := Option.some.inj h
  refine ⟨?_, rfl, rfl⟩
  rcases Json.Record.defaulted_cases hvars with rfl | ⟨value, hvalue⟩
  · rfl
  · obtain ⟨members, -, rfl⟩ := Option.map_eq_some_iff.mp hvalue
    have hcanonical := Json.canonical_canonical (.obj members)
    rw [Json.canonical, Json.canonicalMembers_eq_map] at hcanonical
    exact hcanonical

/-- The members of a workflow in a document; a file that is not set has none. -/
def members (w : Workflow) : List (String × Json) :=
  [("command", .str w.command), ("playbooks", .arr (w.playbooks.map .str))] ++
    (w.inventory.map fun file => ("inventory", .str file)).toList ++
    (w.workingDir.map fun dir => ("working_dir", .str dir)).toList ++ [("extra_vars", .obj w.extraVars)]

/-- No member of a workflow is written twice. -/
theorem nodup_names_members (w : Workflow) : (Members.names w.members).Nodup := by
  rw [members]
  cases w.inventory <;> cases w.workingDir <;> simp [Members.names]

/-- The members that may be missing are found exactly if they are set. -/
theorem find?_members (w : Workflow) :
    Members.find? w.members "inventory" = w.inventory.map Json.str ∧
      Members.find? w.members "working_dir" = w.workingDir.map Json.str ∧
      Members.find? w.members "extra_vars" = some (.obj w.extraVars) := by
  rw [members]
  cases w.inventory <;> cases w.workingDir <;> exact ⟨rfl, rfl, rfl⟩

/-- A workflow with canonical variables whose output goes to no file is read as it is. -/
theorem ofJson?_members {w : Workflow} (hvars : (Json.obj w.extraVars).canonical = .obj w.extraVars)
    (hstdout : w.stdoutPath = none) (hstderr : w.stderrPath = none) :
    ofJson? (.obj w.members) = some w := by
  have hsorted : Members.sort (Json.canonicalMembers w.extraVars) = w.extraVars :=
    Json.obj.inj hvars
  obtain ⟨r, hr, hfields⟩ := Json.exists_recordOfMembers w.nodup_names_members
    ["command", "playbooks", "inventory", "working_dir", "extra_vars"]
  obtain ⟨hinventory, hdir, hfree⟩ := w.find?_members
  have hcommand : r.defaulted "command" defaultCommand Json.str? = some w.command :=
    Json.Record.defaulted_of_find? (hfields "command" (by decide)) _
  have hplaybooks : r.defaulted "playbooks" [] (Json.listOf Json.str?) = some w.playbooks := by
    rw [Json.Record.defaulted_of_find? (hfields "playbooks" (by decide)), Json.listOf_str?_map]
  rw [← hfields "inventory" (by decide)] at hinventory
  rw [← hfields "working_dir" (by decide)] at hdir
  rw [← hfields "extra_vars" (by decide)] at hfree
  rw [ofJson?, Json.record?, hr, Option.bind_eq_bind, Option.bind_some, hcommand, hplaybooks,
    Json.Record.optional_of_find? hinventory fun _ => rfl,
    Json.Record.optional_of_find? hdir fun _ => rfl, Json.Record.defaulted_of_find? hfree, Json.obj?,
    Option.map_some, ← Json.canonicalMembers_eq_map, hsorted]
  obtain ⟨command, playbooks, inventory, workingDir, extraVars, stdoutPath, stderrPath⟩ := w
  cases hstdout
  cases hstderr
  rfl

end Infra.Workflow

namespace Run

namespace RawConfig

variable {c : RawConfig}

/-! ## What has no form -/

/-- The settings and the variables are as a configuration in memory holds them, sorted by name and with
finite numbers at every depth. The kind is no free setting, and no file is set for the output. -/
structure Regular (c : RawConfig) : Prop where
  settings : (Json.obj c.infra.settings).canonical = .obj c.infra.settings
  extraVars : (Json.obj c.workflow.extraVars).canonical = .obj c.workflow.extraVars
  kind : "kind" ∉ c.infra.settings.names
  stdoutPath : c.workflow.stdoutPath = none
  stderrPath : c.workflow.stderrPath = none

/-- Something in the configuration has no TOML form: a name of a file that is no text, or a setting or
variable with a null or an integer beyond 63 bits in it. -/
def BeyondToml (c : RawConfig) : Prop :=
  ¬ c.rootDir.IsValidUTF8 ∨ (∃ setting ∈ c.infra.settings, setting.2.BeyondToml) ∨
    (∃ dir, c.workflow.workingDir = some dir ∧ ¬ dir.IsValidUTF8) ∨
      ∃ var ∈ c.workflow.extraVars, var.2.BeyondToml

/-- An entry that may be missing is a member exactly if it is there. -/
theorem entriesToJson_optionalEntry (name : String) (value : Option String) :
    Toml.entriesToJson (optionalEntry name (value.map .str)) =
      (value.map fun text => (name, Json.str text)).toList := by
  cases value <;> rfl

/-- The name of a file that is spelled by a text has a form, if there is a name. -/
theorem mapM_ofFileName_toUTF8 (name : Option String) :
    (name.map String.toUTF8).mapM Toml.ofFileName = .ok (name.map Toml.str) := by
  cases name with
  | none => rfl
  | some text =>
    have hform := Toml.ofFileName_toUTF8 text
    change (Toml.ofFileName text.toUTF8).map some = _
    rw [hform]
    rfl

/-- Such a name has no form exactly if it is there and is not valid text. -/
theorem mapM_ofFileName_eq_error_iff {name : Option ByteArray} :
    (∃ cause, name.mapM Toml.ofFileName = .error cause) ↔
      ∃ dir, name = some dir ∧ ¬ dir.IsValidUTF8 := by
  cases name with
  | none => exact ⟨nofun, nofun⟩
  | some dir =>
    have hmap : (some dir).mapM Toml.ofFileName = (Toml.ofFileName dir).map some := rfl
    rw [hmap, Toml.map_eq_error_iff, Toml.ofFileName_eq_error_iff]
    simp

/-- A document lacks nothing but what has no form. -/
theorem toToml_eq_error_iff : (∃ cause, c.toToml = .error cause) ↔ c.BeyondToml := by
  rw [BeyondToml, ← Toml.ofFileName_eq_error_iff, ← Toml.entriesOfJson_eq_error_iff,
    ← mapM_ofFileName_eq_error_iff, ← Toml.entriesOfJson_eq_error_iff, toToml]
  -- The forms are made one after the other, and the first one that is missing ends the writing.
  cases Toml.ofFileName c.rootDir with
  | error cause => exact ⟨fun _ => .inl ⟨cause, rfl⟩, fun _ => ⟨cause, rfl⟩⟩
  | ok rootDir =>
    cases Toml.entriesOfJson c.infra.settings with
    | error cause => exact ⟨fun _ => .inr (.inl ⟨cause, rfl⟩), fun _ => ⟨cause, rfl⟩⟩
    | ok settings =>
      cases c.workflow.workingDir.mapM Toml.ofFileName with
      | error cause => exact ⟨fun _ => .inr (.inr (.inl ⟨cause, rfl⟩)), fun _ => ⟨cause, rfl⟩⟩
      | ok workingDir =>
        cases Toml.entriesOfJson c.workflow.extraVars with
        | error cause => exact ⟨fun _ => .inr (.inr (.inr ⟨cause, rfl⟩)), fun _ => ⟨cause, rfl⟩⟩
        | ok vars => simp [Bind.bind, Except.bind, Pure.pure, Except.pure]

end RawConfig

namespace Config

variable {c : Config} {document : List (String × Toml)}

/-! ## What is read from a document -/

/-- A configuration is read alike in every order of the members. -/
theorem orderFree_ofJson? : Json.OrderFree ofJson? :=
  Json.orderFree_record? fun r' r hchanged => by
    rw [Json.orderFree_str?.defaulted hchanged (by decide),
      Infra.Config.orderFree_ofJson?.defaulted hchanged (by decide),
      Infra.Workflow.orderFree_ofJson?.defaulted hchanged (by decide)]

/-- Documents that differ in nothing but the order of entries are read as one configuration. -/
theorem ofToml?_eq_of_ordered {t t' : Toml} (h : t'.ordered = t.ordered) :
    ofToml? t' = ofToml? t := by
  rw [ofToml?, ofToml?, ← orderFree_ofJson? t'.toJson, ← orderFree_ofJson? t.toJson,
    ← Toml.toJson_ordered, ← Toml.toJson_ordered, h]

/-- The entries of a workflow are its members. -/
theorem entriesToJson_workflowEntries {w : Infra.Workflow} {vars : List (String × Toml)}
    (hvars : Toml.entriesToJson vars = w.extraVars) :
    Toml.entriesToJson (RawConfig.workflowEntries w.raw (w.workingDir.map .str) vars) = w.members := by
  have hplaybooks : Toml.itemsToJson (w.raw.playbooks.map .str) = w.playbooks.map Json.str := by
    rw [Toml.itemsToJson_eq_map, List.map_map]
    rfl
  simp only [RawConfig.workflowEntries, Toml.entriesToJson_append,
    RawConfig.entriesToJson_optionalEntry, Toml.entriesToJson, Toml.toJson, hplaybooks, hvars]
  rfl

/-- What the document of a configuration says. -/
theorem toJson_of_toToml (h : c.raw.toToml = .ok document) :
    (Toml.table document).toJson = .obj [("root_dir", .str c.rootDir), ("infra", c.infra.toJson),
      ("workflow", .obj c.workflow.members)] := by
  have hroot : Toml.ofFileName c.raw.rootDir = .ok (.str c.rootDir) := Toml.ofFileName_toUTF8 c.rootDir
  have hdir : c.raw.workflow.workingDir.mapM Toml.ofFileName = _ :=
    RawConfig.mapM_ofFileName_toUTF8 c.workflow.workingDir
  rw [RawConfig.toToml, hroot, hdir] at h
  obtain ⟨settings, vars, hsettings, hvars, rfl⟩ := Toml.both_eq_ok h
  have hworkflow := entriesToJson_workflowEntries (Toml.entriesToJson_of_entriesOfJson hvars)
  change Json.obj [("root_dir", .str c.rootDir),
    ("infra", .obj (("kind", .str c.infra.kind) :: Toml.entriesToJson settings)),
    ("workflow", .obj (Toml.entriesToJson (RawConfig.workflowEntries c.workflow.raw _ vars)))] = _
  rw [hworkflow, Toml.entriesToJson_of_entriesOfJson hsettings]
  rfl

/-- Every configuration that was read is regular. -/
theorem regular_of_ofToml? {t : Toml} (h : ofToml? t = some c) : c.raw.Regular := by
  obtain ⟨r, -, h⟩ := Option.bind_eq_some_iff.mp h
  obtain ⟨rootDir, -, h⟩ := Option.bind_eq_some_iff.mp h
  obtain ⟨infra, hinfra, h⟩ := Option.bind_eq_some_iff.mp h
  obtain ⟨workflow, hworkflow, h⟩ := Option.bind_eq_some_iff.mp h
  obtain rfl := Option.some.inj h
  obtain ⟨hsettings, hkind⟩ : (Json.obj infra.settings).canonical = .obj infra.settings ∧
      "kind" ∉ infra.settings.names := by
    rcases Json.Record.defaulted_cases hinfra with rfl | ⟨json, hjson⟩
    · exact ⟨rfl, List.not_mem_nil⟩
    · exact Infra.Config.canonical_of_ofJson? hjson
  obtain ⟨hvars, hstdout, hstderr⟩ : (Json.obj workflow.extraVars).canonical =
      .obj workflow.extraVars ∧ workflow.stdoutPath = none ∧ workflow.stderrPath = none := by
    rcases Json.Record.defaulted_cases hworkflow with rfl | ⟨json, hjson⟩
    · exact ⟨rfl, rfl, rfl⟩
    · exact Infra.Workflow.canonical_of_ofJson? hjson
  exact ⟨hsettings, hvars, hkind, Option.map_eq_none_iff.mpr hstdout,
    Option.map_eq_none_iff.mpr hstderr⟩

/-- A configuration with regular values is read from its document as it is. -/
theorem ofToml?_table (hc : c.raw.Regular) (h : c.raw.toToml = .ok document) :
    ofToml? (.table document) = some c := by
  have hnone : ∀ {path : Option String}, path.map String.toUTF8 = none → path = none :=
    fun h => Option.map_eq_none_iff.mp h
  have hinfra : Infra.Config.ofJson? c.infra.toJson = some c.infra :=
    Infra.Config.ofJson?_toJson hc.settings hc.kind
  have hworkflow : Infra.Workflow.ofJson? (.obj c.workflow.members) = some c.workflow :=
    Infra.Workflow.ofJson?_members hc.extraVars (hnone hc.stdoutPath) (hnone hc.stderrPath)
  have hnames : (Members.names [("root_dir", Json.str c.rootDir), ("infra", c.infra.toJson),
      ("workflow", .obj c.workflow.members)]).Nodup := by simp [Members.names]
  obtain ⟨r, hr, hfields⟩ := Json.exists_recordOfMembers hnames ["root_dir", "infra", "workflow"]
  rw [ofToml?, toJson_of_toToml h, ofJson?, Json.record?, hr, Option.bind_eq_bind, Option.bind_some,
    Json.Record.defaulted_of_find? (hfields "root_dir" (by decide)),
    Json.Record.defaulted_of_find? (hfields "infra" (by decide)),
    Json.Record.defaulted_of_find? (hfields "workflow" (by decide)), Json.str?, hinfra, hworkflow]
  rfl

end Config

namespace RawConfig

variable {c : RawConfig}

/-- A configuration whose files have texts for names is that of these texts. -/
theorem exists_raw (hc : c.Regular) (h : ¬ c.BeyondToml) : ∃ config : Config, config.raw = c := by
  simp only [BeyondToml, not_or, not_not, not_exists, not_and] at h
  obtain ⟨hroot, -, hdir, -⟩ := h
  obtain ⟨workingDir, hworkingDir⟩ :
      ∃ dir : Option String, dir.map String.toUTF8 = c.workflow.workingDir := by
    cases hset : c.workflow.workingDir with
    | none => exact ⟨none, rfl⟩
    | some name => exact ⟨some (String.fromUTF8 name (hdir name hset)), rfl⟩
  let workflow : Infra.Workflow :=
    { command := c.workflow.command, playbooks := c.workflow.playbooks,
      inventory := c.workflow.inventory, workingDir, extraVars := c.workflow.extraVars }
  have hworkflow : workflow.raw = c.workflow :=
    Infra.RawWorkflow.ext rfl rfl rfl hworkingDir rfl hc.stdoutPath.symm hc.stderrPath.symm
  exact ⟨⟨String.fromUTF8 c.rootDir hroot, c.infra, workflow⟩, by rw [Config.raw, hworkflow]; rfl⟩

/-- A configuration cannot be written exactly if something in it has no TOML form. -/
theorem render_eq_error_iff :
    (∃ cause, c.render = .error (.configInvalid cause)) ↔ c.BeyondToml := by
  rw [← toToml_eq_error_iff, render]
  cases c.toToml with
  | ok document => exact ⟨nofun, nofun⟩
  | error cause => exact ⟨fun _ => ⟨cause, rfl⟩, fun _ => ⟨_, rfl⟩⟩

/-- Writing a configuration fails exactly if something in it has no TOML form. Otherwise what is read from
the text is the same configuration, provided that the text is read as the document that was written. -/
theorem render_read_back (hc : c.Regular) :
    ((∃ cause, c.render = .error (.configInvalid cause)) ↔ c.BeyondToml) ∧
      (¬ c.BeyondToml → ∃ document, c.toToml = .ok document ∧
        c.render = .ok (Toml.render document) ∧ (Toml.ReadsBack document →
          ∃ config, Config.parse (Toml.render document) = .ok config ∧ config.raw = c)) := by
  refine ⟨render_eq_error_iff, fun hforms => ?_⟩
  obtain ⟨config, rfl⟩ := exists_raw hc hforms
  cases hdocument : config.raw.toToml with
  | error cause => exact absurd (toToml_eq_error_iff.mp ⟨cause, hdocument⟩) hforms
  | ok document =>
    refine ⟨document, rfl, by rw [render, hdocument], ?_⟩
    rintro ⟨t, hparse, hordered⟩
    refine ⟨config, ?_, rfl⟩
    rw [Config.parse, hparse, Option.bind_some, Config.ofToml?_eq_of_ordered hordered,
      Config.ofToml?_table hc hdocument]

/-- A configuration with a table before a plain setting. -/
def tableFirst : Config where
  infra := { settings := [("hosts", .obj [("db", .str "10.0.0.1")]), ("image", .str "debian")] }
  workflow := { workingDir := some "play", extraVars := [("limits", .arr [.obj [("cpu", .int 4)]])] }

/-- Its document, in which the settings have a given order. -/
def tableFirstDocument (settings : List (String × Toml)) : List (String × Toml) :=
  [("root_dir", .str "/tmp/benchrun"), ("infra", .table (("kind", .str "local") :: settings)),
    ("workflow", .table [("command", .str "ansible-playbook"), ("playbooks", .arr []),
      ("working_dir", .str "play"),
      ("extra_vars", .table [("limits", .arr [.table [("cpu", .int 4)]])])])]

/-- Its text, where the plain setting comes first. -/
def tableFirstText : String :=
  "root_dir = \"/tmp/benchrun\"\n\n[infra]\nkind = \"local\"\nimage = \"debian\"\n\n" ++
    "[infra.hosts]\ndb = \"10.0.0.1\"\n\n[workflow]\ncommand = \"ansible-playbook\"\n" ++
    "playbooks = []\nworking_dir = \"play\"\n\n[[workflow.extra_vars.limits]]\ncpu = 4\n"

/-- The plain setting is written before the table. -/
theorem render_tableFirst : Toml.render (tableFirstDocument
    [("hosts", .table [("db", .str "10.0.0.1")]), ("image", .str "debian")]) = tableFirstText := by
  decide +kernel

set_option maxRecDepth 4000 in
/-- The table is read back as it was written. -/
theorem parse_tableFirst : Toml.parse? tableFirstText = some (.table (tableFirstDocument
    [("image", .str "debian"), ("hosts", .table [("db", .str "10.0.0.1")])])) := by
  cbv

/-- The table and the plain setting change places in the text, and the configuration is read back. -/
theorem render_read_back_tableFirst : tableFirst.raw.Regular ∧ ¬ tableFirst.raw.BeyondToml ∧
    ∃ config, Config.parse tableFirstText = .ok config ∧ config.raw = tableFirst.raw := by
  have hregular : tableFirst.raw.Regular := ⟨rfl, rfl, by decide, rfl, rfl⟩
  have hdocument : tableFirst.raw.toToml = .ok (tableFirstDocument
      [("hosts", .table [("db", .str "10.0.0.1")]), ("image", .str "debian")]) := rfl
  have hforms : ¬ tableFirst.raw.BeyondToml := by
    rw [← toToml_eq_error_iff, hdocument]
    exact nofun
  obtain ⟨document, hwritten, -, hread⟩ := (render_read_back hregular).2 hforms
  cases hdocument.symm.trans hwritten
  rw [render_tableFirst] at hread
  exact ⟨hregular, hforms,
    hread ⟨_, (congrArg Toml.parse? render_tableFirst).trans parse_tableFirst, rfl⟩⟩

end RawConfig

end Run

end BenchQueue
