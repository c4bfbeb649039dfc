import AtlasConnectors.FilledPresets
import AtlasConnectors.ServedRequests

/-! The listing of the presets, and what a client can do that has nothing but the listing. -/
namespace AtlasConnectors

open Raising

def ParamType.text : ParamType → String
  | .int => "int"
  | .float => "float"
  | .enum => "enum"
  | .multi => "multi"
  | .window => "window"

def Num.json : Num → Json PyFloat
  | .int n => .int n
  | .float x => .float x

/-- A key that is there with a value only. -/
def optionalEntry {α : Type} (key : String) (f : α → Json PyFloat) : Option α → Payload PyFloat
  | some v => [(key, f v)]
  | none => []

def ParamSpec.as_dict (spec : ParamSpec) : Payload PyFloat :=
  [("name", .str spec.name), ("type", .str spec.type.text), ("default", spec.default)] ++
    (optionalEntry "min" Num.json spec.min ++ (optionalEntry "max" Num.json spec.max ++
      optionalEntry "options" (fun options => .arr (options.map .str)) spec.options))

def PresetGenerator.entry (gen : PresetGenerator) : Payload PyFloat :=
  [("presetId", .str gen.preset_id), ("module", .str gen.moduleName), ("feature", .str gen.feature),
    ("label", .str gen.label), ("description", .str gen.description), ("phase", .int gen.phase),
    ("paramSchema", .arr (gen.param_schema.map fun spec => .obj spec.as_dict)),
    ("defaults", .obj (defaults gen.param_schema))]

def list_presets (registry : Dict String PresetGenerator) : Json PyFloat :=
  .arr (registry.map fun item => .obj item.2.entry)

def presetsRoute (registry : Dict String PresetGenerator) (settings : SimSettings) : Except PyExc (Json PyFloat) := do
  let _ ← sim_gate settings
  pure (list_presets registry)

def readTextValue : Json PyFloat → Option String
  | .str s => some s
  | _ => none

def readTexts : Json PyFloat → Option (List String)
  | .arr xs => xs.mapM readTextValue
  | _ => none

def readNum : Json PyFloat → Option Num
  | .int n => some (.int n)
  | .float x => some (.float x)
  | _ => none

def readObject : Json PyFloat → Option (Payload PyFloat)
  | .obj ps => some ps
  | _ => none

def readItems : Json PyFloat → Option (List (Json PyFloat))
  | .arr xs => some xs
  | _ => none

/-- A key that may be missing. -/
def readOptional {α : Type} (read : Json PyFloat → Option α) : Option (Json PyFloat) → Option (Option α)
  | none => some none
  | some v => (read v).map some

def readType (s : String) : Option ParamType :=
  [ParamType.int, .float, .enum, .multi, .window].find? fun type => type.text == s

def readSpec (v : Json PyFloat) : Option ParamSpec := do
  let ps ← readObject v
  let name ← (ps.lookup "name").bind readTextValue
  let type ← ((ps.lookup "type").bind readTextValue).bind readType
  let default ← ps.lookup "default"
  let min ← readOptional readNum (ps.lookup "min")
  let max ← readOptional readNum (ps.lookup "max")
  let options ← readOptional readTexts (ps.lookup "options")
  pure ⟨name, type, default, min, max, options⟩

/-- A preset as a client knows it. -/
structure ListedPreset where
  preset_id : String
  moduleName : String
  feature : String
  label : String
  description : String
  phase : ℤ
  param_schema : List ParamSpec
  defaults : Params

def readEntry (v : Json PyFloat) : Option ListedPreset := do
  let ps ← readObject v
  let preset_id ← (ps.lookup "presetId").bind readTextValue
  let moduleName ← (ps.lookup "module").bind readTextValue
  let feature ← (ps.lookup "feature").bind readTextValue
  let label ← (ps.lookup "label").bind readTextValue
  let description ← (ps.lookup "description").bind readTextValue
  let phase ← match ps.lookup "phase" with
    | some (.int n) => some n
    | _ => none
  let specs ← (ps.lookup "paramSchema").bind readItems
  let param_schema ← specs.mapM readSpec
  let defaults ← (ps.lookup "defaults").bind readObject
  pure ⟨preset_id, moduleName, feature, label, description, phase, param_schema, defaults⟩

def readListing (body : Json PyFloat) : Option (List ListedPreset) := (readItems body).bind fun xs => xs.mapM readEntry

theorem readTexts_str (texts : List String) : readTexts (.arr (texts.map .str)) = some texts := by
  induction texts with
  | nil => rfl
  | cons text texts ih =>
    rw [readTexts] at ih ⊢
    rw [List.map_cons, List.mapM_cons, ih]
    rfl

theorem readNum_json (v : Num) : readNum v.json = some v := by
  cases v <;> rfl

theorem readType_text (type : ParamType) : readType type.text = some type := by
  cases type <;> decide

theorem lookup_optionalEntry {α : Type} (key : String) (f : α → Json PyFloat) (o : Option α) (k : String) :
    (optionalEntry key f o).lookup k = if k = key then o.map f else none := by
  cases o with
  | none => simp [optionalEntry]
  | some v => simp [optionalEntry, Dict.lookup_cons, eq_comm]

theorem readOptional_map {α : Type} {read : Json PyFloat → Option α} {f : α → Json PyFloat}
    (h : ∀ v, read (f v) = some v) (o : Option α) : readOptional read (o.map f) = some o := by
  cases o with
  | none => rfl
  | some v => rw [Option.map_some, readOptional, h, Option.map_some]

theorem readSpec_as_dict (spec : ParamSpec) : readSpec (.obj spec.as_dict) = some spec := by
  have hmin : spec.as_dict.lookup "min" = spec.min.map Num.json := by
    simp [ParamSpec.as_dict, Dict.lookup_append, Dict.lookup_cons, lookup_optionalEntry]
  have hmax : spec.as_dict.lookup "max" = spec.max.map Num.json := by
    simp [ParamSpec.as_dict, Dict.lookup_append, Dict.lookup_cons, lookup_optionalEntry]
  have hoptions : spec.as_dict.lookup "options" = spec.options.map fun options => .arr (options.map .str) := by
    simp [ParamSpec.as_dict, Dict.lookup_append, Dict.lookup_cons, lookup_optionalEntry]
  have htype : (some (.str spec.type.text)).bind readTextValue >>= readType = some spec.type := readType_text spec.type
  have hname : spec.as_dict.lookup "name" = some (.str spec.name) := rfl
  have htext : spec.as_dict.lookup "type" = some (.str spec.type.text) := rfl
  have hdefault : spec.as_dict.lookup "default" = some spec.default := rfl
  simp only [readSpec, readObject, Option.bind_eq_bind, Option.bind_some, hname, htext, hdefault, hmin, hmax, hoptions,
    readTextValue, readType_text, readOptional_map readNum_json, readOptional_map readTexts_str]
  rfl

theorem readSpecs (schema : List ParamSpec) :
    (schema.map fun spec => (.obj spec.as_dict : Json PyFloat)).mapM readSpec = some schema := by
  induction schema with
  | nil => rfl
  | cons spec schema ih =>
    rw [List.map_cons, List.mapM_cons, readSpec_as_dict, ih]
    rfl

def PresetGenerator.listed (gen : PresetGenerator) : ListedPreset where
  preset_id := gen.preset_id
  moduleName := gen.moduleName
  feature := gen.feature
  label := gen.label
  description := gen.description
  phase := gen.phase
  param_schema := gen.param_schema
  defaults := defaults gen.param_schema

theorem readEntry_entry (gen : PresetGenerator) : readEntry (.obj gen.entry) = some gen.listed := by
  have hid : gen.entry.lookup "presetId" = some (.str gen.preset_id) := rfl
  have hmodule : gen.entry.lookup "module" = some (.str gen.moduleName) := rfl
  have hfeature : gen.entry.lookup "feature" = some (.str gen.feature) := rfl
  have hlabel : gen.entry.lookup "label" = some (.str gen.label) := rfl
  have hdescription : gen.entry.lookup "description" = some (.str gen.description) := rfl
  have hphase : gen.entry.lookup "phase" = some (.int gen.phase) := rfl
  have hschema : gen.entry.lookup "paramSchema" =
      some (.arr (gen.param_schema.map fun spec => .obj spec.as_dict)) := rfl
  have hdefaults : gen.entry.lookup "defaults" = some (.obj (defaults gen.param_schema)) := rfl
  simp only [readEntry, readObject, Option.bind_eq_bind, Option.bind_some, hid, hmodule, hfeature, hlabel, hdescription,
    hphase, hschema, hdefaults, readTextValue, readItems, readSpecs]
  rfl

theorem readListing_list_presets (registry : Dict String PresetGenerator) :
    readListing (list_presets registry) = some (registry.map fun item => item.2.listed) := by
  rw [list_presets, readListing, readItems, Option.bind_some]
  induction registry with
  | nil => rfl
  | cons item registry ih =>
    rw [List.map_cons, List.mapM_cons, readEntry_entry, ih]
    rfl

/-- A request as it is, with other parameters. -/
def DispatchRequest.withParams (request : DispatchRequest) (params : Params) : DispatchRequest :=
  { request with params := params }

/-- The listing of a service: it names exactly the presets that a request can ask for, and a form that
is filled with its defaults, or a map that the client coerces by its schema, makes the same batch as
the bare parameters. -/
structure Suffices (svc : SimService) (presets : List ListedPreset) : Prop where
  listed : ∀ preset ∈ presets, preset.phase = 1 ∧ ∀ request : DispatchRequest,
    request.preset_id = some preset.preset_id →
      generate_auto svc (request.withParams (preset.defaults.update request.params)) = generate_auto svc request ∧
      ∀ out, coerce_params binary64 preset.param_schema request.params = .ok out →
        generate_auto svc (request.withParams out) = generate_auto svc request
  unlisted : ∀ (request : DispatchRequest) (preset_id : String), request.preset_id = some preset_id → preset_id ≠ "" →
    (∀ preset ∈ presets, preset.preset_id ≠ preset_id) →
      generate_auto svc request = httpError 422 (.str ("unknown preset: " ++ preset_id))

variable {rt : PyRuntime}

theorem generate_auto_registered {svc : SimService} (hregistry : svc.registry = REGISTRY rt) {gen : PresetGenerator}
    (hgen : gen ∈ generators rt) {request : DispatchRequest} (hid : request.preset_id = some gen.preset_id) :
    generate_auto svc request =
      gen.generate request.params request.seed request.target_label svc.today := by
  obtain ⟨hname, hphase⟩ := registered_names hgen
  have hlook : svc.registry.lookup gen.preset_id = some gen := by rw [hregistry, lookup_registered hgen]
  simp only [generate_auto, hid, hlook]
  rw [if_neg hname, if_neg (by simp [hphase])]

theorem listing_suffices (hfmt : rt.fmt = binary64) {svc : SimService} (hregistry : svc.registry = REGISTRY rt) :
    Suffices svc ((generators rt).map PresetGenerator.listed) := by
  constructor
  · intro preset hpreset
    obtain ⟨gen, hgen, rfl⟩ := List.mem_map.mp hpreset
    refine ⟨?_, fun request hid => ?_⟩
    · exact congrArg Int.ofNat (registered_names hgen).2
    · have hbare := generate_auto_registered hregistry hgen hid
      have hfilled := preset_filled_alike hfmt hgen request.params request.seed request.target_label svc.today
      have hwith : ∀ params, generate_auto svc (request.withParams params) =
          gen.generate params request.seed request.target_label svc.today :=
        fun params => generate_auto_registered hregistry hgen hid
      refine ⟨?_, fun out hout => ?_⟩
      · rw [hwith, hbare]
        exact hfilled.1
      · rw [hwith, hbare]
        rw [← hfmt] at hout
        exact hfilled.2 out hout
  · intro request preset_id hid hname hunlisted
    have hlook : svc.registry.lookup preset_id = none := by
      rw [hregistry, Dict.lookup_eq_none_iff]
      intro hmem
      obtain ⟨item, hitem, rfl⟩ := List.mem_map.mp hmem
      obtain ⟨gen, hgen, rfl⟩ := List.mem_map.mp hitem
      exact hunlisted gen.listed (List.mem_map_of_mem hgen) rfl
    simp only [generate_auto, hid, hlook]
    rw [if_neg hname]

/-- Behind a closed gate there is no listing. Behind an open one the listing is read back whole, names the
presets in the order of the registry, and is all that a client needs to prepare its requests. -/
theorem presetsRoute_listing (hfmt : rt.fmt = binary64) {svc : SimService} (hregistry : svc.registry = REGISTRY rt)
    (settings : SimSettings) :
    (Closed settings → presetsRoute svc.registry settings = httpError 404 (.str "Not Found")) ∧
    (¬Closed settings → ∃ body presets, presetsRoute svc.registry settings = .ok body ∧
      readListing body = some presets ∧ presets = (svc.registry.map fun item => item.2.listed) ∧
      presets.map ListedPreset.preset_id = svc.registry.keys ∧ Suffices svc presets) := by
  constructor
  · intro hclosed
    rw [presetsRoute, closed_iff.mp hclosed]
    rfl
  · intro hopen
    have hlisted : (svc.registry.map fun item => item.2.listed) = (generators rt).map PresetGenerator.listed := by
      rw [hregistry, REGISTRY, List.map_map]
      rfl
    refine ⟨list_presets svc.registry, _, ?_, readListing_list_presets _, rfl, ?_, ?_⟩
    · rw [presetsRoute, open_of_not_closed hopen]
      rfl
    · rw [hlisted, hregistry, REGISTRY, Dict.keys, List.map_map, List.map_map]
      rfl
    · rw [hlisted]
      exact listing_suffices hfmt hregistry

theorem leastService_listing : ∃ body, presetsRoute leastService.registry openSettings = .ok body ∧
    readListing body = some (leastService.registry.map fun item => item.2.listed) ∧
    leastService.registry.keys = ["connect.firewall.v1", "connect.ingestion.v1", "finhub.anomaly.v1",
      "finhub.circuit_breaker.v1", "finhub.consolidation.v1", "finhub.forecasting.v1", "finhub.reconciliation.v1"] := by
  have hregistry : leastService.registry = REGISTRY leastDraws := rfl
  obtain ⟨body, _, hbody, hread, rfl, _⟩ := (presetsRoute_listing rfl hregistry openSettings).2 openSettings_open
  exact ⟨body, hbody, hread, rfl⟩

end AtlasConnectors
