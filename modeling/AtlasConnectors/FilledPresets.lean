import AtlasConnectors.PrefilledParams
import AtlasConnectors.Registry

/-! Batches of prefilled and of replayed parameters, for the registered presets and for schemas of
any kind. -/
namespace AtlasConnectors

theorem generateWith_congr {rt : PyRuntime} {schema : List ParamSpec} {params params' : Params}
    (h : coerce_params rt.fmt schema params = coerce_params rt.fmt schema params')
    (body : Params → Gen rt GeneratedBatch) (seed : ℤ) :
    generateWith rt schema body params seed = generateWith rt schema body params' seed := by
  rw [generateWith, generateWith, h]

theorem keeps_eq {spec : ParamSpec} (hc : Coherent spec) (hvalid : spec.type ≠ .window → Valid spec spec.default)
    (params : Params) : Keeps Eq params spec where
  coherent := hc
  default := by
    intro ht
    obtain ⟨w, hw, _, hself⟩ := coerceValue_default hc ht
    exact ⟨w, hw, hself (hvalid ht)⟩
  self := fun _ _ => rfl

theorem isDouble_of_bounds {spec : ParamSpec} {lo hi : Num} (hmin : spec.min = some lo) (hmax : spec.max = some hi)
    (hlo : lo.IsDouble) (hhi : hi.IsDouble) : ∀ w, spec.min = some w ∨ spec.max = some w → w.IsDouble := by
  rintro w (hw | hw)
  · cases hmin.symm.trans hw
    exact hlo
  · cases hmax.symm.trans hw
    exact hhi

theorem coherent_of_wellFormed {spec : ParamSpec} (h : WellFormed spec)
    (hdouble : ∀ name d lo hi, spec = .float name d lo hi → ∀ x ∈ [d, lo, hi], x.read binary64 = x) :
    Coherent spec := by
  cases h with
  | int hlo hhi =>
    refine ⟨⟨_, _, rfl, inBounds_int.mpr ⟨hlo, hhi⟩, rfl, _, rfl, rfl⟩, ?_,
      isDouble_of_bounds rfl rfl trivial trivial⟩
    rintro x ⟨⟩
  | float hlo hd hhi hpq hqr =>
    have hall := hdouble _ _ _ _ rfl
    have hread := hall _ List.mem_cons_self
    refine ⟨⟨_, _, rfl, inBounds_float.mpr ⟨le_of_val? hlo hd hpq, le_of_val? hd hhi hqr⟩, rfl, ?_⟩, ?_,
      isDouble_of_bounds rfl rfl (hall _ (by simp)) (hall _ (by simp))⟩
    · rw [hread]
      exact ⟨_, PyFloat.ext?_eq_of_val? hd, PyFloat.ext?_eq_of_val? hd⟩
    intro x hx
    cases hx
    exact hall _ (by simp)
  | enum hd =>
    refine ⟨⟨_, _, rfl, hd, rfl⟩, ?_, by simp [ParamSpec.enum]⟩
    rintro x ⟨⟩
  | multi hne hd =>
    refine ⟨⟨_, _, rfl, hne, hd, rfl⟩, ?_, by simp [ParamSpec.multi]⟩
    rintro x ⟨⟩
  | window hd _ =>
    refine ⟨Or.inl ⟨_, _, rfl, hd⟩, ?_, isDouble_of_bounds rfl rfl trivial trivial⟩
    rintro x ⟨⟩

theorem valid_default {spec : ParamSpec} (h : WellFormed spec) (ht : spec.type ≠ .window) :
    Valid spec spec.default := by
  cases h with
  | int hlo hhi => exact ⟨_, rfl, inBounds_int.mpr ⟨hlo, hhi⟩⟩
  | float hlo hd hhi hpq hqr =>
    exact ⟨_, rfl, inBounds_float.mpr ⟨le_of_val? hlo hd hpq, le_of_val? hd hhi hqr⟩⟩
  | enum hd => exact ⟨_, _, rfl, hd, rfl⟩
  | multi hne hd => exact ⟨_, _, rfl, hne, hd, rfl⟩
  | window _ _ => exact absurd rfl ht

section Floats

variable {name : String} {d lo hi : PyFloat}

@[simp] theorem float_ne_int (name' : String) (d' lo' hi' : ℤ) :
    ParamSpec.float name d lo hi ≠ .int name' d' lo' hi' := by
  simp [ParamSpec.float, ParamSpec.int]

@[simp] theorem float_ne_enum (name' d' : String) (options : List String) :
    ParamSpec.float name d lo hi ≠ .enum name' d' options := by
  simp [ParamSpec.float, ParamSpec.enum]

@[simp] theorem float_ne_multi (name' : String) (d' options : List String) :
    ParamSpec.float name d lo hi ≠ .multi name' d' options := by
  simp [ParamSpec.float, ParamSpec.multi]

@[simp] theorem float_ne_window (name' d' : String) (lo' hi' : ℤ) :
    ParamSpec.float name d lo hi ≠ .window name' d' lo' hi' := by
  simp [ParamSpec.float, ParamSpec.window]

theorem float_literals {rt : PyRuntime} {name' : String} {a b c : ℚ}
    (h : ParamSpec.float name d lo hi = .float name' (rt.lit a) (rt.lit b) (rt.lit c)) :
    ∀ x ∈ [d, lo, hi], ∃ q, x = rt.lit q := by
  cases h
  simp

end Floats

variable {rt : PyRuntime}

theorem generators_literals {gen : PresetGenerator} (h : gen ∈ generators rt) :
    ∀ name d lo hi, .float name d lo hi ∈ gen.param_schema → ∀ x ∈ [d, lo, hi], ∃ q, x = rt.lit q := by
  revert gen
  apply forall_generators
  · intro name d lo hi hspec
    simp only [ConnectFirewall.generator, ConnectFirewall.param_schema, List.mem_cons, float_ne_int,
      float_ne_multi, List.not_mem_nil, or_false, false_or] at hspec
    exact float_literals hspec
  · intro name d lo hi hspec
    simp [ConnectIngestion.generator, ConnectIngestion.param_schema] at hspec
  · intro name d lo hi hspec
    simp [FinhubAnomaly.generator, FinhubAnomaly.param_schema] at hspec
  · intro name d lo hi hspec
    simp only [FinhubCircuitBreaker.generator, FinhubCircuitBreaker.param_schema, List.mem_cons, float_ne_enum,
      List.not_mem_nil, or_false] at hspec
    exact float_literals hspec
  · intro name d lo hi hspec
    simp [FinhubConsolidation.generator, FinhubConsolidation.param_schema] at hspec
  · intro name d lo hi hspec
    simp only [FinhubForecasting.generator, FinhubForecasting.param_schema, List.mem_cons, float_ne_int,
      float_ne_enum, List.not_mem_nil, or_false, false_or] at hspec
    rcases hspec with hspec | hspec
    · exact float_literals hspec
    · exact float_literals hspec
  · intro name d lo hi hspec
    simp only [FinhubReconciliation.generator, FinhubReconciliation.param_schema, List.mem_cons, float_ne_int,
      float_ne_multi, List.not_mem_nil, or_false, false_or] at hspec
    exact float_literals hspec

theorem generators_coherent (hfmt : rt.fmt = binary64) {gen : PresetGenerator} (h : gen ∈ generators rt) :
    ∀ spec ∈ gen.param_schema, Coherent spec := by
  intro spec hspec
  apply coherent_of_wellFormed (generators_schema_wellFormed h spec hspec)
  rintro name d lo hi rfl x hx
  obtain ⟨q, rfl⟩ := generators_literals h name d lo hi hspec x hx
  rw [PyRuntime.lit, hfmt]
  exact PyFloat.read_ofSigned _ q

/-- A registered preset knows its parameters as coercion leaves them. -/
theorem generate_congr {gen : PresetGenerator} (h : gen ∈ generators rt) :
    ∀ params params', coerce_params rt.fmt gen.param_schema params = coerce_params rt.fmt gen.param_schema params' →
      ∀ seed target_label today,
        gen.generate params seed target_label today = gen.generate params' seed target_label today := by
  revert gen
  apply forall_generators <;>
    exact fun _ _ hsame seed _ _ => generateWith_congr hsame _ seed

/-- A registered preset makes the same batch of prefilled and of replayed parameters. -/
theorem preset_filled_alike (hfmt : rt.fmt = binary64) {gen : PresetGenerator} (h : gen ∈ generators rt)
    (params : Params) (seed : ℤ) (target_label : String) (today : Date) :
    gen.generate ((defaults gen.param_schema).update params) seed target_label today =
        gen.generate params seed target_label today ∧
      ∀ out, coerce_params rt.fmt gen.param_schema params = .ok out →
        gen.generate out seed target_label today = gen.generate params seed target_label today := by
  have hnodup := generators_schema_nodup h
  have hkeeps : ∀ spec ∈ gen.param_schema, Keeps Eq params spec := fun spec hspec =>
    keeps_eq (generators_coherent hfmt h spec hspec) (valid_default (generators_schema_wellFormed h spec hspec)) params
  constructor
  · apply generate_congr h
    rw [hfmt]
    exact eq_of_rel (coerce_params_update hnodup hkeeps)
  · intro out hout
    apply generate_congr h
    rw [hfmt] at hout ⊢
    exact eq_of_rel (coerce_params_again hnodup hkeeps hout)

/-- A map filled up with the defaults and a map that was coerced before are coerced as the bare map,
and a registered preset makes the same batch of them. -/
structure FilledAlike (schema : List ParamSpec) (params : Params) : Prop where
  prefilled : SameParams (coerce_params binary64 schema ((defaults schema).update params))
    (coerce_params binary64 schema params)
  replayed : SameParams (coerce_params binary64 schema params >>= coerce_params binary64 schema)
    (coerce_params binary64 schema params)
  batch : ∀ (rt : PyRuntime) (gen : PresetGenerator), rt.fmt = binary64 → gen ∈ generators rt →
    gen.param_schema = schema → ∀ (seed : ℤ) (target_label : String) (today : Date),
      gen.generate ((defaults schema).update params) seed target_label today =
          gen.generate params seed target_label today ∧
        ∀ out, coerce_params binary64 schema params = .ok out →
          gen.generate out seed target_label today = gen.generate params seed target_label today

/-- No value that is supplied for a float parameter reads as a NaN. -/
def NanFree (schema : List ParamSpec) (params : Params) : Prop :=
  ∀ spec ∈ schema, spec.type = .float → ∀ v, params.lookup spec.name = some v → pyFloat binary64 v ≠ .ok .nan

theorem filled_alike {schema : List ParamSpec} (hnodup : (schema.map ParamSpec.name).Nodup)
    (hcoherent : ∀ spec ∈ schema, Coherent spec) {params : Params} (hnan : NanFree schema params) :
    FilledAlike schema params := by
  have hkeeps : ∀ spec ∈ schema, Keeps PyEq params spec := by
    intro spec hspec
    have hc := hcoherent spec hspec
    refine ⟨hc, fun ht => ?_, fun u hu => pyEq_inForce hc (hnan spec hspec) hu⟩
    obtain ⟨w, hw, hequal, _⟩ := coerceValue_default hc ht
    exact ⟨w, hw, hequal⟩
  constructor
  · exact (coerce_params_update hnodup hkeeps).mono fun _ _ => pyEq_of_itemRel
  · cases hout : coerce_params binary64 schema params with
    | error e => exact .error e
    | ok out =>
      rw [← hout]
      exact hout ▸ (coerce_params_again hnodup hkeeps hout).mono fun _ _ => pyEq_of_itemRel
  · rintro rt gen hfmt hgen rfl seed target_label today
    have hfilled := preset_filled_alike hfmt hgen params seed target_label today
    rwa [hfmt] at hfilled

theorem ingestion_coherent : ∀ spec ∈ ConnectIngestion.param_schema, Coherent spec := by
  intro spec hspec
  apply coherent_of_wellFormed (ConnectIngestion.schema_wellFormed spec hspec)
  rintro name d lo hi rfl
  simp [ConnectIngestion.param_schema] at hspec

/-- Defaults of the other numeric type, and one that is a text. -/
def mixedDefaults : List ParamSpec :=
  [⟨"x", .int, .float (.num 3), some (.int 0), some (.int 10), none⟩,
    ⟨"y", .float, .int 1, some (.float (.num (1 / 2))), some (.int 2), none⟩, .window "z" "last-30d" 1 365]

theorem mixedDefaults_coherent : ∀ spec ∈ mixedDefaults, Coherent spec := by
  simp only [mixedDefaults, List.forall_mem_cons, List.not_mem_nil, IsEmpty.forall_iff, implies_true, and_true]
  refine ⟨⟨⟨_, 3, rfl, ?_, rfl, ?_⟩, ?_, isDouble_of_bounds rfl rfl trivial trivial⟩,
    ⟨⟨_, .num 1, rfl, ?_, ?_, ?_⟩, ?_, isDouble_of_bounds rfl rfl ?_ trivial⟩,
    ⟨Or.inl ⟨"last-30d", 30, rfl, rfl⟩, ?_, isDouble_of_bounds rfl rfl trivial trivial⟩⟩
  · constructor <;> rintro b ⟨⟩ <;> decide +kernel
  · exact ⟨_, rfl, rfl⟩
  · rintro x ⟨⟩
    decide +kernel
  · constructor <;> rintro b ⟨⟩ <;> decide +kernel
  · exact Raising.eq_ok_of_toOption (by decide +kernel)
  · exact ⟨_, rfl, rfl⟩
  · rintro x ⟨⟩
  · change PyFloat.read binary64 (.num (1 / 2)) = .num (1 / 2)
    decide +kernel
  · rintro x ⟨⟩

theorem ingestion_filled_alike : FilledAlike ConnectIngestion.param_schema
    [("accounts", .int 2), ("date_range", .str "last-30d")] ∧ FilledAlike mixedDefaults [("z", .str "last-7d")] := by
  constructor
  · apply filled_alike ConnectIngestion.schema_nodup ingestion_coherent
    intro spec hspec ht
    simp only [ConnectIngestion.param_schema, List.mem_cons, List.not_mem_nil, or_false] at hspec
    rcases hspec with rfl | rfl | rfl | rfl | rfl <;> cases ht
  · apply filled_alike (by decide) mixedDefaults_coherent
    simp only [NanFree, mixedDefaults, List.forall_mem_cons, List.not_mem_nil, IsEmpty.forall_iff, implies_true,
      and_true]
    refine ⟨by simp, ?_, by simp [ParamSpec.window]⟩
    rintro _ v ⟨⟩

def sharedName : List ParamSpec := [.window "x" "last-30d" 1 365, .enum "x" "a" ["a"]]

def fractionalDefault : ParamSpec := ⟨"x", .int, .float (.num (5 / 2)), some (.int 0), some (.int 10), none⟩

/-- A float parameter whose default is an integer that no float equals. -/
def wholeDefault : ParamSpec :=
  ⟨"x", .float, .int (2 ^ 53 + 1), some (.int 0), some (.int (2 ^ 60)), none⟩

def unitRange : ParamSpec := .float "x" (.num 1) (.num 0) (.num 1)

theorem sharedName_coherent : ∀ spec ∈ sharedName, Coherent spec := by
  simp only [sharedName, List.forall_mem_cons, List.not_mem_nil, IsEmpty.forall_iff, implies_true, and_true]
  constructor
  · refine ⟨Or.inl ⟨"last-30d", 30, rfl, rfl⟩, ?_, ?_⟩
    · rintro x ⟨⟩
    · rintro w (hw | hw)
      · cases hw
        trivial
      · cases hw
        trivial
  · refine ⟨⟨["a"], "a", rfl, by simp, rfl⟩, ?_, by simp [ParamSpec.enum]⟩
    rintro x ⟨⟩

def numberAt (p : Except PyExc Params) : Option Num := (p.toOption.bind fun p => p.lookup "x").bind number?

theorem PyEq.exists_number {a b : Json PyFloat} (h : PyEq a b) {n : Num} (hb : number? b = some n) :
    ∃ m, number? a = some m ∧ m.Equal n := by
  cases h with
  | null => cases hb
  | str t => cases hb
  | number ha hb' hequal =>
    cases hb.symm.trans hb'
    exact ⟨_, ha, hequal⟩
  | arr h => cases hb
  | obj hkeys h => cases hb

theorem SameParams.numberAt {p q : Except PyExc Params} (h : SameParams p q) {n : Num} (hn : numberAt q = some n) :
    ∃ m, AtlasConnectors.numberAt p = some m ∧ m.Equal n := by
  cases h with
  | error e => cases hn
  | @ok ps qs h =>
    obtain ⟨v, hv, hnumber⟩ := Option.bind_eq_some_iff.mp hn
    cases h with
    | number ha => cases ha
    | obj hkeys hvalues =>
      obtain ⟨w, hw⟩ : ∃ w, ps.lookup "x" = some w := by
        rw [← Option.isSome_iff_exists, hkeys "x"]
        exact Option.isSome_iff_exists.mpr ⟨v, hv⟩
      obtain ⟨m, hm, hequal⟩ := (hvalues "x" w v hw hv).exists_number hnumber
      exact ⟨m, Option.bind_eq_some_iff.mpr ⟨w, hw, hm⟩, hequal⟩

theorem SameParams.val?_numberAt {p q : Except PyExc Params} (h : SameParams p q) {x : ℚ}
    (hx : (AtlasConnectors.numberAt q).bind Num.val? = some x) :
    (AtlasConnectors.numberAt p).bind Num.val? = some x := by
  obtain ⟨n, hn, hval⟩ := Option.bind_eq_some_iff.mp hx
  obtain ⟨m, hm, y, hy, hy'⟩ := h.numberAt hn
  rw [Num.ext?_of_val? hval] at hy'
  cases hy'
  exact Option.bind_eq_some_iff.mpr ⟨m, hm, Num.val?_of_ext? hy⟩

/-- Supplied, a default of another type is coerced and takes the place of a parameter of its name; and a
text that says a NaN is coerced to something that equals nothing. -/
theorem filled_otherwise :
    ((∀ spec ∈ sharedName, Coherent spec) ∧
      ¬SameParams (coerce_params binary64 sharedName ((defaults sharedName).update []))
        (coerce_params binary64 sharedName [])) ∧
    (InBounds fractionalDefault (.float (.num (5 / 2))) ∧
      ¬SameParams (coerce_params binary64 [fractionalDefault] ((defaults [fractionalDefault]).update []))
        (coerce_params binary64 [fractionalDefault] [])) ∧
    (InBounds wholeDefault (.int (2 ^ 53 + 1)) ∧
      ¬SameParams (coerce_params binary64 [wholeDefault] ((defaults [wholeDefault]).update []))
        (coerce_params binary64 [wholeDefault] [])) ∧
    Coherent unitRange ∧ ¬SameParams (coerce_params binary64 [unitRange]
        ((defaults [unitRange]).update [("x", .str "nan")]))
      (coerce_params binary64 [unitRange] [("x", .str "nan")]) := by
  refine ⟨⟨sharedName_coherent, fun h => ?_⟩, ⟨?_, fun h => ?_⟩, ⟨?_, fun h => ?_⟩, ?_, fun h => ?_⟩
  · have hval := h.val?_numberAt (x := 30) (by decide +kernel)
    exact absurd hval (by decide +kernel)
  · constructor <;> rintro b ⟨⟩ <;> decide +kernel
  · have hval := h.val?_numberAt (x := 5 / 2) (by decide +kernel)
    exact absurd hval (by decide +kernel)
  · constructor <;> rintro b ⟨⟩ <;> decide +kernel
  · have hval := h.val?_numberAt (x := 2 ^ 53 + 1) (by decide +kernel)
    exact absurd hval (by decide +kernel)
  · apply coherent_of_wellFormed (.float (p := 0) (q := 1) (r := 1) rfl rfl rfl (by norm_num) (by norm_num))
    rintro name d lo hi ⟨⟩
    simp only [List.forall_mem_cons, List.not_mem_nil, IsEmpty.forall_iff, implies_true, and_true]
    exact ⟨by decide +kernel, by decide +kernel, by decide +kernel⟩
  · obtain ⟨m, _, x, _, hx⟩ := h.numberAt (n := .float .nan) rfl
    cases hx

end AtlasConnectors
