import ApiPlatform.PolicyEngine.Kernel.PathMutation
import ApiPlatform.PolicyEngine.Kernel.RequestBody

/-!
# Analytics of a denied request

Policies stamp analytics metadata on a request.  While the request goes on, the
translators keep the stamps in the execution context; when a policy denies the
request, its answer carries them.  The translator for requests without a body
attaches the metadata of the denial alone.
-/

namespace ApiPlatform.PolicyEngine.Kernel

open Foundation

/-! ## Building the analytics struct -/

section Build

variable {StructValue : Type} {codec : StructCodec StructValue} {order : MapIteration String}
  {analyticsData : GoMap String AnalyticsValue} {shared : SharedContext}
  {fields : GoMap String StructValue}

def SharedContext.reservedKeys (shared : SharedContext) : List String :=
  shared.analyticsFields.map Prod.fst

def Converts (codec : StructCodec StructValue) (value : Option AnalyticsValue)
    (field : Option StructValue) : Prop :=
  match value with
  | none => field = none
  | some value => ∃ converted, codec.convertToStructValue value = .ok converted ∧
      field = some converted

private theorem converts_convertField {key : String} {before after : GoMap String StructValue}
    (hstep : convertField codec analyticsData before key = .ok after) :
    (∀ other, other ≠ key → after.lookup other = before.lookup other) ∧
      ∀ value, analyticsData.lookup key = some value →
        Converts codec (some value) (after.lookup key) := by
  unfold convertField at hstep
  cases hvalue : analyticsData.lookup key with
  | none =>
    simp only [hvalue] at hstep
    cases hstep
    exact ⟨fun _ _ => rfl, nofun⟩
  | some value =>
    simp only [hvalue] at hstep
    obtain ⟨converted, hconvert, rfl⟩ := map_eq_ok.mp hstep
    refine ⟨fun other hother => AList.lookup_insert_ne hother, ?_⟩
    rintro _ ⟨⟩
    exact ⟨converted, mapError_eq_ok.mp hconvert, AList.lookup_insert _⟩

theorem converts_buildAnalyticsStruct
    (hbuild : buildAnalyticsStruct codec order analyticsData shared = .ok fields) :
    (∀ key, key ∉ shared.reservedKeys →
      Converts codec (analyticsData.lookup key) (fields.lookup key)) ∧
      ∀ key ∈ shared.reservedKeys, key ∈ fields := by
  obtain ⟨converted, hloop, rfl⟩ := map_eq_ok.mp hbuild
  have hnames : (shared.analyticsFields.map fun field =>
      (field.1, codec.newStringValue field.2)).map Prod.fst = shared.reservedKeys := by
    simp [SharedContext.reservedKeys, Function.comp_def]
  constructor
  · intro key hreserved
    rw [lookup_insertAll_of_not_mem (by rwa [hnames])]
    -- keys not visited yet are empty, the others hold what they should
    have hvisited := foldlM_ok_induction
      (fun done state => (∀ key, key ∉ done → state.lookup key = none) ∧
        ∀ key ∈ done, ∀ value, analyticsData.lookup key = some value →
          Converts codec (some value) (state.lookup key))
      ⟨fun _ _ => rfl, nofun⟩
      (fun done item state next hdone hstep => by
        obtain ⟨hframe, hitem⟩ := converts_convertField hstep
        refine ⟨fun key hkey => ?_, fun key hkey value hvalue => ?_⟩
        · rw [List.mem_append, not_or, List.mem_singleton] at hkey
          rw [hframe key hkey.2, hdone.1 key hkey.1]
        · by_cases hsame : key = item
          · subst hsame
            exact hitem value hvalue
          · rw [hframe key hsame]
            refine hdone.2 key ?_ value hvalue
            simpa [hsame] using hkey)
      hloop
    cases hvalue : analyticsData.lookup key with
    | none =>
      refine hvisited.1 key ?_
      rw [order.mem_order, ← AList.mem_keys]
      exact AList.lookup_eq_none.mp hvalue
    | some value =>
      refine hvisited.2 key ?_ value hvalue
      rw [order.mem_order, ← AList.mem_keys, ← AList.lookup_isSome, hvalue]
      rfl
  · intro key hkey
    exact mem_insertAll.mpr (.inr (by rwa [hnames]))

theorem arrives_of_buildAnalyticsStruct {key : String} {value : AnalyticsValue}
    (hbuild : buildAnalyticsStruct codec order analyticsData shared = .ok fields)
    (hvalue : analyticsData.lookup key = some value) :
    key ∈ fields ∧
      (key ∉ shared.reservedKeys → Converts codec (some value) (fields.lookup key)) := by
  obtain ⟨hconverts, hreserved⟩ := converts_buildAnalyticsStruct hbuild
  have harrives : key ∉ shared.reservedKeys → Converts codec (some value) (fields.lookup key) :=
    fun hkey => hvalue ▸ hconverts key hkey
  refine ⟨?_, harrives⟩
  by_cases hkey : key ∈ shared.reservedKeys
  · exact hreserved key hkey
  · obtain ⟨converted, -, hfield⟩ := harrives hkey
    rw [← AList.lookup_isSome, hfield]
    rfl

end Build

/-! ## Copying a map -/

section Copies

variable {Value : Type} {map target : GoMap String Value} {key : String} {value : Value}

theorem mem_writesOf : (key, value) ∈ writesOf map ↔ map.lookup key = some value := by
  rw [← Option.mem_def, AList.mem_lookup_iff, writesOf, List.mem_map]
  constructor
  · rintro ⟨⟨found, stored⟩, hentry, ⟨⟩⟩
    exact hentry
  · exact fun hentry => ⟨_, hentry, rfl⟩

theorem mem_keys_writesOf : key ∈ (writesOf map).map Prod.fst ↔ key ∈ map := by
  rw [writesOf, List.map_map]
  exact Iff.rfl

theorem lookup_insertAll_writesOf :
    (insertAll target (writesOf map)).lookup key = (map.lookup key).or (target.lookup key) := by
  cases hlookup : map.lookup key with
  | none =>
    rw [lookup_insertAll_of_not_mem]
    · rfl
    · rw [mem_keys_writesOf]
      exact AList.lookup_eq_none.mp hlookup
  | some value =>
    refine lookup_insertAll_eq ?_ ?_
    · rintro ⟨other, stored⟩ hwrite rfl
      exact Option.some.inj ((mem_writesOf.mp hwrite).symm.trans hlookup)
    · rw [mem_keys_writesOf, ← AList.lookup_isSome, hlookup]
      rfl

end Copies

/-! ## A request step after step -/

/-- The results that a translator of the request phases is called with. -/
inductive PhaseResults where
  | headers (results : List (PolicyResult RequestHeaderContext RequestHeaderAction))
  | body (results : List (PolicyResult RequestContext RequestAction))
  /-- Body policies that ran with the headers, since the request has no body. -/
  | inline (headerResults : List (PolicyResult RequestHeaderContext RequestHeaderAction))
      (bodyResults : List (PolicyResult RequestContext RequestAction))
  | other

def PhaseResults.modifications : PhaseResults → List UpstreamRequestHeaderModifications
  | .headers results => headerModifications results
  | .body results => requestModifications results
  | .inline headerResults bodyResults =>
    headerModifications headerResults ++ requestModifications bodyResults
  | .other => []

namespace Step

variable {World Params Decompressor StructValue : Type}

def phaseResults (step : Step World Params Decompressor) : PhaseResults :=
  match step.executions with
  | [.requestHeaders results] => .headers results
  | [.requestBody results] => .body results
  | [.requestHeaders headerResults, .requestBody bodyResults] => .inline headerResults bodyResults
  | _ => .other

def isInline (step : Step World Params Decompressor) : Prop :=
  ∃ headerResults bodyResults, step.phaseResults = .inline headerResults bodyResults

def denial (step : Step World Params Decompressor) : Option ImmediateResponse :=
  match step.response with
  | .immediate response => some response
  | _ => none

def stamped (step : Step World Params Decompressor) : List (String × AnalyticsValue) :=
  requestStamps step.context.requestBodyCtx.headers step.phaseResults.modifications

def translate (translator : Translator StructValue) (execCtx : TranslatorContext)
    (step : Step World Params Decompressor) :
    Option (Except String (RequestTranslation StructValue × GoMap String AnalyticsValue)) :=
  let execCtx := execCtx.reading step.context.requestBodyCtx
  match step.phaseResults with
  | .headers results => some (translateRequestHeaderActions translator execCtx
      (step.denial.map .immediate) results)
  | .body results => some (translateRequestActionsCore translator execCtx
      (step.denial.map .immediate) results)
  | .inline headerResults bodyResults => some (translateRequestHeaderActionsWithBodyMerge
      translator execCtx headerResults (step.denial.map .immediate) bodyResults)
  | .other => none

def carry (translator : Translator StructValue) (execCtx : TranslatorContext)
    (step : Step World Params Decompressor) : Except String TranslatorContext :=
  match step.denial, step.translate translator execCtx with
  | some _, _ => .error "the request is denied"
  | none, some (.error problem) => .error problem
  | none, some (.ok (_, analyticsMetadata)) =>
    .ok { execCtx with analyticsMetadata := analyticsMetadata }
  | none, none => .ok execCtx

end Step

section Steps

variable {World Params Decompressor StructValue : Type} {translator : Translator StructValue}
  {execCtx next : TranslatorContext} {step : Step World Params Decompressor}

theorem metadata_of_translate {translation : RequestTranslation StructValue}
    {metadata : GoMap String AnalyticsValue} (hgoes : step.denial = none)
    (htranslate : step.translate translator execCtx = some (.ok (translation, metadata))) :
    metadata = insertAll execCtx.analyticsMetadata step.stamped := by
  unfold Step.translate at htranslate
  unfold Step.stamped
  rw [hgoes] at htranslate
  cases hresults : step.phaseResults with
  | headers results | body results | inline headerResults bodyResults =>
    rw [hresults] at htranslate
    obtain ⟨fields, -, hemit⟩ := map_eq_ok.mp (Option.some.inj htranslate)
    exact (Prod.mk.inj hemit).2.symm
  | other =>
    rw [hresults] at htranslate
    cases htranslate

theorem metadata_of_carry (hcarry : step.carry translator execCtx = .ok next) :
    next.analyticsMetadata = insertAll execCtx.analyticsMetadata step.stamped ∧
      next.sharedCtx = execCtx.sharedCtx := by
  unfold Step.carry at hcarry
  split at hcarry
  · cases hcarry
  · cases hcarry
  · next hgoes htranslate =>
      cases hcarry
      exact ⟨metadata_of_translate hgoes htranslate, rfl⟩
  · next hgoes htranslate =>
      cases hcarry
      refine ⟨?_, rfl⟩
      unfold Step.translate at htranslate
      unfold Step.stamped
      cases hresults : step.phaseResults with
      | other => rfl
      | headers results | body results | inline headerResults bodyResults =>
        simp [hresults] at htranslate

theorem metadata_of_carried {steps : List (Step World Params Decompressor)}
    (hcarried : steps.foldlM (fun execCtx step => step.carry translator execCtx) execCtx =
      .ok next) :
    next.analyticsMetadata =
        insertAll execCtx.analyticsMetadata (steps.flatMap Step.stamped) ∧
      next.sharedCtx = execCtx.sharedCtx := by
  refine foldlM_ok_induction
    (fun done state => state.analyticsMetadata =
        insertAll execCtx.analyticsMetadata (done.flatMap Step.stamped) ∧
      state.sharedCtx = execCtx.sharedCtx) ⟨rfl, rfl⟩ ?_ hcarried
  intro done step state next hdone hcarry
  obtain ⟨hmetadata, hshared⟩ := metadata_of_carry hcarry
  rw [hmetadata, hshared, hdone.1, hdone.2, List.flatMap_append, insertAll_append,
    List.flatMap_singleton]
  exact ⟨rfl, rfl⟩

end Steps

/-! ## Denied requests -/

section Denials

variable {World Params Decompressor StructValue : Type}

/-- A request that a policy denies at one of its steps, with the answer. -/
structure Denial (server : Server World Params Decompressor) (translator : Translator StructValue)
    (execCtx : TranslatorContext) (request : PolicyExecutionContext World Params Decompressor)
    (bodies : List HttpBody) where
  before : List (Step World Params Decompressor)
  step : Step World Params Decompressor
  after : List (Step World Params Decompressor)
  reached : TranslatorContext
  response : ImmediateResponse
  analyticsData : GoMap String StructValue
  steps : requestSteps server request bodies = before ++ step :: after
  carried : before.foldlM (fun execCtx step => step.carry translator execCtx)
    { execCtx with analyticsMetadata := ∅ } = .ok reached
  denied : ∃ metadata, step.translate translator reached =
    some (.ok (.immediate response analyticsData, metadata))

namespace Denial

variable {server : Server World Params Decompressor} {translator : Translator StructValue}
  {execCtx : TranslatorContext} {request : PolicyExecutionContext World Params Decompressor}
  {bodies : List HttpBody} (denial : Denial server translator execCtx request bodies)

def stamped : List (String × AnalyticsValue) :=
  denial.before.flatMap Step.stamped ++ denial.step.stamped

/-- Every stamped key is there with the value of its last writer, the denial itself coming
last; fields that the engine sets keep the engine's value. -/
def CarriesStamps : Prop :=
  ∀ key value,
    (insertAll ∅ (denial.stamped ++ writesOf denial.response.analyticsMetadata)).lookup key =
        some value →
      key ∈ denial.analyticsData ∧
        (key ∉ execCtx.sharedCtx.reservedKeys →
          Converts translator.codec (some value) (denial.analyticsData.lookup key))

theorem exists_denial : ∃ answer, denial.step.denial = some answer := by
  obtain ⟨metadata, htranslate⟩ := denial.denied
  cases hdenial : denial.step.denial with
  | some answer => exact ⟨answer, rfl⟩
  | none =>
    unfold Step.translate at htranslate
    rw [hdenial] at htranslate
    cases hresults : denial.step.phaseResults with
    | headers results | body results | inline headerResults bodyResults =>
      rw [hresults] at htranslate
      obtain ⟨fields, hanswer⟩ := eq_of_emit (Option.some.inj htranslate)
      cases hanswer
    | other =>
      rw [hresults] at htranslate
      cases htranslate

/-- Outside the inline phase the analytics data is built from the metadata of the context,
the stamps of the phase and the metadata of the denial, written in this order. -/
theorem built_of_not_inline (hphase : ¬ denial.step.isInline) :
    buildAnalyticsStruct translator.codec translator.rangeOrder
      (insertAll (insertAll (insertAll ∅ (writesOf denial.reached.analyticsMetadata))
        denial.step.stamped) (writesOf denial.response.analyticsMetadata))
      denial.reached.sharedCtx = .ok denial.analyticsData := by
  obtain ⟨answer, hdenial⟩ := denial.exists_denial
  obtain ⟨metadata, htranslate⟩ := denial.denied
  unfold Step.translate at htranslate
  unfold Step.stamped
  rw [hdenial] at htranslate
  cases hresults : denial.step.phaseResults with
  | headers results | body results =>
    rw [hresults] at htranslate
    obtain ⟨fields, hbuild, hemit⟩ := map_eq_ok.mp (Option.some.inj htranslate)
    cases hemit
    exact hbuild
  | inline headerResults bodyResults => exact absurd ⟨_, _, hresults⟩ hphase
  | other =>
    rw [hresults] at htranslate
    cases htranslate

theorem built_of_inline (hphase : denial.step.isInline) :
    buildAnalyticsStruct translator.codec translator.rangeOrder
      denial.response.analyticsMetadata denial.reached.sharedCtx = .ok denial.analyticsData := by
  obtain ⟨answer, hdenial⟩ := denial.exists_denial
  obtain ⟨metadata, htranslate⟩ := denial.denied
  obtain ⟨headerResults, bodyResults, hresults⟩ := hphase
  unfold Step.translate at htranslate
  rw [hdenial, hresults] at htranslate
  obtain ⟨fields, hbuild, hemit⟩ := map_eq_ok.mp (Option.some.inj htranslate)
  cases hemit
  exact hbuild

theorem lookup_written (key : String) :
    (insertAll (insertAll (insertAll ∅ (writesOf denial.reached.analyticsMetadata))
        denial.step.stamped) (writesOf denial.response.analyticsMetadata)).lookup key =
      (insertAll ∅ (denial.stamped ++ writesOf denial.response.analyticsMetadata)).lookup key := by
  have hcopy : ∀ other, (insertAll ∅ (writesOf denial.reached.analyticsMetadata)).lookup other =
      (insertAll ∅ (denial.before.flatMap Step.stamped)).lookup other := by
    intro other
    rw [lookup_insertAll_writesOf, (metadata_of_carried denial.carried).1, AList.lookup_empty,
      Option.or_none]
  rw [stamped, insertAll_append, insertAll_append]
  exact lookup_insertAll_congr (lookup_insertAll_congr hcopy) key

/-- The answer to a denied request carries all stamps, unless the body policies ran inline
and one of the stamped keys is neither the denial's own nor the engine's. -/
theorem carriesStamps_iff : denial.CarriesStamps ↔
    (denial.step.isInline → ∀ key ∈ denial.stamped.map Prod.fst,
      key ∈ denial.response.analyticsMetadata ∨ key ∈ execCtx.sharedCtx.reservedKeys) := by
  have hshared := (metadata_of_carried denial.carried).2
  by_cases hphase : denial.step.isInline
  · have hbuild := denial.built_of_inline hphase
    rw [hshared] at hbuild
    constructor
    · intro hcarries _ key hstamped
      have hwritten : key ∈ insertAll ∅
          (denial.stamped ++ writesOf denial.response.analyticsMetadata) := by
        rw [mem_insertAll, List.map_append, List.mem_append]
        exact .inr (.inl hstamped)
      obtain ⟨value, hvalue⟩ := Option.isSome_iff_exists.mp (AList.lookup_isSome.mpr hwritten)
      by_contra hneither
      rw [not_or] at hneither
      -- the denial has no such key, so neither has the answer
      have habsent := (converts_buildAnalyticsStruct hbuild).1 key hneither.2
      rw [AList.lookup_eq_none.mpr hneither.1] at habsent
      exact AList.lookup_eq_none.mp habsent (hcarries key value hvalue).1
    · intro hown key value hvalue
      rw [insertAll_append, lookup_insertAll_writesOf] at hvalue
      cases hlookup : denial.response.analyticsMetadata.lookup key with
      | some stored =>
        rw [hlookup, Option.some_or] at hvalue
        exact arrives_of_buildAnalyticsStruct hbuild (hlookup.trans hvalue)
      | none =>
        rw [hlookup, Option.none_or] at hvalue
        have hstamped : key ∈ denial.stamped.map Prod.fst := by
          have hkey : key ∈ insertAll ∅ denial.stamped :=
            mem_of_lookup hvalue
          simpa [mem_insertAll] using hkey
        have hreserved := (hown hphase key hstamped).resolve_left
          (AList.lookup_eq_none.mp hlookup)
        exact ⟨(converts_buildAnalyticsStruct hbuild).2 key hreserved,
          fun hnot => absurd hreserved hnot⟩
  · have hbuild := denial.built_of_not_inline hphase
    rw [hshared] at hbuild
    refine ⟨fun _ hinline => absurd hinline hphase, fun _ key value hvalue => ?_⟩
    exact arrives_of_buildAnalyticsStruct hbuild ((denial.lookup_written key).trans hvalue)

end Denial

end Denials

/-! ## A denied request without a body -/

def jsonMetadata (fields : List (String × String)) : GoMap String AnalyticsValue :=
  insertAll ∅ (fields.map fun field => (field.1, .json field.2))

def collector : ChainEntry Unit Unit where
  spec := plainSpec "collector"
  policy :=
    { mode :=
        { requestHeaderMode := .process, requestBodyMode := .skip
          responseHeaderMode := .skip, responseBodyMode := .skip }
      onRequestHeaders := some fun _ _ world =>
        (some (.modifications
          { analyticsMetadata := jsonMetadata [("application", "app-1")] }), world) }

def refusal : ImmediateResponse where
  statusCode := 403
  headers := ∅
  body := []
  analyticsMetadata := jsonMetadata [("source", "guard")]

def deniedRequest (method : String) : PolicyExecutionContext Unit Unit Unit :=
  newRequest plainServer [collector, bodyPolicy (.immediate refusal)] "RestApi"
    ⟨[(":method", method)], false⟩ ()

def inlineDenial :
    Denial plainServer plainTranslator plainTranslatorContext (deniedRequest "GET") [] where
  before := []
  step := (deniedRequest "GET").processRequestHeaders plainServer
  after := []
  reached := plainTranslatorContext
  response := refusal
  analyticsData := insertAll ∅ [("source", "guard")]
  steps := rfl
  carried := rfl
  denied := ⟨∅, rfl⟩

theorem inline_denial_drops_stamps : ¬ inlineDenial.CarriesStamps := by
  intro hcarries
  have hkey := (hcarries "application" (.json "app-1") rfl).1
  exact absurd hkey (by decide)

def bufferedDenial : Denial plainServer plainTranslator plainTranslatorContext
    (deniedRequest "POST") [⟨[7], true⟩] where
  before := [(deniedRequest "POST").processRequestHeaders plainServer]
  step := ((deniedRequest "POST").processRequestHeaders plainServer).context.processRequestBody
    plainServer ⟨[7], true⟩
  after := []
  reached :=
    { plainTranslatorContext with analyticsMetadata := jsonMetadata [("application", "app-1")] }
  response := refusal
  analyticsData := insertAll ∅ [("source", "guard"), ("application", "app-1")]
  steps := rfl
  carried := rfl
  denied := ⟨jsonMetadata [("application", "app-1")], rfl⟩

theorem buffered_denial_carries_stamps : bufferedDenial.CarriesStamps :=
  bufferedDenial.carriesStamps_iff.mpr fun ⟨_, _, hinline⟩ => nomatch hinline

end ApiPlatform.PolicyEngine.Kernel
