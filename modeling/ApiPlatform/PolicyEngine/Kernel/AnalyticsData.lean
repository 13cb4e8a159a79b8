import ApiPlatform.PolicyEngine.Executor

/-!
# Analytics data

Policies stamp metadata on a message.  The translators of `internal/kernel/translator.go`
collect the stamps of a phase and convert them to protobuf
(`internal/kernel/analytics.go`); a value that cannot be converted is an error.
-/

namespace ApiPlatform.PolicyEngine.Kernel

open Foundation

/-! ## What the policies stamp -/

def finalizeAnalyticsHeaders (dropAction : DropHeaderAction) (originalHeaders : Headers) :
    Headers :=
  let specified (name : String) : Bool :=
    decide (toLower name ∈ dropAction.headers.map toLower)
  if dropAction.action = "" ∨ dropAction.headers = [] then originalHeaders
  else
    match dropAction.action with
    | "allow" =>
      eraseAll originalHeaders (originalHeaders.keys.filter fun name => !specified name)
    | "deny" => eraseAll originalHeaders (originalHeaders.keys.filter specified)
    | _ => originalHeaders

def writesOf {Value : Type} (map : GoMap String Value) : List (String × Value) :=
  map.entries.map fun entry => (entry.1, entry.2)

/-- What an action writes to the analytics data; the headers of the message go to `field` if
the action filters them. -/
def stamps (field : String) (headers : Headers) (mods : AnalyticsModifications) :
    List (String × AnalyticsValue) :=
  let dropAction := mods.analyticsHeaderFilter
  writesOf mods.analyticsMetadata ++
    if dropAction.action ≠ "" ∨ dropAction.headers ≠ [] then
      [(field, .headers (finalizeAnalyticsHeaders dropAction headers))]
    else []

def requestStamps (headers : Headers) (mods : List UpstreamRequestHeaderModifications) :
    List (String × AnalyticsValue) :=
  mods.flatMap fun mods => stamps "request_headers" headers mods.toAnalyticsModifications

def responseStamps (headers : Headers) (mods : List AnalyticsModifications) :
    List (String × AnalyticsValue) :=
  mods.flatMap (stamps "response_headers" headers)

/-- As `responseStamps`, but a filter also brings back the request headers of the context. -/
def responseBodyStamps (analyticsMetadata : GoMap String AnalyticsValue) (headers : Headers)
    (mods : List AnalyticsModifications) : List (String × AnalyticsValue) :=
  mods.flatMap fun mods =>
    let dropAction := mods.analyticsHeaderFilter
    stamps "response_headers" headers mods ++
      if dropAction.action ≠ "" ∨ dropAction.headers ≠ [] then
        ((analyticsMetadata.lookup "request_headers").map ("request_headers", ·)).toList
      else []

def headerModifications (results : List (PolicyResult RequestHeaderContext RequestHeaderAction)) :
    List UpstreamRequestHeaderModifications :=
  results.filterMap fun result =>
    match result.skipped, result.action with
    | false, some (.modifications mods) => some mods
    | _, _ => none

def requestModifications (results : List (PolicyResult RequestContext RequestAction)) :
    List UpstreamRequestHeaderModifications :=
  results.filterMap fun result =>
    match result.skipped, result.action with
    | false, some (.modifications mods) => some mods.toUpstreamRequestHeaderModifications
    | _, _ => none

def responseHeaderModifications
    (results : List (PolicyResult ResponseHeaderContext ResponseHeaderAction)) :
    List AnalyticsModifications :=
  results.filterMap fun result =>
    match result.skipped, result.action with
    | false, some (.modifications mods) => some mods.toAnalyticsModifications
    | _, _ => none

def responseModifications (results : List (PolicyResult ResponseContext ResponseAction)) :
    List AnalyticsModifications :=
  results.filterMap fun result =>
    match result.skipped, result.action with
    | false, some (.modifications mods) => some mods.toAnalyticsModifications
    | _, _ => none

/-! ## The conversion -/

structure SharedContext where
  apiId : String := ""
  apiName : String := ""
  apiVersion : String := ""
  apiContext : String := ""
  operationPath : String := ""
  apiKind : String := ""
  projectID : String := ""
  deriving DecidableEq

def SharedContext.analyticsFields (shared : SharedContext) : List (String × String) :=
  [("x-wso2-api-id", shared.apiId),
   ("x-wso2-api-name", shared.apiName),
   ("x-wso2-api-version", shared.apiVersion),
   ("x-wso2-api-context", shared.apiContext),
   ("x-wso2-operation-path", shared.operationPath),
   ("x-wso2-api-kind", shared.apiKind),
   ("x-wso2-project-id", shared.projectID)].filter (·.2 ≠ "")

/-- The conversion to protobuf values, which fails on what JSON cannot express. -/
structure StructCodec (StructValue : Type) where
  convertToStructValue : AnalyticsValue → Except String StructValue
  newStringValue : String → StructValue

section BuildAnalytics

variable {StructValue : Type} (codec : StructCodec StructValue) (order : MapIteration String)

def convertField (analyticsData : GoMap String AnalyticsValue)
    (fields : GoMap String StructValue) (key : String) : Except String (GoMap String StructValue) :=
  match analyticsData.lookup key with
  | none => .ok fields
  | some value =>
    ((codec.convertToStructValue value).mapError fun problem =>
      "failed to convert analytics value for key " ++ key ++ ": " ++ problem).map
      (fields.insert key)

/-- The loop of `buildAnalyticsStruct` over the data of the policies, which is all that can fail. -/
def convertAnalytics (analyticsData : GoMap String AnalyticsValue) :
    Except String (GoMap String StructValue) :=
  (order.order 0 analyticsData.keys).foldlM (convertField codec analyticsData) ∅

def buildAnalyticsStruct (analyticsData : GoMap String AnalyticsValue) (shared : SharedContext) :
    Except String (GoMap String StructValue) :=
  (convertAnalytics codec order analyticsData).map fun fields =>
    insertAll fields (shared.analyticsFields.map fun field =>
      (field.1, codec.newStringValue field.2))

end BuildAnalytics

/-! ## What can be converted -/

section Conversion

variable {StructValue : Type} (codec : StructCodec StructValue) {order : MapIteration String}
  {analyticsData : GoMap String AnalyticsValue}

def Convertible (analyticsData : GoMap String AnalyticsValue) : Prop :=
  ∀ key value, analyticsData.lookup key = some value →
    (codec.convertToStructValue value).isOk = true

instance : DecidablePred (Convertible codec) := fun analyticsData =>
  decidable_of_iff
    (∀ entry ∈ analyticsData.entries, (codec.convertToStructValue entry.2).isOk = true)
    ⟨fun hall key value hvalue => hall ⟨key, value⟩ (AList.mem_lookup_iff.mp hvalue),
      fun hall entry hentry => hall entry.1 entry.2 (AList.mem_lookup_iff.mpr hentry)⟩

variable {codec}

theorem convertible_empty : Convertible codec ∅ :=
  fun _ _ hvalue => nomatch hvalue

private theorem isOk_of_convertField {fields next : GoMap String StructValue} {key : String}
    {value : AnalyticsValue} (hstep : convertField codec analyticsData fields key = .ok next)
    (hvalue : analyticsData.lookup key = some value) :
    (codec.convertToStructValue value).isOk = true := by
  simp only [convertField, hvalue] at hstep
  obtain ⟨converted, hconvert, -⟩ := map_eq_ok.mp hstep
  rw [mapError_eq_ok.mp hconvert]
  rfl

private theorem exists_convertField (hconvertible : Convertible codec analyticsData)
    (fields : GoMap String StructValue) (key : String) :
    ∃ next, convertField codec analyticsData fields key = .ok next := by
  cases hvalue : analyticsData.lookup key with
  | none => exact ⟨fields, by simp only [convertField, hvalue]⟩
  | some value =>
    obtain ⟨converted, hconvert⟩ := exists_ok_of_isOk (hconvertible key value hvalue)
    exact ⟨fields.insert key converted, by
      simp only [convertField, hvalue, hconvert, Except.mapError, Except.map]⟩

variable (order) in
theorem convertAnalytics_ok_iff :
    (∃ fields, convertAnalytics codec order analyticsData = .ok fields) ↔
      Convertible codec analyticsData := by
  constructor
  · rintro ⟨fields, hloop⟩ key value hvalue
    have hvisited := foldlM_ok_induction (fun done _ => ∀ key ∈ done, ∀ value,
        analyticsData.lookup key = some value → (codec.convertToStructValue value).isOk = true)
      nofun (fun done item state next hdone hstep key hkey value hvalue => by
        rcases List.mem_append.mp hkey with hearlier | hitem
        · exact hdone key hearlier value hvalue
        · rw [List.mem_singleton.mp hitem] at hvalue
          exact isOk_of_convertField hstep hvalue) hloop
    refine hvisited key ?_ value hvalue
    rw [order.mem_order, ← AList.mem_keys]
    exact mem_of_lookup hvalue
  · intro hconvertible
    obtain ⟨fields, hloop, -⟩ := exists_foldlM_ok (fun _ _ => True) trivial
      fun _ item state _ _ => by
        obtain ⟨next, hnext⟩ := exists_convertField hconvertible state item
        exact ⟨next, hnext, trivial⟩
    exact ⟨fields, hloop⟩

end Conversion

end ApiPlatform.PolicyEngine.Kernel
