import ApiPlatform.PolicyEngine.Kernel.AnalyticsData

/-!
# The translators of the request phases

`internal/kernel/translator.go` turns the results of a request phase into the
answer to Envoy.  Kept here are the mutations of the path, the host and the method
and the analytics data; the mutations of headers and body are collected by the same
loops without touching them.

The path is edited by `internal/utils/request_modification.go`, in the executor and
once more in the translators.
-/

namespace ApiPlatform.PolicyEngine

open Foundation

/-! ## Query parameters -/

structure NetUrl (URL : Type) where
  parse : String → Option URL
  query : URL → GoMap String (List String)
  withRawQuery : URL → String → URL
  string : URL → String
  encode : GoMap String (List String) → String
  queryEscape : String → String

section QueryParameters

variable {URL : Type} (netUrl : NetUrl URL)

/-- One `range` over the parameters; over equal keys every call has the same order. -/
def rangePairs (order : MapIteration String) (parameters : GoMap String (List String)) :
    List (String × String) :=
  (order.order 0 parameters.keys).flatMap fun name =>
    ((parameters.lookup name).getD []).map fun value => (name, value)

def addQueryParametersToPath (order : MapIteration String) (path : String)
    (parameters : GoMap String (List String)) : String :=
  match netUrl.parse path with
  | none =>
    let append (state : String × String) (pair : String × String) : String × String :=
      (state.1 ++ state.2 ++ netUrl.queryEscape pair.1 ++ "=" ++ netUrl.queryEscape pair.2, "&")
    ((rangePairs order parameters).foldl append
      (path, if contains path "?" then "&" else "?")).1
  | some url =>
    let queryParams := (rangePairs order parameters).foldl (fun params pair =>
      params.insert pair.1 ((params.lookup pair.1).getD [] ++ [pair.2])) (netUrl.query url)
    netUrl.string (netUrl.withRawQuery url (netUrl.encode queryParams))

def removeQueryParametersFromPath (path : String) (parameters : List String) : String :=
  match netUrl.parse path with
  | none => path
  | some url =>
    netUrl.string (netUrl.withRawQuery url
      (netUrl.encode (eraseAll (netUrl.query url) parameters)))

end QueryParameters

structure PathEditor where
  addQueryParametersToPath : String → GoMap String (List String) → String
  removeQueryParametersFromPath : String → List String → String

def requestModification {URL : Type} (netUrl : NetUrl URL) (order : MapIteration String) :
    PathEditor where
  addQueryParametersToPath := ApiPlatform.PolicyEngine.addQueryParametersToPath netUrl order
  removeQueryParametersFromPath := ApiPlatform.PolicyEngine.removeQueryParametersFromPath netUrl

def ChainExecutor.pathEditor {World Params : Type} (executor : ChainExecutor World Params) :
    PathEditor where
  addQueryParametersToPath := executor.addQueryParametersToPath
  removeQueryParametersFromPath := executor.removeQueryParametersFromPath

def ChainExecutor.editingWith {World Params : Type} (executor : ChainExecutor World Params)
    (editor : PathEditor) : ChainExecutor World Params :=
  { executor with
    addQueryParametersToPath := editor.addQueryParametersToPath
    removeQueryParametersFromPath := editor.removeQueryParametersFromPath }

namespace PathEditor

variable (editor : PathEditor)

def editQuery (path : String) (mods : UpstreamRequestHeaderModifications) : String :=
  let path := (mods.queryParametersToAdd.map (editor.addQueryParametersToPath path)).getD path
  (mods.queryParametersToRemove.map (editor.removeQueryParametersFromPath path)).getD path

def editPath (path : String) (mods : UpstreamRequestHeaderModifications) : String :=
  editor.editQuery (mods.path.getD path) mods

end PathEditor

namespace Kernel

/-! ## The path of the answer -/

/-- `RequestMutations.Path`: nil, the address of the variable that the loop goes on
editing, or the address of a policy's own path. -/
inductive PathPointer where
  | nil
  | loopPath
  | policyPath (path : String)
  deriving DecidableEq

/-- The variables of a translator's loop that the answer's path depends on. -/
structure PathLoop where
  path : String
  mutation : PathPointer
  deriving DecidableEq

namespace PathLoop

variable (editor : PathEditor)

def collect (loop : PathLoop) (mods : UpstreamRequestHeaderModifications) : PathLoop :=
  let loop :=
    match mods.queryParametersToAdd with
    | some parameters =>
      { path := editor.addQueryParametersToPath loop.path parameters, mutation := .loopPath }
    | none => loop
  let loop :=
    match mods.queryParametersToRemove with
    | some parameters =>
      { path := editor.removeQueryParametersFromPath loop.path parameters
        mutation := .loopPath }
    | none => loop
  match mods.path with
  | some path => { loop with mutation := .policyPath path }
  | none => loop

def deref (loop : PathLoop) : Option String :=
  match loop.mutation with
  | .nil => none
  | .loopPath => some loop.path
  | .policyPath path => some path

end PathLoop

structure RequestMutations where
  path : Option String
  method : Option String
  host : Option String
  deriving DecidableEq

def lastSet {α : Type} (values : List (Option α)) : Option α :=
  values.foldl (fun last value => value.or last) none

/-- `upstreamRedirectDirective`: an empty name leaves the directive as it is. -/
def redirectDirective (mods : List UpstreamRequestHeaderModifications) : Option String :=
  lastSet (mods.map fun mods => mods.upstreamName.filter (· ≠ ""))

/-! ## The translators

The results of an execution come with its final action, if it was cut short. -/

structure TranslatorContext where
  requestPath : String
  requestHeaders : Headers
  sharedCtx : SharedContext
  upstreamDefinitionPaths : GoMap String String
  analyticsMetadata : GoMap String AnalyticsValue

/-- The context once the policies have left `requestBodyCtx` as given. -/
def TranslatorContext.reading (execCtx : TranslatorContext) (context : RequestContext) :
    TranslatorContext :=
  { execCtx with requestPath := context.path, requestHeaders := context.headers }

structure Translator (StructValue : Type) where
  editor : PathEditor
  codec : StructCodec StructValue
  rangeOrder : MapIteration String

inductive RequestTranslation (StructValue : Type) where
  | immediate (response : ImmediateResponse) (analyticsData : GoMap String StructValue)
  | forward (mutations : RequestMutations) (analyticsData : GoMap String StructValue)

section Translators

variable {StructValue : Type} (translator : Translator StructValue)
  (execCtx : TranslatorContext)

/-- The path, with the raw request path where a redirect to an upstream with a known base
path has nothing else to send. -/
def pathMutation (mods : List UpstreamRequestHeaderModifications) : Option String :=
  let collected :=
    (mods.foldl (PathLoop.collect translator.editor) ⟨execCtx.requestPath, .nil⟩).deref
  match redirectDirective mods with
  | none => collected
  | some name =>
    match execCtx.upstreamDefinitionPaths.lookup name with
    | none => collected
    | some _ => collected.or (some execCtx.requestPath)

def requestMutations (mods : List UpstreamRequestHeaderModifications) : RequestMutations where
  path := pathMutation translator execCtx mods
  method := lastSet (mods.map (·.method))
  host := lastSet (mods.map (·.host))

def allStamps (mods : List UpstreamRequestHeaderModifications) : List (String × AnalyticsValue) :=
  requestStamps execCtx.requestHeaders mods

/-- The end of a translation: the answer, and the metadata that stays in the context. -/
def emit (answer : GoMap String StructValue → RequestTranslation StructValue)
    (analyticsData analyticsMetadata : GoMap String AnalyticsValue) :
    Except String (RequestTranslation StructValue × GoMap String AnalyticsValue) :=
  (buildAnalyticsStruct translator.codec translator.rangeOrder analyticsData
    execCtx.sharedCtx).map fun fields => (answer fields, analyticsMetadata)

/-- The answer of a policy that ends the chain, with the stamps of the policies before it. -/
def emitShortCircuit (response : ImmediateResponse)
    (mods : List UpstreamRequestHeaderModifications) :
    Except String (RequestTranslation StructValue × GoMap String AnalyticsValue) :=
  emit translator execCtx (.immediate response)
    (insertAll (insertAll (insertAll ∅ (writesOf execCtx.analyticsMetadata))
      (allStamps execCtx mods)) (writesOf response.analyticsMetadata))
    execCtx.analyticsMetadata

def translateRequestActionsCore (finalAction : Option RequestAction)
    (results : List (PolicyResult RequestContext RequestAction)) :
    Except String (RequestTranslation StructValue × GoMap String AnalyticsValue) :=
  let mods := requestModifications results
  match finalAction with
  | some (.immediate response) => emitShortCircuit translator execCtx response mods
  | _ =>
    emit translator execCtx (.forward (requestMutations translator execCtx mods))
      (insertAll (insertAll ∅ (writesOf execCtx.analyticsMetadata)) (allStamps execCtx mods))
      (insertAll execCtx.analyticsMetadata (allStamps execCtx mods))

def translateRequestHeaderActions (finalAction : Option RequestHeaderAction)
    (results : List (PolicyResult RequestHeaderContext RequestHeaderAction)) :
    Except String (RequestTranslation StructValue × GoMap String AnalyticsValue) :=
  let mods := headerModifications results
  match finalAction with
  | some (.immediate response) => emitShortCircuit translator execCtx response mods
  | _ =>
    emit translator execCtx (.forward (requestMutations translator execCtx mods))
      (insertAll ∅ (allStamps execCtx mods))
      (insertAll execCtx.analyticsMetadata (allStamps execCtx mods))

def translateRequestHeaderActionsWithBodyMerge
    (headerResults : List (PolicyResult RequestHeaderContext RequestHeaderAction))
    (finalAction : Option RequestAction)
    (bodyResults : List (PolicyResult RequestContext RequestAction)) :
    Except String (RequestTranslation StructValue × GoMap String AnalyticsValue) :=
  let mods := headerModifications headerResults ++ requestModifications bodyResults
  match finalAction with
  -- only the response's own metadata is used
  | some (.immediate response) =>
    emit translator execCtx (.immediate response) response.analyticsMetadata
      execCtx.analyticsMetadata
  | _ =>
    emit translator execCtx (.forward (requestMutations translator execCtx mods))
      (insertAll ∅ (allStamps execCtx mods))
      (insertAll execCtx.analyticsMetadata (allStamps execCtx mods))

end Translators

end Kernel

end ApiPlatform.PolicyEngine
