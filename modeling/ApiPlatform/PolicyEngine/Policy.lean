import ApiPlatform.Foundation.GoMaps
import ApiPlatform.Foundation.GoStrings

/-!
# Policies of the policy engine

The part of the policy SDK (`sdk/core/policy/v1alpha2`) that the engine itself
reads: processing modes, contexts, actions and the handlers of a policy.

A handler is an arbitrary function.  What a policy remembers between calls, and
the metadata that the policies of one request share, is the `World` that every
handler takes and returns.  The fields of a context that stay the same for a whole
request (its ids, the downstream snapshot, the upstream) are not listed: a handler
may depend on them without being told.
-/

namespace ApiPlatform.PolicyEngine

open Foundation

abbrev Bytes := List UInt8

abbrev Headers := GoMap String (List String)

def Headers.get (headers : Headers) (name : String) : List String :=
  (headers.lookup (toLower name)).getD []

/-! ## Processing modes

The source's modes are strings with named constants.  Any other string, the empty one of a
mode that is not set included, is `other`. -/

inductive HeaderProcessingMode where
  | skip
  | process
  | other (text : String)
  deriving DecidableEq

inductive BodyProcessingMode where
  | skip
  | buffer
  | stream
  | other (text : String)
  deriving DecidableEq

/-- The modes that the builders of a chain count: `buffer` and `stream`. -/
def BodyProcessingMode.readsBody : BodyProcessingMode → Bool
  | .buffer | .stream => true
  | .skip | .other _ => false

structure ProcessingMode where
  requestHeaderMode : HeaderProcessingMode
  requestBodyMode : BodyProcessingMode
  responseHeaderMode : HeaderProcessingMode
  responseBodyMode : BodyProcessingMode
  deriving DecidableEq

/-! ## Contexts -/

structure Body where
  content : Bytes
  endOfStream : Bool
  present : Bool
  deriving DecidableEq

structure StreamBody where
  chunk : Bytes
  endOfStream : Bool
  deriving DecidableEq

structure RequestLine where
  path : String
  method : String
  authority : String
  scheme : String
  deriving DecidableEq

structure RequestHeaderContext extends RequestLine where
  headers : Headers

structure RequestContext extends RequestLine where
  headers : Headers
  body : Option Body

structure RequestStreamContext extends RequestLine where
  headers : Headers

structure ResponseHeaderContext where
  requestHeaders : Headers
  requestBody : Option Body
  requestPath : String
  requestMethod : String
  responseHeaders : Headers
  responseStatus : Int

structure ResponseContext extends ResponseHeaderContext where
  responseBody : Option Body

structure ResponseStreamContext extends ResponseHeaderContext

/-! ## Actions -/

/-- A value of analytics metadata: the headers of a message, any other value by its JSON text,
or one that JSON cannot express (a NaN, a channel, a function). -/
inductive AnalyticsValue where
  | headers (values : Headers)
  | json (text : String)
  | unencodable (description : String)

/-- An `action` of "allow" or "deny", and the headers that it names. -/
structure DropHeaderAction where
  action : String := ""
  headers : List String := []
  deriving DecidableEq

structure ImmediateResponse where
  statusCode : Int
  headers : GoMap String String
  body : Bytes
  analyticsMetadata : GoMap String AnalyticsValue := ∅

/-- What an action of the header and body phases may do to headers. -/
structure HeaderModifications where
  headersToSet : GoMap String String := ∅
  headersToAppend : GoMap String (List String) := ∅
  headersToRemove : List String := []

/-- What an action adds to the analytics event, and the headers that the event may show. -/
structure AnalyticsModifications where
  analyticsMetadata : GoMap String AnalyticsValue := ∅
  analyticsHeaderFilter : DropHeaderAction := {}

/-- `queryParametersToAdd` and `queryParametersToRemove` are `none` when they are nil. -/
structure UpstreamRequestHeaderModifications extends
    HeaderModifications, AnalyticsModifications where
  upstreamName : Option String := none
  path : Option String := none
  host : Option String := none
  method : Option String := none
  queryParametersToAdd : Option (GoMap String (List String)) := none
  queryParametersToRemove : Option (List String) := none

structure UpstreamRequestModifications extends UpstreamRequestHeaderModifications where
  body : Option Bytes := none

structure DownstreamResponseHeaderModifications extends
    HeaderModifications, AnalyticsModifications

structure DownstreamResponseModifications extends
    HeaderModifications, AnalyticsModifications where
  body : Option Bytes := none
  statusCode : Option Int := none

inductive RequestHeaderAction where
  | modifications (mods : UpstreamRequestHeaderModifications)
  | immediate (response : ImmediateResponse)

def RequestHeaderAction.isImmediate : RequestHeaderAction → Bool
  | .modifications _ => false
  | .immediate _ => true

inductive RequestAction where
  | modifications (mods : UpstreamRequestModifications)
  | immediate (response : ImmediateResponse)

def RequestAction.stopExecution : RequestAction → Bool
  | .modifications _ => false
  | .immediate _ => true

inductive ResponseHeaderAction where
  | modifications (mods : DownstreamResponseHeaderModifications)
  | immediate (response : ImmediateResponse)

def ResponseHeaderAction.isImmediate : ResponseHeaderAction → Bool
  | .modifications _ => false
  | .immediate _ => true

inductive ResponseAction where
  | modifications (mods : DownstreamResponseModifications)
  | immediate (response : ImmediateResponse)

def ResponseAction.stopExecution : ResponseAction → Bool
  | .modifications _ => false
  | .immediate _ => true

structure StreamingRequestAction where
  body : Option Bytes
  analyticsMetadata : GoMap String AnalyticsValue := ∅

inductive StreamingResponseAction where
  | forward (body : Option Bytes) (analyticsMetadata : GoMap String AnalyticsValue := ∅)
  | terminate (body : Option Bytes) (analyticsMetadata : GoMap String AnalyticsValue := ∅)

def StreamingResponseAction.terminateStream : StreamingResponseAction → Bool
  | .forward .. => false
  | .terminate .. => true

/-- The chunk goes on as it is; metadata may be attached. -/
def StreamingResponseAction.passesOn : StreamingResponseAction → Bool
  | .forward none _ => true
  | .forward (some _) _ | .terminate .. => false

def StreamingResponseAction.analyticsMetadata :
    StreamingResponseAction → GoMap String AnalyticsValue
  | .forward _ metadata | .terminate _ metadata => metadata

/-! ## Policies -/

section Policies

variable (World Params : Type)

abbrev Handler (Context Action : Type) :=
  Context → Params → World → Option Action × World

structure StreamingRequestMethods where
  onRequestBodyChunk :
    Handler World Params (RequestStreamContext × StreamBody) StreamingRequestAction
  needsMoreRequestData : Bytes → World → Bool × World

structure StreamingResponseMethods where
  onResponseBodyChunk :
    Handler World Params (ResponseStreamContext × StreamBody) StreamingResponseAction
  needsMoreResponseData : Bytes → World → Bool × World

structure RequestPolicy where
  onRequestBody : Handler World Params RequestContext RequestAction
  streaming : Option (StreamingRequestMethods World Params) := none

structure ResponsePolicy where
  onResponseBody : Handler World Params ResponseContext ResponseAction
  streaming : Option (StreamingResponseMethods World Params) := none

structure Policy where
  mode : ProcessingMode
  onRequestHeaders : Option (Handler World Params RequestHeaderContext RequestHeaderAction) := none
  requestPolicy : Option (RequestPolicy World Params) := none
  onResponseHeaders :
    Option (Handler World Params ResponseHeaderContext ResponseHeaderAction) := none
  responsePolicy : Option (ResponsePolicy World Params) := none

variable {World Params}

def Policy.streamingRequestPolicy (policy : Policy World Params) :
    Option (StreamingRequestMethods World Params) :=
  policy.requestPolicy.bind (·.streaming)

def Policy.streamingResponsePolicy (policy : Policy World Params) :
    Option (StreamingResponseMethods World Params) :=
  policy.responsePolicy.bind (·.streaming)

structure PolicySpec (Params : Type) where
  name : String
  version : String
  enabled : Bool
  parameters : Params
  executionCondition : Option String

end Policies

end ApiPlatform.PolicyEngine
