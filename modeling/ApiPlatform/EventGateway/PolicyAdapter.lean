import ApiPlatform.PolicyEngine.Executor
import ApiPlatform.EventGateway.Runtime

/-!
# Policies of the event hub

`hub/hub.go`, `hub/policy_adapter.go` and the result types of the engine's facade
(`pkg/engine/types.go`).  A message is shown to the policies with lower-cased
header names; what they return is applied to the message itself.  The facade
merges the changes of all policies of a header phase, and reads the action of a
body phase only when it ended the phase.
-/

namespace ApiPlatform.EventGateway

open Foundation PolicyEngine

variable {World Params : Type}

/-! ## Messages -/

structure EventMessage where
  value : List UInt8
  headers : Headers
  topic : String
  metadata : GoMap String String

def requestPath (msg : EventMessage) (fallback : String) : String :=
  match msg.metadata.lookup "request_path" with
  | some path => if path ≠ "" then path else fallback
  | none => fallback

def requestMethod (msg : EventMessage) (fallback : String) : String :=
  match msg.metadata.lookup "request_method" with
  | some method => if method ≠ "" then method else fallback
  | none => fallback

def defaultPhasePath (binding : ChannelBinding) (phase : String) : String :=
  let basePath := webSubApiBasePath binding.context binding.version
  if binding.mode = "websub" ∧ (phase = "subscribe" ∨ phase = "outbound") then basePath ++ "/hub"
  else if binding.mode = "websub" ∧ phase = "inbound" then basePath ++ "/webhook-receiver"
  else joinPath binding.context binding.name

def directionToMethod (mode direction : String) : String :=
  if mode = "websub" then if direction = "inbound" then "SUB" else "DELIVER"
  else if mode = "protocol-mediation" then if direction = "inbound" then "PUBLISH" else "DELIVER"
  else "UNKNOWN"

/-- The headers in the order in which they are visited; of names that differ only in case, the last
one counts. -/
def normalizeHeaders (headers : Headers) : Headers :=
  insertAll ∅ (headers.entries.map fun entry => (toLower entry.1, entry.2))

def requestLine (path method : String) (binding : ChannelBinding) : RequestLine where
  path := path
  method := method
  authority := binding.vhost
  scheme := "event"

def subscribeToRequestHeaderContext (msg : EventMessage) (binding : ChannelBinding) :
    RequestHeaderContext where
  toRequestLine := requestLine (requestPath msg (defaultPhasePath binding "subscribe"))
    (requestMethod msg "SUBSCRIBE") binding
  headers := normalizeHeaders msg.headers

def messageLine (msg : EventMessage) (binding : ChannelBinding) : RequestLine :=
  requestLine (requestPath msg (defaultPhasePath binding "inbound"))
    (requestMethod msg (directionToMethod binding.mode "inbound")) binding

def messageToRequestHeaderContext (msg : EventMessage) (binding : ChannelBinding) :
    RequestHeaderContext where
  toRequestLine := messageLine msg binding
  headers := normalizeHeaders msg.headers

def messageToRequestContext (msg : EventMessage) (binding : ChannelBinding) : RequestContext where
  toRequestLine := messageLine msg binding
  headers := normalizeHeaders msg.headers
  body := some { content := msg.value, endOfStream := true, present := 0 < msg.value.length }

/-! ## Results of the engine -/

structure EngineResult where
  headers : HeaderModifications := {}
  body : Option (List UInt8) := none
  topic : String := ""

def headerChanges {Context Action : Type} (changes : Action → Option HeaderModifications)
    (results : List (PolicyResult Context Action)) : List HeaderModifications :=
  results.filterMap fun result => if result.skipped then none else result.action.bind changes

def RequestHeaderAction.changes : RequestHeaderAction → Option HeaderModifications
  | .modifications mods => some mods.toHeaderModifications
  | .immediate _ => none

def RequestAction.changes : RequestAction → Option HeaderModifications
  | .modifications mods => some mods.toHeaderModifications
  | .immediate _ => none

def mergeChanges (changes : List HeaderModifications) : HeaderModifications where
  headersToSet := insertAll ∅
    (changes.flatMap fun mods => mods.headersToSet.entries.map fun entry => (entry.1, entry.2))
  headersToRemove := changes.flatMap (·.headersToRemove)

def mapRequestHeaderResult
    (result : ExecutionResult World RequestHeaderContext RequestHeaderAction) : EngineResult where
  headers := mergeChanges (headerChanges RequestHeaderAction.changes result.results)

/-- The final action is set only when it ended the phase, so that the changes of a phase that went
through are not read. -/
def mapRequestBodyResult (topicOf : World → String)
    (result : ExecutionResult World RequestContext RequestAction) : EngineResult :=
  let topic := topicOf result.world
  match result.finalAction with
  | some (.modifications mods) => ⟨mods.toHeaderModifications, mods.body, topic⟩
  | some (.immediate _) => ⟨{}, none, topic⟩
  | none => ⟨{}, none, topic⟩

def applyResult (order : MapIteration String) (round : Nat) (result : EngineResult)
    (msg : EventMessage) : EventMessage :=
  { msg with
    headers := modifyHeaders order round toLower result.headers msg.headers
    value := result.body.getD msg.value
    topic := if result.topic ≠ "" then result.topic else msg.topic }

/-! ## Running chains -/

/-- The engine with its chains; each context has new metadata, which may name a topic. -/
structure HubEngine (World Params : Type) where
  executor : ChainExecutor World Params
  getChain : String → Option (PolicyChain World Params)
  newSharedContext : World → World
  topicOf : World → String
  order : MapIteration String

inductive Stop where
  | notFound (bindingName : String)
  | failed (stage : String) (problem : ExecutionError)
  | shortCircuited (response : Option ImmediateResponse)

/-- A phase that went through, with the changes that its policies returned. -/
inductive PhaseTrace where
  | header (changes : List HeaderModifications)
  | body (changes : List HeaderModifications)

/-- The message so far, the phases that it went through, and the world. -/
structure Progress (World : Type) where
  msg : EventMessage
  phases : List PhaseTrace
  world : World

structure Level where
  headerContext : EventMessage → RequestHeaderContext
  bodyContext : EventMessage → RequestContext
  headerStage : String
  bodyStage : String

def headerResponse : Option RequestHeaderAction → Option ImmediateResponse
  | some (.immediate response) => some response
  | _ => none

def bodyResponse : Option RequestAction → Option ImmediateResponse
  | some (.immediate response) => some response
  | _ => none

section Process

variable (engine : HubEngine World Params) (level : Level)

def runHeaderPhase (chain : PolicyChain World Params) (progress : Progress World) :
    Except Stop (Progress World) :=
  match executeRequestHeaderPolicies engine.executor chain (level.headerContext progress.msg)
      (engine.newSharedContext progress.world) with
  | .error problem => .error (.failed level.headerStage problem)
  | .ok result =>
    if result.shortCircuited then .error (.shortCircuited (headerResponse result.finalAction))
    else
      .ok ⟨applyResult engine.order progress.phases.length (mapRequestHeaderResult result)
          progress.msg,
        progress.phases ++ [.header (headerChanges RequestHeaderAction.changes result.results)],
        result.world⟩

def runBodyPhase (chain : PolicyChain World Params) (progress : Progress World) :
    Except Stop (Progress World) :=
  match executeRequestPolicies engine.executor chain (level.bodyContext progress.msg)
      (engine.newSharedContext progress.world) with
  | .error problem => .error (.failed level.bodyStage problem)
  | .ok result =>
    if result.shortCircuited then .error (.shortCircuited (bodyResponse result.finalAction))
    else
      .ok ⟨applyResult engine.order progress.phases.length
          (mapRequestBodyResult engine.topicOf result) progress.msg,
        progress.phases ++ [.body (headerChanges RequestAction.changes result.results)],
        result.world⟩

def runChain (chainKey : String) (progress : Progress World) : Except Stop (Progress World) :=
  match if chainKey = "" then none else engine.getChain chainKey with
  | none => .ok progress
  | some chain => do
    let progress ← runHeaderPhase engine level chain progress
    if chain.requiresRequestBody then runBodyPhase engine level chain progress else pure progress

def channelKey (binding : ChannelBinding) (channelName : String)
    (keyOf : ChannelChainKeySet → String) : String :=
  if channelName = "" then ""
  else
    match binding.channelChainKeys.lookup channelName with
    | some keys => keyOf keys
    | none => ""

def processLevels (channelLevel : Level) (hubKey : String) (keyOf : ChannelChainKeySet → String)
    (channelOf : String → String) (binding : ChannelBinding) (progress : Progress World) :
    Except Stop (Progress World) := do
  let progress ← runChain engine level hubKey progress
  if progress.msg.topic = "" then pure progress
  else
    runChain engine channelLevel (channelKey binding (channelOf progress.msg.topic) keyOf) progress

variable (bindings : GoMap String ChannelBinding) (bindingName : String)
  (msg : EventMessage) (world : World)

def withBinding (run : ChannelBinding → Except Stop (Progress World)) :
    Except Stop (Progress World) :=
  match bindings.lookup bindingName with
  | none => .error (.notFound bindingName)
  | some binding => run binding

def subscribeLevel (binding : ChannelBinding) (headerStage bodyStage : String) : Level where
  headerContext := (subscribeToRequestHeaderContext · binding)
  bodyContext := (messageToRequestContext · binding)
  headerStage := headerStage
  bodyStage := bodyStage

def messageLevel (binding : ChannelBinding) (headerStage bodyStage : String) : Level where
  headerContext := (messageToRequestHeaderContext · binding)
  bodyContext := (messageToRequestContext · binding)
  headerStage := headerStage
  bodyStage := bodyStage

def processSubscribe : Except Stop (Progress World) :=
  withBinding bindings bindingName fun binding =>
    processLevels engine
      (subscribeLevel binding "subscribe policy execution failed"
        "subscribe policy execution failed")
      (subscribeLevel binding "subscribe channel policy execution failed"
        "subscribe policy execution failed")
      binding.chainKeys.subscribeChainKey (·.subscribeChainKey) id binding ⟨msg, [], world⟩

def processUnsubscribe : Except Stop (Progress World) :=
  withBinding bindings bindingName fun binding =>
    processLevels engine
      (subscribeLevel binding "unsubscribe policy execution failed"
        "unsubscribe policy execution failed")
      (subscribeLevel binding "unsubscribe channel policy execution failed"
        "unsubscribe policy execution failed")
      binding.chainKeys.unsubscribeChainKey (·.unsubscribeChainKey) id binding ⟨msg, [], world⟩

def processInbound : Except Stop (Progress World) :=
  withBinding bindings bindingName fun binding =>
    processLevels engine
      (messageLevel binding "inbound header policy execution failed"
        "inbound policy execution failed")
      (messageLevel binding "inbound channel policy execution failed"
        "inbound policy execution failed")
      binding.chainKeys.inboundChainKey (·.inboundChainKey) id binding ⟨msg, [], world⟩

/-- The name of the channel with the broker topic; channels with one topic are ruled out by the
digest. -/
def resolveChannelName (channels : GoMap String String) (kafkaTopic : String) : String :=
  match channels.entries.find? fun entry => entry.2 = kafkaTopic with
  | some entry => entry.1
  | none => ""

/-- The response of a policy that ends the processing is dropped. -/
def dropResponse : Except Stop (Progress World) → Except Stop (Progress World)
  | .error (.shortCircuited _) => .error (.shortCircuited none)
  | outcome => outcome

def processOutbound : Except Stop (Progress World) :=
  withBinding bindings bindingName fun binding =>
    dropResponse (processLevels engine
      (messageLevel binding "outbound header policy execution failed"
        "outbound body policy execution failed")
      (messageLevel binding "outbound channel policy execution failed"
        "outbound channel body policy execution failed")
      binding.chainKeys.outboundChainKey (·.outboundChainKey)
      (resolveChannelName binding.channels) binding ⟨msg, [], world⟩)

def processByChainKey (chainKey : String) : Except Stop (Progress World) :=
  if chainKey = "" then .ok ⟨msg, [], world⟩
  else
    withBinding bindings bindingName fun binding =>
      runChain engine
        (messageLevel binding "policy header execution failed" "policy body execution failed")
        chainKey ⟨msg, [], world⟩

end Process

end ApiPlatform.EventGateway
