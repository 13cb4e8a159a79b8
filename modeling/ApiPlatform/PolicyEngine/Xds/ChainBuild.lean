import ApiPlatform.Foundation.Fallible
import ApiPlatform.PolicyEngine.Chain

/-!
# Chains from their configuration

The policies of a route arrive as configuration.  Each is instantiated through
the registry (`internal/registry/registry.go`) with the parameters of its
definition and of the route, and the chain is put together from the instances
(`buildPolicyChain` of `internal/xdsclient/handler.go`).

`Value` is the type of decoded JSON values.  A nil map or slice is `none`: JSON
writes it differently from an empty one.  Parameters are maps up to the order of
their keys, which JSON sorts.
-/

namespace ApiPlatform.PolicyEngine.Xds

open Foundation

abbrev Parameters (Value : Type) := Finmap fun _ : String => Value

structure PolicyInstance (Value : Type) where
  name : String
  version : String
  enabled : Bool
  executionCondition : Option String
  parameters : Option (Parameters Value)
  deriving DecidableEq

structure PolicyChainConfig (Value : Type) where
  routeKey : String
  policies : Option (List (PolicyInstance Value))
  deriving DecidableEq

structure Metadata where
  createdAt : Int
  updatedAt : Int
  resourceVersion : Int
  apiId : String
  apiName : String
  version : String
  context : String
  deriving DecidableEq

structure PolicyMetadata where
  routeName : String
  apiId : String
  apiName : String
  apiVersion : String
  attachedTo : String
  deriving DecidableEq

/-! ## The registry -/

section Registry

variable (World Value : Type)

/-- A factory is a function of its arguments: it makes the same policy each time. -/
structure PolicyEntry where
  systemParameters : Option (Parameters Value)
  factory : PolicyMetadata → Parameters Value → Except String (Policy World (Parameters Value))

structure PolicyRegistry where
  policies : GoMap String (PolicyEntry World Value)
  configResolver : Option (Parameters Value → Except String (Parameters Value))
  asString : Value → Option String

end Registry

variable {World Value : Type}

def compositeKey (name version : String) : String :=
  name ++ ":" ++ version

def mergeParams (initParams params : Parameters Value) : Parameters Value :=
  params ∪ initParams

namespace PolicyRegistry

variable (registry : PolicyRegistry World Value)

def getInstance (name version : String) (metadata : PolicyMetadata) (params : Parameters Value) :
    Except String (Policy World (Parameters Value) × Parameters Value) :=
  let key := compositeKey name version
  match registry.policies.lookup key, registry.configResolver with
  | none, _ => .error ("policy not found: " ++ key)
  | some _, none => .error ("policy " ++ key ++ ": ConfigResolver is not initialized")
  | some entry, some resolveMap => do
    let initParams ← (resolveMap (entry.systemParameters.getD ∅)).mapError
      ("failed to resolve config for policy " ++ key ++ ": " ++ ·)
    let mergedParams := mergeParams initParams params
    let instance' ← (entry.factory metadata mergedParams).mapError
      ("failed to create policy instance " ++ key ++ ": " ++ ·)
    pure (instance', mergedParams)

def policyExists (name version : String) : Except String Unit :=
  let key := compositeKey name version
  if (registry.policies.lookup key).isSome then .ok ()
  else .error ("policy not found: " ++ key)

/-! ## Chains -/

/-- The level at which the policy is attached, when the parameters name it. -/
def attachedTo (params : Parameters Value) : String :=
  ((params.lookup "attachedTo").bind registry.asString).getD ""

def buildEntry (routeKey : String) (apiMetadata : Metadata) (policyConfig : PolicyInstance Value) :
    Except String (ChainEntry World (Parameters Value)) := do
  let params := policyConfig.parameters.getD ∅
  let metadata : PolicyMetadata :=
    { routeName := routeKey
      apiId := apiMetadata.apiId
      apiName := apiMetadata.apiName
      apiVersion := apiMetadata.version
      attachedTo := registry.attachedTo params }
  let (impl, mergedParams) ← (registry.getInstance policyConfig.name policyConfig.version metadata
    params).mapError ("failed to create policy instance " ++ policyConfig.name ++ ":" ++
      policyConfig.version ++ ": " ++ ·)
  pure {
    policy := impl
    spec :=
      { name := policyConfig.name
        version := policyConfig.version
        enabled := policyConfig.enabled
        parameters := mergedParams
        executionCondition := policyConfig.executionCondition } }

def buildPolicyChain (routeKey : String) (config : PolicyChainConfig Value)
    (apiMetadata : Metadata) : Except String (PolicyChain World (Parameters Value)) := do
  let chain ← (config.policies.getD []).foldlM
    (fun chain policyConfig => do
      let entry ← registry.buildEntry routeKey apiMetadata policyConfig
      pure (chain.addPolicy entry))
    PolicyChain.start
  pure chain.clearStreaming

end PolicyRegistry

end ApiPlatform.PolicyEngine.Xds
