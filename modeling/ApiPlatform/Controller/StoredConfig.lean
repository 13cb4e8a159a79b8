import ApiPlatform.Controller.Api

/-!
# Stored configurations

An artifact as the controller stores it (`pkg/models/stored_config.go`): its
identity, the configuration that is deployed, the configuration that the user
wrote, and the desired state.
-/

namespace ApiPlatform.Controller

open Foundation

inductive DesiredState where
  | deployed
  | undeployed
  deriving DecidableEq

structure RestAPI where
  labels : Option (GoMap String String)
  annotations : Option (GoMap String String)
  spec : Api.APIConfigData
  deriving DecidableEq

/-- The types that `Configuration` and `SourceConfiguration` hold.  The parts of
an LLM proxy, an MCP proxy and an event API that nothing here reads are their
JSON text. -/
inductive Configuration where
  | restAPI (api : RestAPI)
  | llmProvider (name : String) (spec : Api.LLMProviderConfigData)
  | llmProxy (name providerId raw : String)
  | mcpProxy (raw : String)
  | webSubAPI (raw : String)
  | webBrokerAPI (raw : String)
  deriving DecidableEq

structure StoredConfig where
  uuid : String
  kind : String
  handle : String
  displayName : String
  version : String
  configuration : Configuration
  sourceConfiguration : Configuration
  desiredState : DesiredState
  sensitiveValues : List String
  deriving DecidableEq

namespace StoredConfig

def getCompositeKey (cfg : StoredConfig) : String :=
  cfg.kind ++ ":" ++ cfg.displayName ++ ":" ++ cfg.version

def getLabels (cfg : StoredConfig) : Option (GoMap String String) :=
  match cfg.configuration with
  | .restAPI api => api.labels
  | _ => none

def getAnnotations (cfg : StoredConfig) : Option (GoMap String String) :=
  match cfg.configuration with
  | .restAPI api => api.annotations
  | _ => none

end StoredConfig

end ApiPlatform.Controller
