import ApiPlatform.Controller.Xds.Precedence
import ApiPlatform.Controller.PolicyXds.Join
import ApiPlatform.Controller.ApiKeys.Ownership
import ApiPlatform.Controller.EventListener.KeySync
import ApiPlatform.PolicyEngine.Kernel.Termination
import ApiPlatform.Controller.Llm.DenyList
import ApiPlatform.Controller.Transform.UserPolicies
import ApiPlatform.Controller.Xds.Clusters
import ApiPlatform.Controller.ControlPlane.Convergence
import ApiPlatform.EventHub.Delivery
import ApiPlatform.Operator.Vhosts
import ApiPlatform.Operator.Routing
import ApiPlatform.PolicyEngine.Xds.ApiKeys
import ApiPlatform.PolicyEngine.Kernel.Modes
import ApiPlatform.PolicyEngine.Kernel.Analytics
import ApiPlatform.PlatformApi.Acknowledgements
import ApiPlatform.PlatformApi.SecretRefs
import ApiPlatform.PlatformApi.GatewayImport
import ApiPlatform.Controller.ApiKeys.BulkSync
import ApiPlatform.PlatformApi.LimitEmission
import ApiPlatform.EventGateway.Subscriptions
import ApiPlatform.EventGateway.RefusedRequests
import ApiPlatform.EventGateway.Chains
import ApiPlatform.EventGateway.Resubscription
import ApiPlatform.EventGateway.HeaderChanges
import ApiPlatform.Controller.Storage.KeyMaps
import ApiPlatform.Controller.ApiKeys.IssuedKeys
import ApiPlatform.Controller.ApiKeys.EventOrder
import ApiPlatform.PlatformApi.Deletion
import ApiPlatform.PlatformApi.LimitEnforcement
import ApiPlatform.Controller.Storage.ConfigLabels
import ApiPlatform.Controller.Storage.Templates
import ApiPlatform.Common.KeyValidation
import ApiPlatform.PolicyEngine.Kernel.HeaderMutation
import ApiPlatform.PolicyEngine.Kernel.Readiness
import ApiPlatform.PolicyEngine.NilAction
import ApiPlatform.Controller.Lua.RequestTransformation
