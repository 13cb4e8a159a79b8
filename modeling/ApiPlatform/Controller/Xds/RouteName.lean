import ApiPlatform.Controller.Api
import ApiPlatform.Foundation.GoStrings

/-!
# Route names and route timeouts

The parts of `pkg/xds/translator.go` that the transformers share with the Envoy
translator: the name of a route, which is also the key of its policy chain, and
the durations of a resilience block.
-/

namespace ApiPlatform.Controller.Xds

open Foundation

/-! ## Names -/

def constructFullPath (context apiVersion path : String) : String :=
  let contextWithVersion := replaceAll context "$version" apiVersion
  (if contextWithVersion = "/" then "" else contextWithVersion) ++ path

def generateRouteNameWithDiscriminator
    (method context apiVersion path vhost discriminator : String) : String :=
  let name := method ++ "|" ++ constructFullPath context apiVersion path ++ "|" ++ vhost
  if discriminator = "" then name else name ++ "|" ++ discriminator

def canonicalHeader (header : RouteHeaderMatch) : String :=
  toLower (trimSpace header.name) ++ "\x1f" ++
    (if header.type = "" then "Exact" else header.type) ++ "\x1f" ++ header.value

/-- `digest` is the hexadecimal form of the first eight bytes of the SHA-256 sum. -/
def headerMatchDiscriminator (digest : String → String) (headers : List RouteHeaderMatch) :
    String :=
  if headers.isEmpty then ""
  else
    digest (String.intercalate "\x1e"
      ((headers.map canonicalHeader).insertionSort (· ≤ ·)))

/-! ## Resilience -/

def isResilienceDuration (text : String) : Bool :=
  let number := text.toList.takeWhile fun char => char.isDigit || char == '.'
  let unit := String.ofList (text.toList.drop number.length)
  ["ms", "s", "m", "h"].contains unit &&
    match number.splitOn '.' with
    | [whole] => isDigits whole
    | [whole, fraction] => isDigits whole && isDigits fraction
    | _ => false

def parseDurationAllowZero (parseDuration : String → Except String Duration)
    (quote : String → String) (timeout : Option String) : Except String (Option Duration) :=
  match timeout with
  | none => .ok none
  | some text =>
    let trimmed := trimSpace text
    if trimmed = "" then .ok none
    else if !isResilienceDuration trimmed then
      .error ("invalid timeout format " ++ quote trimmed ++
        ": expected a single-unit duration like \"30s\", \"500ms\", or \"0s\" to disable")
    else
      match parseDuration trimmed with
      | .ok duration => .ok (some duration)
      | .error message => .error ("invalid timeout format: " ++ message)

def resolveResilience (parseDuration : String → Except String Duration)
    (quote : String → String) (resilience : Option Api.Resilience) :
    Except String (Option Duration × Option Duration) :=
  match resilience with
  | none => .ok (none, none)
  | some block => do
    let timeout ← (parseDurationAllowZero parseDuration quote block.timeout).mapError
      ("invalid resilience.timeout: " ++ ·)
    let idleTimeout ← (parseDurationAllowZero parseDuration quote block.idleTimeout).mapError
      ("invalid resilience.idleTimeout: " ++ ·)
    pure (timeout, idleTimeout)

end ApiPlatform.Controller.Xds
