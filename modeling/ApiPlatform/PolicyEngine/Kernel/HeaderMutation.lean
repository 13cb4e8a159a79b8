import ApiPlatform.Foundation.GoMaps

/-!
# Header operations as one mutation

`buildHeaderMutationFromOps` sends for each header what its last operations amount to, but a
remove that is followed by appends is not sent.
-/

namespace ApiPlatform.PolicyEngine.Kernel

open Foundation

inductive HeaderOp where
  | set (value : String)
  | append (value : String)
  | remove
  deriving DecidableEq

/-- A value that overwrites a header or is appended to it. -/
structure HeaderValueOption where
  rawValue : String
  append : Bool

structure HeaderMutation where
  setHeaders : List (String × HeaderValueOption)
  removeHeaders : List String

namespace HeaderOp

def isBreak : HeaderOp → Bool
  | append _ => false
  | _ => true

def appended : HeaderOp → Option String
  | append value => some value
  | _ => none

def lastBreak (ops : List HeaderOp) : Option HeaderOp :=
  ops.reverse.find? isBreak

def appendsAfterBreak (ops : List HeaderOp) : List String :=
  (ops.reverse.takeWhile (!·.isBreak)).reverse.filterMap appended

def valuesToSet (ops : List HeaderOp) : List HeaderValueOption :=
  match ops.getLast?, lastBreak ops with
  | some (append _), some (set value) =>
    ⟨value, false⟩ :: (appendsAfterBreak ops).map (⟨·, true⟩)
  | some (append _), _ => (appendsAfterBreak ops).map (⟨·, true⟩)
  | some (set value), _ => [⟨value, false⟩]
  | _, _ => []

end HeaderOp

open HeaderOp

def buildHeaderMutationFromOps (iteration : MapIteration String) (round : Nat)
    (headerOps : GoMap String (List HeaderOp)) : HeaderMutation :=
  let keys := iteration.order round headerOps.keys
  { setHeaders := keys.flatMap fun key =>
      (valuesToSet ((headerOps.lookup key).getD [])).map (key, ·)
    removeHeaders := keys.filter fun key =>
      ((headerOps.lookup key).getD []).getLast? = some .remove }

/-! ## What Envoy makes of it -/

def HeaderValueOption.apply (values : List String) (option : HeaderValueOption) : List String :=
  if option.append then values ++ [option.rawValue] else [option.rawValue]

def setHeader (headers : String → List String) (entry : String × HeaderValueOption) :
    String → List String :=
  Function.update headers entry.1 (entry.2.apply (headers entry.1))

def removeHeader (headers : String → List String) (name : String) : String → List String :=
  Function.update headers name []

def HeaderMutation.apply (mutation : HeaderMutation) (headers : String → List String) :
    String → List String :=
  mutation.setHeaders.foldl setHeader (mutation.removeHeaders.foldl removeHeader headers)

namespace HeaderOp

def apply (values : List String) : HeaderOp → List String
  | set value => [value]
  | append value => values ++ [value]
  | remove => []

/-- The operations that are sent: of a remove that appends follow, only the appends. -/
def sent (ops : List HeaderOp) : List HeaderOp :=
  if ops.getLast?.any (!·.isBreak) ∧ lastBreak ops = some remove then
    (appendsAfterBreak ops).map append
  else ops

variable {ops : List HeaderOp} {values : List String}

@[simp] theorem lastBreak_concat {op : HeaderOp} :
    lastBreak (ops ++ [op]) = if op.isBreak then some op else lastBreak ops := by
  cases op <;> simp [lastBreak, isBreak]

@[simp] theorem appendsAfterBreak_concat {op : HeaderOp} : appendsAfterBreak (ops ++ [op]) =
    if op.isBreak then [] else appendsAfterBreak ops ++ op.appended.toList := by
  cases op <;> simp [appendsAfterBreak, isBreak, appended]

theorem foldl_apply (ops : List HeaderOp) (values : List String) :
    ops.foldl apply values =
      (match lastBreak ops with
      | some (set value) => [value]
      | some _ => []
      | none => values) ++ appendsAfterBreak ops := by
  induction ops using List.reverseRecOn with
  | nil => simp [lastBreak, appendsAfterBreak]
  | append_singleton ops op ih =>
    cases op with
    | append value => simp [apply, ih, isBreak, appended]
    | set value | remove => simp [apply, isBreak]

theorem foldl_appends (appends values : List String) :
    (appends.map append).foldl apply values = values ++ appends ∧
      (appends.map (⟨·, true⟩)).foldl HeaderValueOption.apply values = values ++ appends := by
  induction appends generalizing values with
  | nil => simp
  | cons value appends ih => simp [apply, HeaderValueOption.apply, ih]

/-- The values that are sent do what the operations that are sent do. -/
theorem foldl_valuesToSet :
    (valuesToSet ops).foldl HeaderValueOption.apply
        (if ops.getLast? = some remove then [] else values) = (sent ops).foldl apply values := by
  cases hlast : ops.getLast? with
  | none =>
    obtain rfl := List.getLast?_eq_none_iff.mp hlast
    simp [valuesToSet, sent]
  | some last =>
    cases last with
    | remove =>
      obtain ⟨init, rfl⟩ := List.getLast?_eq_some_iff.mp hlast
      simp [valuesToSet, sent, isBreak, apply]
    | set value =>
      obtain ⟨init, rfl⟩ := List.getLast?_eq_some_iff.mp hlast
      simp [valuesToSet, sent, isBreak, apply, HeaderValueOption.apply]
    | append value =>
      cases hbreak : lastBreak ops with
      | none => simp [valuesToSet, sent, hlast, hbreak, foldl_apply, foldl_appends]
      | some op =>
        cases op with
        | remove => simp [valuesToSet, sent, hlast, hbreak, isBreak, foldl_appends]
        | set value =>
          simp [valuesToSet, sent, hlast, hbreak, foldl_apply, foldl_appends,
            HeaderValueOption.apply]
        | append value => exact absurd (List.find?_some hbreak) (by simp [isBreak])

end HeaderOp

/-! ## All headers -/

section Headers

variable {name : String} {keys : List String}

theorem foldl_setHeader (key : String) (options : List HeaderValueOption)
    (headers : String → List String) :
    (options.map (key, ·)).foldl setHeader headers =
      Function.update headers key (options.foldl HeaderValueOption.apply (headers key)) := by
  induction options generalizing headers with
  | nil => simp
  | cons option options ih => simp [ih, setHeader]

theorem foldl_setHeaders {valuesOf : String → List HeaderValueOption}
    (headers : String → List String) (hnodup : keys.Nodup) :
    (keys.flatMap fun key => (valuesOf key).map (key, ·)).foldl setHeader headers name =
      (if name ∈ keys then valuesOf name else []).foldl HeaderValueOption.apply
        (headers name) := by
  induction keys generalizing headers with
  | nil => simp
  | cons key keys ih =>
    rw [List.nodup_cons] at hnodup
    rw [List.flatMap_cons, List.foldl_append, foldl_setHeader, ih _ hnodup.2]
    by_cases hkey : name = key
    · subst hkey
      simp [hnodup.1]
    · simp [hkey]

theorem foldl_removeHeaders (names : List String) (headers : String → List String) :
    names.foldl removeHeader headers name =
      if name ∈ names then [] else headers name := by
  induction names generalizing headers with
  | nil => simp
  | cons other names ih =>
    by_cases hname : name = other
    · subst hname
      simp [ih, removeHeader]
    · simp [ih, removeHeader, hname]

end Headers

/-- Envoy gives each header the values that the operations which are sent give it. -/
theorem header_mutation_values (iteration : MapIteration String) (round : Nat)
    (headerOps : GoMap String (List HeaderOp)) (headers : String → List String) (name : String) :
    (buildHeaderMutationFromOps iteration round headerOps).apply headers name =
      (sent ((headerOps.lookup name).getD [])).foldl HeaderOp.apply (headers name) := by
  have hnodup : (iteration.order round headerOps.keys).Nodup :=
    (iteration.perm round _).nodup_iff.mpr headerOps.nodupKeys
  rw [HeaderMutation.apply, buildHeaderMutationFromOps, foldl_setHeaders _ hnodup,
    foldl_removeHeaders, ← foldl_valuesToSet]
  simp only [List.mem_filter, iteration.mem_order, ← AList.mem_keys, decide_eq_true_eq]
  by_cases hname : name ∈ headerOps
  · simp [hname]
  · simp [hname, AList.lookup_eq_none.mpr hname, valuesToSet]

/-- The value that is removed before the append is still there. -/
theorem removed_value_kept :
    (buildHeaderMutationFromOps (storedOrder String) 0
        (insertAll ∅ [("x-header", [.remove, .append "new"])])).apply (fun _ => ["old"])
        "x-header" = ["old", "new"] ∧
      [.remove, .append "new"].foldl HeaderOp.apply ["old"] = ["new"] := by
  decide +kernel

end ApiPlatform.PolicyEngine.Kernel
