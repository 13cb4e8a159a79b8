import ApiPlatform.Operator.Compile
import ApiPlatform.Foundation.Selection

/-!
# Upstream definitions of a compiled route

Which definition stands under which name after the first rules of a route.  The
names of Services and of weighted rules differ, but two Services can share one.
-/

namespace ApiPlatform.Operator

open Foundation

/-! ## Names of definitions -/

theorem not_mem_toString_int (char : Char) (hdigit : char.isDigit = false) (hminus : char ≠ '-')
    (port : Int) : char ∉ (toString port).toList := by
  have hnat : ∀ number : Nat, char ∉ number.repr.toList := by
    intro number hmem
    have hmem : char ∈ Nat.toDigits 10 number := by simpa using hmem
    rw [Nat.isDigit_of_mem_toDigits (by decide) (by decide) hmem] at hdigit
    cases hdigit
  cases port with
  | ofNat number => exact hnat number
  | negSucc number =>
    show char ∉ ("-" ++ (number + 1).repr).toList
    rw [String.toList_append, List.mem_append, not_or]
    exact ⟨by simpa using hminus, hnat _⟩

theorem toString_int_ne_nil (port : Int) : (toString port).toList ≠ [] := by
  cases port with
  | ofNat number =>
    show number.repr.toList ≠ []
    simp
  | negSucc number =>
    show ("-" ++ (number + 1).repr).toList ≠ []
    simp

theorem serviceName_ne_weighted (svcNS svcName : String) (port : Int) (ruleIdx : Nat) :
    upstreamDefinitionNameForService svcNS svcName port ≠ weightedDefinitionName ruleIdx := by
  intro heq
  obtain ⟨init, last, hport⟩ : ∃ init last, (toString port).toList = init ++ [last] :=
    ⟨_, _, (List.dropLast_append_getLast (toString_int_ne_nil port)).symm⟩
  have hlast : last ≠ 'd' := by
    rintro rfl
    refine not_mem_toString_int 'd' (by decide) (by decide) port ?_
    rw [hport]
    exact List.mem_append_right _ List.mem_cons_self
  have hservice : (upstreamDefinitionNameForService svcNS svcName port).toList.getLast? =
      some (if (if last = '.' then '-' else last) = '/' then '-'
        else if last = '.' then '-' else last) := by
    simp only [upstreamDefinitionNameForService, sanitizeUpstreamDefName, replaceAll,
      String.toList_ofList, String.reduceToList, replaceFrom_char, String.toList_append, hport,
      List.map_append, List.map_cons, List.map_nil]
    rw [← List.append_assoc, List.getLast?_append]
    rfl
  have hweighted : (weightedDefinitionName ruleIdx).toList.getLast? = some 'd' := by
    rw [weightedDefinitionName, String.toList_append, List.getLast?_append]
    rfl
  rw [heq, hweighted, Option.some.injEq] at hservice
  split at hservice
  · cases hservice
  split at hservice
  · cases hservice
  · exact hlast hservice.symm

theorem weightedDefinitionName_inj {left right : Nat}
    (heq : weightedDefinitionName left = weightedDefinitionName right) : left = right := by
  have hdigits : toString left = toString right := by
    simpa [weightedDefinitionName] using heq
  exact Nat.repr_inj.mp hdigits

/-! ## The definitions after some rules -/

def definitionsAfter (resolution : HTTPRouteBackendResolution) (count : Nat) : Definitions :=
  (List.range count).foldl
    (fun defs ruleIdx => addRuleDefinitions defs ruleIdx (backendsForRule resolution ruleIdx)) ∅

def serviceRefs (resolution : HTTPRouteBackendResolution) (count : Nat) :
    List ResolvedBackendRef :=
  (List.range count).flatMap fun ruleIdx =>
    if isWeightedRule (backendsForRule resolution ruleIdx) then []
    else (backendsForRule resolution ruleIdx).filter (·.ok)

def serviceDefinition (ref : ResolvedBackendRef) : UpstreamDefinition :=
  { name := ref.definitionName, upstreams := [{ url := ref.url, weight := none }] }

section Definitions

variable {resolution : HTTPRouteBackendResolution}

theorem definitionsAfter_succ (count : Nat) :
    definitionsAfter resolution (count + 1) =
      addRuleDefinitions (definitionsAfter resolution count) count
        (backendsForRule resolution count) := by
  rw [definitionsAfter, List.range_succ, List.foldl_append]
  rfl

theorem serviceRefs_succ (count : Nat) :
    serviceRefs resolution (count + 1) = serviceRefs resolution count ++
      if isWeightedRule (backendsForRule resolution count) then []
      else (backendsForRule resolution count).filter (·.ok) := by
  rw [serviceRefs, List.range_succ, List.flatMap_append]
  simp [serviceRefs]

theorem lookup_foldl_addServiceDefinition (refs : List ResolvedBackendRef) (defs : Definitions)
    (name : String) :
    (refs.foldl addServiceDefinition defs).lookup name =
      (defs.lookup name).or (((refs.filter (·.ok)).find? (·.definitionName = name)).map
        serviceDefinition) := by
  induction refs generalizing defs with
  | nil => simp
  | cons ref rest ih =>
    rw [List.foldl_cons, ih]
    unfold addServiceDefinition
    cases hok : ref.ok with
    | false => simp [hok]
    | true =>
      cases hold : defs.lookup ref.definitionName with
      | some old =>
        by_cases hname : ref.definitionName = name
        · subst hname
          simp [hok, hold]
        · simp [hok, hname, List.find?_cons_of_neg]
      | none =>
        by_cases hname : ref.definitionName = name
        · subst hname
          simp [hok, hold, serviceDefinition]
        · simp [hok, hname, AList.lookup_insert_ne (Ne.symm hname)]

theorem lookup_service (ref : ResolvedBackendRef) (count : Nat) :
    (definitionsAfter resolution count).lookup ref.definitionName =
      ((serviceRefs resolution count).find? (·.definitionName = ref.definitionName)).map
        serviceDefinition := by
  induction count with
  | zero => rfl
  | succ count ih =>
    rw [definitionsAfter_succ, serviceRefs_succ, addRuleDefinitions, List.find?_append,
      Option.map_or]
    split
    · have hne : ref.definitionName ≠ weightedDefinitionName count :=
        serviceName_ne_weighted _ _ _ _
      rw [AList.lookup_insert_ne hne, ih]
      simp
    · rw [lookup_foldl_addServiceDefinition, ih]

theorem lookup_weighted {ruleIdx count : Nat} (hlt : ruleIdx < count)
    (hweighted : isWeightedRule (backendsForRule resolution ruleIdx) = true) :
    (definitionsAfter resolution count).lookup (weightedDefinitionName ruleIdx) =
      some { name := weightedDefinitionName ruleIdx
             upstreams := weightedUpstreams (backendsForRule resolution ruleIdx) } := by
  induction count with
  | zero => exact absurd hlt (Nat.not_lt_zero _)
  | succ count ih =>
    rw [definitionsAfter_succ, addRuleDefinitions]
    rcases Nat.lt_succ_iff_lt_or_eq.mp hlt with hlt | rfl
    · split
      · have hne : weightedDefinitionName ruleIdx ≠ weightedDefinitionName count :=
          fun heq => hlt.ne (weightedDefinitionName_inj heq)
        rw [AList.lookup_insert_ne hne, ih hlt]
      · rw [lookup_foldl_addServiceDefinition, ih hlt]
        rfl
    · rw [if_pos hweighted, AList.lookup_insert]

theorem isSome_lookup_definitionsAfter (count : Nat) (name : String) :
    ((definitionsAfter resolution count).lookup name).isSome = true ↔
      (∃ ruleIdx < count, isWeightedRule (backendsForRule resolution ruleIdx) = true ∧
        name = weightedDefinitionName ruleIdx) ∨
      ∃ ref ∈ serviceRefs resolution count, ref.definitionName = name := by
  induction count with
  | zero => simp [definitionsAfter, serviceRefs]
  | succ count ih =>
    rw [definitionsAfter_succ, serviceRefs_succ, addRuleDefinitions]
    cases hweighted : isWeightedRule (backendsForRule resolution count) with
    | true =>
      have hinsert : ∀ value, (((definitionsAfter resolution count).insert
          (weightedDefinitionName count) value).lookup name).isSome = true ↔
          name = weightedDefinitionName count ∨
            ((definitionsAfter resolution count).lookup name).isSome = true := by
        intro value
        rw [AList.lookup_isSome, AList.mem_insert, AList.lookup_isSome]
      rw [if_pos rfl, hinsert, ih, if_pos rfl, List.append_nil, ← or_assoc]
      refine or_congr_left ?_
      simp only [Nat.lt_succ_iff_lt_or_eq, or_and_right, exists_or, exists_eq_left, hweighted,
        true_and]
      exact or_comm
    | false =>
      rw [if_neg Bool.false_ne_true, lookup_foldl_addServiceDefinition, Option.isSome_or,
        Bool.or_eq_true, ih, if_neg Bool.false_ne_true, or_assoc]
      simp only [Nat.lt_succ_iff_lt_or_eq, or_and_right, exists_or, exists_eq_left, hweighted,
        Bool.false_eq_true, false_and, or_false, List.mem_append, Option.isSome_map,
        List.find?_isSome, decide_eq_true_eq]

/-- No weighted rule and no other definition comes before the end of the rule. -/
structure LeadsAlone (resolution : HTTPRouteBackendResolution) (ruleIdx : Nat)
    (ref : ResolvedBackendRef) : Prop where
  unweighted : ∀ earlier ≤ ruleIdx,
    isWeightedRule (backendsForRule resolution earlier) = false
  sameName : ∀ other ∈ serviceRefs resolution (ruleIdx + 1),
    other.definitionName = ref.definitionName

theorem needsDynamicEndpoint_iff {ruleIdx : Nat} {ref : ResolvedBackendRef}
    (hmem : ref ∈ serviceRefs resolution (ruleIdx + 1)) :
    needsDynamicEndpoint (definitionsAfter resolution (ruleIdx + 1)) = false ↔
      LeadsAlone resolution ruleIdx ref := by
  have hkey : ∀ name, name ∈ (definitionsAfter resolution (ruleIdx + 1)).keys ↔
      ((definitionsAfter resolution (ruleIdx + 1)).lookup name).isSome = true := by
    intro name
    rw [AList.lookup_isSome, AList.mem_keys]
  have hown : ref.definitionName ∈ (definitionsAfter resolution (ruleIdx + 1)).keys :=
    (hkey _).mpr ((isSome_lookup_definitionsAfter _ _).mpr (.inr ⟨ref, hmem, rfl⟩))
  have hlength : needsDynamicEndpoint (definitionsAfter resolution (ruleIdx + 1)) = false ↔
      ∀ name ∈ (definitionsAfter resolution (ruleIdx + 1)).keys, name = ref.definitionName := by
    rw [← length_le_one_iff_of_mem (AList.keys_nodup _) hown, needsDynamicEndpoint,
      decide_eq_false_iff_not, Nat.not_lt]
  rw [hlength]
  constructor
  · intro hall
    refine ⟨fun earlier hle => ?_, fun other hother => ?_⟩
    · rw [Bool.eq_false_iff]
      intro hweighted
      have hname := hall _ ((hkey _).mpr ((isSome_lookup_definitionsAfter _ _).mpr
        (.inl ⟨earlier, Nat.lt_succ_of_le hle, hweighted, rfl⟩)))
      exact serviceName_ne_weighted _ _ _ _ hname.symm
    · exact hall _ ((hkey _).mpr ((isSome_lookup_definitionsAfter _ _).mpr
        (.inr ⟨other, hother, rfl⟩)))
  · intro halone name hname
    rcases (isSome_lookup_definitionsAfter _ _).mp ((hkey name).mp hname) with
      ⟨earlier, hlt, hweighted, -⟩ | ⟨other, hother, rfl⟩
    · rw [halone.unweighted earlier (Nat.le_of_lt_succ hlt)] at hweighted
      cases hweighted
    · exact halone.sameName other hother

end Definitions

end ApiPlatform.Operator
