import ApiPlatform.Operator.Hostnames
import ApiPlatform.Foundation.Runs

/-!
# Virtual hosts of a route

When the listeners that accept a route, and the virtual hosts derived from
them, are what the hostnames of both sides say.
-/

namespace ApiPlatform.Operator

open Foundation

variable {text : String} {hosts : List String} {listener : Listener}

/-! ## What should be matched -/

def RouteMatches (routeHosts : List Hostname) (host : Name) : Prop :=
  routeHosts = [] ∨ ∃ hostname ∈ routeHosts, hostname.Matches host

/-- The hostname that the listener and one hostname of the route leave over. -/
def Shared (routeHosts : List Hostname) (listenerHost shared : Hostname) : Prop :=
  routeHosts = [] ∧ shared = listenerHost ∨
    ∃ hostname ∈ routeHosts, hostname.meet listenerHost = some shared

def VhostsMatch (vhosts : String × List String) (host : Name) : Prop :=
  vhosts.1 = "" ∨
    ∃ hostname : Hostname, hostname.text ∈ vhosts.1 :: vhosts.2 ∧ hostname.Matches host

theorem exists_shared_matches_iff (routeHosts : List Hostname) (listenerHost : Hostname)
    (host : Name) :
    (∃ shared, Shared routeHosts listenerHost shared ∧ shared.Matches host) ↔
      listenerHost.Matches host ∧ RouteMatches routeHosts host := by
  constructor
  · rintro ⟨shared, ⟨hnone, rfl⟩ | ⟨hostname, hmem, hmeet⟩, hmatches⟩
    · exact ⟨hmatches, .inl hnone⟩
    · obtain ⟨hroute, hlistener⟩ := (hostname.matches_meet listenerHost host).mp
        ⟨shared, hmeet, hmatches⟩
      exact ⟨hlistener, .inr ⟨hostname, hmem, hroute⟩⟩
  · rintro ⟨hlistener, hnone | ⟨hostname, hmem, hroute⟩⟩
    · exact ⟨listenerHost, .inl ⟨hnone, rfl⟩, hlistener⟩
    · obtain ⟨shared, hmeet, hmatches⟩ := (hostname.matches_meet listenerHost host).mpr
        ⟨hroute, hlistener⟩
      exact ⟨shared, .inr ⟨hostname, hmem, hmeet⟩, hmatches⟩

theorem exists_host_iff (routeHosts : List Hostname) (listenerHost : Hostname) :
    (∃ host, listenerHost.Matches host ∧ RouteMatches routeHosts host) ↔
      ∃ shared, Shared routeHosts listenerHost shared := by
  simp only [← exists_shared_matches_iff]
  constructor
  · rintro ⟨host, shared, hshared, -⟩
    exact ⟨shared, hshared⟩
  · rintro ⟨shared, hshared⟩
    obtain ⟨host, hmatches⟩ := shared.exists_matches
    exact ⟨host, shared, hshared, hmatches⟩

theorem exists_unmatched (texts : List String) :
    ∃ host, ∀ hostname : Hostname, hostname.text ∈ texts → hostname ≠ .any →
      ¬ hostname.Matches host := by
  have hbound : ∀ text ∈ texts, text.toList.length ≤
      (texts.map fun text => text.toList.length).sum :=
    fun text hmem => List.le_sum_of_mem (List.mem_map_of_mem hmem)
  generalize (texts.map fun text => text.toList.length).sum = bound at hbound
  -- one label that is longer than every hostname
  refine ⟨Name.single bound, fun hostname hmem hne hmatches => ?_⟩
  cases hostname with
  | any => exact hne rfl
  | wildcard parent =>
    obtain ⟨labels, -, hhost⟩ := hmatches
    have hdot : '.' ∈ (Name.single bound).chars := by simp [hhost]
    exact absurd (List.eq_of_mem_replicate hdot) (by decide)
  | exact name =>
    have hname : Name.single bound = name := hmatches
    have hle := hbound _ hmem
    rw [Hostname.toList_text_exact, ← hname, Name.chars_single, List.length_replicate] at hle
    omega

/-! ## The derivation -/

theorem mem_addHost {host : String} (hhost : trimSpace host = host) :
    text ∈ addHost hosts host ↔ text ∈ hosts ∨ text = host ∧ text ≠ "" := by
  simp only [addHost, hhost]
  split
  next hskip =>
    refine ⟨.inl, ?_⟩
    rintro (hmem | ⟨rfl, hne⟩)
    · exact hmem
    · exact hskip.resolve_left hne
  next hkeep =>
    rw [List.mem_append, List.mem_singleton]
    refine or_congr_right ⟨fun heq => ⟨heq, ?_⟩, fun h => h.1⟩
    rintro rfl
    exact hkeep (.inl heq.symm)

theorem mem_foldl_addHost {added : List String} (hadded : ∀ host ∈ added, trimSpace host = host) :
    text ∈ added.foldl addHost hosts ↔ text ∈ hosts ∨ text ∈ added ∧ text ≠ "" := by
  rw [foldl_exists (text ∈ ·) (fun host => text = host ∧ text ≠ "")
    fun state host hmem => mem_addHost (hadded host hmem)]
  simp

section Derivation

variable {c : Client} {gw : Gateway} {route : HTTPRoute} {routeHosts : List Hostname}
  {hostOf : Listener → Hostname}

theorem mem_listenerHosts (hroute : route.hostnames = routeHosts.map Hostname.text)
    (hlistener : listener.hostname.getD "" = (hostOf listener).text) :
    text ∈ listenerHosts route.hostnames listener ∧ text ≠ "" ↔
      ∃ shared, Shared routeHosts (hostOf listener) shared ∧ shared ≠ .any ∧
        shared.text = text := by
  unfold listenerHosts
  rw [hlistener, hroute]
  cases routeHosts with
  | nil =>
    by_cases hany : hostOf listener = .any
    · simp [Shared, hany, Hostname.text]
    · have hne : (hostOf listener).text ≠ "" := fun h => hany (Hostname.text_eq_empty.mp h)
      simp only [List.map_nil, if_neg hne, List.mem_singleton]
      constructor
      · rintro ⟨rfl, -⟩
        exact ⟨_, .inl ⟨rfl, rfl⟩, hany, rfl⟩
      · rintro ⟨shared, ⟨-, rfl⟩ | ⟨hostname, hmem, -⟩, -, rfl⟩
        · exact ⟨rfl, hne⟩
        · cases hmem
  | cons first rest =>
    have hmeet : ((first :: rest).map Hostname.text).filterMap
        (fun rh => intersectHostname rh (hostOf listener).text) =
        (first :: rest).filterMap fun hostname =>
          (hostname.meet (hostOf listener)).map Hostname.text := by
      rw [List.filterMap_map]
      exact List.filterMap_congr fun hostname _ => Hostname.intersectHostname_eq hostname _
    rw [List.map_cons] at hmeet ⊢
    simp only [hmeet, List.mem_filterMap, Option.map_eq_some_iff]
    constructor
    · rintro ⟨⟨hostname, hmem, shared, hshared, rfl⟩, hne⟩
      exact ⟨shared, .inr ⟨hostname, hmem, hshared⟩,
        fun hany => hne (Hostname.text_eq_empty.mpr hany), rfl⟩
    · rintro ⟨shared, ⟨hnil, -⟩ | ⟨hostname, hmem, hshared⟩, hany, rfl⟩
      · cases hnil
      · exact ⟨⟨hostname, hmem, shared, hshared, rfl⟩,
          fun h => hany (Hostname.text_eq_empty.mp h)⟩

def Admits (routeHosts : List Hostname) (listenerHost : Hostname) : Prop :=
  listenerHost = .any ∨ routeHosts = [] ∨ ∃ hostname ∈ routeHosts, listenerHost.Pairs hostname

theorem hostnamesIntersect_iff (hroute : route.hostnames = routeHosts.map Hostname.text)
    (hlistener : listener.hostname.getD "" = (hostOf listener).text) :
    hostnamesIntersect listener.hostname route.hostnames = true ↔
      Admits routeHosts (hostOf listener) := by
  unfold hostnamesIntersect Admits
  rw [hroute]
  cases hhostname : listener.hostname with
  | none =>
    rw [hhostname] at hlistener
    have hany : hostOf listener = .any := Hostname.text_eq_empty.mp hlistener.symm
    simp [hany]
  | some text =>
    obtain rfl : text = (hostOf listener).text := by
      rw [hhostname] at hlistener
      exact hlistener
    simp [Hostname.text_eq_empty, Hostname.normalizeHostname_text, Hostname.hostnamePairMatch_iff,
      or_assoc]

/-- A listener that allows the kind and the namespace of the route. -/
def AllowsRoute (c : Client) (gw : Gateway) (route : HTTPRoute) (listener : Listener) : Prop :=
  listenerAllowsHTTPRouteKind listener = true ∧
    ∃ allowed, namespacesAllowedByListener c listener gw = .ok allowed ∧
      namespaceAllowed route.ns allowed = true

theorem httpRouteAcceptedByListener_eq {target : ParentReference}
    (hallows : AllowsRoute c gw route listener) :
    httpRouteAcceptedByListener c gw route target listener =
      .ok (parentRefAttachesToListener target listener &&
        hostnamesIntersect listener.hostname route.hostnames) := by
  obtain ⟨hkind, allowed, hnamespaces, hallowed⟩ := hallows
  unfold httpRouteAcceptedByListener
  cases hattaches : parentRefAttachesToListener target listener with
  | false => rfl
  | true =>
    rw [hkind, hnamespaces]
    simp [bind, Except.bind, hallowed]

def addAccepted (route : HTTPRoute) (hosts : List String) (pair : ParentReference × Listener) :
    List String :=
  if parentRefAttachesToListener pair.1 pair.2 &&
      hostnamesIntersect pair.2.hostname route.hostnames then
    (listenerHosts route.hostnames pair.2).foldl addHost hosts
  else hosts

def Attached (targets : List ParentReference) (gw : Gateway) (listener : Listener) : Prop :=
  listener ∈ gw.listeners ∧ ∃ target ∈ targets, parentRefAttachesToListener target listener = true

variable (hroute : route.hostnames = routeHosts.map Hostname.text)
  (hlisteners : ∀ listener ∈ gw.listeners,
    listener.hostname.getD "" = (hostOf listener).text)
  (hallows : ∀ listener ∈ gw.listeners, AllowsRoute c gw route listener)
include hroute hlisteners hallows

theorem accepted_iff {target : ParentReference} (hlistener : listener ∈ gw.listeners) :
    httpRouteAcceptedByListener c gw route target listener = .ok true ↔
      parentRefAttachesToListener target listener = true ∧ Admits routeHosts (hostOf listener) := by
  rw [httpRouteAcceptedByListener_eq (hallows listener hlistener), Except.ok.injEq,
    Bool.and_eq_true, hostnamesIntersect_iff hroute (hlisteners listener hlistener)]

omit hallows in
theorem trimSpace_listenerHosts (hlistener : listener ∈ gw.listeners) :
    ∀ host ∈ listenerHosts route.hostnames listener, trimSpace host = host := by
  intro host hmem
  by_cases hempty : host = ""
  · rw [hempty]
    rfl
  · obtain ⟨shared, -, -, rfl⟩ :=
      (mem_listenerHosts hroute (hlisteners listener hlistener)).mp ⟨hmem, hempty⟩
    exact trimSpace_eq_self fun _ hhost =>
      (Hostname.kept_of_isHostChar (Hostname.isHostChar_of_mem hhost)).2.1

theorem mem_deriveVhostsFrom {pairs : List (ParentReference × Listener)}
    (hpairs : ∀ pair ∈ pairs, pair.2 ∈ gw.listeners) :
    ∃ hosts, deriveVhostsFrom c gw route pairs = .ok hosts ∧
      ∀ text, text ∈ hosts ↔ ∃ pair ∈ pairs, parentRefAttachesToListener pair.1 pair.2 = true ∧
        Admits routeHosts (hostOf pair.2) ∧
        ∃ shared, Shared routeHosts (hostOf pair.2) shared ∧ shared ≠ .any ∧
          shared.text = text := by
  refine ⟨pairs.foldl (addAccepted route) [], foldlM_eq_ok ?_ [], fun text => ?_⟩
  · intro hosts pair hpair
    dsimp only
    rw [httpRouteAcceptedByListener_eq (hallows pair.2 (hpairs pair hpair))]
    unfold addAccepted
    cases parentRefAttachesToListener pair.1 pair.2 &&
      hostnamesIntersect pair.2.hostname route.hostnames <;> rfl
  rw [foldl_exists (text ∈ ·) (fun pair => (parentRefAttachesToListener pair.1 pair.2 &&
    hostnamesIntersect pair.2.hostname route.hostnames) = true ∧
      text ∈ listenerHosts route.hostnames pair.2 ∧ text ≠ "")]
  · simp only [List.not_mem_nil, false_or]
    refine exists_congr fun pair => and_congr_right fun hpair => ?_
    have hlistener := hlisteners pair.2 (hpairs pair hpair)
    rw [Bool.and_eq_true, hostnamesIntersect_iff hroute hlistener,
      mem_listenerHosts hroute hlistener, and_assoc]
  · intro hosts pair hpair
    unfold addAccepted
    split
    next haccepts =>
      rw [haccepts, mem_foldl_addHost
        (trimSpace_listenerHosts hroute hlisteners (hpairs pair hpair))]
      simp
    next hrejects => simp [hrejects]

end Derivation

/-! ## Plain hostnames -/

/-- Listeners and routes whose hostnames are either equal or one label apart, where the host is
left open everywhere or nowhere. -/
structure PlainHostnames (gw : Gateway) (targets : List ParentReference)
    (routeHosts : List Hostname) (hostOf : Listener → Hostname) : Prop where
  oneLabel : ∀ listener, Attached targets gw listener → hostOf listener ≠ .any →
    ∀ hostname ∈ routeHosts, (hostname.meet (hostOf listener)).isSome →
      ∃ other ∈ routeHosts, (hostOf listener).Pairs other
  attached : ∃ listener, Attached targets gw listener ∧
    ∃ shared, Shared routeHosts (hostOf listener) shared
  openAlike : ∀ listener, Attached targets gw listener → Shared routeHosts (hostOf listener) .any →
    ∀ other, Attached targets gw other → ∀ shared, Shared routeHosts (hostOf other) shared →
      shared = .any

theorem meet_isSome_of_pairs {left right : Hostname} (hpairs : left.Pairs right) :
    (right.meet left).isSome := by
  cases left with
  | any => cases right <;> simp [Hostname.meet]
  | wildcard parent =>
    cases right with
    | any => simp [Hostname.meet]
    | wildcard other => simp_all [Hostname.meet, Hostname.Pairs]
    | exact name =>
      obtain ⟨label, -, -, hname⟩ := hpairs
      have hunder : name.IsUnder parent := ⟨label, hname.symm⟩
      simp [Hostname.meet, hunder]
  | exact name =>
    cases right with
    | any => simp [Hostname.meet]
    | wildcard parent =>
      obtain ⟨label, -, -, hname⟩ := hpairs
      have hunder : name.IsUnder parent := ⟨label, hname.symm⟩
      simp [Hostname.meet, hunder]
    | exact other => simp_all [Hostname.meet, Hostname.Pairs]

theorem exists_shared_of_admits {routeHosts : List Hostname} {listenerHost : Hostname}
    (hadmits : Admits routeHosts listenerHost) :
    ∃ shared, Shared routeHosts listenerHost shared := by
  have hmeet : ∀ hostname ∈ routeHosts, (hostname.meet listenerHost).isSome →
      ∃ shared, Shared routeHosts listenerHost shared := by
    intro hostname hmem hsome
    obtain ⟨shared, hshared⟩ := Option.isSome_iff_exists.mp hsome
    exact ⟨shared, .inr ⟨hostname, hmem, hshared⟩⟩
  by_cases hnone : routeHosts = []
  · exact ⟨listenerHost, .inl ⟨hnone, rfl⟩⟩
  rcases hadmits with rfl | hnil | ⟨hostname, hmem, hpairs⟩
  · obtain ⟨hostname, hmem⟩ := List.exists_mem_of_ne_nil _ hnone
    exact hmeet hostname hmem (by cases hostname <;> simp [Hostname.meet])
  · exact absurd hnil hnone
  · exact hmeet hostname hmem (meet_isSome_of_pairs hpairs)

/-- The virtual hosts are right if and only if something is left over and the host is left open
everywhere or nowhere. -/
theorem forall_vhosts_iff {leftOver : Hostname → Prop}
    (hhosts : ∀ text, text ∈ hosts ↔ ∃ shared, leftOver shared ∧ shared ≠ .any ∧
      shared.text = text) :
    (∀ host, (hosts = [] ∨ ∃ hostname : Hostname, hostname.text ∈ hosts ∧ hostname.Matches host) ↔
      ∃ shared, leftOver shared ∧ shared.Matches host) ↔
      (∃ shared, leftOver shared) ∧
        (leftOver .any → ∀ shared, leftOver shared → shared = .any) := by
  have hproper : ∀ hostname : Hostname,
      hostname.text ∈ hosts ↔ leftOver hostname ∧ hostname ≠ .any := by
    intro hostname
    rw [hhosts]
    constructor
    · rintro ⟨shared, hshared, hne, htext⟩
      obtain rfl := Hostname.text_inj htext
      exact ⟨hshared, hne⟩
    · rintro ⟨hshared, hne⟩
      exact ⟨hostname, hshared, hne, rfl⟩
  have hnil : hosts = [] ↔ ∀ shared, leftOver shared → shared = .any := by
    constructor
    · intro hempty shared hshared
      by_contra hne
      have hmem := (hproper shared).mpr ⟨hshared, hne⟩
      rw [hempty] at hmem
      cases hmem
    · intro hany
      by_contra hne
      obtain ⟨text, hmem⟩ := List.exists_mem_of_ne_nil hosts hne
      obtain ⟨shared, hshared, hshared_ne, -⟩ := (hhosts text).mp hmem
      exact hshared_ne (hany shared hshared)
  constructor
  · intro hmatches
    by_cases hempty : hosts = []
    · obtain ⟨shared, hshared, -⟩ := (hmatches (Name.single 0)).mp (.inl hempty)
      exact ⟨⟨shared, hshared⟩, fun _ => hnil.mp hempty⟩
    · obtain ⟨text, hmem⟩ := List.exists_mem_of_ne_nil hosts hempty
      obtain ⟨shared, hshared, -, -⟩ := (hhosts text).mp hmem
      refine ⟨⟨shared, hshared⟩, fun hopen => ?_⟩
      -- an open host would be matched outside the virtual hosts
      obtain ⟨host, hunmatched⟩ := exists_unmatched hosts
      rcases (hmatches host).mpr ⟨.any, hopen, trivial⟩ with hcontra | ⟨hostname, htext, hmatch⟩
      · exact absurd hcontra hempty
      · exact absurd hmatch (hunmatched hostname htext ((hproper hostname).mp htext).2)
  · rintro ⟨⟨shared, hshared⟩, halike⟩ host
    constructor
    · rintro (hempty | ⟨hostname, htext, hmatch⟩)
      · obtain rfl := hnil.mp hempty shared hshared
        exact ⟨.any, hshared, trivial⟩
      · exact ⟨hostname, ((hproper hostname).mp htext).1, hmatch⟩
    · rintro ⟨hostname, hleft, hmatch⟩
      by_cases hany : hostname = .any
      · exact .inl (hnil.mpr (halike (hany ▸ hleft)))
      · exact .inr ⟨hostname, (hproper hostname).mpr ⟨hleft, hany⟩, hmatch⟩

section

variable (c : Client) (gw : Gateway) (route : HTTPRoute) (targets : List ParentReference)
  (routeHosts : List Hostname) (hostOf : Listener → Hostname)
  (hroute : route.hostnames = routeHosts.map Hostname.text)
  (hlisteners : ∀ listener ∈ gw.listeners, listener.hostname.getD "" = (hostOf listener).text)
  (hallows : ∀ listener ∈ gw.listeners, AllowsRoute c gw route listener)
include hroute hlisteners hallows

theorem accepts_iff_oneLabel :
    (∀ target ∈ targets, ∀ listener ∈ gw.listeners,
      parentRefAttachesToListener target listener = true →
        (httpRouteAcceptedByListener c gw route target listener = .ok true ↔
          ∃ host, (hostOf listener).Matches host ∧ RouteMatches routeHosts host)) ↔
      ∀ listener, Attached targets gw listener → ∀ shared,
        Shared routeHosts (hostOf listener) shared → Admits routeHosts (hostOf listener) := by
  constructor
  · rintro haccepts listener ⟨hlistener, target, htarget, hattaches⟩ shared hshared
    have hhost := (exists_host_iff routeHosts (hostOf listener)).mpr ⟨shared, hshared⟩
    exact ((accepted_iff hroute hlisteners hallows hlistener).mp
      ((haccepts target htarget listener hlistener hattaches).mpr hhost)).2
  · intro hadmits target htarget listener hlistener hattaches
    rw [accepted_iff hroute hlisteners hallows hlistener, exists_host_iff]
    refine ⟨fun h => exists_shared_of_admits h.2, ?_⟩
    rintro ⟨shared, hshared⟩
    exact ⟨hattaches, hadmits listener ⟨hlistener, target, htarget, hattaches⟩ shared hshared⟩

def LeftOver (gw : Gateway) (targets : List ParentReference) (routeHosts : List Hostname)
    (hostOf : Listener → Hostname) (shared : Hostname) : Prop :=
  ∃ listener, Attached targets gw listener ∧ Admits routeHosts (hostOf listener) ∧
    Shared routeHosts (hostOf listener) shared

theorem deriveVhosts_eq :
    ∃ hosts vhosts, deriveVhosts c (some gw) route targets = .ok vhosts ∧
      (∀ host, VhostsMatch vhosts host ↔ hosts = [] ∨
        ∃ hostname : Hostname, hostname.text ∈ hosts ∧ hostname.Matches host) ∧
      ∀ text, text ∈ hosts ↔ ∃ shared, LeftOver gw targets routeHosts hostOf shared ∧
        shared ≠ .any ∧ shared.text = text := by
  have hpairs : ∀ pair ∈ targets.flatMap fun target => gw.listeners.map fun listener =>
      (target, listener), pair.2 ∈ gw.listeners := by
    intro pair hmem
    obtain ⟨target, -, hpair⟩ := List.mem_flatMap.mp hmem
    obtain ⟨listener, hlistener, rfl⟩ := List.mem_map.mp hpair
    exact hlistener
  obtain ⟨hosts, hrun, hmem⟩ := mem_deriveVhostsFrom hroute hlisteners hallows hpairs
  have hhosts : ∀ text, text ∈ hosts ↔ ∃ shared, LeftOver gw targets routeHosts hostOf shared ∧
      shared ≠ .any ∧ shared.text = text := by
    intro text
    rw [hmem]
    constructor
    · rintro ⟨⟨target, listener⟩, hpair, hattaches, hadmits, shared, hshared, hne, htext⟩
      obtain ⟨_, htarget, hmap⟩ := List.mem_flatMap.mp hpair
      obtain ⟨_, hlistener, heq⟩ := List.mem_map.mp hmap
      cases heq
      exact ⟨shared, ⟨listener, ⟨hlistener, target, htarget, hattaches⟩, hadmits, hshared⟩, hne,
        htext⟩
    · rintro ⟨shared, ⟨listener, ⟨hlistener, target, htarget, hattaches⟩, hadmits, hshared⟩, hne,
        htext⟩
      exact ⟨(target, listener), List.mem_flatMap.mpr ⟨target, htarget,
        List.mem_map.mpr ⟨listener, hlistener, rfl⟩⟩, hattaches, hadmits, shared, hshared, hne,
        htext⟩
  unfold deriveVhosts
  dsimp only
  rw [hrun]
  cases hosts with
  | nil => exact ⟨[], ("", []), rfl, fun host => by simp [VhostsMatch], hhosts⟩
  | cons main additional =>
    refine ⟨main :: additional, (main, additional), rfl, fun host => ?_, hhosts⟩
    obtain ⟨shared, -, hne, hmain⟩ := (hhosts main).mp List.mem_cons_self
    have hmain : main ≠ "" := fun hempty => hne (Hostname.text_eq_empty.mp (hmain.trans hempty))
    simp [VhostsMatch, hmain]

/-- Listeners accept, and virtual hosts cover, what the hostnames say, if and only if the
hostnames are plain. -/
theorem hostnames_respected_iff :
    ((∀ target ∈ targets, ∀ listener ∈ gw.listeners,
      parentRefAttachesToListener target listener = true →
        (httpRouteAcceptedByListener c gw route target listener = .ok true ↔
          ∃ host, (hostOf listener).Matches host ∧ RouteMatches routeHosts host)) ∧
      ∃ vhosts, deriveVhosts c (some gw) route targets = .ok vhosts ∧
        ∀ host, VhostsMatch vhosts host ↔ ∃ target ∈ targets, ∃ listener ∈ gw.listeners,
          httpRouteAcceptedByListener c gw route target listener = .ok true ∧
            (hostOf listener).Matches host ∧ RouteMatches routeHosts host) ↔
      PlainHostnames gw targets routeHosts hostOf := by
  rw [accepts_iff_oneLabel c gw route targets routeHosts hostOf hroute hlisteners hallows]
  obtain ⟨hosts, vhosts, hderive, hvhosts, hhosts⟩ :=
    deriveVhosts_eq c gw route targets routeHosts hostOf hroute hlisteners hallows
  have hexpected : ∀ host, (∃ target ∈ targets, ∃ listener ∈ gw.listeners,
      httpRouteAcceptedByListener c gw route target listener = .ok true ∧
        (hostOf listener).Matches host ∧ RouteMatches routeHosts host) ↔
      ∃ shared, LeftOver gw targets routeHosts hostOf shared ∧ shared.Matches host := by
    intro host
    constructor
    · rintro ⟨target, htarget, listener, hlistener, haccepted, hmatches⟩
      obtain ⟨hattaches, hadmits⟩ := (accepted_iff hroute hlisteners hallows hlistener).mp haccepted
      obtain ⟨shared, hshared, hmatch⟩ :=
        (exists_shared_matches_iff routeHosts (hostOf listener) host).mpr hmatches
      exact ⟨shared, ⟨listener, ⟨hlistener, target, htarget, hattaches⟩, hadmits, hshared⟩, hmatch⟩
    · rintro ⟨shared, ⟨listener, ⟨hlistener, target, htarget, hattaches⟩, hadmits, hshared⟩, hmatch⟩
      exact ⟨target, htarget, listener, hlistener,
        (accepted_iff hroute hlisteners hallows hlistener).mpr ⟨hattaches, hadmits⟩,
        (exists_shared_matches_iff routeHosts (hostOf listener) host).mp ⟨shared, hshared, hmatch⟩⟩
  constructor
  · rintro ⟨hadmits, derived, hderived, hmatch⟩
    obtain rfl : derived = vhosts := Except.ok.inj (hderived.symm.trans hderive)
    obtain ⟨⟨shared, listener, hattached, -, hshared⟩, halike⟩ := (forall_vhosts_iff hhosts).mp
      fun host => (hvhosts host).symm.trans ((hmatch host).trans (hexpected host))
    refine ⟨?_, ⟨listener, hattached, shared, hshared⟩, ?_⟩
    · intro other hother hne hostname hmem hsome
      obtain ⟨left, hleft⟩ := Option.isSome_iff_exists.mp hsome
      rcases hadmits other hother left (.inr ⟨hostname, hmem, hleft⟩) with hany | hnone | hpairs
      · exact absurd hany hne
      · exact absurd hmem (hnone ▸ List.not_mem_nil)
      · exact hpairs
    · intro first hfirst hopen other hother left hleft
      exact halike ⟨first, hfirst, hadmits first hfirst .any hopen, hopen⟩ left
        ⟨other, hother, hadmits other hother left hleft, hleft⟩
  · intro hplain
    have hadmits : ∀ listener, Attached targets gw listener → ∀ shared,
        Shared routeHosts (hostOf listener) shared → Admits routeHosts (hostOf listener) := by
      rintro listener hattached shared (⟨hnone, -⟩ | ⟨hostname, hmem, hmeet⟩)
      · exact .inr (.inl hnone)
      by_cases hany : hostOf listener = .any
      · exact .inl hany
      · exact .inr (.inr (hplain.oneLabel listener hattached hany hostname hmem
          (Option.isSome_of_eq_some hmeet)))
    refine ⟨hadmits, vhosts, hderive, fun host => ?_⟩
    rw [hvhosts, hexpected]
    refine (forall_vhosts_iff hhosts).mpr ⟨?_, ?_⟩ host
    · obtain ⟨listener, hattached, shared, hshared⟩ := hplain.attached
      exact ⟨shared, listener, hattached, hadmits listener hattached shared hshared, hshared⟩
    · rintro ⟨first, hfirst, -, hopen⟩ shared ⟨other, hother, -, hshared⟩
      exact hplain.openAlike first hfirst hopen other hother shared hshared

end

/-! ## One gateway -/

def exampleCom : Name :=
  (Name.ofLabel "com".toList (by decide +kernel) (by decide +kernel)).below "example".toList
    (by decide +kernel) (by decide +kernel)

def shopName : Name :=
  exampleCom.below "shop".toList (by decide +kernel) (by decide +kernel)

def euShopName : Name :=
  shopName.below "eu".toList (by decide +kernel) (by decide +kernel)

def wildcardListener : Listener where
  name := "http"
  hostname := some "*.example.com"
  port := 80
  allowedRoutes := none

def wildcardGateway : Gateway where
  ns := "default"
  listeners := [wildcardListener]

def routeFor (hostname : Name) : HTTPRoute where
  name := "route"
  ns := "default"
  annotations := ∅
  hostnames := [(Hostname.exact hostname).text]
  rules := []

def emptyCluster : Client where
  listNamespaces := .ok []
  listReferenceGrants := fun _ => .ok []
  getService := fun _ _ => .ok none

def wholeGateway : ParentReference where
  sectionName := none
  port := none

/-- A name one label below the wildcard. -/
theorem shop_served :
    ∃ vhosts, deriveVhosts emptyCluster (some wildcardGateway) (routeFor shopName)
        [wholeGateway] = .ok vhosts ∧
      ∀ host, VhostsMatch vhosts host ↔ ∃ target ∈ [wholeGateway],
        ∃ listener ∈ wildcardGateway.listeners,
          httpRouteAcceptedByListener emptyCluster wildcardGateway (routeFor shopName) target
            listener = .ok true ∧
            (Hostname.wildcard exampleCom).Matches host ∧
              RouteMatches [.exact shopName] host := by
  have hmeet : Hostname.meet (.exact shopName) (.wildcard exampleCom) = some (.exact shopName) := by
    decide +kernel
  have hpairs : (Hostname.wildcard exampleCom).Pairs (.exact shopName) :=
    ⟨"shop".toList, by decide, by decide, by decide +kernel⟩
  have hshared : Shared [.exact shopName] (.wildcard exampleCom) (.exact shopName) :=
    .inr ⟨_, List.mem_cons_self, hmeet⟩
  refine ((hostnames_respected_iff emptyCluster wildcardGateway (routeFor shopName) [wholeGateway]
    [.exact shopName] (fun _ => .wildcard exampleCom) rfl ?_ ?_).mpr ⟨?_, ?_, ?_⟩).2
  · decide +kernel
  · exact List.forall_mem_singleton.mpr ⟨rfl, ["default"], rfl, by decide⟩
  · exact fun _ _ _ _ _ _ => ⟨_, List.mem_cons_self, hpairs⟩
  · exact ⟨wildcardListener, ⟨List.mem_cons_self, wholeGateway, List.mem_cons_self, rfl⟩, _,
      hshared⟩
  · rintro _ _ (⟨hnil, -⟩ | ⟨hostname, hmem, hany⟩)
    · cases hnil
    · obtain rfl := List.mem_singleton.mp hmem
      cases hany

/-- A name two labels below the wildcard is not accepted although the listener matches it, and
the virtual hosts then match every host. -/
theorem eu_shop_rejected :
    httpRouteAcceptedByListener emptyCluster wildcardGateway (routeFor euShopName) wholeGateway
        wildcardListener = .ok false ∧
      (Hostname.wildcard exampleCom).Matches euShopName ∧
      RouteMatches [.exact euShopName] euShopName ∧
      deriveVhosts emptyCluster (some wildcardGateway) (routeFor euShopName) [wholeGateway] =
        .ok ("", []) ∧
      VhostsMatch ("", []) exampleCom := by
  refine ⟨by decide +kernel, ?_, .inr ⟨_, List.mem_cons_self, rfl⟩, by decide +kernel, .inl rfl⟩
  exact ⟨"eu.shop".toList, by decide, by decide +kernel⟩

end ApiPlatform.Operator
