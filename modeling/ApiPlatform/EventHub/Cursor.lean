import ApiPlatform.EventHub.Hub
import ApiPlatform.Foundation.Selection

/-!
# The cursor of the poller

What a step of the event hub can do, and what holds in every state: the
versions of open transactions are fresh, and the poller's cursor has only moved
over rows that exist.
-/

namespace ApiPlatform.EventHub

open Foundation

variable {channel : Nat} {subscribers : List Channel} {rows : List Event} {latest : Option Instant}
  {deliveryBlocked : Bool}

variable {draws index lastPolledTime : Nat} {version : String} {poll : Poll} {action : Action}

/-! ## Versions -/

def Poll.version? : Poll → Option String
  | .idle => none
  | .read version => some version
  | .looked version _ _ => some version
  | .fetched version _ _ => some version
  | .delivering version _ _ _ => some version
  | .delivered version _ _ _ => some version

def Hub.Holds (hub : Hub) (version : String) : Prop :=
  version = hub.gateway.knownVersion ∨ hub.versionID = some version ∨
    hub.poll.version? = some version

def UUIDs.Drawn (uuids : UUIDs) (draws : Nat) (version : String) : Prop :=
  ∃ index < draws, version = uuids.draw index

theorem UUIDs.Drawn.mono {uuids : UUIDs} {later : Nat} (hdrawn : uuids.Drawn draws version)
    (hle : draws ≤ later) : uuids.Drawn later version := by
  obtain ⟨index, hindex, rfl⟩ := hdrawn
  exact ⟨index, hindex.trans_le hle, rfl⟩

theorem UUIDs.Drawn.ne_empty {uuids : UUIDs} (hdrawn : uuids.Drawn draws version) :
    version ≠ "" := by
  obtain ⟨index, -, rfl⟩ := hdrawn
  exact uuids.nonempty index

theorem UUIDs.Drawn.ne_draw {uuids : UUIDs} (hdrawn : uuids.Drawn draws version) :
    uuids.draw draws ≠ version := by
  obtain ⟨index, hindex, rfl⟩ := hdrawn
  intro heq
  exact absurd (uuids.injective heq) (Nat.ne_of_gt hindex)

/-- The versions of the open transactions differ from each other and from those in use. -/
structure FreshVersions (uuids : UUIDs) (hub : Hub) : Prop where
  drawn : ∀ publication ∈ hub.publishers, uuids.Drawn hub.draws publication.newVersion
  distinct : hub.publishers.Pairwise fun first second => first.newVersion ≠ second.newVersion
  held : ∀ version, hub.Holds version → (version = "" ∨ uuids.Drawn hub.draws version) ∧
    ∀ publication ∈ hub.publishers, publication.newVersion ≠ version

theorem FreshVersions.of_holds {uuids : UUIDs} {hub next : Hub} (hfresh : FreshVersions uuids hub)
    (hpublishers : next.publishers.Sublist hub.publishers) (hdraws : next.draws = hub.draws)
    (hholds : ∀ version, next.Holds version → version = "" ∨ hub.Holds version) :
    FreshVersions uuids next := by
  refine ⟨?_, hfresh.distinct.sublist hpublishers, ?_⟩
  · intro publication hmem
    rw [hdraws]
    exact hfresh.drawn publication (hpublishers.subset hmem)
  · intro version hversion
    rw [hdraws]
    rcases hholds version hversion with rfl | hold
    · exact ⟨.inl rfl, fun publication hmem =>
        (hfresh.drawn publication (hpublishers.subset hmem)).ne_empty⟩
    · obtain ⟨hdrawn, hne⟩ := hfresh.held version hold
      exact ⟨hdrawn, fun publication hmem => hne publication (hpublishers.subset hmem)⟩

theorem FreshVersions.publish {uuids : UUIDs} {hub : Hub} (hfresh : FreshVersions uuids hub)
    (gatewayID : String) (event : Event) (now : Instant) :
    FreshVersions uuids (hub.publish uuids gatewayID event now) := by
  have hlater : hub.draws ≤ hub.draws + 2 := Nat.le_add_right _ _
  refine ⟨?_, ?_, ?_⟩
  · intro publication hmem
    rcases List.mem_append.mp hmem with hold | hnew
    · exact (hfresh.drawn publication hold).mono hlater
    · obtain rfl := List.mem_singleton.mp hnew
      exact ⟨hub.draws, Nat.lt_add_of_pos_right (by decide), rfl⟩
  · refine List.pairwise_append.mpr ⟨hfresh.distinct, List.pairwise_singleton _ _, ?_⟩
    intro first hfirst second hsecond
    obtain rfl := List.mem_singleton.mp hsecond
    exact (hfresh.drawn first hfirst).ne_draw.symm
  · intro version hversion
    obtain ⟨hdrawn, hne⟩ := hfresh.held version hversion
    refine ⟨hdrawn.imp_right fun h => h.mono hlater, ?_⟩
    intro publication hmem
    rcases List.mem_append.mp hmem with hold | hnew
    · exact hne publication hold
    · obtain rfl := List.mem_singleton.mp hnew
      rcases hdrawn with rfl | hdrawn
      · exact uuids.nonempty _
      · exact hdrawn.ne_draw

def Hub.withRow (hub : Hub) (index : Nat) (publication : Publication) : Hub :=
  { hub with
    publishers := hub.publishers.eraseIdx index
    events := hub.events ++ [publication.row]
    gatewayStates := hub.gatewayStates.insert publication.row.gatewayID publication.newVersion }

theorem commit_some {hub next : Hub} (hcommit : hub.commit index = some next) :
    ∃ publication, hub.publishers[index]? = some publication ∧
      (next = { hub with publishers := hub.publishers.eraseIdx index } ∨
        hub.eventExists publication.row.gatewayID publication.row.eventID = false ∧
          next = hub.withRow index publication) := by
  obtain ⟨publication, hpublication, hnext⟩ := Option.map_eq_some_iff.mp hcommit
  refine ⟨publication, hpublication, ?_⟩
  split at hnext
  · exact .inl hnext.symm
  next hnew =>
    exact .inr ⟨Bool.eq_false_iff.mpr hnew, hnext.symm⟩

theorem versionID_withRow (hub : Hub) (index : Nat) (publication : Publication) :
    (hub.withRow index publication).versionID =
      if publication.row.gatewayID = hub.gateway.id then some publication.newVersion
      else hub.versionID := by
  simp only [Hub.versionID, Hub.withRow, lookup_insert_eq, eq_comm]

theorem FreshVersions.withRow {uuids : UUIDs} {hub : Hub} {publication : Publication}
    (hfresh : FreshVersions uuids hub) (hpublication : hub.publishers[index]? = some publication) :
    FreshVersions uuids (hub.withRow index publication) := by
  have hsublist : (hub.publishers.eraseIdx index).Sublist hub.publishers :=
    List.eraseIdx_sublist _ _
  refine ⟨fun other hother => hfresh.drawn other (hsublist.subset hother),
    hfresh.distinct.sublist hsublist, ?_⟩
  intro version hversion
  have hcases : version = publication.newVersion ∨ hub.Holds version := by
    rcases hversion with hknown | hstored | hpoll
    · exact .inr (.inl hknown)
    · rw [versionID_withRow] at hstored
      split at hstored
      · exact .inl (Option.some.inj hstored).symm
      · exact .inr (.inr (.inl hstored))
    · exact .inr (.inr (.inr hpoll))
  rcases hcases with rfl | hold
  · exact ⟨.inr (hfresh.drawn publication (List.mem_of_getElem? hpublication)),
      label_ne_of_mem_eraseIdx hfresh.distinct hpublication⟩
  · obtain ⟨hdrawn, hne⟩ := hfresh.held version hold
    exact ⟨hdrawn, fun other hother => hne other (hsublist.subset hother)⟩

/-! ## The cursor -/

def Hub.Reaches (hub : Hub) (cursor : Nat) : Prop :=
  ∃ event ∈ hub.events, event.gatewayID = hub.gateway.id ∧
    cursor ≤ event.processedTimestamp.unixNano

structure Batch (hub : Hub) (lastPolledTime : Nat) (events : List Event) : Prop where
  inTimeOrder : InTimeOrder events
  stored : ∀ event ∈ events, event ∈ hub.events ∧ event.gatewayID = hub.gateway.id ∧
    lastPolledTime ≤ event.processedTimestamp.unixNano

def CursorSound (hub : Hub) : Poll → Prop
  | .idle => True
  | .read _ => True
  | .looked _ lastPolledTime resuming => unixNanosThreshold ≤ lastPolledTime ∧
      (resuming = true → lastPolledTime = hub.gateway.lastPolled)
  | .fetched _ lastPolledTime events => unixNanosThreshold ≤ lastPolledTime ∧
      Batch hub lastPolledTime events
  | .delivering _ lastPolledTime events latest => unixNanosThreshold ≤ lastPolledTime ∧
      Batch hub lastPolledTime events ∧ ∀ timestamp ∈ latest, hub.Reaches timestamp.unixNano
  | .delivered _ lastPolledTime latest deliveryBlocked => unixNanosThreshold ≤ lastPolledTime ∧
      (∀ timestamp ∈ latest, hub.Reaches timestamp.unixNano) ∧
      (deliveryBlocked = true → hub.Reaches lastPolledTime)

structure Sound (uuids : UUIDs) (hub : Hub) : Prop where
  versions : FreshVersions uuids hub
  lastPolled : hub.gateway.lastPolled = 0 ∨
    unixNanosThreshold ≤ hub.gateway.lastPolled ∧ hub.Reaches hub.gateway.lastPolled
  poll : CursorSound hub hub.poll

theorem sound_registered (uuids : UUIDs) (gatewayID : String) :
    Sound uuids (Hub.registered gatewayID) := by
  refine ⟨⟨?_, ?_, ?_⟩, .inl rfl, trivial⟩
  · intro publication hmem
    cases hmem
  · exact .nil
  · intro version hversion
    refine ⟨?_, fun publication hmem => by cases hmem⟩
    rcases hversion with hknown | hstored | hpoll
    · exact .inl hknown
    · rw [Hub.versionID, Hub.registered, AList.lookup_insert] at hstored
      exact .inl (Option.some.inj hstored).symm
    · cases hpoll

section Growth

variable {hub next : Hub} (hevents : ∀ event ∈ hub.events, event ∈ next.events)
  (hid : next.gateway.id = hub.gateway.id)
include hevents hid

theorem Hub.Reaches.grow {cursor : Nat} (hreaches : hub.Reaches cursor) : next.Reaches cursor := by
  obtain ⟨event, hmem, hgateway, hle⟩ := hreaches
  exact ⟨event, hevents event hmem, hgateway.trans hid.symm, hle⟩

theorem Batch.grow {events : List Event} (hbatch : Batch hub lastPolledTime events) :
    Batch next lastPolledTime events := by
  refine ⟨hbatch.inTimeOrder, fun event hmem => ?_⟩
  obtain ⟨hstored, hgateway, hle⟩ := hbatch.stored event hmem
  exact ⟨hevents event hstored, hgateway.trans hid.symm, hle⟩

theorem CursorSound.grow (hlast : next.gateway.lastPolled = hub.gateway.lastPolled)
    (hsound : CursorSound hub poll) : CursorSound next poll := by
  cases poll with
  | idle | read version => trivial
  | looked version lastPolledTime resuming =>
    exact ⟨hsound.1, fun hresuming => (hsound.2 hresuming).trans hlast.symm⟩
  | fetched version lastPolledTime events => exact ⟨hsound.1, hsound.2.grow hevents hid⟩
  | delivering version lastPolledTime events latest =>
    exact ⟨hsound.1, hsound.2.1.grow hevents hid,
      fun timestamp hmem => (hsound.2.2 timestamp hmem).grow hevents hid⟩
  | delivered version lastPolledTime latest deliveryBlocked =>
    exact ⟨hsound.1, fun timestamp hmem => (hsound.2.1 timestamp hmem).grow hevents hid,
      fun hblocked => (hsound.2.2 hblocked).grow hevents hid⟩

end Growth

/-! ## Subscriptions -/

def Action.Keeps (channel : Nat) : Action → Prop
  | .unsubscribe other => other ≠ channel
  | .unsubscribeAll => False
  | _ => True

structure Channel.Continues (earlier later : Channel) : Prop where
  id : later.id = earlier.id
  events : ∀ event ∈ earlier.consumed ++ earlier.buffer, event ∈ later.consumed ++ later.buffer

theorem Channel.Continues.refl (channel : Channel) : channel.Continues channel :=
  ⟨rfl, fun _ hmem => hmem⟩

theorem Channel.Continues.send (channel : Channel) (event : Event) :
    channel.Continues (channel.send event) := by
  refine ⟨rfl, fun other hmem => ?_⟩
  rw [Channel.send, ← List.append_assoc]
  exact List.mem_append_left _ hmem

theorem Channel.Continues.consume (channel : Channel) : channel.Continues channel.consume := by
  unfold Channel.consume
  split
  · exact .refl channel
  next event rest hbuffer =>
    refine ⟨rfl, fun other hmem => ?_⟩
    rw [hbuffer] at hmem
    simpa using hmem

theorem mem_removeSubscriber {remaining : List Channel} {subscriber : Channel}
    (hremove : removeSubscriber channel subscribers = some remaining)
    (hmem : subscriber ∈ subscribers) (hne : subscriber.id ≠ channel) : subscriber ∈ remaining := by
  unfold removeSubscriber at hremove
  split at hremove
  next index last hindex hlast =>
    obtain rfl := Option.some.inj hremove
    obtain ⟨hlt, hremoved, -⟩ := List.findIdx?_eq_some_iff_getElem.mp hindex
    refine mem_dropLast_set hlast (List.getElem?_eq_getElem hlt) hmem ?_
    rintro rfl
    exact hne (of_decide_eq_true hremoved)
  · cases hremove

/-! ## What a step can do -/

structure Quiet (hub next : Hub) : Prop where
  events : next.events = hub.events
  gatewayStates : next.gatewayStates = hub.gatewayStates
  poll : next.poll = hub.poll
  id : next.gateway.id = hub.gateway.id
  lastPolled : next.gateway.lastPolled = hub.gateway.lastPolled
  knownVersion : next.gateway.knownVersion = hub.gateway.knownVersion ∨
    next.gateway.knownVersion = "" ∧ next.gateway.subscribers = []

inductive HubStep (uuids : UUIDs) (hub : Hub) : Action → Hub → Prop where
  | publish (gatewayID : String) (event : Event) (now : Instant) :
      HubStep uuids hub (.publish gatewayID event now) (hub.publish uuids gatewayID event now)
  | quiet {action : Action} {next : Hub} (hquiet : Quiet hub next)
      (hsubscribers : ∀ subscriber ∈ hub.gateway.subscribers, action.Keeps subscriber.id →
        ∃ later ∈ next.gateway.subscribers, subscriber.Continues later)
      (hpublishers : next.publishers.Sublist hub.publishers) (hdraws : next.draws = hub.draws) :
      HubStep uuids hub action next
  | commit {index : Nat} {publication : Publication}
      (hpublication : hub.publishers[index]? = some publication)
      (hnew : hub.eventExists publication.row.gatewayID publication.row.eventID = false) :
      HubStep uuids hub (.commit index) (hub.withRow index publication)
  | readState {version : String} (hversion : hub.versionID = some version) :
      HubStep uuids hub .readState { hub with poll := .read version }
  | giveUp {action : Action} : HubStep uuids hub action { hub with poll := .idle }
  | resume {version : String} {now : Instant} (hpoll : hub.poll = .read version)
      (hlast : 0 < hub.gateway.lastPolled) :
      HubStep uuids hub (.look now)
        { hub with poll := .looked version (unixTimestampToTime hub.gateway.lastPolled) true }
  | first {version : String} {now : Instant} (hpoll : hub.poll = .read version) :
      HubStep uuids hub (.look now)
        { hub with poll := .looked version (now.unixNano - initialPollSkewWindow) false }
  | query {version : String} {lastPolledTime : Nat} {resuming : Bool} {rows : List Event}
      (hpoll : hub.poll = .looked version lastPolledTime resuming)
      (hperm : rows.Perm (hub.selected lastPolledTime)) (horder : InTimeOrder rows) :
      HubStep uuids hub (.query rows)
        { hub with
          poll := .fetched version lastPolledTime
            (trimSingleBoundaryReplay rows lastPolledTime resuming) }
  | startDelivery {version : String} {lastPolledTime : Nat} {events : List Event}
      (hpoll : hub.poll = .fetched version lastPolledTime events) :
      HubStep uuids hub .startDelivery
        { hub with poll := .delivering version lastPolledTime events none }
  | finish {version : String} {lastPolledTime : Nat} {latest : Option Instant}
      (hpoll : hub.poll = .delivering version lastPolledTime [] latest) :
      HubStep uuids hub .deliver
        { hub with poll := .delivered version lastPolledTime latest false }
  | send {version : String} {lastPolledTime : Nat} {event : Event} {rest : List Event}
      {latest : Option Instant}
      (hpoll : hub.poll = .delivering version lastPolledTime (event :: rest) latest) :
      HubStep uuids hub .deliver
        { hub with
          gateway := { hub.gateway with
            subscribers := hub.gateway.subscribers.map (·.send event) }
          poll := .delivering version lastPolledTime rest (some event.processedTimestamp) }
  | block {version : String} {lastPolledTime : Nat} {event : Event} {rest : List Event}
      {latest : Option Instant}
      (hpoll : hub.poll = .delivering version lastPolledTime (event :: rest) latest) :
      HubStep uuids hub .deliver
        { hub with poll := .delivered version lastPolledTime latest true }
  | update {version : String} {lastPolledTime : Nat} {latest : Option Instant}
      {deliveryBlocked : Bool}
      (hpoll : hub.poll = .delivered version lastPolledTime latest deliveryBlocked) :
      HubStep uuids hub .update
        { hub with
          gateway := hub.gateway.afterPoll version lastPolledTime latest deliveryBlocked
          poll := .idle }

section Inversion

variable {uuids : UUIDs} {hub next : Hub}

theorem look_cases {now : Instant} (hstep : hub.look now = some next) :
    HubStep uuids hub (.look now) next := by
  unfold Hub.look at hstep
  split at hstep
  next version hpoll =>
    split at hstep
    · cases hstep
      exact .giveUp
    split at hstep
    · cases hstep
      exact .giveUp
    split at hstep
    next hlast =>
      cases hstep
      exact .resume hpoll hlast
    · cases hstep
      exact .first hpoll
  · cases hstep

theorem deliver_cases (hstep : hub.deliver = some next) : HubStep uuids hub .deliver next := by
  unfold Hub.deliver at hstep
  split at hstep
  next version lastPolledTime latest hpoll =>
    cases hstep
    exact .finish hpoll
  next version lastPolledTime event rest latest hpoll =>
    split at hstep
    · cases hstep
      exact .send hpoll
    · cases hstep
      exact .block hpoll
  · cases hstep

theorem readState_cases (hstep : hub.readState = some next) :
    HubStep uuids hub .readState next := by
  unfold Hub.readState at hstep
  split at hstep
  next version _ hversion =>
    cases hstep
    exact .readState hversion
  · cases hstep

theorem query_cases (hstep : hub.query rows = some next) :
    HubStep uuids hub (.query rows) next := by
  unfold Hub.query at hstep
  split at hstep
  next version lastPolledTime resuming hpoll =>
    split at hstep
    next hrows =>
      cases hstep
      exact .query hpoll hrows.1 hrows.2
    · cases hstep
  · cases hstep

theorem queryFails_cases (hstep : hub.queryFails = some next) :
    HubStep uuids hub .queryFails next := by
  unfold Hub.queryFails at hstep
  split at hstep
  · cases hstep
    exact .giveUp
  · cases hstep

theorem startDelivery_cases (hstep : hub.startDelivery = some next) :
    HubStep uuids hub .startDelivery next := by
  unfold Hub.startDelivery at hstep
  split at hstep
  next version lastPolledTime events hpoll =>
    cases hstep
    exact .startDelivery hpoll
  · cases hstep

theorem update_cases (hstep : hub.update = some next) : HubStep uuids hub .update next := by
  unfold Hub.update at hstep
  split at hstep
  next version lastPolledTime latest deliveryBlocked hpoll =>
    cases hstep
    exact .update hpoll
  · cases hstep

theorem unsubscribe_some (hstep : hub.unsubscribe channel = some next) :
    ∃ subscribers, removeSubscriber channel hub.gateway.subscribers = some subscribers ∧
      next = { hub with
        gateway := { hub.gateway with
          subscribers := subscribers
          knownVersion := if subscribers = [] then "" else hub.gateway.knownVersion } } := by
  unfold Hub.unsubscribe at hstep
  split at hstep
  next subscribers _ hremoved => exact ⟨subscribers, hremoved, (Option.some.inj hstep).symm⟩
  · cases hstep

theorem quiet_publishers :
    HubStep uuids hub action { hub with publishers := hub.publishers.eraseIdx index } :=
  .quiet ⟨rfl, rfl, rfl, rfl, rfl, .inl rfl⟩
    (fun subscriber hmem _ => ⟨subscriber, hmem, .refl subscriber⟩) (List.eraseIdx_sublist _ _) rfl

theorem quiet_subscribers {knownVersion : String} {channels : Nat}
    (hknown : knownVersion = hub.gateway.knownVersion ∨ knownVersion = "" ∧ subscribers = [])
    (hsubscribers : ∀ subscriber ∈ hub.gateway.subscribers, action.Keeps subscriber.id →
      ∃ later ∈ subscribers, subscriber.Continues later) :
    HubStep uuids hub action
      { hub with
        gateway := { hub.gateway with subscribers := subscribers, knownVersion := knownVersion }
        channels := channels } :=
  .quiet ⟨rfl, rfl, rfl, rfl, rfl, hknown⟩ hsubscribers (List.Sublist.refl _) rfl

theorem step_cases (hstep : hub.step uuids action = some next) : HubStep uuids hub action next := by
  cases action with
  | publish gatewayID event now =>
    cases hstep
    exact .publish gatewayID event now
  | commit index =>
    obtain ⟨publication, hpublication, rfl | ⟨hnew, rfl⟩⟩ := commit_some hstep
    · exact quiet_publishers
    · exact .commit hpublication hnew
  | rollback index =>
    obtain ⟨publication, -, rfl⟩ := Option.map_eq_some_iff.mp hstep
    exact quiet_publishers
  | readState => exact readState_cases hstep
  | look now => exact look_cases hstep
  | query rows => exact query_cases hstep
  | queryFails => exact queryFails_cases hstep
  | startDelivery => exact startDelivery_cases hstep
  | deliver => exact deliver_cases hstep
  | update => exact update_cases hstep
  | subscribe =>
    obtain ⟨-, hnext⟩ := Option.ite_none_right_eq_some.mp hstep
    cases hnext
    exact quiet_subscribers (.inl rfl) fun subscriber hmem _ =>
      ⟨subscriber, List.mem_append_left _ hmem, .refl subscriber⟩
  | unsubscribe channel =>
    obtain ⟨subscribers, hremove, rfl⟩ := unsubscribe_some hstep
    refine quiet_subscribers ?_ fun subscriber hmem hkeeps =>
      ⟨subscriber, mem_removeSubscriber hremove hmem (Ne.symm hkeeps), .refl subscriber⟩
    split
    next hempty => exact .inr ⟨rfl, hempty⟩
    · exact .inl rfl
  | unsubscribeAll =>
    obtain ⟨-, hnext⟩ := Option.ite_none_right_eq_some.mp hstep
    cases hnext
    exact quiet_subscribers (.inr ⟨rfl, rfl⟩) fun subscriber _ hkeeps => hkeeps.elim
  | consume channel =>
    cases hstep
    refine quiet_subscribers (.inl rfl) fun subscriber hmem _ =>
      ⟨_, List.mem_map_of_mem hmem, ?_⟩
    split
    · exact .consume subscriber
    · exact .refl subscriber

end Inversion

/-! ## Every step keeps the hub sound -/

theorem trimSingleBoundaryReplay_sublist (events : List Event) (boundary : Nat) (enabled : Bool) :
    (trimSingleBoundaryReplay events boundary enabled).Sublist events := by
  unfold trimSingleBoundaryReplay
  split
  · exact List.Sublist.refl _
  · exact List.Sublist.refl _
  split
  · exact List.Sublist.refl _
  split
  · exact List.nil_sublist _
  split
  · exact List.sublist_cons_self _ _
  · exact List.Sublist.refl _

theorem Instant.threshold_le (now : Instant) : unixNanosThreshold ≤ now.unixNano :=
  (Nat.le_add_right _ _).trans now.modern

section Soundness

variable {uuids : UUIDs} {hub next : Hub}

theorem FreshVersions.withPoll (hfresh : FreshVersions uuids hub)
    (hheld : ∀ version, poll.version? = some version → hub.Holds version) :
    FreshVersions uuids { hub with poll := poll } := by
  refine hfresh.of_holds (List.Sublist.refl _) rfl fun version hversion => .inr ?_
  rcases hversion with hknown | hstored | hpoll
  · exact .inl hknown
  · exact .inr (.inl hstored)
  · exact hheld version hpoll

theorem FreshVersions.advance (hfresh : FreshVersions uuids hub)
    (hsame : poll.version? = hub.poll.version?) : FreshVersions uuids { hub with poll := poll } :=
  hfresh.withPoll fun _ hversion => .inr (.inr (hsame ▸ hversion))

theorem Sound.frame (hsound : Sound uuids hub) (hversions : FreshVersions uuids next)
    (hevents : ∀ event ∈ hub.events, event ∈ next.events) (hid : next.gateway.id = hub.gateway.id)
    (hlast : next.gateway.lastPolled = hub.gateway.lastPolled) (hpoll : CursorSound hub next.poll) :
    Sound uuids next := by
  refine ⟨hversions, ?_, hpoll.grow hevents hid hlast⟩
  rw [hlast]
  exact hsound.lastPolled.imp_right fun h => ⟨h.1, h.2.grow hevents hid⟩

theorem Sound.withPoll (hsound : Sound uuids hub)
    (hversions : FreshVersions uuids { hub with poll := poll }) (hpoll : CursorSound hub poll) :
    Sound uuids { hub with poll := poll } :=
  hsound.frame hversions (fun _ hmem => hmem) rfl rfl hpoll

theorem CursorSound.of_eq (hsound : Sound uuids hub) (hpoll : hub.poll = poll) :
    CursorSound hub poll :=
  hpoll ▸ hsound.poll

theorem Quiet.freshVersions (hquiet : Quiet hub next) (hfresh : FreshVersions uuids hub)
    (hpublishers : next.publishers.Sublist hub.publishers) (hdraws : next.draws = hub.draws) :
    FreshVersions uuids next := by
  refine hfresh.of_holds hpublishers hdraws fun version hversion => ?_
  rcases hversion with rfl | hstored | hpoll
  · rcases hquiet.knownVersion with hsame | ⟨hempty, -⟩
    · exact .inr (.inl hsame)
    · exact .inl hempty
  · rw [Hub.versionID, hquiet.gatewayStates, hquiet.id] at hstored
    exact .inr (.inr (.inl hstored))
  · exact .inr (.inr (.inr (hquiet.poll ▸ hpoll)))

theorem batch_of_perm (hperm : rows.Perm (hub.selected lastPolledTime)) (horder : InTimeOrder rows)
    (resuming : Bool) :
    Batch hub lastPolledTime (trimSingleBoundaryReplay rows lastPolledTime resuming) := by
  have hsublist := trimSingleBoundaryReplay_sublist rows lastPolledTime resuming
  refine ⟨horder.sublist hsublist, fun event hmem => ?_⟩
  obtain ⟨hstored, hselected⟩ := List.mem_filter.mp (hperm.mem_iff.mp (hsublist.subset hmem))
  exact ⟨hstored, of_decide_eq_true hselected⟩

theorem Gateway.afterPoll_id {gateway : Gateway} :
    (gateway.afterPoll version lastPolledTime latest deliveryBlocked).id = gateway.id := by
  unfold Gateway.afterPoll
  split <;> rfl

theorem Sound.update (hsound : Sound uuids hub)
    (hpoll : hub.poll = .delivered version lastPolledTime latest deliveryBlocked) :
    Sound uuids { hub with
      gateway := hub.gateway.afterPoll version lastPolledTime latest deliveryBlocked
      poll := .idle } := by
  obtain ⟨hmodern, hlatest, hblocked⟩ := CursorSound.of_eq hsound hpoll
  have hknown : (hub.gateway.afterPoll version lastPolledTime latest deliveryBlocked).knownVersion =
      hub.gateway.knownVersion ∨
      (hub.gateway.afterPoll version lastPolledTime latest deliveryBlocked).knownVersion =
        version := by
    unfold Gateway.afterPoll
    split
    · exact .inl rfl
    · exact .inl rfl
    · exact .inr rfl
    · exact .inr rfl
  refine ⟨hsound.versions.of_holds (List.Sublist.refl _) rfl ?_, ?_, trivial⟩
  · intro held hheld
    rcases hheld with rfl | hstored | hnone
    · rcases hknown with hsame | hread
      · exact .inr (.inl hsame)
      · refine .inr (.inr (.inr ?_))
        rw [hpoll]
        exact congrArg some hread.symm
    · rw [Hub.versionID, Gateway.afterPoll_id] at hstored
      exact .inr (.inr (.inl hstored))
    · cases hnone
  · have hgrow : ∀ cursor, hub.Reaches cursor → Hub.Reaches { hub with
        gateway := hub.gateway.afterPoll version lastPolledTime latest deliveryBlocked
        poll := .idle } cursor := by
      intro cursor hreaches
      refine hreaches.grow ?_ Gateway.afterPoll_id
      exact fun _ hmem => hmem
    cases latest with
    | some timestamp =>
      have hnew := hgrow _ (hlatest timestamp rfl)
      cases deliveryBlocked with
      | true | false => exact .inr ⟨timestamp.threshold_le, hnew⟩
    | none =>
      cases deliveryBlocked with
      | true => exact .inr ⟨hmodern, hgrow _ (hblocked rfl)⟩
      | false => exact hsound.lastPolled.imp_right fun h => ⟨h.1, hgrow _ h.2⟩

theorem Sound.step (hsound : Sound uuids hub) (hstep : HubStep uuids hub action next) :
    Sound uuids next := by
  have hcursor : ∀ {poll}, hub.poll = poll → CursorSound hub poll := CursorSound.of_eq hsound
  cases hstep with
  | publish gatewayID event now =>
    exact hsound.frame (hsound.versions.publish gatewayID event now) (fun _ hmem => hmem) rfl
      rfl hsound.poll
  | quiet hquiet hsubscribers hpublishers hdraws =>
    refine hsound.frame (hquiet.freshVersions hsound.versions hpublishers hdraws)
      (fun event hmem => hquiet.events ▸ hmem) hquiet.id hquiet.lastPolled ?_
    rw [hquiet.poll]
    exact hsound.poll
  | commit hpublication hnew =>
    exact hsound.frame (hsound.versions.withRow hpublication)
      (fun _ hmem => List.mem_append_left _ hmem) rfl rfl hsound.poll
  | readState hversion =>
    refine hsound.withPoll (hsound.versions.withPoll fun version hread => ?_) trivial
    obtain rfl := Option.some.inj hread
    exact .inr (.inl hversion)
  | giveUp => exact hsound.withPoll (hsound.versions.withPoll fun _ h => by cases h) trivial
  | resume hpoll hlast =>
    refine hsound.withPoll (hsound.versions.advance (by rw [hpoll]; rfl)) ?_
    rcases hsound.lastPolled with hzero | ⟨hmodern, -⟩
    · exact absurd hzero hlast.ne'
    · rw [unixTimestampToTime, if_pos hmodern]
      exact ⟨hmodern, fun _ => rfl⟩
  | @first version now hpoll =>
    refine hsound.withPoll (hsound.versions.advance (by rw [hpoll]; rfl)) ?_
    exact ⟨Nat.le_sub_of_add_le now.modern, fun h => by cases h⟩
  | query hpoll hperm horder =>
    refine hsound.withPoll (hsound.versions.advance (by rw [hpoll]; rfl)) ?_
    exact ⟨(hcursor hpoll).1, batch_of_perm hperm horder _⟩
  | startDelivery hpoll =>
    refine hsound.withPoll (hsound.versions.advance (by rw [hpoll]; rfl)) ?_
    exact ⟨(hcursor hpoll).1, (hcursor hpoll).2, fun _ h => by cases h⟩
  | finish hpoll =>
    refine hsound.withPoll (hsound.versions.advance (by rw [hpoll]; rfl)) ?_
    exact ⟨(hcursor hpoll).1, (hcursor hpoll).2.2, fun h => by cases h⟩
  | @send version lastPolledTime event rest latest hpoll =>
    obtain ⟨hmodern, hbatch, -⟩ := hcursor hpoll
    refine hsound.frame (hsound.versions.of_holds (List.Sublist.refl _) rfl ?_)
      (fun _ hmem => hmem) rfl rfl ⟨hmodern, ⟨?_, ?_⟩, ?_⟩
    · intro held hheld
      rcases hheld with hknown | hstored | hread
      · exact .inr (.inl hknown)
      · exact .inr (.inr (.inl hstored))
      · exact .inr (.inr (.inr (by rw [hpoll]; exact hread)))
    · exact (List.pairwise_cons.mp hbatch.inTimeOrder).2
    · exact fun other hmem => hbatch.stored other (List.mem_cons_of_mem _ hmem)
    · intro timestamp hlatest
      obtain rfl := Option.some.inj hlatest
      obtain ⟨hstored, hgateway, -⟩ := hbatch.stored event List.mem_cons_self
      exact ⟨event, hstored, hgateway, le_rfl⟩
  | @block version lastPolledTime event rest latest hpoll =>
    refine hsound.withPoll (hsound.versions.advance (by rw [hpoll]; rfl)) ?_
    obtain ⟨hmodern, hbatch, hlatest⟩ := hcursor hpoll
    exact ⟨hmodern, hlatest, fun _ => ⟨event, hbatch.stored event List.mem_cons_self⟩⟩
  | update hpoll => exact hsound.update hpoll

end Soundness

end ApiPlatform.EventHub
