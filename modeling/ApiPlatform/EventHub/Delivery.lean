import ApiPlatform.EventHub.Cursor

/-!
# Delivery of the committed events

An event that commits after a later timestamp was polled is behind the cursor
and is lost.  When timestamps commit in order, every event that has not been
sent yet is still ahead of the cursor or in the hands of the poller.
-/

namespace ApiPlatform.EventHub

open Foundation

variable {poll : Poll} {version : String} {rows : List Event} {lastPolledTime : Nat}
  {resuming : Bool}

/-! ## Events that are still to come -/

/-- A query from the cursor on selects the event and does not trim it. -/
def Hub.Pending (hub : Hub) (cursor : Nat) (event : Event) : Prop :=
  cursor < event.processedTimestamp.unixNano ∨
    cursor = event.processedTimestamp.unixNano ∧
      ∃ other ∈ hub.events, other.gatewayID = hub.gateway.id ∧ other ≠ event ∧
        other.processedTimestamp.unixNano = event.processedTimestamp.unixNano

/-- The poller has fetched a batch, and the event is in it or comes after it. -/
structure Awaits (hub : Hub) (version : String) (lastPolledTime : Nat) (events : List Event)
    (event : Event) : Prop where
  boundary : events ≠ [] → hub.Pending lastPolledTime event
  order : event ∈ events ∨
    ∀ fetched ∈ events, fetched.processedTimestamp.unixNano ≤ event.processedTimestamp.unixNano
  fetched : hub.versionID = some version → event ∈ events

def InFlight (hub : Hub) (event : Event) : Poll → Prop
  | .idle => True
  | .read _ => True
  | .looked _ _ _ => True
  | .fetched version lastPolledTime events => Awaits hub version lastPolledTime events event
  | .delivering version lastPolledTime events latest =>
    Awaits hub version lastPolledTime events event ∧
      ∀ timestamp ∈ latest, hub.Pending timestamp.unixNano event
  | .delivered version lastPolledTime latest deliveryBlocked =>
    (∀ timestamp ∈ latest, hub.Pending timestamp.unixNano event) ∧
      match deliveryBlocked with
      | true => latest = none → hub.Pending lastPolledTime event
      | false => hub.versionID ≠ some version

/-- The event is not lost: the poller knows that there is something new, and its cursor is not
past the event. -/
structure Ahead (hub : Hub) (event : Event) : Prop where
  behind : hub.versionID ≠ some hub.gateway.knownVersion
  pending : hub.Pending hub.gateway.lastPolled event
  inFlight : InFlight hub event hub.poll

section Ahead

variable {uuids : UUIDs} {hub next : Hub} {event : Event}

theorem pending_of_le {cursor : Nat} {other : Event} (hother : other ∈ hub.events)
    (hgateway : other.gatewayID = hub.gateway.id) (hne : other ≠ event)
    (hcursor : cursor ≤ other.processedTimestamp.unixNano)
    (hle : other.processedTimestamp.unixNano ≤ event.processedTimestamp.unixNano) :
    hub.Pending cursor event := by
  rcases (hcursor.trans hle).lt_or_eq with hlt | heq
  · exact .inl hlt
  · refine .inr ⟨heq, other, hother, hgateway, hne, ?_⟩
    exact le_antisymm hle (heq ▸ hcursor)

theorem pending_zero : hub.Pending 0 event := by
  refine .inl (lt_of_lt_of_le ?_ event.processedTimestamp.threshold_le)
  decide

theorem Hub.Pending.grow {cursor : Nat} (hevents : ∀ event ∈ hub.events, event ∈ next.events)
    (hid : next.gateway.id = hub.gateway.id) (hpending : hub.Pending cursor event) :
    next.Pending cursor event := by
  rcases hpending with hlt | ⟨heq, other, hother, hgateway, hsame⟩
  · exact .inl hlt
  · exact .inr ⟨heq, other, hevents other hother, hgateway.trans hid.symm, hsame⟩

theorem InFlight.grow (hevents : ∀ event ∈ hub.events, event ∈ next.events)
    (hid : next.gateway.id = hub.gateway.id)
    (hversion : ∀ version ∈ poll.version?, next.versionID = some version →
      hub.versionID = some version) (hflight : InFlight hub event poll) :
    InFlight next event poll := by
  cases poll with
  | idle | read version | looked version lastPolledTime resuming => trivial
  | fetched version lastPolledTime events =>
    exact ⟨fun hne => (hflight.boundary hne).grow hevents hid, hflight.order,
      fun h => hflight.fetched (hversion version rfl h)⟩
  | delivering version lastPolledTime events latest =>
    obtain ⟨hawaits, hlatest⟩ := hflight
    exact ⟨⟨fun hne => (hawaits.boundary hne).grow hevents hid, hawaits.order,
      fun h => hawaits.fetched (hversion version rfl h)⟩,
      fun timestamp hmem => (hlatest timestamp hmem).grow hevents hid⟩
  | delivered version lastPolledTime latest deliveryBlocked =>
    obtain ⟨hlatest, hblocked⟩ := hflight
    refine ⟨fun timestamp hmem => (hlatest timestamp hmem).grow hevents hid, ?_⟩
    cases deliveryBlocked with
    | true => exact fun hnone => (hblocked hnone).grow hevents hid
    | false => exact fun h => hblocked (hversion version rfl h)

theorem Ahead.withPoll (hahead : Ahead hub event) (hflight : InFlight hub event poll) :
    Ahead { hub with poll := poll } event := by
  refine ⟨hahead.behind, hahead.pending, hflight.grow ?_ ?_ ?_⟩
  · exact fun _ hmem => hmem
  · rfl
  · exact fun _ _ hstored => hstored

theorem Ahead.flight (hahead : Ahead hub event) (hpoll : hub.poll = poll) :
    InFlight hub event poll :=
  hpoll ▸ hahead.inFlight

theorem Ahead.quiet (hahead : Ahead hub event) (hquiet : Quiet hub next)
    (hsubscribed : next.gateway.subscribers ≠ []) : Ahead next event := by
  have hversion : next.versionID = hub.versionID := by
    rw [Hub.versionID, hquiet.gatewayStates, hquiet.id, Hub.versionID]
  have hknown : next.gateway.knownVersion = hub.gateway.knownVersion :=
    hquiet.knownVersion.resolve_right fun h => hsubscribed h.2
  have hevents : ∀ event ∈ hub.events, event ∈ next.events := fun _ hmem => hquiet.events ▸ hmem
  refine ⟨?_, ?_, ?_⟩
  · rw [hversion, hknown]
    exact hahead.behind
  · rw [hquiet.lastPolled]
    exact hahead.pending.grow hevents hquiet.id
  · rw [hquiet.poll]
    exact hahead.inFlight.grow hevents hquiet.id fun version _ h => hversion ▸ h

/-! ## A commit -/

section Commit

variable {index : Nat} {publication : Publication} (hsound : Sound uuids hub)
  (hpublication : hub.publishers[index]? = some publication)
include hsound hpublication

theorem versionID_of_withRow (hheld : hub.Holds version)
    (hstored : (hub.withRow index publication).versionID = some version) :
    hub.versionID = some version := by
  rw [versionID_withRow] at hstored
  split at hstored
  · exact absurd (Option.some.inj hstored)
      ((hsound.versions.held version hheld).2 publication (List.mem_of_getElem? hpublication))
  · exact hstored

theorem Ahead.withRow (hahead : Ahead hub event) : Ahead (hub.withRow index publication) event := by
  have hevents : ∀ event ∈ hub.events, event ∈ (hub.withRow index publication).events :=
    fun _ hmem => List.mem_append_left _ hmem
  refine ⟨?_, hahead.pending.grow hevents rfl, ?_⟩
  · exact fun hstored => hahead.behind
      (versionID_of_withRow hsound hpublication (.inl rfl) hstored)
  · exact hahead.inFlight.grow hevents rfl fun version hversion hstored =>
      versionID_of_withRow hsound hpublication (.inr (.inr hversion)) hstored

theorem ahead_of_withRow
    (hnew : hub.eventExists publication.row.gatewayID publication.row.eventID = false)
    (hgateway : publication.row.gatewayID = hub.gateway.id)
    (horder : ∀ event ∈ hub.events, event.gatewayID = publication.row.gatewayID →
      event.processedTimestamp.unixNano ≤ publication.row.processedTimestamp.unixNano) :
    Ahead (hub.withRow index publication) publication.row := by
  have hne : ∀ other ∈ hub.events, other ≠ publication.row := by
    rintro other hother rfl
    have hexists : hub.eventExists publication.row.gatewayID publication.row.eventID = true :=
      List.any_eq_true.mpr ⟨publication.row, hother, by simp⟩
    rw [hexists] at hnew
    cases hnew
  have hreached : ∀ cursor, hub.Reaches cursor →
      (hub.withRow index publication).Pending cursor publication.row := by
    intro cursor hreaches
    obtain ⟨other, hother, hother_gateway, hle⟩ := hreaches
    exact pending_of_le (List.mem_append_left _ hother) hother_gateway (hne other hother) hle
      (horder other hother (hother_gateway.trans hgateway.symm))
  have hfresh : ∀ version, hub.Holds version →
      (hub.withRow index publication).versionID ≠ some version := by
    intro version hheld hstored
    rw [versionID_withRow, if_pos hgateway] at hstored
    exact (hsound.versions.held version hheld).2 publication (List.mem_of_getElem? hpublication)
      (Option.some.inj hstored)
  have hawaits : ∀ {version lastPolledTime events}, hub.poll.version? = some version →
      Batch hub lastPolledTime events →
      Awaits (hub.withRow index publication) version lastPolledTime events publication.row := by
    intro version lastPolledTime events hversion hbatch
    refine ⟨fun hevents => ?_, .inr fun fetched hfetched => ?_, fun hstored => ?_⟩
    · obtain ⟨first, hfirst⟩ := List.exists_mem_of_ne_nil events hevents
      exact hreached _ ⟨first, hbatch.stored first hfirst⟩
    · obtain ⟨hstored, hfetched_gateway, -⟩ := hbatch.stored fetched hfetched
      exact horder fetched hstored (hfetched_gateway.trans hgateway.symm)
    · exact absurd hstored (hfresh version (.inr (.inr hversion)))
  refine ⟨hfresh _ (.inl rfl), ?_, ?_⟩
  · rcases hsound.lastPolled with hzero | ⟨-, hreaches⟩
    · have hlast : (hub.withRow index publication).gateway.lastPolled = 0 := hzero
      rw [hlast]
      exact pending_zero
    · exact hreached _ hreaches
  · have hcursor := hsound.poll
    show InFlight _ _ hub.poll
    cases hpoll : hub.poll with
    | idle | read version | looked version lastPolledTime resuming => trivial
    | fetched version lastPolledTime events =>
      rw [hpoll] at hcursor
      exact hawaits (by rw [hpoll]; rfl) hcursor.2
    | delivering version lastPolledTime events latest =>
      rw [hpoll] at hcursor
      exact ⟨hawaits (by rw [hpoll]; rfl) hcursor.2.1,
        fun timestamp hmem => hreached _ (hcursor.2.2 timestamp hmem)⟩
    | delivered version lastPolledTime latest deliveryBlocked =>
      rw [hpoll] at hcursor
      refine ⟨fun timestamp hmem => hreached _ (hcursor.2.1 timestamp hmem), ?_⟩
      cases deliveryBlocked with
      | true => exact fun _ => hreached _ (hcursor.2.2 rfl)
      | false => exact hfresh version (.inr (.inr (by rw [hpoll]; rfl)))

end Commit

/-! ## A poll -/

theorem mem_trimSingleBoundaryReplay {boundary : Nat} {enabled : Bool} (hmem : event ∈ rows)
    (horder : InTimeOrder rows) (hlow : ∀ row ∈ rows, boundary ≤ row.processedTimestamp.unixNano)
    (htwo : enabled = true → boundary = event.processedTimestamp.unixNano →
      ∃ other ∈ rows, other ≠ event ∧ other.processedTimestamp.unixNano = boundary) :
    event ∈ trimSingleBoundaryReplay rows boundary enabled := by
  unfold trimSingleBoundaryReplay
  split
  · exact hmem
  · exact hmem
  next first rest =>
    split
    · exact hmem
    next hfirst =>
      have hfirst : first.processedTimestamp.unixNano = boundary := not_not.mp hfirst
      -- only the first row can be dropped, and then no other row is at the boundary
      rcases List.mem_cons.mp hmem with rfl | hrest
      · obtain ⟨other, hother, hne, hboundary⟩ := htwo rfl hfirst.symm
        have hother : other ∈ rest := (List.mem_cons.mp hother).resolve_left hne
        cases rest with
        | nil => cases hother
        | cons second tail =>
          dsimp only
          split
          next hsecond =>
            refine absurd ?_ hsecond
            have hle : second.processedTimestamp.unixNano ≤ other.processedTimestamp.unixNano := by
              rcases List.mem_cons.mp hother with rfl | htail
              · exact le_rfl
              · exact (List.pairwise_cons.mp (List.pairwise_cons.mp horder).2).1 other htail
            exact le_antisymm (hboundary ▸ hle)
              (hlow second (List.mem_cons_of_mem _ List.mem_cons_self))
          · exact hmem
      · split
        · cases hrest
        split
        · exact hrest
        · exact hmem

theorem mem_fetched (hevent : event ∈ hub.events) (hgateway : event.gatewayID = hub.gateway.id)
    (hpending : hub.Pending lastPolledTime event) (hperm : rows.Perm (hub.selected lastPolledTime))
    (horder : InTimeOrder rows) :
    event ∈ trimSingleBoundaryReplay rows lastPolledTime resuming := by
  have hselected : ∀ row, row ∈ rows ↔ row ∈ hub.events ∧ row.gatewayID = hub.gateway.id ∧
      lastPolledTime ≤ row.processedTimestamp.unixNano := by
    intro row
    rw [hperm.mem_iff, Hub.selected, List.mem_filter, decide_eq_true_eq]
  have hle : lastPolledTime ≤ event.processedTimestamp.unixNano := by
    rcases hpending with hlt | ⟨heq, -⟩
    · exact hlt.le
    · exact heq.le
  refine mem_trimSingleBoundaryReplay ((hselected event).mpr ⟨hevent, hgateway, hle⟩) horder
    (fun row hrow => ((hselected row).mp hrow).2.2) ?_
  intro _ heq
  rcases hpending with hlt | ⟨-, other, hother, hother_gateway, hne, hsame⟩
  · exact absurd heq hlt.ne
  · exact ⟨other, (hselected other).mpr ⟨hother, hother_gateway, (hsame.trans heq.symm).ge⟩, hne,
      hsame.trans heq.symm⟩

theorem Ahead.query (hahead : Ahead hub event) (hevent : event ∈ hub.events)
    (hgateway : event.gatewayID = hub.gateway.id) (hpending : hub.Pending lastPolledTime event)
    (hperm : rows.Perm (hub.selected lastPolledTime)) (horder : InTimeOrder rows) :
    Ahead { hub with
      poll := .fetched version lastPolledTime
        (trimSingleBoundaryReplay rows lastPolledTime resuming) } event := by
  have hmem : event ∈ trimSingleBoundaryReplay rows lastPolledTime resuming :=
    mem_fetched hevent hgateway hpending hperm horder
  exact hahead.withPoll ⟨fun _ => hpending, .inl hmem, fun _ => hmem⟩

theorem Ahead.send {sent : Event} {rest : List Event} {latest : Option Instant}
    (hahead : Ahead hub event) (hsound : Sound uuids hub)
    (hpoll : hub.poll = .delivering version lastPolledTime (sent :: rest) latest)
    (hne : sent ≠ event) :
    Ahead { hub with
      gateway := { hub.gateway with subscribers := hub.gateway.subscribers.map (·.send sent) }
      poll := .delivering version lastPolledTime rest (some sent.processedTimestamp) } event := by
  obtain ⟨hawaits, -⟩ := hahead.flight hpoll
  obtain ⟨-, hbatch, -⟩ := CursorSound.of_eq hsound hpoll
  obtain ⟨hstored, hgateway, -⟩ := hbatch.stored sent List.mem_cons_self
  have hle : sent.processedTimestamp.unixNano ≤ event.processedTimestamp.unixNano := by
    rcases hawaits.order with hmem | hlate
    · exact (List.pairwise_cons.mp hbatch.inTimeOrder).1 event
        ((List.mem_cons.mp hmem).resolve_left hne.symm)
    · exact hlate sent List.mem_cons_self
  refine ⟨hahead.behind, hahead.pending, ⟨⟨?_, ?_, ?_⟩, ?_⟩⟩
  · exact fun _ => hawaits.boundary (List.cons_ne_nil _ _)
  · rcases hawaits.order with hmem | hlate
    · exact .inl ((List.mem_cons.mp hmem).resolve_left hne.symm)
    · exact .inr fun fetched hfetched => hlate fetched (List.mem_cons_of_mem _ hfetched)
  · exact fun h => (List.mem_cons.mp (hawaits.fetched h)).resolve_left hne.symm
  · intro timestamp hlatest
    obtain rfl := Option.some.inj hlatest
    exact pending_of_le hstored hgateway hne le_rfl hle

theorem Ahead.update {latest : Option Instant} {deliveryBlocked : Bool} (hahead : Ahead hub event)
    (hpoll : hub.poll = .delivered version lastPolledTime latest deliveryBlocked) :
    Ahead { hub with
      gateway := hub.gateway.afterPoll version lastPolledTime latest deliveryBlocked
      poll := .idle } event := by
  obtain ⟨hlatest, hblocked⟩ := hahead.flight hpoll
  cases deliveryBlocked with
  | true =>
    cases latest with
    | some timestamp => exact ⟨hahead.behind, hlatest timestamp rfl, trivial⟩
    | none => exact ⟨hahead.behind, hblocked rfl, trivial⟩
  | false =>
    cases latest with
    | some timestamp => exact ⟨hblocked, hlatest timestamp rfl, trivial⟩
    | none => exact ⟨hblocked, hahead.pending, trivial⟩

end Ahead

/-! ## The subscriber -/

def Hub.IsSubscribed (hub : Hub) (channel : Nat) : Prop :=
  ∃ subscriber ∈ hub.gateway.subscribers, subscriber.id = channel

section Subscriber

variable {uuids : UUIDs} {hub next : Hub} {action : Action} {channel : Nat} {event : Event}

theorem HubStep.continues (hstep : HubStep uuids hub action next) {subscriber : Channel}
    (hmem : subscriber ∈ hub.gateway.subscribers) (hkeeps : action.Keeps subscriber.id) :
    ∃ later ∈ next.gateway.subscribers, subscriber.Continues later := by
  have hsame : ∃ later ∈ hub.gateway.subscribers, subscriber.Continues later :=
    ⟨subscriber, hmem, .refl subscriber⟩
  cases hstep with
  | publish gatewayID event now => exact hsame
  | quiet hquiet hsubscribers hpublishers hdraws => exact hsubscribers subscriber hmem hkeeps
  | commit hpublication hnew | readState hversion | giveUp | resume hpoll hlast | first hpoll =>
    exact hsame
  | query hpoll hperm horder | startDelivery hpoll | finish hpoll => exact hsame
  | @send version lastPolledTime event rest latest hpoll =>
    exact ⟨subscriber.send event, List.mem_map_of_mem hmem, .send subscriber event⟩
  | block hpoll => exact hsame
  | @update version lastPolledTime latest deliveryBlocked hpoll =>
    have hkept : (hub.gateway.afterPoll version lastPolledTime latest deliveryBlocked).subscribers =
        hub.gateway.subscribers := by
      unfold Gateway.afterPoll
      split <;> rfl
    exact hkept ▸ hsame

theorem Hub.IsSubscribed.step (hsubscribed : hub.IsSubscribed channel)
    (hstep : HubStep uuids hub action next) (hkeeps : action.Keeps channel) :
    next.IsSubscribed channel := by
  obtain ⟨subscriber, hmem, rfl⟩ := hsubscribed
  obtain ⟨later, hlater, hcontinues⟩ := hstep.continues hmem hkeeps
  exact ⟨later, hlater, hcontinues.id⟩

theorem Hub.Delivered.step (hdelivered : hub.Delivered channel event)
    (hstep : HubStep uuids hub action next) (hkeeps : action.Keeps channel) :
    next.Delivered channel event := by
  obtain ⟨subscriber, hmem, rfl, hevent⟩ := hdelivered
  obtain ⟨later, hlater, hcontinues⟩ := hstep.continues hmem hkeeps
  exact ⟨later, hlater, hcontinues.id, hcontinues.events event hevent⟩

theorem Hub.IsSubscribed.ne_nil (hsubscribed : hub.IsSubscribed channel) :
    hub.gateway.subscribers ≠ [] := by
  obtain ⟨subscriber, hmem, -⟩ := hsubscribed
  exact List.ne_nil_of_mem hmem

end Subscriber

/-! ## Timely steps -/

/-- No row of the gateway has a later timestamp than the one that commits. -/
def InCommitOrder (hub : Hub) (index : Nat) : Prop :=
  ∀ publication ∈ hub.publishers[index]?, ∀ event ∈ hub.events,
    event.gatewayID = publication.row.gatewayID →
      event.processedTimestamp.unixNano ≤ publication.row.processedTimestamp.unixNano

/-- The first poll looks back far enough for the events since the subscription. -/
def InWindow (count : Nat) (hub : Hub) : Prop :=
  match hub.poll with
  | .looked _ lastPolledTime false =>
    ∀ event ∈ hub.committedSince count, lastPolledTime < event.processedTimestamp.unixNano
  | _ => True

def Timely (count : Nat) (hub : Hub) : Action → Prop
  | .commit index => InCommitOrder hub index
  | .query _ => InWindow count hub
  | _ => True

instance (hub : Hub) (index : Nat) : Decidable (InCommitOrder hub index) :=
  inferInstanceAs (Decidable (∀ publication ∈ hub.publishers[index]?, ∀ event ∈ hub.events,
    event.gatewayID = publication.row.gatewayID →
      event.processedTimestamp.unixNano ≤ publication.row.processedTimestamp.unixNano))

instance (count : Nat) (hub : Hub) : Decidable (InWindow count hub) := by
  unfold InWindow
  split <;> infer_instance

instance (count : Nat) (hub : Hub) : ∀ action, Decidable (Timely count hub action)
  | .commit index => inferInstanceAs (Decidable (InCommitOrder hub index))
  | .query _ => inferInstanceAs (Decidable (InWindow count hub))
  | .publish _ _ _ | .rollback _ | .readState | .look _ | .queryFails | .startDelivery | .deliver
  | .update | .subscribe | .unsubscribe _ | .unsubscribeAll | .consume _ => isTrue trivial

instance (channel : Nat) : ∀ action : Action, Decidable (action.Keeps channel)
  | .unsubscribe other => inferInstanceAs (Decidable (other ≠ channel))
  | .unsubscribeAll => isFalse id
  | .publish _ _ _ | .commit _ | .rollback _ | .readState | .look _ | .query _ | .queryFails
  | .startDelivery | .deliver | .update | .subscribe | .consume _ => isTrue trivial

/-- Of the events since the subscription, those not sent to the subscriber are still to come. -/
structure Tracks (uuids : UUIDs) (count channel : Nat) (hub : Hub) : Prop where
  sound : Sound uuids hub
  subscribed : hub.IsSubscribed channel
  owed : ∀ event ∈ hub.committedSince count, ¬ hub.Delivered channel event → Ahead hub event

section Tracks

variable {uuids : UUIDs} {count channel : Nat} {hub next : Hub} {action : Action}

theorem mem_committedSince_withRow {index : Nat} {publication : Publication} {event : Event}
    (hmem : event ∈ (hub.withRow index publication).committedSince count) :
    event ∈ hub.committedSince count ∨
      event = publication.row ∧ publication.row.gatewayID = hub.gateway.id := by
  obtain ⟨hdrop, hgateway⟩ := List.mem_filter.mp hmem
  have hdrop : event ∈ (hub.events ++ [publication.row]).drop count := hdrop
  rw [List.drop_append] at hdrop
  rcases List.mem_append.mp hdrop with hold | hnew
  · exact .inl (List.mem_filter.mpr ⟨hold, hgateway⟩)
  · obtain rfl := List.mem_singleton.mp (List.mem_of_mem_drop hnew)
    exact .inr ⟨rfl, of_decide_eq_true hgateway⟩

theorem pending_of_timely {event : Event} (hsound : Sound uuids hub)
    (hpoll : hub.poll = .looked version lastPolledTime resuming) (hwindow : InWindow count hub)
    (hmem : event ∈ hub.committedSince count) (hahead : Ahead hub event) :
    hub.Pending lastPolledTime event := by
  cases resuming with
  | true =>
    rw [(CursorSound.of_eq hsound hpoll).2 rfl]
    exact hahead.pending
  | false =>
    unfold InWindow at hwindow
    rw [hpoll] at hwindow
    exact .inl (hwindow event hmem)

theorem delivered_send {event : Event} (hsubscribed : hub.IsSubscribed channel) :
    Hub.Delivered { hub with
      gateway := { hub.gateway with subscribers := hub.gateway.subscribers.map (·.send event) }
      poll := poll } channel event := by
  obtain ⟨subscriber, hmem, hid⟩ := hsubscribed
  refine ⟨subscriber.send event, List.mem_map_of_mem hmem, hid, ?_⟩
  exact List.mem_append_right _ (List.mem_append_right _ List.mem_cons_self)

theorem Tracks.step (htracks : Tracks uuids count channel hub)
    (hstep : HubStep uuids hub action next) (hkeeps : action.Keeps channel)
    (htimely : Timely count hub action) : Tracks uuids count channel next := by
  have hsubscribed := htracks.subscribed.step hstep hkeeps
  refine ⟨htracks.sound.step hstep, hsubscribed, fun event hmem hmissing => ?_⟩
  have hmissed : ¬ hub.Delivered channel event :=
    fun hdelivered => hmissing (hdelivered.step hstep hkeeps)
  -- the steps other than a commit leave the rows as they are
  have hahead : event ∈ hub.committedSince count → Ahead hub event :=
    fun hold => htracks.owed event hold hmissed
  cases hstep with
  | publish gatewayID other now =>
    have hquiet : Quiet hub (hub.publish uuids gatewayID other now) :=
      ⟨rfl, rfl, rfl, rfl, rfl, .inl rfl⟩
    exact (hahead hmem).quiet hquiet hsubscribed.ne_nil
  | quiet hquiet hsubscribers hpublishers hdraws =>
    rw [Hub.committedSince, hquiet.events, hquiet.id] at hmem
    exact (hahead hmem).quiet hquiet hsubscribed.ne_nil
  | @commit index publication hpublication hnew =>
    rcases mem_committedSince_withRow hmem with hold | ⟨rfl, hgateway⟩
    · exact (hahead hold).withRow htracks.sound hpublication
    · exact ahead_of_withRow htracks.sound hpublication hnew hgateway
        (htimely publication hpublication)
  | readState hversion | giveUp | resume hpoll hlast | first hpoll =>
    exact (hahead hmem).withPoll trivial
  | query hpoll hperm horder =>
    obtain ⟨hdrop, hgateway⟩ := List.mem_filter.mp hmem
    exact (hahead hmem).query (List.mem_of_mem_drop hdrop) (of_decide_eq_true hgateway)
      (pending_of_timely htracks.sound hpoll htimely hmem (hahead hmem)) hperm horder
  | startDelivery hpoll =>
    exact (hahead hmem).withPoll ⟨(hahead hmem).flight hpoll, fun _ h => by cases h⟩
  | finish hpoll =>
    obtain ⟨hawaits, hlatest⟩ := (hahead hmem).flight hpoll
    refine (hahead hmem).withPoll ⟨hlatest, fun hstored => ?_⟩
    exact absurd (hawaits.fetched hstored) List.not_mem_nil
  | send hpoll =>
    refine (hahead hmem).send htracks.sound hpoll ?_
    rintro rfl
    exact hmissing (delivered_send htracks.subscribed)
  | block hpoll =>
    obtain ⟨hawaits, hlatest⟩ := (hahead hmem).flight hpoll
    exact (hahead hmem).withPoll ⟨hlatest, fun _ => hawaits.boundary (List.cons_ne_nil _ _)⟩
  | update hpoll =>
    refine (hahead ?_).update hpoll
    rw [Hub.committedSince, Gateway.afterPoll_id] at hmem
    exact hmem

end Tracks

/-! ## Runs -/

def Hub.Takes (uuids : UUIDs) (hub : Hub) (action : Action) (next : Hub) : Prop :=
  hub.step uuids action = some next

/-- A step in which the subscriber stays and that is timely for the events since it subscribed. -/
def Hub.TakesTimely (uuids : UUIDs) (count channel : Nat) (hub : Hub) (action : Action)
    (next : Hub) : Prop :=
  hub.Takes uuids action next ∧ action.Keeps channel ∧ Timely count hub action

theorem sound_of_steps {uuids : UUIDs} {gatewayID : String} {actions : List Action} {hub : Hub}
    (hsteps : Steps (Hub.Takes uuids) (Hub.registered gatewayID) actions hub) : Sound uuids hub :=
  hsteps.invariant (Sound uuids) (fun _ _ _ _ hstep hsound => hsound.step (step_cases hstep))
    (sound_registered uuids gatewayID)

theorem tracks_subscribe {uuids : UUIDs} {hub next : Hub} (hsound : Sound uuids hub)
    (hsubscribe : hub.Takes uuids .subscribe next) :
    Tracks uuids hub.events.length hub.channels next := by
  refine ⟨hsound.step (step_cases hsubscribe), ?_, ?_⟩
  all_goals
    obtain ⟨-, hnext⟩ := Option.ite_none_right_eq_some.mp hsubscribe
    cases hnext
  · exact ⟨_, List.mem_append_right _ List.mem_cons_self, rfl⟩
  · intro event hmem
    simp [Hub.committedSince] at hmem

/-- Once the poller knows the stored version, all events since the subscription have been sent to
the subscriber, if timestamps commit in order and the first poll looks back far enough. -/
theorem delivered_of_timely {uuids : UUIDs} {gatewayID : String} {before after : List Action}
    {earlier subscribed hub : Hub}
    (hbefore : Steps (Hub.Takes uuids) (Hub.registered gatewayID) before earlier)
    (hsubscribe : earlier.Takes uuids .subscribe subscribed)
    (hafter : Steps (Hub.TakesTimely uuids earlier.events.length earlier.channels) subscribed
      after hub) (hknown : hub.versionID = some hub.gateway.knownVersion) :
    ∀ event ∈ hub.committedSince earlier.events.length,
      hub.Delivered earlier.channels event := by
  have htracks : Tracks uuids earlier.events.length earlier.channels hub := by
    refine hafter.invariant (Tracks uuids earlier.events.length earlier.channels) ?_
      (tracks_subscribe (sound_of_steps hbefore) hsubscribe)
    intro state action _ next hstep htracks
    exact htracks.step (step_cases hstep.1) hstep.2.1 hstep.2.2
  intro event hmem
  by_contra hmissing
  exact (htracks.owed event hmem hmissing).behind hknown

/-! ## Two publishers -/

def tallies : UUIDs where
  draw := fun index => String.ofList (List.replicate (index + 1) 'v')
  injective := by
    intro first second heq
    have hlength := congrArg List.length (String.ofList_inj.mp heq)
    simpa using hlength
  nonempty := by
    intro index hempty
    have hlength := congrArg String.length hempty
    simp at hlength

def atTick (tick : Nat) : Instant where
  unixNano := 2000000000000000000 + tick
  modern := (by decide : unixNanosThreshold + initialPollSkewWindow ≤ 2000000000000000000).trans
    (Nat.le_add_right _ _)

def apiCreated (eventID : String) (tick : Nat) : Event where
  gatewayID := "gateway"
  processedTimestamp := atTick tick
  originatedTimestamp := 0
  eventType := "API"
  action := "CREATE"
  entityID := "api"
  eventID := eventID
  eventData := emptyEventData

def wholePoll (tick count : Nat) (rows : List Event) : List Action :=
  [.readState, .look (atTick tick), .query rows, .startDelivery] ++
    List.replicate (count + 1) .deliver ++ [.update]

def firstPublishes : List Action :=
  [.publish "gateway" (apiCreated "first" 0) (atTick 1),
    .publish "gateway" (apiCreated "second" 0) (atTick 2)]

/-- The second publisher commits first and is polled; the first event is behind the cursor. -/
def overtaking : List Action :=
  firstPublishes ++ [.commit 1] ++ wholePoll 3 1 [apiCreated "second" 2] ++ [.commit 0] ++
    wholePoll 4 0 [apiCreated "second" 2]

def inOrder : List Action :=
  firstPublishes ++ [.commit 0] ++ wholePoll 3 1 [apiCreated "first" 1] ++ [.commit 0] ++
    wholePoll 4 1 [apiCreated "first" 1, apiCreated "second" 2]

theorem timely_events_delivered :
    ∃ subscribed hub, (Hub.registered "gateway").Takes tallies .subscribe subscribed ∧
      Steps (Hub.TakesTimely tallies 0 0) subscribed inOrder hub ∧
      hub.committedSince 0 = [apiCreated "first" 1, apiCreated "second" 2] ∧
      ∀ event ∈ hub.committedSince 0, hub.Delivered 0 event := by
  have hrun : (((Hub.registered "gateway").step tallies .subscribe).bind fun subscribed =>
      inOrder.foldlM (fun hub action =>
        if action.Keeps 0 ∧ Timely 0 hub action then hub.step tallies action else none)
        subscribed).any (fun hub =>
      hub.versionID = some hub.gateway.knownVersion ∧
        hub.committedSince 0 = [apiCreated "first" 1, apiCreated "second" 2]) = true := by
    decide +kernel
  obtain ⟨hub, hbind, hend⟩ := Option.any_eq_true _ _ |>.mp hrun
  obtain ⟨subscribed, hsubscribe, hafter⟩ := Option.bind_eq_some_iff.mp hbind
  obtain ⟨hknown, hcommitted⟩ := of_decide_eq_true hend
  have hsteps : Steps (Hub.TakesTimely tallies 0 0) subscribed inOrder hub := by
    refine (steps_of_foldlM hafter).mono fun state action next hstep => ?_
    obtain ⟨⟨hkeeps, htimely⟩, htakes⟩ := Option.ite_none_right_eq_some.mp hstep
    exact ⟨htakes, hkeeps, htimely⟩
  exact ⟨subscribed, hub, hsubscribe, hsteps, hcommitted,
    delivered_of_timely (.nil (Hub.registered "gateway")) hsubscribe hsteps hknown⟩

/-- The poller knows the stored version and has not delivered the first event. -/
theorem overtaken_event_lost :
    ∃ subscribed hub, (Hub.registered "gateway").Takes tallies .subscribe subscribed ∧
      Steps (fun hub action next => hub.Takes tallies action next ∧ action.Keeps 0) subscribed
        overtaking hub ∧
      hub.versionID = some hub.gateway.knownVersion ∧
      apiCreated "first" 1 ∈ hub.committedSince 0 ∧ ¬ hub.Delivered 0 (apiCreated "first" 1) := by
  have hrun : (((Hub.registered "gateway").step tallies .subscribe).bind fun subscribed =>
      overtaking.foldlM (fun hub action =>
        if action.Keeps 0 then hub.step tallies action else none) subscribed).any (fun hub =>
      hub.versionID = some hub.gateway.knownVersion ∧
        apiCreated "first" 1 ∈ hub.committedSince 0 ∧
          ¬ hub.Delivered 0 (apiCreated "first" 1)) = true := by
    decide +kernel
  obtain ⟨hub, hbind, hend⟩ := Option.any_eq_true _ _ |>.mp hrun
  obtain ⟨subscribed, hsubscribe, hafter⟩ := Option.bind_eq_some_iff.mp hbind
  refine ⟨subscribed, hub, hsubscribe, ?_, of_decide_eq_true hend⟩
  refine (steps_of_foldlM hafter).mono fun state action next hstep => ?_
  obtain ⟨hkeeps, htakes⟩ := Option.ite_none_right_eq_some.mp hstep
  exact ⟨htakes, hkeeps⟩

end ApiPlatform.EventHub
