import ApiPlatform.Foundation.GoMaps
import ApiPlatform.Foundation.GoStrings
import ApiPlatform.Foundation.Runs

/-!
# The SQL event hub

Publishers write event rows and gateway versions, one poller reads them for a
gateway and sends the events to the channels of its subscribers.  The actions
of all parties interleave.
-/

namespace ApiPlatform.EventHub

open Foundation

/-! ## Time -/

def initialPollSkewWindow : Nat := 120000000000

def unixMillisThreshold : Nat := 100000000000

def unixMicrosThreshold : Nat := 100000000000000

def unixNanosThreshold : Nat := 100000000000000000

def unixTimestampToTime (ts : Nat) : Nat :=
  if unixNanosThreshold ≤ ts then ts
  else if unixMicrosThreshold ≤ ts then ts * 1000
  else if unixMillisThreshold ≤ ts then ts * 1000000
  else ts * 1000000000

structure Instant where
  unixNano : Nat
  modern : unixNanosThreshold + initialPollSkewWindow ≤ unixNano
  deriving DecidableEq

/-! ## Data -/

structure Event where
  gatewayID : String
  processedTimestamp : Instant
  originatedTimestamp : Nat
  eventType : String
  action : String
  entityID : String
  eventID : String
  eventData : String
  deriving DecidableEq

def emptyEventData : String := "\x7b\x7d"

structure UUIDs where
  draw : Nat → String
  injective : Function.Injective draw
  nonempty : ∀ index, draw index ≠ ""

structure Publication where
  newVersion : String
  row : Event

/-- A subscriber's channel, with what the subscriber has taken out of it. -/
structure Channel where
  id : Nat
  buffer : List Event
  consumed : List Event

def channelCapacity : Nat := 100

structure Gateway where
  id : String
  subscribers : List Channel
  knownVersion : String
  lastPolled : Nat

/-- Where the poller is in the poll of the gateway.  It holds the registry's read lock while it
is `delivering`. -/
inductive Poll where
  | idle
  | read (version : String)
  | looked (version : String) (lastPolledTime : Nat) (resuming : Bool)
  | fetched (version : String) (lastPolledTime : Nat) (events : List Event)
  | delivering (version : String) (lastPolledTime : Nat) (events : List Event)
      (latest : Option Instant)
  | delivered (version : String) (lastPolledTime : Nat) (latest : Option Instant)
      (deliveryBlocked : Bool)

structure Hub where
  events : List Event
  gatewayStates : GoMap String String
  publishers : List Publication
  gateway : Gateway
  poll : Poll
  draws : Nat
  channels : Nat

def Hub.registered (gatewayID : String) : Hub where
  events := []
  gatewayStates := AList.insert gatewayID "" ∅
  publishers := []
  gateway := { id := gatewayID, subscribers := [], knownVersion := "", lastPolled := 0 }
  poll := .idle
  draws := 0
  channels := 0

/-! ## Publishers -/

def Hub.publish (uuids : UUIDs) (hub : Hub) (gatewayID : String) (event : Event) (now : Instant) :
    Hub :=
  let newVersion := uuids.draw hub.draws
  let eventDataStr := trimSpace event.eventData
  let eventID := trimSpace event.eventID
  let row := { event with
    gatewayID := gatewayID
    processedTimestamp := now
    eventID := if eventID = "" then uuids.draw (hub.draws + 1) else eventID
    eventData := if eventDataStr = "" then emptyEventData else eventDataStr }
  { hub with
    publishers := hub.publishers ++ [{ newVersion := newVersion, row := row }]
    draws := hub.draws + 2 }

def Hub.eventExists (hub : Hub) (gatewayID eventID : String) : Bool :=
  hub.events.any fun event => event.gatewayID = gatewayID && event.eventID = eventID

/-- The transaction ends: the row and the version become visible, unless the event id exists. -/
def Hub.commit (hub : Hub) (index : Nat) : Option Hub :=
  hub.publishers[index]?.map fun publication =>
    if hub.eventExists publication.row.gatewayID publication.row.eventID then
      { hub with publishers := hub.publishers.eraseIdx index }
    else
      { hub with
        publishers := hub.publishers.eraseIdx index
        events := hub.events ++ [publication.row]
        gatewayStates :=
          hub.gatewayStates.insert publication.row.gatewayID publication.newVersion }

def Hub.rollback (hub : Hub) (index : Nat) : Option Hub :=
  hub.publishers[index]?.map fun _ => { hub with publishers := hub.publishers.eraseIdx index }

/-! ## The poller -/

def Hub.selected (hub : Hub) (lastPolledTime : Nat) : List Event :=
  hub.events.filter fun event =>
    event.gatewayID = hub.gateway.id ∧ lastPolledTime ≤ event.processedTimestamp.unixNano

def InTimeOrder (events : List Event) : Prop :=
  events.Pairwise fun earlier later =>
    earlier.processedTimestamp.unixNano ≤ later.processedTimestamp.unixNano

instance (events : List Event) : Decidable (InTimeOrder events) :=
  inferInstanceAs (Decidable (events.Pairwise _))

def trimSingleBoundaryReplay (events : List Event) (boundary : Nat) (enabled : Bool) :
    List Event :=
  match enabled, events with
  | false, events => events
  | true, [] => []
  | true, first :: rest =>
    if first.processedTimestamp.unixNano ≠ boundary then first :: rest
    else
      match rest with
      | [] => []
      | second :: _ =>
        if second.processedTimestamp.unixNano ≠ boundary then rest else first :: rest

def subscriberChannelsAvailable (subscribers : List Channel) : Bool :=
  subscribers.all fun channel => channel.buffer.length ≠ channelCapacity

def Hub.readState (hub : Hub) : Option Hub :=
  match hub.poll, hub.gatewayStates.lookup hub.gateway.id with
  | .idle, some version => some { hub with poll := .read version }
  | _, _ => none

def Hub.look (hub : Hub) (now : Instant) : Option Hub :=
  match hub.poll with
  | .read version =>
    if hub.gateway.subscribers = [] then some { hub with poll := .idle }
    else if version = hub.gateway.knownVersion ∨ version = "" then
      some { hub with poll := .idle }
    else if 0 < hub.gateway.lastPolled then
      some { hub with
        poll := .looked version (unixTimestampToTime hub.gateway.lastPolled) true }
    else
      some { hub with poll := .looked version (now.unixNano - initialPollSkewWindow) false }
  | _ => none

/-- The query answers with the selected rows, those of one instant in any order. -/
def Hub.query (hub : Hub) (rows : List Event) : Option Hub :=
  match hub.poll with
  | .looked version lastPolledTime resuming =>
    if rows.Perm (hub.selected lastPolledTime) ∧ InTimeOrder rows then
      some { hub with
        poll := .fetched version lastPolledTime
          (trimSingleBoundaryReplay rows lastPolledTime resuming) }
    else none
  | _ => none

def Hub.queryFails (hub : Hub) : Option Hub :=
  match hub.poll with
  | .looked _ _ _ => some { hub with poll := .idle }
  | _ => none

def Hub.startDelivery (hub : Hub) : Option Hub :=
  match hub.poll with
  | .fetched version lastPolledTime events =>
    some { hub with poll := .delivering version lastPolledTime events none }
  | _ => none

def Channel.send (channel : Channel) (event : Event) : Channel :=
  { channel with buffer := channel.buffer ++ [event] }

def Hub.deliver (hub : Hub) : Option Hub :=
  match hub.poll with
  | .delivering version lastPolledTime [] latest =>
    some { hub with poll := .delivered version lastPolledTime latest false }
  | .delivering version lastPolledTime (event :: rest) latest =>
    if subscriberChannelsAvailable hub.gateway.subscribers then
      some { hub with
        gateway := { hub.gateway with
          subscribers := hub.gateway.subscribers.map (·.send event) }
        poll := .delivering version lastPolledTime rest (some event.processedTimestamp) }
    else some { hub with poll := .delivered version lastPolledTime latest true }
  | _ => none

def Gateway.afterPoll (gateway : Gateway) (version : String) (lastPolledTime : Nat)
    (latest : Option Instant) (deliveryBlocked : Bool) : Gateway :=
  match deliveryBlocked, latest with
  | true, some timestamp => { gateway with lastPolled := timestamp.unixNano }
  | true, none => { gateway with lastPolled := lastPolledTime }
  | false, some timestamp =>
    { gateway with knownVersion := version, lastPolled := timestamp.unixNano }
  | false, none => { gateway with knownVersion := version }

def Hub.update (hub : Hub) : Option Hub :=
  match hub.poll with
  | .delivered version lastPolledTime latest deliveryBlocked =>
    some { hub with
      gateway := hub.gateway.afterPoll version lastPolledTime latest deliveryBlocked
      poll := .idle }
  | _ => none

/-! ## Subscribers -/

def Poll.isUnlocked : Poll → Bool
  | .delivering _ _ _ _ => false
  | _ => true

def Hub.subscribe (hub : Hub) : Option Hub :=
  if hub.poll.isUnlocked then
    some { hub with
      gateway := { hub.gateway with
        subscribers :=
          hub.gateway.subscribers ++ [{ id := hub.channels, buffer := [], consumed := [] }] }
      channels := hub.channels + 1 }
  else none

def removeSubscriber (channel : Nat) (subscribers : List Channel) : Option (List Channel) :=
  match subscribers.findIdx? (·.id = channel), subscribers.getLast? with
  | some index, some last => some (subscribers.set index last).dropLast
  | _, _ => none

def Hub.unsubscribe (hub : Hub) (channel : Nat) : Option Hub :=
  match hub.poll.isUnlocked, removeSubscriber channel hub.gateway.subscribers with
  | true, some subscribers =>
    some { hub with
      gateway := { hub.gateway with
        subscribers := subscribers
        knownVersion := if subscribers = [] then "" else hub.gateway.knownVersion } }
  | _, _ => none

def Hub.unsubscribeAll (hub : Hub) : Option Hub :=
  if hub.poll.isUnlocked then
    some { hub with gateway := { hub.gateway with subscribers := [], knownVersion := "" } }
  else none

def Channel.consume (channel : Channel) : Channel :=
  match channel.buffer with
  | [] => channel
  | event :: rest => { channel with buffer := rest, consumed := channel.consumed ++ [event] }

def Hub.consume (hub : Hub) (channel : Nat) : Hub :=
  { hub with
    gateway := { hub.gateway with
      subscribers := hub.gateway.subscribers.map fun subscriber =>
        if subscriber.id = channel then subscriber.consume else subscriber } }

/-! ## Steps -/

inductive Action where
  | publish (gatewayID : String) (event : Event) (now : Instant)
  | commit (index : Nat)
  | rollback (index : Nat)
  | readState
  | look (now : Instant)
  | query (rows : List Event)
  | queryFails
  | startDelivery
  | deliver
  | update
  | subscribe
  | unsubscribe (channel : Nat)
  | unsubscribeAll
  | consume (channel : Nat)
  deriving DecidableEq

def Hub.step (uuids : UUIDs) (hub : Hub) : Action → Option Hub
  | .publish gatewayID event now => some (hub.publish uuids gatewayID event now)
  | .commit index => hub.commit index
  | .rollback index => hub.rollback index
  | .readState => hub.readState
  | .look now => hub.look now
  | .query rows => hub.query rows
  | .queryFails => hub.queryFails
  | .startDelivery => hub.startDelivery
  | .deliver => hub.deliver
  | .update => hub.update
  | .subscribe => hub.subscribe
  | .unsubscribe channel => hub.unsubscribe channel
  | .unsubscribeAll => hub.unsubscribeAll
  | .consume channel => some (hub.consume channel)

def Hub.versionID (hub : Hub) : Option String :=
  hub.gatewayStates.lookup hub.gateway.id

def Hub.Delivered (hub : Hub) (channel : Nat) (event : Event) : Prop :=
  ∃ subscriber ∈ hub.gateway.subscribers,
    subscriber.id = channel ∧ event ∈ subscriber.consumed ++ subscriber.buffer

instance (hub : Hub) (channel : Nat) (event : Event) : Decidable (hub.Delivered channel event) :=
  inferInstanceAs (Decidable (∃ subscriber ∈ hub.gateway.subscribers,
    subscriber.id = channel ∧ event ∈ subscriber.consumed ++ subscriber.buffer))

def Hub.committedSince (hub : Hub) (count : Nat) : List Event :=
  (hub.events.drop count).filter fun event => event.gatewayID = hub.gateway.id

end ApiPlatform.EventHub
