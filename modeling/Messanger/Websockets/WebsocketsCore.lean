import Messanger.Library.Uuid
import Messanger.Messages.QueriesCore
import Messanger.Reactions.ReactionsCore

/-!
The WebSocket gateways, what they keep in memory and in Redis about connections and
subscriptions, the socket commands that subscribe and replay, and the router that puts the events
of a chat on the streams of the gateways.
-/

namespace Messanger

open Relational

abbrev ConnectionId := Nat
abbrev GatewayId := Nat

/-- The value `user:gateway:connection` the subscription and route sets hold. -/
structure Route where
  userId : UserId
  gatewayId : GatewayId
  connectionId : ConnectionId
  deriving DecidableEq, Repr

inductive ChatFanoutStrategy where
  | fanoutOnWrite
  | activeSubscribers
  | channelSubscribers
  deriving DecidableEq, Repr

/-- `FAN_OUT_WRITE_THRESHOLD` is 500. -/
def resolveFanoutStrategy (type : ChatType) (memberCount : Int) : ChatFanoutStrategy :=
  if type = .channel then .channelSubscribers
  else if type = .supergroup then .activeSubscribers
  else if type = .group ∧ 500 < memberCount then .activeSubscribers
  else .fanoutOnWrite

/-- What the router is given: an event of the chat topic, a reaction snapshot of the coalescing
queue, or a typing signal with the strategy its command found. -/
inductive RoutedEvent where
  | broker (event : ChatEvent)
  | reaction (snapshot : ReactionUpdatedEvent)
  | typing (chatId : ChatId) (strategy : ChatFanoutStrategy) (userId : UserId) (expiresAt : Nat)
  deriving DecidableEq, Repr

def ChatEvent.chatId : ChatEvent → ChatId
  | .createdChat chatId _ _ _ _ => chatId
  | .updatedChat chatId _ => chatId
  | .transferredChatOwnership chatId _ _ _ => chatId
  | .deletedChat chatId _ => chatId
  | .addedChatMember chatId _ _ => chatId
  | .kickedChatMember chatId _ _ => chatId
  | .bannedChatMember chatId _ _ _ => chatId
  | .mutedChatMember chatId _ _ _ _ => chatId
  | .leftChatMember chatId _ => chatId
  | .createdChatJoinRequest chatId _ _ _ => chatId
  | .approvedChatJoinRequests chatId _ _ _ => chatId
  | .declinedChatJoinRequests chatId _ _ _ _ => chatId
  | .cancelledChatJoinRequest chatId _ => chatId
  | .sendedMessage _ chatId _ _ _ _ => chatId
  | .modifiedMessage _ chatId _ _ => chatId
  | .deletedMessage _ chatId _ _ => chatId
  | .pinnedMessage chatId _ _ _ _ => chatId
  | .unpinnedMessages chatId _ _ _ => chatId
  | .readedMessage chatId _ _ => chatId

namespace RoutedEvent

def chatId : RoutedEvent → ChatId
  | .broker event => event.chatId
  | .reaction snapshot => snapshot.chatId
  | .typing chatId _ _ _ => chatId

/-- `MEMBER_REMOVED_EVENT_FIELDS`, and the check on `ban`. -/
def removedMember? : RoutedEvent → Option UserId
  | .broker (.kickedChatMember _ _ targetUserId) => some targetUserId
  | .broker (.bannedChatMember _ _ targetUserId ban) => if ban then some targetUserId else none
  | .broker (.leftChatMember _ userId) => some userId
  | _ => none

/-- The applicants of a `JOIN_REQUEST_STAFF_EVENTS` event; none for an event of another kind. -/
def joinRequest? : RoutedEvent → Option (List UserId)
  | .broker (.createdChatJoinRequest _ _ _ _) => some []
  | .broker (.approvedChatJoinRequests _ userIds _ _) => some userIds
  | .broker (.declinedChatJoinRequests _ userIds _ _ _) => some userIds
  | .broker (.cancelledChatJoinRequest _ _) => some []
  | _ => none

def excludeUserIds : RoutedEvent → List UserId
  | .typing _ _ userId _ => [userId]
  | _ => []

def expiresAt : RoutedEvent → Option Nat
  | .typing _ _ _ expiresAt => some expiresAt
  | _ => none

def published (db : Db) : RoutedEvent → Bool
  | .broker event => db.outbox.contains event
  | _ => true

end RoutedEvent

structure DeliveryDTO where
  payload : RoutedEvent
  channel : String
  requireSubscription : Bool
  recipients : List UserId
  expiresAt : Option Nat
  deriving DecidableEq, Repr

/-- An entry of the stream of a gateway; `routing` tells which routing put it there. -/
structure StreamEntry where
  gatewayId : GatewayId
  routing : Nat
  event : DeliveryDTO
  deriving DecidableEq, Repr

inductive Frame where
  | subscribed (chatId : String) (lastSeq : Option Int)
  | history (chatId : String) (replay : ReplayDTO)
  | unsubscribed (chatId : String)
  | notChatMember
  | maxLimitCursor
  | delivery (entry : StreamEntry)
  deriving DecidableEq, Repr

/-- `queued` counts the frames that wait in `send_queue`. -/
structure WSConnection where
  connectionId : ConnectionId
  userId : UserId
  gatewayId : GatewayId
  subscriptions : List String := []
  queued : Nat := 0
  closed : Bool := false
  deriving DecidableEq, Repr

def wsSendQueueSize : Nat := 256

namespace WSConnection

def route (conn : WSConnection) : Route := ⟨conn.userId, conn.gatewayId, conn.connectionId⟩

def accepts (conn : WSConnection) : Bool := !conn.closed && decide (conn.queued < wsSendQueueSize)

end WSConnection

/-- The sets in Redis under `ws:sub:chat:…`, `ws:conn:…` and `ws:route:user:…`, and the stream
entries that are not acknowledged. -/
structure Redis where
  activeSubscriptions : List (String × Route) := []
  connectionKeys : List ConnectionId := []
  userRoutes : List Route := []
  streams : List StreamEntry := []

namespace Redis

def addSubscription (redis : Redis) (channel : String) (route : Route) : Redis :=
  { redis with activeSubscriptions := redis.activeSubscriptions.insert (channel, route) }

def removeSubscription (redis : Redis) (channel : String) (route : Route) : Redis :=
  { redis with activeSubscriptions := redis.activeSubscriptions.filter (· ≠ (channel, route)) }

def setRouteUsers (redis : Redis) (route : Route) : Redis :=
  { redis with
    connectionKeys := redis.connectionKeys.insert route.connectionId
    userRoutes := redis.userRoutes.insert route }

/-- The keys `unregister` removes. -/
def dropRoute (redis : Redis) (route : Route) (subscriptions : List String) : Redis :=
  { redis with
    activeSubscriptions := redis.activeSubscriptions.filter fun (channel, other) =>
      !(decide (other = route) && subscriptions.contains channel)
    connectionKeys := redis.connectionKeys.filter (· ≠ route.connectionId)
    userRoutes := redis.userRoutes.filter (· ≠ route) }

end Redis

/-- `chunks`: batches of the given size, the last one perhaps smaller. -/
def chunksAfter {Item : Type} (size : Nat) : List Item → List Item → List (List Item)
  | batch, [] => if batch.isEmpty then [] else [batch]
  | batch, item :: rest =>
      if size ≤ (batch ++ [item]).length then (batch ++ [item]) :: chunksAfter size [] rest
      else chunksAfter size (batch ++ [item]) rest

def chunks {Item : Type} (size : Nat) (items : List Item) : List (List Item) :=
  chunksAfter size [] items

abbrev RouteMap := List (GatewayId × List UserId)

def routesByGateway (routes : List Route) : RouteMap :=
  (routes.map (·.gatewayId)).eraseDups.map fun gatewayId =>
    (gatewayId, ((routes.filter (·.gatewayId == gatewayId)).map (·.userId)).eraseDups)

def RouteMap.without (routes : RouteMap) (excludeUserIds : List UserId) : RouteMap :=
  (routes.map fun (gatewayId, users) =>
    (gatewayId, users.filter fun userId => !excludeUserIds.contains userId)).filter
      fun (_, users) => !users.isEmpty

section Routing

variable (db : Db) (now : Nat) (redis : Redis)

/-- `iter_delivery_members`, the pages in one list. -/
def Db.activeMembers (chatId : ChatId) : List UserId :=
  ((db.members.select fun member => member.chatId == chatId && !member.isBanned now).map
    (·.userId)).insertionSort (· ≤ ·)

/-- `user_ids_with_permission` for `member:invite`; `JOIN_REQUEST_FANOUT_LIMIT` is 200. -/
def Db.joinRequestStaff (chatId : ChatId) : List UserId :=
  ((db.members.select fun member => member.chatId == chatId && !member.isBanned now &&
    member.roleId.permissions.contains .memberInvite &&
    (member.permissionsOverrides.lookup .memberInvite).getD true).map (·.userId)).take 200

def lookupOnlineRoutes (userIds : List UserId) : RouteMap :=
  routesByGateway (redis.userRoutes.filter fun route => userIds.contains route.userId)

/-- `_iter_active_subscriber_routes`: the routes of the set in batches, those whose connection key
is gone left out. -/
def activeSubscriberRoutes (channel : String) : List RouteMap :=
  (chunks 1000 ((redis.activeSubscriptions.filter (·.1 == channel)).map (·.2))).map fun batch =>
    routesByGateway (batch.filter fun route => redis.connectionKeys.contains route.connectionId)

/-- `_enqueue_gateway_deliveries`. -/
def gatewayDeliveries (routing : Nat) (event : RoutedEvent) (requireSubscription : Bool)
    (routes : RouteMap) : List StreamEntry :=
  routes.flatMap fun (gatewayId, users) =>
    (chunks 1000 (users.insertionSort (· ≤ ·))).map fun recipients =>
      ⟨gatewayId, routing, event, Python.strUuid event.chatId, requireSubscription, recipients,
        event.expiresAt⟩

def fanoutStrategy? : RoutedEvent → Option ChatFanoutStrategy
  | .typing _ strategy _ _ => some strategy
  | .reaction snapshot =>
      (db.openChat? snapshot.chatId).map fun chat => resolveFanoutStrategy chat.type chat.memberCount
  | .broker (.deletedChat chatId _) =>
      (db.chat? chatId).map fun chat => resolveFanoutStrategy chat.type chat.memberCount
  | .broker (.sendedMessage messageId chatId _ _ _ _) =>
      if (db.liveMessage? messageId).isSome then
        (db.openChat? chatId).map fun chat => resolveFanoutStrategy chat.type chat.memberCount
      else none
  | .broker (.modifiedMessage messageId chatId _ _) =>
      if (db.liveMessage? messageId).isSome then
        (db.openChat? chatId).map fun chat => resolveFanoutStrategy chat.type chat.memberCount
      else none
  | .broker event =>
      (db.openChat? event.chatId).map fun chat => resolveFanoutStrategy chat.type chat.memberCount

def routeFanoutOnWrite (routing : Nat) (event : RoutedEvent) : List StreamEntry :=
  (chunks 500 (db.activeMembers now event.chatId)).flatMap fun batch =>
    gatewayDeliveries routing event false
      (lookupOnlineRoutes redis (batch.filter fun userId => !event.excludeUserIds.contains userId))

def routeToActiveSubscribers (routing : Nat) (event : RoutedEvent) : List StreamEntry :=
  (activeSubscriberRoutes redis (Python.strUuid event.chatId)).flatMap fun routes =>
    gatewayDeliveries routing event true (routes.without event.excludeUserIds)

def routeJoinRequest (routing : Nat) (event : RoutedEvent) (applicants : List UserId) :
    List StreamEntry :=
  gatewayDeliveries routing event false
    (lookupOnlineRoutes redis (db.joinRequestStaff now event.chatId ++ applicants).eraseDups)

def routeToRemovedMember (routing : Nat) (event : RoutedEvent) : List StreamEntry :=
  match event.removedMember? with
  | some userId => gatewayDeliveries routing event false (lookupOnlineRoutes redis [userId])
  | none => []

/-- The entries one routing adds: `route_broker_message`, `route_reaction_snapshot` and
`route_ephemeral`. -/
def dispatch (routing : Nat) (event : RoutedEvent) : List StreamEntry :=
  match fanoutStrategy? db event with
  | none => []
  | some strategy =>
      match event.joinRequest? with
      | some applicants => routeJoinRequest db now redis routing event applicants
      | none =>
          routeToRemovedMember redis routing event ++
            (if strategy = .fanoutOnWrite then routeFanoutOnWrite db now redis routing event
            else routeToActiveSubscribers redis routing event)

end Routing

/-- One chat of a `subscribe` or `resume` command: asked for, found to be a member's, held in the
connection's memory, stored in Redis. -/
inductive CallStage where
  | asked
  | checked
  | held
  | stored
  deriving DecidableEq, Repr

inductive CallKind where
  | subscribe
  | resume
  deriving DecidableEq, Repr

structure ChatCall where
  kind : CallKind
  conn : Route
  chatId : String
  lastSeq : Option Int
  stage : CallStage := .asked
  deriving DecidableEq, Repr

/-- `get_chat_messages_after_seq`, one row more than the page. -/
def Db.messagesAfterSeq (db : Db) (chatId : ChatId) (lastSeq limit : Nat) : List Message :=
  (oldestFirst (db.liveMessages chatId fun message => decide (lastSeq < message.seq))).take
    (limit + 1)

/-- The page a `ws.history` frame carries. -/
def Db.replay (db : Db) (chatId : ChatId) (cursorSeq : Int) (limit : Nat) : ReplayDTO :=
  let lastSeq := cursorSeq.toNat
  let messages := db.messagesAfterSeq chatId lastSeq limit
  let batch := messages.take limit
  { afterSeq := lastSeq
    messages := batch.map db.loadNested
    hasMore := decide (limit < messages.length)
    nextLastSeq := (batch.getLast?.map (·.seq)).getD lastSeq }

/-- The database, the clock, the connections of all gateways, Redis, the socket commands and
refresh ticks under way, and every frame a connection has taken into its send queue.
`replayLimit` is `WS_REPLAY_BATCH_SIZE`. -/
structure Hub where
  replayLimit : Nat := 50
  store : System Db Write RowKey ChatError
  now : Nat := 0
  connections : Table WSConnection ConnectionId WSConnection.connectionId := .empty
  redis : Redis := {}
  calls : List ChatCall := []
  ticks : List WSConnection := []
  sent : List (Route × Frame) := []
  routings : Nat := 0

namespace Hub

abbrev conn? (hub : Hub) (connectionId : ConnectionId) : Option WSConnection :=
  hub.connections.find? connectionId

def change (hub : Hub) (route : Route) (amend : WSConnection → WSConnection)
    (keeps : ∀ conn, (amend conn).connectionId = conn.connectionId) : Hub :=
  { hub with
    connections := hub.connections.update (fun conn => decide (conn.route = route)) amend keeps }

def trySend (hub : Hub) (route : Route) (frame : Frame) : Hub :=
  match hub.conn? route.connectionId with
  | none => hub
  | some conn =>
      if conn.route = route ∧ conn.accepts then
        { hub.change route (fun conn => { conn with queued := conn.queued + 1 }) fun _ => rfl with
          sent := hub.sent ++ [(route, frame)] }
      else hub

/-- The connections `send_to_users_local` of the entry's gateway picks. -/
def targets (hub : Hub) (entry : StreamEntry) : List Route :=
  entry.event.recipients.flatMap fun userId =>
    ((hub.connections.select fun conn =>
      conn.userId == userId && conn.gatewayId == entry.gatewayId &&
        (!entry.event.requireSubscription || conn.subscriptions.contains entry.event.channel)).map
          (·.route))

/-- `_process_gateway_stream_entry`. -/
def deliver (hub : Hub) (entry : StreamEntry) : Hub :=
  if entry.event.expiresAt.any fun limit => decide (limit ≤ hub.now) then hub
  else (hub.targets entry).foldl (fun hub route => hub.trySend route (.delivery entry)) hub

def unregister (hub : Hub) (connectionId : ConnectionId) : Hub :=
  match hub.conn? connectionId with
  | none => hub
  | some conn =>
      { hub with
        connections := hub.connections.delete fun other => decide (other.route = conn.route)
        redis := hub.redis.dropRoute conn.route conn.subscriptions }

def admits (hub : Hub) (userId : UserId) (chatId : ChatId) : Bool :=
  match hub.store.db.member? chatId userId with
  | none => false
  | some member => !member.isBanned hub.now

/-- How a call goes on; none when it has ended.  A spelling `UUID()` does not read raises. -/
def advance (hub : Hub) (call : ChatCall) : Hub × Option ChatCall :=
  match call.stage with
  | .asked =>
      match Python.uuid? call.chatId with
      | none => (hub, none)
      | some chatId =>
          if hub.admits call.conn.userId chatId then (hub, some { call with stage := .checked })
          else (hub.trySend call.conn .notChatMember, none)
  | .checked =>
      (hub.change call.conn (fun conn =>
          { conn with subscriptions := conn.subscriptions.insert call.chatId }) fun _ => rfl,
        some { call with stage := .held })
  | .held =>
      let stored := { hub with redis := hub.redis.addSubscription call.chatId call.conn }
      match call.kind, Python.uuid? call.chatId with
      | .resume, _ =>
          (stored.trySend call.conn (.subscribed call.chatId call.lastSeq),
            some { call with stage := .stored })
      | .subscribe, some chatId =>
          (stored.trySend call.conn (.subscribed (Python.strUuid chatId) call.lastSeq),
            if call.lastSeq.isSome then some { call with stage := .stored } else none)
      | .subscribe, none => (stored, none)
  | .stored =>
      match Python.uuid? call.chatId, call.lastSeq with
      | some chatId, some lastSeq =>
          let replay := hub.store.db.replay chatId lastSeq hub.replayLimit
          let shown := match call.kind with
            | .subscribe => Python.strUuid chatId
            | .resume => call.chatId
          (hub.trySend call.conn (.history shown replay), none)
      | _, _ => (hub, none)

def refresh (hub : Hub) (found : WSConnection) : Hub :=
  match hub.conn? found.connectionId with
  | none => { hub with redis := hub.redis.dropRoute found.route [] }
  | some conn =>
      if conn.closed then hub.unregister found.connectionId
      else
        { hub with
          redis := found.subscriptions.foldl (fun redis channel =>
            redis.addSubscription channel found.route) (hub.redis.setRouteUsers found.route) }

inductive Step where
  | store (label : Label Db Write RowKey ChatError)
  | wait (duration : Nat)
  | register (connectionId : ConnectionId) (userId : UserId) (gatewayId : GatewayId)
  | unregister (connectionId : ConnectionId)
  | close (route : Route)
  | drain (route : Route)
  | subscribe (route : Route) (chatId : String) (lastSeq : Option Int)
  | resume (route : Route) (cursors : List (String × Int))
  | advance (call : Nat)
  | unsubscribe (route : Route) (chatId : String)
  | snapshot (gatewayId : GatewayId)
  | refresh
  | expireConnection (connectionId : ConnectionId)
  | expireSubscriptions (channel : String)
  | expireRoutes (userId : UserId)
  | route (event : RoutedEvent)
  | process (entry : Nat) (acknowledged : Bool)

/-- What may happen next.  An entry whose processing fails stays in its stream and is claimed
again. -/
def step (hub : Hub) : Step → Option Hub
  | .store label =>
      match hub.store.step label with
      | none => none
      | some store => some { hub with store := store }
  | .wait duration => some { hub with now := hub.now + duration }
  | .register connectionId userId gatewayId =>
      match hub.conn? connectionId with
      | some _ => none
      | none =>
          some { hub with
            connections := hub.connections.insert
              { connectionId := connectionId, userId := userId, gatewayId := gatewayId }
            redis := hub.redis.setRouteUsers ⟨userId, gatewayId, connectionId⟩ }
  | .unregister connectionId => some (hub.unregister connectionId)
  | .close route => some (hub.change route (fun conn => { conn with closed := true }) fun _ => rfl)
  | .drain route =>
      some (hub.change route (fun conn => { conn with queued := conn.queued - 1 }) fun _ => rfl)
  | .subscribe route chatId lastSeq =>
      some { hub with calls := hub.calls ++
        [{ kind := .subscribe, conn := route, chatId := chatId, lastSeq := lastSeq }] }
  | .resume route cursors =>
      if 20 < cursors.length then some (hub.trySend route .maxLimitCursor)
      else
        some { hub with calls := hub.calls ++ cursors.map fun (chatId, cursorSeq) =>
          { kind := .resume, conn := route, chatId := chatId, lastSeq := some cursorSeq } }
  | .advance index =>
      match hub.calls[index]? with
      | none => none
      | some call =>
          match hub.advance call with
          | (after, some next) => some { after with calls := hub.calls.set index next }
          | (after, none) => some { after with calls := hub.calls.eraseIdx index }
  | .unsubscribe route chatId =>
      let dropped := hub.change route (fun conn =>
        { conn with subscriptions := conn.subscriptions.filter (· ≠ chatId) }) fun _ => rfl
      some (({ dropped with redis := hub.redis.removeSubscription chatId route }).trySend route
        (.unsubscribed chatId))
  | .snapshot gatewayId =>
      some { hub with
        ticks := hub.ticks ++ hub.connections.select fun conn => conn.gatewayId == gatewayId }
  | .refresh =>
      match hub.ticks with
      | [] => none
      | found :: rest => some { hub.refresh found with ticks := rest }
  | .expireConnection connectionId =>
      some { hub with redis := { hub.redis with
        connectionKeys := hub.redis.connectionKeys.filter (· ≠ connectionId) } }
  | .expireSubscriptions channel =>
      some { hub with redis := { hub.redis with
        activeSubscriptions := hub.redis.activeSubscriptions.filter (·.1 ≠ channel) } }
  | .expireRoutes userId =>
      some { hub with redis := { hub.redis with
        userRoutes := hub.redis.userRoutes.filter (·.userId ≠ userId) } }
  | .route event =>
      if event.published hub.store.db then
        some { hub with
          redis := { hub.redis with
            streams := hub.redis.streams ++
              dispatch hub.store.db hub.now hub.redis hub.routings event }
          routings := hub.routings + 1 }
      else none
  | .process index acknowledged =>
      match hub.redis.streams[index]? with
      | none => none
      | some entry =>
          let delivered := hub.deliver entry
          some { delivered with redis := { hub.redis with
            streams := if acknowledged then hub.redis.streams.eraseIdx index
              else hub.redis.streams } }

end Hub

end Messanger
