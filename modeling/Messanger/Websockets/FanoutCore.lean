import Messanger.Library.Walking
import Messanger.Websockets.WebsocketsCore

/-!
`ChatDeliveryRouter` as it works on Redis: the route sets hold texts, members come in pages
and lookups in batches, and everything is read at a time of its own, while members come and go
and connections open and close.
-/

namespace Messanger.Fanout

open Relational

/-- What one read may find: the tables, the clock and the sets under `ws:route:user:…`. -/
structure World where
  db : Db
  now : Nat
  userRoutes : Int → List String

/-- The world at each read of the router, however the others have changed it meanwhile. -/
abbrev Course := Nat → World

structure Sizes where
  memberBatch : Nat
  routeLookupBatch : Nat
  usersPerEntry : Nat
  memberBatch_pos : 0 < memberBatch
  routeLookupBatch_pos : 0 < routeLookupBatch
  usersPerEntry_pos : 0 < usersPerEntry

/-- The sizes of `ChatConfig` and of the application's configuration. -/
def Sizes.configured : Sizes where
  memberBatch := 2000
  routeLookupBatch := 500
  usersPerEntry := 1000
  memberBatch_pos := Nat.succ_pos _
  routeLookupBatch_pos := Nat.succ_pos _
  usersPerEntry_pos := Nat.succ_pos _

/-- An entry of the stream of a gateway. -/
structure Entry where
  gatewayId : String
  event : RoutedEvent
  requireSubscription : Bool
  recipients : List Int
  expiresAt : Option Nat
  deriving DecidableEq, Repr

structure RouteMap where
  entries : List (String × List Int) := []
  gateways : (entries.map Prod.fst).Nodup := by exact .nil
  users : ∀ entry ∈ entries, entry.2.Nodup := by exact fun _ absent => (List.not_mem_nil absent).elim

namespace RouteMap

def insertUser (entries : List (String × List Int)) (gatewayId : String) (userId : Int) :
    List (String × List Int) :=
  if gatewayId ∈ entries.map Prod.fst then
    entries.map fun entry => if entry.1 = gatewayId then (entry.1, entry.2.insert userId) else entry
  else entries ++ [(gatewayId, [userId])]

theorem gateways_insertUser {entries : List (String × List Int)}
    (distinct : (entries.map Prod.fst).Nodup) (gatewayId : String) (userId : Int) :
    ((insertUser entries gatewayId userId).map Prod.fst).Nodup := by
  unfold insertUser
  split
  · rw [List.map_map]
    have same : (Prod.fst ∘ fun entry : String × List Int =>
        if entry.1 = gatewayId then (entry.1, entry.2.insert userId) else entry) = Prod.fst := by
      funext entry
      simp only [Function.comp_apply]
      split
      · rfl
      · rfl
    rw [same]
    exact distinct
  · rename_i absent
    rw [List.map_append, List.map_singleton]
    refine List.nodup_append.mpr ⟨distinct, List.nodup_singleton _, ?_⟩
    rintro other member _ listed rfl
    have same : other = gatewayId := List.mem_singleton.mp listed
    exact absent (same ▸ member)

theorem users_insertUser {entries : List (String × List Int)}
    (distinct : ∀ entry ∈ entries, entry.2.Nodup) (gatewayId : String) (userId : Int) :
    ∀ entry ∈ insertUser entries gatewayId userId, entry.2.Nodup := by
  intro entry member
  unfold insertUser at member
  split at member
  · obtain ⟨original, inside, rfl⟩ := List.mem_map.mp member
    split
    · exact (distinct original inside).insert
    · exact distinct original inside
  · rcases List.mem_append.mp member with old | new
    · exact distinct entry old
    · rw [List.mem_singleton.mp new]
      exact List.nodup_singleton _

/-- `routes_by_gateway.setdefault(gateway_id, set()).add(user_id)`. -/
def add (routes : RouteMap) (gatewayId : String) (userId : Int) : RouteMap where
  entries := insertUser routes.entries gatewayId userId
  gateways := gateways_insertUser routes.gateways gatewayId userId
  users := users_insertUser routes.users gatewayId userId

end RouteMap

/-- `route.partition(":")` on a route of a user; none when the route is stale. -/
def userRoute? (route : String) : Option (String × String) :=
  let gatewayId := route.toList.takeWhile (· != ':')
  let connectionId := (route.toList.dropWhile (· != ':')).drop 1
  if gatewayId.isEmpty || connectionId.isEmpty then none
  else some (String.ofList gatewayId, String.ofList connectionId)

/-- A row of `iter_delivery_members`. -/
structure DeliveryMember where
  userId : Int
  notificationsMutedUntil : Option Nat
  deriving DecidableEq, Repr

/-- The members of the chat that are not banned. -/
def World.deliveryMembers (world : World) (chatId : ChatId) : List DeliveryMember :=
  (world.db.members.select fun member => member.chatId == chatId && !member.isBanned world.now).map
    fun member => ⟨(member.userId : Int), member.state.notificationsMutedUntil⟩

def DeliveryMember.isUnmuted (now : Nat) (member : DeliveryMember) : Bool :=
  match member.notificationsMutedUntil with
  | none => true
  | some limit => decide (limit ≤ now)

def unmuted (now : Nat) (members : List DeliveryMember) : List Int :=
  (members.filter (·.isUnmuted now)).map (·.userId)

/-- `iter_delivery_members`, one page: the members past the last one, in order. -/
def World.memberPage (world : World) (chatId : ChatId) (lastUserId : Int) (batchSize : Nat) :
    List DeliveryMember :=
  Walking.batch DeliveryMember.userId batchSize (some lastUserId) (world.deliveryMembers chatId)

section Routing

variable (sizes : Sizes) (course : Course)

/-- The `SMEMBERS` of a pipeline, one after the other from a given read on. -/
def smembers : Nat → List Int → List (Int × List String)
  | _, [] => []
  | reads, userId :: rest =>
      (userId, (course reads).userRoutes userId) :: smembers (reads + 1) rest

def addRoutes (routes : RouteMap) (found : Int × List String) : RouteMap :=
  found.2.foldl (fun routes route =>
    match userRoute? route with
    | some (gatewayId, _) => routes.add gatewayId found.1
    | none => routes) routes

def lookupOnlineRoutes (reads : Nat) (userIds : List Int) : RouteMap :=
  (smembers course reads userIds).foldl addRoutes {}

def gatewayEntries (event : RoutedEvent) (requireSubscription : Bool) (gatewayId : String)
    (userIds : List Int) : List Entry :=
  (chunks sizes.usersPerEntry (userIds.insertionSort (· ≤ ·))).map fun userChunk =>
    ⟨gatewayId, event, requireSubscription, userChunk, event.expiresAt⟩

def enqueueGatewayDeliveries (routes : RouteMap) (event : RoutedEvent)
    (requireSubscription : Bool) : List Entry :=
  routes.entries.flatMap fun entry =>
    gatewayEntries sizes event requireSubscription entry.1 entry.2

/-- Who has sent a message that is to be signalled to members who are offline. -/
def offlineSignal? : RoutedEvent → Option (Option UserId)
  | .broker (.sendedMessage _ _ _ senderId _ notify) => if notify then some senderId else none
  | _ => none

def offlineRecipients (senderId : Option UserId) (lookupBatch : List Int) (routes : RouteMap) :
    List Int :=
  (lookupBatch.eraseDups.filter fun userId =>
    !(routes.entries.any fun entry => entry.2.contains userId) &&
      !decide (senderId.map Int.ofNat = some userId)).insertionSort (· ≤ ·)

/-- How far the router has come. -/
structure Routing where
  reads : Nat := 0
  entries : List Entry := []
  offlineUserIds : List Int := []

variable (event : RoutedEvent)

def lookedUp (members : List DeliveryMember) : List Int :=
  (members.map (·.userId)).filter fun userId =>
    !(event.excludeUserIds.map Int.ofNat).contains userId

def routeMemberBatch (routing : Routing) (members : List DeliveryMember) : Routing :=
  let lookupBatch := lookedUp event members
  let routes := lookupOnlineRoutes course routing.reads lookupBatch
  let reads := routing.reads + lookupBatch.length
  { reads := reads
    entries := routing.entries ++ enqueueGatewayDeliveries sizes routes event false
    offlineUserIds := routing.offlineUserIds ++
      match offlineSignal? event with
      | some senderId => offlineRecipients senderId (unmuted (course reads).now members) routes
      | none => [] }

/-- The pages of `iter_delivery_members` from a member on; none when the pages do not end. -/
def routePages : Nat → Int → Routing → Option Routing
  | 0, _, _ => none
  | pages + 1, lastUserId, routing =>
      let members := (course routing.reads).memberPage event.chatId lastUserId sizes.memberBatch
      let read := { routing with reads := routing.reads + 1 }
      match members.getLast? with
      | none => some read
      | some last =>
          routePages pages last.userId
            ((chunks sizes.routeLookupBatch members).foldl
              (routeMemberBatch sizes course event) read)

/-- `_route_fanout_on_write`: the entries that are put on the streams and the list of the offline
signal, which is sent when it names someone. -/
def routeFanoutOnWrite (pages : Nat) : Option Routing := routePages sizes course event pages (-1) {}

end Routing

end Messanger.Fanout
