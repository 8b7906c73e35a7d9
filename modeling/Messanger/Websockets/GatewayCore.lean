import Mathlib.Logic.Function.Basic
import Messanger.Chats.Models
import Messanger.Library.Processes
import Messanger.Library.Ranking

/-!
The connections of one gateway: what `ConnectionManager` keeps of them in memory and in Redis.
What a call does under the lock is one action and each pipeline is another, so that a call may be
interrupted between the two.  Presence, metrics and times to live are left out.
-/

namespace Messanger.Gateways

open Processes

abbrev ConnectionId := Nat

structure WSConnection where
  userId : UserId
  connectedAt : Nat
  deriving DecidableEq, Repr

/-- The connection objects by their ids, so that no two share one. -/
abbrev Connections := ConnectionId → WSConnection

/-- The sets and keys under `ws:route:user:…`, `ws:route:manager:…`, `ws:conn:…`, `ws:sub:chat:…`
and `ws:sub:conn:…`, as far as they are this gateway's. -/
structure Redis where
  userRoutes : List (UserId × ConnectionId) := []
  gatewayRoutes : List ConnectionId := []
  connectionKeys : List ConnectionId := []
  activeSubscriptions : List (String × UserId × ConnectionId) := []
  connectionSubscriptions : List (ConnectionId × String) := []
  deriving DecidableEq, Repr

/-- `evictions` are the tasks that `register` has created and that have not had the lock yet. -/
structure ConnectionManager where
  connectionsById : List ConnectionId := []
  connectionsByUser : UserId → Option (List ConnectionId) := fun _ => none
  subscriptions : ConnectionId → List String := fun _ => []
  closed : ConnectionId → Bool := fun _ => false
  evictions : List ConnectionId := []
  redis : Redis := {}

/-- An order in which Python goes through a set. -/
structure SetOrder where
  iterate : List ConnectionId → List ConnectionId
  perm : ∀ ids, (iterate ids).Perm ids

def SetOrder.insertion : SetOrder := ⟨id, fun _ => .refl _⟩

/-- An atomic step: a section under the lock, a pipeline, or a look. -/
inductive Op where
  | registering (conn : ConnectionId)
  | settingRoutes (conn : ConnectionId)
  | evicting (stale : List ConnectionId)
  | unregistering (conn : ConnectionId) (evicted : Bool)
  | droppingRoutes (conn : ConnectionId) (channels : List String)
  | closing (conn : ConnectionId)
  | returning (conn : ConnectionId)
  | subscribing (conn : ConnectionId) (channel : String)
  | addingSubscriptions (conn : ConnectionId) (channels : List String)
  | unsubscribing (conn : ConnectionId) (channel : String)
  | removingSubscription (conn : ConnectionId) (channel : String)
  | snapshot
  | looking (conn : ConnectionId)
  deriving DecidableEq, Repr

section Sections

variable (conns : Connections)

namespace Redis

variable (redis : Redis) (conn : ConnectionId)

def setRouteUsers : Redis :=
  { redis with
    userRoutes := redis.userRoutes.insert ((conns conn).userId, conn)
    gatewayRoutes := redis.gatewayRoutes.insert conn
    connectionKeys := redis.connectionKeys.insert conn }

def dropRoutes (channels : List String) : Redis where
  userRoutes := redis.userRoutes.filter (· ≠ ((conns conn).userId, conn))
  gatewayRoutes := redis.gatewayRoutes.filter (· ≠ conn)
  connectionKeys := redis.connectionKeys.filter (· ≠ conn)
  activeSubscriptions := redis.activeSubscriptions.filter fun entry =>
    !(channels.contains entry.1 && decide (entry.2 = ((conns conn).userId, conn)))
  connectionSubscriptions := redis.connectionSubscriptions.filter fun entry =>
    !(decide (entry.1 = conn) && channels.contains entry.2)

def addSubscriptions (channels : List String) : Redis :=
  { redis with
    activeSubscriptions :=
      redis.activeSubscriptions ∪ channels.map fun channel => (channel, (conns conn).userId, conn)
    connectionSubscriptions :=
      redis.connectionSubscriptions ∪ channels.map fun channel => (conn, channel) }

def removeSubscription (channel : String) : Redis :=
  { redis with
    activeSubscriptions :=
      redis.activeSubscriptions.filter (· ≠ (channel, (conns conn).userId, conn))
    connectionSubscriptions := redis.connectionSubscriptions.filter (· ≠ (conn, channel)) }

end Redis

namespace ConnectionManager

variable (manager : ConnectionManager) (conn : ConnectionId)

/-- `connections_by_user.get(user_id)`, empty when there is none. -/
def userConns (userId : UserId) : List ConnectionId :=
  (manager.connectionsByUser userId).getD []

/-- `register` under the lock; a dict keeps the place of a key it has. -/
def enter : ConnectionManager :=
  let userId := (conns conn).userId
  { manager with
    connectionsById :=
      if conn ∈ manager.connectionsById then manager.connectionsById
      else manager.connectionsById ++ [conn]
    connectionsByUser :=
      Function.update manager.connectionsByUser userId
        (some ((manager.userConns userId).insert conn)) }

/-- The connections that `register` closes, when the new one is among them already. -/
def staleToClose (limit : Nat) (order : SetOrder) : List ConnectionId :=
  let userConns := manager.userConns (conns conn).userId
  let overflow := userConns.length - limit
  Ranking.firstBy (fun other => (conns other).connectedAt) overflow
    ((order.iterate userConns).filter (· ∈ manager.connectionsById))

/-- `unregister` under the lock. -/
def leave (evicted : Bool) : ConnectionManager :=
  let userId := (conns conn).userId
  { manager with
    connectionsById := manager.connectionsById.filter (· ≠ conn)
    connectionsByUser :=
      match manager.connectionsByUser userId with
      | none => manager.connectionsByUser
      | some userConns =>
          let left := userConns.filter (· ≠ conn)
          Function.update manager.connectionsByUser userId (if left.isEmpty then none else some left)
    subscriptions := Function.update manager.subscriptions conn []
    evictions := if evicted then manager.evictions.erase conn else manager.evictions }

end ConnectionManager

def Op.effect : Op → ConnectionManager → ConnectionManager
  | .registering conn, manager => manager.enter conns conn
  | .settingRoutes conn, manager =>
      { manager with redis := manager.redis.setRouteUsers conns conn }
  | .evicting stale, manager => { manager with evictions := manager.evictions ++ stale }
  | .unregistering conn evicted, manager => manager.leave conns conn evicted
  | .droppingRoutes conn channels, manager =>
      { manager with redis := manager.redis.dropRoutes conns conn channels }
  | .closing conn, manager => { manager with closed := Function.update manager.closed conn true }
  | .returning _, manager => manager
  | .subscribing conn channel, manager =>
      { manager with
        subscriptions := Function.update manager.subscriptions conn
          ((manager.subscriptions conn).insert channel) }
  | .addingSubscriptions conn channels, manager =>
      { manager with redis := manager.redis.addSubscriptions conns conn channels }
  | .unsubscribing conn channel, manager =>
      { manager with
        subscriptions := Function.update manager.subscriptions conn
          ((manager.subscriptions conn).filter (· ≠ channel)) }
  | .removingSubscription conn channel, manager =>
      { manager with redis := manager.redis.removeSubscription conns conn channel }
  | .snapshot, manager => manager
  | .looking _, manager => manager

end Sections

/-- Where an `await` of `register` raises: before the pipeline of `set_route_users` is executed, or
after it, in `conn.start` or in `set_online`. -/
inductive RegisterFailure where
  | unwritten
  | written
  deriving DecidableEq, Repr

abbrev Handler := Process ConnectionManager Op RegisterFailure

section Calls

variable (conns : Connections) (limit : Nat)

/-- A step, and what the call has read in it. -/
def step {Answer : Type} (op : Op) (read : ConnectionManager → Answer) : Handler Answer :=
  .act op (op.effect conns) fun manager => .done (.ok (read manager))

def setRouteUsers (conn : ConnectionId) : Handler Unit :=
  step conns (.settingRoutes conn) fun _ => ()

/-- A register that raises leaves the connection in the dicts and creates no eviction. -/
def register (conn : ConnectionId) (order : SetOrder) (failure : Option RegisterFailure) :
    Handler Unit := do
  let staleToClose ← step conns (.registering conn) fun manager =>
    (manager.enter conns conn).staleToClose conns conn limit order
  if failure = some .unwritten then Process.raise .unwritten
  else do
    setRouteUsers conns conn
    if failure = some .written then Process.raise .written
    else step conns (.evicting (staleToClose.filter (· ≠ conn))) fun _ => ()

def unregister (conn : ConnectionId) (evicted : Bool) : Handler Unit := do
  let subscribedChannels ← step conns (.unregistering conn evicted) (·.subscriptions conn)
  step conns (.droppingRoutes conn subscribedChannels) fun _ => ()
  step conns (.closing conn) fun _ => ()
  step conns (.returning conn) fun _ => ()

def subscribeChannel (conn : ConnectionId) (channel : String) : Handler Unit := do
  step conns (.subscribing conn channel) fun _ => ()
  step conns (.addingSubscriptions conn [channel]) fun _ => ()

def unsubscribeChannel (conn : ConnectionId) (channel : String) : Handler Unit := do
  step conns (.unsubscribing conn channel) fun _ => ()
  step conns (.removingSubscription conn channel) fun _ => ()

/-- The loop of `_refresh_routes_loop` over the connections and their `subs_snapshot`. -/
def refreshRoutes : List (ConnectionId × List String) → Handler Unit
  | [] => pure ()
  | (conn, subscriptions) :: rest => do
      let closed ← step conns (.looking conn) (·.closed conn)
      if closed then do
        unregister conns conn false
        refreshRoutes rest
      else do
        setRouteUsers conns conn
        if subscriptions.isEmpty then refreshRoutes rest
        else do
          step conns (.addingSubscriptions conn subscriptions) fun _ => ()
          refreshRoutes rest

def refreshTick : Handler Unit := do
  let subsSnapshot ← step conns .snapshot fun manager =>
    manager.connectionsById.map fun conn => (conn, manager.subscriptions conn)
  refreshRoutes conns subsSnapshot

/-- `evicted` marks the task that a `register` created; `close` is what a failing writer or a missed
heartbeat does. -/
inductive ManagerCall where
  | register (conn : ConnectionId) (order : SetOrder) (failure : Option RegisterFailure)
  | unregister (conn : ConnectionId) (evicted : Bool)
  | subscribeChannel (conn : ConnectionId) (channel : String)
  | unsubscribeChannel (conn : ConnectionId) (channel : String)
  | refreshTick
  | close (conn : ConnectionId)

def ManagerCall.handle : ManagerCall → Handler Unit
  | .register conn order failure => Gateways.register conns limit conn order failure
  | .unregister conn evicted => Gateways.unregister conns conn evicted
  | .subscribeChannel conn channel => Gateways.subscribeChannel conns conn channel
  | .unsubscribeChannel conn channel => Gateways.unsubscribeChannel conns conn channel
  | .refreshTick => Gateways.refreshTick conns
  | .close conn => step conns (.closing conn) fun _ => ()

end Calls

abbrev ManagerScene := Scene ConnectionManager Op ManagerCall RegisterFailure Unit

abbrev ManagerEntry := Entry ConnectionManager Op ManagerCall RegisterFailure Unit

abbrev ManagerSite := Site ConnectionManager Op ManagerCall RegisterFailure Unit

end Messanger.Gateways
