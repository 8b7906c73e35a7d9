import Messanger.Websockets.GatewayCore

/-!
What a gateway writes to Redis about a connection, and what is left of it after `unregister`.  The
pipelines are issued after the lock is released, and a refresh tick writes what it saw at its start,
so that a write may come after the removal it does not know of.
-/

namespace Messanger.Gateways

open Processes

section Traces

variable (conns : Connections)

def Redis.Routed (redis : Redis) (conn : ConnectionId) : Prop :=
  ((conns conn).userId, conn) ∈ redis.userRoutes ∨ conn ∈ redis.gatewayRoutes ∨
    conn ∈ redis.connectionKeys

def Redis.Listed (redis : Redis) (conn : ConnectionId) (channel : String) : Prop :=
  (channel, (conns conn).userId, conn) ∈ redis.activeSubscriptions ∨
    (conn, channel) ∈ redis.connectionSubscriptions

structure Redis.Absent (redis : Redis) (conn : ConnectionId) : Prop where
  routes : ¬redis.Routed conns conn
  subscriptions : ∀ channel, ¬redis.Listed conns conn channel

variable {conns} {redis : Redis} {conn other : ConnectionId} {channel : String}
  {channels : List String}

theorem routed_setRouteUsers : (redis.setRouteUsers conns conn).Routed conns other ↔
    other = conn ∨ redis.Routed conns other := by
  simp only [Redis.Routed, Redis.setRouteUsers, List.mem_insert_iff, Prod.mk.injEq]
  by_cases same : other = conn
  · simp [same]
  · simp [same]

theorem routed_dropRoutes : (redis.dropRoutes conns conn channels).Routed conns other ↔
    redis.Routed conns other ∧ other ≠ conn := by
  simp only [Redis.Routed, Redis.dropRoutes, List.mem_filter, decide_eq_true_eq, ne_eq,
    Prod.mk.injEq]
  by_cases same : other = conn
  · simp [same]
  · simp [same]

theorem listed_dropRoutes : (redis.dropRoutes conns conn channels).Listed conns other channel ↔
    redis.Listed conns other channel ∧ ¬(other = conn ∧ channel ∈ channels) := by
  simp only [Redis.Listed, Redis.dropRoutes, List.mem_filter, Bool.not_eq_true',
    Bool.and_eq_false_iff, decide_eq_false_iff_not, List.contains_eq_mem, Prod.mk.injEq]
  by_cases same : other = conn
  · subst same
    simp only [true_and, and_true, not_true_eq_false, false_or, or_false]
    tauto
  · simp [same]

theorem listed_addSubscriptions :
    (redis.addSubscriptions conns conn channels).Listed conns other channel ↔
      (other = conn ∧ channel ∈ channels) ∨ redis.Listed conns other channel := by
  simp only [Redis.Listed, Redis.addSubscriptions, List.mem_union_iff, List.mem_map, Prod.mk.injEq]
  by_cases same : other = conn
  · subst same
    simp only [true_and, and_true, exists_eq_right]
    tauto
  · simp [same, Ne.symm same]

theorem listed_removeSubscription {removed : String} :
    (redis.removeSubscription conns conn removed).Listed conns other channel ↔
      redis.Listed conns other channel ∧ ¬(other = conn ∧ channel = removed) := by
  simp only [Redis.Listed, Redis.removeSubscription, List.mem_filter, decide_eq_true_eq, ne_eq,
    Prod.mk.injEq]
  by_cases same : other = conn
  · subst same
    simp only [true_and, and_true]
    tauto
  · simp [same]

end Traces

section Rules

variable (conns : Connections)

/-- A call in which the last step so far was this one, and that began before any `unregister` of the
connection had returned. -/
structure Pending (scene : ManagerScene) (conn : ConnectionId) (index : Nat)
    (task : Opened ManagerCall) (entry : ManagerEntry) : Prop where
  opened : scene.opened[index]? = some task
  running : scene.Running index
  last : (scene.own index).getLast? = some entry
  early : Scene.Earlier (fun past returned => returned.label = .returning conn →
    task.since ≤ past.length) scene.history

def Unregisters (entry : ManagerEntry) (conn : ConnectionId) : Prop :=
  ∃ evicted, entry.label = .unregistering conn evicted

def Covered (scene : ManagerScene) (conn : ConnectionId) : Prop :=
  conn ∈ scene.world.connectionsById ∨
    ∃ index task entry, Pending scene conn index task entry ∧ Unregisters entry conn

def Drops (entry : ManagerEntry) (conn : ConnectionId) (channel : String) : Prop :=
  (Unregisters entry conn ∧ channel ∈ entry.before.subscriptions conn) ∨
    entry.label = .unsubscribing conn channel

def CoveredSub (scene : ManagerScene) (conn : ConnectionId) (channel : String) : Prop :=
  (conn ∈ scene.world.connectionsById ∧ channel ∈ scene.world.subscriptions conn) ∨
    ∃ index task entry, Pending scene conn index task entry ∧ Drops entry conn channel

/-- No connection is registered after it was unregistered, and a pipeline writes only what is
covered when it is issued. -/
def RouteActs (scene : ManagerScene) (_ : Nat) (_ : ManagerCall) (label : Op)
    (_ : ConnectionManager → ConnectionManager) : Prop :=
  match label with
  | .registering conn => ∀ entry ∈ scene.history, ¬Unregisters entry conn
  | .settingRoutes conn => Covered scene conn
  | .addingSubscriptions conn channels => ∀ channel ∈ channels, CoveredSub scene conn channel
  | _ => True

def routeTerms : Terms ConnectionManager Op ManagerCall RegisterFailure Unit where
  Acts := RouteActs

/-- An `unregister` of the connection has returned, and every call that began before is over. -/
def Settled (scene : ManagerScene) (conn : ConnectionId) : Prop :=
  ∃ past returned later, scene.history = past ++ returned :: later ∧
    returned.label = .returning conn ∧
      ∀ (index : Nat) (task : Opened ManagerCall), scene.opened[index]? = some task →
        task.since ≤ past.length → ¬scene.Running index

/-- Nothing of the connection is left in Redis, nor comes back. -/
def RoutesGone (scene : ManagerScene) : Prop :=
  ∀ conn, Settled scene conn → scene.world.redis.Absent conns conn

structure RouteLaw (scene : ManagerScene) : Prop where
  routes : ∀ conn, scene.world.redis.Routed conns conn → Covered scene conn
  listed : ∀ conn channel, scene.world.redis.Listed conns conn channel → CoveredSub scene conn channel
  registered : ∀ conn ∈ scene.world.connectionsById, ∀ entry ∈ scene.history, ¬Unregisters entry conn
  returned : ∀ conn, ∀ entry ∈ scene.history, entry.label = .returning conn →
    ∃ left ∈ scene.history, Unregisters left conn

variable {conns} {scene now : ManagerScene} {index : Nat} {task : Opened ManagerCall}
  {call : ManagerCall} {outcome : Option (Except RegisterFailure Unit)} {conn : ConnectionId}
  {channel : String}

theorem RouteLaw.gone (law : RouteLaw conns scene) : RoutesGone conns scene := by
  rintro conn ⟨past, returned, later, split, label, ended⟩
  have member : returned ∈ scene.history := by
    rw [split]
    exact List.mem_append_right _ List.mem_cons_self
  have unknown : conn ∉ scene.world.connectionsById := by
    intro known
    obtain ⟨left, leftMember, unregisters⟩ := law.returned conn returned member label
    exact law.registered conn known left leftMember unregisters
  have ended : ∀ index task entry, ¬Pending scene conn index task entry := by
    intro index task entry pending
    exact ended index task pending.opened (pending.early past returned later split label)
      pending.running
  constructor
  · intro routed
    rcases law.routes conn routed with known | ⟨index, task, entry, pending, _⟩
    · exact unknown known
    · exact ended index task entry pending
  · intro channel listed
    rcases law.listed conn channel listed with known | ⟨index, task, entry, pending, _⟩
    · exact unknown known.1
    · exact ended index task entry pending

def Op.owes : Op → Bool
  | .unregistering _ _ => true
  | .unsubscribing _ _ => true
  | _ => false

structure Idle (scene : ManagerScene) (index : Nat) (task : Opened ManagerCall) : Prop where
  opened : scene.opened[index]? = some task
  last : ∀ entry, (scene.own index).getLast? = some entry → entry.label.owes = false

theorem Unregisters.owes {entry : ManagerEntry} (unregisters : Unregisters entry conn) :
    entry.label.owes = true := by
  obtain ⟨evicted, label⟩ := unregisters
  rw [label]
  rfl

theorem Drops.owes {entry : ManagerEntry} (drops : Drops entry conn channel) :
    entry.label.owes = true := by
  rcases drops with ⟨unregisters, _⟩ | label
  · exact unregisters.owes
  · rw [label]
    rfl

theorem Idle.meanwhile (idle : Idle scene index task) (met : scene.Meanwhile index now) :
    Idle now index task where
  opened := met.opened idle.opened
  last := by
    rw [met.own_eq]
    exact idle.last

theorem getLast?_own_after {op : Op} {effect : ConnectionManager → ConnectionManager} :
    ((now.after index call op effect outcome).own index).getLast? =
      some ⟨index, call, op, now.world, effect now.world, outcome⟩ := by
  rw [Scene.own_after, List.getLast?_concat]

theorem idle_after {op : Op} {effect : ConnectionManager → ConnectionManager}
    (found : now.opened[index]? = some task) (clear : op.owes = false) :
    Idle (now.after index call op effect outcome) index task where
  opened := found
  last := by
    intro entry last
    rw [getLast?_own_after, Option.some.injEq] at last
    rw [← last]
    exact clear

theorem Pending.after {pending : Nat} {other : Opened ManagerCall} {entry : ManagerEntry} {op : Op}
    {effect : ConnectionManager → ConnectionManager}
    (still : Pending now conn pending other entry) (tagged : now.Tagged)
    (different : pending ≠ index) :
    Pending (now.after index call op effect outcome) conn pending other entry where
  opened := still.opened
  running := still.running.after fun same => absurd same different
  last := by
    rw [(Scene.meanwhile_after (Ne.symm different)).own_eq]
    exact still.last
  early := by
    refine Scene.earlier_concat still.early fun _ => ?_
    have own := List.mem_of_getLast? still.last
    obtain ⟨member, mine⟩ := Scene.mem_own.mp own
    obtain ⟨since, bound, opened⟩ := tagged entry member
    rw [mine, still.opened, Option.some.injEq] at opened
    rw [opened]
    exact bound

theorem Covered.after {op : Op} {effect : ConnectionManager → ConnectionManager}
    (covered : Covered now conn) (tagged : now.Tagged)
    (others : ∀ entry, (now.own index).getLast? = some entry → ¬Unregisters entry conn)
    (known : conn ∈ now.world.connectionsById →
      Covered (now.after index call op effect outcome) conn) :
    Covered (now.after index call op effect outcome) conn := by
  rcases covered with there | ⟨pending, other, entry, still, unregisters⟩
  · exact known there
  · refine .inr ⟨pending, other, entry, still.after tagged ?_, unregisters⟩
    rintro rfl
    exact others entry still.last unregisters

theorem CoveredSub.after {op : Op} {effect : ConnectionManager → ConnectionManager}
    (covered : CoveredSub now conn channel) (tagged : now.Tagged)
    (others : ∀ entry, (now.own index).getLast? = some entry → ¬Drops entry conn channel)
    (known : conn ∈ now.world.connectionsById ∧ channel ∈ now.world.subscriptions conn →
      CoveredSub (now.after index call op effect outcome) conn channel) :
    CoveredSub (now.after index call op effect outcome) conn channel := by
  rcases covered with there | ⟨pending, other, entry, still, drops⟩
  · exact known there
  · refine .inr ⟨pending, other, entry, still.after tagged ?_, drops⟩
    rintro rfl
    exact others entry still.last drops

theorem Idle.unregisters (idle : Idle now index task) (entry : ManagerEntry)
    (last : (now.own index).getLast? = some entry) : ¬Unregisters entry conn := by
  intro unregisters
  have clear := idle.last entry last
  rw [unregisters.owes] at clear
  cases clear

theorem Idle.drops (idle : Idle now index task) (entry : ManagerEntry)
    (last : (now.own index).getLast? = some entry) : ¬Drops entry conn channel := by
  intro drops
  have clear := idle.last entry last
  rw [drops.owes] at clear
  cases clear

theorem RouteLaw.unreturned (law : RouteLaw conns now)
    (known : conn ∈ now.world.connectionsById) {since : Nat} :
    Scene.Earlier (fun past returned => returned.label = .returning conn → since ≤ past.length)
      now.history := by
  intro past returned later split label
  have member : returned ∈ now.history := by
    rw [split]
    exact List.mem_append_right _ List.mem_cons_self
  obtain ⟨left, leftMember, unregisters⟩ := law.returned conn returned member label
  exact absurd unregisters (law.registered conn known left leftMember)

theorem RouteLaw.pending {op : Op} {effect : ConnectionManager → ConnectionManager}
    (law : RouteLaw conns now) (found : now.opened[index]? = some task)
    (running : now.Running index) (known : conn ∈ now.world.connectionsById)
    (working : op ≠ .returning conn) :
    Pending (now.after index call op effect none) conn index task
      ⟨index, call, op, now.world, effect now.world, none⟩ where
  opened := found
  running := running.after fun _ => rfl
  last := getLast?_own_after
  early := Scene.earlier_concat (law.unreturned known) fun label => absurd label working

end Rules

section Steps

variable {conns : Connections} {scene now : ManagerScene} {index : Nat} {task : Opened ManagerCall}
  {call : ManagerCall} {outcome : Option (Except RegisterFailure Unit)} {conn : ConnectionId}
  {channel : String} {evicted : Bool}

def Op.grows : Op → Bool
  | .unregistering _ _ => false
  | .droppingRoutes _ _ => false
  | .unsubscribing _ _ => false
  | .removingSubscription _ _ => false
  | _ => true

theorem mem_grown {op : Op} {manager : ConnectionManager} (grows : op.grows = true)
    (known : conn ∈ manager.connectionsById) : conn ∈ (op.effect conns manager).connectionsById := by
  cases op with
  | registering new =>
      change conn ∈ if new ∈ manager.connectionsById then _ else _
      split
      · exact known
      · exact List.mem_append_left _ known
  | unregistering | droppingRoutes | unsubscribing | removingSubscription => cases grows
  | _ => exact known

theorem subscribed_grown {op : Op} {manager : ConnectionManager} (grows : op.grows = true)
    (subscribed : channel ∈ manager.subscriptions conn) :
    channel ∈ (op.effect conns manager).subscriptions conn := by
  cases op with
  | subscribing other added =>
      change channel ∈ Function.update manager.subscriptions other _ conn
      by_cases same : conn = other
      · subst same
        rw [Function.update_self]
        exact List.mem_insert_of_mem subscribed
      · rw [Function.update_of_ne same]
        exact subscribed
  | unregistering | droppingRoutes | unsubscribing | removingSubscription => cases grows
  | _ => exact subscribed

theorem routed_grown {op : Op} (law : RouteLaw conns now) (grows : op.grows = true)
    (acts : RouteActs now index call op (op.effect conns))
    (routed : (op.effect conns now.world).redis.Routed conns conn) : Covered now conn := by
  cases op with
  | settingRoutes new =>
      rcases routed_setRouteUsers.mp routed with rfl | before
      · exact acts
      · exact law.routes conn before
  | unregistering | droppingRoutes | unsubscribing | removingSubscription => cases grows
  | _ => exact law.routes conn routed

theorem listed_grown {op : Op} (law : RouteLaw conns now) (grows : op.grows = true)
    (acts : RouteActs now index call op (op.effect conns))
    (listed : (op.effect conns now.world).redis.Listed conns conn channel) :
    CoveredSub now conn channel := by
  cases op with
  | addingSubscriptions new channels =>
      rcases listed_addSubscriptions.mp listed with ⟨rfl, added⟩ | before
      · exact acts channel added
      · exact law.listed conn channel before
  | unregistering | droppingRoutes | unsubscribing | removingSubscription => cases grows
  | _ => exact law.listed conn channel listed

theorem registered_grown {op : Op} (law : RouteLaw conns now) (grows : op.grows = true)
    (acts : RouteActs now index call op (op.effect conns))
    (known : conn ∈ (op.effect conns now.world).connectionsById) :
    ∀ entry ∈ now.history, ¬Unregisters entry conn := by
  cases op with
  | registering new =>
      change conn ∈ if new ∈ now.world.connectionsById then _ else _ at known
      split at known
      · exact law.registered conn known
      · rcases List.mem_append.mp known with before | last
        · exact law.registered conn before
        · rw [List.mem_singleton.mp last]
          exact acts
  | unregistering | droppingRoutes | unsubscribing | removingSubscription => cases grows
  | _ => exact law.registered conn known

theorem RouteLaw.returned_after {op : Op} {effect : ConnectionManager → ConnectionManager}
    (law : RouteLaw conns now)
    (left : ∀ conn, op = .returning conn → ∃ entry ∈ now.history, Unregisters entry conn) :
    ∀ conn, ∀ entry ∈ (now.after index call op effect outcome).history,
      entry.label = .returning conn →
        ∃ left ∈ (now.after index call op effect outcome).history, Unregisters left conn := by
  intro conn entry member label
  have found : ∃ left ∈ now.history, Unregisters left conn := by
    rcases List.mem_append.mp member with before | last
    · exact law.returned conn entry before label
    · rw [List.mem_singleton.mp last] at label
      exact left conn label
  obtain ⟨left, leftMember, unregisters⟩ := found
  exact ⟨left, List.mem_append_left _ leftMember, unregisters⟩

theorem unregisters_after {op : Op} {effect : ConnectionManager → ConnectionManager}
    (clear : ∀ entry ∈ now.history, ¬Unregisters entry conn)
    (other : ∀ evicted, op ≠ .unregistering conn evicted) :
    ∀ entry ∈ (now.after index call op effect outcome).history, ¬Unregisters entry conn := by
  intro entry member
  rcases List.mem_append.mp member with before | last
  · exact clear entry before
  · rw [List.mem_singleton.mp last]
    rintro ⟨evicted, label⟩
    exact other evicted label

theorem RouteLaw.grow {op : Op} (law : RouteLaw conns now) (tagged : now.Tagged)
    (idle : Idle now index task) (grows : op.grows = true)
    (acts : RouteActs now index call op (op.effect conns))
    (left : ∀ conn, op = .returning conn → ∃ entry ∈ now.history, Unregisters entry conn) :
    RouteLaw conns (now.after index call op (op.effect conns) outcome) where
  routes := fun _ routed => (routed_grown law grows acts routed).after tagged idle.unregisters
    fun known => .inl (mem_grown grows known)
  listed := fun _ _ listed => (listed_grown law grows acts listed).after tagged idle.drops
    fun known => .inl ⟨mem_grown grows known.1, subscribed_grown grows known.2⟩
  registered := fun _ known => unregisters_after (registered_grown law grows acts known)
    fun _ same => by
      rw [same] at grows
      cases grows
  returned := law.returned_after left

theorem RouteLaw.unregistering (law : RouteLaw conns now) (tagged : now.Tagged)
    (idle : Idle now index task) (running : now.Running index) :
    RouteLaw conns (now.after index call (.unregistering conn evicted)
      (Op.effect conns (.unregistering conn evicted)) none) where
  routes := by
    intro other routed
    refine (law.routes other routed).after tagged idle.unregisters fun known => ?_
    by_cases same : other = conn
    · subst same
      exact .inr ⟨index, task, _,
        law.pending idle.opened running known (fun same => nomatch same), evicted, rfl⟩
    · exact .inl (List.mem_filter.mpr ⟨known, decide_eq_true same⟩)
  listed := by
    intro other channel listed
    refine (law.listed other channel listed).after tagged idle.drops fun ⟨known, subscribed⟩ => ?_
    by_cases same : other = conn
    · subst same
      exact .inr ⟨index, task, _,
        law.pending idle.opened running known (fun same => nomatch same),
        .inl ⟨⟨evicted, rfl⟩, subscribed⟩⟩
    · refine .inl ⟨List.mem_filter.mpr ⟨known, decide_eq_true same⟩, ?_⟩
      change channel ∈ Function.update now.world.subscriptions conn [] other
      rwa [Function.update_of_ne same]
  registered := by
    intro other known
    obtain ⟨before, different⟩ := List.mem_filter.mp known
    refine unregisters_after (law.registered other before) fun _ same => ?_
    cases same
    exact of_decide_eq_true different rfl
  returned := law.returned_after fun _ same => nomatch same

theorem RouteLaw.droppingRoutes {left : ManagerEntry} (law : RouteLaw conns now)
    (tagged : now.Tagged) (last : (now.own index).getLast? = some left)
    (label : left.label = .unregistering conn evicted) :
    RouteLaw conns (now.after index call (.droppingRoutes conn (left.before.subscriptions conn))
      (Op.effect conns (.droppingRoutes conn (left.before.subscriptions conn))) outcome) where
  routes := by
    intro other routed
    obtain ⟨before, different⟩ := routed_dropRoutes.mp routed
    refine (law.routes other before).after tagged (fun entry found => ?_) .inl
    rw [last, Option.some.injEq] at found
    rintro ⟨_, same⟩
    rw [← found, label, Op.unregistering.injEq] at same
    exact different same.1.symm
  listed := by
    intro other channel listed
    obtain ⟨before, kept⟩ := listed_dropRoutes.mp listed
    refine (law.listed other channel before).after tagged (fun entry found => ?_) .inl
    rw [last, Option.some.injEq] at found
    rintro (⟨⟨_, same⟩, subscribed⟩ | same)
    · rw [← found, label, Op.unregistering.injEq] at same
      obtain ⟨rfl, _⟩ := same
      rw [← found] at subscribed
      exact kept ⟨rfl, subscribed⟩
    · rw [← found, label] at same
      cases same
  registered := fun other known =>
    unregisters_after (law.registered other known) fun _ same => nomatch same
  returned := law.returned_after fun _ same => nomatch same

theorem RouteLaw.unsubscribing (law : RouteLaw conns now) (tagged : now.Tagged)
    (idle : Idle now index task) (running : now.Running index) :
    RouteLaw conns (now.after index call (.unsubscribing conn channel)
      (Op.effect conns (.unsubscribing conn channel)) none) where
  routes := fun other routed =>
    (law.routes other routed).after tagged idle.unregisters .inl
  listed := by
    intro other listedChannel listed
    refine (law.listed other listedChannel listed).after tagged idle.drops
      fun ⟨known, subscribed⟩ => ?_
    by_cases own : other = conn ∧ listedChannel = channel
    · obtain ⟨rfl, rfl⟩ := own
      exact .inr ⟨index, task, _,
        law.pending idle.opened running known (fun same => nomatch same), .inr rfl⟩
    · refine .inl ⟨known, ?_⟩
      change listedChannel ∈ Function.update now.world.subscriptions conn _ other
      by_cases same : other = conn
      · subst same
        rw [Function.update_self, List.mem_filter]
        exact ⟨subscribed, decide_eq_true fun equal => own ⟨rfl, equal⟩⟩
      · rwa [Function.update_of_ne same]
  registered := fun other known =>
    unregisters_after (law.registered other known) fun _ same => nomatch same
  returned := law.returned_after fun _ same => nomatch same

theorem RouteLaw.removingSubscription {left : ManagerEntry} (law : RouteLaw conns now)
    (tagged : now.Tagged) (last : (now.own index).getLast? = some left)
    (label : left.label = .unsubscribing conn channel) :
    RouteLaw conns (now.after index call (.removingSubscription conn channel)
      (Op.effect conns (.removingSubscription conn channel)) outcome) where
  routes := by
    intro other routed
    refine (law.routes other routed).after tagged (fun entry found => ?_) .inl
    rw [last, Option.some.injEq] at found
    rintro ⟨_, same⟩
    rw [← found, label] at same
    cases same
  listed := by
    intro other listedChannel listed
    obtain ⟨before, kept⟩ := listed_removeSubscription.mp listed
    refine (law.listed other listedChannel before).after tagged (fun entry found => ?_) .inl
    rw [last, Option.some.injEq] at found
    rintro (⟨⟨_, same⟩, _⟩ | same)
    · rw [← found, label] at same
      cases same
    · rw [← found, label, Op.unsubscribing.injEq] at same
      exact kept ⟨same.1.symm, same.2.symm⟩
  registered := fun other known =>
    unregisters_after (law.registered other known) fun _ same => nomatch same
  returned := law.returned_after fun _ same => nomatch same

end Steps

section Calls

variable {conns : Connections} {limit : Nat} {scene : ManagerScene} {index : Nat}
  {task : Opened ManagerCall} {conn : ConnectionId} {channel : String} {evicted : Bool}

abbrev KeepsRoutes (conns : Connections) (index : Nat) (task : Opened ManagerCall)
    (process : Handler Unit) (scene : ManagerScene) : Prop :=
  Keeps routeTerms (RouteLaw conns) index task.tag process scene

theorem keeps_grow {Answer : Type} {op : Op} {read : ConnectionManager → Answer}
    {next : Answer → Handler Unit} (idle : Idle scene index task) (grows : op.grows = true)
    (working : ∀ conn, op ≠ .returning conn)
    (rest : ∀ answer later, Idle later index task →
      KeepsRoutes conns index task (next answer) later) :
    KeepsRoutes conns index task (step conns op read >>= next) scene := by
  refine keeps_act fun now met tagged running law acts => ?_
  have idleNow := idle.meanwhile met
  have clear : op.owes = false := by
    cases op with
    | unregistering | unsubscribing => cases grows
    | _ => rfl
  exact ⟨law.grow tagged idleNow grows acts fun conn same => absurd same (working conn),
    rest _ _ (idle_after idleNow.opened clear)⟩

theorem keeps_last {op : Op} (idle : Idle scene index task) (grows : op.grows = true)
    (working : ∀ conn, op ≠ .returning conn) :
    KeepsRoutes conns index task (step conns op fun _ => ()) scene := by
  refine keeps_act fun now met tagged running law acts => ⟨?_, trivial⟩
  exact law.grow tagged (idle.meanwhile met) grows acts fun conn same => absurd same (working conn)

theorem keeps_unregister {next : Unit → Handler Unit} (idle : Idle scene index task)
    (rest : ∀ later, Idle later index task → KeepsRoutes conns index task (next ()) later) :
    KeepsRoutes conns index task (unregister conns conn evicted >>= next) scene := by
  refine keeps_act fun first met tagged running law _ => ?_
  have idleFirst := idle.meanwhile met
  refine ⟨law.unregistering tagged idleFirst running, ?_⟩
  refine keeps_act fun second met tagged running law _ => ?_
  have opened := met.opened idleFirst.opened
  have last := congrArg List.getLast? met.own_eq
  rw [getLast?_own_after] at last
  refine ⟨law.droppingRoutes tagged last rfl, ?_⟩
  have left := met.last
  refine keeps_act fun third met tagged running law acts => ?_
  have idleThird := (idle_after opened rfl).meanwhile met
  refine ⟨law.grow tagged idleThird rfl acts fun _ same => (nomatch same), ?_⟩
  have leftThird := met.kept_after left
  refine keeps_act fun fourth met tagged running law acts => ?_
  have idleFourth := (idle_after idleThird.opened rfl).meanwhile met
  have leftFourth := met.kept_after leftThird
  refine ⟨law.grow tagged idleFourth rfl acts fun other same => ?_, ?_⟩
  · rw [Op.returning.injEq] at same
    exact ⟨_, leftFourth, evicted, by rw [same]⟩
  · exact rest _ (idle_after idleFourth.opened rfl)

theorem keeps_unsubscribe (idle : Idle scene index task) :
    KeepsRoutes conns index task (unsubscribeChannel conns conn channel) scene := by
  refine keeps_act fun first met tagged running law _ => ?_
  have idleFirst := idle.meanwhile met
  refine ⟨law.unsubscribing tagged idleFirst running, ?_⟩
  refine keeps_act fun second met tagged running law _ => ⟨?_, trivial⟩
  have last := congrArg List.getLast? met.own_eq
  rw [getLast?_own_after] at last
  exact law.removingSubscription tagged last rfl

theorem keeps_refreshRoutes (subsSnapshot : List (ConnectionId × List String))
    (idle : Idle scene index task) :
    KeepsRoutes conns index task (refreshRoutes conns subsSnapshot) scene := by
  induction subsSnapshot generalizing scene with
  | nil => trivial
  | cons first rest ih =>
      obtain ⟨conn, subscriptions⟩ := first
      rw [refreshRoutes]
      refine keeps_grow idle rfl (fun _ same => nomatch same) fun closed looked idleLooked => ?_
      split
      · exact keeps_unregister idleLooked fun later idleLater => ih idleLater
      · refine keeps_grow idleLooked rfl (fun _ same => nomatch same) fun _ routed idleRouted => ?_
        split
        · exact ih idleRouted
        · exact keeps_grow idleRouted rfl (fun _ same => nomatch same) fun _ _ idle => ih idle

theorem keeps_routes (call : ManagerCall) {since : Nat} (idle : Idle scene index ⟨call, since⟩) :
    KeepsRoutes conns index ⟨call, since⟩ (call.handle conns limit) scene := by
  cases call with
  | register conn order failure =>
      refine keeps_grow idle rfl (fun _ same => nomatch same) fun stale entered idleEntered => ?_
      split
      · trivial
      · refine keeps_grow idleEntered rfl (fun _ same => nomatch same) fun _ routed idleRouted => ?_
        split
        · trivial
        · exact keeps_last idleRouted rfl fun _ same => nomatch same
  | unregister conn evicted =>
      have alone : KeepsRoutes conns index ⟨.unregister conn evicted, since⟩
          (unregister conns conn evicted >>= fun _ => pure ()) scene :=
        keeps_unregister idle fun _ _ => trivial
      exact alone
  | subscribeChannel conn channel =>
      refine keeps_grow idle rfl (fun _ same => nomatch same) fun _ subscribed idleSubscribed => ?_
      exact keeps_last idleSubscribed rfl fun _ same => nomatch same
  | unsubscribeChannel conn channel => exact keeps_unsubscribe idle
  | refreshTick =>
      exact keeps_grow idle rfl (fun _ same => nomatch same) fun _ _ idle =>
        keeps_refreshRoutes _ idle
  | close conn => exact keeps_last idle rfl fun _ same => nomatch same

theorem Pending.opening {pending : Nat} {other : Opened ManagerCall} {entry : ManagerEntry}
    {call : ManagerCall} (still : Pending scene conn pending other entry) :
    Pending (scene.opening call) conn pending other entry where
  opened := by
    rw [Scene.opening, List.getElem?_append_left (List.getElem?_eq_some_iff.mp still.opened).1]
    exact still.opened
  running := still.running
  last := still.last
  early := still.early

theorem RouteLaw.opening {call : ManagerCall} (law : RouteLaw conns scene) :
    RouteLaw conns (scene.opening call) where
  routes := fun conn routed => (law.routes conn routed).imp_right
    fun ⟨index, task, entry, still, unregisters⟩ => ⟨index, task, entry, still.opening, unregisters⟩
  listed := fun conn channel listed => (law.listed conn channel listed).imp_right
    fun ⟨index, task, entry, still, drops⟩ => ⟨index, task, entry, still.opening, drops⟩
  registered := law.registered
  returned := law.returned

/-- In every run that keeps the terms, what is settled is gone. -/
theorem routes_gone (conns : Connections) (limit : Nat) (final : ManagerSite)
    (run : Runs (ManagerCall.handle conns limit) routeTerms ⟨⟨{}, [], []⟩, []⟩ final) :
    RoutesGone conns final.toScene := by
  have start : RouteLaw conns ⟨{}, [], []⟩ :=
    { routes := fun conn routed => by simp [Redis.Routed] at routed
      listed := fun conn channel listed => by simp [Redis.Listed] at listed
      registered := fun _ _ _ member => nomatch member
      returned := fun _ _ member => nomatch member }
  refine (Runs.keeps (fun scene call tagged law _ => ?_) (kept_initial start) run).inv.gone
  have idle : Idle (scene.opening call) scene.opened.length ⟨call, scene.history.length⟩ := by
    refine ⟨by simp [Scene.opening], fun entry last => ?_⟩
    rw [Scene.own_opening tagged] at last
    cases last
  exact ⟨law.opening, keeps_routes call idle⟩

end Calls

section Example

def oneConn : Connections := fun _ => ⟨7, 5⟩

def routeActs (scene : ManagerScene) (_ : Nat) (_ : ManagerCall) (label : Op)
    (_ : ConnectionManager → ConnectionManager) : Bool :=
  match label with
  | .registering conn => scene.history.all fun entry =>
      entry.label != .unregistering conn false && entry.label != .unregistering conn true
  | .settingRoutes conn => decide (conn ∈ scene.world.connectionsById)
  | .addingSubscriptions conn channels => decide (conn ∈ scene.world.connectionsById) &&
      channels.all fun channel => decide (channel ∈ scene.world.subscriptions conn)
  | _ => true

theorem routeActs_sound {scene : ManagerScene} {index : Nat} {call : ManagerCall} {label : Op}
    {effect : ConnectionManager → ConnectionManager}
    (checked : routeActs scene index call label effect = true) :
    RouteActs scene index call label effect := by
  cases label with
  | registering conn =>
      rintro entry member ⟨evicted, same⟩
      have clear := List.all_eq_true.mp checked entry member
      cases evicted with
      | false => simp [same] at clear
      | true => simp [same] at clear
  | settingRoutes conn => exact .inl (of_decide_eq_true checked)
  | addingSubscriptions conn channels =>
      intro channel member
      rw [routeActs, Bool.and_eq_true, List.all_eq_true] at checked
      exact .inl ⟨of_decide_eq_true checked.1, of_decide_eq_true (checked.2 channel member)⟩
  | _ => trivial

/-- A call has returned from `unregister`, and all calls have ended. -/
def finished (conn : ConnectionId) (site : ManagerSite) : Bool :=
  site.ended && site.history.any fun entry => entry.label == .returning conn

theorem settled_of_finished {conn : ConnectionId} {site : ManagerSite}
    (finished : finished conn site = true) : Settled site.toScene conn := by
  rw [Gateways.finished, Bool.and_eq_true, List.any_eq_true] at finished
  obtain ⟨ended, returned, member, label⟩ := finished
  obtain ⟨past, later, split⟩ := List.append_of_mem member
  exact ⟨past, returned, later, split, eq_of_beq label,
    fun _ _ found _ => Scene.not_running_of_ended ended found⟩

def leavesSite : Option ManagerSite :=
  Site.steps (ManagerCall.handle oneConn 2) (fun _ _ => true) routeActs ⟨⟨{}, [], []⟩, []⟩
    (Move.start (ManagerCall.register 1 .insertion none) :: List.replicate 3 (Move.exec 0) ++
      Move.start (ManagerCall.subscribeChannel 1 "chat") :: List.replicate 2 (Move.exec 1) ++
        Move.start (ManagerCall.unregister 1 false) :: List.replicate 4 (Move.exec 2))

theorem routes_gone_left : ∃ final, leavesSite = some final ∧ Settled final.toScene 1 ∧
    RoutesGone oneConn final.toScene := by
  have reached : leavesSite.map (finished 1) = some true := by decide +kernel
  obtain ⟨final, stepped, ended⟩ := Option.map_eq_some_iff.mp reached
  refine ⟨final, stepped, settled_of_finished ended, routes_gone oneConn 2 final ?_⟩
  exact runs_of_steps _ (fun _ _ _ => trivial) (fun _ _ _ _ _ => routeActs_sound) .refl stepped

/-- While a tick writes the routes of the other connection, the pipeline removes those of the first
one, which the tick then finds open still. -/
def refreshedSite : Option ManagerSite :=
  Site.steps (ManagerCall.handle oneConn 2) (fun _ _ => true) (fun _ _ _ _ _ => true)
    ⟨⟨{}, [], []⟩, []⟩
    (Move.start (ManagerCall.register 2 .insertion none) :: List.replicate 3 (Move.exec 0) ++
      Move.start (ManagerCall.register 1 .insertion none) :: List.replicate 3 (Move.exec 1) ++
        [Move.start ManagerCall.refreshTick, Move.exec 2, Move.exec 2, Move.exec 2,
          Move.start (ManagerCall.unregister 1 false), Move.exec 3,
          Move.exec 3, Move.exec 2, Move.exec 2, Move.exec 3, Move.exec 3])

theorem route_comes_back : ∃ final, refreshedSite = some final ∧
    Runs (ManagerCall.handle oneConn 2) {} ⟨⟨{}, [], []⟩, []⟩ final ∧
      ¬RoutesGone oneConn final.toScene := by
  have reached : refreshedSite.map (fun site => (finished 1 site, site.world.redis.userRoutes)) =
      some (true, [(7, 1), (7, 2)]) := by decide +kernel
  obtain ⟨final, stepped, left⟩ := Option.map_eq_some_iff.mp reached
  rw [Prod.mk.injEq] at left
  refine ⟨final, stepped, ?_, fun gone => ?_⟩
  · exact runs_of_steps _ (fun _ _ _ => trivial) (fun _ _ _ _ _ _ => trivial) .refl stepped
  · have absent := gone 1 (settled_of_finished left.1)
    refine absent.routes (.inl ?_)
    rw [left.2]
    exact List.mem_cons_self

end Example

end Messanger.Gateways
