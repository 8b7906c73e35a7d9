import Messanger.Websockets.GatewayCore

/-!
What a gateway knows of its connections: the two dicts tell the same in every run, and a user has no
more connections than the limit once the registers and evictions are over, as long as no register
above the limit raises or picks its own connection among the ones to close.
-/

namespace Messanger.Gateways

open Processes

section Pairs

variable (conns : Connections)

structure Paired (manager : ConnectionManager) : Prop where
  same : ∀ userId conn, (conn ∈ manager.connectionsById ∧ (conns conn).userId = userId) ↔
    conn ∈ manager.userConns userId
  nonempty : ∀ userId, manager.connectionsByUser userId ≠ some []
  once : ∀ userId, (manager.userConns userId).Nodup

variable {conns} {manager : ConnectionManager} {conn : ConnectionId} {evicted : Bool}

theorem userConns_enter (userId : UserId) : (manager.enter conns conn).userConns userId =
    if userId = (conns conn).userId then (manager.userConns userId).insert conn
    else manager.userConns userId := by
  by_cases own : userId = (conns conn).userId
  · rw [if_pos own, own]
    simp [ConnectionManager.enter, ConnectionManager.userConns]
  · rw [if_neg own]
    simp [ConnectionManager.enter, ConnectionManager.userConns, Function.update_of_ne own]

theorem userConns_leave (userId : UserId) : (manager.leave conns conn evicted).userConns userId =
    if userId = (conns conn).userId then (manager.userConns userId).filter (· ≠ conn)
    else manager.userConns userId := by
  cases found : manager.connectionsByUser (conns conn).userId with
  | none =>
      have unchanged : (manager.leave conns conn evicted).userConns = manager.userConns := by
        funext other
        simp only [ConnectionManager.leave, ConnectionManager.userConns, found]
      rw [unchanged]
      split
      · rename_i own
        rw [own, ConnectionManager.userConns, found]
        rfl
      · rfl
  | some ids =>
      by_cases own : userId = (conns conn).userId
      · subst own
        simp only [ConnectionManager.leave, ConnectionManager.userConns, found,
          Function.update_self, if_true, Option.getD_some]
        split
        · rename_i empty
          rw [List.isEmpty_iff.mp empty]
          rfl
        · rfl
      · simp only [ConnectionManager.leave, ConnectionManager.userConns, found, if_neg own,
          Function.update_of_ne own]

theorem mem_enter {other : ConnectionId} :
    other ∈ (manager.enter conns conn).connectionsById ↔
      other = conn ∨ other ∈ manager.connectionsById := by
  by_cases known : conn ∈ manager.connectionsById
  · rw [ConnectionManager.enter, if_pos known]
    constructor
    · exact Or.inr
    · rintro (rfl | there)
      · exact known
      · exact there
  · rw [ConnectionManager.enter, if_neg known, List.mem_append, List.mem_singleton]
    exact Or.comm

theorem mem_userConns_enter {userId : UserId} {other : ConnectionId} :
    other ∈ (manager.enter conns conn).userConns userId ↔
      (other = conn ∧ userId = (conns conn).userId) ∨ other ∈ manager.userConns userId := by
  rw [userConns_enter]
  by_cases own : userId = (conns conn).userId
  · simp [own]
  · simp [own]

theorem mem_userConns_leave {userId : UserId} {other : ConnectionId} (paired : Paired conns manager) :
    other ∈ (manager.leave conns conn evicted).userConns userId ↔
      other ∈ manager.userConns userId ∧ other ≠ conn := by
  rw [userConns_leave]
  by_cases own : userId = (conns conn).userId
  · simp [own]
  · rw [if_neg own]
    constructor
    · intro there
      refine ⟨there, ?_⟩
      rintro rfl
      exact own ((paired.same userId other).mpr there).2.symm
    · exact And.left

theorem Paired.enter (paired : Paired conns manager) : Paired conns (manager.enter conns conn) where
  same := by
    intro userId other
    rw [mem_enter, mem_userConns_enter, ← paired.same userId other]
    constructor
    · rintro ⟨rfl | there, rfl⟩
      · exact .inl ⟨rfl, rfl⟩
      · exact .inr ⟨there, rfl⟩
    · rintro (⟨rfl, own⟩ | ⟨there, own⟩)
      · exact ⟨.inl rfl, own.symm⟩
      · exact ⟨.inr there, own⟩
  nonempty := by
    intro userId empty
    by_cases own : userId = (conns conn).userId
    · have none : (manager.enter conns conn).userConns userId = [] := by
        rw [ConnectionManager.userConns, empty]
        rfl
      have there : conn ∈ (manager.enter conns conn).userConns userId :=
        mem_userConns_enter.mpr (.inl ⟨rfl, own⟩)
      rw [none] at there
      cases there
    · simp only [ConnectionManager.enter, Function.update_of_ne own] at empty
      exact paired.nonempty userId empty
  once := by
    intro userId
    rw [userConns_enter]
    split
    · exact (paired.once userId).insert
    · exact paired.once userId

theorem Paired.leave (paired : Paired conns manager) :
    Paired conns (manager.leave conns conn evicted) where
  same := by
    intro userId other
    rw [mem_userConns_leave paired, ← paired.same userId other]
    simp only [ConnectionManager.leave, List.mem_filter, decide_eq_true_eq]
    tauto
  nonempty := by
    intro userId
    cases found : manager.connectionsByUser (conns conn).userId with
    | none =>
        simp only [ConnectionManager.leave, found]
        exact paired.nonempty userId
    | some ids =>
        simp only [ConnectionManager.leave, found]
        by_cases own : userId = (conns conn).userId
        · rw [own, Function.update_self]
          split
          · exact fun same => nomatch same
          · rename_i some
            rintro same
            rw [Option.some.injEq] at same
            exact some (by rw [same]; rfl)
        · rw [Function.update_of_ne own]
          exact paired.nonempty userId
  once := by
    intro userId
    rw [userConns_leave]
    split
    · exact (paired.once userId).filter _
    · exact paired.once userId

theorem Paired.effect (paired : Paired conns manager) (op : Op) :
    Paired conns (op.effect conns manager) := by
  cases op with
  | registering conn => exact paired.enter
  | unregistering conn evicted => exact paired.leave
  | _ => exact ⟨paired.same, paired.nonempty, paired.once⟩

theorem paired_empty : Paired conns {} where
  same := fun _ _ => ⟨fun there => absurd there.1 List.not_mem_nil,
    fun there => absurd there List.not_mem_nil⟩
  nonempty := fun _ same => nomatch same
  once := fun _ => List.nodup_nil

end Pairs

section Bound

variable (conns : Connections) (limit : Nat)

structure Chooses (scene : ManagerScene) (entry : ManagerEntry) (stale : ConnectionId) : Prop where
  member : entry ∈ scene.history
  running : scene.Running entry.index
  chosen : ∃ conn order, entry.tag = .register conn order none ∧ entry.label = .registering conn ∧
    stale ≠ conn ∧ stale ∈ entry.after.staleToClose conns conn limit order

def Doomed (scene : ManagerScene) (stale : ConnectionId) : Prop :=
  stale ∈ scene.world.evictions ∨ ∃ entry, Chooses conns limit scene entry stale

structure Quiet (scene : ManagerScene) : Prop where
  registers : ∀ (index : Nat) (task : Opened ManagerCall) (conn : ConnectionId) (order : SetOrder)
    (failure : Option RegisterFailure), scene.opened[index]? = some task →
      task.tag = .register conn order failure → ¬scene.Running index
  evicts : ∀ (index : Nat) (task : Opened ManagerCall) (conn : ConnectionId),
    scene.opened[index]? = some task → task.tag = .unregister conn true → ¬scene.Running index
  waiting : scene.world.evictions = []

structure Limited (scene : ManagerScene) : Prop where
  same : ∀ userId conn, (conn ∈ scene.world.connectionsById ∧ (conns conn).userId = userId) ↔
    ∃ ids, scene.world.connectionsByUser userId = some ids ∧ conn ∈ ids
  nonempty : ∀ userId, scene.world.connectionsByUser userId ≠ some []
  bound : Quiet scene → ∀ userId ids, scene.world.connectionsByUser userId = some ids →
    ids.length ≤ limit

/-- When the connection takes its user above the limit, so many of the others come before it in the
order of `connected_at`, and of the set where that is equal, and the register does not raise. -/
def RegisterActs (scene : ManagerScene) (_ : Nat) (call : ManagerCall) (label : Op)
    (_ : ConnectionManager → ConnectionManager) : Prop :=
  ∀ conn order failure, call = .register conn order failure → label = .registering conn →
    let userConns := (scene.world.enter conns conn).userConns (conns conn).userId
    userConns.length - limit ≤
        Ranking.ahead (fun other => (conns other).connectedAt) (order.iterate userConns) conn ∧
      (limit < userConns.length → failure = none)

def registerTerms : Terms ConnectionManager Op ManagerCall RegisterFailure Unit where
  Acts := RegisterActs conns limit

structure RegistryLaw (scene : ManagerScene) : Prop where
  paired : Paired conns scene.world
  bounded : ∀ (userId : UserId) (ids : List ConnectionId), ids.Nodup →
    (∀ conn ∈ ids, conn ∈ scene.world.userConns userId ∧ ¬Doomed conns limit scene conn) →
      ids.length ≤ limit

variable {conns limit} {scene now : ManagerScene} {index : Nat} {call : ManagerCall}
  {outcome : Option (Except RegisterFailure Unit)} {stale conn : ConnectionId} {order : SetOrder}
  {failure : Option RegisterFailure}

theorem Chooses.after {op : Op} {entry : ManagerEntry} (chooses : Chooses conns limit now entry stale)
    (goes : entry.index = index → outcome = none) :
    Chooses conns limit (now.after index call op (op.effect conns) outcome) entry stale where
  member := List.mem_append_left _ chooses.member
  running := chooses.running.after goes
  chosen := chooses.chosen

theorem RegistryLaw.shrink {op : Op} (law : RegistryLaw conns limit now)
    (kept : ∀ userId conn, conn ∈ (op.effect conns now.world).userConns userId →
      conn ∈ now.world.userConns userId ∧ (Doomed conns limit now conn →
        Doomed conns limit (now.after index call op (op.effect conns) outcome) conn)) :
    RegistryLaw conns limit (now.after index call op (op.effect conns) outcome) where
  paired := law.paired.effect op
  bounded := by
    intro userId ids once each
    refine law.bounded userId ids once fun conn member => ?_
    obtain ⟨there, spared⟩ := each conn member
    obtain ⟨before, doomed⟩ := kept userId conn there
    exact ⟨before, fun chosen => spared (doomed chosen)⟩

def Op.plain : Op → Bool
  | .registering _ => false
  | .evicting _ => false
  | _ => true

theorem chosen_after {op : Op} (tagged : now.Tagged)
    (found : now.opened[index]?.map Opened.tag = some call)
    (other : ∀ conn order, call ≠ .register conn order none)
    (chosen : ∃ entry, Chooses conns limit now entry stale) :
    ∃ entry, Chooses conns limit (now.after index call op (op.effect conns) outcome)
      entry stale := by
  obtain ⟨entry, chooses⟩ := chosen
  refine ⟨entry, chooses.after fun mine => ?_⟩
  obtain ⟨conn, order, tag, _⟩ := chooses.chosen
  obtain ⟨since, _, opened⟩ := tagged entry chooses.member
  rw [mine, tag] at opened
  rw [opened, Option.map_some, Option.some.injEq] at found
  exact absurd found.symm (other conn order)

theorem RegistryLaw.plain {op : Op} (law : RegistryLaw conns limit now) (tagged : now.Tagged)
    (found : now.opened[index]?.map Opened.tag = some call) (plain : op.plain = true)
    (other : ∀ conn order, call ≠ .register conn order none) :
    RegistryLaw conns limit (now.after index call op (op.effect conns) outcome) := by
  refine law.shrink fun userId conn there => ?_
  cases op with
  | registering _ => cases plain
  | evicting _ => cases plain
  | unregistering gone evicted =>
      obtain ⟨before, different⟩ := (mem_userConns_leave law.paired).mp there
      refine ⟨before, Or.imp (fun waits => ?_) (chosen_after tagged found other)⟩
      cases evicted with
      | false => exact waits
      | true => exact (List.mem_erase_of_ne different).mpr waits
  | _ => exact ⟨there, Or.imp_right (chosen_after tagged found other)⟩

theorem staleToClose_eq {manager : ConnectionManager} (paired : Paired conns manager) :
    manager.staleToClose conns conn limit order =
      Ranking.firstBy (fun other => (conns other).connectedAt)
        ((manager.userConns (conns conn).userId).length - limit)
        (order.iterate (manager.userConns (conns conn).userId)) := by
  rw [ConnectionManager.staleToClose, List.filter_eq_self.mpr]
  intro other member
  rw [decide_eq_true_eq]
  exact ((paired.same _ other).mpr ((order.perm _).mem_iff.mp member)).1

theorem spared_le {manager : ConnectionManager} (paired : Paired conns manager)
    (behind : (manager.userConns (conns conn).userId).length - limit ≤
      Ranking.ahead (fun other => (conns other).connectedAt)
        (order.iterate (manager.userConns (conns conn).userId)) conn)
    {ids : List ConnectionId} (once : ids.Nodup)
    (spared : ∀ other ∈ ids, other ∈ manager.userConns (conns conn).userId ∧
      (other ∈ manager.staleToClose conns conn limit order → other = conn)) :
    ids.length ≤ limit := by
  have stale : manager.staleToClose conns conn limit order = _ := staleToClose_eq paired
  have iterated := order.perm (manager.userConns (conns conn).userId)
  have onceIterated := iterated.nodup_iff.mpr (paired.once (conns conn).userId)
  have others : conn ∉ manager.staleToClose conns conn limit order := by
    rw [stale]
    exact Ranking.not_mem_firstBy onceIterated behind
  have distinct : (ids ++ manager.staleToClose conns conn limit order).Nodup := by
    rw [List.nodup_append, stale]
    refine ⟨once, Ranking.nodup_firstBy onceIterated, ?_⟩
    rintro left leftIn right rightIn rfl
    rw [← stale] at rightIn
    have own := (spared left leftIn).2 rightIn
    rw [own] at rightIn
    exact others rightIn
  have within : ids ++ manager.staleToClose conns conn limit order ⊆
      manager.userConns (conns conn).userId := by
    intro other member
    rcases List.mem_append.mp member with left | right
    · exact (spared other left).1
    · rw [stale] at right
      exact iterated.mem_iff.mp (Ranking.mem_of_firstBy right)
  have fits := (List.subperm_of_subset distinct within).length_le
  have count := Ranking.length_firstBy (fun other => (conns other).connectedAt)
    (order.iterate (manager.userConns (conns conn).userId))
    ((manager.userConns (conns conn).userId).length - limit)
  rw [← stale, iterated.length_eq] at count
  rw [List.length_append, count] at fits
  omega

theorem RegistryLaw.registering (law : RegistryLaw conns limit now) (running : now.Running index)
    (acts : RegisterActs conns limit now index (.register conn order none) (.registering conn)
      (Op.effect conns (.registering conn))) :
    RegistryLaw conns limit (now.after index (.register conn order none) (.registering conn)
      (Op.effect conns (.registering conn)) none) where
  paired := law.paired.enter
  bounded := by
    intro userId ids once each
    by_cases own : userId = (conns conn).userId
    · subst own
      refine spared_le law.paired.enter (acts conn order none rfl rfl).1 once fun other member => ?_
      obtain ⟨there, spared⟩ := each other member
      refine ⟨there, fun stale => ?_⟩
      by_contra different
      exact spared (.inr ⟨_, List.mem_append_right _ (List.mem_singleton_self _),
        running.after fun _ => rfl, conn, order, rfl, rfl, different, stale⟩)
    · refine law.bounded userId ids once fun other member => ?_
      obtain ⟨there, spared⟩ := each other member
      refine ⟨?_, fun doomed => spared ?_⟩
      · rcases mem_userConns_enter.mp there with ⟨_, same⟩ | before
        · exact absurd same own
        · exact before
      · exact doomed.imp_right fun ⟨entry, chooses⟩ => ⟨entry, chooses.after fun _ => rfl⟩

theorem RegistryLaw.failing {fault : RegisterFailure} (law : RegistryLaw conns limit now)
    (tagged : now.Tagged)
    (found : now.opened[index]?.map Opened.tag = some (.register conn order (some fault)))
    (acts : RegisterActs conns limit now index (.register conn order (some fault))
      (.registering conn) (Op.effect conns (.registering conn))) :
    RegistryLaw conns limit (now.after index (.register conn order (some fault)) (.registering conn)
      (Op.effect conns (.registering conn)) outcome) where
  paired := law.paired.enter
  bounded := by
    intro userId ids once each
    by_cases own : userId = (conns conn).userId
    · subst own
      have within := (List.subperm_of_subset once fun other member => (each other member).1).length_le
      refine within.trans (Nat.le_of_not_lt fun above => ?_)
      cases (acts conn order _ rfl rfl).2 above
    · refine law.bounded userId ids once fun other member => ?_
      obtain ⟨there, spared⟩ := each other member
      refine ⟨?_, fun doomed => spared (doomed.imp_right (chosen_after tagged found ?_))⟩
      · rcases mem_userConns_enter.mp there with ⟨_, same⟩ | before
        · exact absurd same own
        · exact before
      · rintro _ _ ⟨⟩

end Bound

section Calls

variable {conns : Connections} {limit : Nat} {scene now : ManagerScene} {index : Nat}
  {conn : ConnectionId} {order : SetOrder}

def PlainStep (conns : Connections) (op : Op) (effect : ConnectionManager → ConnectionManager) :
    Prop :=
  op.plain = true ∧ effect = op.effect conns

theorem plain_unregister (evicted : Bool) :
    (unregister conns conn evicted).Every (PlainStep conns) :=
  ⟨⟨rfl, rfl⟩, fun _ => ⟨⟨rfl, rfl⟩, fun _ => ⟨⟨rfl, rfl⟩, fun _ => ⟨⟨rfl, rfl⟩,
    fun _ => trivial⟩⟩⟩⟩

theorem plain_refreshRoutes (subsSnapshot : List (ConnectionId × List String)) :
    (refreshRoutes conns subsSnapshot).Every (PlainStep conns) := by
  induction subsSnapshot with
  | nil => trivial
  | cons first rest ih =>
      obtain ⟨conn, subscriptions⟩ := first
      rw [refreshRoutes]
      refine Process.every_bind ⟨⟨rfl, rfl⟩, fun _ => trivial⟩ fun closed => ?_
      split
      · exact Process.every_bind (plain_unregister false) fun _ => ih
      · refine Process.every_bind ⟨⟨rfl, rfl⟩, fun _ => trivial⟩ fun _ => ?_
        split
        · exact ih
        · exact Process.every_bind ⟨⟨rfl, rfl⟩, fun _ => trivial⟩ fun _ => ih

theorem plain_handle {call : ManagerCall}
    (other : ∀ conn order failure, call ≠ .register conn order failure) :
    (call.handle conns limit).Every (PlainStep conns) := by
  cases call with
  | register conn order failure => exact absurd rfl (other conn order failure)
  | unregister conn evicted => exact plain_unregister evicted
  | subscribeChannel => exact ⟨⟨rfl, rfl⟩, fun _ => ⟨⟨rfl, rfl⟩, fun _ => trivial⟩⟩
  | unsubscribeChannel => exact ⟨⟨rfl, rfl⟩, fun _ => ⟨⟨rfl, rfl⟩, fun _ => trivial⟩⟩
  | refreshTick => exact ⟨⟨rfl, rfl⟩, fun _ => plain_refreshRoutes _⟩
  | close => exact ⟨⟨rfl, rfl⟩, fun _ => trivial⟩

theorem keeps_plain {call : ManagerCall} {process : Handler Unit}
    (other : ∀ conn order,
    call ≠ .register conn order none) (every : process.Every (PlainStep conns))
    (found : scene.opened[index]?.map Opened.tag = some call) :
    Keeps (registerTerms conns limit) (RegistryLaw conns limit) index call process scene := by
  refine keeps_every ?_ every found
  rintro now label effect outcome opened tagged running law _ ⟨plain, rfl⟩
  exact law.plain tagged opened plain other

theorem RegistryLaw.evicting {entered routed : ManagerEntry} {chosen : List ConnectionId}
    (law : RegistryLaw conns limit now) (own : now.own index = [entered, routed])
    (tag : entered.tag = .register conn order none) (label : routed.label = .settingRoutes conn)
    (same : chosen = entered.after.staleToClose conns conn limit order) :
    RegistryLaw conns limit (now.after index (.register conn order none)
      (.evicting (chosen.filter (· ≠ conn))) (Op.effect conns (.evicting (chosen.filter (· ≠ conn))))
      (some (.ok ()))) := by
  refine law.shrink fun userId other there => ⟨there, ?_⟩
  rintro (waits | ⟨entry, chooses⟩)
  · exact .inl (List.mem_append_left _ waits)
  · by_cases mine : entry.index = index
    · obtain ⟨last, otherOrder, entryTag, entryLabel, different, stale⟩ := chooses.chosen
      have first : entry = entered := by
        have member := Scene.mem_own.mpr ⟨chooses.member, mine⟩
        rw [own, List.mem_cons, List.mem_singleton] at member
        rcases member with first | second
        · exact first
        · rw [second, label] at entryLabel
          cases entryLabel
      rw [first, tag, ManagerCall.register.injEq] at entryTag
      obtain ⟨rfl, rfl, _⟩ := entryTag
      rw [first, ← same] at stale
      refine .inl (List.mem_append_right _ (List.mem_filter.mpr ⟨stale, ?_⟩))
      rw [decide_eq_true_eq]
      exact different
    · exact .inr ⟨entry, chooses.after fun own => absurd own mine⟩

theorem keeps_register (own : scene.own index = []) :
    Keeps (registerTerms conns limit) (RegistryLaw conns limit) index (.register conn order none)
      (register conns limit conn order none) scene := by
  refine keeps_act fun first met tagged running law acts => ⟨law.registering running acts, ?_⟩
  have ownFirst := met.own_eq.trans own
  refine keeps_act fun second met tagged running law _ => ⟨?_, ?_⟩
  · refine law.shrink fun userId other there => ⟨there, Or.imp_right ?_⟩
    exact fun ⟨entry, chooses⟩ => ⟨entry, chooses.after fun _ => rfl⟩
  have ownSecond := met.own_eq
  rw [Scene.own_after, ownFirst, List.nil_append] at ownSecond
  refine keeps_act fun third met tagged running law _ => ⟨?_, trivial⟩
  have ownThird := met.own_eq
  rw [Scene.own_after, ownSecond, List.singleton_append] at ownThird
  exact law.evicting ownThird rfl rfl rfl

theorem keeps_failing {fault : RegisterFailure}
    (found : scene.opened[index]?.map Opened.tag = some (.register conn order (some fault))) :
    Keeps (registerTerms conns limit) (RegistryLaw conns limit) index
      (.register conn order (some fault)) (register conns limit conn order (some fault)) scene := by
  obtain ⟨task, opened, tag⟩ := Option.map_eq_some_iff.mp found
  cases fault with
  | unwritten =>
      refine keeps_act fun first met tagged running law acts => ⟨?_, trivial⟩
      refine law.failing tagged ?_ acts
      rw [met.opened opened, Option.map_some, tag]
  | written =>
      refine keeps_act fun first met tagged running law acts => ?_
      have foundFirst : first.opened[index]?.map Opened.tag =
          some (.register conn order (some .written)) := by
        rw [met.opened opened, Option.map_some, tag]
      refine ⟨law.failing tagged foundFirst acts, ?_⟩
      exact keeps_plain (fun _ _ same => nomatch same) ⟨⟨rfl, rfl⟩, fun _ => trivial⟩ foundFirst

theorem keeps_calls (call : ManagerCall) (tagged : scene.Tagged) (law : RegistryLaw conns limit scene) :
    RegistryLaw conns limit (scene.opening call) ∧
      Keeps (registerTerms conns limit) (RegistryLaw conns limit) scene.opened.length call
        (call.handle conns limit) (scene.opening call) := by
  have opened : (scene.opening call).opened[scene.opened.length]?.map Opened.tag = some call := by
    simp [Scene.opening]
  refine ⟨⟨law.paired, ?_⟩, ?_⟩
  · intro userId ids once each
    refine law.bounded userId ids once fun conn member => (each conn member).imp_right ?_
    intro spared doomed
    refine spared (doomed.imp_right ?_)
    rintro ⟨entry, chooses⟩
    exact ⟨entry, chooses.member, chooses.running, chooses.chosen⟩
  cases call with
  | register conn order failure =>
      cases failure with
      | none => exact keeps_register (Scene.own_opening tagged _)
      | some fault => exact keeps_failing opened
  | _ =>
      refine keeps_plain ?_ (plain_handle ?_) opened
      · rintro _ _ ⟨⟩
      · rintro _ _ _ ⟨⟩

/-- In every run in which no register above the limit raises or picks its own connection, the dicts
agree, and once the registers and evictions are over no user has more connections than the limit. -/
theorem connections_limited (conns : Connections) (limit : Nat) (final : ManagerSite)
    (run : Runs (ManagerCall.handle conns limit) (registerTerms conns limit)
      ⟨⟨{}, [], []⟩, []⟩ final) : Limited conns limit final.toScene := by
  have start : RegistryLaw conns limit ⟨{}, [], []⟩ := by
    refine ⟨paired_empty, fun userId ids _ each => ?_⟩
    cases ids with
    | nil => exact Nat.zero_le limit
    | cons conn rest => exact absurd (each conn List.mem_cons_self).1 List.not_mem_nil
  have kept := Runs.keeps (fun _ call tagged law _ => keeps_calls call tagged law)
    (kept_initial start) run
  have law := kept.inv
  refine ⟨fun userId conn => ?_, law.paired.nonempty, fun quiet userId ids found => ?_⟩
  · rw [law.paired.same, ConnectionManager.userConns]
    cases final.world.connectionsByUser userId with
    | none => simp
    | some ids => simp
  · have known : final.world.userConns userId = ids := by
      rw [ConnectionManager.userConns, found]
      rfl
    refine law.bounded userId ids (known ▸ law.paired.once userId) fun conn member => ?_
    refine ⟨known ▸ member, ?_⟩
    rintro (waits | ⟨entry, chooses⟩)
    · rw [quiet.waiting] at waits
      cases waits
    · obtain ⟨conn, order, tag, _⟩ := chooses.chosen
      obtain ⟨since, _, opened⟩ := kept.tagged entry chooses.member
      exact quiet.registers entry.index _ conn order none opened tag chooses.running

end Calls

section Example

def threeConns : Connections
  | 1 => ⟨7, 5⟩
  | 2 => ⟨7, 6⟩
  | _ => ⟨7, 4⟩

def registers (conns : List ConnectionId) : List (Move ManagerCall) :=
  conns.zipIdx.flatMap fun (conn, index) =>
    Move.start (ManagerCall.register conn .insertion none) :: List.replicate 3 (Move.exec index)

def registerActs (limit : Nat) (scene : ManagerScene) (_ : Nat) (call : ManagerCall) (label : Op)
    (_ : ConnectionManager → ConnectionManager) : Bool :=
  match call, label with
  | .register conn order failure, .registering other =>
      let userConns := (scene.world.enter threeConns conn).userConns (threeConns conn).userId
      conn != other || decide (userConns.length - limit ≤
        Ranking.ahead (fun other => (threeConns other).connectedAt) (order.iterate userConns) conn ∧
          (limit < userConns.length → failure = none))
  | _, _ => true

theorem registerActs_sound {limit : Nat} {scene : ManagerScene} {index : Nat} {call : ManagerCall}
    {label : Op} {effect : ConnectionManager → ConnectionManager}
    (checked : registerActs limit scene index call label effect = true) :
    RegisterActs threeConns limit scene index call label effect := by
  rintro conn order failure rfl rfl
  simpa only [registerActs, bne_self_eq_false, Bool.false_or, decide_eq_true_eq] using checked

def evictingSite : Option ManagerSite :=
  Site.steps (ManagerCall.handle threeConns 2) (fun _ _ => true) (registerActs 2)
    ⟨⟨{}, [], []⟩, []⟩
    (registers [3, 1, 2] ++
      Move.start (ManagerCall.unregister 3 true) :: List.replicate 4 (Move.exec 3))

theorem connections_limited_evicting : ∃ final, evictingSite = some final ∧
    final.world.userConns 7 = [2, 1] ∧ Limited threeConns 2 final.toScene := by
  have reached : evictingSite.map (·.world.userConns 7) = some [2, 1] := by decide +kernel
  obtain ⟨final, stepped, left⟩ := Option.map_eq_some_iff.mp reached
  refine ⟨final, stepped, left, connections_limited threeConns 2 final ?_⟩
  exact runs_of_steps _ (fun _ _ _ => trivial) (fun _ _ _ _ _ => registerActs_sound) .refl stepped

def overfullSite : Option ManagerSite :=
  Site.steps (ManagerCall.handle threeConns 2) (fun _ _ => true) (fun _ _ _ _ _ => true)
    ⟨⟨{}, [], []⟩, []⟩ (registers [1, 2, 3])

/-- The newest connection comes last, and its register raises before it closes the first one. -/
def interruptedSite : Option ManagerSite :=
  Site.steps (ManagerCall.handle threeConns 2) (fun _ _ => true) (fun _ _ _ _ _ => true)
    ⟨⟨{}, [], []⟩, []⟩
    (registers [3, 1] ++
      [Move.start (ManagerCall.register 2 .insertion (some .unwritten)), Move.exec 2])

theorem not_limited {conns : Connections} {limit : Nat} {final : ManagerSite} {userId : UserId}
    {ids : List ConnectionId} (known : final.world.connectionsByUser userId = some ids)
    (ended : final.ended = true) (waiting : final.world.evictions = [])
    (above : limit < ids.length) : ¬Limited conns limit final.toScene := by
  intro limited
  have quiet : Quiet final.toScene :=
    ⟨fun _ _ _ _ _ found _ => Scene.not_running_of_ended ended found,
      fun _ _ _ found _ => Scene.not_running_of_ended ended found, waiting⟩
  exact absurd (limited.bound quiet userId ids known) (Nat.not_le_of_lt above)

theorem three_registered :
    (∃ final, overfullSite = some final ∧
      Runs (ManagerCall.handle threeConns 2) {} ⟨⟨{}, [], []⟩, []⟩ final ∧
        ¬Limited threeConns 2 final.toScene) ∧
    ∃ final, interruptedSite = some final ∧
      Runs (ManagerCall.handle threeConns 2) {} ⟨⟨{}, [], []⟩, []⟩ final ∧
        ¬Limited threeConns 2 final.toScene := by
  constructor
  · have reached : overfullSite.map (fun site => (site.world.connectionsByUser 7, site.ended,
        site.world.evictions)) = some (some [3, 2, 1], true, []) := by decide +kernel
    obtain ⟨final, stepped, left⟩ := Option.map_eq_some_iff.mp reached
    rw [Prod.mk.injEq, Prod.mk.injEq] at left
    refine ⟨final, stepped, ?_, not_limited left.1 left.2.1 left.2.2 (by decide)⟩
    exact runs_of_steps _ (fun _ _ _ => trivial) (fun _ _ _ _ _ _ => trivial) .refl stepped
  · have reached : interruptedSite.map (fun site => (site.world.connectionsByUser 7, site.ended,
        site.world.evictions)) = some (some [2, 1, 3], true, []) := by decide +kernel
    obtain ⟨final, stepped, left⟩ := Option.map_eq_some_iff.mp reached
    rw [Prod.mk.injEq, Prod.mk.injEq] at left
    refine ⟨final, stepped, ?_, not_limited left.1 left.2.1 left.2.2 (by decide)⟩
    exact runs_of_steps _ (fun _ _ _ => trivial) (fun _ _ _ _ _ _ => trivial) .refl stepped

end Example

end Messanger.Gateways
