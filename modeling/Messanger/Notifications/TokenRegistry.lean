import Messanger.Notifications.Devices
import Mathlib.Logic.Function.Basic

/-!
Whom a device token stands for.  The registry follows the requests alone; the rows of the device
tokens follow it as long as no token moves in a way that the two unique keys do not allow for.
-/

namespace Messanger

open Relational

namespace Devices

structure Registry where
  holder : String → Option UserId
  last : UserId × String → Option String

namespace Registry

def empty : Registry := ⟨fun _ => none, fun _ => none⟩

def release (registry : Registry) (userId : UserId) (did : String) : Registry :=
  match registry.last (userId, did) with
  | none => registry
  | some token =>
      if registry.holder token = some userId then
        { registry with holder := Function.update registry.holder token none }
      else registry

def create (registry : Registry) (userId : UserId) (did token : String) : Registry where
  holder := Function.update (registry.release userId did).holder token (some userId)
  last := Function.update registry.last (userId, did) (some token)

def forget (registry : Registry) (tokens : List String) : Registry :=
  { registry with holder := fun token => if token ∈ tokens then none else registry.holder token }

end Registry

structure State where
  devices : DeviceTable := .empty
  registry : Registry := .empty

def State.step (state : State) (command : Command) : State where
  devices := command.exec state.devices
  registry :=
    match command with
    | .create userId did token _ _ => state.registry.create userId did token
    | .delete userId did => state.registry.release userId did
    | .push userId provider => state.registry.forget (reportedTokens state.devices userId provider)

def State.run (state : State) (commands : List Command) : State := commands.foldl State.step state

/-- The rows let the command do what it asks for: the device has no other token and the token no
other device of the user, nobody else is active with the token, a new row fits its columns; no
token is reported. -/
def Command.Admissible (command : Command) (devices : DeviceTable) : Prop :=
  match command with
  | .create userId did token platform deviceName =>
      (∀ row ∈ devices.rows, row.userId = userId → (row.did = did ↔ row.token = token)) ∧
        (∀ row ∈ devices.rows, row.token = token → row.userId ≠ userId → row.isActive = false) ∧
        (getDeviceByUserToken devices userId token = none →
          (UserDeviceToken.create userId token platform deviceName did).fitsColumns = true)
  | .delete _ _ => True
  | .push userId provider => reportedTokens devices userId provider = []

/-- Every command of the list is admissible when its turn comes. -/
def Admissible : DeviceTable → List Command → Prop
  | _, [] => True
  | devices, command :: commands =>
      command.Admissible devices ∧ Admissible (command.exec devices) commands

structure Agrees (state : State) : Prop where
  active : ∀ token userId, state.registry.holder token = some userId ↔
    ∃ row ∈ state.devices.rows, row.userId = userId ∧ row.token = token ∧ row.isActive = true
  last : ∀ userId did token, state.registry.last (userId, did) = some token ↔
    ∃ row ∈ state.devices.rows, row.userId = userId ∧ row.did = did ∧ row.token = token

variable {state : State} {userId : UserId} {did token : String}

section Rows

theorem sentTokens_eq (devices : DeviceTable) (userId : UserId) (provider : Provider) :
    sentTokens devices userId provider = (getActiveByUserId devices userId).map (·.token) :=
  Python.flatten_slices (by decide) _

theorem mem_sentTokens {devices : DeviceTable} {provider : Provider} :
    token ∈ sentTokens devices userId provider ↔
      ∃ row ∈ devices.rows, row.userId = userId ∧ row.token = token ∧ row.isActive = true := by
  rw [sentTokens_eq]
  simp only [getActiveByUserId, Table.select, List.mem_map, List.mem_filter, Bool.and_eq_true,
    beq_iff_eq]
  constructor
  · rintro ⟨row, ⟨member, own, active⟩, same⟩
    exact ⟨row, member, own, same, active⟩
  · rintro ⟨row, member, own, same, active⟩
    exact ⟨row, ⟨member, own, active⟩, same⟩

theorem sentTokens_nodup (devices : DeviceTable) (userId : UserId) (provider : Provider) :
    (sentTokens devices userId provider).Nodup := by
  rw [sentTokens_eq]
  refine List.Nodup.map_on ?_ ((List.Nodup.of_map _ devices.unique).filter _)
  intro left inLeft right inRight same
  obtain ⟨leftRow, leftOwn⟩ := List.mem_filter.mp inLeft
  obtain ⟨rightRow, rightOwn⟩ := List.mem_filter.mp inRight
  simp only [Bool.and_eq_true, beq_iff_eq] at leftOwn rightOwn
  refine devices.row_unique leftRow rightRow ?_
  rw [UserDeviceToken.key, UserDeviceToken.key, leftOwn.1, rightOwn.1, same]

theorem exec_push (devices : DeviceTable) (userId : UserId) (provider : Provider) :
    (Command.push userId provider).exec devices = devices := rfl

theorem mem_setActive {devices : DeviceTable} {device row : UserDeviceToken} {active : Bool}
    (member : device ∈ devices.rows) :
    row ∈ (setActive devices (fun other => decide (other.key = device.key)) active).rows ↔
      (row ∈ devices.rows ∧ row ≠ device) ∨ row = { device with isActive := active } := by
  have chosen : ∀ before ∈ devices.rows, before.key = device.key ↔ before = device := by
    intro before inside
    exact ⟨fun same => devices.row_unique inside member same, fun same => by rw [same]⟩
  simp only [setActive, Table.update, List.mem_map, decide_eq_true_eq]
  constructor
  · rintro ⟨before, inside, rfl⟩
    by_cases here : before = device
    · right
      rw [if_pos ((chosen before inside).mpr here), here]
    · left
      rw [if_neg fun same => here ((chosen before inside).mp same)]
      exact ⟨inside, here⟩
  · rintro (⟨inside, apart⟩ | rfl)
    · exact ⟨row, inside, if_neg fun same => apart ((chosen row inside).mp same)⟩
    · exact ⟨device, member, if_pos rfl⟩

end Rows

section Steps

theorem holder_create {registry : Registry}
    (same : ∀ old, registry.last (userId, did) = some old → old = token) :
    (registry.create userId did token).holder =
      Function.update registry.holder token (some userId) := by
  rw [Registry.create, Registry.release]
  cases registered : registry.last (userId, did) with
  | none => rfl
  | some old =>
      simp only [same old registered]
      split
      · exact Function.update_idem _ _ _
      · rfl

theorem holder_release {registry : Registry} {old : String}
    (registered : registry.last (userId, did) = some old) (target : String) :
    (registry.release userId did).holder target =
      if target = old ∧ registry.holder target = some userId then none
      else registry.holder target := by
  simp only [Registry.release, registered]
  by_cases held : registry.holder old = some userId
  · rw [if_pos held]
    dsimp only
    by_cases here : target = old
    · rw [here, Function.update_self, if_pos ⟨rfl, held⟩]
    · rw [Function.update_of_ne here, if_neg fun both => here both.1]
  · rw [if_neg held, if_neg]
    rintro ⟨rfl, own⟩
    exact held own

theorem last_release (registry : Registry) (userId : UserId) (did : String) :
    (registry.release userId did).last = registry.last := by
  unfold Registry.release
  split
  · rfl
  · split
    · rfl
    · rfl

theorem agrees_create {after : DeviceTable} (agrees : Agrees state)
    (own : ∀ row ∈ state.devices.rows, row.userId = userId → (row.did = did ↔ row.token = token))
    (others : ∀ row, row.token ≠ token → (row ∈ after.rows ↔ row ∈ state.devices.rows))
    (granted : ∃ row ∈ after.rows, row.userId = userId ∧ row.token = token ∧ row.isActive = true)
    (foreign : ∀ row ∈ after.rows, row.token = token → row.userId ≠ userId → row.isActive = false)
    (named : ∀ user device, (∃ row ∈ after.rows,
        row.userId = user ∧ row.did = device ∧ row.token = token) ↔
      (∃ row ∈ state.devices.rows, row.userId = user ∧ row.did = device ∧ row.token = token) ∨
        (user = userId ∧ device = did)) :
    Agrees ⟨after, state.registry.create userId did token⟩ := by
  have sole : ∀ old, state.registry.last (userId, did) = some old → old = token := by
    intro old registered
    obtain ⟨row, member, user, device, rfl⟩ := (agrees.last userId did old).mp registered
    exact (own row member user).mp device
  refine ⟨fun target user => ?_, fun user device target => ?_⟩
  · simp only [holder_create sole]
    by_cases here : target = token
    · subst here
      rw [Function.update_self]
      constructor
      · intro same
        cases same
        exact granted
      · rintro ⟨row, member, rfl, same, active⟩
        by_contra apart
        have inactive := foreign row member same fun equal => apart (by rw [equal])
        rw [inactive] at active
        cases active
    · rw [Function.update_of_ne here, agrees.active target user]
      constructor
      · rintro ⟨row, member, user, same, active⟩
        exact ⟨row, (others row (by rw [same]; exact here)).mpr member, user, same, active⟩
      · rintro ⟨row, member, user, same, active⟩
        exact ⟨row, (others row (by rw [same]; exact here)).mp member, user, same, active⟩
  · simp only [Registry.create]
    by_cases target_token : target = token
    · subst target_token
      rw [named user device]
      by_cases here : (user, device) = (userId, did)
      · cases here
        simp
      · rw [Function.update_of_ne here, agrees.last user device target, or_iff_left]
        rintro ⟨rfl, rfl⟩
        exact here rfl
    · have kept : (∃ row ∈ after.rows, row.userId = user ∧ row.did = device ∧ row.token = target) ↔
          ∃ row ∈ state.devices.rows, row.userId = user ∧ row.did = device ∧ row.token = target := by
        constructor
        · rintro ⟨row, member, rest⟩
          exact ⟨row, (others row (by rw [rest.2.2]; exact target_token)).mp member, rest⟩
        · rintro ⟨row, member, rest⟩
          exact ⟨row, (others row (by rw [rest.2.2]; exact target_token)).mpr member, rest⟩
      rw [kept]
      by_cases here : (user, device) = (userId, did)
      · cases here
        rw [Function.update_self]
        refine iff_of_false (fun same => target_token (Option.some.inj same).symm) ?_
        rintro ⟨row, member, user, device, same⟩
        exact target_token (same.symm.trans ((own row member user).mp device))
      · rw [Function.update_of_ne here, agrees.last user device target]

theorem getDeviceByUserDid_none {devices : DeviceTable}
    (absent : ∀ row ∈ devices.rows, row.userId = userId → row.did ≠ did) :
    getDeviceByUserDid devices userId did = none := by
  refine List.find?_eq_none.mpr fun row member => ?_
  rw [Bool.and_eq_true, beq_iff_eq, beq_iff_eq]
  rintro ⟨user, device⟩
  exact absent row member user device

theorem exec_create {devices : DeviceTable} {platform : PlatformEnum} {deviceName : String}
    (admissible : (Command.create userId did token platform deviceName).Admissible devices) :
    (Command.create userId did token platform deviceName).exec devices =
      match getDeviceByUserToken devices userId token with
      | some device =>
          if device.isActive then devices
          else setActive devices (fun row => decide (row.key = device.key)) true
      | none => devices.insert (.create userId token platform deviceName did) := by
  obtain ⟨own, _, fitting⟩ := admissible
  simp only [Command.exec, createUserDevice, Session.start]
  cases found : getDeviceByUserToken devices userId token with
  | some device =>
      cases active : device.isActive with
      | true => simp [active, Except.toOption]
      | false => simp [active, Except.toOption, Session.commit, Session.close]
  | none =>
      have free : getDeviceByUserDid devices userId did = none := by
        refine getDeviceByUserDid_none fun row member user device => ?_
        have same := (own row member user).mp device
        exact (devices.find?_none_iff _).mp found row member (by rw [UserDeviceToken.key, user, same])
      have unused : getDeviceByUserDid devices
          (UserDeviceToken.create userId token platform deviceName did).userId
          (UserDeviceToken.create userId token platform deviceName did).did = none := free
      simp [insertDevice, fitting found, unused, bind, Except.bind, Except.toOption, Session.commit,
        Session.close]

theorem step_create {platform : PlatformEnum} {deviceName : String} (agrees : Agrees state)
    (admissible : (Command.create userId did token platform deviceName).Admissible state.devices) :
    Agrees (state.step (.create userId did token platform deviceName)) := by
  rw [State.step, exec_create admissible]
  obtain ⟨own, foreign, fitting⟩ := admissible
  cases found : getDeviceByUserToken state.devices userId token with
  | some device =>
      obtain ⟨member, key⟩ := (state.devices.find?_some_iff _ device).mp found
      cases key
      have named : device.did = did := (own device member rfl).mpr rfl
      have known : ∀ user other, (∃ row ∈ state.devices.rows,
          row.userId = user ∧ row.did = other ∧ row.token = device.token) ↔
        (∃ row ∈ state.devices.rows,
          row.userId = user ∧ row.did = other ∧ row.token = device.token) ∨
            (user = device.userId ∧ other = did) := by
        intro user other
        rw [or_iff_left_of_imp]
        rintro ⟨rfl, rfl⟩
        exact ⟨device, member, rfl, named, rfl⟩
      cases active : device.isActive with
      | true =>
          simp only [active, if_true]
          exact agrees_create agrees own (fun row _ => Iff.rfl) ⟨device, member, rfl, rfl, active⟩
            foreign known
      | false =>
          simp only [active, Bool.false_eq_true, if_false]
          refine agrees_create agrees own (fun row other => ?_)
            ⟨_, (mem_setActive member).mpr (.inr rfl), rfl, rfl, rfl⟩ ?_ fun user other => ?_
          · rw [mem_setActive member, or_iff_left fun same => other (by rw [same]), and_iff_left]
            exact fun same => other (by rw [same])
          · intro row inside same apart
            rcases (mem_setActive member).mp inside with ⟨inside, _⟩ | rfl
            · exact foreign row inside same apart
            · exact absurd rfl apart
          · rw [← known user other]
            constructor
            · rintro ⟨row, inside, facts⟩
              rcases (mem_setActive member).mp inside with ⟨inside, _⟩ | rfl
              · exact ⟨row, inside, facts⟩
              · exact ⟨device, member, facts⟩
            · rintro ⟨row, inside, facts⟩
              by_cases here : row = device
              · subst here
                exact ⟨_, (mem_setActive member).mpr (.inr rfl), facts⟩
              · exact ⟨row, (mem_setActive member).mpr (.inl ⟨inside, here⟩), facts⟩
  | none =>
      have absent : ∀ row ∈ state.devices.rows, row.userId = userId → row.token ≠ token := by
        intro row inside user same
        exact (state.devices.find?_none_iff _).mp found row inside
          (by rw [UserDeviceToken.key, user, same])
      have rows : ∀ row, row ∈ (state.devices.insert
          (UserDeviceToken.create userId token platform deviceName did)).rows ↔
            row ∈ state.devices.rows ∨
              row = UserDeviceToken.create userId token platform deviceName did := by
        intro row
        have free : state.devices.find?
            (UserDeviceToken.create userId token platform deviceName did).key = none := found
        rw [Table.rows_insert _ _ free, List.mem_append, List.mem_singleton]
      refine agrees_create agrees own (fun row other => ?_) ⟨_, (rows _).mpr (.inr rfl), rfl, rfl,
        rfl⟩ ?_ fun user other => ?_
      · rw [rows, or_iff_left]
        rintro rfl
        exact other rfl
      · intro row inside same apart
        rcases (rows row).mp inside with inside | rfl
        · exact foreign row inside same apart
        · exact absurd rfl apart
      · constructor
        · rintro ⟨row, inside, facts⟩
          rcases (rows row).mp inside with inside | rfl
          · exact .inl ⟨row, inside, facts⟩
          · exact .inr ⟨facts.1.symm, facts.2.1.symm⟩
        · rintro (⟨row, inside, facts⟩ | ⟨rfl, rfl⟩)
          · exact ⟨row, (rows row).mpr (.inl inside), facts⟩
          · exact ⟨_, (rows _).mpr (.inr rfl), rfl, rfl, rfl⟩

theorem step_delete (agrees : Agrees state) : Agrees (state.step (.delete userId did)) := by
  simp only [State.step, Command.exec, deleteUserDevice, Session.start]
  cases found : getDeviceByUserDid state.devices userId did with
  | none =>
      have unregistered : state.registry.last (userId, did) = none := by
        rw [Option.eq_none_iff_forall_not_mem]
        intro token registered
        obtain ⟨row, member, user, device, _⟩ := (agrees.last userId did token).mp registered
        have missed := List.find?_eq_none.mp found row member
        simp [user, device] at missed
      have kept : state.registry.release userId did = state.registry := by
        rw [Registry.release, unregistered]
      rw [kept]
      exact agrees
  | some device =>
      have member := List.mem_of_find?_eq_some found
      have own := List.find?_some found
      simp only [Bool.and_eq_true, beq_iff_eq] at own
      obtain ⟨rfl, rfl⟩ := own
      have registered := (agrees.last device.userId device.did device.token).mpr
        ⟨device, member, rfl, rfl, rfl⟩
      refine ⟨fun token user => ?_, fun user did token => ?_⟩
      · simp only [holder_release registered, Except.toOption, Option.getD_some, Session.commit,
          Session.close]
        by_cases gone : token = device.token ∧ state.registry.holder token = some device.userId
        · rw [if_pos gone]
          refine iff_of_false (Option.some_ne_none user).symm ?_
          rintro ⟨row, inside, rfl, same, active⟩
          rcases (mem_setActive member).mp inside with ⟨inside, apart⟩ | rfl
          · have held := (agrees.active token row.userId).mpr ⟨row, inside, rfl, same, active⟩
            rw [gone.2] at held
            refine apart (state.devices.row_unique inside member ?_)
            rw [UserDeviceToken.key, UserDeviceToken.key, same, gone.1, Option.some.inj held]
          · cases active
        · rw [if_neg gone, agrees.active token user]
          constructor
          · rintro ⟨row, inside, rfl, rfl, active⟩
            refine ⟨row, (mem_setActive member).mpr (.inl ⟨inside, ?_⟩), rfl, rfl, active⟩
            rintro rfl
            exact gone ⟨rfl, (agrees.active _ _).mpr ⟨row, inside, rfl, rfl, active⟩⟩
          · rintro ⟨row, inside, rfl, rfl, active⟩
            rcases (mem_setActive member).mp inside with ⟨inside, _⟩ | rfl
            · exact ⟨row, inside, rfl, rfl, active⟩
            · cases active
      · simp only [last_release, Except.toOption, Option.getD_some, Session.commit, Session.close]
        rw [agrees.last user did token]
        constructor
        · rintro ⟨row, inside, facts⟩
          by_cases here : row = device
          · subst here
            exact ⟨_, (mem_setActive member).mpr (.inr rfl), facts⟩
          · exact ⟨row, (mem_setActive member).mpr (.inl ⟨inside, here⟩), facts⟩
        · rintro ⟨row, inside, facts⟩
          rcases (mem_setActive member).mp inside with ⟨inside, _⟩ | rfl
          · exact ⟨row, inside, facts⟩
          · exact ⟨device, member, facts⟩

theorem step_push {provider : Provider} (agrees : Agrees state)
    (admissible : (Command.push userId provider).Admissible state.devices) :
    Agrees (state.step (.push userId provider)) := by
  have quiet : reportedTokens state.devices userId provider = [] := admissible
  simp only [State.step, exec_push, quiet, Registry.forget, List.not_mem_nil, if_false]
  exact agrees

theorem agrees_step {command : Command} (agrees : Agrees state)
    (admissible : command.Admissible state.devices) : Agrees (state.step command) := by
  cases command with
  | create userId did token platform deviceName => exact step_create agrees admissible
  | delete userId did => exact step_delete agrees
  | push userId provider => exact step_push agrees admissible

theorem agrees_run {commands : List Command} (agrees : Agrees state)
    (admissible : Admissible state.devices commands) : Agrees (state.run commands) := by
  induction commands generalizing state with
  | nil => exact agrees
  | cons command others ih => exact ih (agrees_step agrees admissible.1) admissible.2

theorem agrees_empty : Agrees {} := by
  refine ⟨fun token userId => iff_of_false nofun ?_, fun userId did token => iff_of_false nofun ?_⟩
  · rintro ⟨row, member, _⟩
    cases member
  · rintro ⟨row, member, _⟩
    cases member

end Steps

/-- Every push of a run of admissible commands is sent to the tokens of its user, once each. -/
theorem pushes_follow_registry {commands : List Command} (admissible : Admissible .empty commands) :
    ∀ earlier userId provider later, commands = earlier ++ .push userId provider :: later →
      let state := State.run {} earlier
      (sentTokens state.devices userId provider).Nodup ∧
        ∀ token, token ∈ sentTokens state.devices userId provider ↔
          state.registry.holder token = some userId := by
  rintro earlier userId provider later rfl
  have front : ∀ (devices : DeviceTable) (earlier : List Command),
      Admissible devices (earlier ++ .push userId provider :: later) → Admissible devices earlier := by
    intro devices earlier admissible
    induction earlier generalizing devices with
    | nil => trivial
    | cons command others ih => exact ⟨admissible.1, ih _ admissible.2⟩
  have agrees : Agrees (State.run {} earlier) := agrees_run agrees_empty (front .empty earlier admissible)
  refine ⟨sentTokens_nodup _ userId provider, fun token => ?_⟩
  rw [mem_sentTokens, agrees.active]

def accepted : Provider := fun tokens => some (tokens.map fun _ => .success)

def handedOver : List Command :=
  [.create 1 "phone" "t1" .android "Phone", .push 1 accepted, .delete 1 "phone",
    .create 2 "phone" "t1" .android "Phone", .create 1 "tablet" "t2" .web "Tablet",
    .push 2 accepted]

theorem pushes_follow_registry_handed_over :
    (sentTokens (State.run {} handedOver).devices 1 accepted).Nodup ∧
      ("t2" ∈ sentTokens (State.run {} handedOver).devices 1 accepted ↔
        (State.run {} handedOver).registry.holder "t2" = some 1) := by
  have admissible : Admissible .empty (handedOver ++ [.push 1 accepted]) := by
    simp only [handedOver, List.cons_append, List.nil_append, Admissible, Command.Admissible]
    decide +kernel
  have follows := pushes_follow_registry admissible handedOver 1 accepted [] rfl
  exact ⟨follows.1, follows.2 "t2"⟩

/-- A device that reports a new token is refused, and pushes go to the old one. -/
theorem rotated_token_refused :
    ¬ ∀ (commands : List Command) earlier userId provider later,
      commands = earlier ++ .push userId provider :: later →
        let state := State.run {} earlier
        ∀ token, token ∈ sentTokens state.devices userId provider ↔
          state.registry.holder token = some userId := by
  intro claimed
  have sent : sentTokens (State.run {} [.create 1 "phone" "t1" .android "Phone",
      .create 1 "phone" "t2" .android "Phone"]).devices 1 accepted = ["t1"] := by decide +kernel
  have held : (State.run {} [.create 1 "phone" "t1" .android "Phone",
      .create 1 "phone" "t2" .android "Phone"]).registry.holder "t2" = some 1 := by decide +kernel
  have reached := (claimed _ [.create 1 "phone" "t1" .android "Phone",
    .create 1 "phone" "t2" .android "Phone"] 1 accepted [] rfl "t2").mpr held
  rw [sent] at reached
  exact absurd reached (by decide)

end Devices

end Messanger
