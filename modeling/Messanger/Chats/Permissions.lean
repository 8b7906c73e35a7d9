import Messanger.Chats.Models
import Messanger.Library.Table

/-!
Who has a permission in a chat, as the model of a member decides it and as the statement selects it
that finds whom to tell of a request to join.
-/

namespace Messanger.ChatPermissions

open Relational

/-- A JSON object of permissions; a value that is not there is JSON's null. -/
abbrev PermissionMap := List (String × Option Bool)

namespace PermissionMap

variable (map : PermissionMap) (permission : String)

/-- `bool(value)`. -/
def truth (value : Option Bool) : Bool := value.getD false

def update (base overrides : PermissionMap) : PermissionMap :=
  base.map (fun (key, value) => (key, (overrides.lookup key).getD value)) ++
    overrides.filter fun (key, _) => (base.lookup key).isNone

/-- `column[permission].as_boolean()`, null for a key that is not there and for JSON's null. -/
def asBoolean : Option Bool := (map.lookup permission).join

end PermissionMap

open PermissionMap

structure ChatRole where
  id : Nat
  permissions : PermissionMap := []
  deriving DecidableEq, Repr

def ChatRole.hasPermission (role : ChatRole) (permission : String) : Bool :=
  truth (role.permissions.lookup permission).join

structure Member where
  chatId : ChatId
  userId : UserId
  roleId : Nat
  bannedUntil : Option Nat := none
  permissionsOverrides : PermissionMap := []
  deriving DecidableEq, Repr

def Member.key (member : Member) : ChatId × UserId := (member.chatId, member.userId)

def Member.isBanned (member : Member) (now : Nat) : Bool :=
  member.bannedUntil.any fun limit => decide (now < limit)

/-- The members and the roles, one of which each member has. -/
structure Db where
  roles : Table ChatRole Nat ChatRole.id := .empty
  members : Table Member (ChatId × UserId) Member.key := .empty
  assigned : ∀ member ∈ members.rows, (roles.find? member.roleId).isSome

namespace Db

variable (db : Db)

def role (member : Member) (stored : member ∈ db.members.rows) : ChatRole :=
  (db.roles.find? member.roleId).get (db.assigned member stored)

def effectivePermissions (member : Member) (stored : member ∈ db.members.rows) : PermissionMap :=
  if member.permissionsOverrides.isEmpty then (db.role member stored).permissions
  else update (db.role member stored).permissions member.permissionsOverrides

def hasPermission (member : Member) (stored : member ∈ db.members.rows) (permission : String) :
    Bool :=
  match member.permissionsOverrides.lookup permission with
  | some value => truth value
  | none => (db.role member stored).hasPermission permission

/-- What the two statements of `user_ids_with_permission` select without a limit. -/
def selectedUserIds (now : Nat) (chatId : ChatId) (permission : String) : List UserId :=
  let allowedRoles := (db.roles.select fun role =>
    role.permissions.asBoolean permission == some true).map ChatRole.id
  if allowedRoles.isEmpty then []
  else
    (db.members.select fun member =>
      let override := member.permissionsOverrides.asBoolean permission
      member.chatId == chatId && allowedRoles.contains member.roleId && !member.isBanned now &&
        (override.isNone || override == some true)).map Member.userId

def userIdsWithPermission (now : Nat) (chatId : ChatId) (permission : String) (limit : Nat) :
    List UserId := (db.selectedUserIds now chatId permission).take limit

end Db

section Deciding

variable {db : Db} {now : Nat} {chatId : ChatId} {permission : String} {member : Member}

theorem lookup_update (base overrides : PermissionMap) : (update base overrides).lookup permission =
    (overrides.lookup permission).or (base.lookup permission) := by
  have rest (rows : PermissionMap) (skips : String → Bool) :
      (rows.filter fun (key, _) => skips key).lookup permission =
        if skips permission then rows.lookup permission else none := by
    induction rows with
    | nil => simp
    | cons first rows ih =>
        obtain ⟨key, value⟩ := first
        by_cases same : permission = key
        · subst same
          by_cases kept : skips permission
          · simp [kept]
          · simp [kept, ih]
        · by_cases kept : skips key
          · simp [kept, List.lookup_cons, ih, beq_false_of_ne same]
          · simp [kept, List.lookup_cons, ih, beq_false_of_ne same]
  have written (rows : PermissionMap) :
      (rows.map fun (key, value) => (key, (overrides.lookup key).getD value)).lookup permission =
        (rows.lookup permission).map fun value => (overrides.lookup permission).getD value := by
    induction rows with
    | nil => rfl
    | cons first rows ih =>
        obtain ⟨key, value⟩ := first
        by_cases same : permission = key
        · subst same
          simp
        · simp [List.lookup_cons, beq_false_of_ne same, ih]
  have added := rest overrides fun key => (base.lookup key).isNone
  rw [update, List.lookup_append, written, added]
  cases base.lookup permission with
  | none => simp
  | some value =>
      cases overrides.lookup permission with
      | none => rfl
      | some override => rfl

theorem effective_eq (stored : member ∈ db.members.rows) :
    truth ((db.effectivePermissions member stored).lookup permission).join =
      db.hasPermission member stored permission := by
  unfold Db.effectivePermissions Db.hasPermission
  split
  · rename_i empty
    rw [List.isEmpty_iff.mp empty]
    rfl
  · rw [lookup_update]
    cases member.permissionsOverrides.lookup permission with
    | none => rfl
    | some value => rfl

theorem mem_selectedUserIds {userId : UserId} :
    userId ∈ db.selectedUserIds now chatId permission ↔
      ∃ member, ∃ stored : member ∈ db.members.rows, member.chatId = chatId ∧
        member.userId = userId ∧ member.isBanned now = false ∧
          (db.role member stored).hasPermission permission = true ∧
            member.permissionsOverrides.asBoolean permission ≠ some false := by
  have allowed (member : Member) (stored : member ∈ db.members.rows) :
      member.roleId ∈ (db.roles.select fun role =>
          role.permissions.asBoolean permission == some true).map ChatRole.id ↔
        (db.role member stored).hasPermission permission = true := by
    obtain ⟨role, found⟩ := Option.isSome_iff_exists.mp (db.assigned member stored)
    obtain ⟨inside, key⟩ := (db.roles.find?_some_iff _ _).mp found
    have own : db.role member stored = role := by simp [Db.role, found]
    have grants (role : ChatRole) : role.hasPermission permission = true ↔
        role.permissions.asBoolean permission = some true := by
      unfold ChatRole.hasPermission asBoolean
      cases (role.permissions.lookup permission).join with
      | none => simp [truth]
      | some value => simp [truth]
    rw [own, grants]
    simp only [Table.select, List.mem_map, List.mem_filter, beq_iff_eq]
    constructor
    · rintro ⟨other, ⟨there, granted⟩, same⟩
      rw [← db.roles.row_unique there inside (same.trans key.symm)]
      exact granted
    · exact fun granted => ⟨role, ⟨inside, granted⟩, key⟩
  have override (value : Option Bool) :
      (value.isNone || value == some true) = true ↔ value ≠ some false := by
    cases value with
    | none => simp
    | some value => cases value <;> simp
  unfold Db.selectedUserIds
  dsimp only
  split
  · rename_i empty
    rw [List.isEmpty_iff] at empty
    constructor
    · intro none
      cases none
    · rintro ⟨member, stored, _, _, _, granted, _⟩
      rw [← allowed member stored, empty] at granted
      cases granted
  · simp only [Table.select, List.mem_map, List.mem_filter, Bool.and_eq_true, beq_iff_eq,
      List.contains_iff_mem, Bool.not_eq_true', override] at allowed ⊢
    constructor
    · rintro ⟨member, ⟨stored, ⟨⟨here, role⟩, free⟩, kept⟩, same⟩
      exact ⟨member, stored, here, same, free, (allowed member stored).mp role, kept⟩
    · rintro ⟨member, stored, here, same, free, granted, kept⟩
      exact ⟨member, ⟨stored, ⟨⟨here, (allowed member stored).mpr granted⟩, free⟩, kept⟩, same⟩

/-- No override of an active member grants what the role does not, or is a null that takes away
what it does. -/
def OnlyRevokes (db : Db) (now : Nat) (chatId : ChatId) (permission : String) : Prop :=
  ∀ member, ∀ stored : member ∈ db.members.rows, member.chatId = chatId →
    member.isBanned now = false →
      if (db.role member stored).hasPermission permission then
        member.permissionsOverrides.lookup permission ≠ some none
      else member.permissionsOverrides.lookup permission ≠ some (some true)

/-- The statement selects the active members that have the permission. -/
def SelectsHolders (db : Db) (now : Nat) (chatId : ChatId) (permission : String) : Prop :=
  ∀ userId, userId ∈ db.selectedUserIds now chatId permission ↔
    ∃ member, ∃ stored : member ∈ db.members.rows, member.chatId = chatId ∧
      member.userId = userId ∧ member.isBanned now = false ∧
        db.hasPermission member stored permission = true

theorem decides_alike (stored : member ∈ db.members.rows) :
    ((db.role member stored).hasPermission permission = true ∧
        member.permissionsOverrides.asBoolean permission ≠ some false ↔
          db.hasPermission member stored permission = true) ↔
      if (db.role member stored).hasPermission permission then
        member.permissionsOverrides.lookup permission ≠ some none
      else member.permissionsOverrides.lookup permission ≠ some (some true) := by
  unfold Db.hasPermission asBoolean
  cases (db.role member stored).hasPermission permission with
  | false =>
      cases member.permissionsOverrides.lookup permission with
      | none => simp
      | some value =>
          cases value with
          | none => simp [truth]
          | some granted => cases granted <;> simp [truth]
  | true =>
      cases member.permissionsOverrides.lookup permission with
      | none => simp
      | some value =>
          cases value with
          | none => simp [truth]
          | some granted => cases granted <;> simp [truth]

theorem selectsHolders_iff_onlyRevokes :
    SelectsHolders db now chatId permission ↔ OnlyRevokes db now chatId permission := by
  constructor
  · intro selects member stored here free
    rw [← decides_alike stored]
    have chosen := selects member.userId
    rw [mem_selectedUserIds] at chosen
    -- a user is one member of the chat
    have one (other : Member) (inside : other ∈ db.members.rows) (there : other.chatId = chatId)
        (same : other.userId = member.userId) : other = member :=
      db.members.row_unique inside stored (Prod.ext (there.trans here.symm) same)
    constructor
    · rintro ⟨granted, kept⟩
      obtain ⟨other, inside, there, same, _, holds⟩ :=
        chosen.mp ⟨member, stored, here, rfl, free, granted, kept⟩
      obtain rfl := one other inside there same
      exact holds
    · intro holds
      obtain ⟨other, inside, there, same, _, granted, kept⟩ :=
        chosen.mpr ⟨member, stored, here, rfl, free, holds⟩
      obtain rfl := one other inside there same
      exact ⟨granted, kept⟩
  · intro only userId
    rw [mem_selectedUserIds]
    constructor
    · rintro ⟨member, stored, here, same, free, decided⟩
      have alike := (decides_alike stored).mpr (only member stored here free)
      exact ⟨member, stored, here, same, free, alike.mp decided⟩
    · rintro ⟨member, stored, here, same, free, holds⟩
      have alike := (decides_alike stored).mpr (only member stored here free)
      exact ⟨member, stored, here, same, free, alike.mpr holds⟩

/-- The map and the question agree on every member, and the statement agrees with them just when
overrides only revoke. -/
theorem permission_decided (db : Db) (now : Nat) (chatId : ChatId) (permission : String) :
    (∀ member, ∀ stored : member ∈ db.members.rows,
      truth ((db.effectivePermissions member stored).lookup permission).join =
        db.hasPermission member stored permission) ∧
      (SelectsHolders db now chatId permission ↔ OnlyRevokes db now chatId permission) :=
  ⟨fun _ stored => effective_eq stored, selectsHolders_iff_onlyRevokes⟩

end Deciding

section Example

def trusted : Member where
  chatId := 10
  userId := 2
  roleId := 6
  permissionsOverrides := [("member:invite", some true)]

def trustedGroup : Db where
  roles := ⟨[⟨1, [("member:invite", some true)]⟩, ⟨6, [("member:invite", some false)]⟩], by decide⟩
  members := ⟨[⟨10, 1, 1, none, []⟩, trusted], by decide⟩
  assigned := by decide

theorem trusted_not_selected : ¬∀ (db : Db) (now : Nat) (chatId : ChatId) (permission : String),
    SelectsHolders db now chatId permission := by
  intro always
  have stored : trusted ∈ trustedGroup.members.rows := by decide
  have chosen := (always trustedGroup 0 10 "member:invite" 2).mpr
    ⟨trusted, stored, rfl, rfl, rfl, rfl⟩
  exact absurd chosen (by decide)

end Example

end Messanger.ChatPermissions
