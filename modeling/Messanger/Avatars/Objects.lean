import Messanger.Avatars.CommandsCore
import Messanger.Library.Custody
import Messanger.Library.Integers

/-!
Whose the files are.  The files of a photo or of a slot come into the hand of the task that draws
the id or pops the slot; a commit gives them to the rows that name them, and takes those that no row
names any more.
-/

namespace Messanger.Avatars

open Relational Processes Profiles

variable {services : Services}

section Keys

def photoObjects (userId : UserId) (photoId : PhotoId) : List Object :=
  Profiles.ProfilePhotoStorage.variants.map fun (size, fmt) =>
    (.avatar, Profiles.ProfilePhotoStorage.key userId photoId ⟨size, fmt, []⟩)

def slotObjects (chatId : ChatId) (version : Token) : List Object :=
  chatVariants.map fun (size, fmt) => (.chatAvatar, chatKey chatId version size fmt)

theorem split_slash {first second left right : List Char} (firstPlain : '/' ∉ first)
    (secondPlain : '/' ∉ second) (same : first ++ '/' :: left = second ++ '/' :: right) :
    first = second ∧ left = right := by
  induction first generalizing second with
  | nil =>
      cases second with
      | nil => exact ⟨rfl, List.tail_eq_of_cons_eq same⟩
      | cons char rest =>
          exact absurd (List.mem_cons.mpr (.inl (List.head_eq_of_cons_eq same))) secondPlain
  | cons char rest ih =>
      cases second with
      | nil =>
          exact absurd (List.mem_cons.mpr (.inl (List.head_eq_of_cons_eq same).symm)) firstPlain
      | cons other others =>
          have head : char = other := List.head_eq_of_cons_eq same
          obtain ⟨tail, rests⟩ := ih (fun member => firstPlain (List.mem_cons_of_mem _ member))
            (fun member => secondPlain (List.mem_cons_of_mem _ member))
            (List.tail_eq_of_cons_eq same)
          exact ⟨by rw [head, tail], rests⟩

theorem slash_not_mem (userId : UserId) : '/' ∉ Nat.toDigits 10 userId := by
  intro member
  obtain ⟨digit, small, same⟩ := Python.mem_toDigits member
  have all : ∀ digit : Fin 10, '/' ≠ digit.val.digitChar := by decide
  exact all ⟨digit, small⟩ same

theorem length_uuidChars (id : Nat) : (Python.uuidChars id).length = 36 := by
  simp only [Python.uuidChars, List.length_append, List.length_cons, Python.length_hexDigits]

theorem uuidChars_injective {first second : Nat} (firstBounded : first < 2 ^ 128)
    (secondBounded : second < 2 ^ 128) (same : Python.uuidChars first = Python.uuidChars second) :
    first = second :=
  Python.strUuid_injective firstBounded secondBounded (congrArg String.ofList same)

theorem chars_key (userId : UserId) (photoId : PhotoId) (item : RenderedAvatar) :
    (Profiles.ProfilePhotoStorage.key userId photoId item).toList =
      Nat.toDigits 10 userId ++ '/' :: (Python.uuidChars photoId ++
        '/' :: ((toString item.size).toList ++ '.' :: item.fmt.toList)) := by
  simp [Profiles.ProfilePhotoStorage.key, Python.strUuid]

theorem chars_chatKey (chatId : ChatId) (version : Token) (size : Nat) (fmt : String) :
    (chatKey chatId version size fmt).toList =
      Python.uuidChars chatId ++ '/' :: (Python.uuidChars version ++
        '/' :: ((toString size).toList ++ '.' :: fmt.toList)) := by
  simp [chatKey, Python.strUuid]

theorem photoObjects_apart {userId other : UserId} {photoId otherId : PhotoId} {object : Object}
    (bounded : photoId < 2 ^ 128) (otherBounded : otherId < 2 ^ 128)
    (mine : object ∈ photoObjects userId photoId) (theirs : object ∈ photoObjects other otherId) :
    photoId = otherId := by
  obtain ⟨⟨size, fmt⟩, _, rfl⟩ := List.mem_map.mp mine
  obtain ⟨⟨otherSize, otherFmt⟩, _, same⟩ := List.mem_map.mp theirs
  have chars := congrArg String.toList (congrArg Prod.snd same)
  rw [chars_key, chars_key] at chars
  obtain ⟨_, rests⟩ := split_slash (slash_not_mem other) (slash_not_mem userId) chars
  have ids := List.append_inj_left rests ((length_uuidChars _).trans (length_uuidChars _).symm)
  exact (uuidChars_injective otherBounded bounded ids).symm

theorem slotObjects_apart {chatId other : ChatId} {version otherVersion : Token} {object : Object}
    (bounded : version < 2 ^ 128) (otherBounded : otherVersion < 2 ^ 128)
    (mine : object ∈ slotObjects chatId version) (theirs : object ∈ slotObjects other otherVersion) :
    version = otherVersion := by
  obtain ⟨⟨size, fmt⟩, _, rfl⟩ := List.mem_map.mp mine
  obtain ⟨⟨otherSize, otherFmt⟩, _, same⟩ := List.mem_map.mp theirs
  have chars := congrArg String.toList (congrArg Prod.snd same)
  rw [chars_chatKey, chars_chatKey] at chars
  have rests := List.append_inj_right chars ((length_uuidChars _).trans (length_uuidChars _).symm)
  have ids := List.append_inj_left (List.tail_eq_of_cons_eq rests)
    ((length_uuidChars _).trans (length_uuidChars _).symm)
  exact (uuidChars_injective otherBounded bounded ids).symm

end Keys

section Maps

variable {avatars : AvatarMap} {value key fmt : String} {size : Nat}

theorem mem_values_put
    (member : value ∈ AvatarMap.values (Profiles.AvatarMap.put avatars size fmt key)) :
    value = key ∨ value ∈ AvatarMap.values avatars := by
  unfold Profiles.AvatarMap.put AvatarMap.values at member
  split at member
  · obtain ⟨⟨other, variants⟩, inside, here⟩ := List.mem_flatMap.mp member
    obtain ⟨⟨before, old⟩, listed, same⟩ := List.mem_map.mp inside
    simp only at same
    split at same
    · cases same
      obtain ⟨⟨form, written⟩, among, rfl⟩ := List.mem_map.mp here
      rcases List.mem_append.mp among with kept | new
      · refine .inr (List.mem_flatMap.mpr ⟨_, listed, List.mem_map.mpr ⟨_, ?_, rfl⟩⟩)
        exact (List.mem_filter.mp kept).1
      · cases List.mem_singleton.mp new
        exact .inl rfl
    · cases same
      exact .inr (List.mem_flatMap.mpr ⟨_, listed, here⟩)
  · rw [List.flatMap_append] at member
    rcases List.mem_append.mp member with kept | new
    · exact .inr kept
    · exact .inl (by simpa using new)

theorem mem_values_fold {keyOf : RenderedAvatar → String} {rendered : List RenderedAvatar}
    (member : value ∈ AvatarMap.values (rendered.foldl
      (fun avatars item => Profiles.AvatarMap.put avatars item.size item.fmt (keyOf item)) avatars)) :
    value ∈ rendered.map keyOf ∨ value ∈ AvatarMap.values avatars := by
  induction rendered generalizing avatars with
  | nil => exact .inr member
  | cons item rest ih =>
      rcases ih member with later | earlier
      · exact .inl (List.mem_cons_of_mem _ later)
      · rcases mem_values_put earlier with rfl | kept
        · exact .inl List.mem_cons_self
        · exact .inr kept

theorem stripped_append (front text : String) : stripped front (front ++ text) = some text := by
  rw [stripped, String.toList_append, if_pos, List.drop_left, String.ofList_toList]
  exact List.isPrefixOf_iff_prefix.mpr (List.prefix_append _ _)

theorem stripped_url (fileKey : String) : stripped (getPublicUrlObject services .chatAvatar "")
    (getPublicUrlObject services .chatAvatar fileKey) = some fileKey := by
  rw [getPublicUrlObject, String.append_empty, getPublicUrlObject, stripped_append]

theorem mem_chatObjects_rendered {chatId : ChatId} {version : Token}
    {rendered : List RenderedAvatar} {object : Object}
    (member : object ∈ chatObjects services (rendered.foldl (fun avatars item =>
      Profiles.AvatarMap.put avatars item.size item.fmt (getPublicUrlObject services .chatAvatar
        (chatKey chatId version item.size item.fmt))) [])) :
    object ∈ rendered.map fun item =>
      ((.chatAvatar, chatKey chatId version item.size item.fmt) : Object) := by
  obtain ⟨fileKey, listed, rfl⟩ := List.mem_map.mp member
  obtain ⟨url, value, found⟩ := List.mem_filterMap.mp listed
  rcases mem_values_fold value with inside | nothing
  · obtain ⟨item, among, rfl⟩ := List.mem_map.mp inside
    rw [stripped_url] at found
    obtain rfl := Option.some.inj found
    exact List.mem_map.mpr ⟨item, among, rfl⟩
  · exact absurd nothing List.not_mem_nil

theorem mem_profileObjects_rendered {userId : UserId} {photoId : PhotoId}
    {rendered : List RenderedAvatar} {object : Object}
    (member : object ∈ profileObjects (rendered.foldl (fun avatars item =>
      Profiles.AvatarMap.put avatars item.size item.fmt
        (Profiles.ProfilePhotoStorage.key userId photoId item)) [])) :
    object ∈ rendered.map fun item =>
      ((.avatar, Profiles.ProfilePhotoStorage.key userId photoId item) : Object) := by
  obtain ⟨fileKey, value, rfl⟩ := List.mem_map.mp member
  rcases mem_values_fold value with inside | nothing
  · obtain ⟨item, among, rfl⟩ := List.mem_map.mp inside
    exact List.mem_map.mpr ⟨item, among, rfl⟩
  · exact absurd nothing List.not_mem_nil

end Maps

end Messanger.Avatars
