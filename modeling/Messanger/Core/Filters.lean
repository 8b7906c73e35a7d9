import Messanger.Library.TextSearch
import Messanger.Library.Texts
import Messanger.Messages.Models
import Mathlib.Tactic.TFAE

/-!
The filters of the listings: pages, conditions and sort fields, and the text in which a client
names the sort fields.
-/

namespace Messanger

inductive SortDirection where
  | asc
  | desc
  deriving DecidableEq, Repr

structure SortField where
  field : String
  direction : SortDirection := .asc
  deriving DecidableEq, Repr

def SortField.isDescending (sort : SortField) : Bool := decide (sort.direction = .desc)

inductive FilterOperator where
  | eq
  | ne
  | gt
  | gte
  | lt
  | lte
  | isIn
  | notIn
  | like
  | ilike
  | contains
  | all
  | any
  | startsWith
  | endsWith
  | isNull
  | isNotNull
  | isNullFrom
  | isNotNullFrom
  deriving DecidableEq, Repr

/-- `null_set`. -/
def FilterOperator.inNullSet : FilterOperator → Bool
  | .isNull | .isNotNull | .isNullFrom | .isNotNullFrom => true
  | _ => false

/-- Whether `operators_map` has the operator. -/
def FilterOperator.isMapped : FilterOperator → Bool
  | .like | .ilike => false
  | _ => true

/-- What a listing raises: `unmappedOperator` is the `KeyError` of `operators_map`, `notImplemented`
comes from `asc` of a relationship, and `undefinedTable` from the database, when the rows shall be
sorted by a table that they do not come from.  `notColumn` stands for a condition on anything but a
column of the class itself, which is not modelled. -/
inductive ListingError where
  | paginationParams (field : String) (limit : Int)
  | valueMustNotNone (field : String)
  | attributeNotExist (field : String)
  | unmappedOperator (operator : FilterOperator)
  | notImplemented (field : String)
  | undefinedTable (field : String)
  | notColumn (field : String)
  deriving DecidableEq, Repr

inductive FilterValue where
  | int (value : Int)
  | flag (value : Bool)
  | text (value : String)
  | texts (values : List String)
  deriving DecidableEq, Repr

structure FilterCondition where
  field : String
  operator : FilterOperator
  value : Option FilterValue
  given : value.isSome = true ∨ operator.inNullSet = true

def FilterCondition.new (field : String) (operator : FilterOperator) (value : Option FilterValue) :
    Except ListingError FilterCondition :=
  if given : value.isSome = true ∨ operator.inNullSet = true then .ok ⟨field, operator, value, given⟩
  else .error (.valueMustNotNone field)

structure Pagination where
  page : Nat
  pageSize : Nat
  page_pos : 1 ≤ page
  pageSize_pos : 1 ≤ pageSize
  pageSize_le : pageSize ≤ 100

namespace Pagination

def defaultPage : Nat := 1

def defaultPageSize : Nat := 20

def maxPageSize : Int := 100

def new (page pageSize : Int) : Except ListingError Pagination :=
  if first : page < 1 then .error (.paginationParams "page" 1)
  else if least : pageSize < 1 then .error (.paginationParams "page_size" 1)
  else if most : pageSize > maxPageSize then .error (.paginationParams "page_size" maxPageSize)
  else
    .ok {
      page := page.toNat
      pageSize := pageSize.toNat
      page_pos := by omega
      pageSize_pos := by omega
      pageSize_le := by
        rw [maxPageSize] at most
        omega }

/-- `Pagination.default`. -/
def standard : Pagination where
  page := defaultPage
  pageSize := defaultPageSize
  page_pos := by decide
  pageSize_pos := by decide
  pageSize_le := by decide

def offset (pagination : Pagination) : Nat := (pagination.page - 1) * pagination.pageSize

def limit (pagination : Pagination) : Nat := pagination.pageSize

end Pagination

structure BaseFilter where
  conditions : List FilterCondition := []
  sortFields : List SortField := []
  pagination : Pagination := .standard

namespace BaseFilter

def addCondition (filters : BaseFilter) (field : String) (operator : FilterOperator)
    (value : Option FilterValue) : BaseFilter :=
  if nulls : operator.inNullSet = true then
    { filters with conditions := filters.conditions ++ [⟨field, operator, none, .inr nulls⟩] }
  else
    match value with
    | some value =>
        { filters with conditions := filters.conditions ++ [⟨field, operator, some value, .inl rfl⟩] }
    | none => filters

def setPagination (filters : BaseFilter) (pagination : Pagination) : BaseFilter :=
  { filters with pagination := pagination }

def addSort (filters : BaseFilter) (field : String) (direction : SortDirection) : BaseFilter :=
  { filters with sortFields := filters.sortFields ++ [⟨field, direction⟩] }

end BaseFilter

def ProfilePhotoFilter (userId : Option Int) : BaseFilter :=
  let filters : BaseFilter := {}
  ((filters.addCondition "user_id" .eq (userId.map .int)).addSort "set_main_at" .desc).addSort
    "id" .desc

def ProfileFilter (lower : String → String) (username displayName : Option String)
    (skills : Option (List String)) : BaseFilter :=
  let filters : BaseFilter := {}
  let filters := filters.addCondition "username" .contains (username.map .text)
  let filters := filters.addCondition "display_name" .contains (displayName.map .text)
  filters.addCondition "skills" .all (skills.map fun skills => .texts (skills.map lower))

def NotificationFilter (userId : Option Int) (isRead : Option Bool) : BaseFilter :=
  let filters : BaseFilter := {}
  (filters.addCondition "user_id" .eq (userId.map .int)).addCondition "is_read" .eq (isRead.map .flag)

namespace FilterMapper

def parsePart (part : List Char) : SortField :=
  if ':' ∈ part then
    let field := part.takeWhile (· ≠ ':')
    let direction := (part.dropWhile (· ≠ ':')).tail
    let direction := (Texts.strip Message.isSpace direction).map Char.toLower
    let sortDirection := if direction = "desc".toList then SortDirection.desc else .asc
    ⟨String.ofList (Texts.strip Message.isSpace field), sortDirection⟩
  else ⟨String.ofList (Texts.strip Message.isSpace part), .asc⟩

def parseSortString (sortString : Option String) : List SortField :=
  match sortString with
  | none => []
  | some text =>
      let parts := (text.toList.splitOn ',').map (Texts.strip Message.isSpace)
      (parts.filter fun part => !part.isEmpty).map parsePart

end FilterMapper

namespace SortField

/-- What a sort string can name. -/
structure Nameable (field : String) : Prop where
  trimmed : Texts.Trimmed Message.isSpace field.toList
  comma : ',' ∉ field.toList
  colon : ':' ∉ field.toList

def render (sort : SortField) : List Char :=
  sort.field.toList ++ ':' :: if sort.isDescending then "desc".toList else "asc".toList

def renderAll (sorts : List SortField) : String :=
  String.ofList ([','].intercalate (sorts.map render))

theorem comma_of_splitOn {part text : List Char} (member : part ∈ text.splitOn ',') : ',' ∉ part := by
  intro inside
  have plain := @TextSearch.splitOnP_plain _ (fun letter => !(letter == ',')) text part
    (by simpa [List.splitOn] using member) ',' inside
  simp at plain

theorem mem_of_strip {letter : Char} {text : List Char}
    (member : letter ∈ Texts.strip Message.isSpace text) : letter ∈ text :=
  (Texts.strip_within Message.isSpace text).subset member

theorem nameable_parsePart {part : List Char} (comma : ',' ∉ part) :
    Nameable (FilterMapper.parsePart part).field := by
  rw [FilterMapper.parsePart]
  split
  · refine ⟨?_, ?_, ?_⟩ <;> simp only [String.toList_ofList]
    · exact Texts.trimmed_strip
    · intro inside
      exact comma ((List.takeWhile_prefix _).subset (mem_of_strip inside))
    · intro inside
      simpa using List.mem_takeWhile_imp (mem_of_strip inside)
  · rename_i colon
    refine ⟨?_, ?_, ?_⟩ <;> simp only [String.toList_ofList]
    · exact Texts.trimmed_strip
    · exact fun inside => comma (mem_of_strip inside)
    · exact fun inside => colon (mem_of_strip inside)

theorem nameable_parseSortString {text : Option String} {sort : SortField}
    (member : sort ∈ FilterMapper.parseSortString text) : Nameable sort.field := by
  cases text with
  | none => cases member
  | some text =>
      obtain ⟨part, filled, rfl⟩ := List.mem_map.mp member
      obtain ⟨piece, split, rfl⟩ := List.mem_map.mp (List.mem_of_mem_filter filled)
      exact nameable_parsePart fun inside => comma_of_splitOn split (mem_of_strip inside)

section Rendering

variable {sort : SortField}

theorem strip_direction : Texts.strip Message.isSpace
    (if sort.isDescending then "desc".toList else "asc".toList) =
      if sort.isDescending then "desc".toList else "asc".toList := by
  split <;> decide

theorem strip_render (nameable : Nameable sort.field) :
    Texts.strip Message.isSpace sort.render = sort.render := by
  refine Texts.strip_of_trimmed ⟨?_, ?_⟩
  · intro letter first
    rw [render, List.head?_append] at first
    cases known : sort.field.toList.head? with
    | none =>
        rw [known] at first
        obtain rfl : ':' = letter := Option.some.inj first
        decide
    | some other =>
        rw [known] at first
        obtain rfl : other = letter := Option.some.inj first
        exact nameable.trimmed.first other known
  · intro letter last
    rw [render, List.getLast?_append] at last
    obtain rfl : 'c' = letter := by
      split at last <;> exact Option.some.inj last
    decide

theorem parsePart_render (nameable : Nameable sort.field) :
    FilterMapper.parsePart sort.render = sort := by
  have front : sort.render.takeWhile (· ≠ ':') = sort.field.toList := by
    rw [render, List.takeWhile_append_of_pos]
    · simp
    · intro letter member
      exact decide_eq_true (ne_of_mem_of_not_mem member nameable.colon)
  have back : (sort.render.dropWhile (· ≠ ':')).tail =
      if sort.isDescending then "desc".toList else "asc".toList := by
    rw [render, List.dropWhile_append_of_pos]
    · simp
    · intro letter member
      exact decide_eq_true (ne_of_mem_of_not_mem member nameable.colon)
  rw [FilterMapper.parsePart, if_pos (by simp [render]), front, back]
  dsimp only
  rw [strip_direction, Texts.strip_of_trimmed nameable.trimmed, String.ofList_toList]
  obtain ⟨field, direction⟩ := sort
  cases direction <;> rfl

theorem comma_render (nameable : Nameable sort.field) : ',' ∉ sort.render := by
  rw [render, List.mem_append, List.mem_cons]
  rintro (inside | colon | direction)
  · exact nameable.comma inside
  · exact absurd colon (by decide)
  · split at direction <;> exact absurd direction (by decide)

end Rendering

theorem parse_renderAll {sorts : List SortField} (nameable : ∀ sort ∈ sorts, Nameable sort.field) :
    FilterMapper.parseSortString (some (renderAll sorts)) = sorts := by
  cases sorts with
  | nil => rfl
  | cons sort rest =>
      have parts : ∀ part ∈ (sort :: rest).map render, ',' ∉ part := by
        intro part member
        obtain ⟨named, inside, rfl⟩ := List.mem_map.mp member
        exact comma_render (nameable named inside)
      have stripped : ((sort :: rest).map render).map (Texts.strip Message.isSpace) =
          (sort :: rest).map render := by
        rw [List.map_map]
        exact List.map_congr_left fun named inside => strip_render (nameable named inside)
      have filled : ((sort :: rest).map render).filter (fun part => !part.isEmpty) =
          (sort :: rest).map render := by
        refine List.filter_eq_self.mpr fun part member => ?_
        obtain ⟨named, _, rfl⟩ := List.mem_map.mp member
        simp [render]
      rw [FilterMapper.parseSortString, renderAll, String.toList_ofList,
        List.splitOn_intercalate ',' parts (by simp), stripped, filled, List.map_map]
      conv_rhs => rw [← List.map_id (sort :: rest)]
      exact List.map_congr_left fun named inside => parsePart_render (nameable named inside)

/-- Sort strings name exactly the lists of nameable fields, and each of these has one that is
rendered from it. -/
theorem parseSortString_tfae (sorts : List SortField) :
    [∃ text, FilterMapper.parseSortString text = sorts,
      ∀ sort ∈ sorts, Nameable sort.field,
      FilterMapper.parseSortString (some (renderAll sorts)) = sorts].TFAE := by
  tfae_have 1 → 2 := by
    rintro ⟨text, rfl⟩
    exact fun sort member => nameable_parseSortString member
  tfae_have 2 → 3 := parse_renderAll
  tfae_have 3 → 1 := fun rendered => ⟨_, rendered⟩
  tfae_finish

end SortField

end Messanger
