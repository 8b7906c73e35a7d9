import Mathlib.Data.List.Infix
import Messanger.Core.Filters
import Messanger.Library.Offsets
import Messanger.Messages.CommandsCore

/-!
`IRepository.find_by_filter` and the search for profiles: a page of the rows that a filter wants,
with the number of all of them.  The database sorts once more for every page.
-/

namespace Messanger

open Offsets

variable {Entity Row : Type} [DecidableEq Entity]

structure PageResult (Row : Type) where
  items : List Row
  total : Nat
  page : Nat
  pageSize : Nat

namespace PageResult

def totalPages (result : PageResult Row) : Nat :=
  if result.pageSize = 0 then 0 else (result.total + result.pageSize - 1) / result.pageSize

def hasNext (result : PageResult Row) : Bool := decide (result.page < result.totalPages)

def hasPrevious (result : PageResult Row) : Bool := decide (1 < result.page)

end PageResult

structure Column (Row : Type) where
  test : FilterOperator → Option FilterValue → Row → Bool
  clause : Clause Row

/-- What a class has under a name: a column, a relationship, or something that has neither
`property` nor `asc`. -/
inductive Member (Entity : Type) where
  | column
  | relationship (mapper : Entity)
  | plain
  deriving DecidableEq, Repr

inductive Attribute (Row : Type) where
  | column (column : Column Row)
  | foreign
  | relationship
  | plain

inductive SortClause (Row : Type) where
  | own (clause : Clause Row)
  | foreign (field : String)

/-- A mapped class, what it and the classes related to it have by name, and its own columns. -/
structure RowModel (Entity Row : Type) where
  softDelete : Bool
  isDeleted : Row → Bool
  entity : Entity
  getattr : Entity → List Char → Option (Member Entity)
  column : List Char → Column Row

/-- A statement before `OFFSET` and `LIMIT`. -/
structure ListStatement (Row : Type) where
  conditions : List (Row → Bool)
  clauses : List (Clause Row)

namespace ListStatement

def wanted (statement : ListStatement Row) (rows : List Row) : List Row :=
  rows.filter fun row => statement.conditions.all fun condition => condition row

/-- What the clauses allow an answer of the database to be. -/
def Answers (statement : ListStatement Row) (rows answer : List Row) : Prop :=
  Arranges (fun left right => Clause.placed statement.clauses left right = true)
    (statement.wanted rows) answer

end ListStatement

/-- The rows with the order in which each statement finds them this time. -/
structure RowStore (Row : Type) where
  rows : List Row
  answer : ListStatement Row → List Row
  answers : ∀ statement : ListStatement Row, statement.Answers rows (answer statement)

namespace SQLAlchemyFilterConverter

variable (model : RowModel Entity Row)

def follow (entity : Entity) : List (List Char) → Option (Attribute Row)
  | [] => none
  | [name] =>
      match model.getattr entity name with
      | none => none
      | some .column =>
          if entity = model.entity then some (.column (model.column name)) else some .foreign
      | some (.relationship _) => some .relationship
      | some .plain => some .plain
  | name :: part :: rest =>
      match model.getattr entity name with
      | some (.relationship mapper) => follow mapper (part :: rest)
      | _ => none

/-- Nothing where the code raises an `AttributeError`. -/
def getModelAttribute (fieldPath : String) : Option (Attribute Row) :=
  follow model model.entity (fieldPath.toList.splitOn '.')

def conditionToSqlalchemy (condition : FilterCondition) : Except ListingError (Row → Bool) :=
  match getModelAttribute model condition.field with
  | none => .error (.attributeNotExist condition.field)
  | some (.column column) =>
      if condition.operator.isMapped then .ok (column.test condition.operator condition.value)
      else .error (.unmappedOperator condition.operator)
  | some _ => .error (.notColumn condition.field)

def filterToSqlalchemyConditions (filters : BaseFilter) : Except ListingError (List (Row → Bool)) :=
  filters.conditions.mapM (conditionToSqlalchemy model)

def sortAttribute (sort : SortField) : Except ListingError (List (SortClause Row)) :=
  match getModelAttribute model sort.field with
  | none => .ok []
  | some .plain => .ok []
  | some .relationship => .error (.notImplemented sort.field)
  | some .foreign => .ok [.foreign sort.field]
  | some (.column column) =>
      .ok [.own (if sort.isDescending then column.clause.reverse else column.clause)]

def getSortAttributes : List SortField → Except ListingError (List (SortClause Row))
  | [] => .ok []
  | sort :: rest => do
      let first ← sortAttribute model sort
      let others ← getSortAttributes rest
      return first ++ others

end SQLAlchemyFilterConverter

open SQLAlchemyFilterConverter

/-- `order_by`, which the database refuses for a table that the rows do not come from. -/
def orderBy : List (SortClause Row) → Except ListingError (List (Clause Row))
  | [] => .ok []
  | .foreign field :: _ => .error (.undefinedTable field)
  | .own clause :: rest => do
      let others ← orderBy rest
      return clause :: others

namespace RowModel

/-- `select_not_deleted` where the class has soft deletion. -/
def selected (model : RowModel Entity Row) : List (Row → Bool) :=
  if model.softDelete then [fun row => !model.isDeleted row] else []

end RowModel

def RowStore.find (store : RowStore Row) (statement : ListStatement Row) (pagination : Pagination) :
    PageResult Row where
  items := ((store.answer statement).drop pagination.offset).take pagination.limit
  total := (statement.wanted store.rows).length
  page := pagination.page
  pageSize := pagination.pageSize

namespace IRepository

/-- As the base class has it. The repositories of users and of roles, which override it, are left
out. -/
def applyRelationshipFilters (conditions : List (Row → Bool)) (_ : BaseFilter) : List (Row → Bool) :=
  conditions

/-- The statement of `find_by_filter`. -/
def statement (model : RowModel Entity Row) (filters : BaseFilter) :
    Except ListingError (ListStatement Row) := do
  let conditions ← filterToSqlalchemyConditions model filters
  let selected := applyRelationshipFilters model.selected filters
  let sortClauses ← getSortAttributes model filters.sortFields
  let clauses ← orderBy sortClauses
  return ⟨selected ++ conditions, clauses⟩

def findByFilter (model : RowModel Entity Row) (store : RowStore Row) (filters : BaseFilter) :
    Except ListingError (PageResult Row) := do
  let statement ← statement model filters
  return store.find statement filters.pagination

end IRepository

namespace ProfileRepository

/-- `Profile` with its key, and what `icontains` finds in the username or the display name. -/
structure ProfileModel (Entity Row : Type) extends RowModel Entity Row where
  id : Row → Int
  icontains : String → Row → Bool

def ProfileModel.idClause (model : ProfileModel Entity Row) : Clause Row := .ofKey model.id

/-- `if query:`. -/
def queryConditions (model : ProfileModel Entity Row) : Option String → List (Row → Bool)
  | none => []
  | some query => if query = "" then [] else [model.icontains query]

def searchConditions (model : ProfileModel Entity Row) (query : Option String) (excludeIds : List Int) :
    List (Row → Bool) :=
  queryConditions model query ++
    if excludeIds.isEmpty then [] else [fun row => !excludeIds.contains (model.id row)]

def searchStatement (model : ProfileModel Entity Row) (filters : BaseFilter) (query : Option String)
    (excludeIds : List Int) : Except ListingError (ListStatement Row) := do
  let conditions ← filterToSqlalchemyConditions model.toRowModel filters
  let sortClauses ← getSortAttributes model.toRowModel filters.sortFields
  let clauses ← orderBy (if sortClauses.isEmpty then [.own model.idClause] else sortClauses)
  return {
    conditions := model.selected ++ conditions ++ searchConditions model query excludeIds
    clauses := clauses }

def search (model : ProfileModel Entity Row) (store : RowStore Row) (filters : BaseFilter)
    (query : Option String) (excludeIds : List Int) : Except ListingError (PageResult Row) := do
  let statement ← searchStatement model filters query excludeIds
  return store.find statement filters.pagination

end ProfileRepository

def Pagination.next (pagination : Pagination) : Pagination :=
  { pagination with page := pagination.page + 1, page_pos := Nat.le_add_left _ _ }

/-- A client that asks for one page after the other for as long as there is a next one. -/
inductive ReadsOn (listing : Pagination → Except ListingError (PageResult Row)) :
    Pagination → List Row → Prop
  | last {pagination : Pagination} {result : PageResult Row} : listing pagination = .ok result →
      result.hasNext = false → ReadsOn listing pagination result.items
  | more {pagination : Pagination} {result : PageResult Row} {rest : List Row} :
      listing pagination = .ok result → result.hasNext = true →
      ReadsOn listing pagination.next rest → ReadsOn listing pagination (result.items ++ rest)

/-- A place that parts two neighbours whom no clause tells apart. -/
def PartsAlike (clauses : List (Clause Row)) (answer : List Row) (place : Nat) : Prop :=
  ∃ front before after rest, answer = front ++ before :: after :: rest ∧ front.length + 1 = place ∧
    ∀ clause ∈ clauses, clause.le before after = true ∧ clause.le after before = true

def RowStore.stable (rows : List Row) : RowStore Row where
  rows := rows
  answer statement := (statement.wanted rows).insertionSort fun left right =>
    Clause.placed statement.clauses left right = true
  answers statement := by
    have : Std.Total (fun left right : Row => Clause.placed statement.clauses left right = true) :=
      ⟨Clause.placed_total statement.clauses⟩
    have : IsTrans Row (fun left right => Clause.placed statement.clauses left right = true) :=
      ⟨Clause.placed_trans statement.clauses⟩
    exact ⟨List.perm_insertionSort _ _, List.pairwise_insertionSort _ _⟩

section Reading

variable {listing : Pagination → Except ListingError (PageResult Row)} {pagination : Pagination}

theorem readsOn_unique {first second : List Row} (left : ReadsOn listing pagination first)
    (right : ReadsOn listing pagination second) : first = second := by
  induction left generalizing second with
  | last found done =>
      cases right with
      | last again _ =>
          rw [found] at again
          obtain rfl := Except.ok.inj again
          rfl
      | more again goesOn _ =>
          rw [found] at again
          obtain rfl := Except.ok.inj again
          exact absurd goesOn (by simp [done])
  | more found goesOn _ ih =>
      cases right with
      | last again done =>
          rw [found] at again
          obtain rfl := Except.ok.inj again
          exact absurd goesOn (by simp [done])
      | more again _ rest =>
          rw [found] at again
          obtain rfl := Except.ok.inj again
          rw [ih rest]

end Reading

namespace ListStatement

variable (statement : ListStatement Row) {rows answer : List Row}

theorem partsAlike_iff (arranged : statement.Answers rows answer) (place : Nat) :
    PartsAlike statement.clauses answer place ↔
      Tied (fun left right => Clause.placed statement.clauses left right = true) answer place := by
  constructor
  · rintro ⟨front, before, after, rest, split, place, alike⟩
    exact ⟨front, before, after, rest, split, place, (Clause.placed_both.mpr alike).2⟩
  · rintro ⟨front, before, after, rest, rfl, place, tied⟩
    have sorted := (List.pairwise_append.mp arranged.sorted).2.1
    have onward := List.rel_of_pairwise_cons sorted List.mem_cons_self
    exact ⟨front, before, after, rest, rfl, place, Clause.placed_both.mp ⟨onward, tied⟩⟩

def pageCount (rows : List Row) (size : Nat) : Nat :=
  max 1 (((statement.wanted rows).length + size - 1) / size)

variable {statement} {stores : Nat → RowStore Row}

theorem hasNext_find {store : RowStore Row} {pagination : Pagination} (held : store.rows = rows) :
    (store.find statement pagination).hasNext = true ↔
      pagination.page < statement.pageCount rows pagination.pageSize := by
  have positive := pagination.pageSize_pos
  have filled := pagination.page_pos
  have pages : (store.find statement pagination).totalPages =
      ((statement.wanted rows).length + pagination.pageSize - 1) / pagination.pageSize := by
    subst held
    exact if_neg (by change ¬pagination.pageSize = 0; omega)
  rw [PageResult.hasNext, decide_eq_true_eq, pages, pageCount]
  change pagination.page < _ ↔ _
  omega

theorem readsOn_pages (held : ∀ page, (stores page).rows = rows) (later : Nat) :
    ∀ pagination : Pagination,
      pagination.page + later = statement.pageCount rows pagination.pageSize →
      ReadsOn (fun pagination => .ok ((stores pagination.page).find statement pagination)) pagination
        ((List.range' pagination.page (later + 1)).flatMap fun number =>
          page pagination.pageSize number ((stores number).answer statement)) := by
  induction later with
  | zero =>
      intro pagination ends
      have done : ((stores pagination.page).find statement pagination).hasNext = false := by
        rw [← Bool.not_eq_true, hasNext_find (held _)]
        omega
      rw [List.range'_one, List.flatMap_singleton]
      exact .last rfl done
  | succ later ih =>
      intro pagination ends
      have goesOn : ((stores pagination.page).find statement pagination).hasNext = true := by
        rw [hasNext_find (held _)]
        omega
      have rest := ih pagination.next (by
        change pagination.page + 1 + later = _
        rw [Nat.add_assoc, Nat.add_comm 1 later, ends]
        rfl)
      rw [List.range'_succ, List.flatMap_cons]
      exact .more rfl goesOn rest

theorem readsOn_read (held : ∀ page, (stores page).rows = rows) {start : Pagination}
    (first : start.page = 1) :
    ReadsOn (fun pagination => .ok ((stores pagination.page).find statement pagination)) start
      (read start.pageSize (fun number => (stores number).answer statement)
        (statement.pageCount rows start.pageSize)) := by
  have some : 1 ≤ statement.pageCount rows start.pageSize := Nat.le_max_left _ _
  have reads := @readsOn_pages _ statement _ _ held
    (statement.pageCount rows start.pageSize - 1) start (by omega)
  rw [Nat.sub_add_cancel some, first, List.range'_eq_map_range, List.flatMap_map] at reads
  simpa only [Offsets.read, Nat.add_comm 1] using reads

theorem enough_pages (start : Pagination) : (statement.wanted rows).length ≤
    statement.pageCount rows start.pageSize * start.pageSize := by
  have positive := start.pageSize_pos
  have reached := Nat.le_max_right 1
    (((statement.wanted rows).length + start.pageSize - 1) / start.pageSize)
  refine Nat.le_trans ?_ (Nat.mul_le_mul_right _ reached)
  have upTo := Nat.lt_div_mul_add (a := (statement.wanted rows).length + start.pageSize - 1) positive
  omega

theorem exists_store (arranged : statement.Answers rows answer) :
    ∃ store : RowStore Row, store.rows = rows ∧ store.answer statement = answer := by
  classical
  refine ⟨{
    rows := rows
    answer := fun other => if other = statement then answer else (RowStore.stable rows).answer other
    answers := fun other => ?_ }, rfl, if_pos rfl⟩
  split
  · rename_i same
    rw [same]
    exact arranged
  · exact (RowStore.stable rows).answers other

theorem reads_complete_iff (distinct : rows.Nodup) (arranged : statement.Answers rows answer)
    {start : Pagination} (first : start.page = 1) :
    (∀ stores : Nat → RowStore Row, (∀ page, (stores page).rows = rows) →
      ∃ history, ReadsOn (fun pagination =>
          .ok ((stores pagination.page).find statement pagination)) start history ∧
        history.Perm (statement.wanted rows)) ↔
      ∀ page, ¬PartsAlike statement.clauses answer (page * start.pageSize) := by
  have perm := read_perm_iff (Clause.placed_total statement.clauses)
    (Clause.placed_trans statement.clauses) start.pageSize_pos (distinct.filter _) arranged
    (enough_pages start)
  simp only [partsAlike_iff statement arranged]
  rw [← perm]
  constructor
  · intro complete answers lawful
    choose stores held shown using fun number => exists_store (lawful number)
    obtain ⟨history, reads, all⟩ := complete stores held
    rw [readsOn_unique reads (readsOn_read held first)] at all
    simp only [shown] at all
    exact all
  · intro complete stores held
    refine ⟨_, readsOn_read held first, complete _ fun number => ?_⟩
    have answers := (stores number).answers statement
    rwa [held] at answers

theorem reads_complete (distinct : rows.Nodup)
    (told : ∀ left ∈ rows, ∀ right ∈ rows,
      (∀ clause ∈ statement.clauses, clause.le left right = true ∧ clause.le right left = true) →
      left = right)
    {start : Pagination} (first : start.page = 1) (held : ∀ page, (stores page).rows = rows) :
    ∃ history, ReadsOn (fun pagination =>
        .ok ((stores pagination.page).find statement pagination)) start history ∧
      history.Perm (statement.wanted rows) := by
  have arranged := (RowStore.stable rows).answers statement
  refine (reads_complete_iff distinct arranged first).mpr ?_ stores held
  rintro page ⟨front, before, after, rest, split, _, alike⟩
  have member : ∀ row ∈ (RowStore.stable rows).answer statement, row ∈ rows := fun row inside =>
    List.mem_of_mem_filter (arranged.perm.mem_iff.mp inside)
  have same := told before (member _ (by simp [split])) after (member _ (by simp [split])) alike
  have once := arranged.perm.nodup_iff.mpr (distinct.filter _)
  rw [split, same] at once
  simpa using (List.nodup_append.mp once).2.1

end ListStatement

section Listings

variable {model : RowModel Entity Row} {filters : BaseFilter} {statement : ListStatement Row}
  {rows answer : List Row} {start : Pagination}

theorem findByFilter_eq (built : IRepository.statement model filters = .ok statement) (store : RowStore Row)
    (pagination : Pagination) :
    IRepository.findByFilter model store (filters.setPagination pagination) =
      .ok (store.find statement pagination) := by
  have same : IRepository.statement model (filters.setPagination pagination) = .ok statement := built
  rw [IRepository.findByFilter, same]
  rfl

/-- A client that reads the pages of a filter until there is no next one gets each wanted row once,
however the database arranges each page, exactly if no page ends between two rows that no sort
field tells apart. -/
theorem findByFilter_complete_iff (built : IRepository.statement model filters = .ok statement)
    (distinct : rows.Nodup) (arranged : statement.Answers rows answer) (first : start.page = 1) :
    (∀ stores : Nat → RowStore Row, (∀ page, (stores page).rows = rows) →
      ∃ history, ReadsOn (fun pagination => IRepository.findByFilter model
          (stores pagination.page) (filters.setPagination pagination)) start history ∧
        history.Perm (statement.wanted rows)) ↔
      ∀ page, ¬PartsAlike statement.clauses answer (page * start.pageSize) := by
  simp only [findByFilter_eq built]
  exact ListStatement.reads_complete_iff distinct arranged first

end Listings

section Unsorted

def Pagination.oneRow : Pagination :=
  { Pagination.standard with pageSize := 1, pageSize_pos := Nat.one_pos, pageSize_le := by decide }

def notificationModel : RowModel Unit (Int × Int) where
  softDelete := false
  isDeleted _ := false
  entity := ()
  getattr _ name := if name = "user_id".toList then some .column else none
  column _ := {
    test := fun operator value row => decide (operator = .eq ∧ value = some (.int row.2))
    clause := .ofKey Prod.snd }

/-- The filter for notifications names no order: the second page of one can repeat the first. -/
theorem notifications_repeated : ¬∀ stores : Nat → RowStore (Int × Int),
    (∀ page, (stores page).rows = [(1, 7), (2, 7), (3, 8)]) →
      ∃ history, ReadsOn (fun pagination => IRepository.findByFilter notificationModel
          (stores pagination.page) ((NotificationFilter (some 7) none).setPagination pagination))
          .oneRow history ∧
        history.Perm [(1, 7), (2, 7)] := by
  let statement : ListStatement (Int × Int) :=
    ⟨[fun row => decide (FilterOperator.eq = .eq ∧ some (FilterValue.int 7) = some (.int row.2))], []⟩
  have arranged : statement.Answers [(1, 7), (2, 7), (3, 8)] [(1, 7), (2, 7)] :=
    ⟨List.Perm.refl _, by simp [Clause.placed, statement]⟩
  have criterion := @findByFilter_complete_iff _ _ _ notificationModel (NotificationFilter (some 7) none)
    statement _ _ .oneRow rfl (by decide) arranged rfl
  intro complete
  exact criterion.mp complete 1
    ⟨[], (1, 7), (2, 7), [], rfl, rfl, fun _ absent => (List.not_mem_nil absent).elim⟩

end Unsorted

/-- A sort field that names nothing, or nothing that could be sorted by. -/
def PassedOver (model : RowModel Entity Row) (field : String) : Prop :=
  getModelAttribute model field = none ∨ getModelAttribute model field = some .plain

theorem getSortAttributes_passedOver {model : RowModel Entity Row} {sortFields : List SortField}
    (passed : ∀ sort ∈ sortFields, PassedOver model sort.field) :
    getSortAttributes model sortFields = .ok [] := by
  induction sortFields with
  | nil => rfl
  | cons sort rest ih =>
      have first : sortAttribute model sort = .ok [] := by
        rcases passed sort List.mem_cons_self with nothing | plain
        · rw [sortAttribute, nothing]
        · rw [sortAttribute, plain]
      rw [getSortAttributes, first,
        ih fun other member => passed other (List.mem_cons_of_mem _ member)]
      rfl

/-- A condition names a column, and the row passes its test. -/
def FilterCondition.Holds (model : RowModel Entity Row) (condition : FilterCondition) (row : Row) :
    Prop :=
  ∃ column, getModelAttribute model condition.field = some (.column column) ∧
    column.test condition.operator condition.value row = true

section Conditions

variable {model : RowModel Entity Row} {row : Row}

theorem conditionToSqlalchemy_holds {condition : FilterCondition} {test : Row → Bool}
    (built : conditionToSqlalchemy model condition = .ok test) :
    test row = true ↔ condition.Holds model row := by
  unfold conditionToSqlalchemy at built
  rw [FilterCondition.Holds]
  split at built
  · cases built
  · rename_i column named
    split at built
    · cases built
      rw [named]
      constructor
      · exact fun passed => ⟨column, rfl, passed⟩
      · rintro ⟨other, same, passed⟩
        rw [Option.some.injEq, Attribute.column.injEq] at same
        rwa [same]
    · cases built
  · cases built

theorem filterToSqlalchemyConditions_holds {filters : BaseFilter} {tests : List (Row → Bool)}
    (built : filterToSqlalchemyConditions model filters = .ok tests) :
    (∀ test ∈ tests, test row = true) ↔
      ∀ condition ∈ filters.conditions, condition.Holds model row := by
  have pairs := mapM_ok built
  clear built
  generalize filters.conditions = conditions at pairs
  induction pairs with
  | nil => simp
  | cons first _ ih =>
      rw [List.forall_mem_cons, List.forall_mem_cons]
      exact and_congr (conditionToSqlalchemy_holds first) ih

end Conditions

namespace ProfileRepository

variable {model : ProfileModel Entity Row} {filters : BaseFilter} {statement : ListStatement Row}
  {query : Option String} {excludeIds : List Int} {rows : List Row} {row : Row}

omit [DecidableEq Entity] in
theorem searchConditions_hold : (∀ test ∈ searchConditions model query excludeIds, test row = true) ↔
    (∀ name ∈ query, name ≠ "" → model.icontains name row = true) ∧ model.id row ∉ excludeIds := by
  have named : (∀ test ∈ queryConditions model query, test row = true) ↔
      ∀ name ∈ query, name ≠ "" → model.icontains name row = true := by
    cases query with
    | none => simp [queryConditions]
    | some name => by_cases empty : name = "" <;> simp [queryConditions, empty]
  rw [searchConditions, List.forall_mem_append, named]
  refine and_congr_right fun _ => ?_
  cases excludeIds <;> simp

theorem searchStatement_ok (built : searchStatement model filters query excludeIds = .ok statement) :
    ∃ tests sortClauses, filterToSqlalchemyConditions model.toRowModel filters = .ok tests ∧
      getSortAttributes model.toRowModel filters.sortFields = .ok sortClauses ∧
      orderBy (if sortClauses.isEmpty then [.own model.idClause] else sortClauses) =
        .ok statement.clauses ∧
      statement.conditions = model.selected ++ tests ++
      searchConditions model query excludeIds := by
  simp only [searchStatement, bind, Except.bind, pure, Except.pure] at built
  split at built
  · cases built
  · rename_i tests conditions
    split at built
    · cases built
    · rename_i sortClauses sorted
      split at built
      · cases built
      · rename_i clauses ordered
        cases built
        exact ⟨tests, sortClauses, conditions, sorted, ordered, rfl⟩

theorem mem_wanted (built : searchStatement model filters query excludeIds = .ok statement) :
    row ∈ statement.wanted rows ↔ row ∈ rows ∧ (model.softDelete = true → model.isDeleted row = false) ∧
      (∀ condition ∈ filters.conditions, condition.Holds model.toRowModel row) ∧
      (∀ name ∈ query, name ≠ "" → model.icontains name row = true) ∧ model.id row ∉ excludeIds := by
  obtain ⟨tests, _, conditions, _, _, tested⟩ := searchStatement_ok built
  have kept : (∀ test ∈ model.selected, test row = true) ↔
      (model.softDelete = true → model.isDeleted row = false) := by
    rw [RowModel.selected]
    cases model.softDelete <;> simp
  rw [ListStatement.wanted, List.mem_filter, List.all_eq_true, tested, List.forall_mem_append,
    List.forall_mem_append, kept, filterToSqlalchemyConditions_holds conditions,
    searchConditions_hold, and_assoc]

/-- Where every sort field is passed over, the search sorts by the key: a client that reads its
pages gets each profile that is searched for once. -/
theorem search_complete (built : searchStatement model filters query excludeIds = .ok statement)
    (unsorted : ∀ sort ∈ filters.sortFields, PassedOver model.toRowModel sort.field)
    (keyed : (rows.map model.id).Nodup) {start : Pagination} (first : start.page = 1)
    {stores : Nat → RowStore Row} (held : ∀ page, (stores page).rows = rows) :
    ∃ history, ReadsOn (fun pagination => search model (stores pagination.page)
          (filters.setPagination pagination) query excludeIds) start history ∧
      history.Nodup ∧
      ∀ row, row ∈ history ↔ row ∈ rows ∧
        (model.softDelete = true → model.isDeleted row = false) ∧
        (∀ condition ∈ filters.conditions, condition.Holds model.toRowModel row) ∧
        (∀ name ∈ query, name ≠ "" → model.icontains name row = true) ∧
        model.id row ∉ excludeIds := by
  have pages : ∀ pagination, search model (stores pagination.page)
      (filters.setPagination pagination) query excludeIds =
      .ok ((stores pagination.page).find statement pagination) := by
    intro pagination
    have same : searchStatement model (filters.setPagination pagination) query excludeIds =
        .ok statement := built
    rw [search, same]
    rfl
  have clauses : statement.clauses = [model.idClause] := by
    obtain ⟨_, sortClauses, _, sorted, ordered, _⟩ := searchStatement_ok built
    rw [getSortAttributes_passedOver unsorted, Except.ok.injEq] at sorted
    subst sorted
    exact (Except.ok.inj ordered).symm
  have told : ∀ left ∈ rows, ∀ right ∈ rows,
      (∀ clause ∈ statement.clauses, clause.le left right = true ∧ clause.le right left = true) →
      left = right := by
    intro left inside right among alike
    rw [clauses, List.forall_mem_singleton] at alike
    have same : model.id left = model.id right :=
      Int.le_antisymm (of_decide_eq_true alike.1) (of_decide_eq_true alike.2)
    exact List.inj_on_of_nodup_map keyed inside among same
  simp only [pages]
  obtain ⟨history, reads, all⟩ := ListStatement.reads_complete keyed.of_map told first held
  refine ⟨history, reads, all.nodup_iff.mpr (keyed.of_map.filter _), fun row => ?_⟩
  rw [all.mem_iff, mem_wanted built]

def accountModel : ProfileModel Unit (Int × String) where
  softDelete := true
  isDeleted row := decide (row.1 = 4)
  entity := ()
  getattr _ _ := none
  column _ := ⟨fun _ _ _ => true, .ofKey Prod.fst⟩
  id := Prod.fst
  icontains name row := decide (name.toList <:+: row.2.toList)

/-- The sort field names nothing, and one of the profiles is left out. -/
theorem search_accounts : ∃ history,
    ReadsOn (fun pagination => search accountModel
        (RowStore.stable [(1, "anna"), (2, "bob"), (3, "annika"), (4, "ann"), (5, "joanna")])
        (({ sortFields := [⟨"rank", .desc⟩] } : BaseFilter).setPagination pagination) (some "ann") [3])
      .oneRow history ∧
    history.Nodup ∧
    ∀ row, row ∈ history ↔
      row ∈ [(1, "anna"), (2, "bob"), (3, "annika"), (4, "ann"), (5, "joanna")] ∧
      (accountModel.softDelete = true → accountModel.isDeleted row = false) ∧
      (∀ condition ∈ ([] : List FilterCondition), condition.Holds accountModel.toRowModel row) ∧
      (∀ name ∈ some "ann", name ≠ "" → accountModel.icontains name row = true) ∧
      accountModel.id row ∉ [3] :=
  @search_complete _ _ _ accountModel _ _ _ _ _ rfl
    (List.forall_mem_singleton.mpr (.inl rfl)) (by decide) .oneRow rfl
    (fun _ => RowStore.stable [(1, "anna"), (2, "bob"), (3, "annika"), (4, "ann"), (5, "joanna")])
    fun _ => rfl

end ProfileRepository

end Messanger
