import Rowscan.Proofs.Pagination

/-!
Lookup and scan in an order by text. Each sorts by its own list: the lookup the rows that it
found, as they were asked for, and the scan the whole table, as it is listed. The pages that they
answer with are those of two lists of the same rows (`Pages`), so that they agree on all pages if
and only if the rows that were found stand in the same order in both
(`pages_agree_iff_sameOrder`). They need not: rows with numbers are looked up in the order of the
numbers, even if another row has a text and the scan goes by texts.
-/
namespace Rowscan

/-- The query with this window instead of its own. -/
def TableQuery.paged (request : TableQuery) (offset limit : Option Nat) : TableQuery :=
  { request with query := { request.query with offset, limit } }

/-- Lookup and scan answer alike, whatever part of the rows is asked for. -/
def AgreeOnPages (store : Store) (request : TableQuery) (keys : List KeyValue)
    (kind : Query.Kind) : Prop :=
  ∀ offset limit : Option Nat, ∃ answer : kind.Answer,
    Looks store (request.paged offset limit) keys kind (.ok answer) ∧
      Scans store (request.paged offset limit) kind (.ok answer)

/-! ## Pages of two lists -/

/-- A lookup pages through some rows, and a scan through others. -/
structure Pages (store : Store) (request : TableQuery) (keys : List KeyValue)
    (looked scanned : List Row) : Prop where
  looks : ∀ (offset limit : Option Nat) (kind : Query.Kind), kind ≠ .count →
    Looks store (request.paged offset limit) keys kind
      (kind.answerOf ((request.paged offset limit).query.page looked))
  scans : ∀ (offset limit : Option Nat) (kind : Query.Kind), kind ≠ .count →
    kind.isNumber = false → Scans store (request.paged offset limit) kind
      (kind.answerOf ((request.paged offset limit).query.page scanned))

namespace Pages

variable {store : Store} {request : TableQuery} {keys : List KeyValue}
variable {looked scanned : List Row}

private theorem answer_eq {kind : Query.Kind} (pages : Pages store request keys looked scanned)
    (agree : AgreeOnPages store request keys kind) (ranged : kind ≠ .count)
    (plain : kind.isNumber = false) (offset limit : Option Nat) :
    kind.answerOf ((request.paged offset limit).query.page looked) =
      kind.answerOf ((request.paged offset limit).query.page scanned) := by
  obtain ⟨answer, found, matched⟩ := agree offset limit
  rw [(pages.looks offset limit kind ranged).unique found,
    (pages.scans offset limit kind ranged plain).unique matched]

theorem agree_all_iff (pages : Pages store request keys looked scanned) :
    AgreeOnPages store request keys .all ↔ looked = scanned := by
  constructor
  · intro agree
    have same := pages.answer_eq agree nofun rfl none none
    rw [Query.page_unbounded rfl rfl, Query.page_unbounded rfl rfl, Query.Kind.answerOf_all,
      Query.Kind.answerOf_all] at same
    exact Except.ok.inj same
  · intro equal offset limit
    subst equal
    exact ⟨_, pages.looks offset limit .all nofun, pages.scans offset limit .all nofun rfl⟩

/-- The rows that are found one by one, each after those before it, make up the list. -/
theorem agree_one_iff (pages : Pages store request keys looked scanned) :
    AgreeOnPages store request keys .one ↔ looked = scanned := by
  constructor
  · intro agree
    apply List.ext_getElem?
    intro position
    have same := pages.answer_eq agree nofun rfl (some position) none
    rw [Query.Kind.answerOf_one, Query.Kind.answerOf_one] at same
    have heads : (looked.drop position).head? = (scanned.drop position).head? :=
      Except.ok.inj same
    rw [List.head?_drop, List.head?_drop] at heads
    exact heads
  · intro equal offset limit
    subst equal
    exact ⟨_, pages.looks offset limit .one nofun, pages.scans offset limit .one nofun rfl⟩

end Pages

/-! ## The two lists -/

namespace Store

/-- What a column holds in the rows of a table. -/
abbrev valuesIn (store : Store) (space : KeySpace) (column : String) (key : String) :
    Option String := (store.rowOf space key).find? column

/-- The keys of the rows that hold one of the literals, in the order of all rows of the table. -/
def scannedKeys (store : Store) (space : KeySpace) (field : String) (filter : Filter)
    (term : OrderTerm) : List String :=
  (arrange term.direction (store.valuesIn space term.column) (store.listOf space)).filter
    (store.holdsText space field (filter.keyLiterals.map Literal.text))

/-- The keys that a lookup finds rows under, in the order of these rows. -/
def lookedUpKeys (store : Store) (space : KeySpace) (keys : List KeyValue) (term : OrderTerm) :
    List String :=
  arrange term.direction (store.valuesIn space term.column) (Lookup.found store space keys)

end Store

section Sorted

variable {request : TableQuery} {field : String} {store : Store} {removed : List String}
variable {filter : Filter} {keys : List KeyValue} {term : OrderTerm}

private theorem pages_arranged (names : filter.NamesBy field keys)
    (filtered : request.query.filter = some filter) (ordered : request.query.order = [term]) :
    Pages store request keys
      ((store.lookedUpKeys (request.spaceIn store) keys term).map
        (store.rowOf (request.spaceIn store)))
      ((store.scannedKeys (request.spaceIn store) field filter term).map
        (store.rowOf (request.spaceIn store))) where
  looks offset limit kind ranged := by
    have oneTerm : (request.paged offset limit).query.singleOrder = .ok (some term) :=
      Query.singleOrder_of_one ordered
    have looked := run_arranged store (request.spaceIn store) keys kind oneTerm ranged
    rw [Query.slice_window, Query.map_page] at looked
    exact looked
  scans offset limit kind ranged plain := by
    have oneTerm : (request.paged offset limit).query.singleOrder = .ok (some term) :=
      Query.singleOrder_of_one ordered
    have filteredPage : (request.paged offset limit).query.filter = some filter := filtered
    have scanned := scan_arranged store (request.spaceIn store) kind names filteredPage oneTerm
    have subset : store.scannedKeys (request.spaceIn store) field filter term ⊆
        store.matchingKeys (request.spaceIn store) field filter := by
      intro key matching
      exact ((perm_arrange _ _ _).filter _).mem_iff.1 matching
    have filled : ∀ row ∈ ((request.paged offset limit).query.window.slice
        (store.scannedKeys (request.spaceIn store) field filter term)).map
          (store.rowOf (request.spaceIn store)), row.isEmpty = false :=
      fun row member => filled_of_mem false subset member
    have agree := Query.Kind.agree_gather store kind _ filled
    have same := agree.eq (.inl (Query.Kind.isSettled_answerOf plain _))
    rw [Query.slice_window, Query.map_page] at same
    rw [Query.slice_window, Query.map_page] at scanned
    exact same ▸ scanned

/-- Rows that are stored tell their keys. -/
theorem Store.Consistent.keys_eq_of_rows_eq {table : Table}
    (consistent : Consistent table field store removed) {first second : List String}
    (storedFirst : ∀ key ∈ first, ':' ∉ key.toList ∧
      Lookup.isStored store (table.keySpace store.isClustered) key = true)
    (storedSecond : ∀ key ∈ second, ':' ∉ key.toList ∧
      Lookup.isStored store (table.keySpace store.isClustered) key = true)
    (same : first.map (store.rowOf (table.keySpace store.isClustered)) =
      second.map (store.rowOf (table.keySpace store.isClustered))) : first = second := by
  let keyOf (row : Row) : String := KeyValue.encodeText ((row.find? field).getD "")
  have read {keys : List String} (stored : ∀ key ∈ keys, ':' ∉ key.toList ∧
      Lookup.isStored store (table.keySpace store.isClustered) key = true) :
      (keys.map (store.rowOf (table.keySpace store.isClustered))).map keyOf = keys := by
    rw [List.map_map]
    conv_rhs => rw [← List.map_id keys]
    refine List.map_congr_left fun key member => ?_
    obtain ⟨colonless, present⟩ := stored key member
    obtain ⟨-, text, held, encoded⟩ := consistent.keyed_of_isStored colonless present
    simp only [Function.comp_apply, keyOf, held, Option.getD_some, encoded, id]
  rw [← read storedFirst, ← read storedSecond, same]

/-- A key that a row was found under has no colon, and the row is stored. -/
theorem stored_of_found {space : KeySpace} {key : String}
    (member : key ∈ Lookup.found store space keys) :
    ':' ∉ key.toList ∧ Lookup.isStored store space key = true := by
  obtain ⟨asked, present⟩ := List.mem_filter.1 member
  obtain ⟨value, -, rfl⟩ := List.mem_map.1 (Lookup.mem_distinct.1 asked)
  exact ⟨colon_notMem_encode value, present⟩

end Sorted

/-! ## Agreement -/

variable (request : TableQuery) {field : String} {store : Store} {removed : List String}
variable {filter : Filter} (keys : List KeyValue)

/-- In an order in which some row of the table goes by its text, lookup and scan page through the
same rows. They answer with the same pages, and with the same first row after any number of others,
if and only if the rows that are found stand in the same order whether they are sorted by
themselves, as they were asked for, or with the whole table, as it is listed. -/
theorem pages_agree_iff_sameOrder (single : request.table.primaryKey = [field])
    (reached : Store.Reached request.table field store removed)
    (filtered : request.query.filter = some filter)
    (named : Lookup.candidates filter request.table = .ok (some keys))
    (keyed : ∀ literal ∈ filter.keyLiterals, literal.isKeyed = true)
    (unambiguous : Unambiguous (filter.keyLiterals.map Literal.text ++
      store.keyTexts (request.spaceIn store) field))
    {term : OrderTerm} (ordered : request.query.order = [term])
    (textual : ∃ key ∈ store.listOf (request.spaceIn store),
      sortsByNumber (store.valuesIn (request.spaceIn store) term.column key) = false) :
    (∃ looked scanned : List Row, looked.Perm scanned ∧
      Pages store request keys looked scanned) ∧
    (AgreeOnPages store request keys .all ↔
      SameOrder term.direction (store.valuesIn (request.spaceIn store) term.column)
        (Lookup.found store (request.spaceIn store) keys)
        (store.listOf (request.spaceIn store))) ∧
    (AgreeOnPages store request keys .one ↔
      SameOrder term.direction (store.valuesIn (request.spaceIn store) term.column)
        (Lookup.found store (request.spaceIn store) keys)
        (store.listOf (request.spaceIn store))) := by
  have names := Filter.namesBy_of_candidates single named keyed
  have consistent := reached.consistent single
  have pages : Pages store request keys _ _ := pages_arranged names filtered ordered
  have same := Store.perm_found_matching consistent names keyed unambiguous
  have perm : (store.lookedUpKeys (request.spaceIn store) keys term).Perm
      (store.scannedKeys (request.spaceIn store) field filter term) :=
    ((perm_arrange _ _ _).trans same).trans ((perm_arrange _ _ _).filter _).symm
  have sorted : store.lookedUpKeys (request.spaceIn store) keys term =
      store.scannedKeys (request.spaceIn store) field filter term ↔ _ :=
    arrange_eq_filter_iff ((Lookup.nodup_distinct _).filter _) consistent.nodup same textual
  have stored : ∀ key ∈ store.lookedUpKeys (request.spaceIn store) keys term,
      ':' ∉ key.toList ∧ Lookup.isStored store (request.spaceIn store) key = true :=
    fun key member => stored_of_found ((perm_arrange _ _ _).mem_iff.1 member)
  have rows : (store.lookedUpKeys (request.spaceIn store) keys term).map
      (store.rowOf (request.spaceIn store)) =
      (store.scannedKeys (request.spaceIn store) field filter term).map
        (store.rowOf (request.spaceIn store)) ↔ _ :=
    ⟨consistent.keys_eq_of_rows_eq stored fun key member => stored key (perm.mem_iff.2 member),
      fun equal => by rw [equal]⟩
  refine ⟨⟨_, _, perm.map _, pages⟩, ?_⟩
  rw [pages.agree_all_iff, pages.agree_one_iff, rows, sorted]
  exact ⟨Iff.rfl, Iff.rfl⟩

/-- Texts that are keys as they stand share none. -/
theorem unambiguous_of_standing {texts : List String}
    (standing : ∀ text ∈ texts, (isNumeral text || KeyValue.isPlain text) = true) :
    Unambiguous texts := by
  intro first given second other same
  rw [KeyValue.encodeText, KeyValue.encodeText, if_pos (standing first given),
    if_pos (standing second other)] at same
  exact same

/-! The ages of two people are numbers, and that of a third is not. -/

def ageStore : Store :=
  let first := ((Store.empty false true).insert people (person 1 "10")).2
  let second := (first.insert people (person 2 "9")).2
  (second.insert people (person 3 "x")).2

private theorem reached_ageStore : ∃ removed, Store.Reached people "id" ageStore removed :=
  ⟨_, .insert (.insert (.insert (.empty false true) (isKeyGiven_person 1 "10") nofun)
    (isKeyGiven_person 2 "9") nofun) (isKeyGiven_person 3 "x") nofun⟩

/-- These people by age. -/
def byAge (ids : List Int64) : TableQuery where
  table := people
  query := {
    filter := some (.hash [("id", .list (ids.map fun id => .value (.int id)))])
    order := [⟨"age", .ascending⟩] }

/-- As a number 9 comes before 10, and as a text 10 before 9. If only these two are asked for, the
lookup goes by number, and the scan still goes by text, because of the third person. -/
theorem numbers_apart : ¬ AgreeOnPages ageStore (byAge [1, 2]) [.scalar (.int 1), .scalar (.int 2)]
      .all ∧
    ¬ AgreeOnPages ageStore (byAge [1, 2]) [.scalar (.int 1), .scalar (.int 2)] .one ∧
    AgreeOnPages ageStore (byAge [1, 3]) [.scalar (.int 1), .scalar (.int 3)] .all := by
  obtain ⟨removed, reached⟩ := reached_ageStore
  have textual : ∃ key ∈ ageStore.listOf (people.keySpace ageStore.isClustered),
      sortsByNumber (ageStore.valuesIn (people.keySpace ageStore.isClustered) "age" key) = false :=
    ⟨"3", by decide +kernel, by decide +kernel⟩
  have apart := pages_agree_iff_sameOrder (byAge [1, 2]) [.scalar (.int 1), .scalar (.int 2)] rfl
    reached rfl rfl (by decide) (unambiguous_of_standing (by decide +kernel)) rfl textual
  have alike := pages_agree_iff_sameOrder (byAge [1, 3]) [.scalar (.int 1), .scalar (.int 3)] rfl
    reached rfl rfl (by decide) (unambiguous_of_standing (by decide +kernel)) rfl textual
  have turned : ¬ SameOrder .ascending
      (ageStore.valuesIn (people.keySpace ageStore.isClustered) "age")
      (Lookup.found ageStore (people.keySpace ageStore.isClustered)
        [.scalar (.int 1), .scalar (.int 2)])
      (ageStore.listOf (people.keySpace ageStore.isClustered)) := by decide +kernel
  refine ⟨fun agree => turned (apart.2.1.1 agree), fun agree => turned (apart.2.2.1 agree),
    alike.2.1.2 ?_⟩
  decide +kernel

end Rowscan
