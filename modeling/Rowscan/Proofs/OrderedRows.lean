import Rowscan.Proofs.KeyListing
import Rowscan.Proofs.OrderedPages
import Rowscan.Proofs.StoreViews

/-!
An order rearranges rows. Whichever way rows are reached, the keys that are visited with an order
are those visited without it, in another order, and which of them match does not depend on it
(`TableQuery.matched_ordering`). So a query fails with an order if and only if it fails without it,
and otherwise the same rows are answered, each as often. Rows that are sorted by text stay in their
order where the texts are equal, and those without a text come first or last
(`TableQuery.all_ordering`).
-/
namespace Rowscan

/-- If no item of a kind comes after one that is not of it, the items of the kind come first. -/
theorem eq_filter_append {α : Type} {items : List α} {isFirst : α → Bool}
    (ordered : items.Pairwise fun a b => isFirst b = true → isFirst a = true) :
    items = items.filter isFirst ++ items.filter (!isFirst ·) := by
  induction items with
  | nil => rfl
  | cons item rest ih =>
    obtain ⟨later, others⟩ := List.pairwise_cons.1 ordered
    cases first : isFirst item with
    | true => simpa [first] using ih others
    | false =>
      have none : ∀ other ∈ rest, isFirst other = false := fun other member =>
        Bool.eq_false_iff.2 fun isOne => by simpa [first] using later other member isOne
      have kept : rest.filter isFirst = [] := by
        simpa [List.filter_eq_nil_iff] using none
      have left : rest.filter (!isFirst ·) = rest := by
        simpa [List.filter_eq_self] using none
      simp [first, kept, left]

/-! ## Rows sorted by text -/

namespace Row

/-- Rows compare by the texts in a column, missing texts first. -/
def compareBy (term : OrderTerm) (a b : Row) : Ordering :=
  term.direction.orient (compare (a.find? term.column) (b.find? term.column))

/-- Rows are sorted by the texts in a column. -/
structure SortedByText (term : OrderTerm) (rows sorted : List Row) : Prop where
  /-- The texts go in the direction. -/
  inOrder : sorted.Pairwise fun a b => (compareBy term a b).isLE = true
  /-- Rows with one text, and those without one, are as they were. -/
  stable : ∀ text : Option String, sorted.filter (fun row => row.find? term.column == text) =
    rows.filter fun row => row.find? term.column == text
  missingFirst : term.direction = .ascending →
    sorted = rows.filter (!·.contains term.column) ++ sorted.filter (·.contains term.column)
  missingLast : term.direction = .descending →
    sorted = sorted.filter (·.contains term.column) ++ rows.filter (!·.contains term.column)

variable {term : OrderTerm} {rows sorted : List Row} {a b : Row}

private theorem lacks_of_ascending (ascending : term.direction = .ascending)
    (inOrder : (compareBy term a b).isLE = true) (lacking : (!b.contains term.column) = true) :
    (!a.contains term.column) = true := by
  unfold compareBy FieldMap.contains at *
  rw [ascending, Direction.orient] at inOrder
  cases first : a.find? term.column with
  | none => rfl
  | some text =>
    cases second : b.find? term.column with
    | none =>
      rw [first, second] at inOrder
      cases inOrder
    | some other =>
      rw [second] at lacking
      cases lacking

private theorem contains_of_descending (descending : term.direction = .descending)
    (inOrder : (compareBy term a b).isLE = true) (filled : b.contains term.column = true) :
    a.contains term.column = true := by
  unfold compareBy FieldMap.contains at *
  rw [descending, Direction.orient] at inOrder
  cases first : a.find? term.column with
  | some text => rfl
  | none =>
    cases second : b.find? term.column with
    | none =>
      rw [second] at filled
      cases filled
    | some other =>
      rw [first, second] at inOrder
      cases inOrder

/-- Where rows without a text come follows from the order of the others. -/
theorem SortedByText.of_inOrder
    (inOrder : sorted.Pairwise fun a b => (compareBy term a b).isLE = true)
    (stable : ∀ text : Option String, sorted.filter (fun row => row.find? term.column == text) =
      rows.filter fun row => row.find? term.column == text) : SortedByText term rows sorted := by
  have lacks (row : Row) : (!row.contains term.column) = (row.find? term.column == none) := by
    rw [FieldMap.contains]
    cases row.find? term.column <;> rfl
  have missing : sorted.filter (!·.contains term.column) =
      rows.filter (!·.contains term.column) := by
    simp only [lacks]
    exact stable none
  refine ⟨inOrder, stable, fun ascending => ?_, fun descending => ?_⟩
  · have split := eq_filter_append (inOrder.imp fun {a b} => lacks_of_ascending ascending)
    simp only [Bool.not_not] at split
    rw [← missing]
    exact split
  · rw [← missing]
    exact eq_filter_append (inOrder.imp fun {a b} => contains_of_descending descending)

end Row

/-! ## Visited keys -/

namespace Store

variable {store : Store} {space : KeySpace} {term : OrderTerm} {keys : List String}

/-- The keys in the order asked for. -/
def arranged (store : Store) (space : KeySpace) (order : Option OrderTerm) (keys : List String) :
    List String :=
  match order with
  | none => keys
  | some term => arrange term.direction (store.valuesIn space term.column) keys

private theorem inOrder_eq (store : Store) (space : KeySpace) (order : Option OrderTerm)
    (keys : List String) : store.inOrder space order keys =
      (store.arranged space order keys).map (store.rowOf space) := by
  cases order with
  | none => rfl
  | some term =>
    rw [inOrder, sort_eq_arrange, List.map_map]
    rfl

private theorem candidates_eq (store : Store) (program : ScanProgram) : store.candidates program =
    store.arranged program.space program.order (store.listOf program.space) := by
  unfold candidates arranged
  cases program.order <;> rfl

private theorem perm_arranged (store : Store) (space : KeySpace) (order : Option OrderTerm)
    (keys : List String) : (store.arranged space order keys).Perm keys := by
  cases order with
  | none => exact .refl _
  | some term => exact perm_arrange _ _ _

/-- If some value is no number, the rows that are picked from the arranged keys are sorted by
text. -/
theorem sortedByText_arranged (isMatch : String → Bool)
    (textual : ∃ key ∈ keys, sortsByNumber (store.valuesIn space term.column key) = false) :
    Row.SortedByText term ((keys.filter isMatch).map (store.rowOf space))
      (((store.arranged space (some term) keys).filter isMatch).map (store.rowOf space)) := by
  rw [arranged, arrange_of_textual textual]
  refine .of_inOrder ?_ fun text => ?_
  · rw [List.pairwise_map]
    refine (sorted_sortKeysByText.filter isMatch).imp fun {a b} inOrder => ?_
    rw [compareTexts_eq] at inOrder
    exact inOrder
  · let value := store.valuesIn space term.column
    have stays : (sortKeysByText term.direction value keys).filter (value · == text) =
      keys.filter (value · == text) := filter_sortKeysByText text
    rw [List.filter_map, List.filter_map, List.filter_comm, List.filter_comm _ _ keys]
    exact congrArg (fun alike => (alike.filter isMatch).map (store.rowOf space)) stays

end Store

namespace ScanProgram

/-- The order is the only part of a program that depends on it. -/
theorem ofQuery_order (space : KeySpace) (filter : Option Filter) (order : Option OrderTerm) :
    ofQuery space { filter, order := order.toList } .all =
      (ofQuery space { filter } .all).map fun program => { program with order } := by
  simp only [ofQuery, Query.singleOrder]
  rcases order with _ | term
  · cases filter with
    | none => rfl
    | some filter => cases compiled : filter.compile .empty <;> simp only [compiled] <;> rfl
  · cases filter with
    | none => rfl
    | some filter => cases compiled : filter.compile .empty <;> simp only [compiled] <;> rfl

end ScanProgram

namespace TableQuery

/-- The query for all rows that match, in this order. -/
def ordering (request : TableQuery) (order : Option OrderTerm) : TableQuery :=
  { request with query := { filter := request.query.filter, order := order.toList } }

/-- The keys that a query visits if no order is asked for: those found, if the filter names rows by
key, and otherwise those listed. -/
def visited (request : TableQuery) (store : Store) : List String :=
  match request.keys? with
  | .ok (some keys) => Lookup.found store (request.spaceIn store) keys
  | _ => store.listOf (request.spaceIn store)

/-- Some row that is visited holds a text that is no number. -/
def SortsByText (request : TableQuery) (store : Store) (column : String) : Prop :=
  ∃ key ∈ request.visited store,
    sortsByNumber (store.valuesIn (request.spaceIn store) column key) = false

variable (request : TableQuery) (store : Store)

private theorem singleOrder_ordering (order : Option OrderTerm) :
    (request.ordering order).query.singleOrder = .ok order := by
  cases order <;> rfl

/-- A scan in an order picks the same rows as any other. -/
theorem scannedRows_ordering :
    (∀ order, ∃ failure, (request.ordering order).scannedRows store = .error failure) ∨
    ∃ isMatch : String → Bool, ∀ order, (request.ordering order).scannedRows store =
      .ok (((store.arranged (request.spaceIn store) order
        (store.listOf (request.spaceIn store))).filter isMatch).map
          (store.rowOf (request.spaceIn store))) := by
  have build (order : Option OrderTerm) : ScanProgram.ofQuery (request.spaceIn store)
      (request.ordering order).query.unpaged .all =
        (ScanProgram.ofQuery (request.spaceIn store) { filter := request.query.filter } .all).map
          fun program => { program with order } :=
    ScanProgram.ofQuery_order _ _ order
  cases built : ScanProgram.ofQuery (request.spaceIn store) { filter := request.query.filter }
      .all with
  | error failure =>
    refine .inl fun order => ⟨failure, ?_⟩
    change (ScanProgram.ofQuery (request.spaceIn store) _ .all >>= _) = _
    rw [build, built]
    rfl
  | ok program =>
    have space : program.space = request.spaceIn store := (ScanProgram.of_ofQuery built).1
    have scanned (order : Option OrderTerm) : (request.ordering order).scannedRows store =
        (Verdict.keep (store.satisfies program) (store.arranged (request.spaceIn store) order
          (store.listOf (request.spaceIn store)))).map
            (List.map (store.rowOf (request.spaceIn store))) := by
      change (ScanProgram.ofQuery (request.spaceIn store) _ .all >>= _) = _
      rw [build, built]
      change (Verdict.keep (store.satisfies program) (store.candidates { program with order }) >>=
        fun keys => .ok (keys.map (store.rowOf program.space))) = _
      rw [store.candidates_eq, space]
      cases Verdict.keep _ _ <;> rfl
    have visits (order : Option OrderTerm) := store.perm_arranged (request.spaceIn store) order
      (store.listOf (request.spaceIn store))
    cases kept : Verdict.keep (store.satisfies program)
        (store.listOf (request.spaceIn store)) with
    | ok found =>
      obtain ⟨isMatch, decided, -⟩ := Verdict.filter_of_keep kept
      refine .inr ⟨isMatch, fun order => ?_⟩
      rw [scanned, Verdict.keep_of_decided fun key member =>
        decided key ((visits order).mem_iff.1 member)]
      rfl
    | error failure =>
      refine .inl fun order => ?_
      rw [scanned]
      cases other : Verdict.keep (store.satisfies program) (store.arranged (request.spaceIn store)
          order (store.listOf (request.spaceIn store))) with
      | error failure => exact ⟨failure, rfl⟩
      | ok found =>
        obtain ⟨isMatch, decided, -⟩ := Verdict.filter_of_keep other
        have all := Verdict.keep_of_decided fun key member =>
          decided key ((visits order).mem_iff.2 member)
        cases kept.symm.trans all

/-- Which of the visited keys match does not depend on the order, nor whether the query fails. -/
theorem matched_ordering :
    (∀ order, ∃ failure, (request.ordering order).matched store = .error failure) ∨
    ∃ isMatch : String → Bool, ∀ order, (request.ordering order).matched store =
      .ok (((store.arranged (request.spaceIn store) order (request.visited store)).filter
        isMatch).map (store.rowOf (request.spaceIn store))) := by
  have named (order : Option OrderTerm) : (request.ordering order).keys? = request.keys? := rfl
  simp only [matched, named, visited]
  cases request.keys? with
  | error failure => exact .inl fun _ => ⟨failure, rfl⟩
  | ok keys =>
    cases keys with
    | none => exact request.scannedRows_ordering store
    | some keys =>
      refine .inr ⟨fun _ => true, fun order => ?_⟩
      change (request.ordering order).foundRows store keys = _
      rw [foundRows, singleOrder_ordering, List.filter_true, ← store.inOrder_eq]
      rfl

/-- An order rearranges the rows of a query for all that match. With the order the query fails if
and only if it fails without it, and otherwise it answers the same rows, each as often, whether they
are looked up or scanned. If a visited row holds a text that is no number, the rows are sorted by
text: in either direction those with one text stay in their order, and those without a text come
before all others if the direction is ascending, and after them if it is descending. -/
theorem all_ordering (term : OrderTerm) :
    (∃ failure refusal, ((request.ordering none).all Store.executor).Gives store (.error failure) ∧
      ((request.ordering (some term)).all Store.executor).Gives store (.error refusal)) ∨
    ∃ rows sorted, ((request.ordering none).all Store.executor).Gives store (.ok rows) ∧
      ((request.ordering (some term)).all Store.executor).Gives store (.ok sorted) ∧
      sorted.Perm rows ∧
      (∀ row ∈ rows, ∃ key ∈ request.visited store,
        store.rowOf (request.spaceIn store) key = row) ∧
      (request.SortsByText store term.column → Row.SortedByText term rows sorted) := by
  cases emulated : request.isEmulated with
  | true =>
    have nothing : Row.SortedByText term [] [] := .of_inOrder .nil fun _ => rfl
    exact .inr ⟨[], [], all_of_emulated emulated, all_of_emulated emulated, .refl _, nofun,
      fun _ => nothing⟩
  | false =>
    obtain failed | ⟨isMatch, matching⟩ := request.matched_ordering store
    · obtain ⟨failure, unmatched⟩ := failed none
      obtain ⟨refusal, unsorted⟩ := failed (some term)
      exact .inl ⟨failure, refusal, all_of_unmatched emulated unmatched,
        all_of_unmatched emulated unsorted⟩
    · have live (order : Option OrderTerm) : (request.ordering order).isEmulated = false := emulated
      have answered (order : Option OrderTerm) := all_of_matched (live order) (matching order)
      have whole (order : Option OrderTerm) (rows : List Row) :
          (request.ordering order).query.page rows = rows := Query.page_unbounded rfl rfl rows
      simp only [whole] at answered
      refine .inr ⟨_, _, answered none, answered (some term), ?_, fun row member => ?_,
        store.sortedByText_arranged isMatch⟩
      · exact ((store.perm_arranged _ _ _).filter isMatch).map _
      · obtain ⟨key, picked, same⟩ := List.mem_map.1 member
        exact ⟨key, (List.mem_filter.1 picked).1, same⟩

/-- The first listed row was removed and inserted again, so that it is listed and answered twice,
and another row has no name. Sorted by name downwards, that row comes last. -/
theorem all_ordering_relisted :
    let people : Table := ⟨"t", ["id"]⟩
    let store := (Store.empty false false).editAll people
      [.insert [("id", .int 1), ("name", .string "Ada")], .insert [("id", .int 2)],
        .insert [("id", .int 3), ("name", .string "Bo")], .remove "1",
        .insert [("id", .int 1), ("name", .string "Ada")]]
    let ada : Row := .ofList [("id", "1"), ("name", "Ada")]
    let unnamed : Row := .ofList [("id", "2")]
    let bo : Row := .ofList [("id", "3"), ("name", "Bo")]
    ∃ sorted, (people.everyRow.all Store.executor).Gives store (.ok [ada, unnamed, bo, ada]) ∧
      ((people.everyRow.ordering (some ⟨"name", .descending⟩)).all Store.executor).Gives store
        (.ok sorted) ∧
      sorted.Perm [ada, unnamed, bo, ada] ∧
      sorted = sorted.filter (·.contains "name") ++ [unnamed] := by
  intro people store ada unnamed bo
  have answered : (people.everyRow.all Store.executor).Gives store
      (.ok [ada, unnamed, bo, ada]) := by
    have listed : (store.listOf (people.keySpace store.isClustered)).map
        (store.rowOf (people.keySpace store.isClustered)) = [ada, unnamed, bo, ada] := by
      decide +kernel
    exact listed ▸ all_everyRow store people
  have textual : people.everyRow.SortsByText store "name" :=
    ⟨"1", by decide +kernel, by decide +kernel⟩
  obtain ⟨failure, -, failed, -⟩ | ⟨rows, sorted, unordered, ordered, perm, -, byText⟩ :=
    all_ordering people.everyRow store ⟨"name", .descending⟩
  · cases answered.unique failed
  · obtain rfl := Except.ok.inj (answered.unique unordered)
    exact ⟨sorted, answered, ordered, perm, (byText textual).missingLast rfl⟩

end TableQuery
end Rowscan
