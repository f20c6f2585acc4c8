import Rowscan.Proofs.KeyFilters
import Rowscan.Proofs.StoreHistory
import Rowscan.Proofs.TextSorting
import Rowscan.Proofs.Windows

/-!
Lookup and scan answer alike. On a store with the history that `Store.Reached` tells, a filter on
the key field finds the same rows whether they are read by key or found by a scan
(`perm_found_matching`): an order by number makes the answers the same, and without one
they are the same up to the order of rows.
-/
namespace Rowscan

/-! ## The scan program of a plain filter -/

/-- A program of a query with a plain filter asks of a row what the filter means. -/
structure ScanProgram.Asks (program : ScanProgram) (space : KeySpace) (query : Query)
    (kind : Query.Kind) (order : Option OrderTerm) (filter : Filter) : Prop where
  space : program.space = space
  kind : program.kind = kind
  order : program.order = order
  window : program.window = query.window
  holds : ∀ row, program.condition.holds row (program.columns.fieldIn row) = filter.meaning row

theorem ScanProgram.ofQuery_asks (space : KeySpace) {query : Query} (kind : Query.Kind)
    {filter : Filter} {order : Option OrderTerm} (filtered : query.filter = some filter)
    (plain : filter.isPlain = true) (ordered : query.singleOrder = .ok order) :
    ∃ program, ofQuery space query kind = .ok program ∧
      program.Asks space query kind order filter := by
  obtain ⟨condition, columns, compiled, -, same⟩ := filter.compile_meaning plain .empty
  have reached : columns.Reached := .compile .empty compiled
  refine ⟨_, by rw [ofQuery, ordered, filtered]; simp only [compiled]; rfl, rfl, rfl, rfl, rfl,
    fun row => ?_⟩
  have meaning := same row _ (reached.numbered.agrees_fieldIn row)
  rw [← meaning]
  cases empty : condition.isEmpty with
  | false => rfl
  | true =>
    have nothing : condition = .empty := by cases condition <;> first | rfl | cases empty
    rw [nothing]
    rfl

/-! ## Plain queries -/

namespace Query

variable {query : Query}

private theorem singleOrder_of_none (unordered : query.order = []) :
    query.singleOrder = .ok none := by
  rw [singleOrder, unordered]

theorem singleOrder_of_one {term : OrderTerm} (ordered : query.order = [term]) :
    query.singleOrder = .ok (some term) := by
  rw [singleOrder, ordered]

private theorem window_unbounded (unskipped : query.offset = none)
    (unlimited : query.limit = none) :
    query.window = ⟨0, none⟩ := by
  rw [window, unskipped, unlimited]
  rfl

end Query

/-! ## The two paths -/

namespace Store

/-- The texts that the key field holds in the rows of a table. -/
def keyTexts (store : Store) (space : KeySpace) (field : String) : List String :=
  (store.listOf space).filterMap fun key => (store.rowOf space key).find? field

/-- Whether the key field of a row holds one of these texts. -/
def holdsText (store : Store) (space : KeySpace) (field : String) (texts : List String)
    (key : String) : Bool :=
  texts.any fun text => (store.rowOf space key).find? field == some text

variable {store : Store} {space : KeySpace} {query : Query} {kind : Query.Kind}

/-- The rows that a scan program gathers. -/
theorem scan_eq {program : ScanProgram} {order : Option OrderTerm} {filter : Filter}
    (asks : program.Asks space query kind order filter) {isMatch : String → Bool}
    (decided : ∀ key, filter.meaning (store.rowOf space key) = .ok (isMatch key)) :
    store.scan program = .ok (store.gather kind
      ((query.window.pick (decide (kind = .one) && order.isNone) 0
        ((store.candidates program).filter isMatch)).map (store.rowOf space))) := by
  have settled : ∀ key ∈ store.candidates program,
      store.satisfies program key = .ok (isMatch key) := by
    intro key _
    rw [satisfies, asks.space, asks.holds, decided]
  have early : returnsEarly program = (decide (kind = .one) && order.isNone) := by
    rw [returnsEarly, asks.kind, asks.order]
  have selected := select_eq settled 0
  rw [scan, selected, early, asks.window, asks.kind, asks.space]
  rfl

end Store

namespace TableQuery

variable {store : Store} {space : KeySpace} {kind : Query.Kind}

theorem scan_gives {request : TableQuery} {program : ScanProgram} {reply : Reply}
    (built : ScanProgram.ofQuery space request.query kind = .ok program)
    (scanned : store.scan program = .ok reply) :
    (request.scan Store.executor space kind).Gives store (kind.answerOfReply reply) := by
  have sent : (Store.executor.send (.eval program)).Gives store (.ok reply) := by
    have replied : store.reply (.eval program) = .ok reply := scanned
    exact congrArg (·, store) replied
  have start : (Run.ofExcept (ScanProgram.ofQuery space request.query kind)).Gives store
      (.ok program) := built ▸ Run.gives_ofExcept _
  exact start.bind (sent.bind (Run.gives_ofExcept _))

end TableQuery

namespace Lookup

open Run

variable (store : Store) (space : KeySpace)

/-- The encoded keys that a lookup finds rows under, in the order in which they were asked for. -/
def found (keys : List KeyValue) : List String :=
  (distinct (keys.map KeyValue.encode)).filter (isStored store space)

variable {query : Query} (kind : Query.Kind) (keys : List KeyValue)

theorem run_count {order : Option OrderTerm} (ordered : query.singleOrder = .ok order) :
    (run Store.executor space query .count keys).Gives store
      (.ok ((found store space keys).length : Nat)) := by
  have start : (Run.ofExcept query.singleOrder).Gives store (.ok order) :=
    ordered ▸ gives_ofExcept _
  have rows := (fetchAll_gives store space (distinct (keys.map KeyValue.encode))).map
    fun read => read.map (·.2)
  have length : (found store space keys).length =
      (((found store space keys).map fun key => (key, store.rowOf space key)).map (·.2)).length := by
    rw [List.length_map, List.length_map]
  rw [length, ← Query.Kind.answerOf_count]
  exact start.bind (rows.bind (gives_ofExcept _))

theorem run_unordered (ordered : query.singleOrder = .ok none) (ranged : kind ≠ .count) :
    (run Store.executor space query kind keys).Gives store
      (kind.answerOf (query.window.pick (decide (kind = .one)) 0
        ((found store space keys).map (store.rowOf space)))) := by
  have start : (Run.ofExcept query.singleOrder).Gives store (.ok none) :=
    ordered ▸ gives_ofExcept _
  have rows := fetchWindow_gives store space query.window (decide (kind = .one))
    (distinct (keys.map KeyValue.encode)) 0
  refine start.bind ?_
  rw [if_neg ranged]
  exact rows.bind (gives_ofExcept _)

theorem run_ordered {term : OrderTerm} (ordered : query.singleOrder = .ok (some term))
    (ranged : kind ≠ .count) :
    (run Store.executor space query kind keys).Gives store
      (kind.answerOf (query.window.slice ((SortEntry.sort term.direction
        ((found store space keys).map (entryOf (fun key => (store.rowOf space key).find? term.column)
          (store.rowOf space)))).map (·.item)))) := by
  have start : (Run.ofExcept query.singleOrder).Gives store (.ok (some term)) :=
    ordered ▸ gives_ofExcept _
  have read := fetchAll_gives store space (distinct (keys.map KeyValue.encode))
  have entries : ((found store space keys).map fun key => (key, store.rowOf space key)).map
      (fun read => SortEntry.mk (read.2.find? term.column) read.1 read.2) =
      (found store space keys).map (entryOf (fun key => (store.rowOf space key).find? term.column)
        (store.rowOf space)) := by
    rw [List.map_map]
    rfl
  have rows : (rowsInWindow Store.executor space query.window (decide (kind = .one)) (some term)
      (distinct (keys.map KeyValue.encode))).Gives store
      (.ok (query.window.slice ((SortEntry.sort term.direction
        (((found store space keys).map fun key => (key, store.rowOf space key)).map
          fun read => SortEntry.mk (read.2.find? term.column) read.1 read.2)).map (·.item)))) :=
    read.bind (gives_pure _)
  refine start.bind ?_
  rw [if_neg ranged, ← entries]
  exact rows.bind (gives_ofExcept _)

/-- Without an order and a window, every kind of answer is made from all rows that are found. -/
theorem run_unbounded (unordered : query.order = []) (unskipped : query.offset = none)
    (unlimited : query.limit = none) :
    (run Store.executor space query kind keys).Gives store
      (kind.answerOf ((found store space keys).map (store.rowOf space))) := by
  have order := Query.singleOrder_of_none unordered
  by_cases counted : kind = .count
  · subst counted
    rw [Query.Kind.answerOf_count, List.length_map]
    exact run_count store space keys order
  · have looked := run_unordered store space kind keys order counted
    rw [Query.window_unbounded unskipped unlimited] at looked
    by_cases only : kind = .one
    · subst only
      rw [Query.Kind.answerOf_one, Window.head?_pick_unbounded] at looked
      rw [Query.Kind.answerOf_one]
      exact looked
    · rw [decide_eq_false only, Window.pick_unbounded] at looked
      exact looked

end Lookup

/-! ## The same rows -/

/-- No two of these texts share an encoded key. -/
def Unambiguous (texts : List String) : Prop :=
  ∀ first ∈ texts, ∀ second ∈ texts,
    KeyValue.encodeText first = KeyValue.encodeText second → first = second

namespace Store

variable {table : Table} {field : String} {store : Store} {removed : List String}

/-- A stored row is listed under its key, which its key field encodes to. -/
theorem Consistent.keyed_of_isStored (consistent : Consistent table field store removed)
    {key : String} (colonless : ':' ∉ key.toList)
    (present : Lookup.isStored store (table.keySpace store.isClustered) key = true) :
    key ∈ store.listOf (table.keySpace store.isClustered) ∧
      ∃ text, (store.rowOf (table.keySpace store.isClustered) key).find? field = some text ∧
        KeyValue.encodeText text = key := by
  cases held : store.rows.find? ((table.keySpace store.isClustered).rowKey key) with
  | none =>
    rw [Lookup.isStored, rowOf, held] at present
    cases present
  | some row =>
    have stored : store.rows.contains ((table.keySpace store.isClustered).rowKey key) = true :=
      FieldMap.contains_iff.2 ⟨row, held⟩
    refine ⟨consistent.listed key colonless stored, ?_⟩
    rw [rowOf, held]
    exact consistent.keyed key row colonless held

/-- A row that holds a text in some field is stored. -/
theorem isStored_of_find? {space : KeySpace} {key name text : String}
    (held : (store.rowOf space key).find? name = some text) :
    Lookup.isStored store space key = true := by
  rw [Lookup.isStored, FieldMap.isEmpty_eq_false_of_find? held]
  rfl

/-- The keys of the rows that hold one of the literals of a filter, as the table lists them. -/
def matchingKeys (store : Store) (space : KeySpace) (field : String) (filter : Filter) :
    List String :=
  (store.listOf space).filter (store.holdsText space field (filter.keyLiterals.map Literal.text))

/-- The rows that are found by key are those that hold one of the texts. -/
theorem perm_found_matching (consistent : Consistent table field store removed)
    {filter : Filter} {keys : List KeyValue} (names : filter.NamesBy field keys)
    (keyed : ∀ literal ∈ filter.keyLiterals, literal.isKeyed = true)
    (unambiguous : Unambiguous (filter.keyLiterals.map Literal.text ++
      store.keyTexts (table.keySpace store.isClustered) field)) :
    (Lookup.found store (table.keySpace store.isClustered) keys).Perm
      (store.matchingKeys (table.keySpace store.isClustered) field filter) := by
  have encodings : keys.map KeyValue.encode =
      (filter.keyLiterals.map Literal.text).map KeyValue.encodeText := by
    rw [names.keys, List.map_map, List.map_map]
    exact List.map_congr_left fun literal member => encodeScalar_of_isKeyed (keyed literal member)
  rw [Lookup.found, encodings, matchingKeys,
    List.perm_ext_iff_of_nodup ((Lookup.nodup_distinct _).filter _) (consistent.nodup.filter _)]
  intro key
  rw [List.mem_filter, List.mem_filter, Lookup.mem_distinct]
  constructor
  · rintro ⟨asked, present⟩
    obtain ⟨text, given, rfl⟩ := List.mem_map.1 asked
    obtain ⟨listed, stored, held, same⟩ :=
      consistent.keyed_of_isStored (colon_notMem_encodeText text) present
    have known : stored ∈ store.keyTexts (table.keySpace store.isClustered) field :=
      List.mem_filterMap.2 ⟨_, listed, held⟩
    have equal : stored = text := unambiguous stored (List.mem_append_right _ known) text
      (List.mem_append_left _ given) same
    subst equal
    exact ⟨listed, List.any_eq_true.2 ⟨stored, given, by rw [held]; exact beq_self_eq_true _⟩⟩
  · rintro ⟨listed, matching⟩
    obtain ⟨text, given, equal⟩ := List.any_eq_true.1 matching
    have held := eq_of_beq equal
    have present := isStored_of_find? held
    obtain ⟨-, stored, held', same⟩ :=
      consistent.keyed_of_isStored (consistent.colonless key listed) present
    cases held.symm.trans held'
    exact ⟨List.mem_map.2 ⟨text, given, same⟩, present⟩

end Store

/-! ## What the scan visits -/

namespace Store

variable {store : Store} {space : KeySpace} {query : Query} {kind : Query.Kind}
variable {filter : Filter} {program : ScanProgram}

private theorem candidates_unordered (asks : program.Asks space query kind none filter) :
    store.candidates program = store.listOf space := by
  rw [candidates, asks.space, asks.order]

/-- A scan in an order visits the sorted keys. -/
theorem candidates_ordered {term : OrderTerm}
    (asks : program.Asks space query kind (some term) filter) :
    store.candidates program = arrange term.direction
      (fun key => (store.rowOf space key).find? term.column) (store.listOf space) := by
  rw [candidates, asks.space, asks.order]
  rfl

end Store

/-! ## Answers -/

section Answers

variable {request : TableQuery} {field : String} {store : Store} {removed : List String}
variable {space : KeySpace} {filter : Filter} {keys : List KeyValue}

private theorem isEmpty_of_holdsText {texts : List String} {key : String}
    (matching : store.holdsText space field texts key = true) :
    (store.rowOf space key).isEmpty = false := by
  obtain ⟨text, -, equal⟩ := List.any_eq_true.1 matching
  exact FieldMap.isEmpty_eq_false_of_find? (eq_of_beq equal)

private theorem holdsText_literals (store : Store) (space : KeySpace)
    (names : filter.NamesBy field keys) (key : String) : filter.meaning (store.rowOf space key) =
      .ok (store.holdsText space field (filter.keyLiterals.map Literal.text) key) := by
  rw [names.meaning, Store.holdsText, List.any_map]
  rfl

/-- Without an order, the scan gathers the matching rows in the order of the list. -/
theorem scan_unordered (store : Store) (space : KeySpace) (kind : Query.Kind)
    (filtered : request.query.filter = some filter) (plain : filter.isPlain = true)
    {isMatch : String → Bool}
    (decided : ∀ key, filter.meaning (store.rowOf space key) = .ok (isMatch key))
    (ordered : request.query.singleOrder = .ok none) :
    (request.scan Store.executor space kind).Gives store
      (kind.answerOfReply (store.gather kind
        ((request.query.window.pick (decide (kind = .one)) 0
          ((store.listOf space).filter isMatch)).map (store.rowOf space)))) := by
  obtain ⟨program, built, asks⟩ := ScanProgram.ofQuery_asks space kind filtered plain ordered
  have scanned := Store.scan_eq asks decided
  rw [Store.candidates_unordered asks, Option.isNone_none, Bool.and_true] at scanned
  exact TableQuery.scan_gives built scanned

/-- In an order, the scan sorts all rows and gathers those that match. -/
theorem scan_arranged (store : Store) (space : KeySpace) (kind : Query.Kind)
    (names : filter.NamesBy field keys)
    (filtered : request.query.filter = some filter) {term : OrderTerm}
    (ordered : request.query.singleOrder = .ok (some term)) :
    (request.scan Store.executor space kind).Gives store
      (kind.answerOfReply (store.gather kind
        ((request.query.window.slice ((arrange term.direction
          (fun key => (store.rowOf space key).find? term.column) (store.listOf space)).filter
            (store.holdsText space field (filter.keyLiterals.map Literal.text)))).map
              (store.rowOf space)))) := by
  obtain ⟨program, built, asks⟩ :=
    ScanProgram.ofQuery_asks space kind filtered names.plain ordered
  have scanned := Store.scan_eq asks (holdsText_literals store space names)
  rw [Store.candidates_ordered asks, Option.isNone_some, Bool.and_false] at scanned
  exact TableQuery.scan_gives built scanned

/-- In an order by number, the scan gathers the matching rows in that order. -/
theorem scan_ordered (store : Store) (space : KeySpace) (kind : Query.Kind)
    (names : filter.NamesBy field keys)
    (filtered : request.query.filter = some filter) {term : OrderTerm}
    (ordered : request.query.singleOrder = .ok (some term))
    (numeric : ∀ key ∈ store.listOf space,
      sortsByNumber ((store.rowOf space key).find? term.column) = true) :
    (request.scan Store.executor space kind).Gives store
      (kind.answerOfReply (store.gather kind
        ((request.query.window.slice (sortKeys term.direction
          (fun key => (store.rowOf space key).find? term.column)
          (store.matchingKeys space field filter))).map (store.rowOf space)))) := by
  have scanned := scan_arranged store space kind names filtered ordered
  rw [arrange_of_numeric numeric, filter_sortKeys] at scanned
  exact scanned

/-- In an order, the lookup sorts the rows that it found and answers from them. -/
theorem run_arranged (store : Store) (space : KeySpace) (keys : List KeyValue)
    (kind : Query.Kind) {query : Query} {term : OrderTerm}
    (ordered : query.singleOrder = .ok (some term)) (ranged : kind ≠ .count) :
    (Lookup.run Store.executor space query kind keys).Gives store
      (kind.answerOf ((query.window.slice (arrange term.direction
        (fun key => (store.rowOf space key).find? term.column)
        (Lookup.found store space keys))).map (store.rowOf space))) := by
  have looked := Lookup.run_ordered store space kind keys ordered ranged
  have rows (sorted : List String) : (sorted.map
      (entryOf (fun key => (store.rowOf space key).find? term.column) (store.rowOf space))).map
        (·.item) = sorted.map (store.rowOf space) := by
    rw [List.map_map]
    rfl
  rw [sort_eq_arrange, rows, Window.slice_eq, ← Window.map_sliceFrom, ← Window.slice_eq] at looked
  exact looked

/-- In an order by number, the lookup answers from the rows that it found in that order. -/
theorem run_sorted (kind : Query.Kind) {query : Query} {term : OrderTerm}
    (ordered : query.singleOrder = .ok (some term)) (ranged : kind ≠ .count)
    (numeric : ∀ key ∈ Lookup.found store space keys,
      sortsByNumber ((store.rowOf space key).find? term.column) = true) :
    (Lookup.run Store.executor space query kind keys).Gives store
      (kind.answerOf ((query.window.slice (sortKeys term.direction
        (fun key => (store.rowOf space key).find? term.column)
        (Lookup.found store space keys))).map (store.rowOf space))) := by
  have looked := run_arranged store space keys kind ordered ranged
  rw [arrange_of_numeric numeric] at looked
  exact looked

/-- Rows that match have fields. -/
theorem filled_of_mem {window : Window} (onlyOne : Bool) {sorted : List String}
    (subset : sorted ⊆ store.matchingKeys space field filter) {row : Row}
    (member : row ∈ (window.pick onlyOne 0 sorted).map (store.rowOf space)) :
    row.isEmpty = false := by
  obtain ⟨key, picked, rfl⟩ := List.mem_map.1 member
  have matching := subset (window.mem_of_mem_pick picked)
  exact isEmpty_of_holdsText (List.mem_filter.1 matching).2

end Answers

/-! ## The two paths agree -/

section Agreement

/-- The key space that a query's table has in a store. -/
abbrev TableQuery.spaceIn (request : TableQuery) (store : Store) : KeySpace :=
  request.table.keySpace store.isClustered

/-- A lookup of these keys gives the outcome, and leaves the store as it is. -/
def Looks (store : Store) (request : TableQuery) (keys : List KeyValue) (kind : Query.Kind)
    (outcome : Except Failure kind.Answer) : Prop :=
  (Lookup.run Store.executor (request.spaceIn store) request.query kind keys).Gives store outcome

/-- A scan gives the outcome, and leaves the store as it is. -/
def Scans (store : Store) (request : TableQuery) (kind : Query.Kind)
    (outcome : Except Failure kind.Answer) : Prop :=
  (request.scan Store.executor (request.spaceIn store) kind).Gives store outcome

variable (request : TableQuery) {field : String} {store : Store} {removed : List String}
variable {filter : Filter} (keys : List KeyValue)

/-- In an order by number, lookup and scan give the same answer: the same rows in the same order,
and the same aggregate unless it is a number that a script cannot return. -/
theorem lookup_eq_scan_ordered (single : request.table.primaryKey = [field])
    (reached : Store.Reached request.table field store removed)
    (filtered : request.query.filter = some filter)
    (named : Lookup.candidates filter request.table = .ok (some keys))
    (keyed : ∀ literal ∈ filter.keyLiterals, literal.isKeyed = true)
    (unambiguous : Unambiguous (filter.keyLiterals.map Literal.text ++
      store.keyTexts (request.spaceIn store) field))
    {term : OrderTerm} (ordered : request.query.order = [term])
    (numeric : ∀ key ∈ store.listOf (request.spaceIn store),
      sortsByNumber ((store.rowOf (request.spaceIn store) key).find? term.column) = true)
    (kind : Query.Kind) (ranged : kind ≠ .count) :
    ∃ (rows : List Row) (scanned : Except Failure kind.Answer),
      Looks store request keys kind (kind.answerOf rows) ∧ Scans store request kind scanned ∧
      (kind.isNumber = false → scanned = kind.answerOf rows) ∧
      (kind.isSettled (kind.answerOf rows) = true ∨ kind.isSettled scanned = true →
        scanned = kind.answerOf rows) := by
  have names := Filter.namesBy_of_candidates single named keyed
  have same := Store.perm_found_matching (reached.consistent single) names keyed unambiguous
  have oneTerm := Query.singleOrder_of_one ordered
  have numericFound : ∀ key ∈ Lookup.found store (request.spaceIn store) keys,
      sortsByNumber ((store.rowOf (request.spaceIn store) key).find? term.column) = true :=
    fun key member => numeric key (List.mem_filter.1 (same.mem_iff.1 member)).1
  have looked := run_sorted kind oneTerm ranged numericFound
  rw [sortKeys_perm same] at looked
  have scanned := scan_ordered store _ kind names filtered oneTerm numeric
  have filled : ∀ row ∈ (request.query.window.slice (sortKeys term.direction
      (fun key => (store.rowOf (request.spaceIn store) key).find? term.column)
      (store.matchingKeys (request.spaceIn store) field filter))).map
        (store.rowOf (request.spaceIn store)), row.isEmpty = false :=
    fun row member => filled_of_mem false (fun key member => mem_sortKeys.1 member) member
  have agree := Query.Kind.agree_gather store kind _ filled
  refine ⟨_, _, looked, scanned, fun plain => ?_, agree.eq⟩
  exact agree.eq (.inl (Query.Kind.isSettled_answerOf plain _))

/-! A store of people, of whom one was removed, and a query for some of them by number. -/

/-- People numbered by `id`. -/
def people : Table := { name := "people" }

/-- The attributes of one person. -/
def person (id : Int64) (age : String) : List (String × Literal) :=
  [("id", .int id), ("age", .string age)]

/-- Three people were stored, and the row of the second was removed. -/
def peopleStore : Store :=
  let first := ((Store.empty false true).insert people (person 1 "30")).2
  let second := (first.insert people (person 2 "x")).2
  let third := (second.insert people (person 3 "20")).2
  (third.removeRow people "2").2

/-- The filter asks for the removed one, and for one of the others by text. -/
def chosen : Filter :=
  .membership ["id"] [.value (.int 2), .value (.string "3"), .value (.int 1)] false

def chosenKeys : List KeyValue := [.scalar (.int 2), .scalar (.string "3"), .scalar (.int 1)]

theorem isKeyGiven_person (id : Int64) (age : String) : Store.IsKeyGiven "id" (person id age) := by
  intro value found
  have given : (FieldMap.ofList (person id age)).find? "id" = some (.int id) := by
    change ((FieldMap.empty.insert "id" (Literal.int id)).insert "age" (Literal.string age)).find?
      "id" = _
    rw [FieldMap.find?_insert, if_neg (by decide), FieldMap.find?_insert, if_pos rfl]
  cases given.symm.trans found
  exact .inr rfl

private theorem reached_peopleStore : ∃ removed, Store.Reached people "id" peopleStore removed :=
  ⟨_, .remove "2" (.insert (.insert (.insert (.empty false true) (isKeyGiven_person 1 "30") nofun)
    (isKeyGiven_person 2 "x") nofun) (isKeyGiven_person 3 "20") nofun)⟩

private theorem unambiguous_people : Unambiguous (chosen.keyLiterals.map Literal.text ++
    peopleStore.keyTexts (people.keySpace peopleStore.isClustered) "id") := by
  unfold Unambiguous
  decide +kernel

def youngestFirst : TableQuery where
  table := people
  query := { filter := some chosen, order := [⟨"age", .ascending⟩], limit := some 5 }

/-- The row of one person. -/
def personRow (id age : String) : Row := .ofList [("age", age), ("id", id)]

theorem looks_youngestFirst :
    Looks peopleStore youngestFirst chosenKeys .all (.ok [personRow "3" "20", personRow "1" "30"]) ∧
      Scans peopleStore youngestFirst .all (.ok [personRow "3" "20", personRow "1" "30"]) := by
  obtain ⟨removed, reached⟩ := reached_peopleStore
  have numeric : ∀ key ∈ peopleStore.listOf (people.keySpace peopleStore.isClustered),
      sortsByNumber ((peopleStore.rowOf (people.keySpace peopleStore.isClustered) key).find?
        "age") = true := by decide +kernel
  obtain ⟨rows, scanned, looked, found, same, -⟩ := lookup_eq_scan_ordered youngestFirst
    chosenKeys rfl reached rfl rfl (by decide) unambiguous_people rfl numeric .all nofun
  have sorted : sortKeys .ascending
      (fun key => (peopleStore.rowOf (people.keySpace false) key).find? "age")
      (Lookup.found peopleStore (people.keySpace false) chosenKeys) = ["3", "1"] :=
    sortKeys_eq_of_perm (by decide +kernel) (by decide +kernel)
  have given := @run_sorted peopleStore (people.keySpace false) chosenKeys .all youngestFirst.query
    ⟨"age", .ascending⟩ rfl nofun (by decide +kernel)
  rw [sorted, Query.Kind.answerOf_all] at given
  have shown : (youngestFirst.query.window.slice ["3", "1"]).map
      (peopleStore.rowOf (people.keySpace false)) = [personRow "3" "20", personRow "1" "30"] := by
    decide +kernel
  rw [shown] at given
  exact ⟨given, looked.unique given ▸ same rfl ▸ found⟩

section Unbounded

variable (unordered : request.query.order = []) (unskipped : request.query.offset = none)
variable (unlimited : request.query.limit = none)

include unordered unskipped unlimited

/-- A lookup without an order and a window answers from all rows that it found. -/
theorem looks_unbounded (store : Store) (kind : Query.Kind) : Looks store request keys kind
    (kind.answerOf ((Lookup.found store (request.spaceIn store) keys).map
      (store.rowOf (request.spaceIn store)))) :=
  Lookup.run_unbounded store (request.spaceIn store) kind keys unordered unskipped unlimited

variable (filtered : request.query.filter = some filter) (plain : filter.isPlain = true)
include filtered plain

/-- A scan without an order and a window gathers all rows that match. -/
theorem scans_unbounded (store : Store) {isMatch : String → Bool}
    (decided : ∀ key, filter.meaning (store.rowOf (request.spaceIn store) key) = .ok (isMatch key))
    (kind : Query.Kind) (several : kind ≠ .one) :
    Scans store request kind (kind.answerOfReply (store.gather kind
      (((store.listOf (request.spaceIn store)).filter isMatch).map
        (store.rowOf (request.spaceIn store))))) := by
  have scanned := scan_unordered store (request.spaceIn store) kind filtered plain decided
    (Query.singleOrder_of_none unordered)
  rw [Query.window_unbounded unskipped unlimited, decide_eq_false several,
    Window.pick_unbounded] at scanned
  exact scanned

private theorem scans_unbounded_one (store : Store) {isMatch : String → Bool}
    (decided : ∀ key, filter.meaning (store.rowOf (request.spaceIn store) key) = .ok (isMatch key))
    (filled : ∀ key, isMatch key = true →
      (store.rowOf (request.spaceIn store) key).isEmpty = false) :
    Scans store request .one (.ok (((store.listOf (request.spaceIn store)).filter isMatch).map
      (store.rowOf (request.spaceIn store))).head?) := by
  have scanned := scan_unordered store (request.spaceIn store) .one filtered plain decided
    (Query.singleOrder_of_none unordered)
  have rows : ∀ row ∈ (Window.pick ⟨0, none⟩ true 0
      ((store.listOf (request.spaceIn store)).filter isMatch)).map
        (store.rowOf (request.spaceIn store)), row.isEmpty = false := by
    intro row member
    obtain ⟨key, picked, rfl⟩ := List.mem_map.1 member
    exact filled key (List.mem_filter.1 (Window.mem_of_mem_pick _ picked)).2
  rw [Query.window_unbounded unskipped unlimited, decide_eq_true rfl,
    Query.Kind.answerOfReply_one store _ rows, Window.map_pick,
    Window.head?_pick_unbounded] at scanned
  exact scanned

end Unbounded

/-- Without an order and a window, lookup and scan find the same rows in some order: all of them,
their number, their fields, and a first one if there is any. -/
theorem lookup_perm_scan_unordered (single : request.table.primaryKey = [field])
    (reached : Store.Reached request.table field store removed)
    (filtered : request.query.filter = some filter)
    (named : Lookup.candidates filter request.table = .ok (some keys))
    (keyed : ∀ literal ∈ filter.keyLiterals, literal.isKeyed = true)
    (unambiguous : Unambiguous (filter.keyLiterals.map Literal.text ++
      store.keyTexts (request.spaceIn store) field))
    (unordered : request.query.order = []) (unskipped : request.query.offset = none)
    (unlimited : request.query.limit = none) :
    ∃ found matched : List Row, found.Perm matched ∧
      Looks store request keys .all (.ok found) ∧ Scans store request .all (.ok matched) ∧
      Looks store request keys .count (.ok found.length) ∧
      Scans store request .count (.ok found.length) ∧
      (∀ name, (found.map (·.find? name)).Perm (matched.map (·.find? name)) ∧
        Looks store request keys (.column name) (.ok (found.map (·.find? name))) ∧
        Scans store request (.column name) (.ok (matched.map (·.find? name)))) ∧
      ∃ first other : Option Row, first.isSome = other.isSome ∧
        (∀ row ∈ first, row ∈ found) ∧ (∀ row ∈ other, row ∈ matched) ∧
        Looks store request keys .one (.ok first) ∧ Scans store request .one (.ok other) := by
  have names := Filter.namesBy_of_candidates single named keyed
  have same := Store.perm_found_matching (reached.consistent single) names keyed unambiguous
  rw [Store.matchingKeys] at same
  have perm := same.map (store.rowOf (request.spaceIn store))
  have decided := holdsText_literals store (request.spaceIn store) names
  have counted := scans_unbounded request unordered unskipped unlimited filtered names.plain store
    decided .count nofun
  rw [Query.Kind.answerOfReply_count, ← perm.length_eq] at counted
  have looked := Lookup.run_count store (request.spaceIn store) keys
    (Query.singleOrder_of_none unordered)
  rw [← List.length_map (store.rowOf (request.spaceIn store))] at looked
  have lookedUp := looks_unbounded request keys unordered unskipped unlimited store
  refine ⟨_, _, perm, Query.Kind.answerOf_all _ ▸ lookedUp .all, ?_, looked, counted,
    fun name => ⟨perm.map _, Query.Kind.answerOf_column name _ ▸ lookedUp (.column name), ?_⟩,
    _, _, ?_, fun row => List.mem_of_mem_head?, fun row => List.mem_of_mem_head?,
    Query.Kind.answerOf_one _ ▸ lookedUp .one,
    scans_unbounded_one request unordered unskipped unlimited filtered names.plain store decided
      fun _ => isEmpty_of_holdsText⟩
  · have rows := scans_unbounded request unordered unskipped unlimited filtered names.plain store
      decided .all nofun
    rw [Query.Kind.answerOfReply_all] at rows
    exact rows
  · have fields := scans_unbounded request unordered unskipped unlimited filtered names.plain store
      decided (.column name) nofun
    rw [Query.Kind.answerOfReply_column] at fields
    exact fields
  · have heads (rows : List Row) : rows.head?.isSome = !rows.isEmpty := by cases rows <;> rfl
    rw [heads, heads, perm.isEmpty_eq]

def inAnyOrder : TableQuery where
  table := people
  query := { filter := some chosen }

theorem looks_inAnyOrder :
    Looks peopleStore inAnyOrder chosenKeys .all (.ok [personRow "3" "20", personRow "1" "30"]) ∧
      Scans peopleStore inAnyOrder .all (.ok [personRow "1" "30", personRow "3" "20"]) ∧
      [personRow "3" "20", personRow "1" "30"].Perm [personRow "1" "30", personRow "3" "20"] := by
  obtain ⟨removed, reached⟩ := reached_peopleStore
  obtain ⟨found, matched, same, looked, scanned, -⟩ := lookup_perm_scan_unordered inAnyOrder
    chosenKeys rfl reached rfl rfl (by decide) unambiguous_people rfl rfl rfl
  have given : (Lookup.run Store.executor (inAnyOrder.spaceIn peopleStore) inAnyOrder.query .all
      chosenKeys).Gives peopleStore (.ok [personRow "3" "20", personRow "1" "30"]) := by
    decide +kernel
  have gathered : (inAnyOrder.scan Store.executor (inAnyOrder.spaceIn peopleStore) .all).Gives
      peopleStore (.ok [personRow "1" "30", personRow "3" "20"]) := by decide +kernel
  have first : found = [personRow "3" "20", personRow "1" "30"] :=
    Except.ok.inj (looked.unique given)
  have second : matched = [personRow "1" "30", personRow "3" "20"] :=
    Except.ok.inj (scanned.unique gathered)
  rw [first] at looked same
  rw [second] at scanned same
  exact ⟨looked, scanned, same⟩

end Agreement
end Rowscan
