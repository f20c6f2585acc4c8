import Rowscan.Proofs.InsertionOrder
import Rowscan.Proofs.WholeDoubles

/-!
Which keys a counter gives. A key field without a value gets the number after its counter, and a
number that is given as a key pushes the counter. The counter never falls, and it stays at or above
every number given as long as it is below 2^53 (`Store.Numbered`). Beyond, the push goes by the
double nearest to the number, and the counter may stop just below it; so a number that the counter
gives is free unless it was given as a key before (`mem_listOf_numbered_iff`).
-/
namespace Rowscan

/-! ## Numbers as keys -/

private theorem toString_int_inj {first second : Int64} :
    toString first.toInt = toString second.toInt ↔ first = second := by
  constructor
  · intro same
    have numerals := congrArg (fun text => Numeral.read? text.toList) same
    simp only [Numeral.read?_toString, Option.some.injEq] at numerals
    have sign := congrArg Numeral.negative numerals
    have digits := congrArg Numeral.coefficient numerals
    rw [Numeral.coefficient_ofInt, Numeral.coefficient_ofInt] at digits
    simp only [Numeral.ofInt, decide_eq_decide] at sign
    exact Int64.toInt_inj.1 (by omega)
  · rintro rfl
    rfl

/-- The number that is given as a key. -/
def givenNumber? (field : String) (attributes : List (String × Literal)) : Option Int64 :=
  match (FieldMap.ofList attributes).find? field with
  | some (.int number) => some number
  | _ => none

/-- An insert gives a number as a key, or none, so that the counter numbers the row. -/
def GivesNumber (field : String) (attributes : List (String × Literal)) : Prop :=
  ∀ value, (FieldMap.ofList attributes).find? field = some value →
    value = .null ∨ ∃ number, value = .int number

namespace Write

variable {table : Table} {field : String} {write : Write}

/-- The number that a write has as a key. -/
def number (field : String) (write : Write) : Int64 :=
  (givenNumber? field write.attributes).getD (write.next field)

private theorem given?_of_givesNumber (gives : GivesNumber field write.attributes) :
    write.given? field = (givenNumber? field write.attributes).map .int := by
  rw [given?, ← FieldMap.find?_ofList, givenNumber?]
  cases found : (FieldMap.ofList write.attributes).find? field with
  | none => rfl
  | some value =>
    rcases gives value found with rfl | ⟨number, rfl⟩
    · rfl
    · rfl

/-- A single key field that is a number is written as the key. -/
theorem key_of_givesNumber (single : table.primaryKey = [field])
    (gives : GivesNumber field write.attributes) :
    write.key table = toString (write.number field).toInt := by
  have filled : write.value? table field = some (.int (write.number field)) := by
    rw [value?, given?_of_givesNumber gives, single, if_pos List.mem_cons_self, number]
    cases givenNumber? field write.attributes <;> rfl
  rw [key, single, List.map_singleton, filled]
  rfl

end Write

/-! ## The counter -/

namespace Store

/-- Where the counter of a key field stands. -/
def counterOf (table : Table) (store : Store) (field : String) : Int64 :=
  (store.counters.find? ((table.keySpace store.isClustered).counterKey field)).getD 0

/-- A number pushes a counter onward, as far as itself or beyond 2^53. -/
theorem pushCounter_int (counters : FieldMap Int64) (counterKey : String) (number : Int64)
    (start : 0 ≤ ((counters.find? counterKey).getD 0).toInt) :
    let before := (counters.find? counterKey).getD 0
    let after := ((pushCounter counters counterKey (.int number)).find? counterKey).getD 0
    before.toInt ≤ after.toInt ∧ (number.toInt ≤ after.toInt ∨ 2 ^ 53 ≤ after.toInt) := by
  intro before after
  obtain ⟨low, counted⟩ := Int.eq_ofNat_of_zero_le start
  have counterBound := ((counters.find? counterKey).getD 0).toInt_lt
  have numberBound := number.toInt_lt
  have lowBounded : low < 2 ^ 64 := by omega
  have moves : after = if (Double.ofInt number.toInt).isWhole &&
      (Double.ofInt before.toInt).less (.ofInt number.toInt) then
        (Double.ofInt number.toInt).toInt64 else before := by
    have text : toNumber? (Literal.int number).text = some (.ofInt number.toInt) :=
      toNumber?_int number
    simp only [after, before, pushCounter, text]
    split
    · rw [FieldMap.find?_insert, if_pos rfl, Option.getD_some]
    · rfl
  have counts : before.toInt = low := counted
  rw [counts] at moves ⊢
  by_cases negative : number.toInt < 0
  · rw [Double.less_ofInt_negative lowBounded negative, Bool.and_false,
      if_neg Bool.false_ne_true] at moves
    rw [moves, counts]
    omega
  · obtain ⟨high, given⟩ := Int.eq_ofNat_of_zero_le (Int.not_lt.1 negative)
    have highBounded : high < 2 ^ 64 := by omega
    rw [given] at moves ⊢
    rw [Double.isWhole_ofInt highBounded, Double.less_ofInt lowBounded highBounded,
      Bool.true_and] at moves
    have small := Double.nearest_of_le (n := high)
    have large := Double.two_pow_le_nearest (n := high)
    by_cases pushed : Double.nearest low < Double.nearest high
    · rw [decide_eq_true pushed, if_pos rfl] at moves
      have reached := Double.le_nearest_of_lt pushed
      rw [moves, Double.toInt64_ofInt highBounded]
      omega
    · rw [decide_eq_false pushed, if_neg Bool.false_ne_true] at moves
      have itself := Double.nearest_of_le (n := low)
      rw [moves, counts]
      omega

variable {store : Store} {table : Table} {field : String} {attributes : List (String × Literal)}

private theorem counterOf_insert (single : table.primaryKey = [field]) :
    (store.insert table attributes).2.counterOf table field =
      ((settleKeyField (table.keySpace store.isClustered) (.ofList attributes, store.counters)
        field).2.find? ((table.keySpace store.isClustered).counterKey field)).getD 0 := by
  have settled : (store.insert table attributes).2.counters = (table.primaryKey.foldl
      (settleKeyField (table.keySpace store.isClustered))
      (.ofList attributes, store.counters)).2 := rfl
  rw [counterOf, insert_isClustered, settled, single]
  rfl

/-- Giving a number moves the counter to it. -/
theorem counterOf_insert_numbered (single : table.primaryKey = [field])
    (missing : (((FieldMap.ofList attributes).find? field).getD .null).isNull = true) :
    (store.insert table attributes).2.counterOf table field = store.nextNumber table field := by
  rw [counterOf_insert single, settleKeyField]
  simp only [missing, if_true]
  rw [FieldMap.find?_insert, if_pos rfl, Option.getD_some]
  rfl

/-- A number that is given pushes the counter. -/
theorem counterOf_insert_given (single : table.primaryKey = [field]) {number : Int64}
    (given : givenNumber? field attributes = some number) :
    (store.insert table attributes).2.counterOf table field =
      ((pushCounter store.counters ((table.keySpace store.isClustered).counterKey field)
        (.int number)).find? ((table.keySpace store.isClustered).counterKey field)).getD 0 := by
  have found : (FieldMap.ofList attributes).find? field = some (.int number) := by
    rw [givenNumber?] at given
    split at given
    next other found =>
      cases given
      exact found
    next => cases given
  rw [counterOf_insert single, settleKeyField]
  simp only [found, Option.getD_some, Literal.isNull, Bool.false_eq_true, if_false]

private theorem nextNumber_toInt (room : (store.counterOf table field).toInt < 2 ^ 63 - 1) :
    (store.nextNumber table field).toInt = (store.counterOf table field).toInt + 1 := by
  have above := (store.counterOf table field).le_toInt
  have sum : store.nextNumber table field = store.counterOf table field + 1 := rfl
  rw [sum, Int64.toInt_add]
  have one : (1 : Int64).toInt = 1 := rfl
  rw [one, Int.bmod_eq_of_le (by omega) (by omega)]

/-- The counter is at or above every number that it gave, and above every number that it was pushed
to, unless it has passed 2^53. -/
structure Numbered (table : Table) (field : String) (store : Store) (writes : List Write) :
    Prop where
  start : 0 ≤ (store.counterOf table field).toInt
  passed : ∀ write ∈ writes, (write.number field).toInt ≤ (store.counterOf table field).toInt ∨
    givenNumber? field write.attributes = some (write.number field) ∧
      2 ^ 53 ≤ (store.counterOf table field).toInt

variable {before : List Write}

private theorem numbered_empty (table : Table) (field : String) (isClustered isNewer : Bool) :
    Numbered table field (.empty isClustered isNewer) [] where
  start := Int.le_refl 0
  passed := nofun

/-- A counter that does not fall keeps what it has passed. -/
theorem Numbered.onward {after : Store} (numbered : Numbered table field store before)
    (onward : (store.counterOf table field).toInt ≤ (after.counterOf table field).toInt)
    {write : Write} (last : (write.number field).toInt ≤ (after.counterOf table field).toInt ∨
      givenNumber? field write.attributes = some (write.number field) ∧
        2 ^ 53 ≤ (after.counterOf table field).toInt) :
    Numbered table field after (before ++ [write]) where
  start := numbered.start.trans onward
  passed other member := by
    rcases List.mem_append.1 member with earlier | new
    · rcases numbered.passed other earlier with reached | ⟨given, far⟩
      · exact .inl (reached.trans onward)
      · exact .inr ⟨given, far.trans onward⟩
    · rw [List.mem_singleton.1 new]
      exact last

private theorem isNull_of_givenNumber? (gives : GivesNumber field attributes)
    (none : givenNumber? field attributes = none) :
    (((FieldMap.ofList attributes).find? field).getD .null).isNull = true := by
  rw [givenNumber?] at none
  cases found : (FieldMap.ofList attributes).find? field with
  | none => rfl
  | some value =>
    rcases gives value found with rfl | ⟨number, rfl⟩
    · rfl
    · rw [found] at none
      cases none

theorem Numbered.insert (single : table.primaryKey = [field])
    (numbered : Numbered table field store before) (gives : GivesNumber field attributes)
    (room : (store.counterOf table field).toInt < 2 ^ 63 - 1) :
    Numbered table field (store.insert table attributes).2
      (before ++ [store.writeOf table attributes]) := by
  cases given : givenNumber? field attributes with
  | none =>
    have counter : (store.insert table attributes).2.counterOf table field =
        store.nextNumber table field :=
      counterOf_insert_numbered single (isNull_of_givenNumber? gives given)
    have next := nextNumber_toInt room
    have number : (store.writeOf table attributes).number field = store.nextNumber table field := by
      rw [Write.number, writeOf, given]
      rfl
    refine numbered.onward ?_ (.inl ?_)
    · rw [counter]
      omega
    · rw [counter, number]
  | some given' =>
    obtain ⟨onward, reached⟩ := pushCounter_int store.counters
      ((table.keySpace store.isClustered).counterKey field) given' numbered.start
    have number : (store.writeOf table attributes).number field = given' := by
      rw [Write.number, writeOf, given]
      rfl
    rw [← counterOf_insert_given single given] at onward reached
    refine numbered.onward onward ?_
    rw [number]
    exact reached.imp_right fun far => ⟨given, far⟩

theorem Numbered.insertAll (single : table.primaryKey = [field])
    (numbered : Numbered table field store before) {history : List (List (String × Literal))}
    (gives : ∀ attributes ∈ history, GivesNumber field attributes)
    (room : ∀ sooner, sooner <+: history →
      ((store.insertAll table sooner).counterOf table field).toInt < 2 ^ 63 - 1) :
    Numbered table field (store.insertAll table history) (before ++ store.writes table history) := by
  induction history generalizing store before with
  | nil =>
    rw [writes, List.append_nil]
    exact numbered
  | cons attributes rest ih =>
    have first := numbered.insert single (gives attributes List.mem_cons_self)
      (room [] List.nil_prefix)
    have later := ih first (fun other member => gives other (List.mem_cons_of_mem _ member))
      fun sooner part => room (attributes :: sooner) (List.cons_prefix_cons.2 ⟨rfl, part⟩)
    rw [List.append_assoc] at later
    exact later

private theorem map_attributes_writes (store : Store) (table : Table)
    (history : List (List (String × Literal))) :
    (store.writes table history).map (·.attributes) = history := by
  induction history generalizing store with
  | nil => rfl
  | cons attributes rest ih => rw [writes, List.map_cons, ih, writeOf]

/-! ## Fresh keys -/

/-- A row that the counter numbers has the number after the counter as its key. -/
theorem insert_key_numbered (single : table.primaryKey = [field])
    (missing : (((FieldMap.ofList attributes).find? field).getD .null).isNull = true) :
    (store.insert table attributes).1 = toString (store.nextNumber table field).toInt := by
  rw [insert_key, keyOf, settledOf_single single, single, settleKeyField_numbered missing,
    List.map_singleton, FieldMap.find?_insert, if_pos rfl]
  rfl

/-- A number is listed if it is the key of a write. -/
theorem ListsWrites.mem_listOf_iff (lists : ListsWrites store table before)
    (single : table.primaryKey = [field])
    (gives : ∀ write ∈ before, GivesNumber field write.attributes) (number : Int64) :
    toString number.toInt ∈ store.listOf (table.keySpace store.isClustered) ↔
      ∃ write ∈ before, write.number field = number := by
  rw [lists.keys, List.mem_eraseDups, List.mem_map]
  refine exists_congr fun write => and_congr_right fun member => ?_
  rw [Write.key_of_givesNumber single (gives write member), toString_int_inj]

/-- A key that is not listed is put beside the rows that are there. -/
theorem ListsWrites.find?_insert_fresh (lists : ListsWrites store table before)
    (fresh : (store.insert table attributes).1 ∉ store.listOf (table.keySpace store.isClustered))
    {place : String} (stored : store.rows.contains place = true) :
    (store.insert table attributes).2.rows.find? place = store.rows.find? place := by
  rw [insert_rows, FieldMap.find?_insert, if_neg]
  rintro rfl
  have wrote := (lists.contains_iff _).1 stored
  rw [lists.keys] at fresh
  exact fresh (List.mem_eraseDups.2 wrote)

/-- The next number is that of an earlier write only if it was given and is beyond 2^53. -/
theorem Numbered.given_of_next (numbered : Numbered table field store before)
    (room : (store.counterOf table field).toInt < 2 ^ 63 - 1) {write : Write}
    (member : write ∈ before) (same : write.number field = store.nextNumber table field) :
    givenNumber? field write.attributes = some (store.nextNumber table field) ∧
      2 ^ 53 < (store.nextNumber table field).toInt := by
  have next := nextNumber_toInt room
  obtain reached | ⟨gave, far⟩ := numbered.passed write member
  · rw [same] at reached
    omega
  · exact ⟨same ▸ gave, by omega⟩

end Store

/-- Which keys the counter gives. To a table with one key field numbers are given as keys, or the
counter numbers the rows, and it never runs out. A row that the counter numbers next has the number
after the counter as its key. That key is new, and the row replaces no other, unless the number was
given as a key before; and up to 2^53 it never was. -/
theorem mem_listOf_numbered_iff {table : Table} {field : String}
    (single : table.primaryKey = [field]) (isClustered isNewer : Bool)
    {history : List (List (String × Literal))}
    (gives : ∀ attributes ∈ history, GivesNumber field attributes)
    (room : ∀ sooner, sooner <+: history →
      (((Store.empty isClustered isNewer).insertAll table sooner).counterOf table field).toInt <
        2 ^ 63 - 1)
    {attributes : List (String × Literal)}
    (missing : (((FieldMap.ofList attributes).find? field).getD .null).isNull = true) :
    let store := (Store.empty isClustered isNewer).insertAll table history
    let list := store.listOf (table.keySpace store.isClustered)
    let number := store.nextNumber table field
    let inserted := store.insert table attributes
    inserted.1 = toString number.toInt ∧
      (inserted.1 ∈ list ↔ ∃ earlier ∈ history, givenNumber? field earlier = some number) ∧
      (inserted.1 ∉ list → ∀ place, store.rows.contains place = true →
        inserted.2.rows.find? place = store.rows.find? place) ∧
      (number.toInt ≤ 2 ^ 53 → inserted.1 ∉ list) := by
  intro store list number inserted
  let writes := (Store.empty isClustered isNewer).writes table history
  have numbered : Store.Numbered table field store writes :=
    (Store.numbered_empty table field isClustered isNewer).insertAll single gives room
  have lists : store.ListsWrites table writes :=
    (Store.listsWrites_empty table isClustered isNewer).insertAll history
  have wrote : writes.map (·.attributes) = history :=
    Store.map_attributes_writes (.empty isClustered isNewer) table history
  have key : inserted.1 = toString number.toInt := Store.insert_key_numbered single missing
  have listed : inserted.1 ∈ list ↔ ∃ write ∈ writes, write.number field = number := by
    rw [key]
    exact lists.mem_listOf_iff single
      (fun write member => gives _ (wrote ▸ List.mem_map_of_mem member)) number
  have given : ∀ write ∈ writes, write.number field = number →
      givenNumber? field write.attributes = some number ∧ 2 ^ 53 < number.toInt :=
    fun write => numbered.given_of_next (room history List.prefix_rfl)
  refine ⟨key, ?_, fun fresh place => lists.find?_insert_fresh fresh, fun small member => ?_⟩
  · rw [listed, ← wrote]
    constructor
    · rintro ⟨write, member, same⟩
      exact ⟨write.attributes, List.mem_map_of_mem member, (given write member same).1⟩
    · rintro ⟨earlier, member, gave⟩
      obtain ⟨write, among, rfl⟩ := List.mem_map.1 member
      exact ⟨write, among, by rw [Write.number, gave, Option.getD_some]⟩
  · obtain ⟨write, among, same⟩ := listed.1 member
    exact absurd small (Int.not_le.2 (given write among same).2)

/-- A key that no double is pushes the counter to just below it. The next row is numbered with that
key, and replaces the first. -/
theorem mem_listOf_numbered_rounded :
    let people : Table := ⟨"t", ["id"]⟩
    let ada : List (String × Literal) := [("id", .int 9007199254740993), ("name", .string "ada")]
    let bob : List (String × Literal) := [("name", .string "bob")]
    let store := (Store.empty false false).insertAll people [ada]
    let inserted := store.insert people bob
    inserted.1 = "9007199254740993" ∧ inserted.1 ∈ store.listOf ⟨"t"⟩ ∧
      (store.rowOf ⟨"t"⟩ inserted.1).find? "name" = some "ada" ∧
      (inserted.2.rowOf ⟨"t"⟩ inserted.1).find? "name" = some "bob" := by
  intro people ada bob store inserted
  have gives : ∀ attributes ∈ [ada], GivesNumber "id" attributes := by
    intro attributes member value found
    rw [List.mem_singleton.1 member] at found
    cases found
    exact .inr ⟨_, rfl⟩
  have room : ∀ sooner, sooner <+: [ada] →
      (((Store.empty false false).insertAll people sooner).counterOf people "id").toInt <
        2 ^ 63 - 1 := by
    intro sooner part
    have short : sooner = [] ∨ sooner = [ada] := by
      rcases List.prefix_cons_iff.1 part with none | ⟨rest, all, tail⟩
      · exact .inl none
      · rw [List.prefix_nil.1 tail] at all
        exact .inr all
    rcases short with rfl | rfl <;> decide +kernel
  have number : store.nextNumber people "id" = 9007199254740993 := by decide +kernel
  have missing : (((FieldMap.ofList bob).find? "id").getD .null).isNull = true := rfl
  obtain ⟨key, listed, -, -⟩ := mem_listOf_numbered_iff rfl false false gives room missing
  refine ⟨?_, listed.2 ⟨ada, List.mem_cons_self, ?_⟩, ?_, ?_⟩
  · rw [key, number]
    decide
  · rw [number]
    decide +kernel
  · decide +kernel
  · decide +kernel

end Rowscan
