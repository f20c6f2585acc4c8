import Mathlib.Data.List.Forall2
import Rowscan.Filter.Json
import Rowscan.Proofs.FieldMaps
import Rowscan.Proofs.Matches
import Rowscan.Proofs.Numerals
import Rowscan.Proofs.WholeDoubles

/-!
The JSON form of filters, from both sides. A filter that JSON can express is written as an object or
as an operator with its operands (`Filter.toJson`); operator names may be in any case of letters
(`Filter.Written`). Reading any of these forms gives the filter back, and whatever is read from a
JSON value is a filter that JSON can express, and reads back from its own form
(`Filter.ofJson_written`).
-/
namespace Rowscan

/-! ## JSON values as they come -/

namespace Json

mutual

/-- What every JSON value is: its whole numbers have 64 bits, signed or not, its floats are finite,
and the members of an object have names of their own and are in the order of these. -/
def IsProper : Json → Prop
  | .integer value => -2 ^ 63 ≤ value ∧ value < 2 ^ 64
  | .float value => value.isFinite = true
  | .array items => AreProper items
  | .object members => members.Pairwise (·.1 < ·.1) ∧ MembersAreProper members
  | _ => True
termination_by structural value => value

/-- Each of several values is proper. -/
def AreProper : List Json → Prop
  | [] => True
  | item :: rest => IsProper item ∧ AreProper rest
termination_by structural items => items

/-- The value of each member is proper. -/
def MembersAreProper : List (String × Json) → Prop
  | [] => True
  | (_, value) :: rest => IsProper value ∧ MembersAreProper rest
termination_by structural members => members

end

theorem areProper_iff {items : List Json} : AreProper items ↔ ∀ item ∈ items, item.IsProper := by
  induction items with
  | nil => simp [AreProper]
  | cons item rest ih => simp [AreProper, ih]

theorem membersAreProper_iff {members : List (String × Json)} :
    MembersAreProper members ↔ ∀ member ∈ members, member.2.IsProper := by
  induction members with
  | nil => simp [MembersAreProper]
  | cons member rest ih =>
    obtain ⟨name, value⟩ := member
    simp [MembersAreProper, ih]

end Json

/-! ## Reading several values -/

section Several

variable {α β : Type} {read : α → Except Failure β}

/-- Reading several values gives those of which each one is read. -/
theorem mapM_eq_ok_iff {items : List α} {values : List β} :
    items.mapM read = .ok values ↔
      List.Forall₂ (fun item value => read item = .ok value) items values := by
  induction items generalizing values with
  | nil =>
    rw [List.mapM_nil, List.forall₂_nil_left_iff]
    exact ⟨fun same => (Except.ok.inj same).symm, fun same => same ▸ rfl⟩
  | cons item rest ih =>
    rw [List.mapM_cons]
    constructor
    · intro all
      obtain ⟨value, first, others⟩ := of_bind_ok all
      obtain ⟨more, later, same⟩ := of_bind_ok others
      cases same
      exact .cons first (ih.1 later)
    · intro each
      cases each with
      | cons first later =>
        rw [first, ih.2 later]
        rfl

/-- What was written value by value is read value by value. -/
theorem mapM_map_eq_ok {write : β → α} {values : List β}
    (reads : ∀ value ∈ values, read (write value) = .ok value) :
    (values.map write).mapM read = .ok values := by
  rw [mapM_eq_ok_iff, List.forall₂_map_left_iff, List.forall₂_same]
  exact reads

/-- Whatever is read comes from one of the items. -/
theorem exists_of_mapM {items : List α} {values : List β} (all : items.mapM read = .ok values)
    {value : β} (member : value ∈ values) : ∃ item ∈ items, read item = .ok value := by
  obtain ⟨index, within, rfl⟩ := List.getElem_of_mem member
  have each := mapM_eq_ok_iff.1 all
  have among : index < items.length := each.length_eq ▸ within
  exact ⟨items[index], List.getElem_mem among, each.get among within⟩

end Several

/-! ## Operator names -/

namespace Text

private theorem lowercaseAfter_ascii {chars : List Char} (ascii : ∀ c ∈ chars, c.toNat < 0x80)
    (before : List Char) : lowercaseAfter before chars = chars.map Char.toLower := by
  induction chars generalizing before with
  | nil => rfl
  | cons c rest ih =>
    have small : c.toNat < 0x80 := ascii c List.mem_cons_self
    have plain : c.toNat ≠ 0x3A3 := by omega
    rw [lowercaseAfter, if_neg plain, lowerChar, if_pos small,
      ih fun other later => ascii other (List.mem_cons_of_mem _ later)]
    rfl

private theorem toList_toLower (text : String) :
    text.toLower.toList = text.toList.map Char.toLower :=
  String.toList_map

private theorem toLower_eq {head name : String}
    (same : head.toList.map Char.toLower = name.toList) :
    head.toLower = name := by
  rw [← String.toList_inj, toList_toLower, same]

/-- All characters of a text are ASCII. -/
def isAscii (text : String) : Bool := text.toList.all (·.toNat < 0x80)

/-- A word of ASCII letters is the same in lower case, whichever of its letters were capitals. -/
theorem lowercase_of_toLower {head name : String} (ascii : isAscii name = true)
    (same : head.toLower = name) : lowercase head = name := by
  have lower : head.toList.map Char.toLower = name.toList := by
    rw [← same, toList_toLower]
  have small : ∀ c ∈ head.toList, c.toNat < 0x80 := by
    intro c member
    have among : c.toLower ∈ name.toList := lower ▸ List.mem_map_of_mem member
    exact toNat_lt_of_toLower (of_decide_eq_true (List.all_eq_true.1 ascii _ among))
  rw [lowercase, lowercaseAfter_ascii small, lower, String.ofList_toList]

end Text

/-! ## Written forms -/

/-- A literal as a JSON value. -/
def Literal.toJson : Literal → Json
  | .null => .null
  | .bool value => .bool value
  | .int value => .integer value.toInt
  | .float value => .float value
  | .string text => .string text
  | .raw expression => .string expression

/-- Whether the literal is data: not a raw expression, and no float that is not finite. JSON has
values for data alone. -/
def Literal.isData : Literal → Bool
  | .raw _ => false
  | .float value => value.isFinite
  | _ => true

/-- An item as a JSON value; a tuple is an object. -/
def SetItem.toJson : SetItem → Json
  | .value literal => literal.toJson
  | .tuple fields => .object (fields.entries.map fun entry => (entry.1, entry.2.toJson))

/-- Whether the item is made of data. -/
def SetItem.isData : SetItem → Bool
  | .value literal => literal.isData
  | .tuple fields => fields.entries.all (·.2.isData)

/-- The right side of a hash entry as a JSON value; a list of values is an array. -/
def HashValue.toJson : HashValue → Json
  | .value literal => literal.toJson
  | .list items => .array (items.map SetItem.toJson)

/-- Whether the right side of a hash entry is made of data. -/
def HashValue.isData : HashValue → Bool
  | .value literal => literal.isData
  | .list items => items.all SetItem.isData

namespace Filter

/-- A hash condition as an object. -/
def hashToJson (entries : List (String × HashValue)) : Json :=
  .object (entries.map fun entry => (entry.1, entry.2.toJson))

/-- The name of a range operator. -/
def betweenName (negated : Bool) : String := if negated then "not between" else "between"

/-- The name of a membership operator. -/
def membershipName (negated : Bool) : String := if negated then "not in" else "in"

/-- The columns and the items of a membership condition, as lists. -/
def membershipOperands (columns : List String) (items : List SetItem) : List Json :=
  [.array (columns.map .string), .array (items.map SetItem.toJson)]

mutual

/-- A filter as a JSON value: a hash condition as an object, an operator as an array of its name
and its operands, and a raw condition, which can only be an operand, as its text. -/
def toJson : Filter → Json
  | .hash entries => hashToJson entries
  | .negation filter => .array [.string "not", toJson filter]
  | .conjunction filters => .array (.string "and" :: toJsonEach filters)
  | .disjunction filters => .array (.string "or" :: toJsonEach filters)
  | .between column low high negated =>
    .array [.string (betweenName negated), .string column, low.toJson, high.toJson]
  | .membership columns items negated =>
    .array (.string (membershipName negated) :: membershipOperands columns items)
  | .compare op column value => .array [.string op.symbol, .string column, value.toJson]
  | .like op column pattern => .array [.string op.name, .string column, pattern.toJson]
  | .raw condition => .string condition
termination_by structural filter => filter

/-- Each of several filters as a JSON value. -/
def toJsonEach : List Filter → List Json
  | [] => []
  | filter :: rest => toJson filter :: toJsonEach rest
termination_by structural filters => filters

end

mutual

/-- What JSON can express as an operand: the columns of a hash condition are apart and in order,
values are data, and the bounds of a range, the value of a comparison and a pattern are not null. -/
def HasForm : Filter → Prop
  | .hash entries => entries.Pairwise (·.1 < ·.1) ∧ ∀ entry ∈ entries, entry.2.isData = true
  | .negation filter => HasForm filter
  | .conjunction filters => EachHasForm filters
  | .disjunction filters => EachHasForm filters
  | .between _ low high _ =>
    (low.isData = true ∧ low.isNull = false) ∧ high.isData = true ∧ high.isNull = false
  | .membership _ items _ => ∀ item ∈ items, item.isData = true
  | .compare _ _ value => value.isData = true ∧ value.isNull = false
  | .like _ _ pattern => pattern.isData = true ∧ pattern.isNull = false
  | .raw _ => True
termination_by structural filter => filter

/-- Each of several filters can be an operand. -/
def EachHasForm : List Filter → Prop
  | [] => True
  | filter :: rest => HasForm filter ∧ EachHasForm rest
termination_by structural filters => filters

end

/-- Whether a filter is a raw condition. -/
def isRaw : Filter → Bool
  | .raw _ => true
  | _ => false

/-- What JSON can express as a whole filter: a raw condition can only be an operand. -/
def IsExpressible (filter : Filter) : Prop := filter.HasForm ∧ filter.isRaw = false

mutual

/-- The JSON values that a filter can be written as: its form, with the letters of each operator
name in any case. -/
inductive Written : Filter → Json → Prop
  | hash (entries : List (String × HashValue)) : Written (.hash entries) (hashToJson entries)
  | negation {filter : Filter} {head : String} {operand : Json} (named : head.toLower = "not")
      (inner : Written filter operand) : Written (.negation filter) (.array [.string head, operand])
  | conjunction {filters : List Filter} {head : String} {operands : List Json}
      (named : head.toLower = "and") (each : WrittenEach filters operands) :
      Written (.conjunction filters) (.array (.string head :: operands))
  | disjunction {filters : List Filter} {head : String} {operands : List Json}
      (named : head.toLower = "or") (each : WrittenEach filters operands) :
      Written (.disjunction filters) (.array (.string head :: operands))
  | between {head : String} {negated : Bool} (named : head.toLower = betweenName negated)
      (column : String) (low high : Literal) : Written (.between column low high negated)
        (.array [.string head, .string column, low.toJson, high.toJson])
  | membership {head : String} {negated : Bool} (named : head.toLower = membershipName negated)
      (columns : List String) (items : List SetItem) : Written (.membership columns items negated)
        (.array (.string head :: membershipOperands columns items))
  | compare (op : CompareOp) (column : String) (value : Literal) :
      Written (.compare op column value) (.array [.string op.symbol, .string column, value.toJson])
  | like {head : String} {op : LikeOp} (named : head.toLower = op.name) (column : String)
      (pattern : Literal) :
      Written (.like op column pattern) (.array [.string head, .string column, pattern.toJson])
  | raw (condition : String) : Written (.raw condition) (.string condition)

/-- Filters and the values that they are written as, in order. -/
inductive WrittenEach : List Filter → List Json → Prop
  | nil : WrittenEach [] []
  | cons {filter : Filter} {filters : List Filter} {operand : Json} {operands : List Json}
      (first : Written filter operand) (rest : WrittenEach filters operands) :
      WrittenEach (filter :: filters) (operand :: operands)

end

end Filter

/-! ## Literals and items -/

section Values

open Rowscan.Filter

theorem Literal.isNull_toJson (literal : Literal) : literal.toJson.isNull = literal.isNull := by
  cases literal <;> rfl

theorem Literal.ofJson?_toJson {literal : Literal} (has : literal.isData = true) :
    ofJson? literal.toJson = some literal := by
  cases literal with
  | int value => rw [toJson, ofJson?, int64OfInt?_eq_some_iff.2 rfl]
  | raw expression => cases has
  | _ => rfl

theorem Literal.isProper_toJson {literal : Literal} (has : literal.isData = true) :
    literal.toJson.IsProper := by
  cases literal with
  | int value =>
    have below := value.toInt_lt
    exact ⟨value.le_toInt, by omega⟩
  | float value => exact has
  | _ => trivial

theorem Literal.isNull_of_ofJson? {json : Json} {literal : Literal}
    (read : ofJson? json = some literal) : literal.isNull = json.isNull := by
  cases json <;> simp only [ofJson?, Option.some.injEq, reduceCtorEq] at read <;>
    subst read <;> try rfl
  split <;> rfl

theorem Double.isFinite_ofInt {n : Nat} (bounded : n < 2 ^ 64) : (ofInt n).isFinite = true := by
  rw [ofInt_natCast bounded, isFinite]

/-- A whole number beyond the signed range is within the unsigned one, and so its float is. -/
theorem Literal.isData_of_ofJson? {json : Json} {literal : Literal} (proper : json.IsProper)
    (read : ofJson? json = some literal) : literal.isData = true := by
  cases json with
  | integer value =>
    obtain ⟨above, below⟩ := proper
    rw [ofJson?] at read
    obtain rfl := Option.some.inj read
    cases held : int64OfInt? value with
    | some word => rfl
    | none =>
      have least : Int64.minValue.toInt = -2 ^ 63 := rfl
      have greatest : Int64.maxValue.toInt = 2 ^ 63 - 1 := rfl
      have beyond : ¬ (Int64.minValue.toInt ≤ value ∧ value ≤ Int64.maxValue.toInt) := by
        intro within
        rw [int64OfInt?, if_pos within] at held
        cases held
      rw [least, greatest] at beyond
      obtain ⟨n, rfl⟩ := Int.eq_ofNat_of_zero_le (by omega : 0 ≤ value)
      have bounded : n < 2 ^ 64 := by omega
      have finite := Double.isFinite_ofInt bounded
      dsimp only
      rw [isData, finite]
  | float value =>
    cases read
    exact proper
  | array items => cases read
  | object members => cases read
  | _ =>
    cases read
    rfl

theorem literalOfJson_eq_ok_iff {json : Json} {literal : Literal} :
    literalOfJson json = .ok literal ↔ Literal.ofJson? json = some literal := by
  rw [literalOfJson]
  cases Literal.ofJson? json <;> simp

/-- Reading members keeps their names. -/
theorem readMembers_eq_ok_iff {β : Type} {read : Json → Except Failure β}
    {members : List (String × Json)} {entries : List (String × β)} :
    (members.mapM fun (column, value) => do return (column, ← read value)) = .ok entries ↔
      List.Forall₂ (fun member entry => member.1 = entry.1 ∧ read member.2 = .ok entry.2)
        members entries := by
  rw [mapM_eq_ok_iff]
  constructor
  · intro each
    refine each.imp fun member entry one => ?_
    obtain ⟨found, first, same⟩ := of_bind_ok one
    cases same
    exact ⟨rfl, first⟩
  · intro each
    refine each.imp fun member entry one => ?_
    obtain ⟨column, value⟩ := member
    obtain ⟨name, result⟩ := entry
    obtain ⟨rfl, first⟩ := one
    dsimp only at first ⊢
    rw [first]
    rfl

/-- Members that were written one by one are read one by one. -/
theorem readMembers_of_written {β : Type} {read : Json → Except Failure β} {write : β → Json}
    {entries : List (String × β)} (each : ∀ entry ∈ entries, read (write entry.2) = .ok entry.2) :
    ((entries.map fun entry => (entry.1, write entry.2)).mapM fun (column, value) => do
      return (column, ← read value)) = .ok entries := by
  rw [readMembers_eq_ok_iff, List.forall₂_map_left_iff, List.forall₂_same]
  intro entry member
  exact ⟨rfl, each entry member⟩

/-- Members in order are read as entries in order. -/
theorem pairwise_of_readMembers {β : Type} {read : Json → Except Failure β}
    {members : List (String × Json)} {entries : List (String × β)}
    (each : List.Forall₂ (fun member entry => member.1 = entry.1 ∧ read member.2 = .ok entry.2)
      members entries) (sorted : members.Pairwise (·.1 < ·.1)) : entries.Pairwise (·.1 < ·.1) := by
  have names : members.map (·.1) = entries.map (·.1) := by
    induction each with
    | nil => rfl
    | cons first _ ih => rw [List.map_cons, List.map_cons, first.1, ih sorted.of_cons]
  have inOrder : (members.map (·.1)).Pairwise (· < ·) := List.pairwise_map.2 sorted
  rw [names] at inOrder
  exact List.pairwise_map.1 inOrder

/-- What holds of everything that is read of a proper value holds of every entry. -/
theorem isData_of_readMembers {β : Type} {read : Json → Except Failure β} {isData : β → Bool}
    {members : List (String × Json)} {entries : List (String × β)}
    (one : ∀ {json : Json} {value : β}, json.IsProper → read json = .ok value →
      isData value = true) (proper : Json.MembersAreProper members)
    (each : List.Forall₂ (fun member entry => member.1 = entry.1 ∧ read member.2 = .ok entry.2)
      members entries) : ∀ entry ∈ entries, isData entry.2 = true := by
  intro entry member
  obtain ⟨index, within, rfl⟩ := List.getElem_of_mem member
  have among : index < members.length := each.length_eq ▸ within
  exact one (Json.membersAreProper_iff.1 proper _ (List.getElem_mem among))
    (each.get among within).2

private theorem itemOfJson_toJson {item : SetItem} (has : item.isData = true) :
    itemOfJson item.toJson = .ok item := by
  cases item with
  | value literal =>
    have read : literalOfJson literal.toJson = .ok literal :=
      literalOfJson_eq_ok_iff.2 (Literal.ofJson?_toJson has)
    have plain :
        itemOfJson literal.toJson = (do return .value (← literalOfJson literal.toJson)) := by
      cases literal <;> rfl
    rw [SetItem.toJson, plain, read]
    rfl
  | tuple fields =>
    have each : ∀ entry ∈ fields.entries, literalOfJson entry.2.toJson = .ok entry.2 := by
      intro entry member
      exact literalOfJson_eq_ok_iff.2 (Literal.ofJson?_toJson (List.all_eq_true.1 has entry member))
    have read := readMembers_of_written each
    rw [SetItem.toJson, itemOfJson, read]
    exact congrArg (fun fields => Except.ok (SetItem.tuple fields)) fields.ofList_entries

private theorem hashValueOfJson_toJson {value : HashValue} (has : value.isData = true) :
    hashValueOfJson value.toJson = .ok value := by
  cases value with
  | value literal =>
    have read : literalOfJson literal.toJson = .ok literal :=
      literalOfJson_eq_ok_iff.2 (Literal.ofJson?_toJson has)
    have plain : hashValueOfJson literal.toJson =
        (do return .value (← literalOfJson literal.toJson)) := by
      cases literal <;> rfl
    rw [HashValue.toJson, plain, read]
    rfl
  | list items =>
    have each : ∀ item ∈ items, itemOfJson item.toJson = .ok item :=
      fun item member => itemOfJson_toJson (List.all_eq_true.1 has item member)
    rw [HashValue.toJson, hashValueOfJson, mapM_map_eq_ok each]
    rfl

private theorem isData_of_literalOfJson {json : Json} {literal : Literal} (proper : json.IsProper)
    (read : literalOfJson json = .ok literal) : literal.isData = true :=
  Literal.isData_of_ofJson? proper (literalOfJson_eq_ok_iff.1 read)

private theorem isData_of_itemOfJson {json : Json} {item : SetItem} (proper : json.IsProper)
    (read : itemOfJson json = .ok item) : item.isData = true := by
  unfold itemOfJson at read
  split at read
  next members =>
    obtain ⟨sorted, values⟩ := proper
    obtain ⟨entries, found, same⟩ := of_bind_ok read
    cases same
    have each := readMembers_eq_ok_iff.1 found
    rw [SetItem.isData, FieldMap.entries_ofList (pairwise_of_readMembers each sorted),
      List.all_eq_true]
    exact isData_of_readMembers isData_of_literalOfJson values each
  next =>
    obtain ⟨literal, found, same⟩ := of_bind_ok read
    cases same
    exact isData_of_literalOfJson proper found

private theorem isData_of_items {items : List Json} {values : List SetItem}
    (proper : Json.AreProper items) (read : items.mapM itemOfJson = .ok values) :
    ∀ value ∈ values, value.isData = true := by
  intro value member
  obtain ⟨item, among, one⟩ := exists_of_mapM read member
  exact isData_of_itemOfJson (Json.areProper_iff.1 proper item among) one

private theorem isData_of_hashValueOfJson {json : Json} {value : HashValue} (proper : json.IsProper)
    (read : hashValueOfJson json = .ok value) : value.isData = true := by
  unfold hashValueOfJson at read
  split at read
  next items =>
    obtain ⟨values, found, same⟩ := of_bind_ok read
    cases same
    exact List.all_eq_true.2 (isData_of_items proper found)
  next =>
    obtain ⟨literal, found, same⟩ := of_bind_ok read
    cases same
    exact isData_of_literalOfJson proper found

private theorem isProper_hashToJson {β : Type} {write : β → Json} {entries : List (String × β)}
    (sorted : entries.Pairwise (·.1 < ·.1)) (each : ∀ entry ∈ entries, (write entry.2).IsProper) :
    (Json.object (entries.map fun entry => (entry.1, write entry.2))).IsProper := by
  refine ⟨List.pairwise_map.2 sorted, Json.membersAreProper_iff.2 ?_⟩
  intro member among
  obtain ⟨entry, inside, rfl⟩ := List.mem_map.1 among
  exact each entry inside

theorem SetItem.isProper_toJson {item : SetItem} (has : item.isData = true) :
    item.toJson.IsProper := by
  cases item with
  | value literal => exact Literal.isProper_toJson has
  | tuple fields =>
    refine isProper_hashToJson fields.sorted fun entry member => ?_
    exact Literal.isProper_toJson (List.all_eq_true.1 has entry member)

theorem SetItem.areProper_toJson {items : List SetItem}
    (has : ∀ item ∈ items, item.isData = true) : Json.AreProper (items.map SetItem.toJson) := by
  rw [Json.areProper_iff]
  intro json member
  obtain ⟨item, among, rfl⟩ := List.mem_map.1 member
  exact isProper_toJson (has item among)

theorem HashValue.isProper_toJson {value : HashValue} (has : value.isData = true) :
    value.toJson.IsProper := by
  cases value with
  | value literal => exact Literal.isProper_toJson has
  | list items => exact SetItem.areProper_toJson (List.all_eq_true.1 has)

end Values

namespace Filter

/-! ## Operators with columns and values -/

private theorem isNull_string (text : String) : (Json.string text).isNull = false := rfl

private theorem isNull_array (items : List Json) : (Json.array items).isNull = false := rfl

private theorem columns_mapM (columns : List String) :
    (columns.map Json.string).mapM columnOfJson = .ok columns :=
  mapM_map_eq_ok fun _ _ => rfl

theorem requireOperands_eq_ok_iff {operator : String} {operands : List Json} {count : Nat} :
    requireOperands operator operands count = .ok () ↔
      count ≤ operands.length ∧ ∀ operand ∈ operands.take count, operand.isNull = false := by
  by_cases few : operands.length < count
  · simp [requireOperands, few]
  · simp [requireOperands, few, Nat.not_lt.1 few]

/-- The operands that are required are there and are not null. -/
theorem isNull_of_requireOperands {operator : String} {operands : List Json} {count : Nat}
    (all : requireOperands operator operands count = .ok ()) {index : Nat}
    (within : index < count) :
    (operands.getD index .null).isNull = false ∧ operands.getD index .null ∈ operands := by
  obtain ⟨enough, present⟩ := requireOperands_eq_ok_iff.1 all
  have there : index < operands.length := Nat.lt_of_lt_of_le within enough
  have same : operands.getD index .null = operands[index] := by simp [there]
  rw [same]
  have taken : operands[index] ∈ operands.take count :=
    List.mem_take_iff_getElem.2 ⟨index, Nat.lt_min.2 ⟨within, there⟩, rfl⟩
  exact ⟨present _ taken, List.getElem_mem there⟩

/-- A literal that is not null stays so when it is written. -/
theorem literal_written {literal : Literal}
    (has : literal.isData = true ∧ literal.isNull = false) :
    literalOfJson literal.toJson = .ok literal ∧ literal.toJson.isNull = false :=
  ⟨literalOfJson_eq_ok_iff.2 (Literal.ofJson?_toJson has.1), literal.isNull_toJson.trans has.2⟩

private theorem betweenOfJson_written (operator : String) {column : String} {low high : Literal}
    {negated : Bool} (has : (between column low high negated).HasForm) :
    betweenOfJson operator [.string column, low.toJson, high.toJson] negated =
      .ok (.between column low high negated) := by
  obtain ⟨lowRead, lowPresent⟩ := literal_written has.1
  obtain ⟨highRead, highPresent⟩ := literal_written has.2
  have enough : requireOperands operator [.string column, low.toJson, high.toJson] 3 = .ok () := by
    rw [requireOperands_eq_ok_iff]
    simp [lowPresent, highPresent, isNull_string]
  simp only [betweenOfJson, enough, List.getD_cons_zero, List.getD_cons_succ, columnOfJson, lowRead,
    highRead]
  rfl

private theorem membershipOfJson_written (operator : String) {columns : List String}
    {items : List SetItem} {negated : Bool} (has : (membership columns items negated).HasForm) :
    membershipOfJson operator (membershipOperands columns items) negated =
      .ok (.membership columns items negated) := by
  have enough : requireOperands operator (membershipOperands columns items) 2 = .ok () := by
    rw [requireOperands_eq_ok_iff]
    simp [membershipOperands, isNull_array]
  have read : (items.map SetItem.toJson).mapM itemOfJson = .ok items :=
    mapM_map_eq_ok fun item member => itemOfJson_toJson (has item member)
  rw [membershipOfJson, enough]
  simp only [membershipOperands, List.getD_cons_zero, List.getD_cons_succ, columnsOfJson,
    itemsOfJson, columns_mapM, read]
  rfl

private theorem likeOfJson_written (operator : String) {op : LikeOp} {column : String}
    {pattern : Literal} (has : (like op column pattern).HasForm) :
    likeOfJson operator [.string column, pattern.toJson] op = .ok (.like op column pattern) := by
  obtain ⟨read, present⟩ := literal_written has
  have enough : requireOperands operator [.string column, pattern.toJson] 2 = .ok () := by
    rw [requireOperands_eq_ok_iff]
    simp [present, isNull_string]
  simp only [likeOfJson, enough, List.getD_cons_zero, List.getD_cons_succ, columnOfJson, read]
  rfl

private theorem compareOfJson_written (operator : String) {op : CompareOp} {column : String}
    {value : Literal} (has : (compare op column value).HasForm) :
    compareOfJson operator [.string column, value.toJson] op = .ok (.compare op column value) := by
  obtain ⟨read, present⟩ := literal_written has
  have enough : requireOperands operator [.string column, value.toJson] 2 = .ok () := by
    rw [requireOperands_eq_ok_iff]
    simp [present, isNull_string]
  simp only [compareOfJson, enough, List.getD_cons_zero, List.getD_cons_succ, columnOfJson, read]
  rfl

/-- Whether a name is that of a logical operator. -/
def isLogical (operator : String) : Bool :=
  operator == "not" || operator == "and" || operator == "or"

private theorem ofOperator_of_lowercase {head operator : String}
    (lower : Text.lowercase head = operator)
    (operands : List Json) : ofOperator (.string head :: operands) =
      if operator = "not" then
        match operands with
        | [operand] => do return .negation (← ofOperand operand)
        | _ => .error (.missingOperand operator 1)
      else if operator = "and" then do return .conjunction (← ofOperands operands)
      else if operator = "or" then do return .disjunction (← ofOperands operands)
      else leafOfJson operator operands := by
  subst lower
  rcases operands with _ | ⟨operand, _ | ⟨other, rest⟩⟩ <;> rfl

private theorem ofOperator_leaf {head operator : String} (operands : List Json)
    (ascii : Text.isAscii operator = true) (named : head.toLower = operator)
    (leaf : isLogical operator = false) :
    ofOperator (.string head :: operands) = leafOfJson operator operands := by
  simp only [isLogical, Bool.or_eq_false_iff, beq_eq_false_iff_ne] at leaf
  obtain ⟨⟨notNegation, notConjunction⟩, notDisjunction⟩ := leaf
  rw [ofOperator_of_lowercase (Text.lowercase_of_toLower ascii named), if_neg notNegation,
    if_neg notConjunction, if_neg notDisjunction]

private theorem leafOfJson_between (negated : Bool) (operands : List Json) :
    leafOfJson (betweenName negated) operands =
      betweenOfJson (betweenName negated) operands negated := by
  cases negated <;> simp [leafOfJson, betweenName]

private theorem leafOfJson_membership (negated : Bool) (operands : List Json) :
    leafOfJson (membershipName negated) operands =
      membershipOfJson (membershipName negated) operands negated := by
  cases negated <;> simp [leafOfJson, membershipName]

private theorem leafOfJson_like (op : LikeOp) (operands : List Json) :
    leafOfJson op.name operands = likeOfJson op.name operands op := by
  cases op <;> simp [leafOfJson, LikeOp.name, LikeOp.ofName?]

private theorem leafOfJson_compare (op : CompareOp) (operands : List Json) :
    leafOfJson op.symbol operands = compareOfJson op.symbol operands op := by
  cases op <;> simp [leafOfJson, CompareOp.symbol, LikeOp.ofName?, CompareOp.ofSymbol?]

/-! ## Reading what is written -/

private theorem hashOfMembers_written {entries : List (String × HashValue)}
    (has : ∀ entry ∈ entries, entry.2.isData = true) :
    hashOfMembers (entries.map fun entry => (entry.1, entry.2.toJson)) = .ok (.hash entries) := by
  have read := readMembers_of_written fun entry member => hashValueOfJson_toJson (has entry member)
  rw [hashOfMembers, read]
  rfl

mutual

/-- Whatever a filter is written as is read as that filter. -/
theorem ofOperand_of_written : (filter : Filter) → {json : Json} → Written filter json →
    filter.HasForm → ofOperand json = .ok filter
  | .hash entries, _, written, has => by
    cases written
    exact hashOfMembers_written has.2
  | .negation filter, _, written, has => by
    cases written with
    | negation named inner =>
      rw [ofOperand, ofOperator_of_lowercase (Text.lowercase_of_toLower rfl named),
        if_pos rfl]
      dsimp only
      rw [ofOperand_of_written filter inner has]
      rfl
  | .conjunction filters, _, written, has => by
    cases written with
    | conjunction named each =>
      rw [ofOperand, ofOperator_of_lowercase (Text.lowercase_of_toLower rfl named),
        if_neg (by decide), if_pos rfl, ofOperands_of_written filters each has]
      rfl
  | .disjunction filters, _, written, has => by
    cases written with
    | disjunction named each =>
      rw [ofOperand, ofOperator_of_lowercase (Text.lowercase_of_toLower rfl named),
        if_neg (by decide), if_neg (by decide), if_pos rfl, ofOperands_of_written filters each has]
      rfl
  | .between column low high negated, _, written, has => by
    cases written with
    | between named =>
      have ascii : Text.isAscii (betweenName negated) = true := by cases negated <;> rfl
      rw [ofOperand, ofOperator_leaf _ ascii named (by cases negated <;> decide),
        leafOfJson_between, betweenOfJson_written _ has]
  | .membership columns items negated, _, written, has => by
    cases written with
    | membership named =>
      have ascii : Text.isAscii (membershipName negated) = true := by cases negated <;> rfl
      rw [ofOperand, ofOperator_leaf _ ascii named (by cases negated <;> decide),
        leafOfJson_membership, membershipOfJson_written _ has]
  | .compare op column value, _, written, has => by
    cases written
    have same : op.symbol.toLower = op.symbol :=
      Text.toLower_eq (by cases op <;> decide)
    rw [ofOperand, ofOperator_leaf _ (by cases op <;> rfl) same (by cases op <;> decide),
      leafOfJson_compare, compareOfJson_written _ has]
  | .like op column pattern, _, written, has => by
    cases written with
    | like named =>
      rw [ofOperand, ofOperator_leaf _ (by cases op <;> rfl) named (by cases op <;> decide),
        leafOfJson_like, likeOfJson_written _ has]
  | .raw condition, _, written, _ => by
    cases written
    rfl
termination_by structural filter => filter

private theorem ofOperands_of_written : (filters : List Filter) → {operands : List Json} →
    WrittenEach filters operands → EachHasForm filters → ofOperands operands = .ok filters
  | [], _, written, _ => by
    cases written
    rfl
  | filter :: rest, _, written, has => by
    cases written with
    | cons first others =>
      rw [ofOperands, ofOperand_of_written filter first has.1,
        ofOperands_of_written rest others has.2]
      rfl
termination_by structural filters => filters

end

private theorem ofJson_of_written {filter : Filter} {json : Json} (written : Written filter json)
    (expressible : filter.IsExpressible) : ofJson json = .ok filter := by
  obtain ⟨has, whole⟩ := expressible
  rw [← ofOperand_of_written filter written has]
  cases written with
  | raw condition => cases whole
  | _ => rfl

mutual

/-- The form of a filter is one of those that it can be written as. -/
theorem written_toJson : (filter : Filter) → Written filter filter.toJson
  | .hash entries => .hash entries
  | .negation filter =>
    .negation (Text.toLower_eq (by decide)) (written_toJson filter)
  | .conjunction filters =>
    .conjunction (Text.toLower_eq (by decide)) (writtenEach_toJson filters)
  | .disjunction filters =>
    .disjunction (Text.toLower_eq (by decide)) (writtenEach_toJson filters)
  | .between column low high negated =>
    .between (Text.toLower_eq (by cases negated <;> decide)) column low high
  | .membership columns items negated =>
    .membership (Text.toLower_eq (by cases negated <;> decide)) columns items
  | .compare op column value => .compare op column value
  | .like op column pattern =>
    .like (Text.toLower_eq (by cases op <;> decide)) column pattern
  | .raw condition => .raw condition
termination_by structural filter => filter

private theorem writtenEach_toJson :
    (filters : List Filter) → WrittenEach filters (toJsonEach filters)
  | [] => .nil
  | filter :: rest => .cons (written_toJson filter) (writtenEach_toJson rest)
termination_by structural filters => filters

end

mutual

/-- The form of a filter is a proper JSON value. -/
theorem isProper_toJson : (filter : Filter) → filter.HasForm → filter.toJson.IsProper
  | .hash entries, has =>
    isProper_hashToJson has.1 fun entry member => HashValue.isProper_toJson (has.2 entry member)
  | .negation filter, has => ⟨trivial, isProper_toJson filter has, trivial⟩
  | .conjunction filters, has => ⟨trivial, areProper_toJson filters has⟩
  | .disjunction filters, has => ⟨trivial, areProper_toJson filters has⟩
  | .between _ _ _ _, has => ⟨trivial, trivial, Literal.isProper_toJson has.1.1,
    Literal.isProper_toJson has.2.1, trivial⟩
  | .membership columns items _, has => by
    have names : Json.AreProper (columns.map .string) := by
      rw [Json.areProper_iff]
      intro json member
      obtain ⟨column, -, rfl⟩ := List.mem_map.1 member
      trivial
    exact ⟨trivial, names, SetItem.areProper_toJson has, trivial⟩
  | .compare _ _ _, has => ⟨trivial, trivial, Literal.isProper_toJson has.1, trivial⟩
  | .like _ _ _, has => ⟨trivial, trivial, Literal.isProper_toJson has.1, trivial⟩
  | .raw _, _ => trivial
termination_by structural filter => filter

private theorem areProper_toJson : (filters : List Filter) → EachHasForm filters →
    Json.AreProper (toJsonEach filters)
  | [], _ => trivial
  | filter :: rest, has => ⟨isProper_toJson filter has.1, areProper_toJson rest has.2⟩
termination_by structural filters => filters

end

/-! ## What is read -/

section Read

variable {operator : String} {operands : List Json} {filter : Filter}

/-- A literal read of a required operand has a form and is not null. -/
theorem literal_of_required {count index : Nat} {literal : Literal}
    (proper : Json.AreProper operands) (all : requireOperands operator operands count = .ok ())
    (within : index < count) (read : literalOfJson (operands.getD index .null) = .ok literal) :
    literal.isData = true ∧ literal.isNull = false := by
  obtain ⟨present, member⟩ := isNull_of_requireOperands all within
  refine ⟨isData_of_literalOfJson (Json.areProper_iff.1 proper _ member) read, ?_⟩
  rw [Literal.isNull_of_ofJson? (literalOfJson_eq_ok_iff.1 read), present]

private theorem isData_of_itemsOfJson {json : Json} {items : List SetItem} (proper : json.IsProper)
    (read : itemsOfJson json = .ok items) : ∀ item ∈ items, item.isData = true := by
  unfold itemsOfJson at read
  split at read
  next values => exact isData_of_items proper read
  next =>
    obtain ⟨item, found, same⟩ := of_bind_ok read
    cases same
    simpa using isData_of_itemOfJson proper found

private theorem isExpressible_of_between {negated : Bool} (proper : Json.AreProper operands)
    (read : betweenOfJson operator operands negated = .ok filter) : filter.IsExpressible := by
  obtain ⟨⟨⟩, enough, rest⟩ := of_bind_ok read
  obtain ⟨column, -, rest⟩ := of_bind_ok rest
  obtain ⟨low, lowRead, rest⟩ := of_bind_ok rest
  obtain ⟨high, highRead, same⟩ := of_bind_ok rest
  cases same
  exact ⟨⟨literal_of_required proper enough (by decide) lowRead,
    literal_of_required proper enough (by decide) highRead⟩, rfl⟩

private theorem isExpressible_of_membership {negated : Bool} (proper : Json.AreProper operands)
    (read : membershipOfJson operator operands negated = .ok filter) : filter.IsExpressible := by
  obtain ⟨⟨⟩, enough, rest⟩ := of_bind_ok read
  obtain ⟨columns, -, rest⟩ := of_bind_ok rest
  obtain ⟨items, itemsRead, same⟩ := of_bind_ok rest
  cases same
  have member := (isNull_of_requireOperands enough (by decide : 1 < 2)).2
  exact ⟨isData_of_itemsOfJson (Json.areProper_iff.1 proper _ member) itemsRead, rfl⟩

private theorem isExpressible_of_like {op : LikeOp} (proper : Json.AreProper operands)
    (read : likeOfJson operator operands op = .ok filter) : filter.IsExpressible := by
  obtain ⟨⟨⟩, enough, rest⟩ := of_bind_ok read
  obtain ⟨column, -, rest⟩ := of_bind_ok rest
  obtain ⟨pattern, patternRead, same⟩ := of_bind_ok rest
  cases same
  exact ⟨literal_of_required proper enough (by decide) patternRead, rfl⟩

private theorem isExpressible_of_compare {op : CompareOp} (proper : Json.AreProper operands)
    (read : compareOfJson operator operands op = .ok filter) : filter.IsExpressible := by
  obtain ⟨⟨⟩, enough, rest⟩ := of_bind_ok read
  obtain ⟨column, -, rest⟩ := of_bind_ok rest
  obtain ⟨value, valueRead, same⟩ := of_bind_ok rest
  cases same
  exact ⟨literal_of_required proper enough (by decide) valueRead, rfl⟩

private theorem isExpressible_of_leaf (proper : Json.AreProper operands)
    (read : leafOfJson operator operands = .ok filter) : filter.IsExpressible := by
  unfold leafOfJson at read
  split at read
  · exact isExpressible_of_between proper read
  split at read
  · exact isExpressible_of_between proper read
  split at read
  · exact isExpressible_of_membership proper read
  split at read
  · exact isExpressible_of_membership proper read
  split at read
  · exact isExpressible_of_like proper read
  · exact isExpressible_of_compare proper read
  · cases read

private theorem isExpressible_of_hash {members : List (String × Json)}
    (proper : (Json.object members).IsProper) (read : hashOfMembers members = .ok filter) :
    filter.IsExpressible := by
  obtain ⟨sorted, values⟩ := proper
  obtain ⟨entries, found, same⟩ := of_bind_ok read
  cases same
  have each := readMembers_eq_ok_iff.1 found
  exact ⟨⟨pairwise_of_readMembers each sorted,
    isData_of_readMembers isData_of_hashValueOfJson values each⟩, rfl⟩

/-- What an operator with its operands is read as: a logical operator of the filters that the
operands are read as, or what its columns and values make. -/
theorem ofOperator_string_ok {head : String}
    (read : ofOperator (.string head :: operands) = .ok filter) :
    (∃ inner, ofOperands operands = .ok [inner] ∧ filter = .negation inner) ∨
      (∃ filters, ofOperands operands = .ok filters ∧
        (filter = .conjunction filters ∨ filter = .disjunction filters)) ∨
      leafOfJson (Text.lowercase head) operands = .ok filter := by
  rw [ofOperator_of_lowercase rfl] at read
  split at read
  · split at read
    next operand =>
      obtain ⟨inner, found, same⟩ := of_bind_ok read
      cases same
      refine .inl ⟨inner, ?_, rfl⟩
      rw [ofOperands, found]
      rfl
    next => cases read
  split at read
  · obtain ⟨filters, found, same⟩ := of_bind_ok read
    cases same
    exact .inr (.inl ⟨filters, found, .inl rfl⟩)
  split at read
  · obtain ⟨filters, found, same⟩ := of_bind_ok read
    cases same
    exact .inr (.inl ⟨filters, found, .inr rfl⟩)
  · exact .inr (.inr read)

end Read

mutual

/-- Whatever an operand is read as has a form. -/
theorem hasForm_of_ofOperand : (json : Json) → {filter : Filter} → json.IsProper →
    ofOperand json = .ok filter → filter.HasForm
  | .string condition, _, _, read => by
    cases read
    trivial
  | .array items, _, proper, read => (isExpressible_of_ofOperator items proper read).1
  | .object members, _, proper, read => (isExpressible_of_hash proper read).1
  | .null, _, _, read => by cases read
  | .bool _, _, _, read => by cases read
  | .integer _, _, _, read => by cases read
  | .float _, _, _, read => by cases read
termination_by structural json => json

/-- Whatever an operator and its operands are read as is a filter that JSON can express. -/
theorem isExpressible_of_ofOperator : (items : List Json) → {filter : Filter} →
    Json.AreProper items → ofOperator items = .ok filter → filter.IsExpressible
  | [], _, _, read => by
    cases read
    exact ⟨⟨.nil, fun entry member => absurd member List.not_mem_nil⟩, rfl⟩
  | .string head :: operands, _, ⟨_, proper⟩, read => by
    obtain ⟨inner, found, rfl⟩ | ⟨filters, found, rfl | rfl⟩ | leaf := ofOperator_string_ok read
    · exact ⟨(eachHasForm_of_ofOperands operands proper found).1, rfl⟩
    · exact ⟨eachHasForm_of_ofOperands operands proper found, rfl⟩
    · exact ⟨eachHasForm_of_ofOperands operands proper found, rfl⟩
    · exact isExpressible_of_leaf proper leaf
  | .null :: _, _, _, read => by cases read
  | .bool _ :: _, _, _, read => by cases read
  | .integer _ :: _, _, _, read => by cases read
  | .float _ :: _, _, _, read => by cases read
  | .array _ :: _, _, _, read => by cases read
  | .object _ :: _, _, _, read => by cases read
termination_by structural items => items

private theorem eachHasForm_of_ofOperands : (operands : List Json) → {filters : List Filter} →
    Json.AreProper operands → ofOperands operands = .ok filters → EachHasForm filters
  | [], _, _, read => by
    cases read
    trivial
  | operand :: rest, _, ⟨first, others⟩, read => by
    obtain ⟨filter, found, later⟩ := of_bind_ok read
    obtain ⟨filters, more, same⟩ := of_bind_ok later
    cases same
    exact ⟨hasForm_of_ofOperand operand first found, eachHasForm_of_ofOperands rest others more⟩
termination_by structural operands => operands

end

private theorem isExpressible_of_ofJson {json : Json} {filter : Filter} (proper : json.IsProper)
    (read : ofJson json = .ok filter) : filter.IsExpressible := by
  unfold ofJson at read
  split at read
  · exact isExpressible_of_hash proper read
  · exact isExpressible_of_ofOperator _ proper read
  · cases read

/-- Reading JSON inverts writing it: a filter that JSON can express is read back from every form
of it, among which is its own, a proper JSON value; and whatever is read from a proper value is a
filter that JSON can express, and so is read back from its own form. -/
theorem ofJson_written :
    (∀ filter json, IsExpressible filter → Written filter json → ofJson json = .ok filter) ∧
      (∀ filter, IsExpressible filter →
        Written filter filter.toJson ∧ filter.toJson.IsProper ∧ ofJson filter.toJson = .ok filter) ∧
      ∀ json filter, json.IsProper → ofJson json = .ok filter →
        IsExpressible filter ∧ ofJson filter.toJson = .ok filter := by
  refine ⟨fun filter json expressible written => ofJson_of_written written expressible,
    fun filter expressible => ⟨written_toJson filter, isProper_toJson filter expressible.1,
      ofJson_of_written (written_toJson filter) expressible⟩, fun json filter proper read => ?_⟩
  have expressible := isExpressible_of_ofJson proper read
  exact ⟨expressible, ofJson_of_written (written_toJson filter) expressible⟩

/-- A condition with a raw operand and a hash condition with a tuple in it. -/
def nested : Filter :=
  .disjunction [
    .hash [("age", .value (.int 5)),
      ("pair", .list [.value .null, .tuple (.ofList [("x", .bool true)])])],
    .negation (.between "age" (.int 1) (.string "9") false), .raw "ARGV[1] == 'x'"]

/-- The same with operator names in mixed cases. -/
def nestedJson : Json :=
  .array [.string "Or",
    .object [("age", .integer 5), ("pair", .array [.null, .object [("x", .bool true)]])],
    .array [.string "NOT", .array [.string "bEtween", .string "age", .integer 1, .string "9"]],
    .string "ARGV[1] == 'x'"]

private theorem nested_written : Written nested nestedJson :=
  .disjunction (Text.toLower_eq (by decide)) (.cons (.hash _) (.cons
    (.negation (Text.toLower_eq (by decide))
      (.between (Text.toLower_eq (by decide)) "age" (.int 1) (.string "9")))
    (.cons (.raw _) .nil)))

private theorem nested_isExpressible : nested.IsExpressible := by
  refine ⟨⟨⟨?_, ?_⟩, ⟨⟨rfl, rfl⟩, rfl, rfl⟩, trivial, trivial⟩, rfl⟩
  · exact List.pairwise_pair.2 (by decide)
  · exact List.forall_mem_cons.2 ⟨rfl, List.forall_mem_singleton.2 rfl⟩

/-- The mixed cases are read as the same filter, and its own form is too. -/
theorem ofJson_written_nested : (Written nested nestedJson ∧ nested.IsExpressible) ∧
    ofJson nestedJson = .ok nested ∧ nested.toJson.IsProper ∧
      ofJson nested.toJson = .ok nested := by
  have own := ofJson_written.2.1 nested nested_isExpressible
  have mixed := ofJson_written.1 nested nestedJson nested_isExpressible nested_written
  have again := ofJson_written.2.2 nested.toJson nested own.2.1 own.2.2
  exact ⟨⟨nested_written, again.1⟩, mixed, own.2.1, again.2⟩

end Filter

end Rowscan
