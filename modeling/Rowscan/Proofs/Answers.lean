import Rowscan.Proofs.Accumulators
import Rowscan.Proofs.FieldMaps
import Rowscan.Proofs.ShortestDigits

/-!
What a store replies is read back as what it gathered. A hash reply, in either wire format, is
the row (`ofReply_hashReply`), and the reply of a scan program over some rows is the answer that
the kind gives over those rows (`agree_gather`), as long as the answer is one that a
script can return: numbers travel as text, and only finite ones are read back.
-/
namespace Rowscan

/-! ## Rows -/

@[simp] theorem Reply.shown?_ofText (text : String) : (Reply.ofText text).shown? = some text :=
  congrArg some (Text.repairUtf8_utf8 text)

@[simp] theorem Reply.text?_ofText (text : String) : (Reply.ofText text).text? = some text :=
  Text.ofUtf8?_utf8 text

@[simp] theorem Reply.isFalse_ofText (text : String) : (Reply.ofText text).isFalse = false := rfl

namespace Row

private theorem pairUp_flat (entries : List (String × String)) :
    pairUp (entries.flatMap fun (name, value) => [Reply.ofText name, Reply.ofText value]) =
      entries.map fun (name, value) => (Reply.ofText name, Reply.ofText value) := by
  induction entries with
  | nil => rfl
  | cons entry rest ih =>
    simp only [List.flatMap_cons, List.cons_append, List.nil_append, pairUp, List.map_cons]
    rw [ih]

private theorem ofPairs_entries (row : Row) :
    ofPairs (row.entries.map fun (name, value) => (Reply.ofText name, Reply.ofText value)) =
      row := by
  unfold ofPairs
  rw [List.filterMap_map]
  have same : (row.entries.filterMap fun entry => some entry) = row.entries :=
    List.filterMap_some
  simp only [Function.comp_def, Reply.shown?_ofText]
  exact (congrArg FieldMap.ofList same).trans (FieldMap.ofList_entries row)

private theorem ofFlat_entries (row : Row) :
    ofFlat (row.entries.flatMap fun (name, value) => [Reply.ofText name, Reply.ofText value]) =
      row := by
  rw [ofFlat, pairUp_flat, ofPairs_entries]

private theorem ofReply_flatReply (row : Row) : ofReply (Store.flatReply row) = .ok row :=
  congrArg Except.ok (ofFlat_entries row)

private theorem ofReply_mapReply (row : Row) : ofReply (Store.mapReply row) = .ok row :=
  congrArg Except.ok (ofPairs_entries row)

private theorem ofItems_flatReply (rows : List Row) :
    ofItems (rows.map Store.flatReply) = rows := by
  have each : ofItem ∘ Store.flatReply = id := funext ofFlat_entries
  rw [ofItems, List.map_map, each, List.map_id]

end Row

/-- A hash reads back as the row that is stored, in either wire format. -/
theorem Row.ofReply_hashReply (store : Store) (key : String) :
    Row.ofReply (store.hashReply key) = .ok ((store.rows.find? key).getD .empty) := by
  unfold Store.hashReply
  split
  · exact Row.ofReply_mapReply _
  · exact Row.ofReply_flatReply _

namespace Query.Kind

/-! ## Numbers -/

/-- Whether an outcome is one that a script can return: a number must be finite, and only an
empty average may fail. -/
def isSettled : (kind : Query.Kind) → Except Failure kind.Answer → Bool
  | .sum _, .ok (total : Double) => total.isFinite
  | .average _, .ok (mean : Double) => mean.isFinite
  | .min _, .ok (least : Option Double) => least.all Double.isFinite
  | .max _, .ok (greatest : Option Double) => greatest.all Double.isFinite
  | _, .ok _ => true
  | _, .error failure => failure = .emptyAggregate

/-- Whether an answer of this kind is computed from numbers. -/
def isNumber : Query.Kind → Bool
  | .all | .one | .count | .column _ => false
  | .sum _ | .average _ | .min _ | .max _ => true

theorem isSettled_answerOf {kind : Query.Kind} (plain : kind.isNumber = false) (rows : List Row) :
    kind.isSettled (kind.answerOf rows) = true := by
  cases kind with
  | all => rfl
  | one => rfl
  | count => rfl
  | column name => rfl
  | sum name => cases plain
  | average name => cases plain
  | min name => cases plain
  | max name => cases plain

theorem numberOfReply_numberReply {kind : Query.Kind} {number : Double}
    (finite : number.isFinite = true) :
    numberOfReply kind (Store.numberReply number) = .ok number := by
  rw [Store.numberReply, Reply.ofText]
  simp only [numberOfReply]
  rw [← Reply.ofText, Reply.text?_ofText, Option.bind_some, Double.toNumber?_text finite]

/-- The texts of numbers that are not finite are no numerals, so their replies are refused. -/
theorem numberOfReply_not_finite {kind : Query.Kind} {number : Double}
    (infinite : number.isFinite = false) :
    numberOfReply kind (Store.numberReply number) =
      .error ((Store.numberReply number).unexpectedFor kind.name) := by
  have unread : toNumber? number.text = none := by
    cases number with
    | nan => decide
    | infinite negative => cases negative <;> decide
    | finite negative units fits => simp [Double.isFinite] at infinite
  rw [Store.numberReply, Reply.ofText]
  simp only [numberOfReply]
  rw [← Reply.ofText, Reply.text?_ofText, Option.bind_some, unread]

/-! ## Each kind of reply -/

variable (store : Store) (rows : List Row) (name : String)

theorem isFalse_falseReply : store.falseReply.isFalse = true := by
  unfold Store.falseReply
  split <;> rfl

theorem answerOfReply_all :
    answerOfReply .all (store.gather .all rows) = .ok (rows : List Row) := by
  rw [Store.gather_all]
  exact congrArg Except.ok (Row.ofItems_flatReply rows)

/-- One row is read as it is, except that a row without fields is read as none: its reply is the
empty array that stands for none. -/
theorem answerOfReply_head : answerOfReply .one (store.gather .one rows) =
    .ok (rows.head?.filter (!·.isEmpty) : Option Row) := by
  rw [Store.gather_one]
  cases rows with
  | nil => rfl
  | cons row rest =>
    have read : Row.ofReply (Store.flatReply row) = .ok row := Row.ofReply_flatReply row
    have shown : answerOfReply .one (Store.flatReply row) =
        (Row.ofReply (Store.flatReply row)).map fun row =>
          if row.isEmpty then none else some row := rfl
    have kept : (if row.isEmpty then none else some row) = (some row).filter (!·.isEmpty) := by
      rw [Option.filter_some]
      cases row.isEmpty <;> rfl
    change answerOfReply .one (Store.flatReply row) = _
    rw [shown, read]
    exact congrArg Except.ok kept

theorem answerOfReply_one (filled : ∀ row ∈ rows, row.isEmpty = false) :
    answerOfReply .one (store.gather .one rows) = .ok (rows.head? : Option Row) := by
  rw [answerOfReply_head]
  cases rows with
  | nil => rfl
  | cons row rest => rw [List.head?_cons, Option.filter_some, filled row List.mem_cons_self]; rfl

theorem answerOfReply_count :
    answerOfReply .count (store.gather .count rows) = .ok (rows.length : Nat) := by
  rw [Store.gather_count]
  rfl

theorem answerOfReply_column :
    answerOfReply (.column name) (store.gather (.column name) rows) =
      .ok (rows.map (·.find? name) : List (Option String)) := by
  rw [Store.gather_column]
  refine congrArg Except.ok ((List.map_map).trans (List.map_congr_left fun row _ => ?_))
  rw [Function.comp_apply]
  cases row.find? name with
  | none => simp [fieldOfReply, isFalse_falseReply]
  | some value => simp [fieldOfReply]

/-! ## Outcomes side by side -/

/-- Two outcomes of one query: the same, or neither is one that a script can return. -/
def Agree (kind : Query.Kind) (read gathered : Except Failure kind.Answer) : Prop :=
  read = gathered ∨ kind.isSettled read = false ∧ kind.isSettled gathered = false

theorem Agree.eq {kind : Query.Kind} {read gathered : Except Failure kind.Answer}
    (agree : kind.Agree read gathered)
    (settled : kind.isSettled gathered = true ∨ kind.isSettled read = true) :
    read = gathered := by
  rcases agree with same | ⟨unread, ungathered⟩
  · exact same
  · rcases settled with settled | settled
    · exact absurd (ungathered.symm.trans settled) Bool.false_ne_true
    · exact absurd (unread.symm.trans settled) Bool.false_ne_true

private theorem agree_sum : Agree (.sum name)
    (answerOfReply (.sum name) (store.gather (.sum name) rows)) (answerOf (.sum name) rows) := by
  rw [Store.gather_sum, answerOf_sum]
  change Agree (.sum name) (numberOfReply (.sum name) (Store.numberReply (Row.sum name rows))) _
  cases finite : (Row.sum name rows).isFinite with
  | true => exact .inl (numberOfReply_numberReply finite)
  | false =>
    rw [numberOfReply_not_finite finite]
    exact .inr ⟨rfl, finite⟩

private theorem agree_average : Agree (.average name)
    (answerOfReply (.average name) (store.gather (.average name) rows))
    (answerOf (.average name) rows) := by
  rw [Store.gather_average, answerOf_average]
  cases Row.average? name rows with
  | none => exact .inl (if_pos (isFalse_falseReply store))
  | some mean =>
    change Agree (.average name) (numberOfReply (.average name) (Store.numberReply mean)) (.ok mean)
    cases finite : mean.isFinite with
    | true => exact .inl (numberOfReply_numberReply finite)
    | false =>
      rw [numberOfReply_not_finite finite]
      exact .inr ⟨rfl, finite⟩

/-- A number that may be missing reads back if it is finite, and is refused otherwise. -/
theorem read_optionalReply (kind : Query.Kind) (number : Option Double) :
    (if (store.optionalReply number).isFalse then .ok none
      else (numberOfReply kind (store.optionalReply number)).map some) =
    if number.all Double.isFinite then .ok number
      else .error ((store.optionalReply number).unexpectedFor kind.name) := by
  cases number with
  | none => exact if_pos (isFalse_falseReply store)
  | some number =>
    have plain : (store.optionalReply (some number)).isFalse ≠ true := Bool.false_ne_true
    rw [if_neg plain, Store.optionalReply]
    cases finite : number.isFinite with
    | true =>
      rw [numberOfReply_numberReply finite]
      exact (if_pos finite).symm
    | false =>
      rw [numberOfReply_not_finite finite]
      exact (if_neg (by rw [Option.all_some, finite]; exact Bool.false_ne_true)).symm

private theorem agree_min : Agree (.min name)
    (answerOfReply (.min name) (store.gather (.min name) rows)) (answerOf (.min name) rows) := by
  have read := read_optionalReply store (.min name) (Row.least? (Row.numbers name rows))
  rw [Store.gather_min, answerOf_min]
  cases finite : (Row.least? (Row.numbers name rows)).all Double.isFinite with
  | true => exact .inl (read.trans (if_pos finite))
  | false =>
    have refused := read.trans (if_neg (by rw [finite]; exact Bool.false_ne_true))
    exact .inr ⟨congrArg (isSettled (.min name)) refused, finite⟩

private theorem agree_max : Agree (.max name)
    (answerOfReply (.max name) (store.gather (.max name) rows)) (answerOf (.max name) rows) := by
  have read := read_optionalReply store (.max name) (Row.greatest? (Row.numbers name rows))
  rw [Store.gather_max, answerOf_max]
  cases finite : (Row.greatest? (Row.numbers name rows)).all Double.isFinite with
  | true => exact .inl (read.trans (if_pos finite))
  | false =>
    have refused := read.trans (if_neg (by rw [finite]; exact Bool.false_ne_true))
    exact .inr ⟨congrArg (isSettled (.max name)) refused, finite⟩

/-- The reply over rows that have fields reads as the answer over those rows, unless that is no
answer that a script can return; then the reply is no such answer either. -/
theorem agree_gather (kind : Query.Kind) (rows : List Row)
    (filled : ∀ row ∈ rows, row.isEmpty = false) :
    kind.Agree (kind.answerOfReply (store.gather kind rows)) (kind.answerOf rows) := by
  cases kind with
  | all => exact .inl ((answerOfReply_all store rows).trans (answerOf_all rows).symm)
  | one => exact .inl ((answerOfReply_one store rows filled).trans (answerOf_one rows).symm)
  | count => exact .inl ((answerOfReply_count store rows).trans (answerOf_count rows).symm)
  | column name =>
    exact .inl ((answerOfReply_column store rows name).trans (answerOf_column name rows).symm)
  | sum name => exact agree_sum store rows name
  | average name => exact agree_average store rows name
  | min name => exact agree_min store rows name
  | max name => exact agree_max store rows name

end Query.Kind
end Rowscan
