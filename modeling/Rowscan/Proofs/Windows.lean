import Rowscan.Lookup
import Rowscan.Proofs.Answers

/-!
Windows over matching rows. The scan counts matches while it walks the key list and the lookup
counts rows while it reads them; both keep what `Window.pick` keeps of the whole list of matches
(`Store.select_eq`, `Lookup.fetchWindow_gives`), though each stops as early as it can.
-/
namespace Rowscan

namespace Window

variable {α β : Type} (window : Window)

/-- The items in the window, if so many have passed before the first. -/
def sliceFrom (passed : Nat) (items : List α) : List α :=
  ((items.zipIdx (passed + 1)).filter fun item => window.contains item.2).map (·.1)

theorem slice_eq (items : List α) : window.slice items = window.sliceFrom 0 items := rfl

theorem sliceFrom_cons (passed : Nat) (item : α) (rest : List α) :
    window.sliceFrom passed (item :: rest) =
      if window.contains (passed + 1) then item :: window.sliceFrom (passed + 1) rest
      else window.sliceFrom (passed + 1) rest := by
  rw [sliceFrom, List.zipIdx_cons, List.filter_cons]
  cases window.contains (passed + 1) <;> rfl

theorem map_sliceFrom (change : α → β) (passed : Nat) (items : List α) :
    (window.sliceFrom passed items).map change = window.sliceFrom passed (items.map change) := by
  induction items generalizing passed with
  | nil => rfl
  | cons item rest ih =>
    rw [List.map_cons, sliceFrom_cons, sliceFrom_cons]
    cases window.contains (passed + 1) with
    | true => exact congrArg (change item :: ·) (ih (passed + 1))
    | false => exact ih (passed + 1)

theorem isPast_iff {passed : Nat} : window.isPast passed = true ↔
    ∃ limit, window.limit = some limit ∧ window.offset + limit ≤ passed := by
  obtain ⟨offset, limit⟩ := window
  cases limit <;> simp [isPast]

private theorem isPast_succ {passed : Nat} (past : window.isPast passed = true) :
    window.isPast (passed + 1) = true := by
  obtain ⟨limit, bounded, reached⟩ := (isPast_iff window).1 past
  exact (isPast_iff window).2 ⟨limit, bounded, by omega⟩

private theorem contains_of_isPast {passed : Nat} (past : window.isPast passed = true) :
    window.contains (passed + 1) = false := by
  obtain ⟨limit, bounded, reached⟩ := (isPast_iff window).1 past
  have beyond : ¬ passed + 1 ≤ window.offset + limit := by omega
  simp [contains, bounded, beyond]

/-- Nothing is left once the window is past. -/
theorem sliceFrom_of_isPast {passed : Nat} (past : window.isPast passed = true)
    (items : List α) : window.sliceFrom passed items = [] := by
  induction items generalizing passed with
  | nil => rfl
  | cons item rest ih =>
    rw [sliceFrom_cons, contains_of_isPast window past, ih (isPast_succ window past)]
    rfl

/-- The items in the window, or the first one if one is enough. -/
def pick (onlyOne : Bool) (passed : Nat) (items : List α) : List α :=
  if onlyOne then (window.sliceFrom passed items).take 1 else window.sliceFrom passed items

private theorem pick_nil (onlyOne : Bool) (passed : Nat) :
    window.pick onlyOne passed ([] : List α) = [] := by
  cases onlyOne <;> rfl

private theorem pick_inside {onlyOne : Bool} {passed : Nat}
    (inside : window.contains (passed + 1) = true)
    (item : α) (rest : List α) : window.pick onlyOne passed (item :: rest) =
      if onlyOne then [item] else item :: window.pick onlyOne (passed + 1) rest := by
  unfold pick
  rw [sliceFrom_cons, if_pos inside]
  cases onlyOne <;> rfl

private theorem pick_outside {onlyOne : Bool} {passed : Nat}
    (outside : window.contains (passed + 1) = false) (item : α) (rest : List α) :
    window.pick onlyOne passed (item :: rest) = window.pick onlyOne (passed + 1) rest := by
  unfold pick
  rw [sliceFrom_cons, outside]
  rfl

private theorem pick_of_isPast {passed : Nat} (past : window.isPast passed = true) (onlyOne : Bool)
    (items : List α) : window.pick onlyOne passed items = [] := by
  unfold pick
  rw [sliceFrom_of_isPast window past]
  cases onlyOne <;> rfl

theorem map_pick (change : α → β) (onlyOne : Bool) (passed : Nat) (items : List α) :
    (window.pick onlyOne passed items).map change =
      window.pick onlyOne passed (items.map change) := by
  unfold pick
  rw [← map_sliceFrom]
  cases onlyOne with
  | true => exact List.map_take
  | false => rfl

theorem mem_of_mem_sliceFrom {passed : Nat} {items : List α} {item : α}
    (member : item ∈ window.sliceFrom passed items) : item ∈ items := by
  induction items generalizing passed with
  | nil => exact member
  | cons first rest ih =>
    rw [sliceFrom_cons] at member
    split at member
    next =>
      rcases List.mem_cons.1 member with rfl | later
      · exact List.mem_cons_self
      · exact List.mem_cons_of_mem _ (ih later)
    next => exact List.mem_cons_of_mem _ (ih member)

theorem mem_of_mem_pick {onlyOne : Bool} {passed : Nat} {items : List α} {item : α}
    (member : item ∈ window.pick onlyOne passed items) : item ∈ items := by
  unfold pick at member
  split at member
  · exact mem_of_mem_sliceFrom window (List.mem_of_mem_take member)
  · exact mem_of_mem_sliceFrom window member

/-- One is found in the window if and only if any is. -/
theorem head?_pick (onlyOne : Bool) (passed : Nat) (items : List α) :
    (window.pick onlyOne passed items).head? = (window.sliceFrom passed items).head? := by
  unfold pick
  cases onlyOne with
  | true => cases window.sliceFrom passed items <;> rfl
  | false => rfl

/-- A window without bounds holds everything. -/
theorem sliceFrom_unbounded (passed : Nat) (items : List α) :
    (Window.mk 0 none).sliceFrom passed items = items := by
  induction items generalizing passed with
  | nil => rfl
  | cons item rest ih =>
    have inside : (Window.mk 0 none).contains (passed + 1) = true := by simp [contains]
    rw [sliceFrom_cons, if_pos inside, ih]

theorem pick_unbounded (items : List α) : (Window.mk 0 none).pick false 0 items = items :=
  sliceFrom_unbounded 0 items

/-- The first item in a window without bounds is the first of all. -/
theorem head?_pick_unbounded (onlyOne : Bool) (items : List α) :
    ((Window.mk 0 none).pick onlyOne 0 items).head? = items.head? := by
  rw [head?_pick, sliceFrom_unbounded]

end Window

/-! ## The scan -/

namespace Store

variable {store : Store} {program : ScanProgram} {matched : Nat} {key : String}
variable {rest : List String}

theorem select_skip (skipped : store.satisfies program key = .ok false) :
    store.select program matched (key :: rest) = store.select program matched rest := by
  rw [select, skipped]
  rfl

theorem select_outside (matching : store.satisfies program key = .ok true)
    (outside : program.window.contains (matched + 1) = false) :
    store.select program matched (key :: rest) = store.select program (matched + 1) rest := by
  rw [select, matching, outside]
  rfl

theorem select_inside (matching : store.satisfies program key = .ok true)
    (inside : program.window.contains (matched + 1) = true) :
    store.select program matched (key :: rest) =
      if returnsEarly program then .ok [key]
      else (store.select program (matched + 1) rest).map (key :: ·) := by
  rw [select, matching, inside]
  cases returnsEarly program <;> rfl

/-- A scan over keys whose conditions all have an answer picks from those that match. -/
theorem select_eq {isMatch : String → Bool} {keys : List String}
    (decided : ∀ key ∈ keys, store.satisfies program key = .ok (isMatch key)) (matched : Nat) :
    store.select program matched keys =
      .ok (program.window.pick (returnsEarly program) matched (keys.filter isMatch)) := by
  induction keys generalizing matched with
  | nil => exact congrArg Except.ok (Window.pick_nil _ _ _).symm
  | cons key rest ih =>
    have first := decided key List.mem_cons_self
    have others := ih fun key member => decided key (List.mem_cons_of_mem _ member)
    rw [List.filter_cons]
    cases matching : isMatch key with
    | false =>
      rw [matching] at first
      rw [select_skip first]
      exact others matched
    | true =>
      rw [matching] at first
      rw [if_pos rfl]
      cases inside : program.window.contains (matched + 1) with
      | false =>
        rw [select_outside first inside, Window.pick_outside _ inside]
        exact others (matched + 1)
      | true =>
        rw [select_inside first inside, Window.pick_inside _ inside, others (matched + 1)]
        cases returnsEarly program <;> rfl

end Store

/-! ## The lookup -/

/-- Running on a state gives this outcome and leaves the state as it is. -/
def Run.Gives {σ α : Type} (computation : Run σ α) (state : σ) (outcome : Except Failure α) : Prop :=
  computation.run.run state = (outcome, state)

namespace Run

variable {σ α β : Type} {state : σ}

instance [DecidableEq σ] [DecidableEq α] (computation : Run σ α) (state : σ)
    (outcome : Except Failure α) : Decidable (computation.Gives state outcome) :=
  inferInstanceAs (Decidable (_ = ((outcome, state) : Except Failure α × σ)))

theorem gives_pure (value : α) : Gives (pure value) state (.ok value) := rfl

theorem gives_ofExcept (outcome : Except Failure α) : Gives (ofExcept outcome) state outcome := rfl

theorem Gives.unique {computation : Run σ α} {first second : Except Failure α}
    (given : computation.Gives state first) (again : computation.Gives state second) :
    first = second := (Prod.mk.inj (given.symm.trans again)).1

/-- A computation continues with the value that its first part gives. -/
theorem Gives.bind {first : Run σ α} {next : α → Run σ β} {value : α} {outcome : Except Failure β}
    (given : first.Gives state (.ok value)) (continued : (next value).Gives state outcome) :
    (first >>= next).Gives state outcome := by
  unfold Gives at given continued ⊢
  rw [ExceptT.run_bind, StateT.run_bind, given]
  exact continued

theorem Gives.map {first : Run σ α} {value : α} (given : first.Gives state (.ok value))
    (change : α → β) : (change <$> first).Gives state (.ok (change value)) :=
  given.bind (gives_pure (change value))

end Run

namespace Lookup

open Run

variable (store : Store) (space : KeySpace)

/-- Whether a row is stored under an encoded key. -/
def isStored (key : String) : Bool := !(store.rowOf space key).isEmpty

theorem fetch_gives (key : String) :
    (fetch Store.executor space key).Gives store (.ok (store.rowOf space key)) := by
  have sent : (Store.executor.send (.hgetall (space.rowKey key))).Gives store
      (.ok (store.hashReply (space.rowKey key))) := rfl
  have read : Row.ofReply (store.hashReply (space.rowKey key)) = .ok (store.rowOf space key) :=
    Row.ofReply_hashReply store (space.rowKey key)
  exact sent.bind (read ▸ gives_ofExcept (Row.ofReply (store.hashReply (space.rowKey key))))

/-- Reading all keys gives the rows that are stored, with their keys. -/
theorem fetchAll_gives (keys : List String) :
    (fetchAll Store.executor space keys).Gives store
      (.ok ((keys.filter (isStored store space)).map fun key => (key, store.rowOf space key))) := by
  induction keys with
  | nil => exact gives_pure []
  | cons key rest ih =>
    refine (fetch_gives store space key).bind (ih.bind ?_)
    rw [List.filter_cons]
    cases empty : (store.rowOf space key).isEmpty with
    | true =>
      have missing : isStored store space key = false := by rw [isStored, empty]; rfl
      rw [missing]
      exact gives_pure _
    | false =>
      have present : isStored store space key = true := by rw [isStored, empty]; rfl
      rw [present]
      exact gives_pure _

/-- Reading up to the end of the window gives what the window picks from the stored rows. -/
theorem fetchWindow_gives (window : Window) (onlyOne : Bool) (keys : List String) (found : Nat) :
    (fetchWindow Store.executor space window onlyOne found keys).Gives store
      (.ok (window.pick onlyOne found
        ((keys.filter (isStored store space)).map (store.rowOf space)))) := by
  induction keys generalizing found with
  | nil =>
    rw [List.filter_nil, List.map_nil, Window.pick_nil]
    exact gives_pure []
  | cons key rest ih =>
    rw [fetchWindow]
    cases past : window.isPast found with
    | true =>
      rw [Window.pick_of_isPast window past]
      exact gives_pure []
    | false =>
      refine (fetch_gives store space key).bind ?_
      rw [List.filter_cons]
      cases empty : (store.rowOf space key).isEmpty with
      | true =>
        have missing : isStored store space key = false := by rw [isStored, empty]; rfl
        rw [missing]
        exact ih found
      | false =>
        have present : isStored store space key = true := by rw [isStored, empty]; rfl
        rw [present, if_pos rfl, List.map_cons]
        cases inside : window.contains (found + 1) with
        | false =>
          rw [Window.pick_outside window inside]
          exact ih (found + 1)
        | true =>
          rw [Window.pick_inside window inside]
          cases onlyOne with
          | true => exact gives_pure _
          | false => exact (ih (found + 1)).bind (gives_pure _)

end Lookup
end Rowscan
