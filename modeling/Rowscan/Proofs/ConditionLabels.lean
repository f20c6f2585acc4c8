import Rowscan.Proofs.CompiledConditions
import Rowscan.Proofs.ConditionShapes

/-!
The labels of compiled conditions. Whatever filter is compiled, with raw parts or without, the
condition reads fields through names of the script language, and a comparison is numeric exactly
for a numeric value (`ScanProgram.ofQuery_labelled`).
-/
namespace Rowscan

open Lua

/-- The conditions that filters are compiled to: labels are names, and comparisons are numeric
exactly for numeric values. -/
inductive Condition.IsLabelled : Condition → Prop
  | empty : IsLabelled .empty
  | constant (value : Bool) : IsLabelled (.constant value)
  | absent (column : String) : IsLabelled (.absent column)
  | equal {label : String} (named : IsName label) (value : Literal) :
      IsLabelled (.equal label value)
  | compare {label : String} (named : IsName label) (op : CompareOp) (value : Literal) :
      IsLabelled (.compare label op value value.isNumeric)
  | negation {condition : Condition} (labelled : IsLabelled condition) :
      IsLabelled (.negation condition)
  | conjunction {conditions : List Condition}
      (each : ∀ condition ∈ conditions, IsLabelled condition) :
      IsLabelled (.conjunction conditions)
  | disjunction {conditions : List Condition}
      (each : ∀ condition ∈ conditions, IsLabelled condition) :
      IsLabelled (.disjunction conditions)
  | raw (expression : String) : IsLabelled (.raw expression)

/-- Registered aliases are names. -/
theorem Condition.IsFormed.isLabelled {aliases : Aliases} {condition : Condition}
    (formed : condition.IsFormed aliases) (numbered : aliases.Numbered) :
    condition.IsLabelled := by
  induction formed with
  | constant value => exact .constant value
  | absent column => exact .absent column
  | equal named _ _ =>
    obtain ⟨column, registered⟩ := named
    exact .equal (numbered.isName registered) _
  | compare named op _ =>
    obtain ⟨column, registered⟩ := named
    exact .compare (numbered.isName registered) op _
  | negation _ ih => exact .negation ih
  | conjunction _ _ ih => exact .conjunction ih
  | disjunction _ _ ih => exact .disjunction ih
  | raw expression => exact .raw expression

theorem ScanProgram.ofQuery_numbered {space : KeySpace} {query : Query} {kind : Query.Kind}
    {program : ScanProgram} (prepared : ofQuery space query kind = .ok program) :
    program.columns.Numbered := by
  obtain ⟨order, -, rest⟩ := of_bind_ok prepared
  cases filtered : query.filter with
  | none =>
    rw [filtered] at rest
    cases rest
    exact .empty
  | some filter =>
    rw [filtered] at rest
    obtain ⟨⟨condition, columns⟩, compiled, same⟩ := of_bind_ok rest
    cases same
    exact filter.compile_registers (fun _ column numbered => numbered.register column) compiled
      .empty

/-- The columns of a program have names, and its condition is labelled. -/
theorem ScanProgram.ofQuery_labelled {space : KeySpace} {query : Query} {kind : Query.Kind}
    {program : ScanProgram} (prepared : ofQuery space query kind = .ok program) :
    program.condition.IsLabelled ∧ program.columns.Numbered := by
  have numbered := ofQuery_numbered prepared
  exact ⟨(ofQuery_formed prepared).isLabelled numbered, numbered⟩

end Rowscan
