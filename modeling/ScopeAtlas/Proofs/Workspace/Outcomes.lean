import Mathlib.Data.List.Nodup
import ScopeAtlas.Proofs.Data.Tables
import ScopeAtlas.Workspace.Survey

/-!
# Outcomes under different paths

A survey enters the outcomes of its files into two tables, one of analyses and one of errors.  Where
no two outcomes have one path, each outcome is in the table of its kind, in the order of the
outcomes, and leaving outcomes out leaves out what they brought.
-/

namespace ScopeAtlas.Workspace

open ScopeAtlas.Data ScopeAtlas.Extraction

/-! ## Outcomes under different paths -/

/-- The error of an outcome, as it is reported. -/
def message? : Except Error FileAnalysis → Option String
  | .ok _ => none
  | .error error => some error.message

section Outcomes

variable {outcomes : List (String × Except Error FileAnalysis)}
  (distinct : (outcomes.map (·.1)).Nodup)
include distinct

theorem analysesOf_eq_valuesOf : analysesOf outcomes = valuesOf Except.toOption outcomes := by
  have table := foldl_putEntry_of_nodup Except.toOption [] distinct
  rw [List.nil_append] at table
  rw [← table, analysesOf]
  congr 1
  funext table outcome
  cases outcome.2 <;> rfl

theorem errorsOf_eq_valuesOf : errorsOf outcomes = valuesOf message? outcomes := by
  have table := foldl_putEntry_of_nodup message? [] distinct
  rw [List.nil_append] at table
  rw [← table, errorsOf]
  congr 1
  funext table outcome
  cases outcome.2 <;> rfl

theorem mem_errorsOf_iff {shown message : String} :
    (shown, message) ∈ errorsOf outcomes ↔
      ∃ error, (shown, .error error) ∈ outcomes ∧ message = error.message := by
  rw [errorsOf_eq_valuesOf distinct, mem_valuesOf_iff]
  constructor
  · rintro ⟨outcome, member, isError⟩
    cases outcome with
    | ok _ => contradiction
    | error error =>
        cases isError
        exact ⟨error, member, rfl⟩
  · rintro ⟨error, member, rfl⟩
    exact ⟨_, member, rfl⟩

/-- Every outcome is an analysis or an error. -/
theorem keys_perm :
    ((analysesOf outcomes).map (·.1) ++ (errorsOf outcomes).map (·.1)).Perm
      (outcomes.map (·.1)) := by
  rw [analysesOf_eq_valuesOf distinct, errorsOf_eq_valuesOf distinct]
  clear distinct
  induction outcomes with
  | nil => exact .nil
  | cons outcome rest ih =>
      rcases outcome with ⟨shown, _ | _⟩
      · exact List.perm_middle.trans (ih.cons shown)
      · exact ih.cons shown

theorem nodup_keys_filter (keep : String → Bool) :
    ((outcomes.filter (keep ·.1)).map (·.1)).Nodup :=
  distinct.sublist (List.filter_sublist.map _)

/-- Leaving out outcomes that are errors changes no analysis. -/
theorem analysesOf_filter (keep : String → Bool)
    (failed : ∀ outcome ∈ outcomes, keep outcome.1 = false → outcome.2.toOption = none) :
    analysesOf (outcomes.filter (keep ·.1)) = analysesOf outcomes := by
  rw [analysesOf_eq_valuesOf distinct, analysesOf_eq_valuesOf (nodup_keys_filter distinct keep),
    valuesOf_filter, List.filter_eq_self]
  rintro ⟨shown, analysis⟩ member
  rcases mem_valuesOf_iff.mp member with ⟨outcome, there, isOk⟩
  by_contra left
  rw [failed _ there (eq_false_of_ne_true left)] at isOk
  contradiction

/-- Leaving out outcomes leaves out their errors. -/
theorem errorsOf_filter (keep : String → Bool) :
    errorsOf (outcomes.filter (keep ·.1)) = (errorsOf outcomes).filter (keep ·.1) := by
  rw [errorsOf_eq_valuesOf distinct, errorsOf_eq_valuesOf (nodup_keys_filter distinct keep),
    valuesOf_filter]

end Outcomes

end ScopeAtlas.Workspace
