import BenchQueue.Measurement.Table
import BenchQueue.Proofs.Flow
import BenchQueue.Proofs.Store.Lookup

/-!
# Whose results are collected

A comparison collects the results of the finished runs that satisfy a clause, one for each kind. The
clause of the macro benchmarks holds of every finished run of the same work. The clause of the micro
benchmarks asks for the plain name of their type, while a type names them in other ways as well: then
the run that was found is left out.
-/

namespace BenchQueue.Measurement

open BenchQueue.Database (Condition Statement allHold)
open BenchQueue.Run (Identifier Record microType)
open BenchQueue.Store (Finds)

variable {i t current : Identifier} {kind : Run.Kind} {r : Record} {records : List Record}

/-! ## The statements of a comparison -/

/-- A statement selects by conditions: they are its clause, and their values are its parameters. -/
def Selects (conditions : List Condition) (s : Statement) : Prop :=
  (∃ head tail, s.sql = head ++ Database.conjunction "e." conditions ++ tail ∧
    ∃ tables, head = tables ++ " WHERE ") ∧
  s.params = Database.boundValues conditions

/-- The statement by which the results of a run are collected, by kind. -/
def statement (kind : Run.Kind) (i : Identifier) : Statement :=
  match kind with
  | .micro => microStatement i
  | .macroBench _ => macroStatement i

end BenchQueue.Measurement
