import BoundSql.Fragment
import BoundSql.StatementKind

/-!
# Finished statements

A `BuiltQuery` is SQL text and the values for its placeholders. Placeholders are counted by a
scan that every single quote switches between inside and outside of a literal.
-/

namespace BoundSql

/-- The question marks outside single quotes; `quoted` says whether the text starts inside. -/
def countPlaceholders : Bool → List Char → Nat
  | _, [] => 0
  | quoted, c :: cs =>
    if c = '\'' then countPlaceholders (!quoted) cs
    else if c = '?' ∧ quoted = false then countPlaceholders quoted cs + 1
    else countPlaceholders quoted cs

/-- A statement ready to run: the n-th placeholder is bound to the n-th argument. -/
structure BuiltQuery where
  sql : String
  args : List Value
  deriving DecidableEq, Repr

namespace BuiltQuery

def ofFragment (f : Fragment) : BuiltQuery := ⟨f.sql, f.args⟩

@[simp] theorem sql_ofFragment (f : Fragment) : (ofFragment f).sql = f.sql := rfl

@[simp] theorem args_ofFragment (f : Fragment) : (ofFragment f).args = f.args := rfl

/-- What the statement does, by its leading keyword. -/
def kind (b : BuiltQuery) : StatementKind := StatementKind.ofSql b.sql

/-- The placeholders outside quoted literals. -/
def placeholderCount (b : BuiltQuery) : Nat := countPlaceholders false b.sql.toList

/-- Whether two statements have the same text and arguments that agree one by one. -/
def agrees (a b : BuiltQuery) : Bool :=
  a.sql == b.sql && a.args.length == b.args.length &&
    (List.zipWith Value.agrees a.args b.args).all id

/-- A statement agrees with itself exactly where no argument is a NaN. -/
theorem agrees_self_iff {b : BuiltQuery} :
    b.agrees b = true ↔ ∀ x, Value.float x ∈ b.args → x.isNaN = false := by
  simp only [agrees, beq_self_eq_true, Bool.true_and, List.zipWith_self, List.all_map,
    List.all_eq_true, Function.comp_apply, id_eq, Value.agrees_self_iff]
  exact ⟨fun h x hx => h _ hx x rfl, fun h v hv x hx => h x (hx ▸ hv)⟩

end BuiltQuery

end BoundSql
