import BoundSql.Value

/-!
# SQL text with the values its placeholders bind

A `Fragment` is a piece of SQL together with the values for its `?` placeholders. Fragments are
joined with `++`, which joins texts and values alike, so the n-th placeholder of a text belongs
to the n-th value however the pieces were nested.

A bound value becomes one `?`; NULL is the exception, it is written out and binds nothing.
-/

namespace BoundSql

/-- A piece of SQL and the values for its placeholders, in order. -/
@[ext]
structure Fragment where
  sql : String := ""
  args : List Value := []
  deriving DecidableEq, Repr

namespace Fragment

/-- The empty piece. -/
def empty : Fragment := {}

/-- Text that binds nothing. -/
def text (sql : String) : Fragment := { sql }

/-- A placeholder for a value; NULL is written out. -/
def value (v : Value) : Fragment :=
  if v.isNull then { sql := "NULL" } else { sql := "?", args := [v] }

/-- One piece after another. -/
def append (f g : Fragment) : Fragment := ⟨f.sql ++ g.sql, f.args ++ g.args⟩

instance : Append Fragment := ⟨append⟩

@[simp] theorem sql_empty : empty.sql = "" := rfl

@[simp] theorem args_empty : empty.args = [] := rfl

@[simp] theorem sql_text (s : String) : (text s).sql = s := rfl

@[simp] theorem args_text (s : String) : (text s).args = [] := rfl

@[simp] theorem sql_append (f g : Fragment) : (f ++ g).sql = f.sql ++ g.sql := rfl

@[simp] theorem args_append (f g : Fragment) : (f ++ g).args = f.args ++ g.args := rfl

theorem args_value (v : Value) : (value v).args = [v].filter (!·.isNull) := by
  cases v <;> rfl

theorem append_assoc (f g h : Fragment) : f ++ g ++ h = f ++ (g ++ h) := by
  ext1 <;> simp [String.append_assoc]

/-- Whether the piece has no text. -/
def isEmpty (f : Fragment) : Bool := f.sql.isEmpty

/-- Pieces one after another with a separator between neighbours. -/
def join (separator : String) : List Fragment → Fragment
  | [] => empty
  | [f] => f
  | f :: g :: rest => f ++ text separator ++ join separator (g :: rest)

@[simp] theorem join_nil (separator : String) : join separator [] = empty := rfl

@[simp] theorem args_join (separator : String) (fs : List Fragment) :
    (join separator fs).args = fs.flatMap (·.args) := by
  induction fs with
  | nil => rfl
  | cons f rest ih =>
    cases rest with
    | nil => simp [join]
    | cons g rest => simp [join, ih]

/-- Values with commas between them. -/
def values (vs : List Value) : Fragment := join ", " (vs.map value)

/-- A piece in parentheses. -/
def parenthesized (f : Fragment) : Fragment := text "(" ++ f ++ text ")"

@[simp] theorem args_parenthesized (f : Fragment) : f.parenthesized.args = f.args := by
  simp [parenthesized]

@[simp] theorem args_values (vs : List Value) : (values vs).args = vs.filter (!·.isNull) := by
  induction vs with
  | nil => rfl
  | cons v vs ih =>
    simp only [values, args_join, List.map_cons, List.flatMap_cons, args_value] at ih ⊢
    rw [ih, ← List.filter_append]
    rfl

end Fragment

end BoundSql
