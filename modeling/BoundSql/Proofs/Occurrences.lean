import BoundSql.Query.Basic
import BoundSql.Query.RowTable

/-!
# Occurrences of bound values

Each occurrence of a bound value in some data has an address of its own. A `Filling` has content
for every address, and filling data puts content at each occurrence; NULL is no occurrence and
stays. A `Replacement` turns values into values instead, wherever they occur.

The two are tied by `Filling.names`, whose content at an address is that address, encoded. Data
filled with names keep apart what data filled with equal values confuse, and reading the names as
addresses of a filling (`Filling.reading`) is a replacement that makes the filled data of them.

In JSON data the values are the scalar fields of the rows. They are filled with JSON scalars, so
their addresses are apart from those of other values.

## Main definitions

* `Replacement`, `Filling`, `Slot` — replacing everywhere, and filling by address.
* `Occurrences` — data with bound values in it: how they are filled and replaced.
-/

namespace BoundSql

/-! ## Scalars -/

/-- A value other than NULL. -/
abbrev BoundValue := { v : Value // v.isNull = false }

/-- A JSON scalar other than null. -/
inductive JsonScalar where
  | bool (value : Bool)
  | number (value : JsonNumber)
  | string (value : String)

namespace JsonScalar

def json : JsonScalar → Json
  | bool b => .bool b
  | number n => .number n
  | string s => .string s

/-- The value that the scalar is bound as. -/
def value : JsonScalar → Value
  | bool b => .bool b
  | number n => .ofJsonNumber n
  | string s => .text s

theorem isNull_value (c : JsonScalar) : c.value.isNull = false := by
  cases c with
  | bool _ | string _ => rfl
  | number n => cases n <;> rfl

end JsonScalar

/-- JSON data with another scalar if they are a scalar. -/
def Json.onScalar (f : JsonScalar → JsonScalar) : Json → Json
  | .bool b => (f (.bool b)).json
  | .number n => (f (.number n)).json
  | .string s => (f (.string s)).json
  | other => other

theorem Json.onScalar_onScalar (f g : JsonScalar → JsonScalar) (data : Json) :
    (data.onScalar g).onScalar f = data.onScalar (f ∘ g) := by
  have hjson (c : JsonScalar) : c.json.onScalar f = (f c).json := by cases c <;> rfl
  cases data with
  | bool _ | number _ | string _ => exact hjson _
  | null | array _ | object _ => rfl

/-! ## Replacing and filling -/

/-- A value for each value. NULL stays NULL, nothing else becomes NULL, and JSON scalars stay JSON
scalars. -/
structure Replacement where
  value : Value → Value
  cell : JsonScalar → JsonScalar
  isNull_value : ∀ v, (value v).isNull = v.isNull
  value_cell : ∀ c, value c.value = (cell c).value

namespace Replacement

@[simp] theorem value_null (ρ : Replacement) : ρ.value .null = .null :=
  Value.isNull_eq_true_iff.mp (ρ.isNull_value .null)

/-- What stands in the place of a value other than NULL. -/
def bound (ρ : Replacement) (v : BoundValue) : BoundValue :=
  ⟨ρ.value v.1, by rw [ρ.isNull_value, v.2]⟩

theorem ofJson_onScalar (ρ : Replacement) (column : String) (data : Json) :
    Value.ofJson column (data.onScalar ρ.cell) = (Value.ofJson column data).map ρ.value := by
  have hjson (c : JsonScalar) : Value.ofJson column c.json = .ok c.value := by cases c <;> rfl
  have hcell (c : JsonScalar) :
      Value.ofJson column (ρ.cell c).json = (Value.ofJson column c.json).map ρ.value := by
    rw [hjson, hjson, Except.map, ρ.value_cell]
  cases data with
  | bool b => exact hcell (.bool b)
  | number n => exact hcell (.number n)
  | string s => exact hcell (.string s)
  | null => exact congrArg Except.ok ρ.value_null.symm
  | array _ | object _ => rfl

end Replacement

/-- Where a value occurs: the turns that lead to it, `false` to a head and `true` to a tail. -/
abbrev Address := List Bool

/-- Content for every address. -/
structure Filling where
  value : Address → BoundValue
  cell : Address → JsonScalar

namespace Filling

/-- The content for the head. -/
def left (w : Filling) : Filling := ⟨fun a => w.value (false :: a), fun a => w.cell (false :: a)⟩

/-- The content for the tail. -/
def right (w : Filling) : Filling := ⟨fun a => w.value (true :: a), fun a => w.cell (true :: a)⟩

/-- One content for the head and one for the tail. -/
def pair (w v : Filling) : Filling where
  value
    | [] => w.value []
    | false :: a => w.value a
    | true :: a => v.value a
  cell
    | [] => w.cell []
    | false :: a => w.cell a
    | true :: a => v.cell a

@[simp] theorem left_pair (w v : Filling) : (pair w v).left = w := rfl

@[simp] theorem right_pair (w v : Filling) : (pair w v).right = v := rfl

/-- The same content at every address. -/
def uniform (v : BoundValue) (c : JsonScalar) : Filling := ⟨fun _ => v, fun _ => c⟩

/-- Content that tells nothing. -/
def blank : Filling := uniform ⟨.bool true, rfl⟩ (.bool true)

/-- The content with each value replaced. -/
def map (ρ : Replacement) (w : Filling) : Filling :=
  ⟨fun a => ρ.bound (w.value a), fun a => ρ.cell (w.cell a)⟩

@[simp] theorem left_map (ρ : Replacement) (w : Filling) : (w.map ρ).left = w.left.map ρ := rfl

@[simp] theorem right_map (ρ : Replacement) (w : Filling) : (w.map ρ).right = w.right.map ρ := rfl

end Filling

/-! ## Data with bound values -/

/-- How bound values occur in some data. Filling forgets what was there, can put back what was
there, and filling with replaced content is filling and replacing. -/
structure Occurrences (α : Type) where
  fill : Filling → α → α
  replace : Replacement → α → α
  fill_fill : ∀ w v a, fill w (fill v a) = fill w a
  exists_own : ∀ a, ∃ w, fill w a = a
  fill_map : ∀ ρ w a, fill (w.map ρ) a = replace ρ (fill w a)

namespace Occurrences

variable {α β : Type}

/-- A value is one occurrence, unless it is NULL. -/
def ofValue : Occurrences Value where
  fill w v := if v.isNull then v else (w.value []).1
  replace ρ v := ρ.value v
  fill_fill w v u := by
    cases h : u.isNull with
    | true => simp [h]
    | false => simp [(v.value []).2]
  exists_own v := by
    cases h : v.isNull with
    | true => exact ⟨.blank, rfl⟩
    | false => exact ⟨.uniform ⟨v, h⟩ (.bool true), rfl⟩
  fill_map ρ w v := by
    split
    · next h => rw [Value.isNull_eq_true_iff.mp h, ρ.value_null]
    · rfl

/-- A JSON scalar is one occurrence; other JSON data are none. -/
def ofCell : Occurrences Json where
  fill w data := data.onScalar fun _ => w.cell []
  replace ρ data := data.onScalar ρ.cell
  fill_fill w v data := Json.onScalar_onScalar _ _ data
  exists_own data := by
    cases data with
    | bool b => exact ⟨.uniform ⟨.bool true, rfl⟩ (.bool b), rfl⟩
    | number n => exact ⟨.uniform ⟨.bool true, rfl⟩ (.number n), rfl⟩
    | string s => exact ⟨.uniform ⟨.bool true, rfl⟩ (.string s), rfl⟩
    | null | array _ | object _ => exact ⟨.blank, rfl⟩
  fill_map ρ w data := (Json.onScalar_onScalar _ _ data).symm

/-- A pair whose second component holds the values. -/
def second (o : Occurrences β) : Occurrences (α × β) where
  fill w p := (p.1, o.fill w p.2)
  replace ρ p := (p.1, o.replace ρ p.2)
  fill_fill w v p := by rw [o.fill_fill]
  exists_own p := by
    obtain ⟨w, hw⟩ := o.exists_own p.2
    exact ⟨w, by rw [hw]⟩
  fill_map ρ w p := by rw [o.fill_map]

/-- Each item of a list is filled with content of its own. -/
def fillList (fill : Filling → α → α) : Filling → List α → List α
  | _, [] => []
  | w, a :: as => fill w.left a :: fillList fill w.right as

/-- A list of data. -/
def list (o : Occurrences α) : Occurrences (List α) where
  fill w as := fillList o.fill w as
  replace ρ as := as.map (o.replace ρ)
  fill_fill w v as := by
    induction as generalizing w v with
    | nil => rfl
    | cons a as ih => rw [fillList, fillList, fillList, o.fill_fill, ih]
  exists_own as := by
    induction as with
    | nil => exact ⟨.blank, rfl⟩
    | cons a as ih =>
      obtain ⟨w, hw⟩ := o.exists_own a
      obtain ⟨v, hv⟩ := ih
      exact ⟨.pair w v, by rw [fillList, Filling.left_pair, Filling.right_pair, hw, hv]⟩
  fill_map ρ w as := by
    induction as generalizing w with
    | nil => rfl
    | cons a as ih =>
      rw [fillList, fillList, List.map_cons, Filling.left_map, Filling.right_map, o.fill_map, ih]

/-- A right side of an assignment: a bound value, or SQL as it is. -/
def ofSetValue : Occurrences SetValue where
  fill w
    | .value v => .value (ofValue.fill w v)
    | .raw sql => .raw sql
  replace ρ
    | .value v => .value (ofValue.replace ρ v)
    | .raw sql => .raw sql
  fill_fill w v s := by
    cases s with
    | value u => exact congrArg SetValue.value (ofValue.fill_fill w v u)
    | raw sql => rfl
  exists_own s := by
    cases s with
    | value v =>
      obtain ⟨w, hw⟩ := ofValue.exists_own v
      exact ⟨w, congrArg SetValue.value hw⟩
    | raw sql => exact ⟨.blank, rfl⟩
  fill_map ρ w s := by
    cases s with
    | value v => exact congrArg SetValue.value (ofValue.fill_map ρ w v)
    | raw sql => rfl

/-- A row as an object, whose scalar fields are its values; other JSON data are no row. -/
def ofJsonRow : Occurrences Json where
  fill w
    | .object fields => .object (ofCell.second.list.fill w fields)
    | other => other
  replace ρ
    | .object fields => .object (ofCell.second.list.replace ρ fields)
    | other => other
  fill_fill w v data := by
    cases data with
    | object fields => exact congrArg Json.object (ofCell.second.list.fill_fill w v fields)
    | _ => rfl
  exists_own data := by
    cases data with
    | object fields =>
      obtain ⟨w, hw⟩ := ofCell.second.list.exists_own fields
      exact ⟨w, congrArg Json.object hw⟩
    | _ => exact ⟨.blank, rfl⟩
  fill_map ρ w data := by
    cases data with
    | object fields => exact congrArg Json.object (ofCell.second.list.fill_map ρ w fields)
    | _ => rfl

/-- Rows as an array of objects, or one row. -/
def ofJsonRows : Occurrences Json where
  fill w
    | .array items => .array (ofJsonRow.list.fill w items)
    | other => ofJsonRow.fill w other
  replace ρ
    | .array items => .array (ofJsonRow.list.replace ρ items)
    | other => ofJsonRow.replace ρ other
  fill_fill w v data := by
    cases data with
    | array items => exact congrArg Json.array (ofJsonRow.list.fill_fill w v items)
    | object fields => exact ofJsonRow.fill_fill w v (.object fields)
    | _ => rfl
  exists_own data := by
    cases data with
    | array items =>
      obtain ⟨w, hw⟩ := ofJsonRow.list.exists_own items
      exact ⟨w, congrArg Json.array hw⟩
    | object fields =>
      obtain ⟨w, hw⟩ := ofJsonRow.exists_own (.object fields)
      exact ⟨w, hw⟩
    | _ => exact ⟨.blank, rfl⟩
  fill_map ρ w data := by
    cases data with
    | array items => exact congrArg Json.array (ofJsonRow.list.fill_map ρ w items)
    | object fields => exact ofJsonRow.fill_map ρ w (.object fields)
    | _ => rfl

/-- A named value, a row of values and a row of named values. -/
abbrev ofRow : Occurrences (List Value) := ofValue.list

abbrev ofPairs : Occurrences NamedRow := ofValue.second.list

end Occurrences

/-! ## Names of occurrences -/

/-- An occurrence by its address: of a value, or of a scalar in JSON data. -/
inductive Slot where
  | value (a : Address)
  | cell (a : Address)
  deriving DecidableEq, Repr

/-- The value in a slot. -/
def Filling.get (w : Filling) : Slot → Value
  | .value a => (w.value a).1
  | .cell a => (w.cell a).value

namespace Slot

/-- An address as bytes. -/
def bytes (a : Address) : List UInt8 := a.map fun turn => if turn then 1 else 0

/-- An address as text. -/
def text (a : Address) : String := String.ofList (a.map fun turn => if turn then '1' else '0')

/-- The address that bytes encode. -/
def ofBytes (bs : List UInt8) : Address := bs.map (· == 1)

/-- The address that a text encodes. -/
def ofText (s : String) : Address := s.toList.map (· == '1')

@[simp] theorem ofBytes_bytes (a : Address) : ofBytes (bytes a) = a := by
  rw [ofBytes, bytes, List.map_map]
  exact (List.map_congr_left fun turn _ => by cases turn <;> rfl).trans (List.map_id a)

@[simp] theorem ofText_text (a : Address) : ofText (text a) = a := by
  rw [ofText, text, String.toList_ofList, List.map_map]
  exact (List.map_congr_left fun turn _ => by cases turn <;> rfl).trans (List.map_id a)

/-- The slot that a value names. -/
def ofValue : Value → Slot
  | .bytes bs => .value (ofBytes bs)
  | .text s => .cell (ofText s)
  | _ => .cell []

end Slot

namespace Filling

/-- Every address has its own name as content. -/
def names : Filling := ⟨fun a => ⟨.bytes (Slot.bytes a), rfl⟩, fun a => .string (Slot.text a)⟩

/-- Names as the content that they are the names of. -/
def reading (w : Filling) : Replacement where
  value v := if v.isNull then v else w.get (Slot.ofValue v)
  cell
    | .string s => w.cell (Slot.ofText s)
    | .bool _ | .number _ => w.cell []
  isNull_value v := by
    split
    · rfl
    · next h =>
      have hget (slot : Slot) : (w.get slot).isNull = false := by
        cases slot with
        | value a => exact (w.value a).2
        | cell a => exact JsonScalar.isNull_value _
      rw [hget, Bool.eq_false_iff.mpr h]
  value_cell c := by
    rw [if_neg (by simp [JsonScalar.isNull_value])]
    cases c with
    | bool _ | string _ => rfl
    | number n => cases n <;> rfl

/-- The filled-in content is what its names are read as. -/
theorem map_reading_names (w : Filling) : names.map w.reading = w := by
  have hvalue (a : Address) : (w.reading.bound (names.value a)) = w.value a :=
    Subtype.ext (congrArg (fun b => (w.value b).1) (Slot.ofBytes_bytes a))
  have hcell (a : Address) : w.reading.cell (names.cell a) = w.cell a :=
    congrArg w.cell (Slot.ofText_text a)
  rw [map, funext hvalue, funext hcell]

theorem value_reading {w : Filling} {v : Value} (h : v.isNull = false) :
    w.reading.value v = w.get (Slot.ofValue v) :=
  if_neg (Bool.eq_false_iff.mp h)

end Filling

end BoundSql
