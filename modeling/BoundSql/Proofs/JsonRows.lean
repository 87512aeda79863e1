import BoundSql.Proofs.RowLayout

/-!
# Rows of JSON data

JSON data make the rows of an INSERT exactly if they are objects of scalars under the same keys,
and the keys are column names. The cells of the table are then the scalars of the objects, and an
integer stays the same integer, in a signed word if it fits there and in an unsigned one otherwise
(`Query.insertJson_takes_uniform_objects`).

All rows are looked at before any column is. So data that contain something else than an object, or
a value that is no scalar, are refused for the first such place, whatever else is wrong with them.

## Main definitions

* `Json.Document` — data as they are read, with each key of an object once.
* `Value.Represents` — the value is what scalar data say.
* `Json.IsUniform` — the rows are objects of scalars under the same keys.
* `Json.Misfit` — the first place where data are not made of objects of scalars, as an error.
-/

namespace BoundSql

open ColumnName (IsValid)

/-! ## Lists of results -/

section Results

variable {ε α β : Type} {f : α → Except ε β} {l : List α}

theorem mapM_eq_ok_iff {bs : List β} :
    l.mapM f = .ok bs ↔ List.Forall₂ (fun a b => f a = .ok b) l bs := by
  induction l generalizing bs with
  | nil => simp [pure, Except.pure, eq_comm]
  | cons a l ih =>
    simp only [List.mapM_cons, bind_eq_ok_iff, ih]
    constructor
    · rintro ⟨b, hb, more, hmore, h⟩
      obtain rfl := Except.ok.inj h
      exact .cons hb hmore
    · rintro (_ | ⟨hb, hmore⟩)
      exact ⟨_, hb, _, hmore, rfl⟩

/-- The error of a list is the error of its first element that has one. -/
theorem mapM_eq_error_iff {e : ε} :
    l.mapM f = .error e ↔ ∃ before a after, l = before ++ a :: after ∧
      (∀ x ∈ before, ∃ b, f x = .ok b) ∧ f a = .error e := by
  constructor
  · intro h
    induction l with
    | nil => cases h
    | cons a l ih =>
      rw [List.mapM_cons] at h
      cases ha : f a with
      | error e' =>
        rw [ha] at h
        obtain rfl := Except.error.inj h
        exact ⟨[], a, l, rfl, by simp, ha⟩
      | ok b =>
        cases hl : l.mapM f with
        | ok bs => simp [ha, hl, bind, Except.bind, pure, Except.pure] at h
        | error e' =>
          obtain rfl : e' = e := by simpa [ha, hl, bind, Except.bind] using h
          obtain ⟨before, a', after, rfl, hbefore, ha'⟩ := ih hl
          exact ⟨a :: before, a', after, rfl, List.forall_mem_cons.mpr ⟨⟨b, ha⟩, hbefore⟩, ha'⟩
  · rintro ⟨before, a, after, rfl, hbefore, ha⟩
    induction before with
    | nil => simp [ha, bind, Except.bind]
    | cons x before ih =>
      rw [List.forall_mem_cons] at hbefore
      obtain ⟨⟨b, hb⟩, hbefore⟩ := hbefore
      rw [List.cons_append, List.mapM_cons, hb]
      simp only [ih hbefore, bind, Except.bind]

end Results

/-! ## What is read -/

/-- The integer that a number is, if it is kept as one. -/
def JsonNumber.integer? : JsonNumber → Option Int
  | int i => some i.toInt
  | uint n _ => some n.toNat
  | float _ => none

namespace Json

/-- The rows of a document: the items of an array, or the document itself. -/
def rows : Json → List Json
  | .array items => items
  | other => [other]

/-- JSON data as they are read: an object that makes a row has each key once. -/
structure Document where
  json : Json
  nodup_keys : ∀ fields, .object fields ∈ json.rows → (fields.map (·.1)).Nodup

/-- The keys of an object that is read are different. -/
theorem nodup_keys_ofFields {given fields : List (String × Json)}
    (h : ofFields given = .object fields) : (fields.map (·.1)).Nodup := by
  obtain rfl := Json.object.inj h
  clear h
  suffices hfold : ∀ kept : List (String × Json), (kept.map (·.1)).Nodup →
      ((given.foldl (fun acc field => setField acc field.1 field.2) kept).map (·.1)).Nodup from
    hfold [] List.nodup_nil
  induction given with
  | nil => exact fun _ hkept => hkept
  | cons field given ih =>
    intro kept hkept
    refine ih _ ?_
    rw [map_fst_setField]
    split
    · exact hkept
    · next hnew => simpa using hkept.concat hnew

/-- The document that is an array of objects, whatever keys are given for them. -/
def Document.ofObjects (given : List (List (String × Json))) : Document where
  json := .array (given.map ofFields)
  nodup_keys _ h := by
    obtain ⟨_, -, hfields⟩ := List.mem_map.mp h
    exact nodup_keys_ofFields hfields

/-- Neither an array nor an object. -/
def IsScalar : Json → Prop
  | .array _ | .object _ => False
  | _ => True

/-- There is a row, all rows are objects of scalars, the first one has keys and these are column
names, and the later ones have the same keys. -/
def IsUniform (data : Json) : Prop :=
  ∃ first later, data.rows = (first :: later).map .object ∧ first ≠ [] ∧
    (∀ field ∈ first, ColumnName.validate field.1 = .ok ()) ∧
    (∀ fields ∈ first :: later, ∀ field ∈ fields, field.2.IsScalar) ∧
    ∀ fields ∈ later, ∀ key, key ∈ fields.map (·.1) ↔ key ∈ first.map (·.1)

/-- An object whose values are all scalars. -/
def IsFlat : Json → Prop
  | .object fields => ∀ field ∈ fields, field.2.IsScalar
  | _ => False

/-- What is wrong with a row that is no object of scalars: that it is no object, or the first of
its values that is no scalar. -/
inductive RowMisfit (index : Nat) : Json → QueryError → Prop
  | kind {row : Json} (h : ∀ fields, row ≠ .object fields) :
    RowMisfit index row (.invalidColumn ("insert row " ++ toString index ++
      " must be an object keyed by column name, got " ++ row.kindName))
  | value {before after : List (String × Json)} {key : String} {nested : Json}
      (hbefore : ∀ field ∈ before, field.2.IsScalar) (hnested : ¬ nested.IsScalar) :
    RowMisfit index (.object (before ++ (key, nested) :: after))
      (.nonScalarValue key nested.kindName)

/-- What is wrong with the first row that is no object of scalars. -/
def Misfit (data : Json) (e : QueryError) : Prop :=
  ∃ before row after, data.rows = before ++ row :: after ∧ (∀ earlier ∈ before, earlier.IsFlat) ∧
    RowMisfit before.length row e

end Json

namespace Value

/-- The value is the scalar that the data are. An integer is the same in a signed word, or in an
unsigned word if it is too great for that. -/
inductive Represents : Value → Json → Prop
  | null : Represents .null .null
  | bool (b : Bool) : Represents (.bool b) (.bool b)
  | text (s : String) : Represents (.text s) (.string s)
  | int {n : JsonNumber} {z : Int} {i : Int64} (hn : n.integer? = some z) (hz : z < Nat.pow 2 63)
      (hi : i.toInt = z) : Represents (.int i) (.number n)
  | uint {n : JsonNumber} {z : Int} {u : UInt64} (hn : n.integer? = some z) (hz : Nat.pow 2 63 ≤ z)
      (hu : u.toNat = z) : Represents (.uint u) (.number n)
  | float (x : Binary64) : Represents (.float x) (.number (.float x))

theorem ofJson_eq_ok_iff {column : String} {data : Json} {v : Value} :
    ofJson column data = .ok v ↔ v.Represents data := by
  constructor
  · intro hv
    cases data with
    | number n =>
      obtain rfl := Except.ok.inj hv
      cases n with
      | int i => exact .int rfl i.toInt_lt rfl
      | uint u large => exact .uint rfl (by exact_mod_cast large) rfl
      | float x => exact .float x
    | null =>
      obtain rfl := Except.ok.inj hv
      exact .null
    | bool b =>
      obtain rfl := Except.ok.inj hv
      exact .bool b
    | string s =>
      obtain rfl := Except.ok.inj hv
      exact .text s
    | array _ | object _ => cases hv
  · intro hv
    cases hv with
    | null | bool | text | float => rfl
    | @int n z i hn hz hi =>
      cases n with
      | int j =>
        obtain rfl := Option.some.inj hn
        rw [ofJson, ofJsonNumber, Int64.toInt_inj.mp hi]
      | uint u large =>
        -- The same integer in an unsigned word would be too small to be kept there.
        obtain rfl := Option.some.inj hn
        omega
      | float x => cases hn
    | @uint n z u hn hz hu =>
      cases n with
      | int j =>
        have hsmall : j.toInt < Nat.pow 2 63 := j.toInt_lt
        obtain rfl := Option.some.inj hn
        omega
      | uint w _ =>
        obtain rfl := Option.some.inj hn
        rw [ofJson, ofJsonNumber, UInt64.toNat_inj.mp (Int.ofNat_inj.mp hu)]
      | float x => cases hn

theorem exists_ofJson_iff {column : String} {data : Json} :
    (∃ v, ofJson column data = .ok v) ↔ data.IsScalar := by
  cases data <;> simp [ofJson, Json.IsScalar]

theorem ofJson_eq_error_iff {column : String} {data : Json} {e : QueryError} :
    ofJson column data = .error e ↔ ¬ data.IsScalar ∧ e = .nonScalarValue column data.kindName := by
  cases data <;> simp [ofJson, Json.IsScalar, Json.kindName, eq_comm]

end Value

/-! ## Rows one by one -/

namespace RowTable

/-- A field as a pair of a row. -/
def readField (field : String × Json) : Except QueryError (String × Value) := do
  return (field.1, ← Value.ofJson field.1 field.2)

section Field

variable {field : String × Json}

theorem readField_eq_ok_iff {pair : String × Value} : readField field = .ok pair ↔
    pair.1 = field.1 ∧ Value.ofJson field.1 field.2 = .ok pair.2 := by
  rw [readField, bind_eq_ok_iff]
  constructor
  · rintro ⟨v, hv, h⟩
    obtain rfl := Except.ok.inj h
    exact ⟨rfl, hv⟩
  · rintro ⟨hname, hv⟩
    exact ⟨pair.2, hv, congrArg Except.ok (Prod.ext hname.symm rfl)⟩

theorem exists_readField_iff : (∃ pair, readField field = .ok pair) ↔ field.2.IsScalar := by
  have hvalue : (∃ v, Value.ofJson field.1 field.2 = .ok v) ↔ field.2.IsScalar :=
    Value.exists_ofJson_iff
  simp only [readField_eq_ok_iff, ← hvalue]
  constructor
  · rintro ⟨pair, -, hv⟩
    exact ⟨pair.2, hv⟩
  · rintro ⟨v, hv⟩
    exact ⟨(field.1, v), rfl, hv⟩

theorem readField_eq_error_iff {e : QueryError} : readField field = .error e ↔
    ¬ field.2.IsScalar ∧ e = .nonScalarValue field.1 field.2.kindName := by
  rw [← Value.ofJson_eq_error_iff, readField]
  cases Value.ofJson field.1 field.2 <;> simp [bind, Except.bind, pure, Except.pure]

end Field

/-- The pairs of the row are read from the fields. -/
def Reads (fields : List (String × Json)) (row : NamedRow) : Prop :=
  List.Forall₂ (fun field pair => readField field = .ok pair) fields row

section Fields

variable {fields : List (String × Json)} {row : NamedRow}

theorem pairsOfFields_eq_mapM (fields : List (String × Json)) :
    pairsOfFields fields = fields.mapM readField := by
  induction fields with
  | nil => rfl
  | cons field fields ih =>
    rw [pairsOfFields, ih, List.mapM_cons, readField]
    cases Value.ofJson field.1 field.2 <;> rfl

theorem pairsOfFields_eq_ok_iff : pairsOfFields fields = .ok row ↔ Reads fields row := by
  rw [pairsOfFields_eq_mapM, mapM_eq_ok_iff, Reads]

/-- The first field that is no scalar is complained about. -/
theorem pairsOfFields_eq_error_iff {e : QueryError} : pairsOfFields fields = .error e ↔
    ∃ before field after, fields = before ++ field :: after ∧
      (∀ earlier ∈ before, earlier.2.IsScalar) ∧ ¬ field.2.IsScalar ∧
        e = .nonScalarValue field.1 field.2.kindName := by
  rw [pairsOfFields_eq_mapM, mapM_eq_error_iff]
  simp only [exists_readField_iff, readField_eq_error_iff]

theorem rowOfJson_eq_error_iff {index : Nat} {data : Json} {e : QueryError} :
    rowOfJson index data = .error e ↔ data.RowMisfit index e := by
  constructor
  · intro h
    cases data with
    | object fields =>
      obtain ⟨before, field, after, rfl, hbefore, hfield, rfl⟩ := pairsOfFields_eq_error_iff.mp h
      exact .value hbefore hfield
    | null | bool | number | string | array =>
      obtain rfl := Except.error.inj h
      exact .kind (by simp)
  · intro h
    cases h with
    | kind h =>
      cases data with
      | object fields => exact absurd rfl (h fields)
      | null | bool | number | string | array => rfl
    | value hbefore hnested =>
      exact pairsOfFields_eq_error_iff.mpr ⟨_, _, _, rfl, hbefore, hnested, rfl⟩

namespace Reads

theorem map_fst (h : Reads fields row) : row.map (·.1) = fields.map (·.1) := by
  induction h with
  | nil => rfl
  | cons hpair _ ih => rw [List.map_cons, List.map_cons, (readField_eq_ok_iff.mp hpair).1, ih]

theorem mem_iff (h : Reads fields row) {column : String} {v : Value} :
    (column, v) ∈ row ↔ ∃ data, (column, data) ∈ fields ∧ Value.ofJson column data = .ok v := by
  induction h with
  | nil => simp
  | @cons field pair fields row hpair _ ih =>
    obtain ⟨hname, hvalue⟩ := readField_eq_ok_iff.mp hpair
    simp only [List.mem_cons, ih]
    constructor
    · rintro (rfl | ⟨data, hdata, hv⟩)
      · subst hname
        exact ⟨field.2, .inl rfl, hvalue⟩
      · exact ⟨data, .inr hdata, hv⟩
    · rintro ⟨data, rfl | hdata, hv⟩
      · exact .inl (Prod.ext hname.symm (Except.ok.inj (hv.symm.trans hvalue)))
      · exact .inr ⟨data, hdata, hv⟩

end Reads

theorem exists_reads_iff : (∃ row, Reads fields row) ↔ ∀ field ∈ fields, field.2.IsScalar := by
  simp only [Reads, exists_forall₂_iff, exists_readField_iff]

theorem rowOfJson_eq_ok_iff {index : Nat} {data : Json} :
    rowOfJson index data = .ok row ↔ ∃ fields, data = .object fields ∧ Reads fields row := by
  cases data <;> simp [rowOfJson, pairsOfFields_eq_ok_iff]

/-- A row that is an object of scalars is read. -/
theorem exists_rowOfJson_iff {index : Nat} {data : Json} :
    (∃ row, rowOfJson index data = .ok row) ↔ data.IsFlat := by
  cases data with
  | object fields =>
    simp only [rowOfJson, pairsOfFields_eq_ok_iff]
    exact exists_reads_iff
  | null | bool | number | string | array => simp [rowOfJson, Json.IsFlat]

end Fields

/-! ## All rows -/

theorem rowsOfJson_eq_mapM (data : Json) :
    rowsOfJson data = data.rows.zipIdx.mapM fun item => rowOfJson item.2 item.1 := by
  have hitems : ∀ (items : List Json) (index : Nat), rowsOfItems index items =
      (items.zipIdx index).mapM fun item => rowOfJson item.2 item.1 := by
    intro items
    induction items with
    | nil => exact fun _ => rfl
    | cons item items ih =>
      intro index
      rw [rowsOfItems, ih, List.zipIdx_cons, List.mapM_cons]
  cases data with
  | array items => exact hitems items 0
  | null | bool | number | string | object => simp [rowsOfJson, Json.rows, List.zipIdx]

theorem rowsOfJson_eq_ok_iff {data : Json} {rows : List NamedRow} :
    rowsOfJson data = .ok rows ↔
      ∃ objects, data.rows = objects.map .object ∧ List.Forall₂ Reads objects rows := by
  have hrows : rowsOfJson data = .ok rows ↔ List.Forall₂
      (fun item row => ∃ fields, item = .object fields ∧ Reads fields row) data.rows rows := by
    rw [rowsOfJson_eq_mapM, mapM_eq_ok_iff]
    simp only [rowOfJson_eq_ok_iff]
    conv_rhs => rw [← List.zipIdx_map_fst 0 data.rows, List.forall₂_map_left_iff]
  rw [hrows]
  clear hrows
  -- The induction goes through the rows, which a document does not have for its tail.
  generalize data.rows = items
  constructor
  · intro h
    induction h with
    | nil => exact ⟨[], rfl, .nil⟩
    | cons hrow _ ih =>
      obtain ⟨fields, rfl, hrow⟩ := hrow
      obtain ⟨objects, rfl, hobjects⟩ := ih
      exact ⟨fields :: objects, rfl, .cons hrow hobjects⟩
  · rintro ⟨objects, rfl, h⟩
    rw [List.forall₂_map_left_iff]
    exact h.imp fun fields row hrow => ⟨fields, rfl, hrow⟩

theorem rowsOfJson_eq_error_iff {data : Json} {e : QueryError} :
    rowsOfJson data = .error e ↔ data.Misfit e := by
  rw [rowsOfJson_eq_mapM, mapM_eq_error_iff, Json.Misfit]
  simp only [exists_rowOfJson_iff, rowOfJson_eq_error_iff]
  constructor
  · rintro ⟨before, ⟨row, index⟩, after, hrows, hbefore, hrow⟩
    have hindex : data.rows.zipIdx[before.length]? = some (row, index) := by simp [hrows]
    obtain ⟨_, -, h⟩ := Option.map_eq_some_iff.mp (List.getElem?_zipIdx ▸ hindex)
    obtain rfl : before.length = index := by simpa using congrArg (·.2) h
    refine ⟨before.map (·.1), row, after.map (·.1), ?_, ?_, by rwa [List.length_map]⟩
    · rw [← List.zipIdx_map_fst 0 data.rows, hrows, List.map_append, List.map_cons]
    · exact List.forall_mem_map.mpr hbefore
  · rintro ⟨before, row, after, hrows, hbefore, hrow⟩
    refine ⟨before.zipIdx, (row, before.length), after.zipIdx (before.length + 1), ?_, ?_, hrow⟩
    · rw [hrows, List.zipIdx_append, List.zipIdx_cons, Nat.zero_add]
    · intro item hitem
      exact hbefore item.1 (List.fst_mem_of_mem_zipIdx hitem)

/-- Rows are read from objects if all their values are scalars. -/
theorem exists_forall₂_reads_iff {objects : List (List (String × Json))} :
    (∃ rows, List.Forall₂ Reads objects rows) ↔
      ∀ fields ∈ objects, ∀ field ∈ fields, field.2.IsScalar := by
  simp only [exists_forall₂_iff, exists_reads_iff]

/-- The names of the rows are the keys of the objects. -/
theorem forall_names_iff {objects : List (List (String × Json))} {rows : List NamedRow}
    (h : List.Forall₂ Reads objects rows) {P : List String → Prop} :
    (∀ row ∈ rows, P (row.map (·.1))) ↔ ∀ fields ∈ objects, P (fields.map (·.1)) := by
  induction h with
  | nil => simp
  | cons hrow _ ih => rw [List.forall_mem_cons, List.forall_mem_cons, ih, hrow.map_fst]

theorem exists_forall₂_reads_of_perm {objects objects' : List (List (String × Json))}
    {rows : List NamedRow} (hperm : List.Forall₂ List.Perm objects objects')
    (h : List.Forall₂ Reads objects rows) :
    ∃ rows', List.Forall₂ List.Perm rows rows' ∧ List.Forall₂ Reads objects' rows' := by
  induction hperm generalizing rows with
  | nil =>
    cases h
    exact ⟨[], .nil, .nil⟩
  | cons hfields _ ih =>
    cases h with
    | cons hrow hrest =>
      obtain ⟨row', hrow', hperm'⟩ := List.perm_comp_forall₂ hfields.symm hrow
      obtain ⟨rows', hrows', hrest'⟩ := ih hrest
      exact ⟨row' :: rows', .cons hperm'.symm hrows', .cons hrow' hrest'⟩

/-- There is a place to complain about exactly if a row is no object of scalars. -/
theorem exists_misfit_iff {data : Json} :
    (∃ e, data.Misfit e) ↔ ∃ row ∈ data.rows, ¬ row.IsFlat := by
  constructor
  · rintro ⟨e, before, row, after, hrows, -, hrow⟩
    refine ⟨row, by simp [hrows], fun hflat => ?_⟩
    obtain ⟨values, hvalues⟩ := exists_rowOfJson_iff.mpr hflat
    rw [rowOfJson_eq_error_iff.mpr hrow] at hvalues
    cases hvalues
  · rintro ⟨row, hmem, hflat⟩
    cases hread : rowsOfJson data with
    | error e => exact ⟨e, rowsOfJson_eq_error_iff.mp hread⟩
    | ok rows =>
      obtain ⟨objects, hobjects, hreads⟩ := rowsOfJson_eq_ok_iff.mp hread
      rw [hobjects] at hmem
      obtain ⟨fields, hfields, rfl⟩ := List.mem_map.mp hmem
      exact absurd (exists_forall₂_reads_iff.mp ⟨rows, hreads⟩ fields hfields) hflat

section Document

variable {data : Json} {t : RowTable}

theorem ofJson_eq_ok_iff : ofJson data = .ok t ↔ ∃ objects rows,
    data.rows = objects.map .object ∧ List.Forall₂ Reads objects rows ∧ ofRows rows = .ok t := by
  simp only [ofJson, bind_eq_ok_iff, rowsOfJson_eq_ok_iff]
  constructor
  · rintro ⟨rows, ⟨objects, hobjects, hreads⟩, ht⟩
    exact ⟨objects, rows, hobjects, hreads, ht⟩
  · rintro ⟨objects, rows, hobjects, hreads, ht⟩
    exact ⟨rows, ⟨objects, hobjects, hreads⟩, ht⟩

theorem ofJson_eq_error_of_misfit {e : QueryError} (h : data.Misfit e) :
    ofJson data = .error e := by
  rw [ofJson, rowsOfJson_eq_error_iff.mpr h]
  rfl

/-- Rows that are read from objects make a table if the keys of the objects allow it. -/
theorem exists_ofRows_of_reads_iff {first : List (String × Json)}
    {later : List (List (String × Json))} {rows : List NamedRow}
    (h : List.Forall₂ Reads (first :: later) rows) : (∃ t, ofRows rows = .ok t) ↔
      first ≠ [] ∧ (∀ field ∈ first, IsValid field.1) ∧ (first.map (·.1)).Nodup ∧
        ∀ fields ∈ later, (fields.map (·.1)).Perm (first.map (·.1)) := by
  cases h with
  | @cons _ row _ rows hfirst hlater =>
    have hne : row ≠ [] ↔ first ≠ [] := by
      rw [← List.length_pos_iff, ← List.length_pos_iff, hfirst.length_eq]
    rw [exists_ofRows_cons_iff, hne, hfirst.map_fst, List.forall_mem_map,
      forall_names_iff hlater (P := (List.Perm · (first.map (·.1))))]

theorem exists_ofJson_iff (data : Json.Document) :
    (∃ t, ofJson data.json = .ok t) ↔ data.json.IsUniform := by
  have hkeys : ∀ objects : List (List (String × Json)), data.json.rows = objects.map .object →
      ∀ fields ∈ objects, (fields.map (·.1)).Nodup := by
    intro objects hobjects fields hfields
    exact data.nodup_keys fields (hobjects ▸ List.mem_map_of_mem hfields)
  simp only [Json.IsUniform, ColumnName.validate_eq_ok_iff]
  constructor
  · rintro ⟨t, ht⟩
    obtain ⟨objects, rows, hobjects, hreads, ht⟩ := ofJson_eq_ok_iff.mp ht
    cases objects with
    | nil =>
      cases hreads
      cases ht
    | cons first later =>
      obtain ⟨hne, hvalid, hnodup, hnames⟩ := (exists_ofRows_of_reads_iff hreads).mp ⟨t, ht⟩
      exact ⟨first, later, hobjects, hne, hvalid, exists_forall₂_reads_iff.mp ⟨rows, hreads⟩,
        fun fields hfields key => (hnames fields hfields).mem_iff⟩
  · rintro ⟨first, later, hobjects, hne, hvalid, hscalar, hsame⟩
    obtain ⟨hnodup, hlater⟩ := List.forall_mem_cons.mp (hkeys _ hobjects)
    obtain ⟨rows, hreads⟩ := exists_forall₂_reads_iff.mpr hscalar
    obtain ⟨t, ht⟩ := (exists_ofRows_of_reads_iff hreads).mpr ⟨hne, hvalid, hnodup,
      fun fields hfields => (List.perm_ext_iff_of_nodup (hlater fields hfields) hnodup).mpr
        (hsame fields hfields)⟩
    exact ⟨t, ofJson_eq_ok_iff.mpr ⟨_, rows, hobjects, hreads, ht⟩⟩

/-- The columns are the keys of the first object, and each object has a value for each of them. -/
theorem shape_of_ofJson (ht : ofJson data = .ok t) :
    (∀ first later, data.rows = .object first :: later → t.columns = first.map (·.1)) ∧
      t.rows.flatten.length = data.rows.length * t.columns.length := by
  obtain ⟨objects, rows, hobjects, hreads, ht⟩ := ofJson_eq_ok_iff.mp ht
  constructor
  · intro first later hrows
    rw [hrows] at hobjects
    cases hreads with
    | nil => cases hobjects
    | cons hfirst _ =>
      obtain rfl := Json.object.inj (List.cons.inj hobjects).1
      rw [(ofRows_cons_eq_ok_iff.mp ht).2.1, hfirst.map_fst]
  · rw [length_flatten_of_laidOut (laidOut_of_ofRows ht).2, hobjects, List.length_map,
      hreads.length_eq]

/-- The cells of a table are what the data represent there. -/
theorem cell_of_ofJson (ht : ofJson data = .ok t) {i j : Nat}
    {fields : List (String × Json)} {column : String}
    (hrow : data.rows[i]? = some (.object fields)) (hcolumn : t.columns[j]? = some column)
    {v : Value} : t.rows.flatten[i * t.columns.length + j]? = some v ↔
      ∃ item, (column, item) ∈ fields ∧ v.Represents item := by
  obtain ⟨objects, rows, hobjects, hreads, ht⟩ := ofJson_eq_ok_iff.mp ht
  obtain ⟨hnodup, hlaid⟩ := laidOut_of_ofRows ht
  rw [hobjects, List.getElem?_map, Option.map_eq_some_iff] at hrow
  obtain ⟨_, hfields, heq⟩ := hrow
  obtain rfl := Json.object.inj heq
  obtain ⟨hi, rfl⟩ := List.getElem?_eq_some_iff.mp hfields
  have hi' : i < rows.length := hreads.length_eq ▸ hi
  have hread : Reads objects[i] rows[i] := (List.forall₂_iff_get.mp hreads).2 i hi hi'
  rw [getElem?_flatten_of_laidOut hnodup hlaid (List.getElem?_eq_getElem hi') hcolumn,
    hread.mem_iff]
  exact exists_congr fun item => and_congr_right fun _ => Value.ofJson_eq_ok_iff

/-- The order of the fields in the later objects does not matter. -/
theorem ofJson_of_perm {data' : Json} {first : List (String × Json)}
    {later later' : List (List (String × Json))} (ht : ofJson data = .ok t)
    (hrows : data.rows = (first :: later).map .object)
    (hrows' : data'.rows = (first :: later').map .object)
    (hperm : List.Forall₂ List.Perm later later') : ofJson data' = .ok t := by
  obtain ⟨objects, rows, hobjects, hreads, ht⟩ := ofJson_eq_ok_iff.mp ht
  rw [hrows, List.map_inj_right fun _ _ => Json.object.inj] at hobjects
  subst hobjects
  cases hreads with
  | cons hfirst hlater =>
    obtain ⟨rows', hrows, hlater'⟩ := exists_forall₂_reads_of_perm hperm hlater
    exact ofJson_eq_ok_iff.mpr ⟨_, _, hrows', .cons hfirst hlater', ofRows_of_perm hrows ht⟩

end Document

end RowTable

namespace Query

theorem insertJson_eq_ok_iff {q q' : Query} (hq : q.statement = none) {data : Json} :
    q.insertJson data = .ok q' ↔ ∃ t, RowTable.ofJson data = .ok t ∧
      q' = { q with statement := some (.insert t.columns t.rows false []) } := by
  rw [insertJson_eq, bind_eq_ok_iff]
  refine exists_congr fun t => and_congr_right fun _ => ?_
  rw [RowTable.insertTable_eq hq, Except.ok.injEq, eq_comm]

/-- A query without a statement takes JSON data exactly if they are rows of scalars under the same
keys, which are column names.

The columns are then the keys of the first row, and each cell is what the row says under the key of
its column, in whatever order the later rows have their fields. Data that are refused leave the
query as it was. A row that is no object of scalars is refused for the first place where it is not,
whatever else is wrong. -/
theorem insertJson_takes_uniform_objects {q : Query} (hq : q.statement = none)
    (data : Json.Document) :
    ((∃ q', q.insertJson data.json = .ok q') ↔ data.json.IsUniform) ∧
    (∀ q', q.insertJson data.json = .ok q' → ∃ t : RowTable,
      q' = { q with statement := some (.insert t.columns t.rows false []) } ∧
      (∀ first later, data.json.rows = .object first :: later → t.columns = first.map (·.1)) ∧
      t.rows.flatten.length = data.json.rows.length * t.columns.length ∧
      (∀ (i j : Nat) (fields : List (String × Json)) (column : String) (v : Value),
        data.json.rows[i]? = some (.object fields) → t.columns[j]? = some column →
          (t.rows.flatten[i * t.columns.length + j]? = some v ↔
            ∃ item, (column, item) ∈ fields ∧ v.Represents item)) ∧
      ∀ (data' : Json) (first : List (String × Json)) (later later' : List (List (String × Json))),
        data.json.rows = (first :: later).map .object →
          data'.rows = (first :: later').map .object →
            List.Forall₂ List.Perm later later' → q.insertJson data' = .ok q') ∧
    (∀ e, q.insertJson data.json = .error e → (q.perform (.insertJson data.json)).query = q) ∧
    ((∃ e, data.json.Misfit e) ↔ ∃ row ∈ data.json.rows, ¬ row.IsFlat) ∧
    ∀ e, data.json.Misfit e → q.insertJson data.json = .error e := by
  refine ⟨?_, ?_, ?_, RowTable.exists_misfit_iff, ?_⟩
  · rw [← RowTable.exists_ofJson_iff data]
    simp only [insertJson_eq_ok_iff hq]
    constructor
    · rintro ⟨q', t, ht, -⟩
      exact ⟨t, ht⟩
    · rintro ⟨t, ht⟩
      exact ⟨_, t, ht, rfl⟩
  · intro q' hq'
    obtain ⟨t, ht, rfl⟩ := (insertJson_eq_ok_iff hq).mp hq'
    obtain ⟨hcolumns, hlength⟩ := RowTable.shape_of_ofJson ht
    refine ⟨t, rfl, hcolumns, hlength, ?_, ?_⟩
    · intro i j fields column v hrow hcolumn
      exact RowTable.cell_of_ofJson ht hrow hcolumn
    · intro data' first later later' hrows hrows' hperm
      have ht' := RowTable.ofJson_of_perm ht hrows hrows' hperm
      exact (insertJson_eq_ok_iff hq).mpr ⟨t, ht', rfl⟩
  · intro e he
    have hperform : q.perform (.insertJson data.json) = .ofResult q (q.insertJson data.json) :=
      q.perform_eq_ofResult (by simp)
    rw [hperform, he, Attempt.ofResult_error]
  · intro e he
    rw [insertJson_eq, RowTable.ofJson_eq_error_of_misfit he]
    rfl

/-- Two objects with their fields in different order make a table, the greater number in an unsigned
word; a key that is given twice has its last value. A nested value in the second object is what is
wrong even if the first one has no fields. -/
theorem insertJson_takes_two_objects :
    let large : JsonNumber := .uint 9223372036854775808 (by decide)
    let first : List (String × Json) := [("a", .number large), ("b", .null)]
    let second : List (String × Json) := [("b", .string "x"), ("a", .number (.int (-1)))]
    let data : Json.Document := .ofObjects [("a", .string "y") :: first, second]
    let nested : Json.Document := .ofObjects [[], [("a", .array [])]]
    Query.new.statement = none ∧ data.json.rows = [.object first, .object second] ∧
      data.json.IsUniform ∧
      (∃ t : RowTable, t.columns = ["a", "b"] ∧
        t.rows.flatten[0 * t.columns.length + 0]? = some (.uint 9223372036854775808) ∧
        t.rows.flatten[1 * t.columns.length + 0]? = some (.int (-1)) ∧
        Query.new.insertJson data.json =
          .ok { Query.new with statement := some (.insert t.columns t.rows false []) } ∧
        Query.new.insertJson (.array [.object first, .object second.reverse]) =
          Query.new.insertJson data.json) ∧
      Query.new.insertJson nested.json = .error (.nonScalarValue "a" "array") ∧
      (Query.new.perform (.insertJson nested.json)).query = .new := by
  intro large first second data nested
  obtain ⟨hok, htable, -⟩ := insertJson_takes_uniform_objects (q := .new) rfl data
  obtain ⟨-, -, hkeep, -, hmisfit⟩ := insertJson_takes_uniform_objects (q := .new) rfl nested
  have huniform : data.json.IsUniform := by
    refine ⟨first, [second], rfl, by simp [first], by decide, ?_, ?_⟩
    · simp only [first, second, List.forall_mem_cons, Json.IsScalar]
      simp
    · intro fields hfields key
      obtain rfl := List.mem_singleton.mp hfields
      exact (List.Perm.swap "a" "b" []).mem_iff
  obtain ⟨q', hq'⟩ := hok.mpr huniform
  obtain ⟨t, rfl, hcolumns, -, hcell, hperm⟩ := htable q' hq'
  have hcolumns : t.columns = ["a", "b"] := hcolumns first [.object second] rfl
  have hmisplaced : Json.RowMisfit 1 (.object ([] ++ [("a", .array [])]))
      (.nonScalarValue "a" "array") := .value (by simp) id
  have herror := hmisfit _ ⟨[.object []], _, [], rfl, by simp [Json.IsFlat], hmisplaced⟩
  refine ⟨rfl, rfl, huniform, ⟨t, hcolumns, ?_, ?_, hq', ?_⟩, herror, hkeep _ herror⟩
  · refine (hcell 0 0 first "a" _ rfl (by rw [hcolumns]; rfl)).mpr ⟨_, List.mem_cons_self, ?_⟩
    exact .uint rfl (by decide) rfl
  · refine (hcell 1 0 second "a" _ rfl (by rw [hcolumns]; rfl)).mpr
      ⟨_, List.mem_cons_of_mem _ List.mem_cons_self, ?_⟩
    exact .int rfl (by decide) rfl
  · rw [hq']
    exact hperm _ first [second] [second.reverse] rfl rfl
      (.cons (List.reverse_perm second).symm .nil)

end Query

end BoundSql
