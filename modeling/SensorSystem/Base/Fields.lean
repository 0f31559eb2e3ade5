import SensorSystem.Base.Bytes

/-! Byte arrays, flags and rows of a table, read at an offset. Next to each read stand its two
directions: what is read back where a value was written, and which bytes a value that was read
stands for. -/

namespace SensorSystem.Base

universe u

/-- `bytes[offset..offset + count].try_into()`. -/
def readBytes (count : Nat) (bytes : List UInt8) (offset : Nat) : Vector UInt8 count :=
  Vector.ofFn fun index => bytes.getD (offset + index) 0

variable {bytes : List UInt8} {count offset : Nat}

theorem toList_readBytes (inside : offset + count ≤ bytes.length) :
    (readBytes count bytes offset).toList = slice bytes offset count := by
  apply List.ext_getElem
  · rw [length_slice inside, Vector.length_toList]
  intro index first second
  have bound : offset + index < bytes.length := by
    rw [Vector.length_toList] at first
    omega
  simp [readBytes, slice, bound]

theorem readBytes_eq {value : Vector UInt8 count}
    (field : slice bytes offset count = value.toList) : readBytes count bytes offset = value := by
  have inside : count ≤ bytes.length - offset := by
    have width := congrArg List.length field
    rw [slice, List.length_take, List.length_drop, Vector.length_toList] at width
    omega
  apply Vector.toList_inj.mp
  rcases Nat.eq_zero_or_pos count with rfl | some
  · exact List.eq_nil_of_length_eq_zero (by simp) |>.trans
      (List.eq_nil_of_length_eq_zero (by simp)).symm
  · rw [toList_readBytes (by omega), field]

/-- A slice of a slice. -/
theorem slice_slice {width start : Nat} (inside : start + count ≤ width) :
    slice (slice bytes offset width) start count = slice bytes (offset + start) count := by
  rw [slice, slice, slice, List.drop_take, List.take_take, List.drop_drop,
    Nat.min_eq_left (by omega)]

/-- A byte of a field. -/
theorem getD_of_slice {field : List UInt8} {index : Nat}
    (there : slice bytes offset count = field) (inside : index < count) :
    bytes.getD (offset + index) 0 = field.getD index 0 := by
  subst there
  simp [slice, List.getD_eq_getElem?_getD, inside]

theorem eq_replicate_of_not_any (zeros : ¬ bytes.any (· != 0) = true)
    (width : bytes.length = count) : bytes = List.replicate count 0 := by
  subst width
  refine List.eq_replicate_iff.mpr ⟨rfl, fun byte member => ?_⟩
  by_contra nonzero
  exact zeros (List.any_eq_true.mpr ⟨byte, member, by simpa using nonzero⟩)

/-- A word with no bit outside the low ones. -/
theorem toNat_lt_of_and_not {width low : Nat} {word : BitVec width}
    (known : word &&& ~~~(BitVec.ofNat width (2 ^ low - 1)) = 0) : word.toNat < 2 ^ low := by
  apply Nat.lt_pow_two_of_testBit
  intro index past
  rw [← BitVec.getLsbD]
  by_cases inside : index < width
  · have bit := congrArg (·.getLsbD index) known
    rw [BitVec.getLsbD_and, BitVec.getLsbD_not, BitVec.getLsbD_ofNat,
      Nat.testBit_two_pow_sub_one, decide_eq_false (Nat.not_lt.mpr past)] at bit
    simpa [inside] using bit
  · exact BitVec.getLsbD_of_ge _ _ (Nat.not_lt.mp inside)

/-- How a value is kept in a field of a fixed width. -/
structure Row (α : Type u) where
  width : Nat
  bytes : α → List UInt8
  read : List UInt8 → Nat → α
  length_bytes : ∀ value, (bytes value).length = width
  read_eq : ∀ {file offset value}, slice file offset width = bytes value →
    read file offset = value
  bytes_read : ∀ {file offset}, offset + width ≤ file.length →
    bytes (read file offset) = slice file offset width

namespace Row

variable {α : Type u} (row : Row α)

/-- The rows behind each other. -/
def table (values : List α) : List UInt8 := values.flatMap row.bytes

variable (file : List UInt8)

/-- The loop over the positions of a table that begins at an offset. -/
def readTable (start count : Nat) : List α :=
  (List.range count).map fun position => row.read file (start + position * row.width)

theorem length_table (values : List α) : (row.table values).length = values.length * row.width := by
  induction values with
  | nil => simp [table]
  | cons value rest ih =>
    rw [table, List.flatMap_cons, List.length_append, row.length_bytes, ← table, ih,
      List.length_cons, Nat.succ_mul, Nat.add_comm]

@[simp] theorem length_readTable (start count : Nat) :
    (row.readTable file start count).length = count := by
  simp [readTable]

theorem readTable_succ (start count : Nat) : row.readTable file start (count + 1) =
      row.read file start :: row.readTable file (start + row.width) count := by
  rw [readTable, List.range_succ_eq_map, List.map_cons, List.map_map, readTable]
  congr 1
  · rw [Nat.zero_mul, Nat.add_zero]
  · refine List.map_congr_left fun position _ => ?_
    rw [Function.comp, Nat.succ_mul, Nat.add_assoc, Nat.add_comm row.width]

theorem readTable_eq {file rest : List UInt8} {values : List α} (start : Nat)
    (held : file.drop start = row.table values ++ rest) :
    row.readTable file start values.length = values := by
  induction values generalizing start with
  | nil => rfl
  | cons value values ih =>
    rw [table, List.flatMap_cons, List.append_assoc] at held
    have first : slice file start row.width = row.bytes value := by
      rw [slice, held, List.take_left' (row.length_bytes value)]
    have later : file.drop (start + row.width) = row.table values ++ rest := by
      rw [← List.drop_drop, held, List.drop_left' (row.length_bytes value), table]
    rw [List.length_cons, readTable_succ, row.read_eq first, ih _ later]

theorem table_readTable {file : List UInt8} {start count : Nat}
    (inside : start + count * row.width ≤ file.length) :
    row.table (row.readTable file start count) = slice file start (count * row.width) := by
  induction count generalizing start with
  | zero => simp [readTable, table, slice]
  | succ count ih =>
    rw [Nat.succ_mul] at inside ⊢
    rw [readTable_succ, table, List.flatMap_cons, row.bytes_read (by omega), ← table,
      ih (by omega), Nat.add_comm (count * row.width), slice, slice, slice, ← List.drop_drop,
      List.take_add]

end Row

end SensorSystem.Base
