import Mathlib.Data.UInt
import Mathlib.Tactic.Common

/-! A byte string is cut into blocks of non-zero bytes, each preceded by a code byte that is one
more than its length. A code below 255 stands for a zero after the block, except after the last
block. `encodeFrom` is the encoding with a block still open; `Writer` is the buffer algorithm that
patches code bytes in place. -/

namespace SensorSystem.Base.Cobs

open List

/-- A finished block with its code byte in front. -/
def close (block : List UInt8) : List UInt8 :=
  UInt8.ofNat (block.length + 1) :: block

/-- The encoding of what follows an open block of non-zero bytes. -/
def encodeFrom : List UInt8 → List UInt8 → List UInt8
  | block, [] => close block
  | block, byte :: input =>
    if byte = 0 then close block ++ encodeFrom [] input
    else if block.length + 2 = 255 then close (block ++ [byte]) ++ encodeFrom [] input
    else encodeFrom (block ++ [byte]) input

variable (input : List UInt8)

def encode : List UInt8 :=
  encodeFrom [] input

/-- Decode the rest of a body behind the bytes written so far, up to a limit. -/
def decode (limit : Nat) (written : List UInt8) : List UInt8 → Option (List UInt8)
  | [] => some written
  | code :: input =>
    if code = 0 ∨ input.length < code.toNat - 1 ∨ limit < written.length + (code.toNat - 1) then
      none
    else if code ≠ 0xff ∧ input.drop (code.toNat - 1) ≠ [] then
      if written.length + (code.toNat - 1) = limit then none
      else decode limit (written ++ input.take (code.toNat - 1) ++ [0])
        (input.drop (code.toNat - 1))
    else decode limit (written ++ input.take (code.toNat - 1)) (input.drop (code.toNat - 1))
termination_by input => input.length
decreasing_by all_goals
  rw [length_drop]
  exact Nat.lt_succ_of_le (Nat.sub_le _ _)

@[simp] theorem length_close (block : List UInt8) : (close block).length = block.length + 1 :=
  rfl

/-- The open block and its code byte are part of the encoding. -/
theorem length_block_lt (block input : List UInt8) :
    block.length < (encodeFrom block input).length := by
  induction input generalizing block with
  | nil => simp [encodeFrom]
  | cons byte input ih =>
    rw [encodeFrom]
    split
    · simp only [length_append, length_close]
      omega
    split
    · simp only [length_append, length_close]
      omega
    have rest := ih (block ++ [byte])
    rw [length_append] at rest
    omega

theorem length_encodeFrom_pos (block input : List UInt8) : 0 < (encodeFrom block input).length :=
  Nat.zero_lt_of_lt (length_block_lt block input)

/-- One code byte, and one more for every full block. -/
theorem length_encodeFrom_le (block input : List UInt8) (open_ : block.length ≤ 253) :
    (encodeFrom block input).length ≤
      block.length + input.length + 1 + (block.length + input.length) / 254 := by
  induction input generalizing block with
  | nil =>
    simp only [encodeFrom, length_close, length_nil]
    omega
  | cons byte input ih =>
    rw [encodeFrom]
    split
    · have rest := ih [] (Nat.zero_le _)
      simp only [length_append, length_close, length_nil, length_cons] at rest ⊢
      omega
    split
    · have rest := ih [] (Nat.zero_le _)
      simp only [length_append, length_close, length_nil, length_cons] at rest ⊢
      omega
    have rest := ih (block ++ [byte]) (by
      rw [length_append, length_singleton]
      omega)
    simp only [length_append, length_cons, length_nil] at rest ⊢
    omega

variable {block : List UInt8}

theorem zero_not_mem_close (open_ : block.length ≤ 254) (nonzero : 0 ∉ block) :
    0 ∉ close block := by
  rw [close, mem_cons, not_or]
  refine ⟨fun zero => ?_, nonzero⟩
  have value := congrArg UInt8.toNat zero
  rw [UInt8.toNat_ofNat', UInt8.toNat_zero] at value
  omega

/-- An encoding contains no zero. -/
theorem zero_not_mem_encodeFrom (open_ : block.length ≤ 253) (nonzero : 0 ∉ block) :
    0 ∉ encodeFrom block input := by
  induction input generalizing block with
  | nil => exact zero_not_mem_close (by omega) nonzero
  | cons byte input ih =>
    rw [encodeFrom]
    split
    · rw [mem_append, not_or]
      exact ⟨zero_not_mem_close (by omega) nonzero, ih (Nat.zero_le _) not_mem_nil⟩
    rename_i other
    have extended : 0 ∉ block ++ [byte] := by
      simp [nonzero, Ne.symm other]
    split
    · rw [mem_append, not_or]
      refine ⟨zero_not_mem_close ?_ extended, ih (Nat.zero_le _) not_mem_nil⟩
      rw [length_append, length_singleton]
      omega
    refine ih ?_ extended
    rw [length_append, length_singleton]
    omega

variable {written : List UInt8}

/-- Decoding a closed block in front of more bytes. -/
theorem decode_close_append {limit : Nat} (rest : List UInt8) (open_ : block.length ≤ 254)
    (fits : written.length + block.length ≤ limit) : decode limit written (close block ++ rest) =
      if block.length ≠ 254 ∧ rest ≠ [] then
        if written.length + block.length = limit then none
        else decode limit (written ++ block ++ [0]) rest
      else decode limit (written ++ block) rest := by
  have code : (UInt8.ofNat (block.length + 1)).toNat = block.length + 1 := by
    rw [UInt8.toNat_ofNat']
    omega
  have count : (UInt8.ofNat (block.length + 1)).toNat - 1 = block.length := by omega
  have nonzero : UInt8.ofNat (block.length + 1) ≠ 0 := by
    intro zero
    have value := congrArg UInt8.toNat zero
    rw [code, UInt8.toNat_zero] at value
    omega
  have full : UInt8.ofNat (block.length + 1) ≠ 0xff ↔ block.length ≠ 254 := by
    rw [not_iff_not, ← UInt8.toNat_inj, code]
    change block.length + 1 = 255 ↔ _
    omega
  have accepted : ¬ (UInt8.ofNat (block.length + 1) = 0 ∨
      (block ++ rest).length < (UInt8.ofNat (block.length + 1)).toNat - 1 ∨
      limit < written.length + ((UInt8.ofNat (block.length + 1)).toNat - 1)) := by
    rw [count, length_append]
    rintro (zero | short | long)
    · exact nonzero zero
    · omega
    · omega
  rw [close, cons_append, decode, if_neg accepted]
  simp only [count, drop_left, take_left, full]

/-- Decoding an encoding returns its input. -/
theorem decode_encodeFrom {limit : Nat} (open_ : block.length ≤ 253)
    (fits : written.length + block.length + input.length ≤ limit) :
    decode limit written (encodeFrom block input) = some (written ++ block ++ input) := by
  induction input generalizing written block with
  | nil =>
    rw [length_nil, Nat.add_zero] at fits
    have last := decode_close_append [] (show block.length ≤ 254 by omega) fits
    rw [append_nil] at last
    rw [encodeFrom, last, if_neg (by simp), decode, append_nil]
  | cons byte input ih =>
    rw [length_cons] at fits
    have more : encodeFrom [] input ≠ [] := ne_nil_of_length_pos (length_encodeFrom_pos _ _)
    rw [encodeFrom]
    split
    · rename_i zero
      subst zero
      have rest : (written ++ block ++ [0]).length + ([] : List UInt8).length + input.length ≤
          limit := by
        simp only [length_append, length_cons, length_nil]
        omega
      rw [decode_close_append _ (by omega) (by omega), if_pos ⟨by omega, more⟩,
        if_neg (by omega), ih (Nat.zero_le _) rest]
      simp
    · have extended : (block ++ [byte]).length = block.length + 1 := by simp
      split
      · rename_i full
        have rest : (written ++ (block ++ [byte])).length + ([] : List UInt8).length +
            input.length ≤ limit := by
          simp only [length_append, length_cons, length_nil]
          omega
        rw [decode_close_append _ (by omega) (by omega), if_neg (by omega),
          ih (Nat.zero_le _) rest]
        simp
      · rw [ih (by omega) (by omega)]
        simp

/-- The code byte of the open block is still to be written at `codeIndex`. -/
structure Writer where
  output : List UInt8
  codeIndex : Nat
  writeIndex : Nat
  code : UInt8

namespace Writer

/-- Write the code byte of the open block and start a new one behind it. -/
def closeBlock (writer : Writer) : Writer where
  output := writer.output.set writer.codeIndex writer.code
  codeIndex := writer.writeIndex
  writeIndex := writer.writeIndex + 1
  code := 1

/-- Write a byte into the open block. -/
def putByte (writer : Writer) (byte : UInt8) : Writer where
  output := writer.output.set writer.writeIndex byte
  codeIndex := writer.codeIndex
  writeIndex := writer.writeIndex + 1
  code := writer.code + 1

/-- One byte of input. -/
def step (writer : Writer) (byte : UInt8) : Writer :=
  if byte = 0 then writer.closeBlock
  else if (writer.putByte byte).code = 0xff then (writer.putByte byte).closeBlock
  else writer.putByte byte

/-- The buffer holds the finished blocks and the open block behind its cell. -/
structure Tracks (writer : Writer) (done block : List UInt8) (room : Nat) : Prop where
  content : ∃ cell tail, writer.output = done ++ cell :: (block ++ tail) ∧ tail.length = room
  codeIndex_eq : writer.codeIndex = done.length
  writeIndex_eq : writer.writeIndex = done.length + 1 + block.length
  code_eq : writer.code.toNat = block.length + 1

variable {block done : List UInt8} {room : Nat} {writer : Writer}
  (tracks : Tracks writer done block (room + 1))

include tracks

theorem Tracks.putByte (open_ : block.length ≤ 253) (byte : UInt8) :
    Tracks (writer.putByte byte) done (block ++ [byte]) room := by
  obtain ⟨⟨cell, tail, output, length⟩, codeIndex, writeIndex, code⟩ := tracks
  obtain ⟨next, tail, rfl⟩ := exists_cons_of_length_eq_add_one length
  refine ⟨⟨cell, tail, ?_, by simpa using length⟩, codeIndex, ?_, ?_⟩
  · rw [Writer.putByte, output, writeIndex, set_append_right _ _ (by omega)]
    have offset : done.length + 1 + block.length - done.length = block.length + 1 := by omega
    simp [offset]
  · change writer.writeIndex + 1 = _
    rw [writeIndex, length_append, length_singleton]
    omega
  · rw [Writer.putByte, UInt8.toNat_add, code, length_append, length_singleton]
    change (block.length + 1 + 1) % 2 ^ 8 = _
    omega

theorem Tracks.closeBlock : Tracks writer.closeBlock (done ++ Cobs.close block) [] room := by
  obtain ⟨⟨cell, tail, output, length⟩, codeIndex, writeIndex, code⟩ := tracks
  obtain ⟨next, tail, rfl⟩ := exists_cons_of_length_eq_add_one length
  have spelled : UInt8.ofNat (block.length + 1) = writer.code := by
    rw [← code, UInt8.ofNat_toNat]
  refine ⟨⟨next, tail, ?_, by simpa using length⟩, ?_, ?_, rfl⟩
  · rw [Writer.closeBlock, output, codeIndex, set_append_right _ _ (Nat.le_refl _)]
    simp [Cobs.close, spelled]
  · change writer.writeIndex = _
    rw [writeIndex, length_append, length_close]
    omega
  · change writer.writeIndex + 1 = _
    rw [writeIndex, length_append, length_close, length_nil]
    omega

omit tracks

/-- The final patch leaves the finished blocks and the last one. -/
theorem Tracks.finish (tracks : Tracks writer done block room) :
    (writer.output.set writer.codeIndex writer.code).take writer.writeIndex =
        done ++ Cobs.close block ∧
      writer.writeIndex = (done ++ Cobs.close block).length := by
  obtain ⟨⟨cell, tail, output, length⟩, codeIndex, writeIndex, code⟩ := tracks
  have spelled : UInt8.ofNat (block.length + 1) = writer.code := by
    rw [← code, UInt8.ofNat_toNat]
  have size : writer.writeIndex = (done ++ Cobs.close block).length := by
    rw [writeIndex, length_append, length_close]
    omega
  refine ⟨?_, size⟩
  have patched : writer.output.set writer.codeIndex writer.code =
      (done ++ Cobs.close block) ++ tail := by
    rw [output, codeIndex, set_append_right _ _ (Nat.le_refl _)]
    simp [Cobs.close, spelled]
  rw [patched, size, take_left]

theorem foldl_step (tracks : Tracks writer done block room) (open_ : block.length ≤ 253)
    (input : List UInt8) (fits : (encodeFrom block input).length ≤ block.length + 1 + room) :
    ((input.foldl step writer).output.set (input.foldl step writer).codeIndex
        (input.foldl step writer).code).take (input.foldl step writer).writeIndex =
        done ++ encodeFrom block input ∧
      (input.foldl step writer).writeIndex = (done ++ encodeFrom block input).length := by
  induction input generalizing writer done block room with
  | nil => exact tracks.finish
  | cons byte input ih =>
    have positive := length_encodeFrom_pos [] input
    rw [encodeFrom] at fits ⊢
    rw [foldl_cons, step]
    split
    · rename_i zero
      rw [if_pos zero, length_append, length_close] at fits
      obtain ⟨room, rfl⟩ := Nat.exists_eq_succ_of_ne_zero (show room ≠ 0 by omega)
      rw [← append_assoc]
      refine ih tracks.closeBlock (Nat.zero_le _) ?_
      rw [length_nil]
      omega
    rename_i nonzero
    rw [if_neg nonzero] at fits
    have needed : room ≠ 0 := by
      split at fits
      · rw [length_append, length_close, length_append, length_singleton] at fits
        omega
      · have tail := length_block_lt (block ++ [byte]) input
        rw [length_append, length_singleton] at tail
        omega
    obtain ⟨room, rfl⟩ := Nat.exists_eq_succ_of_ne_zero needed
    have put := tracks.putByte open_ byte
    have full : (writer.putByte byte).code = 0xff ↔ block.length + 2 = 255 := by
      rw [← UInt8.toNat_inj, put.code_eq, length_append, length_singleton]
      exact Iff.rfl
    by_cases closes : block.length + 2 = 255
    · rw [if_pos (full.mpr closes), if_pos closes]
      rw [if_pos closes, length_append, length_close, length_append,
        length_singleton] at fits
      obtain ⟨room, rfl⟩ := Nat.exists_eq_succ_of_ne_zero (show room ≠ 0 by omega)
      rw [← append_assoc]
      refine ih put.closeBlock (Nat.zero_le _) ?_
      rw [length_nil]
      omega
    rw [if_neg (fun code => closes (full.mp code)), if_neg closes]
    rw [if_neg closes] at fits
    refine ih put ?_ ?_
    · rw [length_append, length_singleton]
      omega
    · rw [length_append, length_singleton]
      omega

end Writer
end SensorSystem.Base.Cobs
