import Mathlib.Data.List.AList
import Mathlib.Data.List.Sort
import Mathlib.Tactic.IntervalCases
import SensorSystem.Host.Capture.CaptureManifestCodec

/-! The files that `capture_segments.rs` keeps in the directory of one stream, and the file
operations it makes on them. A crash loses what no sync covers: the end of a file, or a file whose
directory entry was not synced. It is assumed of the file system that a header is never torn and
that a completed rename stays. -/

namespace SensorSystem.Host

open List Base

def digitChar (digit : Nat) : Char := Char.ofNat (48 + digit)

/-- A number in decimal, padded with zeros to a width. -/
def decimalDigits : Nat → Nat → List Char
  | 0, _ => []
  | width + 1, value => decimalDigits width (value / 10) ++ [digitChar (value % 10)]

def parseDecimal (digits : List Char) : Nat :=
  digits.foldl (fun value digit => value * 10 + (digit.toNat - 48)) 0

@[simp] theorem length_decimalDigits (width value : Nat) :
    (decimalDigits width value).length = width := by
  induction width generalizing value with
  | zero => rfl
  | succ width ih => simp [decimalDigits, ih]

theorem digitChar_spec {digit : Nat} (bounded : digit < 10) :
    (digitChar digit).isDigit = true ∧ (digitChar digit).toNat - 48 = digit := by
  interval_cases digit <;> decide

theorem isDigit_decimalDigits (width value : Nat) :
    (decimalDigits width value).all Char.isDigit = true := by
  induction width generalizing value with
  | zero => rfl
  | succ width ih =>
    have digit := (digitChar_spec (Nat.mod_lt value (by decide : 10 > 0))).1
    simp [decimalDigits, ih, digit]

theorem parseDecimal_decimalDigits (width value : Nat) :
    parseDecimal (decimalDigits width value) = value % 10 ^ width := by
  induction width generalizing value with
  | zero => rw [pow_zero, Nat.mod_one]; rfl
  | succ width ih =>
    have digit := (digitChar_spec (Nat.mod_lt value (by decide : 10 > 0))).2
    have front := ih (value / 10)
    rw [parseDecimal] at front ⊢
    rw [decimalDigits, foldl_append, front, foldl_cons, foldl_nil, digit,
      pow_succ, Nat.mul_comm (10 ^ width) 10, Nat.mod_mul]
    omega

/-- The files of a stream. Their paths are always derived from an ordinal. -/
inductive CaptureFile where
  | wal (ordinal : UInt64)
  | manifest (ordinal : UInt64)
  | temporary (ordinal : UInt64)
deriving DecidableEq

/-- The ordinal of a log, none for other files. -/
def CaptureFile.ordinal? : CaptureFile → Option UInt64
  | wal ordinal => some ordinal
  | _ => none

def windowStem : List Char := ['w', 'i', 'n', 'd', 'o', 'w', '-']
def walSuffix : List Char := ['.', 'w', 'a', 'l']
def manifestSuffix : List Char := ['.', 'm', 'a', 'n', 'i', 'f', 'e', 's', 't']
def temporarySuffix : List Char := ['.', 't', 'm', 'p']

def CaptureFile.name : CaptureFile → List Char
  | wal ordinal => windowStem ++ (decimalDigits 20 ordinal.toNat ++ walSuffix)
  | manifest ordinal => windowStem ++ (decimalDigits 20 ordinal.toNat ++ manifestSuffix)
  | temporary ordinal =>
    '.' :: (windowStem ++ (decimalDigits 20 ordinal.toNat ++ (manifestSuffix ++ temporarySuffix)))

/-- The ordinal in a segment's name, as `discover_segment_ordinals` reads it. -/
def segmentOrdinal (name : List Char) : Except CaptureSegmentError (Option UInt64) :=
  match (windowStem.isPrefixOf? name).bind walSuffix.isSuffixOf? with
  | none => .ok none
  | some number =>
    if number.length ≠ 20 ∨ number.all Char.isDigit = false then .ok none
    else if parseDecimal number < 2 ^ 64 then .ok (some (UInt64.ofNat (parseDecimal number)))
    else .error .invalidSegmentName

theorem isPrefixOf?_append (front rest : List Char) :
    front.isPrefixOf? (front ++ rest) = some rest := by
  induction front with
  | nil => rfl
  | cons head tail ih => simp [isPrefixOf?, ih]

theorem isSuffixOf?_append (front rest : List Char) :
    rest.isSuffixOf? (front ++ rest) = some front := by
  rw [isSuffixOf?, reverse_append, isPrefixOf?_append, Option.map_some,
    reverse_reverse]

/-- Only the name of a segment has an ordinal, and it is its own. -/
theorem segmentOrdinal_name (file : CaptureFile) : segmentOrdinal file.name =
      .ok (match file with | .wal ordinal => some ordinal | _ => none) := by
  cases file with
  | wal ordinal =>
    have bounded := ordinal.toNat_lt
    have short : ordinal.toNat % 10 ^ 20 = ordinal.toNat := Nat.mod_eq_of_lt (by omega)
    rw [segmentOrdinal, CaptureFile.name, isPrefixOf?_append, Option.bind_some,
      isSuffixOf?_append]
    simp only [length_decimalDigits, isDigit_decimalDigits, parseDecimal_decimalDigits, short,
      bounded, ne_eq, not_true_eq_false, Bool.true_eq_false, or_self, if_false, if_true,
      UInt64.ofNat_toNat]
  | manifest ordinal =>
    have other : walSuffix.isSuffixOf? (decimalDigits 20 ordinal.toNat ++ manifestSuffix) =
        none := by
      rw [isSuffixOf?, reverse_append]
      rfl
    rw [segmentOrdinal, CaptureFile.name, isPrefixOf?_append, Option.bind_some, other]
  | temporary ordinal => rfl

/-- The bytes of a file, and how many of them a crash cannot take. -/
structure StoredFile where
  content : List UInt8
  synced : Nat

/-- Files created since the last sync of the directory are not linked yet. -/
structure CaptureDisk where
  files : AList fun _ : CaptureFile => StoredFile
  unlinked : List CaptureFile

namespace CaptureDisk

def empty : CaptureDisk := ⟨∅, []⟩

def lookup (disk : CaptureDisk) (file : CaptureFile) : Option StoredFile :=
  disk.files.lookup file

/-- The bytes of a file; none for a file that is not there. -/
def read (disk : CaptureDisk) (file : CaptureFile) : List UInt8 :=
  ((disk.lookup file).map (·.content)).getD []

def put (disk : CaptureDisk) (file : CaptureFile) (stored : StoredFile) : CaptureDisk :=
  { disk with files := disk.files.insert file stored }

/-- `open` with `create`: an empty file. -/
def create (disk : CaptureDisk) (file : CaptureFile) : CaptureDisk :=
  { disk.put file ⟨[], 0⟩ with unlinked := file :: disk.unlinked }

/-- `write_all` at the end of a file. -/
def append (disk : CaptureDisk) (file : CaptureFile) (bytes : List UInt8) : CaptureDisk :=
  match disk.lookup file with
  | none => disk
  | some stored => disk.put file ⟨stored.content ++ bytes, stored.synced⟩

/-- `write_file_header` on an empty file. -/
def writeHeader (disk : CaptureDisk) (file : CaptureFile) (header : List UInt8) : CaptureDisk :=
  disk.put file ⟨header, header.length⟩

/-- `sync_data` and `sync_all`. -/
def sync (disk : CaptureDisk) (file : CaptureFile) : CaptureDisk :=
  match disk.lookup file with
  | none => disk
  | some stored => disk.put file ⟨stored.content, stored.content.length⟩

def setLength (disk : CaptureDisk) (file : CaptureFile) (length : Nat) : CaptureDisk :=
  match disk.lookup file with
  | none => disk
  | some stored => disk.put file ⟨stored.content.take length, min stored.synced length⟩

def syncDirectory (disk : CaptureDisk) : CaptureDisk :=
  { disk with unlinked := [] }

def rename (disk : CaptureDisk) (from_ to_ : CaptureFile) : CaptureDisk :=
  match disk.lookup from_ with
  | none => disk
  | some stored =>
    ⟨(disk.files.erase from_).insert to_ stored, (disk.unlinked.erase from_).erase to_⟩

theorem lookup_put (disk : CaptureDisk) (file other : CaptureFile) (stored : StoredFile) :
    (disk.put file stored).lookup other =
      if other = file then some stored else disk.lookup other := by
  rw [lookup, put]
  split
  · rename_i same
    rw [same]
    exact AList.lookup_insert _
  rename_i different
  exact AList.lookup_insert_ne different

variable {disk : CaptureDisk} {stored : StoredFile} {file : CaptureFile}

theorem lookup_append (found : disk.lookup file = some stored) (bytes : List UInt8)
    (other : CaptureFile) : (disk.append file bytes).lookup other =
      if other = file then some ⟨stored.content ++ bytes, stored.synced⟩
      else disk.lookup other := by
  rw [append, found]
  exact lookup_put _ _ _ _

theorem lookup_sync (found : disk.lookup file = some stored) (other : CaptureFile) :
    (disk.sync file).lookup other =
      if other = file then some ⟨stored.content, stored.content.length⟩ else disk.lookup other := by
  rw [sync, found]
  exact lookup_put _ _ _ _

theorem lookup_rename {from_ to_ : CaptureFile} (found : disk.lookup from_ = some stored)
    (other : CaptureFile) : (disk.rename from_ to_).lookup other =
      if other = to_ then some stored else if other = from_ then none else disk.lookup other := by
  rw [rename, found]
  change AList.lookup _ (AList.insert _ _ _) = _
  split
  · rename_i same
    rw [same]
    exact AList.lookup_insert _
  rename_i different
  rw [AList.lookup_insert_ne different]
  split
  · rename_i same
    rw [same]
    exact AList.lookup_erase _ _
  rename_i other
  exact AList.lookup_erase_ne other

/-- What a crash can leave of a disk. -/
structure Crashed (disk after : CaptureDisk) : Prop where
  kept : ∀ file stored, after.lookup file = some stored → ∃ before,
    disk.lookup file = some before ∧ stored.synced = stored.content.length ∧
      ∃ length, before.synced ≤ length ∧ stored.content = before.content.take length
  lost : ∀ file, after.lookup file = none → disk.lookup file ≠ none → file ∈ disk.unlinked
  linked : after.unlinked = []

/-- `discover_segment_ordinals`. -/
def discoverSegmentOrdinals (disk : CaptureDisk) : Except CaptureSegmentError (List UInt64) := do
  let found ← disk.files.keys.mapM (fun file => segmentOrdinal file.name)
  let ordinals := (found.filterMap id).insertionSort (· ≤ ·)
  if ordinals.IsChain (· ≠ ·) then .ok ordinals else .error .duplicateSegmentOrdinal

/-- The ordinals of the logs that are there, in order. -/
theorem discoverSegmentOrdinals_eq {ordinals : List UInt64}
    (ascending : ordinals.Pairwise (· < ·))
    (present : ∀ ordinal, ordinal ∈ ordinals ↔ disk.lookup (.wal ordinal) ≠ none) :
    disk.discoverSegmentOrdinals = .ok ordinals := by
  have parsed : disk.files.keys.mapM (fun file => segmentOrdinal file.name) =
      .ok (disk.files.keys.map CaptureFile.ordinal?) := by
    have each : (fun file : CaptureFile => segmentOrdinal file.name) =
        fun file => pure file.ordinal? := by
      funext file
      rw [segmentOrdinal_name]
      cases file <;> rfl
    rw [each]
    exact mapM_pure
  let found := (disk.files.keys.map CaptureFile.ordinal?).filterMap id
  have mem : ∀ ordinal, ordinal ∈ found ↔ ordinal ∈ ordinals := by
    intro ordinal
    rw [present, mem_filterMap, Option.ne_none_iff_isSome, lookup, AList.lookup_isSome,
      AList.mem_keys]
    constructor
    · rintro ⟨_, entry, rfl⟩
      obtain ⟨file, there, same⟩ := mem_map.mp entry
      cases file with
      | wal other =>
        cases same
        exact there
      | manifest other => cases same
      | temporary other => cases same
    · intro there
      exact ⟨some ordinal, mem_map.mpr ⟨_, there, rfl⟩, rfl⟩
  have distinct : found.Nodup := by
    change (filterMap id _).Nodup
    rw [filterMap_map]
    refine disk.files.nodupKeys.filterMap ?_
    rintro (first | first | first) (second | second | second) value left right
    all_goals cases left
    all_goals cases right
    rfl
  have sorted : found.insertionSort (· ≤ ·) = ordinals := by
    have perm : found.Perm ordinals :=
      (perm_ext_iff_of_nodup distinct (ascending.imp (UInt64.ne_of_lt))).mpr mem
    exact Perm.eq_of_pairwise' (pairwise_insertionSort (· ≤ ·) found)
      (ascending.imp UInt64.le_of_lt) ((perm_insertionSort _ _).trans perm)
  have chain : ordinals.IsChain (· ≠ ·) := (ascending.imp (UInt64.ne_of_lt)).isChain
  rw [discoverSegmentOrdinals, parsed, ok_bind]
  rw [sorted, if_pos chain]

end CaptureDisk
end SensorSystem.Host
