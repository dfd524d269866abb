import DtmcLinux.Dtcore.Dterr
import DtmcLinux.Foundation.StepRun
import Mathlib.Algebra.Ring.Int.Defs
import Mathlib.Algebra.Ring.Nat
import Mathlib.Logic.Function.Basic

set_option autoImplicit false

/-! # The blob in a file

`dtnvblob_linux_file.c` keeps a blob as the content of the configured file. A write replaces the
file; a read gives the size, or as many bytes as the caller has room for. The file system is a byte
string for each file there is. -/

namespace DtnvblobLinuxFile

/-! ## The functions -/

/-- The files, by name. -/
abbrev Files := String → Option (List UInt8)

/-- `ENOENT` of Linux. -/
def ENOENT : ℤ := 2

/-- `dtnvblob_linux_file_t`: the configured file name. -/
structure NvblobFile where
  filename : Option String

/-- What the calls of a read return: the `errno` of a `fopen` that fails though the file may be there,
    whether the two `fseek` and `ftell` succeed, the number of bytes `fread` stops at, if it does, and
    `ferror`. -/
structure ReadCalls where
  fopenErrno : Option ℤ
  fseekEnd : Bool
  ftell : Bool
  fseekSet : Bool
  freadLimit : Option ℕ
  ferror : Bool

/-- No input error and no short read. -/
def ReadCalls.succeed : ReadCalls where
  fopenErrno := none
  fseekEnd := true
  ftell := true
  fseekSet := true
  freadLimit := none
  ferror := false

/-- What the calls of a write return. When the write fails, the file has the first `kept` of the bytes
    that `fwrite` has taken. -/
structure WriteCalls where
  fopenErrno : Option ℤ
  fwriteLimit : Option ℕ
  fflush : Bool
  kept : ℕ

/-- The bytes that a transfer which may stop early moves. -/
def transferred (limit : Option ℕ) (bytes : List UInt8) : List UInt8 :=
  match limit with
  | none => bytes
  | some n => bytes.take n

/-- What a read returns, leaves in `*size` (`none` for a `NULL` pointer) and stores at `blob`. -/
structure ReadResult where
  dterr : Option Dterr
  size : Option Int32
  data : List UInt8

/-- The code under `cleanup` of `dtnvblob_linux_file_read`, for an error. -/
def readFailed (dterr : Dterr) (size : Option Int32) (data : List UInt8) : ReadResult :=
  { dterr := some (.rechain dterr "dtnvblob_linux_file_read failed"), size := size, data := data }

/-- `fopen(filename, "rb")`: the content, or `errno`. -/
def fopenRead (files : Files) (filename : String) (calls : ReadCalls) : Except ℤ (List UInt8) :=
  match calls.fopenErrno, files filename with
  | some errno, _ => .error errno
  | none, none => .error ENOENT
  | none, some content => .ok content

/-- `to_read`, for a capacity of `*size`. -/
def toRead (fileLen size : Int32) : Int32 :=
  let capacity := if size < 0 then 0 else size
  if fileLen > capacity then capacity else fileLen

/-- The end of `dtnvblob_linux_file_read`: reads up to `*size` bytes. -/
def readContent (filename : String) (content : List UInt8) (calls : ReadCalls) (size : Int32) :
    ReadResult :=
  let toRead := toRead (Int32.ofNat content.length) size
  let data := if toRead > 0 then
      transferred calls.freadLimit (content.take toRead.toNatClampNeg)
    else []
  if data.length < toRead.toNatClampNeg ∧ calls.ferror then
    readFailed (.new .io s!"dtnvblob_linux_file_read: fread failed for '{filename}'") (some size) data
  else
    { dterr := none, size := some (Int32.ofNat data.length), data := data }

/-- `dtnvblob_linux_file_read`; `blob` tells whether the caller passed a place for the bytes. -/
def read (files : Files) (self : NvblobFile) (calls : ReadCalls) (blob : Bool)
    (size : Option Int32) : ReadResult :=
  match size, self.filename with
  | none, _ => readFailed (.assertNotNull "size") none []
  | some size, none =>
    readFailed (.new .internal "dtnvblob_linux_file_read: filename not configured") (some size) []
  | some size, some filename =>
    match fopenRead files filename calls with
    | .error errno =>
      if errno = ENOENT then
        readFailed (.new .notfound s!"dtnvblob_linux_file_read: file '{filename}' does not exist")
          (some size) []
      else
        readFailed (.new .io s!"dtnvblob_linux_file_read: failed to open '{filename}' for read (errno={errno})")
          (some size) []
    | .ok content =>
      if !calls.fseekEnd then
        readFailed (.new .io s!"dtnvblob_linux_file_read: fseek end failed for '{filename}'")
          (some size) []
      else if !calls.ftell then
        readFailed (.new .io s!"dtnvblob_linux_file_read: ftell failed for '{filename}'")
          (some size) []
      else if content.length > 2147483647 then
        readFailed (.new .io s!"dtnvblob_linux_file_read: file '{filename}' too large ({content.length} bytes)")
          (some size) []
      else if !calls.fseekSet then
        readFailed (.new .io s!"dtnvblob_linux_file_read: fseek start failed for '{filename}'")
          (some size) []
      else if !blob then
        -- a size query
        { dterr := none, size := some (Int32.ofNat content.length), data := [] }
      else
        readContent filename content calls size

/-- What a write returns, leaves in `*size`, and makes of the files. -/
structure WriteResult where
  dterr : Option Dterr
  size : Option Int32
  files : Files

/-- The code under `cleanup` of `dtnvblob_linux_file_write`, for an error. -/
def writeFailed (dterr : Dterr) (size : Option Int32) (files : Files) : WriteResult :=
  { dterr := some (.rechain dterr "dtnvblob_linux_file_write failed"), size := size, files := files }

/-- The bytes that a write of `*size` bytes is to write; `blob` is the memory from the pointer on. -/
def toWrite (blob : ℕ → UInt8) (size : Int32) : List UInt8 :=
  (List.range (if size < 0 then 0 else size).toNatClampNeg).map blob

/-- `dtnvblob_linux_file_write` -/
def write (files : Files) (self : NvblobFile) (calls : WriteCalls) (blob : Option (ℕ → UInt8))
    (size : Option Int32) : WriteResult :=
  match blob, size, self.filename with
  | none, _, _ => writeFailed (.assertNotNull "blob") size files
  | some _, none, _ => writeFailed (.assertNotNull "size") none files
  | some _, some _, none =>
    writeFailed (.new .internal "dtnvblob_linux_file_write: filename not configured") size files
  | some blob, some size, some filename =>
    match calls.fopenErrno with
    | some errno =>
      writeFailed (.new .io s!"dtnvblob_linux_file_write: failed to open '{filename}' for write (errno={errno})")
        (some size) files
    | none =>
      let bytes := toWrite blob size
      let written := transferred calls.fwriteLimit bytes
      if written.length < bytes.length then
        writeFailed (.new .io s!"dtnvblob_linux_file_write: fwrite incomplete for '{filename}' ({written.length} of {bytes.length} bytes)")
          (some size) (Function.update files filename (some (written.take calls.kept)))
      else if !calls.fflush then
        writeFailed (.new .io s!"dtnvblob_linux_file_write: fflush failed for '{filename}'")
          (some size) (Function.update files filename (some (written.take calls.kept)))
      else
        { dterr := none
          size := some (Int32.ofNat written.length)
          files := Function.update files filename (some written) }

/-! ## Runs -/

/-- A call of one of the two functions, with pointers that are not `NULL` apart from that of a size
    query. -/
inductive Call where
  | write (blob : ℕ → UInt8) (size : Int32) (calls : WriteCalls)
  | read (blob : Bool) (size : Int32) (calls : ReadCalls)

/-- The files after a call. -/
def step (self : NvblobFile) (files : Files) : Call → Option Files
  | .write blob size calls => some (write files self calls (some blob) (some size)).files
  | .read _ _ _ => some files

/-- The blob that a call writes: a negative size counts as zero. -/
def Call.blob : Call → Option (List UInt8)
  | .write blob size _ => some ((List.range size.toInt.toNat).map blob)
  | .read _ _ _ => none

/-- The latest blob written. -/
def latest (history : List Call) : Option (List UInt8) := (history.filterMap Call.blob).getLast?

/-- A call that is a write succeeds. -/
def WriteSucceeds (self : NvblobFile) (files : Files) : Call → Prop
  | .write blob size calls => (write files self calls (some blob) (some size)).dterr = none
  | .read _ _ _ => True

/-- A read succeeds: it reports `n` in `*size` and stores `data`. -/
structure ReadResult.Gives (r : ReadResult) (n : ℕ) (data : List UInt8) : Prop where
  dterr : r.dterr = none
  size : r.size.map Int32.toInt = some (n : ℤ)
  data_eq : r.data = data

/-- A read finds no file: it says so, and leaves `*size` and the caller's memory alone. -/
structure ReadResult.NotFound (r : ReadResult) (size : Int32) : Prop where
  dterr : r.dterr.bind Dterr.errorCode = some .notfound
  size_eq : r.size = some size
  data_eq : r.data = []

/-! ## Sizes -/

/-- A negative size counts as zero. -/
theorem clamp_toNat (size : Int32) :
    (if size < 0 then 0 else size).toNatClampNeg = size.toInt.toNat := by
  split
  · next hneg =>
      have hlt : size.toInt < 0 := Int32.lt_iff_toInt_lt.1 hneg
      rw [Int.toNat_of_nonpos (by omega)]
      rfl
  · rfl

theorem toWrite_eq (blob : ℕ → UInt8) (size : Int32) :
    toWrite blob size = (List.range size.toInt.toNat).map blob := by
  rw [toWrite, clamp_toNat]

/-- A blob written is not too large to be read. -/
theorem length_blob_lt {call : Call} {bytes : List UInt8} (h : call.blob = some bytes) :
    bytes.length < 2 ^ 31 := by
  cases call with
  | read blob size calls => cases h
  | write blob size calls =>
      rw [← Option.some.inj h, List.length_map, List.length_range]
      have hmax := size.toInt_lt
      omega

/-! ## Writes -/

/-- A write that succeeds leaves exactly the blob in the file. -/
theorem write_files {files : Files} {filename : String} {calls : WriteCalls} {blob : ℕ → UInt8}
    {size : Int32}
    (h : (write files ⟨some filename⟩ calls (some blob) (some size)).dterr = none) :
    (write files ⟨some filename⟩ calls (some blob) (some size)).files
      = Function.update files filename (some (toWrite blob size)) := by
  unfold write at h ⊢
  dsimp only at h ⊢
  cases hopen : calls.fopenErrno with
  | some errno => rw [hopen] at h; cases h
  | none =>
      rw [hopen] at h
      dsimp only at h ⊢
      split at h
      · cases h
      · next hlength =>
          split at h
          · cases h
          · next hflush =>
              rw [if_neg hlength, if_neg hflush]
              have hall : transferred calls.fwriteLimit (toWrite blob size) = toWrite blob size := by
                cases hlimit : calls.fwriteLimit with
                | none => rfl
                | some n =>
                    rw [hlimit, transferred, List.length_take] at hlength
                    exact List.take_of_length_le (by omega)
              rw [hall]

theorem latest_cons (call : Call) (history : List Call) :
    latest (call :: history) = (latest history).or call.blob := by
  cases hblob : call.blob with
  | none => rw [latest, List.filterMap_cons_none hblob, Option.or_none, latest]
  | some bytes =>
      rw [latest, List.filterMap_cons_some hblob, List.getLast?_cons, latest]
      cases (history.filterMap Call.blob).getLast? <;> rfl

/-- **Run lemma.** The object's file has the latest blob written, or what was in it before. -/
theorem file_after {filename : String} (history : List Call) (files files' : Files)
    (hwrites : Run.AllSteps (step ⟨some filename⟩) (WriteSucceeds ⟨some filename⟩) files history)
    (hrun : Run.exec (step ⟨some filename⟩) files history = some files') :
    files' filename = (latest history).or (files filename) := by
  induction history generalizing files with
  | nil =>
      obtain rfl := Option.some.inj hrun
      rfl
  | cons call history ih =>
      obtain ⟨next, hnext, hrest⟩ := (Run.exec_cons_eq_some _ _ _ _ _).1 hrun
      rw [ih next (hwrites.2 next hnext) hrest, latest_cons, Option.or_assoc]
      cases call with
      | read blob size calls =>
          obtain rfl := Option.some.inj hnext
          rfl
      | write blob size calls =>
          obtain rfl := Option.some.inj hnext
          rw [write_files hwrites.1, Function.update_self, toWrite_eq]
          rfl

theorem latest_mem {history : List Call} {bytes : List UInt8} (h : latest history = some bytes) :
    ∃ call ∈ history, call.blob = some bytes :=
  List.mem_filterMap.1 (List.mem_of_getLast? h)

/-! ## Reads -/

/-- A read without an input error of a file that is not there. -/
theorem read_missing {files : Files} {filename : String} (h : files filename = none) (blob : Bool)
    (size : Int32) : (read files ⟨some filename⟩ .succeed blob (some size)).NotFound size := by
  have hopen : fopenRead files filename .succeed = .error ENOENT := by
    rw [fopenRead, h]
    rfl
  simp only [read, hopen, if_true]
  exact ⟨rfl, rfl, rfl⟩

section There

variable {files : Files} {filename : String} {content : List UInt8}
  (hcontent : files filename = some content) (hlength : content.length < 2 ^ 31)

include hcontent hlength in
/-- A read without an input error of a file that is there gets past the checks. -/
theorem read_there (blob : Bool) (size : Int32) :
    read files ⟨some filename⟩ .succeed blob (some size) =
      if blob then readContent filename content .succeed size
      else { dterr := none, size := some (Int32.ofNat content.length), data := [] } := by
  have hopen : fopenRead files filename .succeed = .ok content := by
    rw [fopenRead, hcontent]
    rfl
  have hsmall : ¬content.length > 2147483647 := by omega
  unfold read
  dsimp only
  rw [hopen]
  dsimp only
  rw [if_neg (by decide), if_neg (by decide), if_neg hsmall, if_neg (by decide)]
  cases blob with
  | false => rfl
  | true => rfl

include hlength in
/-- The bytes to read are the capacity, or the whole file. -/
theorem toRead_toNat (size : Int32) :
    (toRead (Int32.ofNat content.length) size).toNatClampNeg
      = min size.toInt.toNat content.length := by
  have hfile : (Int32.ofNat content.length).toInt = content.length :=
    Int32.toInt_ofNat_of_lt hlength
  have hclamp := clamp_toNat size
  have hnonneg : 0 ≤ (if size < 0 then 0 else size).toInt := by
    split
    · exact Int.le_refl 0
    · next hge => exact Int.not_lt.1 fun hlt => hge (Int32.lt_iff_toInt_lt.2 hlt)
  unfold toRead
  generalize (if size < 0 then 0 else size) = capacity at hclamp hnonneg ⊢
  rw [Int32.toNatClampNeg] at hclamp
  dsimp only
  split
  · next hmore =>
      have hlt := Int32.lt_iff_toInt_lt.1 hmore
      rw [Int32.toNatClampNeg]
      omega
  · next hless =>
      have hle := Int.not_lt.1 fun hlt => hless (Int32.lt_iff_toInt_lt.2 hlt)
      rw [Int32.toNatClampNeg]
      omega

include hlength in
/-- What a read stores, and the number of bytes it reports. -/
theorem readContent_gives (filename : String) (size : Int32) :
    (readContent filename content .succeed size).Gives (min size.toInt.toNat content.length)
      (content.take size.toInt.toNat) := by
  have htoRead := toRead_toNat hlength size
  unfold readContent
  dsimp only
  generalize toRead (Int32.ofNat content.length) size = n at htoRead ⊢
  have hdata : (if n > 0 then transferred ReadCalls.succeed.freadLimit
      (content.take n.toNatClampNeg) else []) = content.take size.toInt.toNat := by
    split
    · rw [htoRead]
      exact List.take_eq_take_iff.2 (by omega)
    · next hzero =>
        have hle : n.toInt ≤ 0 := Int.not_lt.1 fun hlt => hzero (Int32.lt_iff_toInt_lt.2 hlt)
        rw [Int32.toNatClampNeg, Int.toNat_of_nonpos hle] at htoRead
        exact (List.take_eq_nil_iff.2 (by rw [← List.length_eq_zero_iff]; omega)).symm
  rw [hdata, if_neg (by simp [ReadCalls.succeed])]
  refine ⟨rfl, ?_, rfl⟩
  have hsmall : (content.take size.toInt.toNat).length < 2 ^ 31 :=
    Nat.lt_of_le_of_lt (List.length_take_le' _ _) hlength
  rw [Option.map_some, Int32.toInt_ofNat_of_lt hsmall, List.length_take]

end There

/-! ## Whole runs -/

/-- **The round trip.** After any run of reads and writes on an object whose file was not there, all
    of its writes successful: before the first write a read without an input error finds no file;
    after it, a size query reports the size of the latest blob, and a read with room for `size` bytes
    stores exactly the first `size` bytes of it and reports how many these are. -/
theorem read_latest (filename : String) (files : Files) (habsent : files filename = none)
    (history : List Call)
    (hwrites : Run.AllSteps (step ⟨some filename⟩) (WriteSucceeds ⟨some filename⟩) files history)
    (files' : Files) (hrun : Run.exec (step ⟨some filename⟩) files history = some files')
    (size : Int32) :
    (latest history = none → ∀ blob,
      (read files' ⟨some filename⟩ .succeed blob (some size)).NotFound size) ∧
    ∀ bytes, latest history = some bytes →
      (read files' ⟨some filename⟩ .succeed false (some size)).Gives bytes.length [] ∧
      (read files' ⟨some filename⟩ .succeed true (some size)).Gives
        (min (max size.toInt 0).toNat bytes.length) (bytes.take (max size.toInt 0).toNat) := by
  have hfile := file_after history files files' hwrites hrun
  rw [habsent, Option.or_none] at hfile
  constructor
  · intro hnone blob
    exact read_missing (hfile.trans hnone) blob size
  · intro bytes hbytes
    obtain ⟨call, -, hcall⟩ := latest_mem hbytes
    have hlength := length_blob_lt hcall
    have hthere := read_there (hfile.trans hbytes) hlength
    refine ⟨?_, ?_⟩
    · rw [hthere]
      exact ⟨rfl, congrArg some (Int32.toInt_ofNat_of_lt hlength), rfl⟩
    · have hmax : (max size.toInt 0).toNat = size.toInt.toNat := by omega
      rw [hthere, hmax]
      exact readContent_gives hlength filename size

/-- Three bytes, then one, then two. -/
def writes : List Call :=
  [.write (fun i => UInt8.ofNat (10 + i)) 3 ⟨none, none, true, 0⟩,
    .read true 8 .succeed,
    .write (fun i => UInt8.ofNat (20 + i)) (-5) ⟨none, none, true, 0⟩,
    .write (fun i => UInt8.ofNat (30 + i)) 2 ⟨none, none, true, 0⟩]

theorem read_latest_writes :
    ∃ files', Run.exec (step ⟨some "nv.bin"⟩) (fun _ => none) writes = some files' ∧
      (read files' ⟨some "nv.bin"⟩ .succeed true (some 1)).Gives 1 [30] ∧
      (read files' ⟨some "nv.bin"⟩ .succeed false (some 1)).Gives 2 [] := by
  have hwrites : Run.AllSteps (step ⟨some "nv.bin"⟩) (WriteSucceeds ⟨some "nv.bin"⟩)
      (fun _ => none) writes := by
    refine ⟨rfl, fun files h => ?_⟩
    obtain rfl := Option.some.inj h
    refine ⟨trivial, fun files h => ?_⟩
    obtain rfl := Option.some.inj h
    refine ⟨rfl, fun files h => ?_⟩
    obtain rfl := Option.some.inj h
    exact ⟨rfl, fun _ _ => trivial⟩
  have hspec := read_latest "nv.bin" (fun _ => none) rfl writes hwrites _ rfl 1
  obtain ⟨hquery, hread⟩ := hspec.2 [30, 31] (by decide)
  exact ⟨_, rfl, hread, hquery⟩

end DtnvblobLinuxFile
