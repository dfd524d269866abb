import DtmcLinux.Dtcore.Dterr
import DtmcLinux.Dtcore.Dtringfifo
import Mathlib.Algebra.Ring.Int.Defs

set_option autoImplicit false

/-! # What the Modbus backends take from outside

The register map and the byte packing come from `dtmc_base` (`dtiox_modbus.h`,
`dtmodbus_helpers.h`), the protocol from libmodbus. Neither is part of the library: they are
parameters here, each with the properties the library relies on. -/

/-! ## The register map -/

/-- The constants of `dtiox_modbus.h` and the packing functions of `dtmodbus_helpers.h`. Registers
    are named by their number; `unpackRegsToBytes` reads the registers from a pointer on. -/
structure DtioxModbus where
  regM2sCmd : ℕ
  regM2sLen : ℕ
  regM2sData : ℕ
  regS2mStatus : ℕ
  regS2mLen : ℕ
  regS2mData : ℕ
  cmdNone : UInt16
  cmdPutBlob : UInt16
  cmdGiveMeAnyData : UInt16
  statusNoData : UInt16
  statusHasData : UInt16
  maxBlobBytes : ℤ
  maxBlobRegs : ℤ
  blobToRegs : ℤ → ℤ
  packBytesToRegs : List UInt8 → List UInt16
  unpackRegsToBytes : (ℕ → UInt16) → ℕ → List UInt8
  /-- a blob can hold a byte -/
  maxBlobBytes_pos : 0 < maxBlobBytes

/-- The holding registers of a slave. -/
abbrev Registers := ℕ → UInt16

/-- `modbus_write_registers` as the slave applies it. -/
def Registers.write (tab : Registers) (addr : ℕ) (values : List UInt16) : Registers := fun r =>
  if addr ≤ r ∧ r < addr + values.length then values.getD (r - addr) 0 else tab r

/-- `modbus_read_registers` as the slave answers it. -/
def Registers.read (tab : Registers) (addr count : ℕ) : List UInt16 :=
  (List.range count).map fun i => tab (addr + i)

/-- The pointer `&tab_registers[addr]`. -/
def Registers.ptr (tab : Registers) (addr : ℕ) : ℕ → UInt16 := fun i => tab (addr + i)

namespace Registers

theorem write_outside (tab : Registers) {addr r : ℕ} {values : List UInt16}
    (h : r < addr ∨ addr + values.length ≤ r) : tab.write addr values r = tab r := by
  unfold write
  rw [if_neg]
  omega

theorem write_inside (tab : Registers) {addr i : ℕ} {values : List UInt16}
    (h : i < values.length) : tab.write addr values (addr + i) = values.getD i 0 := by
  unfold write
  rw [if_pos (by omega), Nat.add_sub_cancel_left]

end Registers

/-- What the library relies on: the two blocks are laid out as command or status, length, data, and
    do not overlap; the commands and the statuses differ, and a fresh register is no command;
    lengths fit in a register; and unpacking the registers a blob was packed into gives the blob
    back. -/
structure DtioxModbus.Lawful (dm : DtioxModbus) : Prop where
  regM2sLen_eq : dm.regM2sLen = dm.regM2sCmd + 1
  regM2sData_eq : dm.regM2sData = dm.regM2sCmd + 2
  regS2mLen_eq : dm.regS2mLen = dm.regS2mStatus + 1
  regS2mData_eq : dm.regS2mData = dm.regS2mStatus + 2
  disjoint : dm.regM2sData + dm.maxBlobRegs.toNat ≤ dm.regS2mStatus ∨
    dm.regS2mData + dm.maxBlobRegs.toNat ≤ dm.regM2sCmd
  putBlob_ne_zero : dm.cmdPutBlob ≠ 0
  giveMe_ne_zero : dm.cmdGiveMeAnyData ≠ 0
  putBlob_ne_none : dm.cmdPutBlob ≠ dm.cmdNone
  giveMe_ne_none : dm.cmdGiveMeAnyData ≠ dm.cmdNone
  putBlob_ne_giveMe : dm.cmdPutBlob ≠ dm.cmdGiveMeAnyData
  status_ne : dm.statusHasData ≠ dm.statusNoData
  maxBlobBytes_lt : dm.maxBlobBytes < 2 ^ 16
  blobToRegs_le : ∀ n : ℤ, 0 ≤ n → n ≤ dm.maxBlobBytes → dm.blobToRegs n ≤ dm.maxBlobRegs
  length_pack : ∀ bs : List UInt8,
    ((dm.packBytesToRegs bs).length : ℤ) = dm.blobToRegs bs.length
  unpack_pack : ∀ (bs : List UInt8) (ptr : ℕ → UInt16),
    (∀ i < (dm.packBytesToRegs bs).length, ptr i = (dm.packBytesToRegs bs).getD i 0) →
      dm.unpackRegsToBytes ptr bs.length = bs

namespace BigEndianMap

/-- Two bytes in a register, the first one in the high half. -/
def pack : List UInt8 → List UInt16
  | [] => []
  | [a] => [a.toUInt16 <<< 8]
  | a :: b :: rest => (a.toUInt16 <<< 8 ||| b.toUInt16) :: pack rest

/-- The inverse of `pack`. -/
def unpack (ptr : ℕ → UInt16) : ℕ → List UInt8
  | 0 => []
  | 1 => [(ptr 0 >>> 8).toUInt8]
  | n + 2 => (ptr 0 >>> 8).toUInt8 :: (ptr 0).toUInt8 :: unpack (fun i => ptr (i + 1)) n

theorem toNat_pair (a b : UInt8) :
    (a.toUInt16 <<< 8 ||| b.toUInt16).toNat = 256 * a.toNat + b.toNat := by
  have ha := a.toNat_lt
  have hb := b.toNat_lt
  have hshift : (a.toNat <<< 8) % 2 ^ 16 = a.toNat <<< 8 := by
    rw [Nat.shiftLeft_eq]
    omega
  simp only [UInt16.toNat_or, UInt16.toNat_shiftLeft, UInt8.toNat_toUInt16, UInt16.reduceToNat,
    Nat.reduceMod, hshift]
  rw [← Nat.shiftLeft_add_eq_or_of_lt hb, Nat.shiftLeft_eq]
  omega

theorem hi_byte (a b : UInt8) : ((a.toUInt16 <<< 8 ||| b.toUInt16) >>> 8).toUInt8 = a := by
  have ha := a.toNat_lt
  have hb := b.toNat_lt
  apply UInt8.toNat_inj.1
  simp only [UInt16.toNat_toUInt8, UInt16.toNat_shiftRight, toNat_pair, UInt16.reduceToNat,
    Nat.reduceMod, Nat.shiftRight_eq_div_pow]
  omega

theorem lo_byte (a b : UInt8) : (a.toUInt16 <<< 8 ||| b.toUInt16).toUInt8 = b := by
  have hb := b.toNat_lt
  apply UInt8.toNat_inj.1
  rw [UInt16.toNat_toUInt8, toNat_pair]
  omega

theorem unpack_pack (bs : List UInt8) (ptr : ℕ → UInt16)
    (h : ∀ i < (pack bs).length, ptr i = (pack bs).getD i 0) : unpack ptr bs.length = bs := by
  induction bs using pack.induct generalizing ptr with
  | case1 => rfl
  | case2 a =>
      have h0 : ptr 0 = a.toUInt16 <<< 8 ||| (0 : UInt8).toUInt16 := by
        rw [h 0 Nat.one_pos]
        simp [pack]
      show [(ptr 0 >>> 8).toUInt8] = [a]
      rw [h0, hi_byte]
  | case3 a b rest ih =>
      have h0 : ptr 0 = a.toUInt16 <<< 8 ||| b.toUInt16 := h 0 (Nat.succ_pos _)
      have hrest := ih (fun i => ptr (i + 1)) fun i hi => h (i + 1) (Nat.succ_lt_succ hi)
      show (ptr 0 >>> 8).toUInt8 :: (ptr 0).toUInt8 :: unpack (fun i => ptr (i + 1)) rest.length
        = a :: b :: rest
      rw [hrest, h0, hi_byte, lo_byte]

theorem length_pack (bs : List UInt8) : ((pack bs).length : ℤ) = (bs.length + 1) / 2 := by
  induction bs using pack.induct with
  | case1 => rfl
  | case2 a =>
      simp only [pack, List.length_singleton]
      omega
  | case3 a b rest ih =>
      simp only [pack, List.length_cons]
      omega

end BigEndianMap

/-- A register map with the two blocks one after the other, blobs of up to 240 bytes, and two bytes
    in a register. -/
def DtioxModbus.bigEndian : DtioxModbus where
  regM2sCmd := 0
  regM2sLen := 1
  regM2sData := 2
  regS2mStatus := 122
  regS2mLen := 123
  regS2mData := 124
  cmdNone := 0
  cmdPutBlob := 1
  cmdGiveMeAnyData := 2
  statusNoData := 0
  statusHasData := 1
  maxBlobBytes := 240
  maxBlobRegs := 120
  blobToRegs n := (n + 1) / 2
  packBytesToRegs := BigEndianMap.pack
  unpackRegsToBytes := BigEndianMap.unpack
  maxBlobBytes_pos := by decide

theorem DtioxModbus.bigEndian_lawful : DtioxModbus.bigEndian.Lawful where
  regM2sLen_eq := rfl
  regM2sData_eq := rfl
  regS2mLen_eq := rfl
  regS2mData_eq := rfl
  disjoint := Or.inl (by decide)
  putBlob_ne_zero := by decide
  giveMe_ne_zero := by decide
  putBlob_ne_none := by decide
  giveMe_ne_none := by decide
  putBlob_ne_giveMe := by decide
  status_ne := by decide
  maxBlobBytes_lt := by decide
  blobToRegs_le n _ hn := by
    change n ≤ 240 at hn
    change (n + 1) / 2 ≤ 120
    omega
  length_pack := BigEndianMap.length_pack
  unpack_pack := BigEndianMap.unpack_pack

/-! ## libmodbus -/

/-- The result of a libmodbus call: the value returned, `errno`, and the text `modbus_strerror`
    has for it. -/
structure LibResult where
  rc : ℤ
  errno : ℤ
  strerror : String
  deriving DecidableEq

/-- The message `"error %d (%s)"`. -/
def LibResult.errnoMessage (r : LibResult) : String :=
  let errno := r.errno
  let strerror := r.strerror
  s!"error {errno} ({strerror})"

/-- The libmodbus contexts, numbered in the order of their creation, and which of them are
    connected: `modbus_connect` succeeded and `modbus_close` was not called since. -/
structure Contexts where
  next : ℕ
  connected : ℕ → Bool

namespace Contexts

/-- A new context, not connected. -/
def new (c : Contexts) : Contexts × ℕ :=
  ({ next := c.next + 1, connected := fun m => if m = c.next then false else c.connected m },
    c.next)

/-- `modbus_connect` with the result `r`. -/
def connect (c : Contexts) (mb : ℕ) (r : LibResult) : Contexts :=
  if r.rc = -1 then c
  else { c with connected := fun m => if m = mb then true else c.connected m }

/-- `modbus_close`. -/
def close (c : Contexts) (mb : ℕ) : Contexts :=
  { c with connected := fun m => if m = mb then false else c.connected m }

@[simp] theorem connected_new (c : Contexts) : c.new.1.connected c.new.2 = false :=
  if_pos rfl

@[simp] theorem connected_close (c : Contexts) (mb : ℕ) : (c.close mb).connected mb = false :=
  if_pos rfl

theorem connected_connect {c : Contexts} {mb : ℕ} {r : LibResult} (h : r.rc ≠ -1) :
    (c.connect mb r).connected mb = true := by
  rw [connect, if_neg h]
  exact if_pos rfl

end Contexts
