import DtmcLinux.Modbus.Mailbox

set_option autoImplicit false

/-! # Blobs in the register map

What the M2S and the S2M block hold, and what the slave makes of them when it interprets a command:
a `PUT_BLOB` moves the blob of the M2S block to its FIFO, a poll moves the blob waiting in `tx_bytes`
to the S2M block, and nothing else changes. -/

namespace ModbusMailbox

open ModbusMaster DtioxLinuxModbusTcpSlave

variable {F : Type*}

/-! ## Blobs in registers -/

/-- The registers from `base` on hold the packed blob `bs`. -/
def Holds (dm : DtioxModbus) (tab : Registers) (base : ℕ) (bs : List UInt8) : Prop :=
  ∀ i < (dm.packBytesToRegs bs).length, tab (base + i) = (dm.packBytesToRegs bs).getD i 0

/-- The blob in the M2S block, if there is a `PUT_BLOB` command. -/
def m2sBlob (dm : DtioxModbus) (tab : Registers) : List UInt8 :=
  if tab dm.regM2sCmd = dm.cmdPutBlob then
    dm.unpackRegsToBytes (tab.ptr dm.regM2sData) (tab dm.regM2sLen).toNat
  else []

/-- The blob in the S2M block, if its status says that there is one. -/
def s2mBlob (dm : DtioxModbus) (tab : Registers) : List UInt8 :=
  if tab dm.regS2mStatus = dm.statusHasData then
    dm.unpackRegsToBytes (tab.ptr dm.regS2mData) (tab dm.regS2mLen).toNat
  else []

/-- A block that announces a blob holds one, of at most `M` bytes. -/
structure BlobAt (dm : DtioxModbus) (M : ℤ) (tab : Registers) (lenReg dataReg : ℕ)
    (bs : List UInt8) : Prop where
  len : tab lenReg = UInt16.ofNat bs.length
  le : (bs.length : ℤ) ≤ M
  holds : Holds dm tab dataReg bs

variable {dm : DtioxModbus} {M : ℤ}

theorem ofInt_of_nonneg {n : ℤ} (h : 0 ≤ n) : UInt16.ofInt n = UInt16.ofNat n.toNat := by
  apply UInt16.toNat_inj.1
  rw [UInt16.ofInt, UInt16.toNat_ofNat', UInt16.toNat_ofNat']
  omega

theorem toNat_ofNat_blob (hdm : dm.Lawful) (hM : M ≤ dm.maxBlobBytes) {n : ℕ} (hn : (n : ℤ) ≤ M) :
    (UInt16.ofNat n).toNat = n := by
  have := hdm.maxBlobBytes_lt
  rw [UInt16.toNat_ofNat']
  omega

theorem BlobAt.len_toNat (hdm : dm.Lawful) (hM : M ≤ dm.maxBlobBytes) {tab : Registers}
    {lenReg dataReg : ℕ} {bs : List UInt8} (h : BlobAt dm M tab lenReg dataReg bs) :
    (tab lenReg).toNat = bs.length := by
  rw [h.len, toNat_ofNat_blob hdm hM h.le]

theorem BlobAt.unpack (hdm : dm.Lawful) (hM : M ≤ dm.maxBlobBytes) {tab : Registers}
    {lenReg dataReg : ℕ} {bs : List UInt8} (h : BlobAt dm M tab lenReg dataReg bs) :
    dm.unpackRegsToBytes (tab.ptr dataReg) (tab lenReg).toNat = bs := by
  rw [h.len_toNat hdm hM]
  exact hdm.unpack_pack bs _ h.holds

/-- The packed blob fits into the data registers of a block. -/
theorem length_pack_le (hdm : dm.Lawful) (hM : M ≤ dm.maxBlobBytes) {bs : List UInt8}
    (h : (bs.length : ℤ) ≤ M) : (dm.packBytesToRegs bs).length ≤ dm.maxBlobRegs.toNat := by
  have hle := hdm.blobToRegs_le bs.length (by omega) (by omega)
  have hlen := hdm.length_pack bs
  omega

/-- Writing a blob to the data registers of a block makes them hold it. -/
theorem holds_write (tab : Registers) (base : ℕ) (bs : List UInt8) :
    Holds dm (tab.write base (dm.packBytesToRegs bs)) base bs :=
  fun _ hi => tab.write_inside hi

theorem Holds.congr {tab tab' : Registers} {base : ℕ} {bs : List UInt8} (h : Holds dm tab base bs)
    (heq : ∀ i < (dm.packBytesToRegs bs).length, tab' (base + i) = tab (base + i)) :
    Holds dm tab' base bs :=
  fun i hi => (heq i hi).trans (h i hi)

/-- Both register maps have the same S2M block. -/
def SameS2m (dm : DtioxModbus) (tab tab' : Registers) : Prop :=
  tab' dm.regS2mStatus = tab dm.regS2mStatus ∧ tab' dm.regS2mLen = tab dm.regS2mLen ∧
    ∀ i < dm.maxBlobRegs.toNat, tab' (dm.regS2mData + i) = tab (dm.regS2mData + i)

/-- The S2M block announces nothing, or a blob that is there. -/
def S2mOk (dm : DtioxModbus) (M : ℤ) (tab : Registers) : Prop :=
  tab dm.regS2mStatus = dm.statusHasData →
    ∃ bs, bs ≠ [] ∧ BlobAt dm M tab dm.regS2mLen dm.regS2mData bs

/-- The M2S block has no `PUT_BLOB` command, or the blob is there. -/
def M2sOk (dm : DtioxModbus) (M : ℤ) (tab : Registers) : Prop :=
  tab dm.regM2sCmd = dm.cmdPutBlob → ∃ bs, BlobAt dm M tab dm.regM2sLen dm.regM2sData bs

theorem SameS2m.refl (tab : Registers) : SameS2m dm tab tab := ⟨rfl, rfl, fun _ _ => rfl⟩

theorem S2mOk.congr (hdm : dm.Lawful) (hM : M ≤ dm.maxBlobBytes) {tab tab' : Registers}
    (h : S2mOk dm M tab) (hsame : SameS2m dm tab tab') : S2mOk dm M tab' := by
  intro hstatus
  obtain ⟨bs, hne, hbs⟩ := h (hsame.1 ▸ hstatus)
  refine ⟨bs, hne, hsame.2.1.trans hbs.len, hbs.le, hbs.holds.congr fun i hi => ?_⟩
  exact hsame.2.2 i (Nat.lt_of_lt_of_le hi (length_pack_le hdm hM hbs.le))

theorem s2mBlob_congr (hdm : dm.Lawful) (hM : M ≤ dm.maxBlobBytes) {tab tab' : Registers}
    (h : S2mOk dm M tab) (hsame : SameS2m dm tab tab') : s2mBlob dm tab' = s2mBlob dm tab := by
  unfold s2mBlob
  by_cases hstatus : tab dm.regS2mStatus = dm.statusHasData
  · have hstatus' : tab' dm.regS2mStatus = dm.statusHasData := hsame.1.trans hstatus
    obtain ⟨bs, -, hbs⟩ := h hstatus
    have hbs' : BlobAt dm M tab' dm.regS2mLen dm.regS2mData bs := by
      refine ⟨hsame.2.1.trans hbs.len, hbs.le, hbs.holds.congr fun i hi => ?_⟩
      exact hsame.2.2 i (Nat.lt_of_lt_of_le hi (length_pack_le hdm hM hbs.le))
    rw [if_pos hstatus, if_pos hstatus', hbs.unpack hdm hM, hbs'.unpack hdm hM]
  · have hstatus' : tab' dm.regS2mStatus ≠ dm.statusHasData := fun h => hstatus (hsame.1 ▸ h)
    rw [if_neg hstatus, if_neg hstatus']

/-- Registers outside the S2M block can change without touching it. -/
theorem sameS2m_of_outside (hdm : dm.Lawful) {tab tab' : Registers}
    (h : ∀ r, (r < dm.regM2sCmd ∨ dm.regM2sData + dm.maxBlobRegs.toNat ≤ r) → tab' r = tab r) :
    SameS2m dm tab tab' := by
  have h1 := hdm.regM2sData_eq
  have h2 := hdm.regS2mLen_eq
  have h3 := hdm.regS2mData_eq
  rcases hdm.disjoint with hd | hd
  · exact ⟨h _ (by omega), h _ (by omega), fun i hi => h _ (by omega)⟩
  · exact ⟨h _ (by omega), h _ (by omega), fun i hi => h _ (by omega)⟩

/-! ## Interpreting a command -/

/-- The blob waiting in `tx_bytes`. -/
def txBlob (slave : Slave F) : List UInt8 :=
  if slave.txPending then slave.txBytes.take slave.txLen.toNat else []

/-- `tx_bytes` holds what `tx_len` says, and no more than the slave's limit. -/
def TxOk (M : ℤ) (slave : Slave F) : Prop := slave.txPending = true →
  0 ≤ slave.txLen ∧ slave.txLen ≤ M ∧ slave.txLen.toNat ≤ slave.txBytes.length

/-- What the slave end keeps: its blob size, that it is enabled, and a `tx_bytes` that holds what
    `tx_len` says. -/
structure SlaveOk (M : ℤ) (slave : Slave F) : Prop where
  cfg : slave.cfg.maxBlobBytes = M
  enabled : slave.enabled = true
  tx : slave.txPending = true →
    0 ≤ slave.txLen ∧ slave.txLen ≤ M ∧ slave.txLen.toNat ≤ slave.txBytes.length

theorem clampLen_eq {cfg : Config} (hcfg : cfg.maxBlobBytes = M) (hM : M ≤ dm.maxBlobBytes) {n : ℤ}
    (hn : n ≤ M) : clampLen dm cfg n = n := by
  unfold clampLen
  rw [hcfg, if_neg (by omega), if_neg (by omega)]

/-- The M2S header is cleared: nothing in the S2M block changes, and no command is left. -/
theorem clearCommand (hdm : dm.Lawful) (tab : Registers) :
    let tab' := setReg (setReg tab dm.regM2sCmd dm.cmdNone) dm.regM2sLen 0
    tab' dm.regM2sCmd = dm.cmdNone ∧ SameS2m dm tab tab' := by
  have hlen := hdm.regM2sLen_eq
  have hdata := hdm.regM2sData_eq
  refine ⟨?_, sameS2m_of_outside hdm fun r hr => ?_⟩
  · rw [setReg_of_ne _ _ (by omega), setReg_self]
  · rw [setReg_of_ne _ _ (by omega), setReg_of_ne _ _ (by omega)]

/-- `prepare_poll_response` moves the blob waiting in `tx_bytes` to the S2M block. -/
theorem preparePollResponse_spec (hdm : dm.Lawful) (hM : M ≤ dm.maxBlobBytes) {slave : Slave F}
    {tab : Registers} (hmap : slave.mbMap = some tab) (hcfg : slave.cfg.maxBlobBytes = M)
    (htxOk : TxOk M slave) :
    ∃ tab' pending len, preparePollResponse dm slave
        = { slave with mbMap := some tab', txPending := pending, txLen := len } ∧
      TxOk M (preparePollResponse dm slave) ∧ txBlob (preparePollResponse dm slave) = [] ∧
      S2mOk dm M tab' ∧ s2mBlob dm tab' = txBlob slave := by
  have hS1 := hdm.regS2mLen_eq
  have hS2 := hdm.regS2mData_eq
  unfold preparePollResponse
  rw [hmap]
  dsimp only
  split
  · next hcond =>
      obtain ⟨hpending, hpos⟩ := Bool.and_eq_true_iff.1 hcond
      rw [decide_eq_true_eq] at hpos
      obtain ⟨h0, hle, hlen⟩ := htxOk hpending
      rw [clampLen_eq hcfg hM hle]
      have hblen : (slave.txBytes.take slave.txLen.toNat).length = slave.txLen.toNat := by
        rw [List.length_take]
        omega
      generalize hblob : slave.txBytes.take slave.txLen.toNat = blob at hblen
      have hbM : (blob.length : ℤ) ≤ M := by omega
      generalize htab' : Registers.write (setReg (setReg tab dm.regS2mStatus dm.statusHasData)
        dm.regS2mLen (UInt16.ofInt slave.txLen)) dm.regS2mData (dm.packBytesToRegs blob) = tab'
      have hstatus : tab' dm.regS2mStatus = dm.statusHasData := by
        rw [← htab', Registers.write_outside _ (by omega), setReg_of_ne _ _ (by omega), setReg_self]
      have hat : BlobAt dm M tab' dm.regS2mLen dm.regS2mData blob := by
        refine ⟨?_, hbM, ?_⟩
        · rw [← htab', Registers.write_outside _ (by omega), setReg_self, hblen,
            ofInt_of_nonneg h0]
        · rw [← htab']
          exact holds_write _ _ _
      have hne : blob ≠ [] := by
        rintro rfl
        simp only [List.length_nil] at hblen
        omega
      refine ⟨tab', false, 0, rfl, fun h => absurd h (by simp), rfl, fun _ => ⟨blob, hne, hat⟩, ?_⟩
      rw [s2mBlob, if_pos hstatus, hat.unpack hdm hM, txBlob, if_pos hpending, hblob]
  · next hcond =>
      generalize htab' : setReg (setReg tab dm.regS2mStatus dm.statusNoData) dm.regS2mLen 0 = tab'
      have hstatus : tab' dm.regS2mStatus ≠ dm.statusHasData := by
        rw [← htab', setReg_of_ne _ _ (by omega), setReg_self]
        exact hdm.status_ne.symm
      have htx : txBlob slave = [] := by
        unfold txBlob
        split
        · next hpending =>
            have hle : slave.txLen.toNat = 0 := by
              simp only [hpending, Bool.true_and, decide_eq_true_eq] at hcond
              omega
            rw [hle, List.take_zero]
        · rfl
      refine ⟨tab', slave.txPending, slave.txLen, rfl, htxOk, htx,
        fun h => absurd h hstatus, ?_⟩
      rw [s2mBlob, if_neg hstatus, htx]

variable [Dtringfifo F] [LawfulDtringfifo F]

/-- `consume_put_blob` moves the blob in the M2S block to the FIFO and clears the command. -/
theorem consumePutBlob_spec (hdm : dm.Lawful) (hM : M ≤ dm.maxBlobBytes) {slave : Slave F}
    {tab : Registers} (hmap : slave.mbMap = some tab) (hok : SlaveOk M slave)
    (hm2s : M2sOk dm M tab) (hno : (consumePutBlob dm slave).rxOverflowPending = false) :
    ∃ tab' fifo posts, consumePutBlob dm slave
        = { slave with
            mbMap := some tab', rxFifo := fifo, rxOverflowPending := false, rxPosts := posts } ∧
      Dtringfifo.contents fifo = Dtringfifo.contents slave.rxFifo ++ m2sBlob dm tab ∧
      SameS2m dm tab tab' ∧ tab' dm.regM2sCmd ≠ dm.cmdPutBlob ∧
      (tab' dm.regM2sCmd = dm.cmdGiveMeAnyData ↔ tab dm.regM2sCmd = dm.cmdGiveMeAnyData) := by
  unfold consumePutBlob at hno ⊢
  rw [hmap] at hno ⊢
  dsimp only at hno ⊢
  split
  · next hcmd =>
      rw [if_pos hcmd] at hno
      refine ⟨tab, slave.rxFifo, slave.rxPosts, ?_, ?_, .refl tab, hcmd, Iff.rfl⟩
      · rw [← hmap, ← hno]
      · rw [m2sBlob, if_neg hcmd, List.append_nil]
  · next hcmd =>
      rw [if_neg hcmd] at hno
      rw [not_not] at hcmd
      obtain ⟨bs, hat⟩ := hm2s hcmd
      obtain ⟨hnone, hsame⟩ := clearCommand hdm tab
      have hlen := hat.len_toNat hdm hM
      have hblob : m2sBlob dm tab = bs := by
        rw [m2sBlob, if_pos hcmd, hat.unpack hdm hM]
      have hclamp : clampLen dm slave.cfg ((tab dm.regM2sLen).toNat : ℤ) = bs.length := by
        rw [hlen]
        exact clampLen_eq hok.cfg hM hat.le
      have hcmd' : dm.cmdNone ≠ dm.cmdPutBlob := hdm.putBlob_ne_none.symm
      have hgive : dm.cmdNone = dm.cmdGiveMeAnyData ↔ tab dm.regM2sCmd = dm.cmdGiveMeAnyData := by
        rw [hcmd]
        exact ⟨fun h => absurd h.symm hdm.giveMe_ne_none,
          fun h => absurd h hdm.putBlob_ne_giveMe⟩
      rw [hclamp] at hno ⊢
      rw [hblob]
      split
      · next hpos =>
          rw [if_pos hpos] at hno
          have hbytes : dm.unpackRegsToBytes (tab.ptr dm.regM2sData) (bs.length : ℤ).toNat = bs := by
            rw [Int.toNat_natCast, ← hlen]
            exact hat.unpack hdm hM
          rw [hbytes] at hno ⊢
          dsimp only at hno ⊢
          split at hno
          · exact absurd hno (by simp)
          · next hall =>
              have hle := LawfulDtringfifo.push_le slave.rxFifo bs
              have htake : bs.take (Dtringfifo.push slave.rxFifo bs).2 = bs :=
                List.take_of_length_le (by omega)
              rw [if_neg hall, hno]
              refine ⟨_, _, _, rfl, ?_, hsame, ?_, ?_⟩
              · rw [LawfulDtringfifo.contents_push, htake]
              · rw [hnone]
                exact hcmd'
              · rw [hnone]
                exact hgive
      · next hpos =>
          rw [if_neg hpos] at hno
          have hnil : bs = [] := by
            rw [← List.length_eq_zero_iff]
            omega
          refine ⟨_, slave.rxFifo, slave.rxPosts, ?_, by rw [hnil, List.append_nil], hsame, ?_, ?_⟩
          · rw [← hno]
          · rw [hnone]
            exact hcmd'
          · rw [hnone]
            exact hgive

/-- What the slave has after it has interpreted a command, in terms of what it had before. -/
structure Interpreted (dm : DtioxModbus) (M : ℤ) (slave slave' : Slave F) (tab tab' : Registers) :
    Prop where
  map : slave'.mbMap = some tab'
  ok : SlaveOk M slave'
  s2m : S2mOk dm M tab'
  noPutBlob : tab' dm.regM2sCmd ≠ dm.cmdPutBlob
  noGiveMe : tab' dm.regM2sCmd ≠ dm.cmdGiveMeAnyData
  fifo : Dtringfifo.contents slave'.rxFifo = Dtringfifo.contents slave.rxFifo ++ m2sBlob dm tab
  polled : tab dm.regM2sCmd = dm.cmdGiveMeAnyData →
    s2mBlob dm tab' = txBlob slave ∧ txBlob slave' = []
  unpolled : tab dm.regM2sCmd ≠ dm.cmdGiveMeAnyData →
    SameS2m dm tab tab' ∧ txBlob slave' = txBlob slave

omit [LawfulDtringfifo F] in
theorem interpretCommand_overflow (slave : Slave F) :
    (interpretCommand dm slave).rxOverflowPending
      = (consumePutBlob dm slave).rxOverflowPending := by
  have hprepare : ∀ s : Slave F,
      (preparePollResponse dm s).rxOverflowPending = s.rxOverflowPending := by
    intro s
    unfold preparePollResponse
    split
    · rfl
    · dsimp only
      split <;> rfl
  unfold interpretCommand
  dsimp only
  split
  · rfl
  · split
    · split
      · exact hprepare _
      · exact hprepare _
    · rfl

/-- **`interpretCommand`.** -/
theorem interpretCommand_spec (hdm : dm.Lawful) (hM : M ≤ dm.maxBlobBytes) {slave : Slave F}
    {tab : Registers} (hmap : slave.mbMap = some tab) (hok : SlaveOk M slave)
    (hm2s : M2sOk dm M tab) (hs2m : S2mOk dm M tab)
    (hno : (interpretCommand dm slave).rxOverflowPending = false) :
    ∃ tab', Interpreted dm M slave (interpretCommand dm slave) tab tab' := by
  rw [interpretCommand_overflow] at hno
  obtain ⟨tab₁, fifo, posts, hconsume, hfifo, hsame₁, hput₁, hgive₁⟩ :=
    consumePutBlob_spec hdm hM hmap hok hm2s hno
  unfold interpretCommand
  rw [hconsume]
  dsimp only
  have hs2m₁ := hs2m.congr hdm hM hsame₁
  split
  · next hgive =>
      have hgive₀ := hgive₁.1 hgive
      have hmid : ({ slave with
        mbMap := some tab₁, rxFifo := fifo, rxOverflowPending := false, rxPosts := posts } :
          Slave F).mbMap = some tab₁ := rfl
      obtain ⟨tab₂, pending, len, hprepare, hok₂, htx₂, hs2m₂, hblob₂⟩ :=
        preparePollResponse_spec hdm hM (hmid : _ = some tab₁) hok.cfg hok.tx
      rw [hprepare] at hok₂ htx₂ ⊢
      obtain ⟨hnone, hsame⟩ := clearCommand hdm tab₂
      refine ⟨_, rfl, ⟨hok.cfg, hok.enabled, hok₂⟩, hs2m₂.congr hdm hM hsame, ?_, ?_, hfifo, ?_,
        ?_⟩
      · rw [hnone]
        exact hdm.putBlob_ne_none.symm
      · rw [hnone]
        exact hdm.giveMe_ne_none.symm
      · intro _
        exact ⟨(s2mBlob_congr hdm hM hs2m₂ hsame).trans hblob₂, htx₂⟩
      · intro h
        exact absurd hgive₀ h
  · next hgive =>
      refine ⟨tab₁, rfl, ⟨hok.cfg, hok.enabled, hok.tx⟩, hs2m₁, hput₁, hgive, hfifo, ?_, ?_⟩
      · intro h
        exact absurd (hgive₁.2 h) hgive
      · intro _
        exact ⟨hsame₁, rfl⟩

end ModbusMailbox
