import DtmcLinux.Modbus.MailboxRegisters

set_option autoImplicit false

/-! # The mailbox delivers every byte once, in order

The invariant that joins the two ends: at every moment the bytes written at one end are the bytes read
at the other, followed by the other end's FIFO, the blob on its way through the registers, and (from
slave to master) the blob still waiting in `tx_bytes`. A blob is on its way only while a request is
being served, so the registers drop out of the equations whenever the wire is quiet. -/

namespace ModbusMailbox

open ModbusMaster DtioxLinuxModbusTcpSlave

variable {F : Type*} [Dtringfifo F]

/-! ## The invariant -/

/-- The bytes a master write of `buf` sends. -/
def sentBytes (cfg : DtioxLinuxModbusTcpMaster.Config) (buf : List UInt8) : List UInt8 :=
  buf.take (DtioxLinuxModbusTcpMaster.sendLen cfg buf.length).toNat

/-- The request on the wire and the reply to it agree with what the holder of the master's lock
    waits for; a reply carries what the registers still hold. -/
def Wire (dm : DtioxModbus) (s : State F) (tab : Registers) : Prop :=
  match s.masterPc with
  | .free => s.query = none ∧ s.reply = none ∧ tab dm.regM2sCmd ≠ dm.cmdGiveMeAnyData
  | .writing buf =>
    tab dm.regM2sCmd ≠ dm.cmdGiveMeAnyData ∧
    ((s.query = some (.writeRegisters dm.regM2sCmd
        (putBlobRegs dm (sentBytes s.master.cfg buf))) ∧ s.reply = none) ∨
      (s.query = none ∧ s.reply = some
        (.written (putBlobRegs dm (sentBytes s.master.cfg buf)).length)))
  | .pollCmd =>
    (s.query = some (.writeRegisters dm.regM2sCmd (pollCmdRegs dm)) ∧ s.reply = none ∧
      tab dm.regM2sCmd ≠ dm.cmdGiveMeAnyData) ∨
    (s.query = none ∧ s.reply = some (.written 2))
  | .pollHdr =>
    (s.query = some (.readRegisters dm.regS2mStatus 2) ∧ s.reply = none) ∨
    (s.query = none ∧ tab dm.regM2sCmd ≠ dm.cmdGiveMeAnyData ∧
      s.reply = some (.registers [tab dm.regS2mStatus, tab dm.regS2mLen]))
  | .pollData byteLen =>
    tab dm.regM2sCmd ≠ dm.cmdGiveMeAnyData ∧ tab dm.regS2mStatus = dm.statusHasData ∧
    byteLen = tab dm.regS2mLen ∧
    ((s.query = some (.readRegisters dm.regS2mData (pollNeedRegs dm byteLen).toNat) ∧
        s.reply = none) ∨
      (s.query = none ∧ s.reply = some
        (.registers (tab.read dm.regS2mData (pollNeedRegs dm byteLen).toNat))))

/-- The blob of a poll round that the slave has taken from `tx_bytes` and the master has not pushed
    yet. -/
def s2mInFlight (dm : DtioxModbus) (s : State F) (tab : Registers) : List UInt8 :=
  match s.masterPc with
  | .free => []
  | .writing _ => []
  | .pollCmd =>
    if s.query.isNone ∧ tab dm.regM2sCmd ≠ dm.cmdGiveMeAnyData then s2mBlob dm tab else []
  | .pollHdr => if tab dm.regM2sCmd ≠ dm.cmdGiveMeAnyData then s2mBlob dm tab else []
  | .pollData _ => s2mBlob dm tab

/-- The blob of a master write that the slave has received and that has not returned yet. -/
def unreturned (s : State F) : List UInt8 :=
  match s.masterPc with
  | .writing buf => if s.query.isNone then sentBytes s.master.cfg buf else []
  | _ => []

/-- **The invariant.** -/
structure Inv (dm : DtioxModbus) (M : ℤ) (s : State F) (tab : Registers) : Prop where
  map : s.slave.mbMap = some tab
  masterCfg : s.master.cfg.maxBlobBytes = M
  masterEnabled : s.master.enabled = true
  alive : s.master.deadSlavePending = false
  slaveOk : SlaveOk M s.slave
  m2s : M2sOk dm M tab
  s2m : S2mOk dm M tab
  idle : s.slavePc = .receiving →
    tab dm.regM2sCmd ≠ dm.cmdPutBlob ∧ tab dm.regM2sCmd ≠ dm.cmdGiveMeAnyData
  wire : Wire dm s tab
  toMaster : s.masterGot ++ Dtringfifo.contents s.master.rxFifo ++ s2mInFlight dm s tab
    ++ txBlob s.slave = s.slaveWritten
  toSlave : s.slaveGot ++ Dtringfifo.contents s.slave.rxFifo ++ m2sBlob dm tab
    = s.masterWritten ++ unreturned s

/-- No end has found its FIFO too small. -/
def NoOverflow (s : State F) : Prop :=
  s.master.rxOverflowPending = false ∧ s.slave.rxOverflowPending = false

instance : DecidablePred (NoOverflow (F := F)) := fun _ => instDecidableAnd

variable {dm : DtioxModbus} {M : ℤ} {s s' : State F} {tab : Registers}

/-! ## Sizes of requests -/

theorem length_sentBytes {cfg : DtioxLinuxModbusTcpMaster.Config} (hcfg : cfg.maxBlobBytes = M)
    (hpos : 0 < M) (buf : List UInt8) :
    ((sentBytes cfg buf).length : ℤ) = DtioxLinuxModbusTcpMaster.sendLen cfg buf.length ∧
      ((sentBytes cfg buf).length : ℤ) ≤ M := by
  rw [sentBytes, List.length_take]
  unfold DtioxLinuxModbusTcpMaster.sendLen
  split <;> omega

theorem length_putBlobRegs (hdm : dm.Lawful) (hM : M ≤ dm.maxBlobBytes) {blob : List UInt8}
    (h : (blob.length : ℤ) ≤ M) : ((putBlobRegs dm blob).length : ℤ)
      = 2 + DtioxLinuxModbusTcpMaster.dataRegs dm blob.length := by
  have hlen := hdm.length_pack blob
  have hle := hdm.blobToRegs_le blob.length (by omega) (by omega)
  rw [DtioxLinuxModbusTcpMaster.dataRegs, if_neg (by omega), putBlobRegs, List.length_append,
    ← hlen]
  simp only [List.length_cons, List.length_nil]
  omega

/-- The registers sent are the whole request. -/
theorem writeRegs_eq (hdm : dm.Lawful) (hM : M ≤ dm.maxBlobBytes)
    {cfg : DtioxLinuxModbusTcpMaster.Config} (hcfg : cfg.maxBlobBytes = M) (hpos : 0 < M)
    (buf : List UInt8) : DtioxLinuxModbusTcpMaster.writeRegs dm cfg buf buf.length
      = putBlobRegs dm (sentBytes cfg buf) := by
  obtain ⟨hlen, hle⟩ := length_sentBytes hcfg hpos buf
  have hregs := length_putBlobRegs hdm hM hle
  rw [hlen] at hregs
  rw [DtioxLinuxModbusTcpMaster.writeRegs]
  exact List.take_of_length_le (by rw [sentBytes] at hregs; omega)

/-- A `PUT_BLOB` request in the registers announces its blob, and leaves the S2M block alone. -/
theorem write_putBlobRegs (hdm : dm.Lawful) (hM : M ≤ dm.maxBlobBytes) (tab : Registers)
    {blob : List UInt8} (h : (blob.length : ℤ) ≤ M) :
    let tab' := tab.write dm.regM2sCmd (putBlobRegs dm blob)
    tab' dm.regM2sCmd = dm.cmdPutBlob ∧ BlobAt dm M tab' dm.regM2sLen dm.regM2sData blob ∧
      SameS2m dm tab tab' := by
  have hlen := hdm.regM2sLen_eq
  have hdata := hdm.regM2sData_eq
  have hpack := length_pack_le hdm hM h
  have htotal : (putBlobRegs dm blob).length = 2 + (dm.packBytesToRegs blob).length := by
    rw [putBlobRegs, List.length_append]
    rfl
  intro tab'
  refine ⟨?_, ⟨?_, h, fun i hi => ?_⟩, sameS2m_of_outside hdm fun r hr => ?_⟩
  · exact tab.write_inside (i := 0) (by omega)
  · rw [hlen]
    exact tab.write_inside (by omega)
  · rw [hdata, Nat.add_assoc]
    rw [show tab' (dm.regM2sCmd + (2 + i)) = (putBlobRegs dm blob).getD (2 + i) 0 from
      tab.write_inside (by omega)]
    rw [putBlobRegs, Nat.add_comm 2 i]
    rfl
  · exact tab.write_outside (by omega)

/-- The poll command in the registers. -/
theorem write_pollCmdRegs (hdm : dm.Lawful) (tab : Registers) :
    let tab' := tab.write dm.regM2sCmd (pollCmdRegs dm)
    tab' dm.regM2sCmd = dm.cmdGiveMeAnyData ∧ SameS2m dm tab tab' := by
  have hdata := hdm.regM2sData_eq
  intro tab'
  refine ⟨tab.write_inside (i := 0) (by simp [pollCmdRegs]),
    sameS2m_of_outside hdm fun r hr => tab.write_outside ?_⟩
  simp only [pollCmdRegs, List.length_cons, List.length_nil]
  omega

/-! ## The steps of the master -/

theorem Inv.masterWrite (hdm : dm.Lawful) (hM : M ≤ dm.maxBlobBytes) (hpos : 0 < M)
    (hi : Inv dm M s tab) {buf : List UInt8} (h : s.masterWrite dm buf = some s') :
    Inv dm M s' tab := by
  have hwire := hi.wire
  have hto := hi.toMaster
  have hfrom := hi.toSlave
  unfold State.masterWrite at h
  split at h
  · next hpc =>
      simp only [Wire, hpc] at hwire
      obtain ⟨hq, hr, hcmd⟩ := hwire
      simp only [hi.masterEnabled, Bool.not_true, Bool.false_eq_true, if_false] at h
      split at h
      · exact absurd h (by simp)
      · obtain rfl := Option.some.inj h
        refine { hi with wire := ?_, toMaster := ?_, toSlave := ?_ }
        · refine ⟨hcmd, Or.inl ⟨?_, hr⟩⟩
          rw [writeRegs_eq hdm hM hi.masterCfg hpos buf]
        · simpa only [s2mInFlight, hpc] using hto
        · simpa only [unreturned, hpc, Option.isNone_some, Bool.false_eq_true, if_false] using hfrom
  · exact absurd h (by simp)

theorem Inv.masterPoll (hi : Inv dm M s tab) (h : s.masterPoll dm = some s') :
    Inv dm M s' tab := by
  have hwire := hi.wire
  have hto := hi.toMaster
  have hfrom := hi.toSlave
  unfold State.masterPoll at h
  split at h
  · next hpc =>
      simp only [Wire, hpc] at hwire
      obtain ⟨hq, hr, hcmd⟩ := hwire
      simp only [hi.masterEnabled, if_true] at h
      obtain rfl := Option.some.inj h
      refine { hi with wire := Or.inl ⟨rfl, hr, hcmd⟩, toMaster := ?_, toSlave := ?_ }
      · simpa only [s2mInFlight, hpc, Option.isNone_some, Bool.false_eq_true, false_and, if_false]
          using hto
      · simpa only [unreturned, hpc] using hfrom
  · exact absurd h (by simp)

theorem Inv.masterRead [LawfulDtringfifo F] (hi : Inv dm M s tab) (hno : NoOverflow s) {bufLen : ℤ}
    (h : s.masterRead bufLen = some s') : Inv dm M s' tab := by
  have hwire := hi.wire
  have hto := hi.toMaster
  have hfrom := hi.toSlave
  unfold State.masterRead at h
  split at h
  · next hpc =>
      split at h
      · obtain rfl := Option.some.inj h
        exact hi
      · simp only [readFifo, hi.alive, hno.1, hi.masterEnabled, Bool.not_true, Bool.false_eq_true,
          if_false] at h
        obtain rfl := Option.some.inj h
        have hpop := LawfulDtringfifo.contents_pop s.master.rxFifo bufLen.toNat
        refine { hi with
          masterEnabled := rfl, alive := rfl, wire := ?_, toMaster := ?_, toSlave := ?_ }
        · simpa only [Wire, hpc] using hwire
        · simp only [s2mInFlight, hpc] at hto ⊢
          rw [hpop] at hto
          simpa only [Option.getD_some, List.append_assoc] using hto
        · simpa only [unreturned, hpc] using hfrom
  · exact absurd h (by simp)

/-- The reply to the header request tells the length of the blob in the S2M block. -/
theorem pollByteLen_eq (hdm : dm.Lawful) (hpos : 0 < M) (hM : M ≤ dm.maxBlobBytes)
    (hs2m : S2mOk dm M tab) :
    pollByteLen dm (pollMaxBlob dm M) (tab dm.regS2mStatus) (tab dm.regS2mLen)
      = if tab dm.regS2mStatus = dm.statusHasData then some (tab dm.regS2mLen) else none := by
  have hlt := hdm.maxBlobBytes_lt
  have hmax : pollMaxBlob dm M = M := by
    rw [pollMaxBlob, if_neg (by omega)]
  have hcast : (UInt16.ofInt M).toNat = M.toNat := by
    rw [ofInt_of_nonneg (by omega), UInt16.toNat_ofNat']
    omega
  rw [pollByteLen, hmax]
  by_cases hstatus : tab dm.regS2mStatus = dm.statusHasData
  · obtain ⟨bs, hne, hat⟩ := hs2m hstatus
    have hlen := hat.len_toNat hdm hM
    have hle := hat.le
    have hbs : 0 < bs.length := List.length_pos_of_ne_nil hne
    have hgt : tab dm.regS2mLen > 0 := by
      rw [gt_iff_lt, UInt16.lt_iff_toNat_lt, hlen]
      exact hbs
    have hclamp : ¬tab dm.regS2mLen > UInt16.ofInt M := by
      rw [gt_iff_lt, UInt16.lt_iff_toNat_lt, hlen, hcast]
      omega
    rw [if_pos ⟨hstatus, hgt⟩, if_neg hclamp, if_pos hstatus]
  · rw [if_neg (fun h => hstatus h.1), if_neg hstatus]

/-- The payload registers a poll asks for are those of the packed blob. -/
theorem pollNeedRegs_eq (hdm : dm.Lawful) (hM : M ≤ dm.maxBlobBytes) {lenReg dataReg : ℕ}
    {bs : List UInt8} (hat : BlobAt dm M tab lenReg dataReg bs) :
    pollNeedRegs dm (tab lenReg) = (dm.packBytesToRegs bs).length := by
  have hle := hdm.blobToRegs_le bs.length (by omega) (by have := hat.le; omega)
  rw [pollNeedRegs, hat.len_toNat hdm hM, if_neg (by omega), hdm.length_pack]

/-- A payload that is pushed without an overflow is stored whole. -/
theorem pollPush_spec [LawfulDtringfifo F] {self : Master DtioxLinuxModbusTcpMaster.Config F}
    {byteLen : UInt16} {dataRegs : ℕ → UInt16} {bs : List UInt8}
    (hunpack : dm.unpackRegsToBytes dataRegs byteLen.toNat = bs)
    (hlen : byteLen.toNat = bs.length)
    (hno : (pollPush dm self byteLen dataRegs).1.rxOverflowPending = false) :
    (pollPush dm self byteLen dataRegs).1
        = { self with rxFifo := (Dtringfifo.push self.rxFifo bs).1 } ∧
      (Dtringfifo.push self.rxFifo bs).2 = bs.length := by
  have hle := LawfulDtringfifo.push_le self.rxFifo bs
  unfold pollPush at hno ⊢
  rw [hunpack, hlen] at *
  dsimp only at hno ⊢
  split at hno
  · exact absurd hno (by simp)
  · next hall =>
      rw [if_neg hall]
      exact ⟨rfl, by omega⟩

/-- A write returns when its reply arrives, with the bytes it has sent. -/
theorem Inv.masterReply_writing (hdm : dm.Lawful) (hM : M ≤ dm.maxBlobBytes) (hpos : 0 < M)
    (hi : Inv dm M s tab) {buf : List UInt8} (hpc : s.masterPc = .writing buf)
    (h : s.masterReply dm = some s') : Inv dm M s' tab := by
  have hwire := hi.wire
  have hto := hi.toMaster
  have hfrom := hi.toSlave
  simp only [Wire, hpc] at hwire
  obtain ⟨hcmd, ⟨hq, hr⟩ | ⟨hq, hr⟩⟩ := hwire
  · simp [State.masterReply, hpc, hr] at h
  · obtain ⟨hlen, hle⟩ := length_sentBytes hi.masterCfg hpos buf
    have htotal := length_putBlobRegs hdm hM hle
    rw [hlen] at htotal
    have hcount : ¬((putBlobRegs dm (sentBytes s.master.cfg buf)).length : ℤ) < 0 := by omega
    simp only [State.masterReply, hpc, hr, DtioxLinuxModbusTcpMaster.writeDone, if_neg hcount,
      ← htotal, ne_eq, not_true_eq_false, if_false] at h
    obtain rfl := Option.some.inj h
    refine { hi with wire := ⟨hq, rfl, hcmd⟩, toMaster := ?_, toSlave := ?_ }
    · simpa only [s2mInFlight, hpc] using hto
    · simp only [unreturned, hpc, hq, Option.isNone_none, if_true, sentBytes] at hfrom
      simpa only [unreturned, List.append_nil] using hfrom

/-- The reply to the poll command: ask for the header. -/
theorem Inv.masterReply_pollCmd (hi : Inv dm M s tab) (hpc : s.masterPc = .pollCmd)
    (h : s.masterReply dm = some s') : Inv dm M s' tab := by
  have hwire := hi.wire
  have hto := hi.toMaster
  have hfrom := hi.toSlave
  simp only [Wire, hpc] at hwire
  obtain ⟨hq, hr, hcmd⟩ | ⟨hq, hr⟩ := hwire
  · simp [State.masterReply, hpc, hr] at h
  · simp only [State.masterReply, hpc, hr, if_true] at h
    obtain rfl := Option.some.inj h
    refine { hi with wire := Or.inl ⟨rfl, rfl⟩, toMaster := ?_, toSlave := ?_ }
    · simpa only [s2mInFlight, hpc, hq, Option.isNone_none, true_and] using hto
    · simpa only [unreturned, hpc] using hfrom

/-- The reply with the header: the round is over, or ask for the payload. -/
theorem Inv.masterReply_pollHdr (hdm : dm.Lawful) (hM : M ≤ dm.maxBlobBytes) (hpos : 0 < M)
    (hi : Inv dm M s tab) (hpc : s.masterPc = .pollHdr) (h : s.masterReply dm = some s') :
    Inv dm M s' tab := by
  have hwire := hi.wire
  have hto := hi.toMaster
  have hfrom := hi.toSlave
  simp only [Wire, hpc] at hwire
  obtain ⟨hq, hr⟩ | ⟨hq, hcmd, hr⟩ := hwire
  · simp [State.masterReply, hpc, hr] at h
  · simp only [State.masterReply, hpc, hr, hi.masterCfg, pollByteLen_eq hdm hpos hM hi.s2m] at h
    simp only [s2mInFlight, hpc, ne_eq, hcmd, not_false_eq_true, if_true] at hto
    by_cases hstatus : tab dm.regS2mStatus = dm.statusHasData
    · simp only [if_pos hstatus] at h
      obtain rfl := Option.some.inj h
      refine { hi with
        wire := ⟨hcmd, hstatus, rfl, Or.inl ⟨rfl, rfl⟩⟩, toMaster := ?_, toSlave := ?_ }
      · simpa only [s2mInFlight] using hto
      · simpa only [unreturned, hpc] using hfrom
    · simp only [if_neg hstatus] at h
      obtain rfl := Option.some.inj h
      refine { hi with wire := ⟨hq, rfl, hcmd⟩, toMaster := ?_, toSlave := ?_ }
      · rw [s2mBlob, if_neg hstatus] at hto
        simpa only [s2mInFlight] using hto
      · simpa only [unreturned, hpc] using hfrom

/-- The reply with the payload: the blob goes to the master's FIFO. -/
theorem Inv.masterReply_pollData [LawfulDtringfifo F] (hdm : dm.Lawful) (hM : M ≤ dm.maxBlobBytes)
    (hi : Inv dm M s tab) (hno' : NoOverflow s') {byteLen : UInt16}
    (hpc : s.masterPc = .pollData byteLen) (h : s.masterReply dm = some s') :
    Inv dm M s' tab := by
  have hwire := hi.wire
  have hto := hi.toMaster
  have hfrom := hi.toSlave
  simp only [Wire, hpc] at hwire
  obtain ⟨hcmd, hstatus, rfl, ⟨hq, hr⟩ | ⟨hq, hr⟩⟩ := hwire
  · simp [State.masterReply, hpc, hr] at h
  · obtain ⟨bs, -, hat⟩ := hi.s2m hstatus
    have hneed := pollNeedRegs_eq hdm hM hat
    have hblob : s2mBlob dm tab = bs := by
      rw [s2mBlob, if_pos hstatus, hat.unpack hdm hM]
    generalize hvals : tab.read dm.regS2mData (pollNeedRegs dm (tab dm.regS2mLen)).toNat = vals at hr
    have hlenvals : (vals.length : ℤ) = pollNeedRegs dm (tab dm.regS2mLen) := by
      rw [← hvals, Registers.read, List.length_map, List.length_range, hneed, Int.toNat_natCast]
    have hunpack : dm.unpackRegsToBytes (fun i => vals.getD i 0) (tab dm.regS2mLen).toNat = bs := by
      rw [hat.len_toNat hdm hM]
      refine hdm.unpack_pack bs _ fun i hi => ?_
      rw [← hat.holds i hi, ← hvals, hneed, Int.toNat_natCast, Registers.read]
      simp [List.getD_eq_getElem?_getD, hi]
    simp only [State.masterReply, hpc, hr, hlenvals, if_true] at h
    obtain rfl := Option.some.inj h
    obtain ⟨hself, hwritten⟩ := pollPush_spec hunpack (hat.len_toNat hdm hM) hno'.1
    have hfifo := LawfulDtringfifo.contents_push s.master.rxFifo bs
    rw [hwritten, List.take_length] at hfifo
    refine { hi with
      masterCfg := ?_, masterEnabled := ?_, alive := ?_, wire := ⟨hq, rfl, hcmd⟩, toMaster := ?_
      toSlave := ?_ }
    · rw [hself]
      exact hi.masterCfg
    · rw [hself]
      exact hi.masterEnabled
    · rw [hself]
      exact hi.alive
    · simp only [s2mInFlight, hpc, hblob] at hto
      simp only [s2mInFlight, hself, hfifo, List.append_nil]
      simpa only [List.append_assoc] using hto
    · simpa only [unreturned, hpc] using hfrom

theorem Inv.masterReply [LawfulDtringfifo F] (hdm : dm.Lawful) (hM : M ≤ dm.maxBlobBytes)
    (hpos : 0 < M) (hi : Inv dm M s tab) (hno' : NoOverflow s') (h : s.masterReply dm = some s') :
    Inv dm M s' tab := by
  cases hpc : s.masterPc with
  | free => simp [State.masterReply, hpc] at h
  | writing buf => exact hi.masterReply_writing hdm hM hpos hpc h
  | pollCmd => exact hi.masterReply_pollCmd hpc h
  | pollHdr => exact hi.masterReply_pollHdr hdm hM hpos hpc h
  | pollData byteLen => exact hi.masterReply_pollData hdm hM hno' hpc h

/-! ## The steps of the slave -/

theorem Inv.slaveWrite (hi : Inv dm M s tab) {buf : List UInt8} (h : s.slaveWrite buf = some s') :
    Inv dm M s' tab := by
  have hto := hi.toMaster
  unfold State.slaveWrite at h
  split at h
  · obtain rfl := Option.some.inj h
    exact hi
  · next hcheck =>
      have hlen : (buf.length : ℤ) ≤ M := by
        unfold writeCheck at hcheck
        rw [hi.slaveOk.cfg] at hcheck
        dsimp only at hcheck
        split at hcheck
        · exact absurd hcheck (by simp)
        · split at hcheck
          · exact absurd hcheck (by simp)
          · omega
      cases hpending : s.slave.txPending with
      | true =>
          simp only [DtioxLinuxModbusTcpSlave.writeLocked, hi.slaveOk.enabled, hpending,
            Bool.not_true, Bool.false_eq_true, if_false, if_true] at h
          obtain rfl := Option.some.inj h
          exact hi
      | false =>
          simp only [DtioxLinuxModbusTcpSlave.writeLocked, hi.slaveOk.enabled, hpending,
            Bool.not_true, Bool.false_eq_true, if_false, Int.toNat_natCast, List.take_length] at h
          obtain rfl := Option.some.inj h
          refine { hi with slaveOk := ⟨hi.slaveOk.cfg, rfl, ?_⟩, toMaster := ?_ }
          · intro _
            refine ⟨by simp, hlen, ?_⟩
            simp
          · rw [← hto]
            simp only [txBlob, hpending, Int.toNat_natCast, Bool.false_eq_true, if_false, if_true,
              List.append_nil, List.take_left']
            rfl

theorem Inv.slaveRead [LawfulDtringfifo F] (hi : Inv dm M s tab) (hno : NoOverflow s) {bufLen : ℤ}
    (h : s.slaveRead bufLen = some s') : Inv dm M s' tab := by
  have hfrom := hi.toSlave
  unfold State.slaveRead at h
  split at h
  · obtain rfl := Option.some.inj h
    exact hi
  · simp only [readLocked, hno.2, hi.slaveOk.enabled, Bool.not_true, Bool.false_eq_true,
      if_false] at h
    obtain rfl := Option.some.inj h
    have hpop := LawfulDtringfifo.contents_pop s.slave.rxFifo bufLen.toNat
    refine { hi with slaveOk := ⟨hi.slaveOk.cfg, rfl, hi.slaveOk.tx⟩, toSlave := ?_ }
    rw [hpop] at hfrom
    simpa only [unreturned, Option.getD_some, List.append_assoc] using hfrom

/-- The slave gets the query on the wire: the registers change as the query says, and the reply
    tells what they hold. -/
theorem Inv.slaveReceive (hdm : dm.Lawful) (hM : M ≤ dm.maxBlobBytes) (hpos : 0 < M)
    (hi : Inv dm M s tab) (h : s.slaveReceive = some s') : ∃ tab', Inv dm M s' tab' := by
  have hwire := hi.wire
  have hto := hi.toMaster
  have hfrom := hi.toSlave
  unfold State.slaveReceive at h
  split at h
  · next query tab₀ hslave hquery hmap =>
      obtain rfl := Option.some.inj (hmap.symm.trans hi.map)
      obtain rfl := Option.some.inj h
      obtain ⟨hput, hgive⟩ := hi.idle hslave
      have hempty : m2sBlob dm tab₀ = [] := by rw [m2sBlob, if_neg hput]
      rw [hempty, List.append_nil] at hfrom
      cases hpc : s.masterPc with
      | free =>
          simp only [Wire, hpc, hquery] at hwire
          exact absurd hwire.1 (by simp)
      | writing buf =>
          simp only [Wire, hpc, hquery, reduceCtorEq, false_and, or_false, Option.some.injEq]
            at hwire
          obtain ⟨-, rfl, hr⟩ := hwire
          obtain ⟨-, hle⟩ := length_sentBytes hi.masterCfg hpos buf
          obtain ⟨hcmd, hat, hsame⟩ := write_putBlobRegs hdm hM tab₀ hle
          refine ⟨_, { hi with
            map := rfl, slaveOk := ⟨hi.slaveOk.cfg, hi.slaveOk.enabled, hi.slaveOk.tx⟩
            m2s := fun _ => ⟨_, hat⟩, s2m := hi.s2m.congr hdm hM hsame, idle := ?_, wire := ?_
            toMaster := ?_, toSlave := ?_ }⟩
          · intro hrec
            exact absurd hrec (by simp)
          · simp only [Wire, Query.reply]
            refine ⟨?_, Or.inr ⟨trivial, trivial⟩⟩
            rw [Query.apply, hcmd]
            exact hdm.putBlob_ne_giveMe
          · simp only [s2mInFlight, hpc] at hto ⊢
            exact hto
          · have hblob : m2sBlob dm (Query.apply (.writeRegisters dm.regM2sCmd
                (putBlobRegs dm (sentBytes s.master.cfg buf))) tab₀) = sentBytes s.master.cfg buf := by
              rw [m2sBlob, Query.apply, if_pos hcmd, hat.unpack hdm hM]
            simp only [unreturned, hpc, hquery, Option.isNone_some, Bool.false_eq_true, if_false,
              List.append_nil] at hfrom
            simp only [unreturned, Option.isNone_none, if_true, hblob, hfrom]
      | pollCmd =>
          simp only [Wire, hpc, hquery, reduceCtorEq, false_and, or_false, Option.some.injEq]
            at hwire
          obtain ⟨rfl, hr, -⟩ := hwire
          obtain ⟨hcmd, hsame⟩ := write_pollCmdRegs hdm tab₀
          have hput' : tab₀.write dm.regM2sCmd (pollCmdRegs dm) dm.regM2sCmd ≠ dm.cmdPutBlob := by
            rw [hcmd]
            exact hdm.putBlob_ne_giveMe.symm
          refine ⟨_, { hi with
            map := rfl, slaveOk := ⟨hi.slaveOk.cfg, hi.slaveOk.enabled, hi.slaveOk.tx⟩
            m2s := fun h => absurd h hput', s2m := hi.s2m.congr hdm hM hsame, idle := ?_, wire := ?_
            toMaster := ?_, toSlave := ?_ }⟩
          · intro hrec
            exact absurd hrec (by simp)
          · simp only [Wire, Query.reply]
            exact Or.inr ⟨trivial, rfl⟩
          · simp only [s2mInFlight, hpc, hquery, Option.isNone_some, Bool.false_eq_true, false_and,
              if_false] at hto
            simp only [s2mInFlight, Query.apply, hcmd, ne_eq, not_true_eq_false, and_false, if_false]
            exact hto
          · simp only [unreturned, hpc] at hfrom ⊢
            rw [m2sBlob, Query.apply, if_neg hput', List.append_nil, hfrom]
      | pollHdr =>
          simp only [Wire, hpc, hquery, reduceCtorEq, false_and, or_false, Option.some.injEq]
            at hwire
          obtain ⟨rfl, hr⟩ := hwire
          refine ⟨tab₀, { hi with
            map := rfl, slaveOk := ⟨hi.slaveOk.cfg, hi.slaveOk.enabled, hi.slaveOk.tx⟩
            idle := ?_, wire := ?_, toMaster := ?_, toSlave := ?_ }⟩
          · intro hrec
            exact absurd hrec (by simp)
          · simp only [Wire, Query.reply]
            refine Or.inr ⟨trivial, hgive, ?_⟩
            rw [hdm.regS2mLen_eq]
            rfl
          · simp only [s2mInFlight, hpc] at hto ⊢
            exact hto
          · simp only [unreturned, hpc, hempty, List.append_nil] at hfrom ⊢
            exact hfrom
      | pollData byteLen =>
          simp only [Wire, hpc, hquery, reduceCtorEq, false_and, or_false, Option.some.injEq]
            at hwire
          obtain ⟨-, hstatus, hlen, rfl, hr⟩ := hwire
          refine ⟨tab₀, { hi with
            map := rfl, slaveOk := ⟨hi.slaveOk.cfg, hi.slaveOk.enabled, hi.slaveOk.tx⟩
            idle := ?_, wire := ?_, toMaster := ?_, toSlave := ?_ }⟩
          · intro hrec
            exact absurd hrec (by simp)
          · simp only [Wire, Query.reply]
            exact ⟨hgive, hstatus, hlen, Or.inr ⟨trivial, trivial⟩⟩
          · simp only [s2mInFlight, hpc] at hto ⊢
            exact hto
          · simp only [unreturned, hpc, hempty, List.append_nil] at hfrom ⊢
            exact hfrom
  · exact absurd h (by simp)

/-- The slave interprets the command: a blob of the master goes to the FIFO, or the blob waiting in
    `tx_bytes` goes to the registers. -/
theorem Inv.slaveInterpret [LawfulDtringfifo F] (hdm : dm.Lawful) (hM : M ≤ dm.maxBlobBytes)
    (hi : Inv dm M s tab) (hno' : NoOverflow s') (h : s.slaveInterpret dm = some s') :
    ∃ tab', Inv dm M s' tab' := by
  have hwire := hi.wire
  have hto := hi.toMaster
  have hfrom := hi.toSlave
  unfold State.slaveInterpret at h
  split at h
  · exact absurd h (by simp)
  · obtain rfl := Option.some.inj h
    obtain ⟨tab', hint⟩ := interpretCommand_spec hdm hM hi.map hi.slaveOk hi.m2s hi.s2m hno'.2
    have hempty : m2sBlob dm tab' = [] := by rw [m2sBlob, if_neg hint.noPutBlob]
    have hcmd' := hint.noGiveMe
    refine ⟨tab', { hi with
      map := hint.map, slaveOk := hint.ok, m2s := fun h => absurd h hint.noPutBlob, s2m := hint.s2m
      idle := fun _ => ⟨hint.noPutBlob, hcmd'⟩, wire := ?_, toMaster := ?_, toSlave := ?_ }⟩
    · cases hpc : s.masterPc with
      | free =>
          simp only [Wire, hpc] at hwire ⊢
          exact ⟨hwire.1, hwire.2.1, hcmd'⟩
      | writing buf =>
          simp only [Wire, hpc] at hwire ⊢
          exact ⟨hcmd', hwire.2⟩
      | pollCmd =>
          simp only [Wire, hpc] at hwire ⊢
          exact hwire.imp (fun h => ⟨h.1, h.2.1, hcmd'⟩) id
      | pollHdr =>
          simp only [Wire, hpc] at hwire ⊢
          refine hwire.imp id ?_
          rintro ⟨hq, hcmd, hr⟩
          refine ⟨hq, hcmd', ?_⟩
          obtain ⟨hsame, -⟩ := hint.unpolled hcmd
          rw [hr, hsame.1, hsame.2.1]
      | pollData byteLen =>
          simp only [Wire, hpc] at hwire ⊢
          obtain ⟨hcmd, hstatus, hlen, hreq⟩ := hwire
          obtain ⟨hsame, -⟩ := hint.unpolled hcmd
          refine ⟨hcmd', hsame.1.trans hstatus, hlen.trans hsame.2.1.symm, hreq.imp id ?_⟩
          rintro ⟨hq, hr⟩
          refine ⟨hq, ?_⟩
          obtain ⟨bs, -, hat⟩ := hi.s2m hstatus
          have hneed := pollNeedRegs_eq hdm hM hat
          have hread : tab'.read dm.regS2mData (pollNeedRegs dm byteLen).toNat
              = tab.read dm.regS2mData (pollNeedRegs dm byteLen).toNat := by
            unfold Registers.read
            apply List.map_congr_left
            intro i hmem
            rw [hlen, hneed, Int.toNat_natCast, List.mem_range] at hmem
            exact hsame.2.2 i (Nat.lt_of_lt_of_le hmem (length_pack_le hdm hM hat.le))
          rw [hr, hread]
    · -- the blob leaves `tx_bytes` exactly when it enters the registers
      rw [← hto]
      by_cases hcmd : tab dm.regM2sCmd = dm.cmdGiveMeAnyData
      · obtain ⟨hblob, htx⟩ := hint.polled hcmd
        cases hpc : s.masterPc with
        | free => simp only [Wire, hpc] at hwire; exact absurd hcmd hwire.2.2
        | writing buf => simp only [Wire, hpc] at hwire; exact absurd hcmd hwire.1
        | pollCmd =>
            simp only [Wire, hpc] at hwire
            obtain ⟨-, -, hne⟩ | ⟨hq, -⟩ := hwire
            · exact absurd hcmd hne
            · simp only [s2mInFlight, hpc, hq, Option.isNone_none, ne_eq, hcmd', hcmd,
                not_false_eq_true, not_true_eq_false, and_self, and_false, if_true, if_false, hblob,
                htx, List.append_nil]
        | pollHdr =>
            simp only [s2mInFlight, hpc, ne_eq, hcmd', hcmd, not_false_eq_true, not_true_eq_false,
              if_true, if_false, hblob, htx, List.append_nil]
        | pollData byteLen => simp only [Wire, hpc] at hwire; exact absurd hcmd hwire.1
      · obtain ⟨hsame, htx⟩ := hint.unpolled hcmd
        have hblob := s2mBlob_congr hdm hM hi.s2m hsame
        simp only [s2mInFlight, ne_eq, hcmd, hcmd', not_false_eq_true, and_true, if_true, hblob, htx]
    · rw [hint.fifo, hempty, List.append_nil, ← List.append_assoc]
      exact hfrom

/-! ## Whole runs -/

theorem inv_step [LawfulDtringfifo F] (hdm : dm.Lawful) (hM : M ≤ dm.maxBlobBytes) (hpos : 0 < M)
    {e : Event} (hi : ∃ tab, Inv dm M s tab) (hno : NoOverflow s) (hno' : NoOverflow s')
    (h : s.step dm e = some s') : ∃ tab, Inv dm M s' tab := by
  obtain ⟨tab, hi⟩ := hi
  cases e with
  | masterWrite buf => exact ⟨tab, hi.masterWrite hdm hM hpos h⟩
  | masterRead bufLen => exact ⟨tab, hi.masterRead hno h⟩
  | masterPoll => exact ⟨tab, hi.masterPoll h⟩
  | masterReply => exact ⟨tab, hi.masterReply hdm hM hpos hno' h⟩
  | slaveWrite buf => exact ⟨tab, hi.slaveWrite h⟩
  | slaveRead bufLen => exact ⟨tab, hi.slaveRead hno h⟩
  | slaveReceive => exact hi.slaveReceive hdm hM hpos h
  | slaveInterpret => exact hi.slaveInterpret hdm hM hno' h

/-- The registers after attach have no command and announce nothing. -/
theorem attachedRegisters_quiet (hdm : dm.Lawful) :
    State.attachedRegisters dm dm.regM2sCmd ≠ dm.cmdPutBlob ∧
      State.attachedRegisters dm dm.regM2sCmd ≠ dm.cmdGiveMeAnyData ∧
      State.attachedRegisters dm dm.regS2mStatus ≠ dm.statusHasData := by
  have hlen := hdm.regS2mLen_eq
  have hdata := hdm.regS2mData_eq
  have hM2s := hdm.regM2sData_eq
  have hcmd : State.attachedRegisters dm dm.regM2sCmd = 0 := by
    have hdisj := hdm.disjoint
    unfold State.attachedRegisters
    rw [setReg_of_ne _ _ (by omega), setReg_of_ne _ _ (by omega)]
  refine ⟨?_, ?_, ?_⟩
  · rw [hcmd]
    exact hdm.putBlob_ne_zero.symm
  · rw [hcmd]
    exact hdm.giveMe_ne_zero.symm
  · unfold State.attachedRegisters
    rw [setReg_of_ne _ _ (by omega), setReg_self]
    exact hdm.status_ne.symm

theorem inv_initial [LawfulDtringfifo F] (hdm : dm.Lawful)
    {masterCfg : DtioxLinuxModbusTcpMaster.Config} {slaveCfg : Config}
    (hmaster : masterCfg.maxBlobBytes = M) (hslave : slaveCfg.maxBlobBytes = M)
    (masterFifo slaveFifo : F) :
    Inv dm M (State.initial dm masterCfg slaveCfg masterFifo slaveFifo)
      (State.attachedRegisters dm) := by
  obtain ⟨hput, hgive, hstatus⟩ := attachedRegisters_quiet hdm
  refine {
    map := rfl, masterCfg := hmaster, masterEnabled := rfl, alive := rfl
    slaveOk := ⟨hslave, rfl, fun h => absurd h (by simp [State.initial])⟩
    m2s := fun h => absurd h hput, s2m := fun h => absurd h hstatus
    idle := fun _ => ⟨hput, hgive⟩, wire := ⟨rfl, rfl, hgive⟩, toMaster := ?_, toSlave := ?_ }
  · simp [State.initial, s2mInFlight, txBlob, LawfulDtringfifo.contents_reset]
  · simp [State.initial, unreturned, m2sBlob, hput, LawfulDtringfifo.contents_reset]

/-- A poll round is in progress. -/
def MasterPc.Polling : MasterPc → Prop
  | .free => False
  | .writing _ => False
  | _ => True

/-- **Exactly once, in order.** In every run without an overflow, between two ends with the same
    blob size: the bytes of the successful slave writes are the bytes read by the master, its FIFO,
    the blob of the poll round in progress, and the blob waiting in `tx_bytes`; the bytes of the
    successful master writes, with the blob of a write in progress that the slave has received, are
    the bytes read by the slave, its FIFO, and the blob it has not interpreted yet. Outside a poll
    round, and when the slave has interpreted the last query and no write is in progress, the
    registers drop out. -/
theorem mailbox_exactly_once [LawfulDtringfifo F] (dm : DtioxModbus) (hdm : dm.Lawful)
    (masterCfg : DtioxLinuxModbusTcpMaster.Config) (slaveCfg : Config)
    (hsame : slaveCfg.maxBlobBytes = masterCfg.maxBlobBytes) (hpos : 1 ≤ masterCfg.maxBlobBytes)
    (hle : masterCfg.maxBlobBytes ≤ dm.maxBlobBytes) (masterFifo slaveFifo : F)
    (events : List Event) (s : State F)
    (hrun : Run.exec (State.step dm) (.initial dm masterCfg slaveCfg masterFifo slaveFifo) events
      = some s)
    (hno : Run.AllStates (State.step dm) NoOverflow
      (.initial dm masterCfg slaveCfg masterFifo slaveFifo) events) :
    (∃ tab, s.slave.mbMap = some tab ∧
      s.masterGot ++ Dtringfifo.contents s.master.rxFifo ++ s2mInFlight dm s tab
        ++ txBlob s.slave = s.slaveWritten ∧
      s.slaveGot ++ Dtringfifo.contents s.slave.rxFifo ++ m2sBlob dm tab
        = s.masterWritten ++ unreturned s) ∧
    (¬s.masterPc.Polling →
      s.masterGot ++ Dtringfifo.contents s.master.rxFifo ++ txBlob s.slave = s.slaveWritten) ∧
    ((∀ buf, s.masterPc ≠ .writing buf) → s.slavePc = .receiving →
      s.slaveGot ++ Dtringfifo.contents s.slave.rxFifo = s.masterWritten) := by
  have hinit := inv_initial hdm rfl hsame masterFifo slaveFifo
  have hstep : ∀ (s : State F) (e : Event) (s' : State F),
      (∃ tab, Inv dm masterCfg.maxBlobBytes s tab) → NoOverflow s → NoOverflow s' →
      s.step dm e = some s' → ∃ tab, Inv dm masterCfg.maxBlobBytes s' tab :=
    fun _ _ _ hi hno hno' h => inv_step hdm hle hpos hi hno hno' h
  obtain ⟨tab, hi⟩ := Run.exec_invariant_of_allStates hstep events _ s ⟨_, hinit⟩ hno hrun
  have hto := hi.toMaster
  have hfrom := hi.toSlave
  refine ⟨⟨tab, hi.map, hto, hfrom⟩, fun hpoll => ?_, fun hwriting hrec => ?_⟩
  · have hflight : s2mInFlight dm s tab = [] := by
      unfold s2mInFlight
      cases hpc : s.masterPc with
      | free => rfl
      | writing buf => rfl
      | pollCmd => exact absurd (by rw [hpc]; trivial) hpoll
      | pollHdr => exact absurd (by rw [hpc]; trivial) hpoll
      | pollData byteLen => exact absurd (by rw [hpc]; trivial) hpoll
    rwa [hflight, List.append_nil] at hto
  · have hblob : m2sBlob dm tab = [] := by rw [m2sBlob, if_neg (hi.idle hrec).1]
    have hnone : unreturned s = [] := by
      unfold unreturned
      split
      · next buf hpc => exact absurd hpc (hwriting buf)
      · rfl
    rwa [hblob, hnone, List.append_nil, List.append_nil] at hfrom

/-- A slave write that a whole poll round delivers, with a second slave write and a master write in
    between. -/
def pollRun : List Event :=
  [.slaveWrite [1, 2, 3], .masterWrite [9], .slaveReceive, .masterReply, .slaveInterpret,
    .masterPoll, .slaveReceive, .slaveInterpret, .slaveWrite [4], .masterReply, .slaveReceive,
    .masterReply, .slaveInterpret, .slaveReceive, .slaveInterpret, .masterReply, .masterRead 2,
    .slaveRead 8]

/-- Blobs of at most 16 bytes on both ends. -/
def pollRunStart : State ByteFifo :=
  .initial .bigEndian ⟨"10.0.0.1", 502, 1, 25, 250, 16, 64⟩ ⟨16⟩ ⟨64, []⟩ ⟨64, []⟩

theorem mailbox_exactly_once_pollRun :
    ∃ s, Run.exec (State.step .bigEndian) pollRunStart pollRun = some s ∧
      s.masterGot = [1, 2] ∧ s.slaveGot = [9] ∧
      s.masterGot ++ Dtringfifo.contents s.master.rxFifo ++ txBlob s.slave = s.slaveWritten ∧
      s.slaveGot ++ Dtringfifo.contents s.slave.rxFifo = s.masterWritten := by
  have hreads : (Run.exec (State.step .bigEndian) pollRunStart pollRun).map
      (fun s => (s.masterGot, s.slaveGot, s.masterPc, s.slavePc))
      = some ([1, 2], [9], .free, .receiving) := by decide +kernel
  obtain ⟨s, hs, heq⟩ := Option.map_eq_some_iff.1 hreads
  simp only [Prod.mk.injEq] at heq
  obtain ⟨hmaster, hslave, hpc, hslavePc⟩ := heq
  have hno : Run.AllStates (State.step .bigEndian) NoOverflow pollRunStart pollRun := by
    decide +kernel
  have hlaw := mailbox_exactly_once .bigEndian DtioxModbus.bigEndian_lawful
    ⟨"10.0.0.1", 502, 1, 25, 250, 16, 64⟩ ⟨16⟩ rfl (by decide) (by decide)
    (⟨64, []⟩ : ByteFifo) ⟨64, []⟩ pollRun s hs hno
  refine ⟨s, hs, hmaster, hslave, hlaw.2.1 ?_, hlaw.2.2 ?_ hslavePc⟩
  · rw [hpc]
    exact not_false
  · intro buf hwriting
    rw [hpc] at hwriting
    cases hwriting

/-- The slave has received a master write and not interpreted it, and the write has returned. -/
theorem master_write_not_yet_in_slave :
    ¬∀ (events : List Event) (s : State ByteFifo),
      Run.exec (State.step .bigEndian) pollRunStart events = some s →
      Run.AllStates (State.step .bigEndian) NoOverflow pollRunStart events →
      (∀ buf, s.masterPc ≠ .writing buf) →
      s.slaveGot ++ Dtringfifo.contents s.slave.rxFifo = s.masterWritten := by
  intro h
  have hends : (Run.exec (State.step .bigEndian) pollRunStart
      [.masterWrite [42], .slaveReceive, .masterReply]).map (fun s =>
        (s.masterWritten, s.slaveGot ++ Dtringfifo.contents s.slave.rxFifo,
          s.masterPc)) = some ([42], [], .free) := by decide +kernel
  obtain ⟨s, hs, heq⟩ := Option.map_eq_some_iff.1 hends
  simp only [Prod.mk.injEq] at heq
  obtain ⟨hwritten, hslave, hpc⟩ := heq
  have hwriting : ∀ buf, s.masterPc ≠ .writing buf := by
    intro buf hbuf
    rw [hpc] at hbuf
    cases hbuf
  have hall := h _ s hs (by decide +kernel) hwriting
  rw [hwritten, hslave] at hall
  exact absurd hall (by decide)

end ModbusMailbox
