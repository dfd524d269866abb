import DtmcLinux.Modbus.Truncation

set_option autoImplicit false

/-! # When a tail is lost silently

The invariant follows each blob through the registers: what the M2S block and the S2M block hold,
what a poll round was told, and what is still waiting at the two ends. With it, a delivery is
accounted for exactly when the blob was within the receiver's limit, or the flag is set for another
reason. -/

namespace ModbusMailbox

open ModbusMaster DtioxLinuxModbusTcpSlave

variable {F : Type*} {dm : DtioxModbus} {Mm Ms : ℤ} {t t' : Traffic F} {tab : Registers}

/-! ## The invariant -/

/-- The poll round in progress was told of the blob `bs`, and the data registers hold it. -/
structure Fetching (dm : DtioxModbus) (Ms : ℤ) (tab : Registers) (bs : List UInt8) : Prop where
  ne : bs ≠ []
  le : (bs.length : ℤ) ≤ Ms
  holds : Holds dm tab dm.regS2mData bs

/-- The header `status`, `len` announces `bs`, or nothing. -/
def Announced (dm : DtioxModbus) (Ms : ℤ) (tab : Registers) (status len : UInt16)
    (bs : List UInt8) : Prop :=
  (status ≠ dm.statusHasData ∧ bs = []) ∨
    (status = dm.statusHasData ∧ len = UInt16.ofNat bs.length ∧ Fetching dm Ms tab bs)

/-- The registers a poll round gets for its payload are those of the blob. -/
def Payload (dm : DtioxModbus) (byteLen : UInt16) (bs : List UInt8) (values : List UInt16) : Prop :=
  (values.length : ℤ) = pollNeedRegs dm byteLen ∧
    ∀ i < (dm.packBytesToRegs bs).length, (i : ℤ) < pollNeedRegs dm byteLen →
      values.getD i 0 = (dm.packBytesToRegs bs).getD i 0

/-- The request on the wire, the reply to it and the blob announced agree with what the holder of
    the master's lock waits for. -/
def TrafficWire (dm : DtioxModbus) (Mm Ms : ℤ) (t : Traffic F) (tab : Registers) : Prop :=
  match t.ends.masterPc with
  | .free => t.ends.query = none ∧ t.ends.reply = none ∧ tab dm.regM2sCmd ≠ dm.cmdGiveMeAnyData
  | .writing buf =>
    tab dm.regM2sCmd ≠ dm.cmdGiveMeAnyData ∧
    ((t.ends.query = some (.writeRegisters dm.regM2sCmd
        (putBlobRegs dm (sentBytes t.ends.master.cfg buf))) ∧ t.ends.reply = none) ∨
      (t.ends.query = none ∧ t.ends.reply = some
        (.written (putBlobRegs dm (sentBytes t.ends.master.cfg buf)).length)))
  | .pollCmd =>
    (t.ends.query = some (.writeRegisters dm.regM2sCmd (pollCmdRegs dm)) ∧ t.ends.reply = none ∧
      tab dm.regM2sCmd ≠ dm.cmdGiveMeAnyData) ∨
    (t.ends.query = none ∧ t.ends.reply = some (.written 2))
  | .pollHdr =>
    (t.ends.query = some (.readRegisters dm.regS2mStatus 2) ∧ t.ends.reply = none) ∨
    (t.ends.query = none ∧ tab dm.regM2sCmd ≠ dm.cmdGiveMeAnyData ∧
      ∃ status len, t.ends.reply = some (.registers [status, len]) ∧
        Announced dm Ms tab status len t.fetching)
  | .pollData byteLen =>
    tab dm.regM2sCmd ≠ dm.cmdGiveMeAnyData ∧ Fetching dm Ms tab t.fetching ∧
    (byteLen.toNat : ℤ) = min (t.fetching.length : ℤ) Mm ∧
    ((t.ends.query = some (.readRegisters dm.regS2mData (pollNeedRegs dm byteLen).toNat) ∧
        t.ends.reply = none) ∨
      (t.ends.query = none ∧ ∃ values, t.ends.reply = some (.registers values) ∧
        Payload dm byteLen t.fetching values))

/-- The blob of a poll round that the slave has taken from `tx_bytes` and that has not arrived. -/
def Traffic.inFlight (dm : DtioxModbus) (t : Traffic F) (tab : Registers) : List UInt8 :=
  match t.ends.masterPc with
  | .free => []
  | .writing _ => []
  | .pollCmd =>
    if t.ends.query.isNone ∧ tab dm.regM2sCmd ≠ dm.cmdGiveMeAnyData then t.s2m else []
  | .pollHdr =>
    if t.ends.query.isNone then t.fetching
    else if tab dm.regM2sCmd ≠ dm.cmdGiveMeAnyData then t.s2m else []
  | .pollData _ => t.fetching

/-- **The invariant.** -/
structure TrafficInv (dm : DtioxModbus) (Mm Ms : ℤ) (t : Traffic F) (tab : Registers) : Prop where
  map : t.ends.slave.mbMap = some tab
  masterCfg : t.ends.master.cfg.maxBlobBytes = Mm
  slaveCfg : t.ends.slave.cfg.maxBlobBytes = Ms
  tx : TxOk Ms t.ends.slave
  m2s : M2sOk dm Mm tab
  m2s_eq : m2sBlob dm tab = t.m2s
  s2m : S2mOk dm Ms tab
  s2m_eq : s2mBlob dm tab = t.s2m
  idle : t.ends.slavePc = .receiving →
    tab dm.regM2sCmd ≠ dm.cmdPutBlob ∧ tab dm.regM2sCmd ≠ dm.cmdGiveMeAnyData
  wire : TrafficWire dm Mm Ms t tab
  toSlave : t.toSlave.flatMap (·.sent) ++ t.m2s = t.ends.masterWritten ++ unreturned t.ends
  toMaster : List.Sublist (t.toMaster.flatMap (·.sent) ++ t.inFlight dm tab ++ txBlob t.ends.slave)
    t.ends.slaveWritten

/-- What the limits of two configured ends satisfy. -/
structure Limits (dm : DtioxModbus) (Mm Ms : ℤ) : Prop where
  master_pos : 0 < Mm
  master_le : Mm ≤ dm.maxBlobBytes
  slave_pos : 0 < Ms
  slave_le : Ms ≤ dm.maxBlobBytes

/-! ## Pushing a part of a blob -/

/-- What a push appends. -/
theorem appended_push [Dtringfifo F] [LawfulDtringfifo F] (fifo : F) (bytes : List UInt8) :
    Traffic.appended fifo (Dtringfifo.push fifo bytes).1
      = bytes.take (Dtringfifo.push fifo bytes).2 := by
  rw [Traffic.appended, LawfulDtringfifo.contents_push, List.drop_left]

/-- A blob of which the part within the limit is pushed is accounted for exactly when its tail is
    safe. -/
theorem accounted_iff_tailSafe [Dtringfifo F] [LawfulDtringfifo F] (fifo : F) (blob : List UInt8)
    {limit : ℤ} (hlimit : 0 < limit)
    (overflowPending : Bool) :
    let part := blob.take limit.toNat
    let written := (Dtringfifo.push fifo part).2
    ((part.take written = blob ∨ (decide (written < part.length) || overflowPending) = true) ↔
      TailSafe limit overflowPending fifo blob) := by
  intro part written
  have hle : written ≤ part.length := LawfulDtringfifo.push_le fifo part
  have hpart : part.length = min limit.toNat blob.length := List.length_take
  unfold TailSafe
  cases overflowPending with
  | true => simp
  | false =>
      simp only [Bool.or_false, decide_eq_true_eq, Bool.false_eq_true, false_or]
      constructor
      · rintro (hall | hshort)
        · left
          have hlen : (part.take written).length = blob.length := by rw [hall]
          rw [List.length_take] at hlen
          omega
        · right
          change written < limit.toNat
          omega
      · rintro (hfits | hshort)
        · have hwhole : part = blob := List.take_of_length_le (by omega)
          rw [hwhole] at hle ⊢
          by_cases hw : written < blob.length
          · exact Or.inr hw
          · exact Or.inl (List.take_of_length_le (by omega))
        · by_cases hw : written < part.length
          · exact Or.inr hw
          · left
            have hw' : written < limit.toNat := hshort
            have hwhole : part = blob := List.take_of_length_le (by omega)
            rw [hwhole] at hw ⊢
            exact List.take_of_length_le (by omega)

/-! ## Interpreting a command -/

theorem interpretCommand_other [Dtringfifo F] {slave : Slave F} (hmap : slave.mbMap = some tab)
    (hput : tab dm.regM2sCmd ≠ dm.cmdPutBlob) (hgive : tab dm.regM2sCmd ≠ dm.cmdGiveMeAnyData) :
    interpretCommand dm slave = slave := by
  have hconsume : consumePutBlob dm slave = slave := by
    rw [consumePutBlob, hmap]
    dsimp only
    rw [if_pos hput]
  rw [interpretCommand, hconsume, hmap]
  dsimp only
  rw [if_neg hgive]

/-- A poll command moves the blob waiting in `tx_bytes` to the S2M block. -/
theorem interpretCommand_giveMe [Dtringfifo F] (hdm : dm.Lawful) (hle : Ms ≤ dm.maxBlobBytes)
    {slave : Slave F}
    (hmap : slave.mbMap = some tab) (hcfg : slave.cfg.maxBlobBytes = Ms) (htx : TxOk Ms slave)
    (hgive : tab dm.regM2sCmd = dm.cmdGiveMeAnyData) :
    ∃ tab' pending len, interpretCommand dm slave
        = { slave with mbMap := some tab', txPending := pending, txLen := len } ∧
      tab' dm.regM2sCmd = dm.cmdNone ∧ TxOk Ms (interpretCommand dm slave) ∧
      txBlob (interpretCommand dm slave) = [] ∧ S2mOk dm Ms tab' ∧
      s2mBlob dm tab' = txBlob slave := by
  have hput : tab dm.regM2sCmd ≠ dm.cmdPutBlob := by
    rw [hgive]
    exact hdm.putBlob_ne_giveMe.symm
  have hconsume : consumePutBlob dm slave = slave := by
    rw [consumePutBlob, hmap]
    dsimp only
    rw [if_pos hput]
  obtain ⟨tab₁, pending, len, hprepare, htx₁, hblob₁, hs2m₁, hs2mBlob₁⟩ :=
    preparePollResponse_spec hdm hle hmap hcfg htx
  rw [hprepare] at htx₁ hblob₁
  obtain ⟨hnone, hsame⟩ := clearCommand hdm tab₁
  have heq : interpretCommand dm slave = { slave with
      mbMap := some (setReg (setReg tab₁ dm.regM2sCmd dm.cmdNone) dm.regM2sLen 0)
      txPending := pending
      txLen := len } := by
    rw [interpretCommand, hconsume, hmap]
    dsimp only
    rw [if_pos hgive, hprepare]
  refine ⟨_, pending, len, heq, hnone, ?_, ?_, hs2m₁.congr hdm hle hsame, ?_⟩
  · rw [heq]
    exact htx₁
  · rw [heq]
    exact hblob₁
  · exact (s2mBlob_congr hdm hle hs2m₁ hsame).trans hs2mBlob₁

/-- A `PUT_BLOB` command: the part of its blob within the limit is pushed, and the delivery is
    accounted for exactly when the tail is safe. -/
theorem interpretCommand_putBlob [Dtringfifo F] [LawfulDtringfifo F] (hdm : dm.LawfulPrefix)
    (hlim : Limits dm Mm Ms)
    {slave : Slave F} (hmap : slave.mbMap = some tab) (hcfg : slave.cfg.maxBlobBytes = Ms)
    (hm2s : M2sOk dm Mm tab) (hput : tab dm.regM2sCmd = dm.cmdPutBlob) :
    ∃ tab' fifo overflow posts, interpretCommand dm slave
        = { slave with
            mbMap := some tab', rxFifo := fifo, rxOverflowPending := overflow
            rxPosts := posts } ∧
      tab' dm.regM2sCmd = dm.cmdNone ∧ SameS2m dm tab tab' ∧
      ((Traffic.appended slave.rxFifo fifo = m2sBlob dm tab ∨ overflow = true) ↔
        TailSafe Ms slave.rxOverflowPending slave.rxFifo (m2sBlob dm tab)) := by
  obtain ⟨bs, hat⟩ := hm2s hput
  have hlen := hat.len_toNat hdm.toLawful hlim.master_le
  have hblob : m2sBlob dm tab = bs := by
    rw [m2sBlob, if_pos hput, hat.unpack hdm.toLawful hlim.master_le]
  have hMax := hlim.slave_le
  have hpos := hlim.slave_pos
  have hle := hat.le
  have hmaster := hlim.master_le
  have hclamp : clampLen dm slave.cfg ((tab dm.regM2sLen).toNat : ℤ)
      = ((bs.take Ms.toNat).length : ℤ) := by
    rw [hlen, clampLen, hcfg, List.length_take]
    split <;> split <;> omega
  have hbytes : dm.unpackRegsToBytes (tab.ptr dm.regM2sData) (bs.take Ms.toNat).length
      = bs.take Ms.toNat := by
    have htake := hdm.unpack_take bs (bs.take Ms.toNat).length (tab.ptr dm.regM2sData)
      (by rw [List.length_take]; omega) fun i hi _ => hat.holds i hi
    rw [htake, List.length_take]
    rcases Nat.le_total Ms.toNat bs.length with hmin | hmin
    · rw [Nat.min_eq_left hmin]
    · rw [Nat.min_eq_right hmin, List.take_length, List.take_of_length_le hmin]
  obtain ⟨hnone, hsame⟩ := clearCommand hdm.toLawful tab
  have hne : dm.cmdNone ≠ dm.cmdGiveMeAnyData := hdm.giveMe_ne_none.symm
  have htail := accounted_iff_tailSafe slave.rxFifo bs hpos slave.rxOverflowPending
  rw [hblob]
  generalize hpart : bs.take Ms.toNat = part at *
  -- what consuming the command leaves, whether or not there is anything to push
  have hfinish : ∀ (fifo : F) (overflow : Bool) (posts : ℕ),
      consumePutBlob dm slave = { slave with
        mbMap := some (setReg (setReg tab dm.regM2sCmd dm.cmdNone) dm.regM2sLen 0)
        rxFifo := fifo
        rxOverflowPending := overflow
        rxPosts := posts } →
      interpretCommand dm slave = consumePutBlob dm slave := by
    intro fifo overflow posts h
    rw [interpretCommand, h]
    dsimp only
    rw [if_neg (by rw [hnone]; exact hne)]
  by_cases hempty : (part.length : ℤ) > 0
  · have hconsume : consumePutBlob dm slave = { slave with
        mbMap := some (setReg (setReg tab dm.regM2sCmd dm.cmdNone) dm.regM2sLen 0)
        rxFifo := (Dtringfifo.push slave.rxFifo part).1
        rxOverflowPending := decide ((Dtringfifo.push slave.rxFifo part).2 < part.length) ||
          slave.rxOverflowPending
        rxPosts := if slave.rxSemaphore then slave.rxPosts + 1 else slave.rxPosts } := by
      rw [consumePutBlob, hmap]
      dsimp only
      rw [if_neg (not_not.2 hput), hclamp, if_pos hempty, Int.toNat_natCast, hbytes]
      by_cases hshort : (Dtringfifo.push slave.rxFifo part).2 < part.length
      · simp [hshort]
      · simp [hshort]
    refine ⟨_, _, _, _, (hfinish _ _ _ hconsume).trans hconsume, hnone, hsame, ?_⟩
    rw [appended_push]
    exact htail
  · have hnil : part = [] := by
      rw [← List.length_eq_zero_iff]
      omega
    have hbs : bs = [] := by
      rw [← hpart, List.take_eq_nil_iff] at hnil
      rcases hnil with h | h
      · exact absurd h (by omega)
      · exact h
    have hconsume : consumePutBlob dm slave = { slave with
        mbMap := some (setReg (setReg tab dm.regM2sCmd dm.cmdNone) dm.regM2sLen 0)
        rxFifo := slave.rxFifo
        rxOverflowPending := slave.rxOverflowPending
        rxPosts := slave.rxPosts } := by
      rw [consumePutBlob, hmap]
      dsimp only
      rw [if_neg (not_not.2 hput), hclamp, if_neg hempty]
    refine ⟨_, _, _, _, (hfinish _ _ _ hconsume).trans hconsume, hnone, hsame, ?_⟩
    refine iff_of_true (Or.inl ?_) (Or.inl ?_)
    · rw [Traffic.appended, List.drop_length, hbs]
    · rw [hbs]
      simp only [List.length_nil]
      omega

/-! ## The steps of the master -/

/-- A step that changes neither the master's limit nor anything the registers depend on. -/
theorem TrafficInv.congr_master (hi : TrafficInv dm Mm Ms t tab)
    {master : Master DtioxLinuxModbusTcpMaster.Config F} {got : List UInt8}
    (hcfg : master.cfg = t.ends.master.cfg) :
    TrafficInv dm Mm Ms { t with ends := { t.ends with master := master, masterGot := got } }
      tab := by
  have hwire := hi.wire
  have hto := hi.toSlave
  refine { hi with masterCfg := hcfg ▸ hi.masterCfg, wire := ?_, toSlave := ?_ }
  · unfold TrafficWire at hwire ⊢
    simp only [hcfg]
    exact hwire
  · unfold unreturned at hto ⊢
    simp only [hcfg]
    exact hto

theorem readFifo_cfg {Cfg : Type*} [Dtringfifo F] (self : Master Cfg F) (bufLen : ℤ) :
    (readFifo self bufLen).1.cfg = self.cfg := by
  unfold readFifo
  split
  · rfl
  · split
    · rfl
    · split <;> rfl

theorem TrafficInv.masterRead [Dtringfifo F] (hi : TrafficInv dm Mm Ms t tab) {bufLen : ℤ}
    {ends : State F}
    (h : t.ends.masterRead bufLen = some ends) :
    TrafficInv dm Mm Ms { t with ends := ends } tab := by
  unfold State.masterRead at h
  split at h
  · split at h
    · obtain rfl := Option.some.inj h
      exact hi
    · obtain rfl := Option.some.inj h
      exact hi.congr_master (readFifo_cfg t.ends.master bufLen)
  · exact absurd h (by simp)

theorem TrafficInv.masterWrite (hdm : dm.Lawful) (hlim : Limits dm Mm Ms)
    (hi : TrafficInv dm Mm Ms t tab) {buf : List UInt8} {ends : State F}
    (h : t.ends.masterWrite dm buf = some ends) :
    TrafficInv dm Mm Ms { t with ends := ends } tab := by
  have hwire := hi.wire
  have hto := hi.toSlave
  have hfrom := hi.toMaster
  unfold State.masterWrite at h
  split at h
  · next hpc =>
      simp only [TrafficWire, hpc] at hwire
      obtain ⟨hq, hr, hcmd⟩ := hwire
      split at h
      · obtain rfl := Option.some.inj h
        exact hi
      · split at h
        · exact absurd h (by simp)
        · obtain rfl := Option.some.inj h
          refine { hi with wire := ?_, toSlave := ?_, toMaster := ?_ }
          · refine ⟨hcmd, Or.inl ⟨?_, hr⟩⟩
            rw [writeRegs_eq hdm hlim.master_le hi.masterCfg hlim.master_pos buf]
          · simpa only [unreturned, hpc, Option.isNone_some, Bool.false_eq_true, if_false] using hto
          · simpa only [Traffic.inFlight, hpc] using hfrom
  · exact absurd h (by simp)

theorem TrafficInv.masterPoll (hi : TrafficInv dm Mm Ms t tab) {ends : State F}
    (h : t.ends.masterPoll dm = some ends) :
    TrafficInv dm Mm Ms { t with ends := ends } tab := by
  have hwire := hi.wire
  have hto := hi.toSlave
  have hfrom := hi.toMaster
  unfold State.masterPoll at h
  split at h
  · next hpc =>
      simp only [TrafficWire, hpc] at hwire
      obtain ⟨hq, hr, hcmd⟩ := hwire
      split at h
      · obtain rfl := Option.some.inj h
        refine { hi with wire := Or.inl ⟨rfl, hr, hcmd⟩, toSlave := ?_, toMaster := ?_ }
        · simpa only [unreturned, hpc] using hto
        · simpa only [Traffic.inFlight, hpc, Option.isNone_some, Bool.false_eq_true, false_and,
            if_false] using hfrom
      · exact absurd h (by simp)
  · exact absurd h (by simp)

/-- A write returns when its reply arrives, with the bytes it has sent. -/
theorem TrafficInv.masterReply_writing [Dtringfifo F] (hdm : dm.Lawful) (hlim : Limits dm Mm Ms)
    (hi : TrafficInv dm Mm Ms t tab) {buf : List UInt8} (hpc : t.ends.masterPc = .writing buf)
    {ends : State F} (h : t.ends.masterReply dm = some ends) :
    TrafficInv dm Mm Ms { t with ends := ends } tab := by
  have hwire := hi.wire
  have hto := hi.toSlave
  have hfrom := hi.toMaster
  simp only [TrafficWire, hpc] at hwire
  obtain ⟨hcmd, ⟨hq, hr⟩ | ⟨hq, hr⟩⟩ := hwire
  · simp [State.masterReply, hpc, hr] at h
  · obtain ⟨hlen, hle⟩ := length_sentBytes hi.masterCfg hlim.master_pos buf
    have htotal := length_putBlobRegs hdm hlim.master_le hle
    rw [hlen] at htotal
    have hcount : ¬((putBlobRegs dm (sentBytes t.ends.master.cfg buf)).length : ℤ) < 0 := by omega
    simp only [State.masterReply, hpc, hr, DtioxLinuxModbusTcpMaster.writeDone, if_neg hcount,
      ← htotal, ne_eq, not_true_eq_false, if_false] at h
    obtain rfl := Option.some.inj h
    refine { hi with wire := ⟨hq, rfl, hcmd⟩, toSlave := ?_, toMaster := ?_ }
    · simp only [unreturned, hpc, hq, Option.isNone_none, if_true, sentBytes] at hto
      simpa only [unreturned, List.append_nil] using hto
    · simpa only [Traffic.inFlight, hpc] using hfrom

/-- The reply to the poll command: ask for the header. -/
theorem TrafficInv.masterReply_pollCmd [Dtringfifo F] (hi : TrafficInv dm Mm Ms t tab)
    (hpc : t.ends.masterPc = .pollCmd) {ends : State F}
    (h : t.ends.masterReply dm = some ends) :
    TrafficInv dm Mm Ms { t with ends := ends } tab := by
  have hwire := hi.wire
  have hto := hi.toSlave
  have hfrom := hi.toMaster
  simp only [TrafficWire, hpc] at hwire
  obtain ⟨hq, hr, hcmd⟩ | ⟨hq, hr⟩ := hwire
  · simp [State.masterReply, hpc, hr] at h
  · simp only [State.masterReply, hpc, hr, if_true] at h
    obtain rfl := Option.some.inj h
    refine { hi with wire := Or.inl ⟨rfl, rfl⟩, toSlave := ?_, toMaster := ?_ }
    · simpa only [unreturned, hpc] using hto
    · simpa only [Traffic.inFlight, hpc, hq, Option.isNone_none, Option.isNone_some, true_and,
        Bool.false_eq_true, if_false] using hfrom

/-- How much of an announced blob the poll round asks for. -/
theorem pollByteLen_announced (hlim : Limits dm Mm Ms) (hdm : dm.Lawful) {status len : UInt16}
    {bs : List UInt8} (h : Announced dm Ms tab status len bs) :
    (pollByteLen dm (pollMaxBlob dm Mm) status len = none ∧ bs = []) ∨
      ∃ byteLen, pollByteLen dm (pollMaxBlob dm Mm) status len = some byteLen ∧
        (byteLen.toNat : ℤ) = min (bs.length : ℤ) Mm ∧ Fetching dm Ms tab bs := by
  have hlt := hdm.maxBlobBytes_lt
  have hpos := hlim.master_pos
  have hle := hlim.master_le
  have hmax : pollMaxBlob dm Mm = Mm := by
    rw [pollMaxBlob, if_neg (by omega)]
  have hcast : (UInt16.ofInt Mm).toNat = Mm.toNat := by
    rw [ofInt_of_nonneg (by omega), UInt16.toNat_ofNat']
    omega
  unfold pollByteLen
  rw [hmax]
  rcases h with ⟨hstatus, rfl⟩ | ⟨hstatus, rfl, hfetch⟩
  · exact Or.inl ⟨if_neg fun h => hstatus h.1, rfl⟩
  · right
    have hbs : 0 < bs.length := List.length_pos_of_ne_nil hfetch.ne
    have hlen := toNat_ofNat_blob hdm hlim.slave_le hfetch.le
    have hgt : UInt16.ofNat bs.length > 0 := by
      rw [gt_iff_lt, UInt16.lt_iff_toNat_lt, hlen]
      exact hbs
    rw [if_pos ⟨hstatus, hgt⟩]
    refine ⟨_, rfl, ?_, hfetch⟩
    split
    · next hclamp =>
        rw [gt_iff_lt, UInt16.lt_iff_toNat_lt, hlen, hcast] at hclamp
        rw [hcast]
        omega
    · next hclamp =>
        rw [gt_iff_lt, UInt16.lt_iff_toNat_lt, hlen, hcast] at hclamp
        rw [hlen]
        omega

/-- The reply with the header: the round is over, or ask for the payload. -/
theorem TrafficInv.masterReply_pollHdr [Dtringfifo F] (hdm : dm.Lawful) (hlim : Limits dm Mm Ms)
    (hi : TrafficInv dm Mm Ms t tab) (hpc : t.ends.masterPc = .pollHdr) {ends : State F}
    (h : t.ends.masterReply dm = some ends) :
    TrafficInv dm Mm Ms { t with ends := ends } tab := by
  have hwire := hi.wire
  have hto := hi.toSlave
  have hfrom := hi.toMaster
  simp only [TrafficWire, hpc] at hwire
  obtain ⟨hq, hr⟩ | ⟨hq, hcmd, status, len, hr, hann⟩ := hwire
  · simp [State.masterReply, hpc, hr] at h
  · simp only [State.masterReply, hpc, hr, hi.masterCfg] at h
    simp only [Traffic.inFlight, hpc, hq, Option.isNone_none, if_true] at hfrom
    rcases pollByteLen_announced hlim hdm hann with ⟨hnone, hnil⟩ | ⟨byteLen, hsome, hlen, hfetch⟩
    · simp only [hnone] at h
      obtain rfl := Option.some.inj h
      rw [hnil] at hfrom
      refine { hi with wire := ⟨hq, rfl, hcmd⟩, toSlave := ?_, toMaster := ?_ }
      · simpa only [unreturned, hpc] using hto
      · simpa only [Traffic.inFlight] using hfrom
    · simp only [hsome] at h
      obtain rfl := Option.some.inj h
      refine { hi with
        wire := ⟨hcmd, hfetch, hlen, Or.inl ⟨rfl, rfl⟩⟩, toSlave := ?_, toMaster := ?_ }
      · simpa only [unreturned, hpc] using hto
      · simpa only [Traffic.inFlight] using hfrom

theorem pollNeedRegs_nonneg (hdm : dm.Lawful) (hlim : Limits dm Mm Ms) {byteLen : UInt16}
    {bs : List UInt8} (hlen : (byteLen.toNat : ℤ) = min (bs.length : ℤ) Mm) :
    0 ≤ pollNeedRegs dm byteLen := by
  have hle := hlim.master_le
  have hpack := hdm.length_pack (List.replicate byteLen.toNat 0)
  rw [List.length_replicate] at hpack
  have hregs := hdm.blobToRegs_le byteLen.toNat (by omega) (by omega)
  rw [pollNeedRegs, if_neg (by omega)]
  omega

/-- The payload of a poll round, unpacked: the part of the blob the round asked for. -/
theorem unpack_payload (hdm : dm.LawfulPrefix) (hlim : Limits dm Mm Ms) {byteLen : UInt16}
    {bs : List UInt8} {values : List UInt16} (hlen : (byteLen.toNat : ℤ) = min (bs.length : ℤ) Mm)
    (hpay : Payload dm byteLen bs values) :
    dm.unpackRegsToBytes (fun i => values.getD i 0) byteLen.toNat = bs.take Mm.toNat := by
  have hle := hlim.master_le
  have hpos := hlim.master_pos
  have hregs := hdm.blobToRegs_le byteLen.toNat (by omega) (by omega)
  have hneed : pollNeedRegs dm byteLen = dm.blobToRegs byteLen.toNat := by
    rw [pollNeedRegs, if_neg (by omega)]
  rw [hdm.unpack_take bs byteLen.toNat _ (by omega) fun i hi hlt => hpay.2 i hi (hneed ▸ hlt)]
  rcases Nat.le_total Mm.toNat bs.length with hmin | hmin
  · rw [show byteLen.toNat = Mm.toNat by omega]
  · rw [List.take_of_length_le hmin, List.take_of_length_le (by omega)]

/-- **The reply with the payload.** The part of the blob within the limit goes to the master's FIFO,
    and the delivery is accounted for exactly when the tail is safe. -/
theorem TrafficInv.masterReply_pollData [Dtringfifo F] [LawfulDtringfifo F]
    (hdm : dm.LawfulPrefix) (hlim : Limits dm Mm Ms)
    (hi : TrafficInv dm Mm Ms t tab) {byteLen : UInt16} (hpc : t.ends.masterPc = .pollData byteLen)
    {reply : Reply} (hreply : t.ends.reply = some reply) :
    ∃ ends, t.ends.masterReply dm = some ends ∧ TrafficInv dm Mm Ms (t.fetched ends) tab ∧
      ((Traffic.appended t.ends.master.rxFifo ends.master.rxFifo = t.fetching ∨
          ends.master.rxOverflowPending = true) ↔
        TailSafe Mm t.ends.master.rxOverflowPending t.ends.master.rxFifo t.fetching) := by
  have hwire := hi.wire
  have hto := hi.toSlave
  have hfrom := hi.toMaster
  simp only [TrafficWire, hpc] at hwire
  obtain ⟨hcmd, hfetch, hlen, ⟨hq, hr⟩ | ⟨hq, values, hr, hpay⟩⟩ := hwire
  · rw [hr] at hreply
    exact absurd hreply (by simp)
  · have hunpack := unpack_payload hdm hlim hlen hpay
    have htail := accounted_iff_tailSafe t.ends.master.rxFifo t.fetching hlim.master_pos
      t.ends.master.rxOverflowPending
    have hpart : (t.fetching.take Mm.toNat).length = byteLen.toNat := by
      have hpos := hlim.master_pos
      rw [List.length_take]
      omega
    have hpush : (pollPush dm t.ends.master byteLen fun i => values.getD i 0).1
        = { t.ends.master with
            rxFifo := (Dtringfifo.push t.ends.master.rxFifo (t.fetching.take Mm.toNat)).1
            rxOverflowPending :=
              decide ((Dtringfifo.push t.ends.master.rxFifo (t.fetching.take Mm.toNat)).2
                < (t.fetching.take Mm.toNat).length) || t.ends.master.rxOverflowPending } := by
      rw [pollPush, hunpack, hpart]
      dsimp only
      split
      · next hshort => simp [hshort]
      · next hshort => simp [hshort]
    refine ⟨{ t.ends with
      master := (pollPush dm t.ends.master byteLen fun i => values.getD i 0).1
      masterPc := .free
      reply := none }, ?_, ?_, ?_⟩
    · simp only [State.masterReply, hpc, hr, hpay.1, if_true]
    · rw [hpush]
      refine { hi with
        masterCfg := hi.masterCfg, wire := ⟨hq, rfl, hcmd⟩, toSlave := ?_, toMaster := ?_ }
      · simpa only [Traffic.fetched, unreturned, hpc] using hto
      · simp only [Traffic.inFlight, hpc] at hfrom
        simpa only [Traffic.fetched, Traffic.inFlight, List.flatMap_append, List.flatMap_cons,
          List.flatMap_nil, List.append_nil] using hfrom
    · rw [hpush, appended_push]
      exact htail

/-! ## The steps of the slave -/

theorem TrafficInv.slaveRead [Dtringfifo F] (hi : TrafficInv dm Mm Ms t tab) {bufLen : ℤ}
    {ends : State F}
    (h : t.ends.slaveRead bufLen = some ends) :
    TrafficInv dm Mm Ms { t with ends := ends } tab := by
  unfold State.slaveRead at h
  split at h
  · obtain rfl := Option.some.inj h
    exact hi
  · -- a read changes the FIFO and the overflow flag only
    have hframe : ∃ fifo overflow, (readLocked t.ends.slave bufLen).1
        = { t.ends.slave with rxFifo := fifo, rxOverflowPending := overflow } := by
      unfold readLocked
      split
      · exact ⟨_, _, rfl⟩
      · split
        · exact ⟨_, _, rfl⟩
        · exact ⟨_, _, rfl⟩
    obtain ⟨fifo, overflow, heq⟩ := hframe
    rcases hread : readLocked t.ends.slave bufLen with ⟨slave, dterr, out⟩
    rw [hread] at h heq
    obtain rfl : slave = _ := heq
    obtain rfl := Option.some.inj h
    exact { hi with }

theorem TrafficInv.slaveWrite (hi : TrafficInv dm Mm Ms t tab) {buf : List UInt8} {ends : State F}
    (h : t.ends.slaveWrite buf = some ends) :
    TrafficInv dm Mm Ms { t with ends := ends } tab := by
  have hfrom := hi.toMaster
  unfold State.slaveWrite at h
  split at h
  · obtain rfl := Option.some.inj h
    exact hi
  · next hcheck =>
      have hlen : (buf.length : ℤ) ≤ Ms := by
        unfold writeCheck at hcheck
        rw [hi.slaveCfg] at hcheck
        dsimp only at hcheck
        split at hcheck
        · exact absurd hcheck (by simp)
        · split at hcheck
          · exact absurd hcheck (by simp)
          · omega
      unfold DtioxLinuxModbusTcpSlave.writeLocked at h
      cases henabled : t.ends.slave.enabled with
      | false =>
          simp only [henabled, Bool.not_false, if_true] at h
          obtain rfl := Option.some.inj h
          exact hi
      | true =>
          cases hpending : t.ends.slave.txPending with
          | true =>
              simp only [henabled, hpending, Bool.not_true, Bool.false_eq_true, if_false,
                if_true] at h
              obtain rfl := Option.some.inj h
              exact hi
          | false =>
              simp only [henabled, hpending, Bool.not_true, Bool.false_eq_true, if_false,
                Int.toNat_natCast, List.take_length] at h
              obtain rfl := Option.some.inj h
              refine { hi with tx := fun _ => ⟨by simp, hlen, by simp⟩, toMaster := ?_ }
              -- nothing was waiting, and now the whole of `buf` is
              have hblob : txBlob t.ends.slave = [] := by
                rw [txBlob, hpending]
                rfl
              rw [hblob, List.append_nil] at hfrom
              simp only [txBlob, Int.toNat_natCast, if_true, List.take_left']
              exact hfrom.append (List.Sublist.refl buf)

/-- The slave gets the query on the wire: the registers change as the query says, and the reply
    tells what they hold. -/
theorem TrafficInv.slaveReceive [Dtringfifo F] (hdm : dm.Lawful) (hlim : Limits dm Mm Ms)
    (hi : TrafficInv dm Mm Ms t tab) {ends : State F} (h : t.ends.slaveReceive = some ends) :
    ∃ tab', TrafficInv dm Mm Ms (t.record dm ends .slaveReceive) tab' := by
  have hwire := hi.wire
  have hto := hi.toSlave
  have hfrom := hi.toMaster
  unfold State.slaveReceive at h
  split at h
  · next query tab₀ hslave hquery hmap =>
      obtain rfl := Option.some.inj (hmap.symm.trans hi.map)
      obtain rfl := Option.some.inj h
      obtain ⟨hput, hgive⟩ := hi.idle hslave
      have hnone : t.m2s = [] := by rw [← hi.m2s_eq, m2sBlob, if_neg hput]
      rw [hnone, List.append_nil] at hto
      unfold Traffic.record
      cases hpc : t.ends.masterPc with
      | free =>
          simp only [TrafficWire, hpc, hquery] at hwire
          exact absurd hwire.1 (by simp)
      | writing buf =>
          simp only [TrafficWire, hpc, hquery, reduceCtorEq, false_and, or_false,
            Option.some.injEq] at hwire
          obtain ⟨-, rfl, hr⟩ := hwire
          obtain ⟨-, hle⟩ := length_sentBytes hi.masterCfg hlim.master_pos buf
          obtain ⟨hcmd, hat, hsame⟩ := write_putBlobRegs hdm hlim.master_le tab₀ hle
          dsimp only
          refine ⟨_, { hi with
            map := rfl, m2s := fun _ => ⟨_, hat⟩, m2s_eq := ?_
            s2m := hi.s2m.congr hdm hlim.slave_le hsame
            s2m_eq := (s2mBlob_congr hdm hlim.slave_le hi.s2m hsame).trans hi.s2m_eq
            idle := ?_, wire := ?_, toSlave := ?_, toMaster := ?_ }⟩
          · rw [m2sBlob, Query.apply, if_pos hcmd, hat.unpack hdm hlim.master_le]
          · intro hrec
            exact absurd hrec (by simp)
          · simp only [TrafficWire, Query.reply]
            refine ⟨?_, Or.inr ⟨trivial, trivial⟩⟩
            rw [Query.apply, hcmd]
            exact hdm.putBlob_ne_giveMe
          · simp only [unreturned, hpc, hquery, Option.isNone_some, Bool.false_eq_true, if_false,
              List.append_nil] at hto
            simp only [unreturned, Option.isNone_none, if_true, hto]
          · simp only [Traffic.inFlight, hpc] at hfrom ⊢
            exact hfrom
      | pollCmd =>
          simp only [TrafficWire, hpc, hquery, reduceCtorEq, false_and, or_false,
            Option.some.injEq] at hwire
          obtain ⟨rfl, hr, -⟩ := hwire
          obtain ⟨hcmd, hsame⟩ := write_pollCmdRegs hdm tab₀
          have hput' : tab₀.write dm.regM2sCmd (pollCmdRegs dm) dm.regM2sCmd ≠ dm.cmdPutBlob := by
            rw [hcmd]
            exact hdm.putBlob_ne_giveMe.symm
          dsimp only
          refine ⟨_, { hi with
            map := rfl, m2s := fun h => absurd h hput', m2s_eq := ?_
            s2m := hi.s2m.congr hdm hlim.slave_le hsame
            s2m_eq := (s2mBlob_congr hdm hlim.slave_le hi.s2m hsame).trans hi.s2m_eq
            idle := ?_, wire := ?_, toSlave := ?_, toMaster := ?_ }⟩
          · rw [m2sBlob, Query.apply, if_neg hput', hnone]
          · intro hrec
            exact absurd hrec (by simp)
          · simp only [TrafficWire, Query.reply]
            exact Or.inr ⟨trivial, rfl⟩
          · simp only [unreturned, hpc] at hto ⊢
            rw [hnone, List.append_nil, hto]
          · simp only [Traffic.inFlight, hpc, hquery, Option.isNone_some, Bool.false_eq_true,
              false_and, if_false] at hfrom
            simp only [Traffic.inFlight, Query.apply, hcmd, ne_eq, not_true_eq_false, and_false,
              if_false]
            exact hfrom
      | pollHdr =>
          simp only [TrafficWire, hpc, hquery, reduceCtorEq, false_and, or_false,
            Option.some.injEq] at hwire
          obtain ⟨rfl, hr⟩ := hwire
          dsimp only
          refine ⟨tab₀, { hi with
            map := rfl, idle := ?_, wire := ?_, toSlave := ?_, toMaster := ?_ }⟩
          · intro hrec
            exact absurd hrec (by simp)
          · simp only [TrafficWire, Query.reply]
            refine Or.inr ⟨trivial, hgive, tab₀ dm.regS2mStatus, tab₀ dm.regS2mLen, ?_, ?_⟩
            · rw [hdm.regS2mLen_eq]
              rfl
            · rw [← hi.s2m_eq]
              by_cases hstatus : tab₀ dm.regS2mStatus = dm.statusHasData
              · obtain ⟨bs, hne, hat⟩ := hi.s2m hstatus
                right
                rw [s2mBlob, if_pos hstatus, hat.unpack hdm hlim.slave_le]
                exact ⟨hstatus, hat.len, hne, hat.le, hat.holds⟩
              · exact Or.inl ⟨hstatus, by rw [s2mBlob, if_neg hstatus]⟩
          · simp only [unreturned, hpc] at hto ⊢
            rw [hnone, List.append_nil, hto]
          · simp only [Traffic.inFlight, hpc, hquery, Option.isNone_some, Bool.false_eq_true,
              if_false, ne_eq, hgive, not_false_eq_true, if_true] at hfrom
            simp only [Traffic.inFlight, Option.isNone_none, if_true]
            exact hfrom
      | pollData byteLen =>
          simp only [TrafficWire, hpc, hquery, reduceCtorEq, false_and, or_false,
            Option.some.injEq] at hwire
          obtain ⟨-, hfetch, hlen, rfl, hr⟩ := hwire
          dsimp only
          refine ⟨tab₀, { hi with
            map := rfl, idle := ?_, wire := ?_, toSlave := ?_, toMaster := ?_ }⟩
          · intro hrec
            exact absurd hrec (by simp)
          · simp only [TrafficWire, Query.reply]
            refine ⟨hgive, hfetch, hlen, Or.inr ⟨trivial, _, rfl, ?_, fun i hi hlt => ?_⟩⟩
            · have hnonneg := pollNeedRegs_nonneg hdm hlim hlen
              rw [Registers.read, List.length_map, List.length_range]
              omega
            · rw [← hfetch.holds i hi, Registers.read]
              have hi' : i < (pollNeedRegs dm byteLen).toNat := by omega
              simp [List.getD_eq_getElem?_getD, hi']
          · simp only [unreturned, hpc] at hto ⊢
            rw [hnone, List.append_nil, hto]
          · simp only [Traffic.inFlight, hpc] at hfrom ⊢
            exact hfrom
  · exact absurd h (by simp)

/-! ## Interpreting, and enable -/

/-- While the S2M data registers stay, so does what a poll round was told. -/
theorem Fetching.congr (hdm : dm.Lawful) (hle : Ms ≤ dm.maxBlobBytes) {tab' : Registers}
    {bs : List UInt8} (h : Fetching dm Ms tab bs)
    (hsame : ∀ i < dm.maxBlobRegs.toNat, tab' (dm.regS2mData + i) = tab (dm.regS2mData + i)) :
    Fetching dm Ms tab' bs :=
  ⟨h.ne, h.le, h.holds.congr fun i hi =>
    hsame i (Nat.lt_of_lt_of_le hi (length_pack_le hdm hle h.le))⟩

/-- The wire agrees with new registers that have the same S2M data, and no poll command. -/
theorem TrafficWire.congr (hdm : dm.Lawful) (hlim : Limits dm Mm Ms) {tab' : Registers}
    (hwire : TrafficWire dm Mm Ms t tab) (hmaster : t'.ends.master = t.ends.master)
    (hpc : t'.ends.masterPc = t.ends.masterPc) (hquery : t'.ends.query = t.ends.query)
    (hreply : t'.ends.reply = t.ends.reply) (hfetching : t'.fetching = t.fetching)
    (hcmd' : tab' dm.regM2sCmd ≠ dm.cmdGiveMeAnyData)
    (hsame : tab dm.regM2sCmd ≠ dm.cmdGiveMeAnyData → ∀ i < dm.maxBlobRegs.toNat,
      tab' (dm.regS2mData + i) = tab (dm.regS2mData + i)) :
    TrafficWire dm Mm Ms t' tab' := by
  unfold TrafficWire at hwire ⊢
  rw [hpc, hquery, hreply, hfetching, hmaster]
  cases hstate : t.ends.masterPc with
  | free =>
      simp only [hstate] at hwire ⊢
      exact ⟨hwire.1, hwire.2.1, hcmd'⟩
  | writing buf =>
      simp only [hstate] at hwire ⊢
      exact ⟨hcmd', hwire.2⟩
  | pollCmd =>
      simp only [hstate] at hwire ⊢
      exact hwire.imp (fun h => ⟨h.1, h.2.1, hcmd'⟩) id
  | pollHdr =>
      simp only [hstate] at hwire ⊢
      refine hwire.imp id ?_
      rintro ⟨hq, hcmd, status, len, hr, hann⟩
      refine ⟨hq, hcmd', status, len, hr, hann.imp id ?_⟩
      rintro ⟨hstatus, hlen, hfetch⟩
      exact ⟨hstatus, hlen, hfetch.congr hdm hlim.slave_le (hsame hcmd)⟩
  | pollData byteLen =>
      simp only [hstate] at hwire ⊢
      obtain ⟨hcmd, hfetch, hrest⟩ := hwire
      exact ⟨hcmd', hfetch.congr hdm hlim.slave_le (hsame hcmd), hrest⟩

/-- The registers have a poll command only while a poll round waits for it to be interpreted: then
    nothing is in flight. -/
theorem TrafficInv.inFlight_of_giveMe (hi : TrafficInv dm Mm Ms t tab)
    (hgive : tab dm.regM2sCmd = dm.cmdGiveMeAnyData) :
    t.inFlight dm tab = [] ∧ ∀ t' : Traffic F, ∀ tab' : Registers,
      t'.ends.masterPc = t.ends.masterPc → t'.ends.query = t.ends.query →
      tab' dm.regM2sCmd ≠ dm.cmdGiveMeAnyData → t'.inFlight dm tab' = t'.s2m := by
  have hwire := hi.wire
  unfold TrafficWire at hwire
  cases hpc : t.ends.masterPc with
  | free =>
      simp only [hpc] at hwire
      exact absurd hgive hwire.2.2
  | writing buf =>
      simp only [hpc] at hwire
      exact absurd hgive hwire.1
  | pollCmd =>
      simp only [hpc] at hwire
      obtain ⟨-, -, hne⟩ | ⟨hq, -⟩ := hwire
      · exact absurd hgive hne
      · refine ⟨by simp [Traffic.inFlight, hpc, hgive], fun t' tab' hpc' hq' hcmd' => ?_⟩
        simp [Traffic.inFlight, hpc', hq', hq, hcmd']
  | pollHdr =>
      simp only [hpc] at hwire
      obtain ⟨hq, -⟩ | ⟨-, hne, -⟩ := hwire
      · refine ⟨by simp [Traffic.inFlight, hpc, hq, hgive], fun t' tab' hpc' hq' hcmd' => ?_⟩
        simp [Traffic.inFlight, hpc', hq', hq, hcmd']
      · exact absurd hgive hne
  | pollData byteLen =>
      simp only [hpc] at hwire
      exact absurd hgive hwire.1

/-- **The slave interprets the command.** The invariant stays, and a delivery that comes of it is
    accounted for exactly when the tail of its blob is safe. -/
theorem TrafficInv.slaveInterpret [Dtringfifo F] [LawfulDtringfifo F] (hdm : dm.LawfulPrefix)
    (hlim : Limits dm Mm Ms)
    (hi : TrafficInv dm Mm Ms t tab) (hreplied : t.ends.slavePc = .replied) :
    ∃ ends tab', t.ends.slaveInterpret dm = some ends ∧
      TrafficInv dm Mm Ms (t.interpreted dm tab ends) tab' ∧
      (tab dm.regM2sCmd = dm.cmdPutBlob →
        ((Traffic.appended t.ends.slave.rxFifo ends.slave.rxFifo = t.m2s ∨
            ends.slave.rxOverflowPending = true) ↔
          TailSafe Ms t.ends.slave.rxOverflowPending t.ends.slave.rxFifo t.m2s)) := by
  have hto := hi.toSlave
  have hfrom := hi.toMaster
  have hstep : t.ends.slaveInterpret dm = some { t.ends with
      slave := interpretCommand dm t.ends.slave, slavePc := .receiving } := by
    rw [State.slaveInterpret, hreplied]
  rw [hstep]
  by_cases hput : tab dm.regM2sCmd = dm.cmdPutBlob
  · have hgive : tab dm.regM2sCmd ≠ dm.cmdGiveMeAnyData := by
      rw [hput]
      exact hdm.putBlob_ne_giveMe
    obtain ⟨tab', fifo, overflow, posts, heq, hnone, hsame, htail⟩ :=
      interpretCommand_putBlob hdm hlim hi.map hi.slaveCfg hi.m2s hput
    have hput' : tab' dm.regM2sCmd ≠ dm.cmdPutBlob := by
      rw [hnone]
      exact hdm.putBlob_ne_none.symm
    have hgive' : tab' dm.regM2sCmd ≠ dm.cmdGiveMeAnyData := by
      rw [hnone]
      exact hdm.giveMe_ne_none.symm
    rw [heq]
    refine ⟨_, tab', rfl, ?_, fun _ => ?_⟩
    · rw [Traffic.interpreted, if_pos hput]
      refine { hi with
        map := rfl, m2s := fun h => absurd h hput', m2s_eq := if_neg hput'
        s2m := hi.s2m.congr hdm.toLawful hlim.slave_le hsame
        s2m_eq := (s2mBlob_congr hdm.toLawful hlim.slave_le hi.s2m hsame).trans hi.s2m_eq
        idle := fun _ => ⟨hput', hgive'⟩, wire := ?_, toSlave := ?_, toMaster := ?_ }
      · exact hi.wire.congr hdm.toLawful hlim rfl rfl rfl rfl rfl hgive' fun _ => hsame.2.2
      · simp only [List.flatMap_append, List.flatMap_cons, List.flatMap_nil, List.append_nil]
        exact hto
      · simp only [Traffic.inFlight, ne_eq, hgive] at hfrom
        simp only [Traffic.inFlight, ne_eq, hgive']
        exact hfrom
    · rw [hi.m2s_eq] at htail
      exact htail
  · by_cases hgive : tab dm.regM2sCmd = dm.cmdGiveMeAnyData
    · obtain ⟨tab', pending, len, heq, hnone, htx, hempty, hs2m, hblob⟩ :=
        interpretCommand_giveMe hdm.toLawful hlim.slave_le hi.map hi.slaveCfg hi.tx hgive
      have hput' : tab' dm.regM2sCmd ≠ dm.cmdPutBlob := by
        rw [hnone]
        exact hdm.putBlob_ne_none.symm
      have hgive' : tab' dm.regM2sCmd ≠ dm.cmdGiveMeAnyData := by
        rw [hnone]
        exact hdm.giveMe_ne_none.symm
      have hm2s : t.m2s = [] := by rw [← hi.m2s_eq, m2sBlob, if_neg hput]
      obtain ⟨hquiet, hflight⟩ := hi.inFlight_of_giveMe hgive
      rw [heq] at htx hempty ⊢
      refine ⟨_, tab', rfl, ?_, fun h => absurd h hput⟩
      rw [Traffic.interpreted, if_neg hput, if_pos hgive]
      refine { hi with
        map := rfl, tx := htx, m2s := fun h => absurd h hput', m2s_eq := ?_, s2m := hs2m
        s2m_eq := hblob, idle := fun _ => ⟨hput', hgive'⟩, wire := ?_, toSlave := hto
        toMaster := ?_ }
      · rw [m2sBlob, if_neg hput', hm2s]
      · exact hi.wire.congr hdm.toLawful hlim rfl rfl rfl rfl rfl hgive' fun h => absurd hgive h
      · rw [hquiet, List.append_nil] at hfrom
        rw [hflight]
        · change List.Sublist (_ ++ txBlob t.ends.slave ++ txBlob _) _
          rw [hempty, List.append_nil]
          exact hfrom
        · rfl
        · rfl
        · exact hgive'
    · have heq := interpretCommand_other hi.map hput hgive
      rw [heq]
      refine ⟨_, tab, rfl, ?_, fun h => absurd h hput⟩
      rw [Traffic.interpreted, if_neg hput, if_neg hgive]
      exact { hi with idle := fun _ => ⟨hput, hgive⟩ }

/-- Enable at the slave discards the blob in `tx_bytes` and the one the header announces. -/
theorem TrafficInv.slaveEnable [Dtringfifo F] (hdm : dm.Lawful) (hlim : Limits dm Mm Ms)
    (hi : TrafficInv dm Mm Ms t tab) (enabled : Bool) :
    TrafficInv dm Mm Ms { t with
      ends := { t.ends with slave := enableSlave dm enabled t.ends.slave }, s2m := [] }
      (setReg (setReg tab dm.regS2mStatus dm.statusNoData) dm.regS2mLen 0) := by
  have hM2s := hdm.regM2sLen_eq
  have hM2sData := hdm.regM2sData_eq
  have hS2m := hdm.regS2mLen_eq
  have hS2mData := hdm.regS2mData_eq
  have hdisj := hdm.disjoint
  generalize htab' : setReg (setReg tab dm.regS2mStatus dm.statusNoData) dm.regS2mLen 0 = tab'
  have hkeep : ∀ r, r ≠ dm.regS2mStatus → r ≠ dm.regS2mLen → tab' r = tab r := by
    intro r hstatus hlen
    rw [← htab', setReg_of_ne _ _ hlen, setReg_of_ne _ _ hstatus]
  have hstatus' : tab' dm.regS2mStatus ≠ dm.statusHasData := by
    rw [← htab', setReg_of_ne _ _ (by omega), setReg_self]
    exact hdm.status_ne.symm
  have hcmd : tab' dm.regM2sCmd = tab dm.regM2sCmd := hkeep _ (by omega) (by omega)
  have hlen : tab' dm.regM2sLen = tab dm.regM2sLen := hkeep _ (by omega) (by omega)
  -- the blob of a command is where it was
  have hm2s : ∀ bs, BlobAt dm Mm tab dm.regM2sLen dm.regM2sData bs →
      BlobAt dm Mm tab' dm.regM2sLen dm.regM2sData bs := by
    intro bs hat
    refine ⟨hlen.trans hat.len, hat.le, hat.holds.congr fun i hlt => ?_⟩
    have hregs := length_pack_le hdm hlim.master_le hat.le
    exact hkeep _ (by omega) (by omega)
  have hblob : m2sBlob dm tab' = m2sBlob dm tab := by
    by_cases hput : tab dm.regM2sCmd = dm.cmdPutBlob
    · obtain ⟨bs, hat⟩ := hi.m2s hput
      rw [m2sBlob, m2sBlob, if_pos hput, if_pos (hcmd.trans hput),
        hat.unpack hdm hlim.master_le, (hm2s bs hat).unpack hdm hlim.master_le]
    · rw [m2sBlob, m2sBlob, if_neg hput, if_neg (by rw [hcmd]; exact hput)]
  have hdata : ∀ i < dm.maxBlobRegs.toNat,
      tab' (dm.regS2mData + i) = tab (dm.regS2mData + i) :=
    fun i _ => hkeep _ (by omega) (by omega)
  refine { hi with
    map := ?_, tx := fun h => absurd h (by simp [enableSlave]), m2s := ?_
    m2s_eq := hblob.trans hi.m2s_eq, s2m := fun h => absurd h hstatus', s2m_eq := if_neg hstatus'
    idle := ?_, wire := ?_, toMaster := ?_ }
  · simp only [enableSlave, hi.map, Option.map_some, htab']
  · intro hput
    obtain ⟨bs, hat⟩ := hi.m2s (hcmd ▸ hput)
    exact ⟨bs, hm2s bs hat⟩
  · rw [hcmd]
    exact hi.idle
  · have hwire := hi.wire
    unfold TrafficWire at hwire ⊢
    rw [hcmd]
    cases hpc : t.ends.masterPc with
    | free => simpa only [hpc] using hwire
    | writing buf => simpa only [hpc] using hwire
    | pollCmd => simpa only [hpc] using hwire
    | pollHdr =>
        simp only [hpc] at hwire ⊢
        refine hwire.imp id ?_
        rintro ⟨hq, hne, status, len, hr, hann⟩
        refine ⟨hq, hne, status, len, hr, hann.imp id ?_⟩
        rintro ⟨hstatus, hlen, hfetch⟩
        exact ⟨hstatus, hlen, hfetch.congr hdm hlim.slave_le hdata⟩
    | pollData byteLen =>
        simp only [hpc] at hwire ⊢
        exact ⟨hwire.1, hwire.2.1.congr hdm hlim.slave_le hdata, hwire.2.2⟩
  · refine List.Sublist.trans ?_ hi.toMaster
    have htx : txBlob (enableSlave dm enabled t.ends.slave) = [] := rfl
    have hflight : List.Sublist (Traffic.inFlight dm { t with
        ends := { t.ends with slave := enableSlave dm enabled t.ends.slave }, s2m := [] } tab')
        (t.inFlight dm tab) := by
      unfold Traffic.inFlight
      cases hpc : t.ends.masterPc with
      | free => exact List.Sublist.refl _
      | writing buf => exact List.Sublist.refl _
      | pollCmd => simp
      | pollHdr =>
          cases hq : t.ends.query with
          | none => simp
          | some query => simp
      | pollData byteLen => exact List.Sublist.refl _
    rw [htx, List.append_nil]
    exact ((List.Sublist.refl _).append hflight).trans (List.sublist_append_left _ _)

/-! ## Whole runs -/

variable [Dtringfifo F]

theorem nothingLost_fetched {ends : State F} (hs : NothingLost t) :
    NothingLost (t.fetched ends) ↔
      (Traffic.appended t.ends.master.rxFifo ends.master.rxFifo = t.fetching ∨
        ends.master.rxOverflowPending = true) := by
  unfold NothingLost Traffic.fetched
  simp only [List.forall_mem_append, List.forall_mem_singleton]
  exact ⟨fun h => h.2.2, fun h => ⟨hs.1, hs.2, h⟩⟩

theorem nothingLost_interpreted {ends : State F} (hs : NothingLost t) :
    NothingLost (t.interpreted dm tab ends) ↔ (tab dm.regM2sCmd = dm.cmdPutBlob →
      (Traffic.appended t.ends.slave.rxFifo ends.slave.rxFifo = t.m2s ∨
        ends.slave.rxOverflowPending = true)) := by
  unfold NothingLost Traffic.interpreted
  split
  · next hput =>
      simp only [List.forall_mem_append, List.forall_mem_singleton, hput, forall_const]
      exact ⟨fun h => h.1.2, fun h => ⟨⟨hs.1, h⟩, hs.2⟩⟩
  · next hput =>
      refine iff_of_true ?_ fun h => absurd h hput
      split
      · exact hs
      · exact hs

variable [LawfulDtringfifo F]

/-- **Step lemma.** The invariant stays, and a step keeps everything accounted for exactly when it
    cuts no tail. -/
theorem TrafficInv.step (hdm : dm.LawfulPrefix) (hlim : Limits dm Mm Ms)
    (hi : TrafficInv dm Mm Ms t tab) {e : TrafficEvent} (h : t.step dm e = some t') :
    (∃ tab', TrafficInv dm Mm Ms t' tab') ∧
      (NothingLost t → (NothingLost t' ↔ CutsNoTail dm t e)) := by
  cases e with
  | masterEnable enabled =>
      rw [Traffic.step] at h
      split at h
      · obtain rfl := Option.some.inj h
        exact ⟨⟨tab, hi.congr_master rfl⟩, fun hs => iff_of_true hs trivial⟩
      · exact absurd h (by simp)
  | slaveEnable enabled =>
      obtain rfl := Option.some.inj h
      exact ⟨⟨_, hi.slaveEnable hdm.toLawful hlim enabled⟩, fun hs => iff_of_true hs trivial⟩
  | ends e =>
      obtain ⟨ends, hends, rfl⟩ := Option.map_eq_some_iff.1 h
      cases e with
      | masterWrite buf =>
          exact ⟨⟨tab, hi.masterWrite hdm.toLawful hlim hends⟩, fun hs => iff_of_true hs trivial⟩
      | masterRead bufLen =>
          exact ⟨⟨tab, hi.masterRead hends⟩, fun hs => iff_of_true hs trivial⟩
      | masterPoll => exact ⟨⟨tab, hi.masterPoll hends⟩, fun hs => iff_of_true hs trivial⟩
      | slaveWrite buf => exact ⟨⟨tab, hi.slaveWrite hends⟩, fun hs => iff_of_true hs trivial⟩
      | slaveRead bufLen => exact ⟨⟨tab, hi.slaveRead hends⟩, fun hs => iff_of_true hs trivial⟩
      | slaveReceive =>
          refine ⟨hi.slaveReceive hdm.toLawful hlim hends, fun hs => iff_of_true ?_ trivial⟩
          unfold Traffic.record
          dsimp only
          split
          · exact hs
          · exact hs
          · exact hs
      | slaveInterpret =>
          have hreplied : t.ends.slavePc = .replied := by
            rw [State.step, State.slaveInterpret] at hends
            split at hends
            · exact absurd hends (by simp)
            · assumption
          obtain ⟨ends', tab', hends', hinv, htail⟩ := hi.slaveInterpret hdm hlim hreplied
          obtain rfl : ends = ends' := Option.some.inj (hends.symm.trans hends')
          have hrecord : t.record dm ends .slaveInterpret = t.interpreted dm tab ends := by
            rw [Traffic.record, hi.map]
          rw [hrecord]
          refine ⟨⟨tab', hinv⟩, fun hs => (nothingLost_interpreted hs).trans ?_⟩
          simp only [CutsNoTail, hreplied, hi.map, hi.slaveCfg, Option.some.injEq, forall_eq',
            forall_const]
          exact forall_congr' htail
      | masterReply =>
          have hfree : ∀ {pc : MasterPc}, t.ends.masterPc = pc →
              (∀ byteLen, pc ≠ .pollData byteLen) →
              t.record dm ends .masterReply = { t with ends := ends } ∧
                CutsNoTail dm t (.ends .masterReply) := by
            intro pc hpc hne
            refine ⟨?_, fun byteLen hdata => absurd (hpc.symm.trans hdata) (hne byteLen)⟩
            unfold Traffic.record
            dsimp only
            split
            · next byteLen hdata => exact absurd (hpc.symm.trans hdata) (hne byteLen)
            · rfl
          cases hpc : t.ends.masterPc with
          | free => simp [State.step, State.masterReply, hpc] at hends
          | writing buf =>
              obtain ⟨hrecord, hcond⟩ := hfree hpc (by simp)
              rw [hrecord]
              exact ⟨⟨tab, hi.masterReply_writing hdm.toLawful hlim hpc hends⟩,
                fun hs => iff_of_true hs hcond⟩
          | pollCmd =>
              obtain ⟨hrecord, hcond⟩ := hfree hpc (by simp)
              rw [hrecord]
              exact ⟨⟨tab, hi.masterReply_pollCmd hpc hends⟩, fun hs => iff_of_true hs hcond⟩
          | pollHdr =>
              obtain ⟨hrecord, hcond⟩ := hfree hpc (by simp)
              rw [hrecord]
              exact ⟨⟨tab, hi.masterReply_pollHdr hdm.toLawful hlim hpc hends⟩,
                fun hs => iff_of_true hs hcond⟩
          | pollData byteLen =>
              cases hreply : t.ends.reply with
              | none => simp [State.step, State.masterReply, hpc, hreply] at hends
              | some reply =>
                  obtain ⟨ends', hends', hinv, htail⟩ :=
                    hi.masterReply_pollData hdm hlim hpc hreply
                  obtain rfl : ends = ends' := Option.some.inj (hends.symm.trans hends')
                  have hrecord : t.record dm ends .masterReply = t.fetched ends := by
                    rw [Traffic.record, hpc]
                  rw [hrecord]
                  refine ⟨⟨tab, hinv⟩, fun hs => (nothingLost_fetched hs).trans ?_⟩
                  simp only [CutsNoTail, hpc, hreply, hi.masterCfg, MasterPc.pollData.injEq,
                    forall_eq', ne_eq, reduceCtorEq, not_false_eq_true, forall_const]
                  exact htail

/-- A step that cannot happen cuts no tail. -/
theorem TrafficInv.cutsNoTail_of_blocked (hdm : dm.LawfulPrefix) (hlim : Limits dm Mm Ms)
    (hi : TrafficInv dm Mm Ms t tab) {e : TrafficEvent} (h : t.step dm e = none) :
    CutsNoTail dm t e := by
  cases e with
  | masterEnable enabled => trivial
  | slaveEnable enabled => trivial
  | ends e =>
      rw [Traffic.step, Option.map_eq_none_iff] at h
      cases e with
      | slaveInterpret =>
          intro hreplied
          obtain ⟨ends, tab', hends, -⟩ := hi.slaveInterpret hdm hlim hreplied
          rw [State.step, hends] at h
          exact absurd h (by simp)
      | masterReply =>
          intro byteLen hpc hne
          obtain ⟨reply, hreply⟩ := Option.ne_none_iff_exists'.1 hne
          obtain ⟨ends, hends, -⟩ := hi.masterReply_pollData hdm hlim hpc hreply
          rw [State.step, hends] at h
          exact absurd h (by simp)
      | _ => trivial

omit [LawfulDtringfifo F] in
theorem trafficInv_initial (hdm : dm.Lawful) {masterCfg : DtioxLinuxModbusTcpMaster.Config}
    {slaveCfg : Config} (masterFifo slaveFifo : F) :
    TrafficInv dm masterCfg.maxBlobBytes slaveCfg.maxBlobBytes
      (.initial dm masterCfg slaveCfg masterFifo slaveFifo) (State.attachedRegisters dm) := by
  obtain ⟨hput, hgive, hstatus⟩ := attachedRegisters_quiet hdm
  refine {
    map := rfl, masterCfg := rfl, slaveCfg := rfl
    tx := fun h => absurd h (by simp [Traffic.initial, State.initial])
    m2s := fun h => absurd h hput, m2s_eq := if_neg hput, s2m := fun h => absurd h hstatus
    s2m_eq := if_neg hstatus, idle := fun _ => ⟨hput, hgive⟩, wire := ⟨rfl, rfl, hgive⟩
    toSlave := rfl, toMaster := ?_ }
  simp [Traffic.initial, State.initial, Traffic.inFlight, txBlob]

omit [Dtringfifo F] [LawfulDtringfifo F] in
/-- The defaults of `configure` keep both limits in range. -/
theorem limits_withDefaults (dm : DtioxModbus) (tcpDefaultPort : ℤ)
    (masterCfg : DtioxLinuxModbusTcpMaster.Config) (slaveCfg : Config) :
    Limits dm (masterCfg.withDefaults dm tcpDefaultPort).maxBlobBytes
      (slaveCfg.withDefaults dm).maxBlobBytes := by
  have hpos := dm.maxBlobBytes_pos
  unfold DtioxLinuxModbusTcpMaster.Config.withDefaults Config.withDefaults
  constructor <;> dsimp only <;> split <;> omega

/-- **Exact condition.** For every pair of configurations, every run of a TCP master and a TCP
    slave: the deliveries to the slave, with the blob it has not interpreted, are the bytes counted
    by the successful master writes (and by the write in progress, when the slave has its request),
    and the deliveries to the master come from successful slave writes in order; and every counted
    byte is pushed or an overflow is pending, at every delivery, exactly when no blob is longer than
    the receiver's limit unless an overflow is pending already or the receiver's FIFO is too full
    for the part within the limit. -/
theorem no_silent_truncation_exact (dm : DtioxModbus) (hdm : dm.LawfulPrefix) (tcpDefaultPort : ℤ)
    (masterCfg : DtioxLinuxModbusTcpMaster.Config) (slaveCfg : Config) (masterFifo slaveFifo : F)
    (events : List TrafficEvent) :
    let start := Traffic.initial dm (masterCfg.withDefaults dm tcpDefaultPort)
      (slaveCfg.withDefaults dm) masterFifo slaveFifo
    (∀ t, Run.exec (Traffic.step dm) start events = some t →
      t.toSlave.flatMap (·.sent) ++ t.m2s = t.ends.masterWritten ++ unreturned t.ends ∧
      List.Sublist (t.toMaster.flatMap (·.sent)) t.ends.slaveWritten) ∧
    (Run.AllStates (Traffic.step dm) NothingLost start events
      ↔ Run.AllSteps (Traffic.step dm) (CutsNoTail dm) start events) := by
  intro start
  have hlim := limits_withDefaults dm tcpDefaultPort masterCfg slaveCfg
  have hinit : TrafficInv dm _ _ start (State.attachedRegisters dm) :=
    trafficInv_initial hdm.toLawful masterFifo slaveFifo
  refine ⟨fun t ht => ?_, ?_⟩
  · obtain ⟨tab, hi⟩ := Run.exec_invariant (P := fun t => ∃ tab, TrafficInv dm _ _ t tab)
      (fun _ _ _ hi h => (hi.choose_spec.step hdm hlim h).1) ⟨_, hinit⟩ ht
    have hsub := (List.sublist_append_left _ _).trans
      ((List.sublist_append_left _ _).trans hi.toMaster)
    exact ⟨hi.toSlave, hsub⟩
  · refine Run.allStates_iff_allSteps (I := fun t => ∃ tab, TrafficInv dm _ _ t tab) ?_ ?_ ?_ events
      start ⟨_, hinit⟩ ⟨by simp [start, Traffic.initial], by simp [start, Traffic.initial]⟩
    · exact fun _ _ _ hi _ h _ => (hi.choose_spec.step hdm hlim h).1
    · exact fun _ _ _ hi hs h => (hi.choose_spec.step hdm hlim h).2 hs
    · exact fun _ _ hi _ h => hi.choose_spec.cutsNoTail_of_blocked hdm hlim h

/-- A write of six bytes, and a write of six bytes the other way that a poll round fetches. -/
def sixBytesRun : List TrafficEvent :=
  [.ends (.masterWrite [1, 2, 3, 4, 5, 6]), .ends .slaveReceive, .ends .masterReply,
    .ends .slaveInterpret, .ends (.slaveWrite [7, 8, 9, 10, 11, 12]), .ends .masterPoll,
    .ends .slaveReceive, .ends .slaveInterpret, .ends .masterReply, .ends .slaveReceive,
    .ends .slaveInterpret, .ends .masterReply, .ends .slaveReceive, .ends .slaveInterpret,
    .ends .masterReply]

/-- Two ends with the given limits. -/
def limitsStart (master slave : ℤ) : Traffic ByteFifo :=
  .initial .bigEndian
    (DtioxLinuxModbusTcpMaster.Config.withDefaults .bigEndian 502
      ⟨"10.0.0.1", 502, 1, 25, 250, master, 64⟩)
    (Config.withDefaults .bigEndian ⟨slave⟩) ⟨64, []⟩ ⟨64, []⟩

/-- With equal limits no step of the run cuts a tail. -/
theorem no_silent_truncation_exact_sixBytes :
    Run.AllSteps (Traffic.step .bigEndian) (CutsNoTail .bigEndian) (limitsStart 16 16)
      sixBytesRun :=
  (no_silent_truncation_exact .bigEndian DtioxModbus.bigEndian_lawfulPrefix 502
    ⟨"10.0.0.1", 502, 1, 25, 250, 16, 64⟩ ⟨16⟩ (⟨64, []⟩ : ByteFifo) ⟨64, []⟩ sixBytesRun).2.1
    (by decide +kernel)

/-- With different limits the last two bytes of a write vanish: towards the slave when its limit is
    the smaller one, towards the master when its limit is. -/
theorem tail_cut_silently :
    (¬∀ events, Run.AllStates (Traffic.step .bigEndian) NothingLost (limitsStart 16 4) events) ∧
    (¬∀ events, Run.AllStates (Traffic.step .bigEndian) NothingLost (limitsStart 4 16) events) := by
  refine ⟨fun h => ?_, fun h => ?_⟩
  · exact absurd (h sixBytesRun) (by decide +kernel)
  · exact absurd (h sixBytesRun) (by decide +kernel)

end ModbusMailbox
