import DtmcLinux.Modbus.ReceiveSide

set_option autoImplicit false

/-! # The chunks of a write of the RTU master

`dtiox_linux_modbus_rtu_master_write` sends one `PUT_BLOB` request after the other until everything is
sent, or only one when partial writes are not to be retried. The size of a request is limited by
`DTIOX_MODBUS_MAX_BLOB_BYTES`; the loop never reads `cfg.max_blob_bytes`. -/

namespace ModbusMaster

variable {τ Cfg F : Type*}

/-- Connecting does not change the configuration. -/
theorem ensureConnected_cfg (w : World τ Cfg F) (connect : LibResult) :
    (ensureConnected w connect).1.self.cfg = w.self.cfg := by
  obtain ⟨_, _, hw⟩ := ensureConnected_frame w connect
  rw [hw]

/-- Once an enabled object is connected, it sends. -/
theorem writeLocked_sent {w : World τ Cfg F} (connect : LibResult)
    {send : Cfg → Option Dterr × Option ℤ} {out : Option ℤ} (henabled : w.self.enabled = true)
    (h : (writeLocked w connect send).2 = (none, out)) : send w.self.cfg = (none, out) := by
  have hcfg := ensureConnected_cfg w connect
  unfold writeLocked at h
  rw [henabled] at h
  simp only [Bool.not_true, Bool.false_eq_true, if_false] at h
  split at h
  · exact absurd (Prod.mk.inj h).1 (by simp)
  · next v heq =>
      rw [heq] at hcfg
      dsimp only at hcfg h
      rwa [hcfg] at h

/-- A write that succeeds on an enabled object has sent everything it wanted to. -/
theorem write_sent [DecidableEq τ] {w w' : World τ Cfg F} {t : τ} {len : ℤ} {connect : LibResult}
    {send : Cfg → Option Dterr × Option ℤ} {out : Option ℤ} (henabled : w.self.enabled = true)
    (h : write w t len connect send = some (w', none, out)) :
    0 ≤ len ∧ send w.self.cfg = (none, out) := by
  unfold write at h
  split at h
  · exact absurd (Prod.mk.inj (Prod.mk.inj (Option.some.inj h)).2).1 (by simp)
  · split at h
    · exact absurd (Prod.mk.inj (Prod.mk.inj (Option.some.inj h)).2).1 (by simp)
    · next hlen =>
        split at h
        · exact absurd h (by simp)
        · exact absurd (Prod.mk.inj (Prod.mk.inj (Option.some.inj h)).2).1 (by simp)
        · next lock _ =>
            obtain ⟨-, h⟩ := Prod.mk.inj (Option.some.inj h)
            obtain ⟨herr, hout⟩ := Prod.mk.inj h
            have hsent := writeLocked_sent (w := { w with lock := lock }) connect henabled
              (Prod.ext (Option.or_eq_none_iff.1 herr).1 hout)
            exact ⟨Int.not_lt.1 hlen, hsent⟩

/-- A write on an object that is connected and enabled does what it wants to send. -/
theorem write_of_connected [DecidableEq τ] {w : World τ Cfg F} (t : τ) {len : ℤ}
    (connect : LibResult) {send : Cfg → Option Dterr × Option ℤ} {out : Option ℤ}
    (hmb : w.self.mb ≠ none) (hlen : 0 ≤ len) (hfree : w.lock.owner = none)
    (henabled : w.self.enabled = true) (hconnected : w.self.isConnected = true)
    (hsend : send w.self.cfg = (none, out)) :
    ∃ w', write w t len connect send = some (w', none, out) := by
  have hconnect : ensureConnected { w with lock := ⟨some t⟩ } connect =
      ({ w with lock := ⟨some t⟩ }, none) := if_pos hconnected
  have hlocked : writeLocked { w with lock := ⟨some t⟩ } connect send =
      ({ w with lock := ⟨some t⟩ }, none, out) := by
    unfold writeLocked
    rw [hconnect, ← hsend]
    exact if_neg (by rw [henabled]; decide)
  unfold write
  rw [if_neg hmb, if_neg (Int.not_lt.2 hlen), Dtlock.acquire_of_free t hfree]
  dsimp only
  rw [hlocked]
  have hrelease : releaseLock (disconnectOnError { w with lock := ⟨some t⟩ } none) t none =
      ({ w with lock := ⟨none⟩ }, none) := by
    rw [disconnectOnError, if_neg (by simp), releaseLock, Dtlock.release_held]
    rfl
  exact ⟨_, congrArg some (Prod.ext rfl (Prod.ext (congrArg (·.2) hrelease) rfl))⟩

/-- The blob of a `PUT_BLOB` request, as the slave reads it. -/
def requestBlob (dm : DtioxModbus) (regs : List UInt16) : List UInt8 :=
  dm.unpackRegsToBytes (fun i => regs.getD (i + 2) 0) (regs.getD 1 0).toNat

/-- The slave reads what was packed. -/
theorem requestBlob_putBlobRegs {dm : DtioxModbus} (hdm : dm.Lawful) {blob : List UInt8}
    (hlen : (blob.length : ℤ) ≤ dm.maxBlobBytes) : requestBlob dm (putBlobRegs dm blob) = blob := by
  have hmax := hdm.maxBlobBytes_lt
  have hcount : (UInt16.ofNat blob.length).toNat = blob.length :=
    UInt16.toNat_ofNat_of_lt' (by change blob.length < 65536; omega)
  show dm.unpackRegsToBytes (fun i => (dm.packBytesToRegs blob).getD i 0)
    (UInt16.ofNat blob.length).toNat = blob
  rw [hcount]
  exact hdm.unpack_pack blob _ fun _ _ => rfl

end ModbusMaster

namespace DtioxLinuxModbusRtuMaster

open ModbusMaster

/-- The defaults leave a limit between 1 and `DTIOX_MODBUS_MAX_BLOB_BYTES`. -/
theorem Config.withDefaults_maxBlobBytes (dm : DtioxModbus) (cfg : Config) :
    0 < (cfg.withDefaults dm).maxBlobBytes ∧
      (cfg.withDefaults dm).maxBlobBytes ≤ dm.maxBlobBytes := by
  have hpos := dm.maxBlobBytes_pos
  unfold Config.withDefaults
  dsimp only
  split <;> omega

theorem sendLen_eq_min (dm : DtioxModbus) (remaining : ℤ) :
    sendLen dm remaining = min remaining dm.maxBlobBytes := by
  unfold sendLen
  split <;> omega

/-- A loop that ends without an error: the blobs are what was to be sent, up to where the loop
    stopped; the first one is as long as a request can be, and no other is longer. -/
theorem writeLoop_spec {dm : DtioxModbus} {cfg : Config} {rcs : ℕ → LibResult} (i : ℕ)
    (p : List UInt8) {remaining rest : ℤ} {blobs : List (List UInt8)} (h0 : 0 ≤ remaining)
    (hlen : remaining ≤ p.length)
    (h : writeLoop dm cfg rcs i p remaining = (none, rest, blobs)) :
    0 ≤ rest ∧ rest ≤ remaining ∧
      rest = (if cfg.permitRetryPartialWrites then 0 else remaining - sendLen dm remaining) ∧
      blobs.flatten = p.take (remaining - rest).toNat ∧
      (∀ b ∈ blobs, (b.length : ℤ) ≤ sendLen dm remaining) ∧
      ∃ b ∈ blobs, (b.length : ℤ) = sendLen dm remaining := by
  have hpos := dm.maxBlobBytes_pos
  have hmin := sendLen_eq_min dm remaining
  have hblob : ((p.take (sendLen dm remaining).toNat).length : ℤ) = sendLen dm remaining := by
    rw [List.length_take_of_le (by omega)]
    omega
  rw [writeLoop] at h
  dsimp only at h
  split at h
  · exact absurd (Prod.mk.inj h).1 (by simp)
  · split at h
    · exact absurd (Prod.mk.inj h).1 (by simp)
    · split at h
      · next hdone =>
          -- everything is sent
          obtain ⟨-, h⟩ := Prod.mk.inj h
          obtain ⟨rfl, rfl⟩ := Prod.mk.inj h
          refine ⟨by omega, by omega, by split <;> omega, ?_, ?_, _, List.mem_singleton_self _, hblob⟩
          · rw [List.flatten_singleton]
            congr 1
            omega
          · intro b hb
            rw [List.mem_singleton.1 hb]
            exact Int.le_of_eq hblob
      · next hmore =>
          split at h
          · next hpermit =>
              obtain ⟨-, h⟩ := Prod.mk.inj h
              obtain ⟨rfl, rfl⟩ := Prod.mk.inj h
              rw [Bool.not_eq_true'] at hpermit
              refine ⟨by omega, by omega, by rw [hpermit]; rfl, ?_, ?_, _,
                List.mem_singleton_self _, hblob⟩
              · rw [List.flatten_singleton]
                congr 1
                omega
              · intro b hb
                rw [List.mem_singleton.1 hb]
                exact Int.le_of_eq hblob
          · next hpermit =>
              obtain ⟨herr, h⟩ := Prod.mk.inj h
              obtain ⟨rfl, rfl⟩ := Prod.mk.inj h
              rw [Bool.not_eq_true', Bool.not_eq_false] at hpermit
              have hdrop : (p.drop (sendLen dm remaining).toNat).length =
                  p.length - (sendLen dm remaining).toNat := List.length_drop
              have hnonneg : 0 ≤ remaining - sendLen dm remaining := by omega
              have hrest := writeLoop_spec (i + 1) (p.drop (sendLen dm remaining).toNat) hnonneg
                (by omega) (Prod.ext herr rfl)
              obtain ⟨hge, hle, hend, hflat, hall, -⟩ := hrest
              rw [sendLen_eq_min dm (remaining - _)] at hall
              refine ⟨hge, by omega, ?_, ?_, ?_, _, List.mem_cons_self, hblob⟩
              · rw [hpermit] at hend ⊢
                exact hend
              · rw [List.flatten_cons, hflat, ← List.take_add]
                congr 1
                omega
              · intro b hb
                rcases List.mem_cons.1 hb with rfl | hb
                · exact Int.le_of_eq hblob
                · exact Int.le_trans (hall b hb) (by omega)
termination_by remaining.toNat
decreasing_by
  rw [sendLen_eq_min]
  omega

/-- The `PUT_BLOB` requests of a write. -/
def putBlobRequests (dm : DtioxModbus) (cfg : Config) (rcs : ℕ → LibResult) (buf : List UInt8)
    (len : ℤ) : List (List UInt16) :=
  (writeLoop dm cfg rcs 0 buf len).2.2.map (putBlobRegs dm)

/-- The blobs of the requests are what was written, none is longer than the configuration allows, and
    as much is written as it asks for. -/
structure ChunksKept (dm : DtioxModbus) (cfg : Config) (requests : List (List UInt16))
    (buf : List UInt8) (len outWritten : ℤ) : Prop where
  bytes : (requests.map (requestBlob dm)).flatten = buf.take outWritten.toNat
  limit : ∀ regs ∈ requests, ((requestBlob dm regs).length : ℤ) ≤ cfg.maxBlobBytes
  written : outWritten =
    if cfg.permitRetryPartialWrites then len else min len cfg.maxBlobBytes

/-- **Exact condition.** For every configuration with its defaults and every write that succeeds on an
    enabled object: the blobs of its requests are the bytes written, within `max_blob_bytes`, and as
    many as the configuration asks for, exactly when the length is within `max_blob_bytes` or that is
    the limit of the protocol. -/
theorem rtu_write_chunks_exact {τ F : Type*} [DecidableEq τ] {dm : DtioxModbus} (hdm : dm.Lawful)
    (cfg : Config) {w w' : World τ Config F} (hcfg : w.self.cfg = cfg.withDefaults dm)
    (henabled : w.self.enabled = true) {t : τ} {buf : List UInt8} {len outWritten : ℤ}
    (hbuf : len ≤ buf.length) {connect : LibResult} {rcs : ℕ → LibResult}
    (hwrite : write dm w t buf len connect rcs = some (w', none, some outWritten)) :
    ChunksKept dm w.self.cfg (putBlobRequests dm w.self.cfg rcs buf len) buf len outWritten ↔
      len ≤ w.self.cfg.maxBlobBytes ∨ w.self.cfg.maxBlobBytes = dm.maxBlobBytes := by
  obtain ⟨h0, hsend⟩ := write_sent henabled hwrite
  obtain ⟨hcfgPos, hcfgLe⟩ := cfg.withDefaults_maxBlobBytes dm
  rw [← hcfg] at hcfgPos hcfgLe
  unfold putBlobRequests
  unfold writeSend at hsend
  split at hsend
  · exact absurd (Prod.mk.inj hsend).1 (by simp)
  · next rest blobs hloop =>
      have hout : len - rest = outWritten := Option.some.inj (Prod.mk.inj hsend).2
      obtain ⟨hge, hle, hrest, hflat, hall, b, hb, hlong⟩ := writeLoop_spec 0 buf h0 hbuf hloop
      rw [sendLen_eq_min] at hrest hall hlong
      have hread : ∀ blob ∈ blobs, requestBlob dm (putBlobRegs dm blob) = blob := fun blob hblob =>
        requestBlob_putBlobRegs hdm (Int.le_trans (hall blob hblob) (Int.min_le_right _ _))
      rw [hloop]
      constructor
      · intro h
        have hlimit := h.limit _ (List.mem_map_of_mem hb)
        rw [hread b hb] at hlimit
        omega
      · intro h
        refine ⟨?_, ?_, ?_⟩
        · have hblobs : blobs.map (requestBlob dm ∘ putBlobRegs dm) = blobs.map id :=
            List.map_congr_left hread
          rw [List.map_map, hblobs, List.map_id, hflat, hout]
        · intro regs hregs
          obtain ⟨blob, hblob, rfl⟩ := List.mem_map.1 hregs
          rw [hread blob hblob]
          exact Int.le_trans (hall blob hblob) (by omega)
        · rw [← hout, hrest]
          split <;> omega

/-- A master that is connected and enabled; its blobs are to have at most four bytes. -/
def fourByteMaster : World Unit Config ByteFifo where
  self :=
    { cfg := (Config.mk "/dev/ttyUSB0" 1 25 250 0 4 true 1024).withDefaults .bigEndian
      mb := some 0
      isConnected := true
      enabled := true
      rxSemaphore := false
      stopRequested := false
      rxOverflowPending := false
      deadSlavePending := false
      rxFifo := ⟨1024, []⟩ }
  contexts := { next := 1, connected := fun _ => true }
  lock := ⟨none⟩
  rxPosts := 0

/-- The result of a request of `n` registers. -/
def writtenRegs (n : ℤ) : LibResult := ⟨n, 0, ""⟩

/-- The length given is sent in one request, when it is at most six. -/
theorem fourByteMaster_write {buf : List UInt8} {rcs : ℕ → LibResult}
    (hloop : writeLoop .bigEndian fourByteMaster.self.cfg rcs 0 buf buf.length =
      (none, 0, [buf])) :
    ∃ w', write .bigEndian fourByteMaster () buf buf.length (writtenRegs 0) rcs =
      some (w', none, some (buf.length : ℤ)) := by
  refine write_of_connected () _ (by decide) (Int.natCast_nonneg _) rfl rfl rfl ?_
  rw [writeSend, hloop]
  dsimp only
  rw [Int.sub_zero]

/-- Six bytes go out in one request. -/
theorem oversized_blob_sent :
    ¬∀ (cfg : Config) (w w' : World Unit Config ByteFifo) (buf : List UInt8) (len outWritten : ℤ)
      (connect : LibResult) (rcs : ℕ → LibResult), w.self.cfg = cfg.withDefaults .bigEndian →
      w.self.enabled = true → len ≤ buf.length →
      write .bigEndian w () buf len connect rcs = some (w', none, some outWritten) →
      ChunksKept .bigEndian w.self.cfg (putBlobRequests .bigEndian w.self.cfg rcs buf len) buf len
        outWritten := by
  have hloop : writeLoop .bigEndian fourByteMaster.self.cfg (fun _ => writtenRegs 5) 0
      [1, 2, 3, 4, 5, 6] 6 = (none, 0, [[1, 2, 3, 4, 5, 6]]) := by
    rw [writeLoop]
    rfl
  obtain ⟨w', hwrite⟩ := fourByteMaster_write hloop
  intro h
  have hkept := h _ fourByteMaster w' _ 6 6 _ _ rfl rfl (by decide) hwrite
  have hlimit := hkept.limit (putBlobRegs .bigEndian [1, 2, 3, 4, 5, 6]) (by
    rw [putBlobRequests, hloop]
    exact List.mem_singleton_self _)
  exact absurd hlimit (by decide)

/-- Three bytes are within the limit. -/
theorem three_bytes_within_limit :
    ∃ w', write .bigEndian fourByteMaster () [1, 2, 3] 3 (writtenRegs 0) (fun _ => writtenRegs 4) =
        some (w', none, some 3) ∧
      ChunksKept .bigEndian fourByteMaster.self.cfg (putBlobRequests .bigEndian
        fourByteMaster.self.cfg (fun _ => writtenRegs 4) [1, 2, 3] 3) [1, 2, 3] 3 3 := by
  have hloop : writeLoop .bigEndian fourByteMaster.self.cfg (fun _ => writtenRegs 4) 0
      [1, 2, 3] 3 = (none, 0, [[1, 2, 3]]) := by
    rw [writeLoop]
    rfl
  obtain ⟨w', hwrite⟩ := fourByteMaster_write hloop
  refine ⟨w', hwrite, ?_⟩
  exact (rtu_write_chunks_exact DtioxModbus.bigEndian_lawful _ rfl rfl (by decide) hwrite).2
    (Or.inl (by decide))

end DtioxLinuxModbusRtuMaster
