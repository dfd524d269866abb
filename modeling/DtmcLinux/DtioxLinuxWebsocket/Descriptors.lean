import DtmcLinux.DtioxLinuxWebsocket.Basic

set_option autoImplicit false

/-! # The descriptors of the WebSocket object

Attach keeps the listening socket for the next client. When it reuses that socket and the handshake
fails, its `cleanup:` closes the socket through the local variable, and `self->listen_fd` keeps the
closed descriptor. Dispose closes the client's socket and leaves `is_connected` set. All other calls,
with any results of their system calls, keep the ownership invariant. -/

namespace DtioxLinuxWebsocket

open DescriptorTable

/-- **The ownership invariant.** Each variable holds an open descriptor of its kind or none, the
    flag says whether there is a client, and nothing has been closed twice. -/
structure OwnsDescriptors (w : World) : Prop where
  listenFd : w.fds.Holds w.self.listenFd .listening
  clientFd : w.fds.Holds w.self.clientFd .connected
  isConnected : w.self.isConnected = true ↔ 0 ≤ w.self.clientFd
  nodup : w.fds.closed.Nodup

/-- The calls that keep the invariant: no attach on the kept listening socket reaches the handshake
    and fails there, and dispose finds no client. -/
def KeepsOwnership (w : World) : Event → Prop
  | .attach calls =>
    ¬(w.self.clientFd < 0 ∧ 0 ≤ w.self.listenFd ∧ calls.accept = none ∧
      setSocketCommonOptions w.self.config calls = none ∧ calls.handshake ≠ none)
  | .dispose => w.self.isConnected = false
  | _ => True

/-- What holds in every run: only descriptors the object created are closed, a listening socket is
    kept only under a valid port, and the object is not an allocated one. -/
structure Sane (w : World) : Prop where
  created : ∀ n ∈ w.fds.closed, n < w.fds.kinds.length
  port : 0 ≤ w.self.listenFd →
    ¬(w.self.config.localBindPort ≤ 0 ∨ w.self.config.localBindPort > 65535)
  isMalloced : w.self.isMalloced = false
  alive : w.freed = false

theorem OwnsDescriptors.closedOnce {w : World} (h : OwnsDescriptors w) (hsane : Sane w) :
    w.fds.ClosedOnce :=
  ⟨h.nodup, hsane.created⟩

theorem holds_nonneg {κ : Type*} {fds : DescriptorTable κ} {fd : ℤ} {kind : κ}
    (h : fds.Holds fd kind) (hnonneg : 0 ≤ fd) : fds.IsOpen fd kind :=
  h.resolve_left fun hneg => absurd hnonneg (by rw [hneg]; decide)

/-! ## Attach -/

/-- The loop over the addresses leaves at most one new descriptor, in `listen_fd`. -/
theorem bindFirst_spec {fds fds₀ : DescriptorTable SocketKind} (hclosed : fds₀.ClosedOnce)
    (h : fds₀.Extends fds) (addresses : List BindCalls) :
    fds₀.Extends (bindFirst fds addresses).1 ∧
      ((bindFirst fds addresses).2.1 = -1 ∧ (bindFirst fds addresses).2.2 = none ∨
        fds₀.IsNew (bindFirst fds addresses).1 (bindFirst fds addresses).2.1 .fresh) := by
  induction addresses generalizing fds with
  | nil => exact ⟨h, Or.inl ⟨rfl, rfl⟩⟩
  | cons rp rps ih =>
      have hcreate := h.create SocketKind.fresh
      have hnew := h.isNew_create hclosed SocketKind.fresh
      rw [bindFirst]
      split
      · exact ih h
      · simp only
        split
        · exact ⟨hcreate, Or.inr hnew⟩
        · split
          · exact ⟨hcreate, Or.inr hnew⟩
          · exact ih (hcreate.close hnew)

/-- `accept` adds at most one new descriptor, in `client_fd`. -/
theorem acceptClient_spec {fds fds₀ : DescriptorTable SocketKind} (hclosed : fds₀.ClosedOnce)
    (h : fds₀.Extends fds) (cfg : Config) (calls : AttachCalls) :
    fds₀.Extends (acceptClient cfg fds calls).1 ∧
      ((acceptClient cfg fds calls).2.1 = -1 ∧ (acceptClient cfg fds calls).2.2 ≠ none ∨
        fds₀.IsNew (acceptClient cfg fds calls).1 (acceptClient cfg fds calls).2.1 .connected) ∧
      ((acceptClient cfg fds calls).2.2 = none ↔
        calls.accept = none ∧ setSocketCommonOptions cfg calls = none) := by
  unfold acceptClient
  cases haccept : calls.accept with
  | some err => exact ⟨h, Or.inl ⟨rfl, by simp⟩, by simp⟩
  | none => exact ⟨h.create _, Or.inr (h.isNew_create hclosed _), by simp⟩

/-- On the kept listening socket only the client's descriptor is new. -/
theorem bindListenAccept_kept {self : Websocket} {fds : DescriptorTable SocketKind}
    (hclosed : fds.ClosedOnce)
    (hport : ¬(self.config.localBindPort ≤ 0 ∨ self.config.localBindPort > 65535))
    (hkept : 0 ≤ self.listenFd) (calls : AttachCalls) :
    fds.Extends (bindListenAccept self fds calls).1 ∧
      ((∃ err, (bindListenAccept self fds calls).2 = .error err ∧
          ¬(calls.accept = none ∧ setSocketCommonOptions self.config calls = none)) ∨
        ∃ clientFd, (bindListenAccept self fds calls).2 = .ok (self.listenFd, clientFd) ∧
          fds.IsNew (bindListenAccept self fds calls).1 clientFd .connected ∧
          calls.accept = none ∧ setSocketCommonOptions self.config calls = none) := by
  obtain ⟨hext, hclient, hok⟩ := acceptClient_spec hclosed (.refl fds) self.config calls
  unfold bindListenAccept
  simp only [if_neg hport, ge_iff_le, if_pos hkept]
  rcases hac : acceptClient self.config fds calls with ⟨fds', clientFd, err⟩
  rw [hac] at hext hclient hok
  cases err with
  | some err =>
      have hfail : ¬(calls.accept = none ∧ setSocketCommonOptions self.config calls = none) :=
        fun h => Option.some_ne_none err (hok.2 h)
      rcases hclient with ⟨hneg, -⟩ | hnew
      · obtain rfl : clientFd = -1 := hneg
        refine ⟨?_, Or.inl ⟨err, rfl, hfail⟩⟩
        show fds.Extends (fds'.closeIfOpen (-1))
        rw [closeIfOpen_neg_one]
        exact hext
      · exact ⟨hext.close hnew, Or.inl ⟨err, rfl, hfail⟩⟩
  | none =>
      have hnew := hclient.resolve_left fun h => h.2 rfl
      exact ⟨hext, Or.inr ⟨clientFd, rfl, hnew, hok.1 rfl⟩⟩

/-- Without a kept listening socket both descriptors are new. -/
theorem bindListenAccept_new {self : Websocket} {fds : DescriptorTable SocketKind}
    (hclosed : fds.ClosedOnce) (hnone : ¬0 ≤ self.listenFd) (calls : AttachCalls) :
    fds.Extends (bindListenAccept self fds calls).1 ∧
      ((∃ err, (bindListenAccept self fds calls).2 = .error err) ∨
        ∃ listenFd clientFd, (bindListenAccept self fds calls).2 = .ok (listenFd, clientFd) ∧
          fds.IsNew (bindListenAccept self fds calls).1 listenFd .listening ∧
          fds.IsNew (bindListenAccept self fds calls).1 clientFd .connected ∧
          ¬(self.config.localBindPort ≤ 0 ∨ self.config.localBindPort > 65535)) := by
  unfold bindListenAccept
  by_cases hport : self.config.localBindPort ≤ 0 ∨ self.config.localBindPort > 65535
  · simp only [if_pos hport]
    exact ⟨.refl fds, Or.inl ⟨_, rfl⟩⟩
  · simp only [if_neg hport, ge_iff_le, if_neg hnone]
    cases calls.getaddrinfo with
    | false => exact ⟨.refl fds, Or.inl ⟨_, rfl⟩⟩
    | true =>
        obtain ⟨hext, hbound⟩ := bindFirst_spec hclosed (.refl fds) calls.addresses
        rcases hbf : bindFirst fds calls.addresses with ⟨fds₁, listenFd, err⟩
        rw [hbf] at hext hbound
        cases err with
        | some err =>
            have hnew := hbound.resolve_left fun h => by simp at h
            exact ⟨hext.close hnew, Or.inl ⟨err, rfl⟩⟩
        | none =>
            rcases hbound with ⟨rfl, -⟩ | hfresh
            · exact ⟨hext, Or.inl ⟨_, rfl⟩⟩
            · have hnonneg : ¬listenFd < 0 := Int.not_lt.2 hfresh.isOpen.nonneg
              simp only [if_neg hnonneg, Bool.not_true, Bool.false_eq_true, if_false]
              cases calls.listen with
              | some err => exact ⟨hext.close hfresh, Or.inl ⟨_, rfl⟩⟩
              | none =>
                  have hlisten := hfresh.become_self SocketKind.listening
                  have hext₁ := hext.become hfresh SocketKind.listening
                  obtain ⟨hext₂, hclient, -⟩ :=
                    acceptClient_spec hclosed hext₁ self.config calls
                  obtain ⟨hlater, hafter, -⟩ :=
                    acceptClient_spec (hext₁.closedOnce hclosed) (.refl _) self.config calls
                  rcases hac : acceptClient self.config (fds₁.become listenFd .listening) calls
                    with ⟨fds₂, clientFd, err⟩
                  rw [hac] at hext₂ hclient hlater hafter
                  have hlisten₂ := hlisten.trans hlater
                  cases err with
                  | some err =>
                      rcases hclient with ⟨hneg, -⟩ | hnew
                      · obtain rfl : clientFd = -1 := hneg
                        refine ⟨?_, Or.inl ⟨err, rfl⟩⟩
                        show fds.Extends ((fds₂.closeIfOpen (-1)).closeIfOpen listenFd)
                        rw [closeIfOpen_neg_one]
                        exact hext₂.close hlisten₂
                      · -- the two new descriptors differ: one was open before the other was created
                        have hne : listenFd ≠ clientFd :=
                          (hafter.resolve_left fun h => by
                            rw [h.1] at hnew
                            exact absurd hnew.isOpen.nonneg (by decide)).ne hlisten.isOpen
                        exact ⟨(hext₂.close hnew).close (hlisten₂.closeIfOpen_of_ne hne),
                          Or.inl ⟨err, rfl⟩⟩
                  | none =>
                      have hnew := hclient.resolve_left fun h => h.2 rfl
                      exact ⟨hext₂, Or.inr ⟨listenFd, clientFd, rfl, hlisten₂, hnew, hport⟩⟩

/-- Changes of the descriptors that leave the variables alone. -/
theorem OwnsDescriptors.extend {w : World} (h : OwnsDescriptors w) (hsane : Sane w)
    {fds : DescriptorTable SocketKind} (hext : w.fds.Extends fds) :
    OwnsDescriptors { w with fds := fds } :=
  ⟨hext.holds h.listenFd, hext.holds h.clientFd, h.isConnected,
    (hext.closedOnce (h.closedOnce hsane)).nodup⟩

theorem Sane.extend {w : World} (h : OwnsDescriptors w) (hsane : Sane w)
    {fds : DescriptorTable SocketKind} (hext : w.fds.Extends fds) : Sane { w with fds := fds } :=
  ⟨(hext.closedOnce (h.closedOnce hsane)).created, hsane.port, hsane.isMalloced, hsane.alive⟩

/-- Sending and recording what was returned do not touch the descriptors. -/
theorem OwnsDescriptors.congr {w w' : World} (h : OwnsDescriptors w) (hself : w'.self = w.self)
    (hfds : w'.fds = w.fds) : OwnsDescriptors w' := by
  obtain ⟨hlisten, hclient, hconn, hnodup⟩ := h
  exact ⟨by rwa [hself, hfds], by rwa [hself, hfds], by rwa [hself], by rwa [hfds]⟩

theorem Sane.congr {w w' : World} (h : Sane w) (hself : w'.self = w.self) (hfds : w'.fds = w.fds)
    (hfreed : w'.freed = w.freed) : Sane w' := by
  obtain ⟨hcreated, hport, hmalloced, halive⟩ := h
  exact ⟨by rwa [hfds], by rwa [hself], by rwa [hself], by rwa [hfreed]⟩

/-- The state after the handshake has succeeded. -/
theorem owns_attached {w : World} (h : OwnsDescriptors w) (hsane : Sane w)
    {fds : DescriptorTable SocketKind} (hext : w.fds.Extends fds) {listenFd clientFd : ℤ}
    (hlisten : fds.IsOpen listenFd .listening) (hclient : fds.IsOpen clientFd .connected)
    (bytes : List UInt8) :
    OwnsDescriptors { ({ w with fds := fds }.send clientFd bytes) with self := { w.self with
      listenFd := listenFd, clientFd := clientFd, isConnected := true } } :=
  ⟨Or.inr hlisten, Or.inr hclient, ⟨fun _ => hclient.nonneg, fun _ => rfl⟩,
    (hext.closedOnce (h.closedOnce hsane)).nodup⟩

/-- **Attach** keeps the invariant exactly when it does not fail in the handshake on the kept
    listening socket. -/
theorem attach_owns {w : World} (h : OwnsDescriptors w) (hsane : Sane w) (calls : AttachCalls) :
    (OwnsDescriptors (attach w calls).1 ↔ KeepsOwnership w (.attach calls)) ∧
      (OwnsDescriptors (attach w calls).1 → Sane (attach w calls).1) := by
  have hclosed := h.closedOnce hsane
  unfold attach KeepsOwnership
  by_cases hclient : w.self.clientFd ≥ 0
  · rw [if_pos hclient]
    exact ⟨⟨fun _ hbad => absurd hclient (Int.not_le.2 hbad.1), fun _ => h⟩, fun _ => hsane⟩
  · have hneg : w.self.clientFd < 0 := Int.not_le.1 hclient
    rw [if_neg hclient]
    by_cases hkept : 0 ≤ w.self.listenFd
    · have hlisten := holds_nonneg h.listenFd hkept
      obtain ⟨hext, hcase⟩ := bindListenAccept_kept hclosed (hsane.port hkept) hkept calls
      rcases hbla : bindListenAccept w.self w.fds calls with ⟨fds, result⟩
      rw [hbla] at hext hcase
      rcases hcase with ⟨err, herr, hfail⟩ | ⟨clientFd, hok, hnew, haccept, hopts⟩
      · obtain rfl : result = .error err := herr
        refine ⟨⟨fun _ hbad => hfail ⟨hbad.2.2.1, hbad.2.2.2.1⟩, fun _ => ?_⟩, fun _ => ?_⟩
        · exact h.extend hsane hext
        · exact hsane.extend h hext
      · obtain rfl : result = .ok (w.self.listenFd, clientFd) := hok
        cases hshake : calls.handshake with
        | some err =>
            -- the kept socket is closed, and the object still has it
            have hlisten' := (hext.isOpen hlisten).closeIfOpen_of_ne (hnew.ne hlisten)
            have hnot : ¬OwnsDescriptors { ({ w with fds := fds }.send clientFd calls.handshakeSent)
                with fds := (fds.closeIfOpen clientFd).closeIfOpen w.self.listenFd } := by
              intro howns
              have hopen := holds_nonneg howns.listenFd hkept
              rw [hlisten'.closeIfOpen_eq] at hopen
              exact not_isOpen_close hopen
            refine ⟨⟨fun howns => absurd howns hnot, fun hgood => ?_⟩,
              fun howns => absurd howns hnot⟩
            exact absurd ⟨hneg, hkept, haccept, hopts, by rw [hshake]; simp⟩ hgood
        | none =>
            refine ⟨⟨fun _ hbad => hbad.2.2.2.2 hshake, fun _ => ?_⟩, fun _ => ?_⟩
            · exact owns_attached h hsane hext (hext.isOpen hlisten) hnew.isOpen _
            · exact ⟨(hext.closedOnce hclosed).created, fun _ => hsane.port hkept,
                hsane.isMalloced, hsane.alive⟩
    · obtain ⟨hext, hcase⟩ := bindListenAccept_new hclosed hkept calls
      rcases hbla : bindListenAccept w.self w.fds calls with ⟨fds, result⟩
      rw [hbla] at hext hcase
      have hgood : ¬(w.self.clientFd < 0 ∧ 0 ≤ w.self.listenFd ∧ calls.accept = none ∧
          setSocketCommonOptions w.self.config calls = none ∧ calls.handshake ≠ none) :=
        fun hbad => hkept hbad.2.1
      rcases hcase with ⟨err, herr⟩ | ⟨listenFd, clientFd, hok, hlisten, hnew, hport⟩
      · obtain rfl : result = .error err := herr
        exact ⟨⟨fun _ => hgood, fun _ => h.extend hsane hext⟩, fun _ => hsane.extend h hext⟩
      · obtain rfl : result = .ok (listenFd, clientFd) := hok
        cases hshake : calls.handshake with
        | some err =>
            have hne : listenFd ≠ clientFd :=
              hlisten.isOpen.ne_of_kind_ne hnew.isOpen (by decide)
            have hext' := (hext.close hnew).close (hlisten.closeIfOpen_of_ne hne)
            refine ⟨⟨fun _ => hgood, fun _ => ?_⟩, fun _ => ?_⟩
            · exact (h.extend hsane hext').congr rfl rfl
            · exact (hsane.extend h hext').congr rfl rfl rfl
        | none =>
            refine ⟨⟨fun _ => hgood, fun _ => ?_⟩, fun _ => ?_⟩
            · exact owns_attached h hsane hext hlisten.isOpen hnew.isOpen _
            · exact ⟨(hext.closedOnce hclosed).created, fun _ => hport, hsane.isMalloced,
                hsane.alive⟩

/-! ## The other calls -/

/-- Closing both variables. -/
theorem closedOnce_both {w : World} (h : OwnsDescriptors w) (hsane : Sane w) :
    ((w.fds.closeIfOpen w.self.clientFd).closeIfOpen w.self.listenFd).ClosedOnce :=
  ((h.closedOnce hsane).closeIfOpen h.clientFd).closeIfOpen
    (h.listenFd.closeIfOpen h.clientFd (by decide))

theorem detach_owns {w : World} (h : OwnsDescriptors w) (hsane : Sane w) :
    OwnsDescriptors (detach w) ∧ Sane (detach w) := by
  have hclosed := closedOnce_both h hsane
  refine ⟨⟨Or.inl rfl, Or.inl rfl, by simp [detach], hclosed.nodup⟩, hclosed.created, ?_,
    hsane.isMalloced, hsane.alive⟩
  intro hnonneg
  exact absurd hnonneg (by decide : ¬(0 : ℤ) ≤ -1)

/-- **Dispose** keeps the invariant exactly when there is no client. -/
theorem dispose_owns {w : World} (h : OwnsDescriptors w) (hsane : Sane w) :
    (OwnsDescriptors (dispose w) ↔ w.self.isConnected = false) ∧ Sane (dispose w) := by
  have hclosed := closedOnce_both h hsane
  refine ⟨⟨fun howns => ?_, fun hfalse => ?_⟩, hclosed.created, ?_, hsane.isMalloced,
    hsane.isMalloced⟩
  · by_contra htrue
    exact absurd (howns.isConnected.1 (Bool.not_eq_false _ ▸ htrue)) (by decide : ¬(0 : ℤ) ≤ -1)
  · refine ⟨Or.inl rfl, Or.inl rfl, ⟨fun htrue => ?_, fun hnonneg => ?_⟩, hclosed.nodup⟩
    · exact absurd (hfalse.symm.trans htrue) (by decide)
    · exact absurd hnonneg (by decide : ¬(0 : ℤ) ≤ -1)
  · intro hnonneg
    exact absurd hnonneg (by decide : ¬(0 : ℤ) ≤ -1)

/-- The `cleanup:` of a failed write gives the client up. -/
theorem writeCleanup_owns {w : World} (h : OwnsDescriptors w) (hsane : Sane w)
    (err : Option Dterr) :
    OwnsDescriptors (writeCleanup w err).1 ∧ Sane (writeCleanup w err).1 := by
  cases err with
  | none => exact ⟨h, hsane⟩
  | some err =>
      have hclosed := (h.closedOnce hsane).closeIfOpen h.clientFd
      refine ⟨⟨h.listenFd.closeIfOpen h.clientFd (by decide), Or.inl rfl, by simp [writeCleanup],
        hclosed.nodup⟩, hclosed.created, hsane.port, hsane.isMalloced, hsane.alive⟩

theorem writeFrame_self {w w' : World} {buf : List UInt8} {len outWritten : Int32}
    {calls : WriteCalls} {err : Option Dterr}
    (h : writeFrame w buf len calls = some (w', err, outWritten)) :
    w'.self = w.self ∧ w'.fds = w.fds ∧ w'.freed = w.freed := by
  unfold writeFrame at h
  split at h
  · obtain ⟨rfl, -⟩ := Prod.mk.inj (Option.some.inj h)
    exact ⟨rfl, rfl, rfl⟩
  · dsimp only at h
    split at h
    · exact absurd h (by simp)
    · obtain ⟨rfl, -⟩ := Prod.mk.inj (Option.some.inj h)
      exact ⟨rfl, rfl, rfl⟩
    · obtain ⟨rfl, -⟩ := Prod.mk.inj (Option.some.inj h)
      exact ⟨rfl, rfl, rfl⟩

theorem write_owns {w w' : World} (h : OwnsDescriptors w) (hsane : Sane w) {buf : List UInt8}
    {len outWritten : Int32} {calls : WriteCalls} {err : Option Dterr}
    (hwrite : write w buf len calls = some (w', err, outWritten)) :
    OwnsDescriptors w' ∧ Sane w' := by
  unfold write at hwrite
  split at hwrite
  · obtain ⟨rfl, -⟩ := Prod.mk.inj (Option.some.inj hwrite)
    exact ⟨h, hsane⟩
  · split at hwrite
    · obtain ⟨rfl, -⟩ := Prod.mk.inj (Option.some.inj hwrite)
      exact ⟨h, hsane⟩
    · obtain ⟨⟨w₁, err₁, out₁⟩, hframe, heq⟩ := Option.map_eq_some_iff.1 hwrite
      obtain ⟨hself, hfds, hfreed⟩ := writeFrame_self hframe
      obtain ⟨rfl, -⟩ := Prod.mk.inj heq
      exact writeCleanup_owns (h.congr hself hfds) (hsane.congr hself hfds hfreed) err₁

/-! ## Runs -/

/-- **Step lemma.** -/
theorem step_owns {w w' : World} {e : Event} (h : OwnsDescriptors w) (hsane : Sane w)
    (hstep : step w e = some w') :
    (OwnsDescriptors w' ↔ KeepsOwnership w e) ∧ (OwnsDescriptors w' → Sane w') := by
  rw [step.eq_def, hsane.alive, if_neg (by decide)] at hstep
  cases e with
  | attach calls =>
      obtain rfl := Option.some.inj hstep
      exact attach_owns h hsane calls
  | detach =>
      obtain rfl := Option.some.inj hstep
      obtain ⟨howns, hsane'⟩ := detach_owns h hsane
      exact ⟨⟨fun _ => trivial, fun _ => howns⟩, fun _ => hsane'⟩
  | enable enabled =>
      obtain rfl := Option.some.inj hstep
      refine ⟨⟨fun _ => trivial, fun _ => ?_⟩, fun _ => ?_⟩
      · exact ⟨h.listenFd, h.clientFd, h.isConnected, h.nodup⟩
      · exact ⟨hsane.created, hsane.port, hsane.isMalloced, hsane.alive⟩
  | write buf len calls =>
      obtain ⟨⟨w₁, err, outWritten⟩, hwrite, rfl⟩ := Option.map_eq_some_iff.1 hstep
      obtain ⟨howns, hsane'⟩ := write_owns h hsane hwrite
      refine ⟨⟨fun _ => trivial, fun _ => ?_⟩, fun _ => ?_⟩
      · exact howns.congr rfl rfl
      · exact hsane'.congr rfl rfl rfl
  | dispose =>
      obtain rfl := Option.some.inj hstep
      obtain ⟨hiff, hsane'⟩ := dispose_owns h hsane
      exact ⟨hiff, fun _ => hsane'⟩

/-- Only a write can block. -/
theorem keepsOwnership_of_blocked {w : World} {e : Event} (hsane : Sane w)
    (hstep : step w e = none) : KeepsOwnership w e := by
  rw [step.eq_def, hsane.alive, if_neg (by decide)] at hstep
  cases e with
  | attach calls => exact absurd hstep (by simp)
  | detach => trivial
  | enable enabled => trivial
  | write buf len calls => trivial
  | dispose => exact absurd hstep (by simp)

theorem configured_owns (cfg : Config) :
    OwnsDescriptors (.configured cfg) ∧ Sane (.configured cfg) := by
  have hself : ∃ config, (configure init cfg).1 = { init with config := config } := by
    unfold configure
    split
    · exact ⟨_, rfl⟩
    · exact ⟨_, rfl⟩
  obtain ⟨config, hself⟩ := hself
  rw [World.configured, hself]
  have hnone : ¬(0 : ℤ) ≤ -1 := by decide
  exact ⟨⟨Or.inl rfl, Or.inl rfl, by simp [init], List.nodup_nil⟩,
    fun _ hmem => absurd hmem List.not_mem_nil, fun hnonneg => absurd hnonneg hnone, rfl, rfl⟩

/-- **Exact condition.** In every run from an initialised and configured object, the ownership
    invariant holds in every state exactly when no attach on the kept listening socket fails in the
    handshake and no dispose finds a client. -/
theorem descriptors_owned_exact (cfg : Config) (events : List Event) :
    Run.AllStates step OwnsDescriptors (.configured cfg) events
      ↔ Run.AllSteps step KeepsOwnership (.configured cfg) events := by
  obtain ⟨howns, hsane⟩ := configured_owns cfg
  exact Run.allStates_iff_allSteps
    (fun _ _ _ hsane h hstep howns' => (step_owns h hsane hstep).2 howns')
    (fun _ _ _ hsane h hstep => (step_owns h hsane hstep).1)
    (fun _ _ hsane _ hstep => keepsOwnership_of_blocked hsane hstep) events _ hsane howns

/-- System calls that succeed, and a handshake with the given result. -/
def attachCalls (handshake : Option Dterr) : AttachCalls :=
  ⟨true, [⟨true, none, true⟩], none, none, none, none, [], handshake⟩

/-- Attach, a write that finds the peer gone, an attach on the kept socket whose handshake fails,
    and detach, which closes the listening socket for the second time. -/
def failedReattach : List Event :=
  [.attach (attachCalls none), .write [1] 1 ⟨0, []⟩,
    .attach (attachCalls (some (.new .timeout "timed out waiting for websocket upgrade request"))),
    .detach]

theorem reattach_closes_twice :
    ¬∀ (cfg : Config) (events : List Event),
      Run.AllStates step OwnsDescriptors (.configured cfg) events := by
  intro h
  obtain ⟨w, howns, hclosed⟩ := (h ⟨none, 14090, false, false⟩ failedReattach).ends
    (Q := fun w => w.fds.closed = [0, 0, 2, 1]) (by decide +kernel)
  have hnodup := howns.nodup
  rw [hclosed] at hnodup
  exact absurd hnodup (by decide)

end DtioxLinuxWebsocket
