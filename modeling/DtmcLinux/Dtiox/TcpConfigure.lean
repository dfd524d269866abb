import DtmcLinux.Dtiox.TcpConnections
import DtmcLinux.Posix.Getopt

set_option autoImplicit false

/-! # The configuration of a TCP object

`dtiox_linux_tcp_configure`, and what `_connect_client_socket` and `_bind_and_accept_server_socket`
check of the configuration again. -/

namespace DtioxLinuxTcp

open Posix

/-- `dtiox_linux_tcp_config_t`, without the callback; `none` is a mode that is neither of the two. -/
structure Config where
  mode : Option Mode
  remoteHost : Option Arg
  remotePort : ℤ
  localBindHost : Option Arg
  localBindPort : ℤ
  rxFifoCapacity : ℤ
  tcpNodelay : Bool
  keepalive : Bool
  connectTimeoutMs : ℤ
  acceptTimeoutMs : ℤ
  deriving DecidableEq

/-- The errors of the allocation of the FIFO, and of its configuration. -/
structure ConfigureCalls where
  alloc : Option Dterr
  fifo : Option Dterr

/-- `port <= 0 || port > 65535` -/
def badPort (port : ℤ) : Bool := port ≤ 0 || port > 65535

/-- The end of `dtiox_linux_tcp_configure`: what it stores in the object. -/
def storeConfig (calls : ConfigureCalls) (cfg : Config) : Except Dterr Config :=
  let config :=
    { cfg with rxFifoCapacity := if cfg.rxFifoCapacity ≤ 0 then 4096 else cfg.rxFifoCapacity }
  match calls.alloc with
  | some dterr => .error dterr
  | none =>
    match calls.fifo with
    | some dterr => .error dterr
    | none => .ok config

/-- `dtiox_linux_tcp_configure` -/
def configure (calls : ConfigureCalls) (cfg : Config) : Except Dterr Config :=
  match cfg.mode with
  | some .client =>
    match cfg.remoteHost with
    | none => .error (.assertNotNull "cfg->remote_host")
    | some host =>
      if badPort cfg.remotePort then
        .error (.new .badarg s!"invalid TCP client config host {printed host} port {cfg.remotePort}")
      else storeConfig calls cfg
  | some .server =>
    match cfg.localBindHost with
    | none => .error (.assertNotNull "cfg->local_bind_host")
    | some host =>
      if badPort cfg.localBindPort then
        .error (.new .badarg s!"invalid TCP server config host {printed host} port {cfg.localBindPort}")
      else storeConfig calls cfg
  | none => .error (.new .badarg "unknown TCP mode")

/-- What attach checks of the endpoint before it looks it up. -/
def endpointError (config : Config) : Option Dterr :=
  if config.mode = some .client then
    if config.remoteHost = none ∨ badPort config.remotePort then
      some (.new .badarg "invalid TCP client remote endpoint")
    else none
  else if badPort config.localBindPort then some (.new .badarg "invalid TCP server bind port")
  else none

/-- What `dtiox_linux_tcp_configure` accepts when it gets its memory. -/
structure Config.Acceptable (cfg : Config) : Prop where
  client : cfg.mode = some .client → cfg.remoteHost ≠ none ∧ badPort cfg.remotePort = false
  server : cfg.mode = some .server → cfg.localBindHost ≠ none ∧ badPort cfg.localBindPort = false
  mode : cfg.mode ≠ none

/-- **Exactly the acceptable configurations are stored**, with a default for the FIFO. -/
theorem configure_eq_ok_iff (cfg : Config) {config : Config} :
    configure ⟨none, none⟩ cfg = .ok config ↔ cfg.Acceptable ∧ config =
      { cfg with rxFifoCapacity := if cfg.rxFifoCapacity ≤ 0 then 4096 else cfg.rxFifoCapacity } := by
  unfold configure
  split
  · next hmode =>
      split
      · next hhost =>
          refine ⟨fun h => (by cases h), fun h => absurd hhost (h.1.client hmode).1⟩
      · next host hhost =>
          split
          · next hport =>
              refine ⟨fun h => (by cases h), fun h => ?_⟩
              exact absurd hport (by rw [(h.1.client hmode).2]; exact Bool.false_ne_true)
          · next hport =>
              have hacceptable : cfg.Acceptable := by
                refine ⟨fun _ => ⟨by rw [hhost]; simp, Bool.eq_false_iff.2 hport⟩, ?_, ?_⟩
                · rw [hmode]
                  intro h
                  cases h
                · rw [hmode]
                  simp
              rw [storeConfig]
              dsimp only
              rw [Except.ok.injEq]
              exact ⟨fun h => ⟨hacceptable, h.symm⟩, fun h => h.2.symm⟩
  · next hmode =>
      split
      · next hhost =>
          refine ⟨fun h => (by cases h), fun h => absurd hhost (h.1.server hmode).1⟩
      · next host hhost =>
          split
          · next hport =>
              refine ⟨fun h => (by cases h), fun h => ?_⟩
              exact absurd hport (by rw [(h.1.server hmode).2]; exact Bool.false_ne_true)
          · next hport =>
              have hacceptable : cfg.Acceptable := by
                refine ⟨?_, fun _ => ⟨by rw [hhost]; simp, Bool.eq_false_iff.2 hport⟩, ?_⟩
                · rw [hmode]
                  intro h
                  cases h
                · rw [hmode]
                  simp
              rw [storeConfig]
              dsimp only
              rw [Except.ok.injEq]
              exact ⟨fun h => ⟨hacceptable, h.symm⟩, fun h => h.2.symm⟩
  · next hmode => exact ⟨fun h => (by cases h), fun h => absurd hmode h.1.mode⟩

/-- What was accepted passes the checks of attach. -/
theorem Config.Acceptable.endpointError {cfg config : Config} (h : cfg.Acceptable)
    (hmode : config.mode = cfg.mode) (hhost : config.remoteHost = cfg.remoteHost)
    (hremote : config.remotePort = cfg.remotePort) (hlocal : config.localBindPort = cfg.localBindPort) :
    endpointError config = none := by
  unfold DtioxLinuxTcp.endpointError
  rw [hmode, hhost, hremote, hlocal]
  cases hm : cfg.mode with
  | none => exact absurd hm h.mode
  | some mode =>
      cases mode with
      | client =>
          obtain ⟨hset, hport⟩ := h.client hm
          rw [if_pos rfl, if_neg]
          rintro (hnone | hbad)
          · exact hset hnone
          · rw [hport] at hbad
            cases hbad
      | server =>
          obtain ⟨-, hport⟩ := h.server hm
          rw [if_neg (by simp), hport]
          rfl

end DtioxLinuxTcp
