import DtmcLinux.Foundation.DescriptorTable
import DtmcLinux.Foundation.StepRun
import DtmcLinux.Posix.Socket

set_option autoImplicit false

/-! # The WebSocket backend

`dtiox_linux_websocket.c`: a server for one client at a time. Attach waits for a client, on the
listening socket it kept from the last attach if there is one, and does the handshake; write sends
one binary frame, and closes the client's socket when it fails. The results of the system calls and
of the handshake are arguments of the functions that make them. -/

namespace DtioxLinuxWebsocket

open Posix

/-- `dtiox_linux_websocket_config_t`. -/
structure Config where
  localBindHost : Option String
  localBindPort : ℤ
  keepalive : Bool
  tcpNodelay : Bool

/-- `dtiox_linux_websocket_t`. -/
structure Websocket where
  isMalloced : Bool
  config : Config
  listenFd : ℤ
  clientFd : ℤ
  isConnected : Bool
  writeEnabled : Bool

/-- What a socket of the object is: just created, listening, or connected to a client. -/
inductive SocketKind where
  | fresh
  | listening
  | connected
  deriving DecidableEq

/-- The object with the descriptors of the process and the bytes sent on each of them. `freed`
    says that dispose has freed the object; `writeReturns` records what the writes returned, the
    error and `*out_written`. -/
structure World where
  self : Websocket
  freed : Bool
  fds : DescriptorTable SocketKind
  wire : ℤ → List UInt8
  writeReturns : List (Option Dterr × Int32)

/-- More bytes on a descriptor. -/
def World.send (w : World) (fd : ℤ) (bytes : List UInt8) : World :=
  { w with wire := fun fd' => if fd' = fd then w.wire fd ++ bytes else w.wire fd' }

/-! ## Create, init, configure -/

/-- `dtiox_linux_websocket_init`. -/
def init : Websocket where
  isMalloced := false
  config := ⟨none, 0, false, false⟩
  listenFd := -1
  clientFd := -1
  isConnected := false
  writeEnabled := true

/-- `dtiox_linux_websocket_create`, when the allocation succeeds. -/
def create : Websocket := { init with isMalloced := true }

/-- `dtiox_linux_websocket_configure`. -/
def configure (self : Websocket) (cfg : Config) : Websocket × Option Dterr :=
  if cfg.localBindPort ≤ 0 ∨ cfg.localBindPort > 65535 then
    let host := cfg.localBindHost.getD "0.0.0.0"
    let port := cfg.localBindPort
    (self, some (.new .badarg s!"invalid websocket server config host {host} port {port}"))
  else
    ({ self with
        config := { cfg with localBindHost := some (cfg.localBindHost.getD "0.0.0.0") } }, none)

/-! ## Attach and detach -/

/-- A system call that succeeds (`none`) or fails with the given `strerror(errno)`. -/
abbrev Outcome := Option String

/-- One address of `getaddrinfo`: whether `socket` succeeds, `setsockopt(SO_REUSEADDR)`, and whether
    `bind` succeeds. -/
structure BindCalls where
  socket : Bool
  reuseaddr : Outcome
  bind : Bool

/-- What the calls of attach return. The handshake has sent the given bytes when it returns. -/
structure AttachCalls where
  getaddrinfo : Bool
  addresses : List BindCalls
  listen : Outcome
  accept : Outcome
  setKeepalive : Outcome
  setNodelay : Outcome
  handshakeSent : List UInt8
  handshake : Option Dterr

/-- `_set_socket_common_options`. -/
def setSocketCommonOptions (cfg : Config) (calls : AttachCalls) : Option Dterr :=
  match (if cfg.keepalive then calls.setKeepalive else none) with
  | some err =>
    some (.new .io s!"setsockopt(SO_KEEPALIVE) failed: {err}")
  | none =>
    match (if cfg.tcpNodelay then calls.setNodelay else none) with
    | some err => some (.new .io s!"setsockopt(TCP_NODELAY) failed: {err}")
    | none => none

/-- The loop over the addresses. It leaves in `listen_fd` the first socket that could be bound. -/
def bindFirst (fds : DescriptorTable SocketKind) :
    List BindCalls → DescriptorTable SocketKind × ℤ × Option Dterr
  | [] => (fds, -1, none)
  | rp :: rps =>
    if !rp.socket then
      bindFirst fds rps
    else
      let (fds, listenFd) := fds.create .fresh
      match rp.reuseaddr with
      | some err =>
        (fds, listenFd, some (.new .io s!"setsockopt(SO_REUSEADDR) failed: {err}"))
      | none =>
        if rp.bind then (fds, listenFd, none)
        else bindFirst (fds.closeIfOpen listenFd) rps

/-- `accept` on a listening socket: the new descriptor, and the options of the connection. An error
    goes on to `cleanup:` with the descriptors the variables `client_fd` and `listen_fd` hold. -/
def acceptClient (cfg : Config) (fds : DescriptorTable SocketKind) (calls : AttachCalls) :
    DescriptorTable SocketKind × ℤ × Option Dterr :=
  match calls.accept with
  | some err => (fds, -1, some (.new .io s!"accept() failed: {err}"))
  | none =>
    let (fds, clientFd) := fds.create .connected
    (fds, clientFd, setSocketCommonOptions cfg calls)

/-- `_bind_listen_accept`: the listening socket and the client's. -/
def bindListenAccept (self : Websocket) (fds : DescriptorTable SocketKind) (calls : AttachCalls) :
    DescriptorTable SocketKind × Except Dterr (ℤ × ℤ) :=
  let bindHost := self.config.localBindHost.getD "0.0.0.0"
  let port := self.config.localBindPort
  if port ≤ 0 ∨ port > 65535 then
    (fds, .error (.new .badarg "invalid websocket bind port"))
  else if self.listenFd ≥ 0 then
    match acceptClient self.config fds calls with
    | (fds, clientFd, some err) => (fds.closeIfOpen clientFd, .error err)
    | (fds, clientFd, none) => (fds, .ok (self.listenFd, clientFd))
  else if !calls.getaddrinfo then
    (fds, .error (.new .io s!"getaddrinfo({bindHost}:{port}) failed"))
  else
    match bindFirst fds calls.addresses with
    | (fds, listenFd, some err) => (fds.closeIfOpen listenFd, .error err)
    | (fds, listenFd, none) =>
      if listenFd < 0 then
        (fds, .error (.new .io s!"bind({bindHost}:{port}) failed"))
      else
        match calls.listen with
        | some err => (fds.closeIfOpen listenFd, .error (.new .io s!"listen() failed: {err}"))
        | none =>
          match acceptClient self.config (fds.become listenFd .listening) calls with
          | (fds, clientFd, some err) =>
            ((fds.closeIfOpen clientFd).closeIfOpen listenFd, .error err)
          | (fds, clientFd, none) => (fds, .ok (listenFd, clientFd))

/-- `dtiox_linux_websocket_attach`. -/
def attach (w : World) (calls : AttachCalls) : World × Option Dterr :=
  if w.self.clientFd ≥ 0 then
    (w, none)
  else
    match bindListenAccept w.self w.fds calls with
    | (fds, .error err) => ({ w with fds := fds }, some err)
    | (fds, .ok (listenFd, clientFd)) =>
      let w := { w with fds := fds }.send clientFd calls.handshakeSent
      match calls.handshake with
      | some err =>
        ({ w with fds := (fds.closeIfOpen clientFd).closeIfOpen listenFd }, some err)
      | none =>
        ({ w with self := { w.self with
            listenFd := listenFd, clientFd := clientFd, isConnected := true } }, none)

/-- `dtiox_linux_websocket_detach`. -/
def detach (w : World) : World :=
  { w with
    self := { w.self with isConnected := false, clientFd := -1, listenFd := -1 }
    fds := (w.fds.closeIfOpen w.self.clientFd).closeIfOpen w.self.listenFd }

/-- `dtiox_linux_websocket_enable`. -/
def enable (w : World) (enabled : Bool) : World :=
  { w with self := { w.self with writeEnabled := enabled } }

/-- `dtiox_linux_websocket_dispose`. -/
def dispose (w : World) : World :=
  { w with
    self := { w.self with clientFd := -1, listenFd := -1 }
    fds := (w.fds.closeIfOpen w.self.clientFd).closeIfOpen w.self.listenFd
    freed := w.self.isMalloced }

/-! ## Write -/

/-- `_send_all`. -/
def sendAll : List UInt8 → List SendResult → SendOutcome :=
  sendLoop (.new .io "send returned 0") fun strerror => .new .io s!"send failed: {strerror}"

/-- The header `_send_ws_binary_frame` builds. -/
def frameHeader (payloadLen : UInt64) : List UInt8 :=
  if payloadLen ≤ 125 then
    [0x82, payloadLen.toUInt8]
  else if payloadLen ≤ 0xFFFF then
    [0x82, 126, ((payloadLen >>> 8) &&& 0xFF).toUInt8, (payloadLen &&& 0xFF).toUInt8]
  else
    [0x82, 127, ((payloadLen >>> 56) &&& 0xFF).toUInt8, ((payloadLen >>> 48) &&& 0xFF).toUInt8,
      ((payloadLen >>> 40) &&& 0xFF).toUInt8, ((payloadLen >>> 32) &&& 0xFF).toUInt8,
      ((payloadLen >>> 24) &&& 0xFF).toUInt8, ((payloadLen >>> 16) &&& 0xFF).toUInt8,
      ((payloadLen >>> 8) &&& 0xFF).toUInt8, (payloadLen &&& 0xFF).toUInt8]

/-- `_send_ws_binary_frame`; `payload` is the memory from the pointer on. -/
def sendWsBinaryFrame (payload : List UInt8) (payloadLen : UInt64) (results : List SendResult) :
    SendOutcome :=
  (sendAll (frameHeader payloadLen) results).andThen fun results =>
    if payloadLen > 0 then sendAll (payload.take payloadLen.toNat) results
    else ⟨[], results, some none⟩

/-- What the calls of write return: the probe, `recv` with `MSG_PEEK`, and the sends. -/
structure WriteCalls where
  probe : ℤ
  sends : List SendResult

/-- The label `cleanup:` of write. -/
def writeCleanup (w : World) : Option Dterr → World × Option Dterr
  | none => (w, none)
  | some err =>
    ({ w with
        self := { w.self with isConnected := false, clientFd := -1 }
        fds := w.fds.closeIfOpen w.self.clientFd }, some (.rechain err "websocket write failed"))

/-- The part of write between the checks and `cleanup:`; `none` when it does not return. -/
def writeFrame (w : World) (buf : List UInt8) (len : Int32) (calls : WriteCalls) :
    Option (World × Option Dterr × Int32) :=
  if calls.probe ≥ 0 then
    some (w, some (.new .io "websocket peer closed"), 0)
  else
    let o := sendWsBinaryFrame buf len.toInt64.toUInt64 calls.sends
    match o.ret with
    | none => none
    | some (some err) => some (w.send w.self.clientFd o.bytes, some err, 0)
    | some none => some (w.send w.self.clientFd o.bytes, none, len)

/-- `dtiox_linux_websocket_write`: the error, and the value of `*out_written`. `buf` is the memory
    from the pointer on. -/
def write (w : World) (buf : List UInt8) (len : Int32) (calls : WriteCalls) :
    Option (World × Option Dterr × Int32) :=
  if !w.self.writeEnabled then
    some (w, none, 0)
  else if w.self.clientFd < 0 ∨ !w.self.isConnected then
    some (w, some (.new .io "websocket not attached"), 0)
  else
    (writeFrame w buf len calls).map fun (w, err, outWritten) =>
      let (w, err) := writeCleanup w err
      (w, err, outWritten)

/-! ## Runs -/

/-- A call on the object, with what its system calls return. -/
inductive Event where
  | attach (calls : AttachCalls)
  | detach
  | enable (enabled : Bool)
  | write (buf : List UInt8) (len : Int32) (calls : WriteCalls)
  | dispose

/-- One call; a freed object cannot be called, and `none` also stands for a call that does not
    return. -/
def step (w : World) (e : Event) : Option World :=
  if w.freed then none
  else
    match e with
    | .attach calls => some (attach w calls).1
    | .detach => some (detach w)
    | .enable enabled => some (enable w enabled)
    | .write buf len calls =>
      (write w buf len calls).map fun (w, err, outWritten) =>
        { w with writeReturns := w.writeReturns ++ [(err, outWritten)] }
    | .dispose => some (dispose w)

/-- An initialised and configured object. -/
def World.configured (cfg : Config) : World where
  self := (configure init cfg).1
  freed := false
  fds := .empty
  wire := fun _ => []
  writeReturns := []

end DtioxLinuxWebsocket
