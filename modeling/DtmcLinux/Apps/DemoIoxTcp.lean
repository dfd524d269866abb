import DtmcLinux.Apps.Arguments
import DtmcLinux.Dtiox.TcpConfigure

set_option autoImplicit false

/-! # The command line of `demo_iox_tcp`

`main_parse_args` and `main_build_tcp_config` of `src/apps/demo_iox_tcp/src/parser.c`. Every
configuration that `validate_cfg` lets through can be given on the command line, in any order of the
options and any way of writing them (`main_parse_args_reads`). Not every command line that is accepted
leads to a configuration that `dtiox_linux_tcp_configure` accepts: a slave without a host does not,
though the usage text calls the host optional (`main_parse_args_configures`). -/

namespace DemoIoxTcp

open Posix Apps

/-! ## The parser -/

/-- `main_mode_t` -/
inductive MainMode where
  | none
  | tcpMaster
  | tcpSlave
  deriving DecidableEq

/-- `main_config_t` -/
structure MainConfig where
  mode : MainMode
  host : Option Arg
  port : ℤ
  tcpNodelay : Bool
  keepalive : Bool
  rxFifoCapacity : ℤ
  connectTimeoutMs : ℤ
  acceptTimeoutMs : ℤ
  messageCount : ℤ
  payloadSize : ℤ
  helpRequested : Bool
  deriving DecidableEq

/-- `main_config_init` -/
def mainConfigInit : MainConfig where
  mode := .none
  host := none
  port := 1502
  tcpNodelay := false
  keepalive := false
  rxFifoCapacity := 4096
  connectTimeoutMs := 0
  acceptTimeoutMs := 0
  messageCount := 1000
  payloadSize := 16
  helpRequested := false

/-- `set_mode_once` -/
def setModeOnce (cfg : MainConfig) (mode : MainMode) : Except Dterr MainConfig :=
  if cfg.mode ≠ .none then
    .error (failBadarg "Multiple modes specified (choose one of --tcp-master, --tcp-slave)")
  else .ok { cfg with mode := mode }

/-- `validate_cfg` -/
def validateCfg (cfg : MainConfig) : Option Dterr :=
  if cfg.helpRequested then none
  else if cfg.mode = .none then
    some (.new .badarg "Missing mode: specify exactly one of --tcp-master or --tcp-slave")
  else if cfg.port ≤ 0 ∨ cfg.port > 65535 then
    some (failRange s!"Invalid port {cfg.port} (expected 1..65535)")
  else if cfg.mode = .tcpMaster ∧ (cfg.host = none ∨ cfg.host = some []) then
    some (.new .badarg "--tcp-master requires --host <addr>")
  else if cfg.rxFifoCapacity ≤ 0 then
    some (failRange s!"Invalid rx-fifo-capacity {cfg.rxFifoCapacity} (expected > 0)")
  else if cfg.connectTimeoutMs < 0 then
    some (failRange s!"Invalid connect-timeout-ms {cfg.connectTimeoutMs} (expected >= 0)")
  else if cfg.acceptTimeoutMs < 0 then
    some (failRange s!"Invalid accept-timeout-ms {cfg.acceptTimeoutMs} (expected >= 0)")
  else if cfg.messageCount < 0 then
    some (failRange s!"Invalid message-count {cfg.messageCount} (expected >= 0)")
  else if cfg.payloadSize < 0 then
    some (failRange s!"Invalid payload-size {cfg.payloadSize} (expected >= 0)")
  else none

/-- `long_options` and the `optstring`. -/
def options (posixlyCorrect : Bool) : Options where
  optstring := ascii "msH:i:p:nkf:x:a:c:b:h"
  longopts := [⟨ascii "tcp-master", .no, 109⟩, ⟨ascii "tcp-slave", .no, 115⟩,
    ⟨ascii "host", .required, 72⟩, ⟨ascii "ip", .required, 105⟩, ⟨ascii "port", .required, 112⟩,
    ⟨ascii "tcp-nodelay", .no, 110⟩, ⟨ascii "keepalive", .no, 107⟩,
    ⟨ascii "rx-fifo-capacity", .required, 102⟩, ⟨ascii "connect-timeout-ms", .required, 120⟩,
    ⟨ascii "accept-timeout-ms", .required, 97⟩, ⟨ascii "message-count", .required, 99⟩,
    ⟨ascii "payload-size", .required, 98⟩, ⟨ascii "help", .no, 104⟩]
  posixlyCorrect := posixlyCorrect

/-- A case of the `switch` for a number. -/
def setNumber (cfg : MainConfig) (name : String) (optarg : Option Arg) (set : ℤ → MainConfig) :
    Handled MainConfig (Option Dterr) :=
  match parseIntStrict (optarg.getD []) with
  | none => .ret cfg (some (failBadarg s!"Invalid --{name} value: {printed (optarg.getD [])}"))
  | some v => .next (set v) 0

/-- A case for a number that must not be negative. -/
def setCount (cfg : MainConfig) (name : String) (optarg : Option Arg) (set : ℤ → MainConfig) :
    Handled MainConfig (Option Dterr) :=
  match parseIntStrict (optarg.getD []) with
  | none => .ret cfg (some (failBadarg s!"Invalid --{name} value: {printed (optarg.getD [])}"))
  | some v =>
    if v < 0 then .ret cfg (some (failRange s!"Invalid {name} {v} (expected >= 0)"))
    else .next (set v) 0

/-- A case for a mode. -/
def setMode (cfg : MainConfig) (mode : MainMode) : Handled MainConfig (Option Dterr) :=
  match setModeOnce cfg mode with
  | .error dterr => .ret cfg (some dterr)
  | .ok cfg => .next cfg 0

/-- The body of the loop of `main_parse_args`. -/
def handleOption (cfg : MainConfig) : OptResult → List Arg → Handled MainConfig (Option Dterr)
  | .option 109 _, _ => setMode cfg .tcpMaster -- m
  | .option 115 _, _ => setMode cfg .tcpSlave -- s
  | .option 72 optarg, _ => .next { cfg with host := optarg } 0 -- H
  | .option 105 optarg, _ => .next { cfg with host := optarg } 0 -- i
  | .option 112 optarg, _ => setNumber cfg "port" optarg fun v => { cfg with port := v } -- p
  | .option 110 _, _ => .next { cfg with tcpNodelay := true } 0 -- n
  | .option 107 _, _ => .next { cfg with keepalive := true } 0 -- k
  | .option 102 optarg, _ => -- f
    setNumber cfg "rx-fifo-capacity" optarg fun v => { cfg with rxFifoCapacity := v }
  | .option 120 optarg, _ => -- x
    setNumber cfg "connect-timeout-ms" optarg fun v => { cfg with connectTimeoutMs := v }
  | .option 97 optarg, _ => -- a
    setNumber cfg "accept-timeout-ms" optarg fun v => { cfg with acceptTimeoutMs := v }
  | .option 99 optarg, _ => -- c
    setCount cfg "message-count" optarg fun v => { cfg with messageCount := v }
  | .option 98 optarg, _ => -- b
    setCount cfg "payload-size" optarg fun v => { cfg with payloadSize := v }
  | .option 104 _, _ => .ret { cfg with helpRequested := true } none -- h
  | _, _ => .ret cfg (some (.new .badarg "Bad arguments"))

/-- `main_parse_args`, on the arguments behind the name of the program: `*cfg`, and the error. -/
def mainParseArgs (posixlyCorrect : Bool) (args : List Arg) : MainConfig × Option Dterr :=
  match getoptLoop (options posixlyCorrect) handleOption mainConfigInit (.start args) with
  | (cfg, .error dterr) => (cfg, dterr)
  | (cfg, .ok []) => (cfg, validateCfg cfg)
  | (cfg, .ok (arg :: _)) =>
    (cfg, some (failBadarg s!"Unexpected positional argument: {printed arg}"))

/-- `main_build_tcp_config` -/
def mainBuildTcpConfig (cfg : MainConfig) : Except Dterr DtioxLinuxTcp.Config :=
  let tcpCfg : DtioxLinuxTcp.Config :=
    { mode := some .client
      remoteHost := none
      remotePort := 0
      localBindHost := none
      localBindPort := 0
      rxFifoCapacity := cfg.rxFifoCapacity
      tcpNodelay := cfg.tcpNodelay
      keepalive := cfg.keepalive
      connectTimeoutMs := cfg.connectTimeoutMs
      acceptTimeoutMs := cfg.acceptTimeoutMs }
  match cfg.mode with
  | .tcpMaster =>
    .ok { tcpCfg with mode := some .client, remoteHost := cfg.host, remotePort := cfg.port }
  | .tcpSlave =>
    .ok { tcpCfg with mode := some .server, localBindHost := cfg.host, localBindPort := cfg.port }
  | .none =>
    .error (.new .badarg "main_build_tcp_config requires MAIN_MODE_TCP_MASTER or MAIN_MODE_TCP_SLAVE")

/-! ## What a command line says -/

/-- What `validate_cfg` asks of a configuration. -/
structure MainConfig.Valid (cfg : MainConfig) : Prop where
  mode : cfg.mode ≠ .none
  port : 0 < cfg.port ∧ cfg.port ≤ 65535
  host : cfg.mode = .tcpMaster → cfg.host ≠ none ∧ cfg.host ≠ some []
  rxFifoCapacity : 0 < cfg.rxFifoCapacity
  connectTimeoutMs : 0 ≤ cfg.connectTimeoutMs
  acceptTimeoutMs : 0 ≤ cfg.acceptTimeoutMs
  messageCount : 0 ≤ cfg.messageCount
  payloadSize : 0 ≤ cfg.payloadSize

/-- What an option with its argument says of a configuration. -/
def MainConfig.Has (cfg : MainConfig) : UInt8 × Option Arg → Prop
  | (109, _) => cfg.mode = .tcpMaster
  | (115, _) => cfg.mode = .tcpSlave
  | (72, optarg) => cfg.host = optarg
  | (105, optarg) => cfg.host = optarg
  | (112, optarg) => parseIntStrict (optarg.getD []) = some cfg.port
  | (110, _) => cfg.tcpNodelay = true
  | (107, _) => cfg.keepalive = true
  | (102, optarg) => parseIntStrict (optarg.getD []) = some cfg.rxFifoCapacity
  | (120, optarg) => parseIntStrict (optarg.getD []) = some cfg.connectTimeoutMs
  | (97, optarg) => parseIntStrict (optarg.getD []) = some cfg.acceptTimeoutMs
  | (99, optarg) => parseIntStrict (optarg.getD []) = some cfg.messageCount
  | (98, optarg) => parseIntStrict (optarg.getD []) = some cfg.payloadSize
  | _ => False

/-- One of the options is among those given. -/
def seen (opts : List (UInt8 × Option Arg)) (vals : List UInt8) : Bool :=
  opts.any fun opt => decide (opt.1 ∈ vals)

/-- The members of `cfg` that the options set; the others have their defaults. -/
def MainConfig.given (cfg : MainConfig) (opts : List (UInt8 × Option Arg)) : MainConfig where
  mode := if seen opts [109, 115] then cfg.mode else mainConfigInit.mode
  host := if seen opts [72, 105] then cfg.host else mainConfigInit.host
  port := if seen opts [112] then cfg.port else mainConfigInit.port
  tcpNodelay := if seen opts [110] then cfg.tcpNodelay else mainConfigInit.tcpNodelay
  keepalive := if seen opts [107] then cfg.keepalive else mainConfigInit.keepalive
  rxFifoCapacity := if seen opts [102] then cfg.rxFifoCapacity else mainConfigInit.rxFifoCapacity
  connectTimeoutMs :=
    if seen opts [120] then cfg.connectTimeoutMs else mainConfigInit.connectTimeoutMs
  acceptTimeoutMs := if seen opts [97] then cfg.acceptTimeoutMs else mainConfigInit.acceptTimeoutMs
  messageCount := if seen opts [99] then cfg.messageCount else mainConfigInit.messageCount
  payloadSize := if seen opts [98] then cfg.payloadSize else mainConfigInit.payloadSize
  helpRequested := mainConfigInit.helpRequested

/-- The options describe `cfg`: each says what `cfg` has, the mode is given once, and what is not given
    has its default. -/
structure MainConfig.Describes (cfg : MainConfig) (opts : List (UInt8 × Option Arg)) : Prop where
  each : ∀ opt ∈ opts, cfg.Has opt
  mode : (opts.filter fun opt => decide (opt.1 ∈ [109, 115])).length = 1
  rest : cfg.given opts = cfg

theorem validateCfg_eq_none_iff {cfg : MainConfig} (h : cfg.helpRequested = false) :
    validateCfg cfg = none ↔ cfg.Valid := by
  unfold validateCfg
  rw [if_neg (by rw [h]; exact Bool.false_ne_true)]
  constructor
  · intro hnone
    split_ifs at hnone with hmode hport hhost hfifo hconnect haccept hcount hsize
    refine ⟨hmode, by omega, fun hmaster => ?_, by omega, by omega, by omega, by omega, by omega⟩
    exact not_or.1 fun hbad => hhost ⟨hmaster, hbad⟩
  · intro hvalid
    have hport := hvalid.port
    have hfifo := hvalid.rxFifoCapacity
    have hconnect := hvalid.connectTimeoutMs
    have haccept := hvalid.acceptTimeoutMs
    have hcount := hvalid.messageCount
    have hsize := hvalid.payloadSize
    have hhost : ¬(cfg.mode = .tcpMaster ∧ (cfg.host = none ∨ cfg.host = some [])) := fun hbad =>
      not_or.2 (hvalid.host hbad.1) hbad.2
    rw [if_neg hvalid.mode, if_neg (by omega), if_neg hhost, if_neg (by omega), if_neg (by omega),
      if_neg (by omega), if_neg (by omega), if_neg (by omega)]

theorem seen_append (opts : List (UInt8 × Option Arg)) (opt : UInt8 × Option Arg)
    (vals : List UInt8) :
    seen (opts ++ [opt]) vals = (seen opts vals || decide (opt.1 ∈ vals)) := by
  rw [seen, List.any_append, List.any_cons, List.any_nil, Bool.or_false]
  rfl

/-- An option that says what the configuration has is handled by setting what it says. -/
theorem handleOption_given {cfg : MainConfig} (hvalid : cfg.Valid)
    {opts : List (UInt8 × Option Arg)} {opt : UInt8 × Option Arg} (hopt : cfg.Has opt)
    (hmode : opt.1 ∈ [109, 115] → seen opts [109, 115] = false) (rest : List Arg) :
    handleOption (cfg.given opts) (.option opt.1 opt.2) rest =
      .next (cfg.given (opts ++ [opt])) 0 := by
  obtain ⟨val, optarg⟩ := opt
  have hcount : ¬cfg.messageCount < 0 := Int.not_lt.2 hvalid.messageCount
  have hsize : ¬cfg.payloadSize < 0 := Int.not_lt.2 hvalid.payloadSize
  unfold MainConfig.Has at hopt
  -- one case for each option: it sets its member, and `given` has that member from now on
  split at hopt <;> try (rename_i h; obtain ⟨rfl, rfl⟩ := Prod.mk.inj h)
  · have hnone := hmode List.mem_cons_self
    simp only [handleOption, setMode, setModeOnce, MainConfig.given, seen_append, hnone]
    simp [hopt, mainConfigInit]
  · have hnone := hmode (List.mem_cons_of_mem _ List.mem_cons_self)
    simp only [handleOption, setMode, setModeOnce, MainConfig.given, seen_append, hnone]
    simp [hopt, mainConfigInit]
  · simp only [handleOption, MainConfig.given, seen_append]
    simp [hopt, mainConfigInit]
  · simp only [handleOption, MainConfig.given, seen_append]
    simp [hopt, mainConfigInit]
  · simp only [handleOption, setNumber, hopt, MainConfig.given, seen_append]
    simp [mainConfigInit]
  · simp only [handleOption, MainConfig.given, seen_append]
    simp [hopt, mainConfigInit]
  · simp only [handleOption, MainConfig.given, seen_append]
    simp [hopt, mainConfigInit]
  · simp only [handleOption, setNumber, hopt, MainConfig.given, seen_append]
    simp [mainConfigInit]
  · simp only [handleOption, setNumber, hopt, MainConfig.given, seen_append]
    simp [mainConfigInit]
  · simp only [handleOption, setNumber, hopt, MainConfig.given, seen_append]
    simp [mainConfigInit]
  · simp only [handleOption, setCount, hopt, if_neg hcount, MainConfig.given, seen_append]
    simp [mainConfigInit]
  · simp only [handleOption, setCount, hopt, if_neg hsize, MainConfig.given, seen_append]
    simp [mainConfigInit]
  · exact hopt.elim

/-- **Every configuration can be written on the command line.** For every configuration that is valid,
    every list of options that describes it, in any order and with repetitions, and every way to write
    each of them, `main_parse_args` succeeds and yields this configuration. -/
theorem main_parse_args_reads (posixlyCorrect : Bool) (cfg : MainConfig) (hvalid : cfg.Valid)
    (opts : List (UInt8 × Option Arg)) (hdescribes : cfg.Describes opts) (args : List Arg)
    (hwritten : WritesAll (options posixlyCorrect) opts args) :
    mainParseArgs posixlyCorrect args = (cfg, none) := by
  obtain ⟨cfg', hloop, done, hdone, hgiven⟩ := getoptLoop_writesAll handleOption hwritten
    (I := fun cfg' rest => ∃ done, done ++ rest = opts ∧ cfg' = cfg.given done) (by
      rintro cfg' opt rest more ⟨done, rfl, rfl⟩
      refine ⟨cfg.given (done ++ [opt]), ?_, done ++ [opt], by rw [List.append_assoc]; rfl, rfl⟩
      refine handleOption_given hvalid (hdescribes.each opt (by simp)) (fun hmem => ?_) more
      -- the mode is given by this option, so by none before
      have honce := hdescribes.mode
      rw [List.filter_append, List.filter_cons, if_pos (decide_eq_true hmem), List.length_append,
        List.length_cons] at honce
      have hnone : done.filter (fun opt => decide (opt.1 ∈ [109, 115])) = [] :=
        List.length_eq_zero_iff.1 (by omega)
      rw [seen, List.any_eq_false]
      exact fun other hother => List.filter_eq_nil_iff.1 hnone other hother)
    mainConfigInit ⟨[], rfl, rfl⟩
  rw [List.append_nil] at hdone
  rw [hdone, hdescribes.rest] at hgiven
  have hhelp : cfg.helpRequested = false := by
    rw [← hdescribes.rest]
    rfl
  rw [mainParseArgs, hloop, hgiven]
  dsimp only
  rw [(validateCfg_eq_none_iff hhelp).2 hvalid]

/-- A client that writes its options in four ways. -/
def clientConfig : MainConfig :=
  { mainConfigInit with
    mode := .tcpMaster, host := some (ascii "-h"), port := 80, keepalive := true, payloadSize := 0 }

theorem main_parse_args_reads_client :
    mainParseArgs false
      [ascii "--port", ascii "080", ascii "-k", ascii "--host=-h", ascii "-b0", ascii "--tcp-m"] =
        (clientConfig, none) := by
  have hvalid : clientConfig.Valid :=
    ⟨by decide, by decide, fun _ => by decide, by decide, by decide, by decide, by decide, by decide⟩
  refine main_parse_args_reads false clientConfig hvalid
    [(112, some (ascii "080")), (107, none), (72, some (ascii "-h")), (98, some (ascii "0")),
      (109, none)] ⟨?_, by decide, by decide⟩ _ ?_
  · intro opt hopt
    simp only [List.mem_cons, List.not_mem_nil, or_false] at hopt
    rcases hopt with rfl | rfl | rfl | rfl | rfl
    · exact (by decide +kernel : parseIntStrict (ascii "080") = some 80)
    · rfl
    · rfl
    · exact (by decide +kernel : parseIntStrict (ascii "0") = some 0)
    · rfl
  · refine .cons (.longSeparate ⟨ascii "port", .required, 112⟩ (ascii "port") _ ?_ rfl rfl ?_ ?_)
      (.cons (.short ?_ ?_) (.cons (.longEq ⟨ascii "host", .required, 72⟩ (ascii "host") _ ?_ rfl ?_ ?_)
        (.cons (.shortAttached _ ?_ ?_ ?_)
          (.cons (.long ⟨ascii "tcp-master", .no, 109⟩ (ascii "tcp-m") ?_ rfl ?_ ?_ ?_) .nil))))
    all_goals decide +kernel

/-! ## What an accepted command line leads to -/

/-- Only help ends the loop without an error. -/
theorem handleOption_ret {cfg cfg' : MainConfig} {r : OptResult} {args : List Arg}
    (h : handleOption cfg r args = .ret cfg' none) : cfg'.helpRequested = true := by
  have hmode : ∀ mode, setMode cfg mode ≠ .ret cfg' none := by
    intro mode hret
    unfold setMode at hret
    split at hret <;> cases hret
  have hnumber : ∀ name optarg set, setNumber cfg name optarg set ≠ .ret cfg' none := by
    intro name optarg set hret
    unfold setNumber at hret
    split at hret <;> cases hret
  have hcount : ∀ name optarg set, setCount cfg name optarg set ≠ .ret cfg' none := by
    intro name optarg set hret
    unfold setCount at hret
    split at hret
    · cases hret
    · split at hret <;> cases hret
  unfold handleOption at h
  split at h
  all_goals first
    | exact absurd h (hmode _)
    | exact absurd h (hnumber _ _ _)
    | exact absurd h (hcount _ _ _)
    | (cases h; rfl)
    | cases h

/-- A command line that is accepted, and does not ask for help, gives a valid configuration. -/
theorem valid_of_mainParseArgs {posixlyCorrect : Bool} {args : List Arg} {cfg : MainConfig}
    (h : mainParseArgs posixlyCorrect args = (cfg, none)) (hhelp : cfg.helpRequested = false) :
    cfg.Valid := by
  unfold mainParseArgs at h
  split at h
  · next cfg' dterr hloop =>
      obtain ⟨rfl, rfl⟩ := Prod.mk.inj h
      -- only help returns from inside the loop without an error
      have htrue := getoptLoop_returned
        (Q := fun cfg dterr => dterr = none → cfg.helpRequested = true)
        (fun _ _ _ _ _ hret hnone => handleOption_ret (hnone ▸ hret)) hloop rfl
      exact absurd (hhelp.symm.trans htrue) Bool.false_ne_true
  · next cfg' hloop =>
      obtain ⟨rfl, hvalidate⟩ := Prod.mk.inj h
      exact (validateCfg_eq_none_iff hhelp).1 hvalidate
  · cases (Prod.mk.inj h).2

/-- **From the command line to the object.** For every command line: if `main_parse_args` accepts it
    and it does not ask for help, `main_build_tcp_config` succeeds, and `dtiox_linux_tcp_configure`
    (when it gets its memory) accepts the result exactly if the program is to be the master or was given
    a host; it then stores every member as it was given, and the checks of attach pass. -/
theorem main_parse_args_configures (posixlyCorrect : Bool) (args : List Arg) (cfg : MainConfig)
    (h : mainParseArgs posixlyCorrect args = (cfg, none)) (hhelp : cfg.helpRequested = false) :
    ∃ tcpCfg, mainBuildTcpConfig cfg = .ok tcpCfg ∧
      ((∃ config, DtioxLinuxTcp.configure ⟨none, none⟩ tcpCfg = .ok config) ↔
        cfg.mode = .tcpMaster ∨ cfg.host ≠ none) ∧
      ∀ config, DtioxLinuxTcp.configure ⟨none, none⟩ tcpCfg = .ok config →
        config = tcpCfg ∧ DtioxLinuxTcp.endpointError config = none := by
  have hvalid := valid_of_mainParseArgs h hhelp
  have hport : DtioxLinuxTcp.badPort cfg.port = false := by
    have := hvalid.port
    unfold DtioxLinuxTcp.badPort
    rw [Bool.or_eq_false_iff, decide_eq_false_iff_not, decide_eq_false_iff_not]
    omega
  have hstored : ∀ {tcpCfg config : DtioxLinuxTcp.Config},
      tcpCfg.rxFifoCapacity = cfg.rxFifoCapacity →
      DtioxLinuxTcp.configure ⟨none, none⟩ tcpCfg = .ok config →
      config = tcpCfg ∧ DtioxLinuxTcp.endpointError config = none := by
    intro tcpCfg config hfifo hok
    obtain ⟨hacceptable, hconfig⟩ := (DtioxLinuxTcp.configure_eq_ok_iff tcpCfg).1 hok
    have hcapacity := hvalid.rxFifoCapacity
    rw [if_neg (by omega)] at hconfig
    obtain rfl : config = tcpCfg := hconfig
    exact ⟨rfl, hacceptable.endpointError rfl rfl rfl rfl⟩
  have hiff : ∀ {tcpCfg : DtioxLinuxTcp.Config} {P : Prop}, (tcpCfg.Acceptable ↔ P) →
      ((∃ config, DtioxLinuxTcp.configure ⟨none, none⟩ tcpCfg = .ok config) ↔ P) := by
    intro tcpCfg P hP
    rw [← hP]
    constructor
    · rintro ⟨config, hok⟩
      exact ((DtioxLinuxTcp.configure_eq_ok_iff tcpCfg).1 hok).1
    · exact fun hacceptable => ⟨_, (DtioxLinuxTcp.configure_eq_ok_iff tcpCfg).2 ⟨hacceptable, rfl⟩⟩
  unfold mainBuildTcpConfig
  cases hmode : cfg.mode with
  | none => exact absurd hmode hvalid.mode
  | tcpMaster =>
      refine ⟨_, rfl, hiff ⟨fun _ => .inl rfl, fun _ => ?_⟩, fun config => hstored rfl⟩
      exact ⟨fun _ => ⟨(hvalid.host hmode).1, hport⟩, fun h => (by cases h), fun h => (by cases h)⟩
  | tcpSlave =>
      refine ⟨_, rfl, hiff ⟨fun hacceptable => ?_, fun hhost => ?_⟩, fun config => hstored rfl⟩
      · exact .inr (hacceptable.server rfl).1
      · have hgiven : cfg.host ≠ none := hhost.resolve_left fun h => by cases h
        exact ⟨fun h => (by cases h), fun _ => ⟨hgiven, hport⟩, fun h => (by cases h)⟩

/-- A slave without a host is accepted by the parser, and refused by the object. -/
theorem main_parse_args_configures_slave :
    ∃ tcpCfg, mainBuildTcpConfig { mainConfigInit with mode := .tcpSlave } = .ok tcpCfg ∧
      ¬∃ config, DtioxLinuxTcp.configure ⟨none, none⟩ tcpCfg = .ok config := by
  -- `-s`
  have hparsed : mainParseArgs false [[45, 115]] =
      ({ mainConfigInit with mode := .tcpSlave }, none) := by
    have hwrites : Writes (options false) 115 none [[45, 115]] :=
      .short (by decide +kernel) (by decide)
    have hloop : getoptLoop (options false) handleOption _ (.start ([[45, 115]] ++ [])) = _ :=
      getoptLoop_writes hwrites mainConfigInit []
    have hhandle : handleOption mainConfigInit (.option 115 none) [] =
        .next { mainConfigInit with mode := .tcpSlave } 0 := rfl
    rw [mainParseArgs, ← List.append_nil [[45, 115]], hloop, hhandle]
    dsimp only
    rw [List.drop_nil, getoptLoop_nil]
    rfl
  obtain ⟨tcpCfg, hbuild, hiff, -⟩ := main_parse_args_configures false _ _ hparsed rfl
  exact ⟨tcpCfg, hbuild, fun h => (hiff.1 h).elim (by decide) (by decide)⟩

end DemoIoxTcp
