import DtmcLinux.Apps.Arguments

set_option autoImplicit false

/-! # The command line of `svc_adcws`

`main_parse_args` of `src/apps/svc_adcws/src/parser.c`. Its options take optional arguments, which
`getopt_long` only finds in the same argument; `getopt_optional_arg` also takes the next one, and moves
`optind` past it. -/

namespace SvcAdcwsParser

open Posix Apps

/-! ## The parser -/

/-- `main_config_t`; the hosts are never `NULL`. -/
structure MainConfig where
  rxHost : Arg
  rxPort : ℤ
  txHost : Arg
  txPort : ℤ
  verbose : Bool
  helpRequested : Bool
  deriving DecidableEq

/-- `main_config_init` -/
def mainConfigInit : MainConfig where
  rxHost := ascii "localhost"
  rxPort := 14040
  txHost := ascii "0.0.0.0"
  txPort := 14090
  verbose := false
  helpRequested := false

/-- `validate_cfg` -/
def validateCfg (cfg : MainConfig) : Option Dterr :=
  if cfg.helpRequested then none
  else if cfg.rxHost = [] then some (.new .badarg "Invalid --rx-host value")
  else if cfg.rxPort ≤ 0 ∨ cfg.rxPort > 65535 then
    some (.new .badarg s!"Invalid --rx-port value: {cfg.rxPort}")
  else if cfg.txHost = [] then some (.new .badarg "Invalid --tx-host value")
  else if cfg.txPort ≤ 0 ∨ cfg.txPort > 65535 then
    some (.new .badarg s!"Invalid --tx-port value: {cfg.txPort}")
  else none

/-- `long_options` and the `optstring`. -/
def options (posixlyCorrect : Bool) : Options where
  optstring := ascii "r::p::t::q::vh"
  longopts := [⟨ascii "rx-host", .optional, 114⟩, ⟨ascii "rx-port", .optional, 112⟩,
    ⟨ascii "tx-host", .optional, 116⟩, ⟨ascii "tx-port", .optional, 113⟩,
    ⟨ascii "verbose", .no, 118⟩, ⟨ascii "help", .no, 104⟩]
  posixlyCorrect := posixlyCorrect

/-- `getopt_optional_arg`: the argument of the option, and by how much `optind` moves. -/
def getoptOptionalArg (optarg : Option Arg) (args : List Arg) : Option Arg × ℕ :=
  match optarg, args with
  | some optarg, _ => (some optarg, 0)
  | none, [] => (none, 0)
  | none, arg :: _ => if arg.head? ≠ some 45 then (some arg, 1) else (none, 0)

/-- A case of the `switch` for a host. -/
def setHost (cfg : MainConfig) (optarg : Option Arg) (args : List Arg) (set : Arg → MainConfig) :
    Handled MainConfig (Option Dterr) :=
  match getoptOptionalArg optarg args with
  | (some s, taken) => .next (set s) taken
  | (none, taken) => .next cfg taken

/-- A case for a port. -/
def setPort (cfg : MainConfig) (name : String) (optarg : Option Arg) (args : List Arg)
    (set : ℤ → MainConfig) : Handled MainConfig (Option Dterr) :=
  match getoptOptionalArg optarg args with
  | (some s, taken) =>
    match parseIntStrict s with
    | none => .ret cfg (some (failBadarg s!"Invalid --{name} value: {printed s}"))
    | some v => .next (set v) taken
  | (none, taken) => .next cfg taken

/-- The body of the loop of `main_parse_args`. -/
def handleOption (cfg : MainConfig) :
    OptResult → List Arg → Handled MainConfig (Option Dterr)
  | .option 114 optarg, args => setHost cfg optarg args fun s => { cfg with rxHost := s } -- r
  | .option 112 optarg, args => -- p
    setPort cfg "rx-port" optarg args fun v => { cfg with rxPort := v }
  | .option 116 optarg, args => setHost cfg optarg args fun s => { cfg with txHost := s } -- t
  | .option 113 optarg, args => -- q
    setPort cfg "tx-port" optarg args fun v => { cfg with txPort := v }
  | .option 118 _, _ => .next { cfg with verbose := true } 0 -- v
  | .option 104 _, _ => .ret { cfg with helpRequested := true } none -- h
  | .option val _, _ => .ret cfg (some (.new .badarg s!"Bad arguments {Char.ofNat val.toNat}"))
  | _, _ => .ret cfg (some (.new .badarg "Bad arguments ?"))

/-- `main_parse_args`, on the arguments behind the name of the program: `*cfg`, and the error. -/
def mainParseArgs (posixlyCorrect : Bool) (args : List Arg) : MainConfig × Option Dterr :=
  match getoptLoop (options posixlyCorrect) handleOption mainConfigInit (.start args) with
  | (cfg, .error dterr) => (cfg, dterr)
  | (cfg, .ok []) => (cfg, validateCfg cfg)
  | (cfg, .ok (arg :: _)) =>
    (cfg, some (failBadarg s!"Unexpected positional argument: {printed arg}"))

/-! ## What a command line says -/

/-- What `validate_cfg` asks of a configuration. -/
structure MainConfig.Valid (cfg : MainConfig) : Prop where
  rxHost : cfg.rxHost ≠ []
  rxPort : 0 < cfg.rxPort ∧ cfg.rxPort ≤ 65535
  txHost : cfg.txHost ≠ []
  txPort : 0 < cfg.txPort ∧ cfg.txPort ≤ 65535

/-- What an option says of a configuration. Without an argument it says nothing. -/
def MainConfig.Has (cfg : MainConfig) : UInt8 × Option Arg → Prop
  | (val, some s) =>
    val = 114 ∧ cfg.rxHost = s ∨ val = 112 ∧ parseIntStrict s = some cfg.rxPort ∨
      val = 116 ∧ cfg.txHost = s ∨ val = 113 ∧ parseIntStrict s = some cfg.txPort
  | (val, none) => val ∈ [114, 112, 116, 113] ∨ val = 118 ∧ cfg.verbose = true

/-- The option is among those given, with an argument if it takes one. -/
def seen (opts : List (UInt8 × Option Arg)) (val : UInt8) : Bool :=
  opts.any fun opt => opt.1 = val ∧ (opt.2.isSome ∨ val = 118)

/-- The members of `cfg` that the options set; the others have their defaults. -/
def MainConfig.given (cfg : MainConfig) (opts : List (UInt8 × Option Arg)) : MainConfig where
  rxHost := if seen opts 114 then cfg.rxHost else mainConfigInit.rxHost
  rxPort := if seen opts 112 then cfg.rxPort else mainConfigInit.rxPort
  txHost := if seen opts 116 then cfg.txHost else mainConfigInit.txHost
  txPort := if seen opts 113 then cfg.txPort else mainConfigInit.txPort
  verbose := if seen opts 118 then cfg.verbose else mainConfigInit.verbose
  helpRequested := mainConfigInit.helpRequested

/-- The options describe `cfg`: each says what `cfg` has, and what is not given has its default. -/
structure MainConfig.Describes (cfg : MainConfig) (opts : List (UInt8 × Option Arg)) : Prop where
  each : ∀ opt ∈ opts, cfg.Has opt
  rest : cfg.given opts = cfg

/-- How options are written: as `getopt_long` reads them, or with the argument behind the option if it
    does not begin with `-`. -/
inductive GivesAll (o : Options) : List (UInt8 × Option Arg) → List Arg → Prop where
  | nil : GivesAll o [] []
  | written {val : UInt8} {optarg : Option Arg} {args : List Arg}
      {opts : List (UInt8 × Option Arg)} {rest : List Arg} (hfirst : Writes o val optarg args)
      (hrest : GivesAll o opts rest) : GivesAll o ((val, optarg) :: opts) (args ++ rest)
  | separate {val : UInt8} {value : Arg} {args : List Arg} {opts : List (UInt8 × Option Arg)}
      {rest : List Arg} (hfirst : Writes o val none args) (hval : val ∈ [114, 112, 116, 113])
      (hvalue : value.head? ≠ some 45) (hrest : GivesAll o opts rest) :
      GivesAll o ((val, some value) :: opts) (args ++ value :: rest)

theorem validateCfg_eq_none_iff {cfg : MainConfig} (h : cfg.helpRequested = false) :
    validateCfg cfg = none ↔ cfg.Valid := by
  unfold validateCfg
  rw [if_neg (by rw [h]; exact Bool.false_ne_true)]
  constructor
  · intro hnone
    split_ifs at hnone with hrxHost hrxPort htxHost htxPort
    exact ⟨hrxHost, by omega, htxHost, by omega⟩
  · intro hvalid
    have hrxPort := hvalid.rxPort
    have htxPort := hvalid.txPort
    rw [if_neg hvalid.rxHost, if_neg (by omega), if_neg hvalid.txHost, if_neg (by omega)]

theorem GivesAll.head {o : Options} {opts : List (UInt8 × Option Arg)} {args : List Arg}
    (h : GivesAll o opts args) : args = [] ∨ ∃ text more, args = (45 :: text) :: more := by
  cases h with
  | nil => exact .inl rfl
  | written hfirst hrest =>
      obtain ⟨text, more, rfl⟩ := hfirst.exists_cons
      exact .inr ⟨text, _, rfl⟩
  | separate hfirst hval hvalue hrest =>
      obtain ⟨text, more, rfl⟩ := hfirst.exists_cons
      exact .inr ⟨text, _, rfl⟩

/-- An option without an argument takes none when another option follows. -/
theorem getoptOptionalArg_none {o : Options} {opts : List (UInt8 × Option Arg)} {args : List Arg}
    (h : GivesAll o opts args) : getoptOptionalArg none args = (none, 0) := by
  rcases h.head with rfl | ⟨text, more, rfl⟩
  · rfl
  · rw [getoptOptionalArg, List.head?_cons, if_neg (by simp)]

theorem getoptOptionalArg_separate {value : Arg} (h : value.head? ≠ some 45) (rest : List Arg) :
    getoptOptionalArg none (value :: rest) = (some value, 1) := if_pos h

theorem seen_append (opts : List (UInt8 × Option Arg)) (opt : UInt8 × Option Arg) (val : UInt8) :
    seen (opts ++ [opt]) val = (seen opts val || decide (opt.1 = val ∧ (opt.2.isSome ∨ val = 118))) := by
  rw [seen, List.any_append, List.any_cons, List.any_nil, Bool.or_false]
  rfl

/-- An option that takes an argument sets what the argument says. -/
theorem handleOption_some {cfg : MainConfig} (opts : List (UInt8 × Option Arg)) {val : UInt8}
    {optarg : Option Arg} {s : Arg} {args : List Arg} {taken : ℕ}
    (hget : getoptOptionalArg optarg args = (some s, taken)) (hopt : cfg.Has (val, some s)) :
    handleOption (cfg.given opts) (.option val optarg) args =
      .next (cfg.given (opts ++ [(val, some s)])) taken := by
  rcases hopt with ⟨rfl, rfl⟩ | ⟨rfl, hport⟩ | ⟨rfl, rfl⟩ | ⟨rfl, hport⟩
  · simp [handleOption, setHost, hget, MainConfig.given, seen_append]
  · simp [handleOption, setPort, hget, hport, MainConfig.given, seen_append]
  · simp [handleOption, setHost, hget, MainConfig.given, seen_append]
  · simp [handleOption, setPort, hget, hport, MainConfig.given, seen_append]

/-- Without its argument it sets nothing. -/
theorem handleOption_none (cfg : MainConfig) (opts : List (UInt8 × Option Arg)) {val : UInt8}
    (hval : val ∈ [114, 112, 116, 113]) {args : List Arg} {taken : ℕ}
    (hget : getoptOptionalArg none args = (none, taken)) :
    handleOption (cfg.given opts) (.option val none) args =
      .next (cfg.given (opts ++ [(val, none)])) taken := by
  simp only [List.mem_cons, List.not_mem_nil, or_false] at hval
  rcases hval with rfl | rfl | rfl | rfl
  · simp [handleOption, setHost, hget, MainConfig.given, seen_append]
  · simp [handleOption, setPort, hget, MainConfig.given, seen_append]
  · simp [handleOption, setHost, hget, MainConfig.given, seen_append]
  · simp [handleOption, setPort, hget, MainConfig.given, seen_append]

theorem handleOption_verbose {cfg : MainConfig} (opts : List (UInt8 × Option Arg))
    (hverbose : cfg.verbose = true) (args : List Arg) :
    handleOption (cfg.given opts) (.option 118 none) args =
      .next (cfg.given (opts ++ [(118, none)])) 0 := by
  simp [handleOption, MainConfig.given, seen_append, hverbose]

/-- The loop, from what was given before. -/
theorem getoptLoop_givesAll {posixlyCorrect : Bool} {cfg : MainConfig}
    {opts : List (UInt8 × Option Arg)} {args : List Arg}
    (h : GivesAll (options posixlyCorrect) opts args) (heach : ∀ opt ∈ opts, cfg.Has opt)
    (done : List (UInt8 × Option Arg)) :
    getoptLoop (options posixlyCorrect) handleOption (cfg.given done) (.start args) =
      (cfg.given (done ++ opts), .ok []) := by
  induction h generalizing done with
  | nil => rw [List.append_nil, getoptLoop_nil]
  | @written val optarg args opts rest hfirst hrest ih =>
      have hopt := heach (val, optarg) List.mem_cons_self
      have hhandle : handleOption (cfg.given done) (.option val optarg) rest =
          .next (cfg.given (done ++ [(val, optarg)])) 0 := by
        cases optarg with
        | some s => exact handleOption_some done rfl hopt
        | none =>
            rcases hopt with hval | ⟨rfl, hverbose⟩
            · exact handleOption_none cfg done hval (getoptOptionalArg_none hrest)
            · exact handleOption_verbose done hverbose rest
      rw [getoptLoop_writes hfirst, hhandle]
      have hmore := ih (fun opt hmem => heach opt (List.mem_cons_of_mem _ hmem)) (done ++ [(val, optarg)])
      rw [List.append_assoc] at hmore
      exact hmore
  | @separate val value args opts rest hfirst hval hvalue hrest ih =>
      have hopt := heach (val, some value) List.mem_cons_self
      rw [getoptLoop_writes hfirst,
        handleOption_some done (getoptOptionalArg_separate hvalue rest) hopt]
      have hmore := ih (fun opt hmem => heach opt (List.mem_cons_of_mem _ hmem))
        (done ++ [(val, some value)])
      rw [List.append_assoc] at hmore
      exact hmore

/-- Only help ends the loop without an error. -/
theorem handleOption_ret {cfg cfg' : MainConfig} {r : OptResult} {args : List Arg}
    (h : handleOption cfg r args = .ret cfg' none) : cfg'.helpRequested = true := by
  have hhost : ∀ optarg set, setHost cfg optarg args set ≠ .ret cfg' none := by
    intro optarg set hret
    unfold setHost at hret
    split at hret <;> cases hret
  have hport : ∀ name optarg set, setPort cfg name optarg args set ≠ .ret cfg' none := by
    intro name optarg set hret
    unfold setPort at hret
    split at hret
    · split at hret <;> cases hret
    · cases hret
  unfold handleOption at h
  split at h
  all_goals first
    | exact absurd h (hhost _ _)
    | exact absurd h (hport _ _ _)
    | (cases h; rfl)
    | cases h

/-- A command line that is accepted, and does not ask for help, gives a valid configuration. -/
theorem valid_of_mainParseArgs {posixlyCorrect : Bool} {args : List Arg} {cfg : MainConfig}
    (h : mainParseArgs posixlyCorrect args = (cfg, none)) (hhelp : cfg.helpRequested = false) :
    cfg.Valid := by
  unfold mainParseArgs at h
  split at h
  · next cfg' dterr hloop =>
      obtain ⟨rfl, rfl⟩ := Prod.mk.inj h
      -- only help returns from inside the loop without an error
      have htrue := getoptLoop_returned
        (Q := fun cfg dterr => dterr = none → cfg.helpRequested = true)
        (fun _ _ _ _ _ hret hnone => handleOption_ret (hnone ▸ hret)) hloop rfl
      exact absurd (hhelp.symm.trans htrue) Bool.false_ne_true
  · next cfg' hloop =>
      obtain ⟨rfl, hvalidate⟩ := Prod.mk.inj h
      exact (validateCfg_eq_none_iff hhelp).1 hvalidate
  · cases (Prod.mk.inj h).2

/-- The options for every member. -/
def MainConfig.options (cfg : MainConfig) : List (UInt8 × Option Arg) :=
  [(114, some cfg.rxHost), (112, some (Decimal.numeral cfg.rxPort.toNat)), (116, some cfg.txHost),
    (113, some (Decimal.numeral cfg.txPort.toNat))] ++ if cfg.verbose then [(118, none)] else []

theorem parseIntStrict_port {port : ℤ} (h : 0 < port ∧ port ≤ 65535) :
    parseIntStrict (Decimal.numeral port.toNat) = some port := by
  rw [parseIntStrict_numeral (by omega), Int.toNat_of_nonneg (by omega)]

theorem MainConfig.Valid.describes {cfg : MainConfig} (h : cfg.Valid)
    (hhelp : cfg.helpRequested = false) : cfg.Describes cfg.options := by
  constructor
  · intro opt hopt
    rcases List.mem_append.1 hopt with hopt | hopt
    · simp only [List.mem_cons, List.not_mem_nil, or_false] at hopt
      rcases hopt with rfl | rfl | rfl | rfl
      · exact .inl ⟨rfl, rfl⟩
      · exact .inr (.inl ⟨rfl, parseIntStrict_port h.rxPort⟩)
      · exact .inr (.inr (.inl ⟨rfl, rfl⟩))
      · exact .inr (.inr (.inr ⟨rfl, parseIntStrict_port h.txPort⟩))
    · split at hopt
      · next hverbose =>
          obtain rfl := List.mem_singleton.1 hopt
          exact .inr ⟨rfl, hverbose⟩
      · cases hopt
  · obtain ⟨rxHost, rxPort, txHost, txPort, verbose, helpRequested⟩ := cfg
    obtain rfl : helpRequested = false := hhelp
    cases verbose <;> rfl

/-- Every list of options that take their arguments can be written with `=`. -/
theorem MainConfig.exists_givesAll (posixlyCorrect : Bool) (cfg : MainConfig) :
    ∃ args, GivesAll (SvcAdcwsParser.options posixlyCorrect) cfg.options args := by
  have hlong : ∀ (name : Arg) (val : UInt8) (value : Arg),
      (SvcAdcwsParser.options posixlyCorrect).long name = some ⟨name, .optional, val⟩ → 61 ∉ name →
      Writes (SvcAdcwsParser.options posixlyCorrect) val (some value)
        [45 :: 45 :: (name ++ 61 :: value)] := fun name val value hname heq =>
    .longEq ⟨name, .optional, val⟩ name value hname rfl (by simp) heq
  have hverbose : ∃ args, GivesAll (SvcAdcwsParser.options posixlyCorrect)
      (if cfg.verbose then [(118, none)] else []) args := by
    split
    · exact ⟨_, .written (.short (by cases posixlyCorrect <;> decide +kernel) (by decide)) .nil⟩
    · exact ⟨[], .nil⟩
  obtain ⟨args, hargs⟩ := hverbose
  exact ⟨_, .written (hlong (ascii "rx-host") 114 _ rfl (by decide +kernel))
    (.written (hlong (ascii "rx-port") 112 _ rfl (by decide +kernel))
      (.written (hlong (ascii "tx-host") 116 _ rfl (by decide +kernel))
        (.written (hlong (ascii "tx-port") 113 _ rfl (by decide +kernel)) hargs)))⟩

/-- Options that describe a valid configuration are accepted. -/
theorem MainConfig.Valid.parsed {posixlyCorrect : Bool} {cfg : MainConfig} (hvalid : cfg.Valid)
    {opts : List (UInt8 × Option Arg)} (hdescribes : cfg.Describes opts) {args : List Arg}
    (hgives : GivesAll (SvcAdcwsParser.options posixlyCorrect) opts args) :
    mainParseArgs posixlyCorrect args = (cfg, none) := by
  have hhelp : cfg.helpRequested = false := by
    rw [← hdescribes.rest]
    rfl
  have hloop := getoptLoop_givesAll hgives hdescribes.each []
  have hinit : cfg.given [] = mainConfigInit := rfl
  rw [hinit, List.nil_append, hdescribes.rest] at hloop
  rw [mainParseArgs, hloop]
  dsimp only
  rw [(validateCfg_eq_none_iff hhelp).2 hvalid]

/-- **The command line and the configuration.** For every configuration without a request for help:
    there is a command line that is accepted and yields it exactly if both hosts are not empty and both
    ports are between 1 and 65535; and then every list of options that describes it, in any order and
    with repetitions, written in any way, behind the option or, where it does not begin with `-`, as an
    argument of its own, is accepted and yields it. -/
theorem svc_main_parse_args_exact (posixlyCorrect : Bool) (cfg : MainConfig)
    (hhelp : cfg.helpRequested = false) :
    ((∃ args, mainParseArgs posixlyCorrect args = (cfg, none)) ↔ cfg.Valid) ∧
      ∀ opts args, cfg.Valid → cfg.Describes opts → GivesAll (options posixlyCorrect) opts args →
        mainParseArgs posixlyCorrect args = (cfg, none) := by
  refine ⟨⟨?_, fun hvalid => ?_⟩, fun opts args hvalid hdescribes hgives =>
    hvalid.parsed hdescribes hgives⟩
  · rintro ⟨args, h⟩
    exact valid_of_mainParseArgs h hhelp
  · obtain ⟨args, hgives⟩ := MainConfig.exists_givesAll posixlyCorrect cfg
    exact ⟨args, hvalid.parsed (hvalid.describes hhelp) hgives⟩

/-- `-r host --tx-port=1 -v --rx-host`: the last one keeps the host. -/
theorem svc_main_parse_args_exact_separate :
    mainParseArgs false [ascii "-r", ascii "host", ascii "--tx-port=1", ascii "-v",
      ascii "--rx-host"] =
        ({ mainConfigInit with rxHost := ascii "host", txPort := 1, verbose := true }, none) := by
  refine (svc_main_parse_args_exact false
    { mainConfigInit with rxHost := ascii "host", txPort := 1, verbose := true } rfl).2
    [(114, some (ascii "host")), (113, some (ascii "1")), (118, none), (114, none)] _
    ⟨by decide +kernel, by decide, by decide +kernel, by decide⟩ ⟨?_, by decide +kernel⟩ ?_
  · intro opt hopt
    simp only [List.mem_cons, List.not_mem_nil, or_false] at hopt
    rcases hopt with rfl | rfl | rfl | rfl
    · exact .inl ⟨rfl, rfl⟩
    · exact .inr (.inr (.inr ⟨rfl, by decide +kernel⟩))
    · exact .inr ⟨rfl, rfl⟩
    · exact .inl (by decide)
  · refine .separate (.short ?_ ?_) ?_ ?_
      (.written (.longEq ⟨ascii "tx-port", .optional, 113⟩ (ascii "tx-port") _ ?_ rfl ?_ ?_)
        (.written (.short ?_ ?_)
          (.written (.long ⟨ascii "rx-host", .optional, 114⟩ (ascii "rx-host") ?_ rfl ?_ ?_ ?_) .nil)))
    all_goals decide +kernel

end SvcAdcwsParser
