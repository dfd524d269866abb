import DtmcLinux.Posix.CString

set_option autoImplicit false

/-! # Command lines

`getopt_long` of the GNU C library, without the `flag` member of an option. The arguments that are no
options are skipped and, in the end, moved behind the others. Every way to write an option
(`Writes`) is read as this option, whatever follows (`getoptLong_writes`), and a loop that handles one
option after the other ends (`getoptLoop`). -/

namespace Posix

/-- One argument; the NUL byte at its end is left out. -/
abbrev Arg := List UInt8

/-- What the conversion `%s` makes of a text. -/
def printed (text : Arg) : String := String.ofList (text.map fun b => Char.ofNat b.toNat)

/-- What `vsnprintf` leaves in a buffer of `size` bytes. -/
def inBuffer (size : ℕ) (text : String) : String := String.ofList (text.toList.take (size - 1))

/-- `has_arg` of an option. -/
inductive HasArg where
  | no
  | required
  | optional
  deriving DecidableEq

/-- `struct option` -/
structure LongOption where
  name : Arg
  hasArg : HasArg
  val : UInt8
  deriving DecidableEq

/-- What the program passes to `getopt_long`, and whether `POSIXLY_CORRECT` is set. -/
structure Options where
  optstring : Arg
  longopts : List LongOption
  posixlyCorrect : Bool

/-- What a character of `optstring` says about the option it is. -/
def Options.short (o : Options) (c : UInt8) : Option HasArg :=
  if c = 58 ∨ c = 59 then none
  else
    match o.optstring.dropWhile (· ≠ c) with
    | [] => none
    | _ :: 58 :: 58 :: _ => some .optional
    | _ :: 58 :: _ => some .required
    | _ => some .no

/-- The option with a name, or the one option its name is short for. -/
def Options.long (o : Options) (name : Arg) : Option LongOption :=
  match o.longopts.find? (·.name = name) with
  | some opt => some opt
  | none =>
    match o.longopts.filter (name.isPrefixOf ·.name) with
    | [] => none
    | opt :: rest =>
      if rest.all fun other => other.hasArg = opt.hasArg ∧ other.val = opt.val then some opt else none

/-- The state of the scan: the arguments skipped, the characters left of an argument with several short
    options, and the arguments from `optind` on. -/
structure Getopt where
  skipped : List Arg
  nextchar : List UInt8
  args : List Arg
  deriving DecidableEq

/-- What `getopt_long` returns. -/
inductive OptResult where
  | option (val : UInt8) (optarg : Option Arg)
  /-- `'?'` -/
  | unknown
  /-- `-1` -/
  | done
  deriving DecidableEq

/-- The next short option, with `args` behind its argument. -/
def shortOption (o : Options) (skipped : List Arg) (c : UInt8) (nextchar : List UInt8)
    (args : List Arg) : OptResult × Getopt :=
  match o.short c with
  | none => (.unknown, ⟨skipped, nextchar, args⟩)
  | some .no => (.option c none, ⟨skipped, nextchar, args⟩)
  | some .optional =>
    (.option c (if nextchar = [] then none else some nextchar), ⟨skipped, [], args⟩)
  | some .required =>
    if nextchar = [] then
      match args with
      | [] => (.unknown, ⟨skipped, [], []⟩)
      | optarg :: args => (.option c (some optarg), ⟨skipped, [], args⟩)
    else (.option c (some nextchar), ⟨skipped, [], args⟩)

/-- The long option `text`, with `args` behind it. -/
def longOption (o : Options) (skipped : List Arg) (text : Arg) (args : List Arg) :
    OptResult × Getopt :=
  match o.long (text.takeWhile (· ≠ 61)) with
  | none => (.unknown, ⟨skipped, [], args⟩)
  | some opt =>
    match text.dropWhile (· ≠ 61), opt.hasArg with
    | [], .required =>
      match args with
      | [] => (.unknown, ⟨skipped, [], []⟩)
      | optarg :: args => (.option opt.val (some optarg), ⟨skipped, [], args⟩)
    | [], _ => (.option opt.val none, ⟨skipped, [], args⟩)
    | _ :: _, .no => (.unknown, ⟨skipped, [], args⟩)
    | _ :: optarg, _ => (.option opt.val (some optarg), ⟨skipped, [], args⟩)

/-- An argument that is no option: it does not begin with `-`, or is `-`. -/
def isNonoption : Arg → Bool
  | 45 :: _ :: _ => false
  | _ => true

/-- The first of the arguments that is looked at. -/
def nextArgument (o : Options) (skipped : List Arg) : List Arg → OptResult × Getopt
  | [] => (.done, ⟨skipped, [], []⟩)
  | [45, 45] :: args => (.done, ⟨skipped ++ args, [], []⟩)
  | (45 :: 45 :: text) :: args => longOption o skipped text args
  | (45 :: c :: nextchar) :: args => shortOption o skipped c nextchar args
  | arg :: args => (.done, ⟨skipped ++ arg :: args, [], []⟩)

/-- `getopt_long` -/
def getoptLong (o : Options) (s : Getopt) : OptResult × Getopt :=
  match s.nextchar with
  | c :: nextchar => shortOption o s.skipped c nextchar s.args
  | [] =>
    if o.posixlyCorrect then nextArgument o s.skipped s.args
    else
      nextArgument o (s.skipped ++ s.args.takeWhile isNonoption) (s.args.dropWhile isNonoption)

/-! ## The scan ends -/

/-- How long the arguments are, with the bytes that end them. -/
def argsLength : List Arg → ℕ
  | [] => 0
  | arg :: args => arg.length + 1 + argsLength args

/-- How much there is left to scan. -/
def Getopt.remaining (s : Getopt) : ℕ := s.nextchar.length + argsLength s.args

theorem argsLength_drop_le (args : List Arg) (n : ℕ) : argsLength (args.drop n) ≤ argsLength args := by
  induction args generalizing n with
  | nil => rw [List.drop_nil]
  | cons arg args ih =>
      cases n with
      | zero => exact Nat.le_refl _
      | succ n => exact Nat.le_trans (ih n) (Nat.le_add_left _ _)

theorem argsLength_dropWhile_le (p : Arg → Bool) (args : List Arg) :
    argsLength (args.dropWhile p) ≤ argsLength args := by
  induction args with
  | nil => exact Nat.le_refl _
  | cons arg args ih =>
      rw [List.dropWhile_cons]
      split
      · exact Nat.le_trans ih (Nat.le_add_left _ _)
      · exact Nat.le_refl _

theorem shortOption_remaining (o : Options) (skipped : List Arg) (c : UInt8) (nextchar : List UInt8)
    (args : List Arg) : (shortOption o skipped c nextchar args).2.remaining ≤
      nextchar.length + argsLength args := by
  unfold shortOption Getopt.remaining
  split
  · exact Nat.le_refl _
  · exact Nat.le_refl _
  · exact Nat.add_le_add_right (Nat.zero_le _) _
  · split
    · split
      · exact Nat.zero_le _
      · next optarg rest =>
          show 0 + argsLength rest ≤ nextchar.length + (optarg.length + 1 + argsLength rest)
          omega
    · exact Nat.add_le_add_right (Nat.zero_le _) _

theorem longOption_remaining (o : Options) (skipped : List Arg) (text : Arg) (args : List Arg) :
    (longOption o skipped text args).2.remaining ≤ argsLength args := by
  have hnone : ([] : List UInt8).length + argsLength args ≤ argsLength args := by
    rw [List.length_nil, Nat.zero_add]
  unfold longOption Getopt.remaining
  split
  · exact hnone
  · split
    · split
      · exact Nat.zero_le _
      · next optarg rest =>
          show 0 + argsLength rest ≤ optarg.length + 1 + argsLength rest
          omega
    · exact hnone
    · exact hnone
    · exact hnone

theorem nextArgument_remaining (o : Options) (skipped args : List Arg)
    (h : (nextArgument o skipped args).1 ≠ .done) :
    (nextArgument o skipped args).2.remaining < argsLength args := by
  unfold nextArgument at h ⊢
  split at h
  · exact absurd rfl h
  · exact absurd rfl h
  · next text args hne =>
      have hle := longOption_remaining o skipped text args
      rw [argsLength]
      omega
  · next c nextchar args _ _ =>
      have hle := shortOption_remaining o skipped c nextchar args
      rw [argsLength, List.length_cons, List.length_cons]
      omega
  · exact absurd rfl h

/-- Every call but the last one leaves less to scan. -/
theorem getoptLong_remaining (o : Options) (s : Getopt) (h : (getoptLong o s).1 ≠ .done) :
    (getoptLong o s).2.remaining < s.remaining := by
  unfold getoptLong at h ⊢
  split at h
  · next c nextchar hnext =>
      have hle := shortOption_remaining o s.skipped c nextchar s.args
      have hs : s.remaining = nextchar.length + 1 + argsLength s.args := by
        rw [Getopt.remaining, hnext, List.length_cons]
      omega
  · next hnext =>
      have hs : s.remaining = argsLength s.args := by
        rw [Getopt.remaining, hnext, List.length_nil, Nat.zero_add]
      split at h
      · next hstop =>
          rw [if_pos hstop, hs]
          exact nextArgument_remaining _ _ _ h
      · next hpermute =>
          rw [if_neg hpermute, hs]
          exact Nat.lt_of_lt_of_le (nextArgument_remaining _ _ _ h) (argsLength_dropWhile_le _ _)

/-! ## The loop -/

/-- What the body of the loop does with an option: it takes some more of the arguments, or returns. -/
inductive Handled (σ ρ : Type*) where
  | next (s : σ) (taken : ℕ)
  | ret (s : σ) (r : ρ)

/-- `while ((opt = getopt_long(..)) != -1) { .. }`: the value returned from inside the loop, or the
    arguments from `optind` on. -/
def getoptLoop {σ ρ : Type*} (o : Options)
    (handle : σ → OptResult → List Arg → Handled σ ρ) (cfg : σ) (s : Getopt) :
    σ × Except ρ (List Arg) :=
  if _hdone : (getoptLong o s).1 = .done then (cfg, .ok (getoptLong o s).2.skipped)
  else
    match handle cfg (getoptLong o s).1 (getoptLong o s).2.args with
    | .ret cfg r => (cfg, .error r)
    | .next cfg taken =>
      getoptLoop o handle cfg
        { (getoptLong o s).2 with args := (getoptLong o s).2.args.drop taken }
termination_by s.remaining
decreasing_by
  exact Nat.lt_of_le_of_lt (Nat.add_le_add_left (argsLength_drop_le _ _) _)
    (getoptLong_remaining o s _hdone)

/-- The start of the scan, behind the name of the program. -/
def Getopt.start (args : List Arg) : Getopt := ⟨[], [], args⟩

variable {σ ρ : Type*} {o : Options} {handle : σ → OptResult → List Arg → Handled σ ρ}

variable (handle) in
/-- **Loop rule.** What every option that is handled preserves holds in the end, and what is returned
    was returned for an option. -/
theorem getoptLoop_invariant {I : σ → Prop} {Q : σ → ρ → Prop}
    (hnext : ∀ cfg r args cfg' taken, I cfg → handle cfg r args = .next cfg' taken → I cfg')
    (hret : ∀ cfg r args cfg' x, I cfg → handle cfg r args = .ret cfg' x → Q cfg' x) (cfg : σ)
    (s : Getopt) (hcfg : I cfg) :
    (∀ x, (getoptLoop o handle cfg s).2 = .error x → Q (getoptLoop o handle cfg s).1 x) ∧
      ∀ rest, (getoptLoop o handle cfg s).2 = .ok rest → I (getoptLoop o handle cfg s).1 := by
  induction cfg, s using getoptLoop.induct o handle with
  | case1 cfg s hdone =>
      rw [getoptLoop, dif_pos hdone]
      exact ⟨fun x h => (by cases h), fun _ _ => hcfg⟩
  | case2 cfg s hdone cfg' r hhandle =>
      rw [getoptLoop, dif_neg hdone, hhandle]
      refine ⟨fun x h => ?_, fun rest h => (by cases h)⟩
      obtain rfl := Except.error.inj h
      exact hret _ _ _ _ _ hcfg hhandle
  | case3 cfg s hdone cfg' taken hhandle ih =>
      rw [getoptLoop, dif_neg hdone, hhandle]
      exact ih (hnext _ _ _ _ _ hcfg hhandle)

/-- What is returned from inside the loop was returned for an option. -/
theorem getoptLoop_returned {Q : σ → ρ → Prop}
    (hret : ∀ cfg r args cfg' x, handle cfg r args = .ret cfg' x → Q cfg' x) {cfg cfg' : σ}
    {s : Getopt} {x : ρ} (h : getoptLoop o handle cfg s = (cfg', .error x)) : Q cfg' x := by
  obtain ⟨hreturned, -⟩ := getoptLoop_invariant handle (o := o) (I := fun _ => True)
    (fun _ _ _ _ _ _ _ => trivial) (fun _ _ _ _ _ _ => hret _ _ _ _ _) cfg s trivial
  rw [h] at hreturned
  exact hreturned x rfl

/-! ## Writing options -/

/-- The ways to write the option `val` with its argument. -/
inductive Writes (o : Options) (val : UInt8) : Option Arg → List Arg → Prop where
  /-- `--name` -/
  | long (opt : LongOption) (name : Arg) (hopt : o.long name = some opt) (hval : opt.val = val)
      (harg : opt.hasArg ≠ .required) (hname : name ≠ []) (heq : 61 ∉ name) :
      Writes o val none [45 :: 45 :: name]
  /-- `--name=value` -/
  | longEq (opt : LongOption) (name value : Arg) (hopt : o.long name = some opt)
      (hval : opt.val = val) (harg : opt.hasArg ≠ .no) (heq : 61 ∉ name) :
      Writes o val (some value) [45 :: 45 :: (name ++ 61 :: value)]
  /-- `--name value` -/
  | longSeparate (opt : LongOption) (name value : Arg) (hopt : o.long name = some opt)
      (hval : opt.val = val) (harg : opt.hasArg = .required) (hname : name ≠ []) (heq : 61 ∉ name) :
      Writes o val (some value) [45 :: 45 :: name, value]
  /-- `-c` -/
  | short (harg : o.short val = some .no ∨ o.short val = some .optional) (hval : val ≠ 45) :
      Writes o val none [[45, val]]
  /-- `-cvalue` -/
  | shortAttached (value : Arg) (harg : o.short val = some .required ∨ o.short val = some .optional)
      (hval : val ≠ 45) (hvalue : value ≠ []) : Writes o val (some value) [45 :: val :: value]
  /-- `-c value` -/
  | shortSeparate (value : Arg) (harg : o.short val = some .required) (hval : val ≠ 45) :
      Writes o val (some value) [[45, val], value]

/-- What is written begins with an option. -/
theorem Writes.exists_cons {val : UInt8} {optarg : Option Arg} {args : List Arg}
    (h : Writes o val optarg args) : ∃ text more, args = (45 :: text) :: more := by
  cases h <;> exact ⟨_, _, rfl⟩

/-- The scan looks at an argument that is an option at once. -/
theorem getoptLong_start {arg : Arg} (harg : isNonoption arg = false) (rest : List Arg) :
    getoptLong o (.start (arg :: rest)) = nextArgument o [] (arg :: rest) := by
  have hfirst : ¬isNonoption arg = true := by
    rw [harg]
    exact Bool.false_ne_true
  rw [getoptLong, Getopt.start]
  dsimp only
  rw [List.takeWhile_cons_of_neg hfirst, List.dropWhile_cons_of_neg hfirst, List.append_nil, ite_self]

theorem nextArgument_long {text : Arg} (hne : text ≠ []) (skipped rest : List Arg) :
    nextArgument o skipped ((45 :: 45 :: text) :: rest) = longOption o skipped text rest := by
  cases text with
  | nil => exact absurd rfl hne
  | cons c text => rfl

theorem nextArgument_short {c : UInt8} (hc : c ≠ 45) (nextchar : List UInt8) (skipped rest : List Arg) :
    nextArgument o skipped ((45 :: c :: nextchar) :: rest) =
      shortOption o skipped c nextchar rest := by
  rw [nextArgument]
  · exact fun h _ => hc h
  · exact hc

theorem takeWhile_name {name : Arg} (heq : 61 ∉ name) :
    name.takeWhile (· ≠ 61) = name ∧ name.dropWhile (· ≠ 61) = [] := by
  have hall : ∀ b ∈ name, decide (b ≠ 61) = true := fun b hb => decide_eq_true fun h => heq (h ▸ hb)
  exact ⟨List.takeWhile_eq_self_iff.2 hall, List.dropWhile_eq_nil_iff.2 hall⟩

theorem takeWhile_name_value {name : Arg} (heq : 61 ∉ name) (value : Arg) :
    (name ++ 61 :: value).takeWhile (· ≠ 61) = name ∧
      (name ++ 61 :: value).dropWhile (· ≠ 61) = 61 :: value := by
  have hall : ∀ b ∈ name, decide (b ≠ 61) = true := fun b hb => decide_eq_true fun h => heq (h ▸ hb)
  constructor
  · rw [List.takeWhile_append_of_pos hall, List.takeWhile_cons_of_neg (by simp), List.append_nil]
  · rw [List.dropWhile_append_of_pos hall, List.dropWhile_cons_of_neg (by simp)]

/-- **An option is read as it was written**, whatever follows. -/
theorem getoptLong_writes {val : UInt8} {optarg : Option Arg} {args : List Arg}
    (h : Writes o val optarg args) (rest : List Arg) :
    getoptLong o (.start (args ++ rest)) = (.option val optarg, .start rest) := by
  cases h with
  | long opt name hopt hval harg hname heq =>
      obtain ⟨htake, hdrop⟩ := takeWhile_name heq
      rw [List.singleton_append, getoptLong_start rfl, nextArgument_long hname, longOption, htake, hopt,
        hdrop]
      dsimp only
      split
      · next hrequired => exact absurd hrequired harg
      · rw [hval]
        rfl
      · next hnil _ => cases hnil
      · next hnil _ => cases hnil
  | longEq opt name value hopt hval harg heq =>
      obtain ⟨htake, hdrop⟩ := takeWhile_name_value heq value
      rw [List.singleton_append, getoptLong_start rfl, nextArgument_long (by simp), longOption, htake,
        hopt, hdrop]
      dsimp only
      split
      · next hnil _ => cases hnil
      · next hnil _ => cases hnil
      · next hno => exact absurd hno harg
      · next hvalue _ =>
          obtain ⟨-, rfl⟩ := List.cons.inj hvalue
          rw [hval]
          rfl
  | longSeparate opt name value hopt hval harg hname heq =>
      obtain ⟨htake, hdrop⟩ := takeWhile_name heq
      rw [List.cons_append, List.singleton_append, getoptLong_start rfl, nextArgument_long hname,
        longOption, htake, hopt, hdrop]
      dsimp only
      rw [harg, hval]
      rfl
  | short harg hval =>
      rw [List.singleton_append, getoptLong_start rfl, nextArgument_short hval]
      unfold shortOption
      rcases harg with harg | harg <;> rw [harg] <;> rfl
  | shortAttached value harg hval hvalue =>
      rw [List.singleton_append, getoptLong_start rfl, nextArgument_short hval]
      unfold shortOption
      rcases harg with harg | harg
      · rw [harg]
        dsimp only
        rw [if_neg hvalue]
        rfl
      · rw [harg]
        dsimp only
        rw [if_neg hvalue]
        rfl
  | shortSeparate value harg hval =>
      rw [List.cons_append, List.singleton_append, getoptLong_start rfl, nextArgument_short hval]
      unfold shortOption
      rw [harg]
      rfl

/-- One turn of the loop, for an option that is written. -/
theorem getoptLoop_writes {val : UInt8} {optarg : Option Arg} {args : List Arg}
    (h : Writes o val optarg args) (cfg : σ) (rest : List Arg) :
    getoptLoop o handle cfg (.start (args ++ rest)) =
      match handle cfg (.option val optarg) rest with
      | .ret cfg r => (cfg, .error r)
      | .next cfg taken => getoptLoop o handle cfg (.start (rest.drop taken)) := by
  rw [getoptLoop, getoptLong_writes h]
  rfl

/-- Without arguments there is nothing to handle. -/
theorem getoptLoop_nil (cfg : σ) : getoptLoop o handle cfg (.start []) = (cfg, .ok []) := by
  have hdone : getoptLong o (.start []) = (.done, ⟨[], [], []⟩) := by
    rw [getoptLong, Getopt.start]
    dsimp only
    rw [List.takeWhile_nil, List.dropWhile_nil, List.append_nil, ite_self, nextArgument]
  rw [getoptLoop, hdone]
  rfl

/-- How a list of options is written, one after the other. -/
inductive WritesAll (o : Options) : List (UInt8 × Option Arg) → List Arg → Prop where
  | nil : WritesAll o [] []
  | cons {val : UInt8} {optarg : Option Arg} {args : List Arg} {opts : List (UInt8 × Option Arg)}
      {rest : List Arg} (hfirst : Writes o val optarg args) (hrest : WritesAll o opts rest) :
      WritesAll o ((val, optarg) :: opts) (args ++ rest)

variable (handle) in
/-- **Options that are all accepted** are handled in the order in which they are written. -/
theorem getoptLoop_writesAll {opts : List (UInt8 × Option Arg)} {args : List Arg}
    (h : WritesAll o opts args) {I : σ → List (UInt8 × Option Arg) → Prop}
    (haccept : ∀ cfg opt opts rest, I cfg (opt :: opts) →
      ∃ cfg', handle cfg (.option opt.1 opt.2) rest = .next cfg' 0 ∧ I cfg' opts)
    (cfg : σ) (hcfg : I cfg opts) :
    ∃ cfg', getoptLoop o handle cfg (.start args) = (cfg', .ok []) ∧ I cfg' [] := by
  induction h generalizing cfg with
  | nil => exact ⟨cfg, getoptLoop_nil cfg, hcfg⟩
  | cons hfirst hrest ih =>
      obtain ⟨cfg', hhandle, hnext⟩ := haccept cfg _ _ _ hcfg
      rw [getoptLoop_writes hfirst, hhandle]
      exact ih _ hnext

end Posix
