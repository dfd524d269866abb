import Mathlib.Data.List.Basic

set_option autoImplicit false

/-! # Errors

The functions of the library return `NULL` or a chain of error objects, each with a code and a
formatted message, the newest first. `Option Dterr` models the returned pointer. -/

/-- The error codes the library uses. -/
inductive DterrCode where
  | fail
  | io
  | state
  | badarg
  | timeout
  | overflow
  | nomem
  | busy
  | notfound
  | range
  | notimpl
  | os
  | internal
  deriving DecidableEq

/-- An error object. -/
inductive Dterr where
  /-- `dterr_new(code, DTERR_LOC, NULL, message)` -/
  | new (code : DterrCode) (message : String)
  /-- `dterr_new(code, DTERR_LOC, inner, message)` -/
  | chain (code : DterrCode) (inner : Dterr) (message : String)
  /-- `dterr_new(inner->error_code, DTERR_LOC, inner, message)` -/
  | rechain (inner : Dterr) (message : String)
  /-- what `DTERR_ASSERT_NOT_NULL(name)` creates when `name` is `NULL` -/
  | assertNotNull (name : String)
  deriving DecidableEq

/-- `dterr_new(code, DTERR_LOC, inner, message)` where `inner` may be `NULL`. -/
def Dterr.wrap (code : DterrCode) (inner : Option Dterr) (message : String) : Dterr :=
  match inner with
  | none => .new code message
  | some inner => .chain code inner message

/-- `dterr_append`: put `tail` at the old end of the chain. -/
def Dterr.append : Dterr → Dterr → Dterr
  | .new code message, tail => .chain code tail message
  | .chain code inner message, tail => .chain code (inner.append tail) message
  | .rechain inner message, tail => .rechain (inner.append tail) message
  | .assertNotNull name, _ => .assertNotNull name

/-- `dterr_append` with arguments that may be `NULL`. -/
def Dterr.appendTo (dterr tail : Option Dterr) : Option Dterr :=
  match dterr, tail with
  | none, tail => tail
  | some dterr, none => some dterr
  | some dterr, some tail => some (dterr.append tail)

/-- `dterr->error_code`; the code the assertion macro gives is defined elsewhere. -/
def Dterr.errorCode : Dterr → Option DterrCode
  | .new code _ => some code
  | .chain code _ _ => some code
  | .rechain inner _ => inner.errorCode
  | .assertNotNull _ => none
