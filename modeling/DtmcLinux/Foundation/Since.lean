import Mathlib.Data.List.Basic

set_option autoImplicit false

/-! # Since

Logs are kept with the newest entry first. `since mark p log` tells whether an entry that satisfies
`p` is newer than every entry that satisfies `mark`. -/

namespace Since

variable {α : Type*} {mark p : α → Bool}

/-- Some entry that satisfies `p` has been made since the last `mark`. -/
def since (mark p : α → Bool) : List α → Bool
  | [] => false
  | a :: log => !mark a && (p a || since mark p log)

theorem since_mark {a : α} {log : List α} (h : mark a = true) :
    since mark p (a :: log) = false := by
  rw [since, h]
  rfl

theorem since_new {a : α} {log : List α} (hm : mark a = false) (hp : p a = true) :
    since mark p (a :: log) = true := by
  rw [since, hm, hp]
  rfl

theorem since_other {a : α} {log : List α} (hm : mark a = false) (hp : p a = false) :
    since mark p (a :: log) = since mark p log := by
  rw [since, hm, hp]
  exact Bool.true_and _

/-- What has been made since the last `mark` stays so until the next one. -/
theorem since_cons {a : α} {log : List α} (hm : mark a = false) (h : since mark p log = true) :
    since mark p (a :: log) = true := by
  rw [since, hm, h, Bool.or_true]
  rfl

end Since
