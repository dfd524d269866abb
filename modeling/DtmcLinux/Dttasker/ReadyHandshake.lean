import DtmcLinux.Dttasker.Steps

set_option autoImplicit false

/-! # The ready handshake

Each start clears `ready_posted`, and a thread posts the ready semaphore only after setting it, so
the semaphore holds at most one token: that of the thread the pending start has created. When no
start is pending there is none, and a start that succeeds has taken the token of its own thread.

The flag is set before the post, with the lock released in between: `ready_posted` tells that a post
has been made or is about to be made. -/

namespace Dttasker

open Posix Since

/-! ## What is read off the log -/

namespace Happening

/-- A start has cleared the flags. -/
def isReset : Happening → Bool
  | .reset => true
  | _ => false

/-- Somebody has posted the ready semaphore. -/
def isPosted : Happening → Bool
  | .posted _ => true
  | _ => false

/-- Thread `n` has a reason to release the start: it has called `dttasker_ready`, or its entry
    function has ended with an error. -/
def isReason (n : ℕ) : Happening → Bool
  | .readied m => m == n
  | .finished m (some _) => m == n
  | _ => false

end Happening

/-- Somebody has posted the ready semaphore since the latest start cleared `ready_posted`. -/
def postedSinceReset (log : List Happening) : Bool := since (·.isReset) (·.isPosted) log

/-- Thread `n` has had a reason to release its start. -/
def hasReason (n : ℕ) (log : List Happening) : Bool := log.any (·.isReason n)

/-- The threads whose posts the ready semaphore holds, oldest first: a post adds one, and a start
    that returns success takes the first. -/
def tokens : List Happening → List ℕ
  | [] => []
  | .posted n :: log => tokens log ++ [n]
  | .startReturned _ _ _ none :: log => (tokens log).tail
  | _ :: log => tokens log

/-- Every start that has returned success has taken the post of the thread it created itself, which
    had a reason to make it. -/
def OwnReleases : List Happening → Prop
  | [] => True
  | .startReturned n _ _ none :: log =>
    (∃ m, n = some m ∧ tokens log = [m] ∧ hasReason m log = true) ∧ OwnReleases log
  | _ :: log => OwnReleases log

/-- The thread has set `ready_posted` and not yet posted. -/
def Thread.IsPosting : Thread → Prop
  | .readyPosting => True
  | .exitPosting => True
  | _ => False

/-- The thread is on its way to a post. -/
def Thread.OnTheWay : Thread → Prop
  | .readyOnce => True
  | .readyPosting => True
  | .exitOnce => True
  | .exitPosting => True
  | _ => False

/-- The handshake: no token is left when no start is between `pthread_create` and its return;
    `ready_posted` is set exactly when a post has been made since the latest start cleared it or is
    about to be made; and every start has been released by its own thread. -/
structure ReadyHandshake (s : State) : Prop where
  quiet : (∀ n before, ¬s.caller.InStart n before) → s.self.readySemaphore.count = 0
  flag : s.self.readyPosted = true ↔
    postedSinceReset s.log = true ∨ ∃ n, (s.threads n).IsPosting
  releases : OwnReleases s.log

/-! ## The invariant -/

/-- What every run keeps about the flag, the semaphore and the threads. -/
structure Handshake (s : State) : Prop where
  cap : s.self.readySemaphore.maxCount = 2147483647
  count : s.self.readySemaphore.count.toNat = (tokens s.log).length
  token : tokens s.log = [] ∨ ∃ n before, s.caller.InStart n before ∧ tokens s.log = [n] ∧
    postedSinceReset s.log = true
  flag : s.self.readyPosted = true ↔
    postedSinceReset s.log = true ∨ ∃ n, (s.threads n).IsPosting
  posting : ∀ n, (s.threads n).IsPosting → tokens s.log = [] ∧ ∃ before, s.caller.InStart n before
  creating : ∀ before, s.caller = .creating before → s.self.readyPosted = false
  returned : ∀ n, (s.threads n).Alive → (∀ before, ¬s.caller.InStart n before) →
    s.self.readyPosted = true
  reason : ∀ n, n ∈ tokens s.log ∨ (s.threads n).OnTheWay → hasReason n s.log = true
  releases : OwnReleases s.log

theorem Handshake.readyHandshake {s : State} (h : Handshake s) : ReadyHandshake s where
  quiet := by
    intro hquiet
    have hcount := h.count
    rcases h.token with hnil | ⟨n, before, hstart, -, -⟩
    · rw [hnil] at hcount
      exact UInt32.toNat_inj.1 hcount
    · exact absurd hstart (hquiet n before)
  flag := h.flag
  releases := h.releases

theorem handshake_initial (PTHREAD_STACK_MIN : Int32) (config : Config) :
    Handshake (State.initial (created PTHREAD_STACK_MIN config)) where
  cap := rfl
  count := rfl
  token := Or.inl rfl
  flag := by simp [State.initial, created, postedSinceReset, since, Thread.IsPosting]
  posting n h := absurd h id
  creating before h := absurd h (by simp [State.initial])
  returned n h := absurd rfl h.1
  reason n h := by
    rcases h with h | h
    · exact absurd h (by simp [State.initial, tokens])
    · exact absurd h id
  releases := trivial

theorem Caller.InStart.unique {c : Caller} {n m : ℕ} {b b' : Flags} (h : c.InStart n b)
    (h' : c.InStart m b') : n = m ∧ b = b' := by
  rcases h with rfl | rfl
  · exact inStart_created.1 h'
  · exact inStart_waiting.1 h'

/-! ## Steps that leave the handshake alone -/

/-- Entries that change neither the tokens nor the posts, and are no reset. -/
def Happening.isQuiet : Happening → Bool
  | .reset => false
  | .posted _ => false
  | .startReturned _ _ _ none => false
  | _ => true

/-- The log has grown by quiet entries. -/
structure Quiet (log log' : List Happening) : Prop where
  tokens : tokens log' = tokens log
  posts : postedSinceReset log' = postedSinceReset log
  reasons : ∀ n, hasReason n log = true → hasReason n log' = true
  releases : OwnReleases log → OwnReleases log'

theorem Quiet.refl (log : List Happening) : Quiet log log := ⟨rfl, rfl, fun _ h => h, id⟩

theorem Quiet.cons {h : Happening} (hq : h.isQuiet = true) (log : List Happening) :
    Quiet log (h :: log) where
  tokens := by
    cases h with
    | startReturned n b a dterr => cases dterr <;> simp_all [Happening.isQuiet, Dttasker.tokens]
    | _ => simp_all [Happening.isQuiet, Dttasker.tokens]
  posts := by
    refine since_other ?_ ?_
    · cases h <;> simp_all [Happening.isQuiet, Happening.isReset]
    · cases h <;> simp_all [Happening.isQuiet, Happening.isPosted]
  reasons n hr := by
    rw [hasReason, List.any_cons, Bool.or_eq_true]
    exact Or.inr hr
  releases hr := by
    cases h with
    | startReturned n b a dterr =>
        cases dterr with
        | none => exact absurd hq (by simp [Happening.isQuiet])
        | some e => exact hr
    | _ => exact hr

/-- A step that leaves the semaphore, the flag and the posting threads alone. -/
theorem Handshake.frame {s s' : State} (h : Handshake s) (hlog : Quiet s.log s'.log)
    (hposting : ∀ n, (s'.threads n).IsPosting ↔ (s.threads n).IsPosting)
    (halive : ∀ n, (s'.threads n).Alive → (s.threads n).Alive)
    (hway : ∀ n, (s'.threads n).OnTheWay → hasReason n s'.log = true)
    (hstart : ∀ n b, s'.caller.InStart n b ↔ s.caller.InStart n b)
    (hcreating : ∀ b, s'.caller = .creating b → s.caller = .creating b)
    (hsem : s'.self.readySemaphore = s.self.readySemaphore := by rfl)
    (hflag : s'.self.readyPosted = s.self.readyPosted := by rfl) : Handshake s' where
  cap := by rw [hsem]; exact h.cap
  count := by rw [hsem, hlog.tokens]; exact h.count
  token := by
    rw [hlog.tokens, hlog.posts]
    rcases h.token with hnil | ⟨n, b, hs, ht⟩
    · exact Or.inl hnil
    · exact Or.inr ⟨n, b, (hstart n b).2 hs, ht⟩
  flag := by
    rw [hflag, hlog.posts, h.flag]
    simp only [hposting]
  posting n hn := by
    obtain ⟨hnil, b, hs⟩ := h.posting n ((hposting n).1 hn)
    rw [hlog.tokens]
    exact ⟨hnil, b, (hstart n b).2 hs⟩
  creating b hb := by rw [hflag]; exact h.creating b (hcreating b hb)
  returned n hn hs := by
    rw [hflag]
    exact h.returned n (halive n hn) fun b hb => hs b ((hstart n b).2 hb)
  reason n hn := by
    rcases hn with hn | hn
    · rw [hlog.tokens] at hn
      exact hlog.reasons n (h.reason n (Or.inl hn))
    · exact hway n hn
  releases := hlog.releases h.releases

/-- The frame of a step of the controlling thread that is not part of the wait. -/
theorem Handshake.moveCaller {s s' : State} (h : Handshake s) (hlog : Quiet s.log s'.log)
    (hstart : ∀ n b, s'.caller.InStart n b ↔ s.caller.InStart n b)
    (hcreating : ∀ b, s'.caller = .creating b → s.caller = .creating b)
    (hthreads : s'.threads = s.threads := by rfl)
    (hsem : s'.self.readySemaphore = s.self.readySemaphore := by rfl)
    (hflag : s'.self.readyPosted = s.self.readyPosted := by rfl) : Handshake s' := by
  refine h.frame hlog (fun n => by rw [hthreads]) (fun n hn => by rwa [hthreads] at hn)
    (fun n hn => ?_) hstart hcreating hsem hflag
  rw [hthreads] at hn
  exact hlog.reasons n (h.reason n (Or.inr hn))

/-- The frame of a step of a thread that does not start or end posting. -/
theorem Handshake.moveThread {s s' : State} (h : Handshake s) (n : ℕ) (th : Thread)
    (hlog : Quiet s.log s'.log) (hold : ¬(s.threads n).IsPosting) (hnew : ¬th.IsPosting)
    (halive : (s.threads n).Alive) (hway : th.OnTheWay → hasReason n s'.log = true)
    (hthreads : s'.threads = (s.setThread n th).threads := by rfl)
    (hcaller : s'.caller = s.caller := by rfl)
    (hsem : s'.self.readySemaphore = s.self.readySemaphore := by rfl)
    (hflag : s'.self.readyPosted = s.self.readyPosted := by rfl) : Handshake s' := by
  refine h.frame hlog (fun m => ?_) (fun m hm => ?_) (fun m hm => ?_)
    (fun _ _ => by rw [hcaller]) (fun _ hc => hcaller ▸ hc) hsem hflag
  · rw [hthreads]
    by_cases heq : m = n
    · rw [heq, setThread_self]
      exact ⟨fun hp => absurd hp hnew, fun hp => absurd hp hold⟩
    · rw [setThread_of_ne s th heq]
  · by_cases heq : m = n
    · rw [heq]
      exact halive
    · rwa [hthreads, setThread_of_ne s th heq] at hm
  · rw [hthreads] at hm
    by_cases heq : m = n
    · rw [heq, setThread_self] at hm
      rw [heq]
      exact hway hm
    · rw [setThread_of_ne s th heq] at hm
      exact hlog.reasons m (h.reason m (Or.inr hm))

/-! ## One step -/

theorem Handshake.tokens_nil {s : State} (h : Handshake s)
    (hquiet : ∀ n before, ¬s.caller.InStart n before) : tokens s.log = [] := by
  rcases h.token with hnil | ⟨n, before, hstart, -, -⟩
  · exact hnil
  · exact absurd hstart (hquiet n before)

/-- While the flag is clear nobody posts. -/
theorem Handshake.not_posting {s : State} (h : Handshake s) (hflag : s.self.readyPosted = false)
    (n : ℕ) : ¬(s.threads n).IsPosting := by
  intro hn
  rw [h.flag.2 (Or.inr ⟨n, hn⟩)] at hflag
  exact absurd hflag (by simp)

theorem Thread.IsPosting.onTheWay {th : Thread} (h : th.IsPosting) : th.OnTheWay := by
  cases th <;> simp_all [Thread.IsPosting, Thread.OnTheWay]

theorem Thread.OnTheWay.alive {th : Thread} (h : th.OnTheWay) : th.Alive := by
  cases th <;> simp_all [Thread.OnTheWay, Thread.Alive]

theorem Thread.IsPosting.alive {th : Thread} (h : th.IsPosting) : th.Alive := h.onTheWay.alive

/-- A thread that has set the flag is about to post; one that has found it set is not. -/
theorem afterOnce_spec {th th' : Thread} {b : Bool} (h : th.afterOnce b = some th') :
    ¬th.IsPosting ∧ th.OnTheWay ∧ (th'.IsPosting ↔ b = true) ∧ (th'.OnTheWay → b = true) := by
  cases th <;> cases b <;>
    simp_all [Thread.afterOnce, Thread.IsPosting, Thread.OnTheWay] <;> subst h <;> simp

theorem afterPost_spec {th th' : Thread} (h : th.afterPost = some th') :
    th.IsPosting ∧ ¬th'.OnTheWay ∧ ¬th'.IsPosting := by
  cases th <;> simp_all [Thread.afterPost, Thread.IsPosting, Thread.OnTheWay] <;> subst h <;> simp

theorem hasReason_cons {n : ℕ} {log : List Happening} {h : Happening} (hh : h.isReason n = true) :
    hasReason n (h :: log) = true := by
  rw [hasReason, List.any_cons, hh, Bool.true_or]

/-- A start clears the flag: nobody is alive, and no token is left. -/
theorem Handshake.startPrepared {s s' : State} (h : Handshake s) (hlife : Life s')
    (hcaller : s.caller = .idle) {before : Flags} (hcaller' : s'.caller = .creating before)
    (hsem : s'.self.readySemaphore = s.self.readySemaphore := by rfl)
    (hflag : s'.self.readyPosted = false := by rfl)
    (hlog : s'.log = .reset :: s.log := by rfl) : Handshake s' := by
  have hdead : ∀ n, ¬(s'.threads n).Alive := fun n hn => hlife.notCreating n hn before hcaller'
  have hnil : tokens s.log = [] := h.tokens_nil (by simp [hcaller, Caller.InStart])
  have hnil' : tokens s'.log = [] := by rw [hlog]; exact hnil
  have hposts : postedSinceReset s'.log = false := by rw [hlog]; exact since_mark rfl
  refine ⟨by rw [hsem]; exact h.cap, ?_, Or.inl hnil', ?_, ?_, fun _ _ => hflag, ?_, ?_, ?_⟩
  · rw [hsem, hlog]
    exact h.count
  · rw [hflag, hposts]
    simp only [Bool.false_eq_true, false_or, false_iff, not_exists]
    exact fun n hn => hdead n hn.alive
  · exact fun n hn => absurd hn.alive (hdead n)
  · exact fun n hn => absurd hn (hdead n)
  · rintro n (hn | hn)
    · rw [hnil'] at hn
      exact absurd hn (by simp)
    · exact absurd hn.alive (hdead n)
  · rw [hlog]
    exact h.releases

/-- The thread of the pending start is created: it has not called anything yet. -/
theorem Handshake.createdThread {s s' : State} (h : Handshake s) (hlife : Life s)
    {before : Flags} (hcaller : s.caller = .creating before) {n : ℕ}
    (hcaller' : s'.caller = .created n before)
    (hthreads : s'.threads = (s.setThread n .entry).threads := by rfl)
    (hsem : s'.self.readySemaphore = s.self.readySemaphore := by rfl)
    (hflag : s'.self.readyPosted = s.self.readyPosted := by rfl)
    (hlog : s'.log = .created n :: s.log := by rfl) : Handshake s' := by
  have hclear := h.creating before hcaller
  have hnil : tokens s.log = [] := h.tokens_nil (by simp [hcaller, Caller.InStart])
  have hquiet : Quiet s.log s'.log := by rw [hlog]; exact .cons rfl s.log
  have hdead : ∀ m, ¬(s.threads m).Alive := fun m hm => hlife.notCreating m hm before hcaller
  -- the new thread is the only one alive, and it is not on its way to a post
  have honly : ∀ m, (s'.threads m).Alive → m = n := by
    intro m hm
    by_contra hne
    rw [hthreads, setThread_of_ne s _ hne] at hm
    exact hdead m hm
  have hway : ∀ m, ¬(s'.threads m).OnTheWay := by
    intro m hm
    have heq := honly m hm.alive
    rw [hthreads, heq, setThread_self] at hm
    exact hm
  have hposting : ∀ m, ¬(s'.threads m).IsPosting := by
    intro m hm
    have heq := honly m hm.alive
    rw [hthreads, heq, setThread_self] at hm
    exact hm
  refine ⟨by rw [hsem]; exact h.cap, ?_, Or.inl ?_, ?_, ?_, ?_, ?_, ?_, hquiet.releases h.releases⟩
  · rw [hsem, hquiet.tokens]
    exact h.count
  · rw [hquiet.tokens, hnil]
  · rw [hflag, hquiet.posts, h.flag]
    refine or_congr_right ⟨?_, ?_⟩
    · rintro ⟨m, hm⟩
      exact absurd hm.alive (hdead m)
    · rintro ⟨m, hm⟩
      exact absurd hm (hposting m)
  · exact fun m hm => absurd hm (hposting m)
  · intro b hb
    rw [hcaller'] at hb
    exact absurd hb (by simp)
  · intro m hm hs
    have heq := honly m hm
    exact absurd (by rw [hcaller', heq]; exact inStart_created.2 ⟨rfl, rfl⟩) (hs before)
  · rintro m (hm | hm)
    · rw [hquiet.tokens, hnil] at hm
      exact absurd hm (by simp)
    · exact absurd hm (hway m)

/-- The start takes the token: it is that of its own thread. -/
theorem Handshake.taken {s s' : State} (h : Handshake s) {n : ℕ} {before : Flags}
    (hcaller : s.caller.InStart n before) (hcount : s.self.readySemaphore.count ≠ 0)
    {after : Flags} (hlog : s'.log = .startReturned (some n) before after none :: s.log)
    (hcaller' : s'.caller = .idle := by rfl) (hthreads : s'.threads = s.threads := by rfl)
    (hsem : s'.self.readySemaphore = { s.self.readySemaphore with
      count := s.self.readySemaphore.count - 1 } := by rfl)
    (hflag : s'.self.readyPosted = s.self.readyPosted := by rfl) : Handshake s' := by
  have hlen := Counter32.toNat_pred hcount
  have hold := h.count
  rcases h.token with hnil | ⟨m, b, hm, htokens, hposts⟩
  · rw [hnil, List.length_nil] at hold
    omega
  · obtain ⟨rfl, rfl⟩ := hcaller.unique hm
    have hposted : s.self.readyPosted = true := h.flag.2 (Or.inl hposts)
    have hnone : ∀ k, ¬(s'.threads k).IsPosting := by
      intro k hk
      rw [hthreads] at hk
      have hnil := (h.posting k hk).1
      rw [htokens] at hnil
      exact absurd hnil (by simp)
    have hposts' : postedSinceReset s'.log = true := by
      rw [hlog]
      exact (since_other rfl rfl).trans hposts
    have htokens' : tokens s'.log = [] := by
      rw [hlog]
      show (tokens s.log).tail = []
      rw [htokens]
      rfl
    have hreason : ∀ k, hasReason k s'.log = hasReason k s.log := fun k => by rw [hlog]; rfl
    refine ⟨by rw [hsem]; exact h.cap, ?_, Or.inl htokens', ?_, ?_, ?_, ?_, ?_, ?_⟩
    · rw [htokens, List.length_singleton] at hold
      rw [hsem, htokens', List.length_nil]
      show (s.self.readySemaphore.count - 1).toNat = 0
      omega
    · rw [hflag, hposted, hposts']
      exact ⟨fun _ => Or.inl rfl, fun _ => rfl⟩
    · exact fun k hk => absurd hk (hnone k)
    · intro b hb
      rw [hcaller'] at hb
      exact absurd hb (by simp)
    · exact fun _ _ _ => hflag.trans hposted
    · rintro k (hk | hk)
      · rw [htokens'] at hk
        exact absurd hk (by simp)
      · rw [hreason]
        rw [hthreads] at hk
        exact h.reason k (Or.inr hk)
    · rw [hlog]
      have hcause := h.reason n (Or.inl (by rw [htokens]; exact List.mem_singleton_self n))
      exact ⟨⟨n, rfl, htokens, hcause⟩, h.releases⟩

/-- A thread sets the flag: its start is pending, and nothing has been posted since the reset. -/
theorem Handshake.onceFirst {s s' : State} (h : Handshake s) (hlife : Life s) {n : ℕ}
    {th : Thread} (hthread : (s.threads n).afterOnce true = some th)
    (hflag : s.self.readyPosted = false)
    (hthreads : s'.threads = (s.setThread n th).threads := by rfl)
    (hcaller : s'.caller = s.caller := by rfl)
    (hsem : s'.self.readySemaphore = s.self.readySemaphore := by rfl)
    (hflag' : s'.self.readyPosted = true := by rfl) (hlog : s'.log = s.log := by rfl) :
    Handshake s' := by
  obtain ⟨-, hway, hposting, -⟩ := afterOnce_spec hthread
  have halive := (afterOnce_alive hthread).1
  have hposts : postedSinceReset s.log = false := by
    rw [← Bool.not_eq_true]
    intro hposts
    rw [h.flag.2 (Or.inl hposts)] at hflag
    exact absurd hflag (by simp)
  have hnil : tokens s.log = [] := by
    rcases h.token with hnil | ⟨_, _, _, _, hp⟩
    · exact hnil
    · rw [hposts] at hp
      exact absurd hp (by simp)
  -- a start is pending: otherwise the flag would be set
  have hpending : ∃ before, s.caller.InStart n before := by
    by_contra hnone
    have hset := h.returned n halive (fun b hb => hnone ⟨b, hb⟩)
    rw [hflag] at hset
    exact absurd hset (by simp)
  have hself : (s'.threads n).IsPosting := by
    rw [hthreads, setThread_self]
    exact hposting.2 rfl
  refine ⟨by rw [hsem]; exact h.cap, by rw [hsem, hlog]; exact h.count, ?_, ?_, ?_, ?_, ?_, ?_, ?_⟩
  · rw [hlog]
    exact Or.inl hnil
  · rw [hflag']
    exact ⟨fun _ => Or.inr ⟨n, hself⟩, fun _ => rfl⟩
  · intro m hm
    rw [hlog, hcaller]
    by_cases heq : m = n
    · rw [heq]
      exact ⟨hnil, hpending⟩
    · rw [hthreads, setThread_of_ne s th heq] at hm
      exact absurd hm (h.not_posting hflag m)
  · intro b hb
    rw [hcaller] at hb
    exact absurd hb (hlife.notCreating n halive b)
  · exact fun _ _ _ => hflag'
  · rintro m (hm | hm)
    · rw [hlog, hnil] at hm
      exact absurd hm (by simp)
    · rw [hlog]
      by_cases heq : m = n
      · rw [heq]
        exact h.reason n (Or.inr hway)
      · rw [hthreads, setThread_of_ne s th heq] at hm
        exact h.reason m (Or.inr hm)
  · rw [hlog]
    exact h.releases

/-- A thread posts: the token is the only one, and its own. -/
theorem Handshake.posted {s s' : State} (h : Handshake s) (hlife : Life s) {n : ℕ} {th : Thread}
    (hthread : (s.threads n).afterPost = some th)
    (hlt : s.self.readySemaphore.count < s.self.readySemaphore.maxCount)
    (hthreads : s'.threads = (s.setThread n th).threads := by rfl)
    (hcaller : s'.caller = s.caller := by rfl)
    (hsem : s'.self.readySemaphore = { s.self.readySemaphore with
      count := s.self.readySemaphore.count + 1 } := by rfl)
    (hflag : s'.self.readyPosted = s.self.readyPosted := by rfl)
    (hlog : s'.log = .posted n :: s.log := by rfl) : Handshake s' := by
  obtain ⟨hposting, hway, hnew⟩ := afterPost_spec hthread
  have halive := hposting.alive
  obtain ⟨hnil, before, hstart⟩ := h.posting n hposting
  have hset : s.self.readyPosted = true := h.flag.2 (Or.inr ⟨n, hposting⟩)
  have htokens : tokens s'.log = [n] := by
    rw [hlog]
    show tokens s.log ++ [n] = [n]
    rw [hnil]
    rfl
  have hposts : postedSinceReset s'.log = true := by rw [hlog]; exact since_new rfl rfl
  have hreason : ∀ k, hasReason k s'.log = hasReason k s.log := fun k => by rw [hlog]; rfl
  -- the other threads are not alive
  have hother : ∀ m, (s'.threads m).OnTheWay → False := by
    intro m hm
    rw [hthreads] at hm
    by_cases heq : m = n
    · rw [heq, setThread_self] at hm
      exact hway hm
    · rw [setThread_of_ne s th heq] at hm
      exact heq (hlife.unique hm.alive halive)
  refine ⟨by rw [hsem]; exact h.cap, ?_, ?_, ?_, ?_, ?_, fun _ _ _ => hflag.trans hset, ?_, ?_⟩
  · have hcount := h.count
    rw [hnil, List.length_nil] at hcount
    rw [hsem, htokens, List.length_singleton]
    show (s.self.readySemaphore.count + 1).toNat = 1
    rw [Counter32.toNat_succ hlt, hcount]
  · exact Or.inr ⟨n, before, by rw [hcaller]; exact hstart, htokens, hposts⟩
  · rw [hflag, hset, hposts]
    exact ⟨fun _ => Or.inl rfl, fun _ => rfl⟩
  · exact fun m hm => absurd hm.onTheWay (hother m)
  · intro b hb
    rw [hcaller] at hb
    exact absurd hb (hlife.notCreating n halive b)
  · rintro m (hm | hm)
    · rw [htokens, List.mem_singleton] at hm
      rw [hreason, hm]
      exact h.reason n (Or.inr hposting.onTheWay)
    · exact absurd hm (hother m)
  · rw [hlog]
    exact h.releases

/-- Only one token is ever in the semaphore, so a post always raises the count. -/
theorem Handshake.count_lt {s : State} (h : Handshake s) :
    s.self.readySemaphore.count < s.self.readySemaphore.maxCount := by
  have hcount := h.count
  have hlen : (tokens s.log).length ≤ 1 := by
    rcases h.token with hnil | ⟨n, b, -, htokens, -⟩
    · rw [hnil]
      exact Nat.zero_le 1
    · rw [htokens]
      exact Nat.le_refl 1
  rw [UInt32.lt_iff_toNat_lt, h.cap, hcount]
  exact Nat.lt_of_le_of_lt hlen (by decide)

/-- **Step lemma.** -/
theorem Handshake.effect {s s' : State} {e : Event} (h : Handshake s) (hlife : Life s)
    (hok : SemaphoreCallsSucceed s e) (heff : Effect s e s') : Handshake s' := by
  have hlife' := hlife.effect heff
  cases heff with
  | startRefused _ _ dterr hcaller =>
      refine h.moveCaller (.cons rfl _) ?_ ?_
      · simp [State.startReturns, hcaller]
      · simp [State.startReturns]
  | startPrepared _ _ hcaller hguard =>
      exact h.startPrepared hlife' hcaller rfl
  | createFailed before dterr thread hcaller =>
      refine h.moveCaller (.cons rfl _) ?_ ?_
      · simp [State.startReturns, hcaller, Caller.InStart]
      · simp [State.startReturns]
  | createdThread before thread hcaller =>
      exact h.createdThread hlife hcaller rfl
  | sleeps e n before hcaller =>
      refine h.moveCaller (.refl _) (fun m b => ?_) (by simp)
      rw [inStart_waiting]
      exact ⟨fun heq => heq.1 ▸ heq.2 ▸ hcaller, fun hs => hcaller.unique hs⟩
  | taken e n before hcaller hcount => exact h.taken hcaller hcount rfl
  | waitFailed e n before dterr hcaller hrc => exact absurd hok hrc
  | stops hcaller => exact h.moveCaller (.refl _) (fun _ _ => Iff.rfl) (fun _ hc => hc)
  | joinEnters ms arg wt hcaller hcreated hjoined =>
      exact h.moveCaller (.refl _) (by simp [hcaller, Caller.InStart]) (by simp)
  | polls expired ms wt hcaller hexited =>
      exact h.moveCaller (.refl _) (by simp [hcaller, Caller.InStart]) (by simp)
  | pollsAgain expired => exact h
  | rechecked wt hcaller hcreated =>
      exact h.moveCaller (.refl _) (by simp [hcaller, Caller.InStart]) (by simp)
  | reaped n wt hcaller hexited hnot =>
      exact h.moveCaller (.refl _) (by simp [hcaller, Caller.InStart]) (by simp)
  | marked wt hcaller =>
      refine h.moveCaller (.cons rfl _) ?_ ?_
      · simp [State.joinReturns, hcaller, Caller.InStart]
      · simp [State.joinReturns]
  | joinReturned e dterr wt hcaller =>
      have hquiet : ∀ n b, ¬s.caller.InStart n b := by
        rintro n b (hs | hs)
        · rw [hs] at hcaller
          exact hcaller
        · rw [hs] at hcaller
          exact hcaller
      refine h.moveCaller (.cons rfl _) (fun n b => ?_) ?_
      · have hidle : ¬(s.joinReturns dterr wt).caller.InStart n b := by
          simp [State.joinReturns, Caller.InStart]
        exact ⟨fun hs => absurd hs hidle, fun hs => absurd hs (hquiet n b)⟩
      · simp [State.joinReturns]
  | readyFailed n callback info hthread =>
      exact h.moveCaller (.refl _) (fun _ _ => Iff.rfl) (fun _ hc => hc)
  | readied n callback info hthread =>
      refine h.moveThread n .readyOnce (.cons rfl _) ?_ id ?_ fun _ => ?_
      · rw [hthread]; exact id
      · rw [hthread]; simp [Thread.Alive]
      · exact hasReason_cons (beq_self_eq_true n)
  | finished n arg callback dterr info hthread =>
      refine h.moveThread n (if dterr.isSome then .exitOnce else .exiting) (.cons rfl _) ?_ ?_ ?_
        fun hway => ?_
      · rw [hthread]; exact id
      · cases dterr <;> exact id
      · rw [hthread]; simp [Thread.Alive]
      · -- only an error puts the thread on its way
        cases dterr with
        | none => exact absurd hway id
        | some dterr => exact hasReason_cons (beq_self_eq_true n)
  | onceFirst n th hthread hflag =>
      exact h.onceFirst hlife hthread hflag
  | onceAgain n th hthread hflag =>
      obtain ⟨hold, -, hposting, hway⟩ := afterOnce_spec hthread
      refine h.moveThread n th (.refl _) hold ?_ (afterOnce_alive hthread).1 ?_
      · exact fun hp => absurd (hposting.1 hp) (by simp)
      · exact fun hw => absurd (hway hw) (by simp)
  | posted n lockRc th hthread hlt => exact h.posted hlife hthread hlt
  | postFailed n lockRc th hthread hfail =>
      rcases hfail with hrc | hfull
      · exact absurd hok hrc
      · exact absurd h.count_lt hfull
  | exits n hthread =>
      refine h.moveThread n .exited (.refl _) ?_ id ?_ fun hw => absurd hw id
      · rw [hthread]; exact id
      · rw [hthread]; simp [Thread.Alive]

/-! ## Whole runs -/

/-- **The ready handshake.** For every sequence of calls by the controlling thread and every
    behaviour of the entry functions, as long as the pthread calls of the ready semaphore succeed,
    in every reachable state: the semaphore's count is `0` when no start is between `pthread_create`
    and its return; `ready_posted` is set exactly when a post has been made since the latest start
    cleared it, or a thread is between setting it and making the post; and every start that has
    returned success has taken the post of the thread it created itself, made because that thread
    called `dttasker_ready` or ended with an error. -/
theorem ready_handshake (DTTIMEOUT_FOREVER DTTIMEOUT_NOWAIT PTHREAD_STACK_MIN : Int32)
    (config : Config) (events : List Event)
    (hok : Run.AllSteps (step DTTIMEOUT_FOREVER DTTIMEOUT_NOWAIT) SemaphoreCallsSucceed
      (.initial (created PTHREAD_STACK_MIN config)) events) :
    Run.AllStates (step DTTIMEOUT_FOREVER DTTIMEOUT_NOWAIT) ReadyHandshake
      (.initial (created PTHREAD_STACK_MIN config)) events := by
  have hinv := Run.allStates_of_allSteps
    (P := fun s => Handshake s ∧ Life s) (C := SemaphoreCallsSucceed)
    (fun s e s' hs hC h => ⟨hs.1.effect hs.2 hC (step_effect h), hs.2.effect (step_effect h)⟩)
    events _ ⟨handshake_initial PTHREAD_STACK_MIN config, life_initial _⟩ hok
  exact hinv.imp fun _ hs => hs.1.readyHandshake

/-- A configuration for the runs below. -/
def plainConfig : Config where
  name := "task"
  stackSize := 0
  priority := .normalMedium
  infoCallback := false

/-- The thread calls `dttasker_ready` twice and returns an error; a join, and a second start whose
    thread ends at once with an error. -/
def restartRun : List Event :=
  [.start none none, .pthreadCreate none none, .semWait 0 ⟨5, 0⟩, .ready 0 none, .once 0,
    .semWake 0, .post 0 0, .semWake 0, .ready 0 none, .once 0,
    .entryReturns 0 (some (.new .fail "gone")) none, .once 0, .exit 0,
    .join (-1) none, .poll false, .recheck, .pthreadJoin none, .mark,
    .start none none, .pthreadCreate none none, .entryReturns 1 (some (.new .fail "gone")) none,
    .once 1, .post 1 0, .exit 1, .semWait 0 ⟨6, 0⟩]

theorem ready_handshake_restartRun :
    (Run.exec (step (-1) 0) (.initial (created 16384 plainConfig)) restartRun).isSome = true ∧
      Run.AllStates (step (-1) 0) ReadyHandshake (.initial (created 16384 plainConfig))
        restartRun :=
  ⟨by decide, ready_handshake (-1) 0 16384 plainConfig restartRun (by decide)⟩

/-- Between the two steps of `dttasker__post_ready_once` the flag is set and nothing has been
    posted. -/
theorem ready_posted_before_post :
    ∃ s, Run.exec (step (-1) 0) (.initial (created 16384 plainConfig))
        [.start none none, .pthreadCreate none none, .ready 0 none, .once 0] = some s ∧
      ¬(s.self.readyPosted = true ↔ postedSinceReset s.log = true) := by
  refine ⟨_, rfl, ?_⟩
  decide

end Dttasker
