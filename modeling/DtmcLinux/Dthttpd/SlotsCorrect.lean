import DtmcLinux.Dthttpd.Slots

set_option autoImplicit false

/-! # The slots are used one connection at a time

The invariant has three parts: the table of slots and taskers, the connections on their way from the
accept loop to the threads, and the counter. When `dttasker_start` fails although the thread was
created, the accept loop takes the slot and the connection away from a running thread; without that,
every run keeps the invariant. -/

namespace DthttpdLinuxSocket

/-! ## The table of slots and taskers -/

/-- The thread has exited and been joined, and its tasker has been disposed. -/
structure Retired (t : ClientTask) : Prop where
  exited : t.pc = .exited
  joined : t.joined = true
  disposed : t.disposed = true

/-- A slot that is free, or belongs to one tasker whose thread has not been joined. -/
inductive SlotOk (tasks : List ClientTask) (k : ℕ) (slot : Slot) : Prop where
  | free (hactive : slot.isActive = false) (hhandle : slot.taskerHandle = none)
      (hfd : slot.clientFd = -1)
  | busy (i : ℕ) (t : ClientTask) (hhandle : slot.taskerHandle = some i)
      (ht : tasks[i]? = some t) (hslot : t.slot = k) (hunjoined : t.joined = false)
      (hjoined : slot.isJoined = false) (hactive : slot.isActive = t.pc.beforeFinish)
      (hfd : slot.clientFd = if t.pc.beforeClose then (t.fd : ℤ) else -1)

/-- Every tasker that is not retired has its slot, and a slot passes to another tasker only when the
    one before is retired. -/
structure Table (slots : List Slot) (tasks : List ClientTask) : Prop where
  slotOk : ∀ k slot, slots[k]? = some slot → SlotOk tasks k slot
  hasSlot : ∀ i t, tasks[i]? = some t →
    Retired t ∨ ∃ slot, slots[t.slot]? = some slot ∧ slot.taskerHandle = some i
  order : ∀ (i j : ℕ) (a b : ClientTask), tasks[i]? = some a → tasks[j]? = some b → i < j →
    a.slot = b.slot → Retired a

namespace Table

variable {slots : List Slot} {tasks : List ClientTask} {k i : ℕ} {slot slot' : Slot}
  {t t' : ClientTask}

/-- A slot with a handle is busy with that tasker. -/
theorem busy (h : Table slots tasks) (hslot : slots[k]? = some slot)
    (hhandle : slot.taskerHandle = some i) :
    ∃ t, tasks[i]? = some t ∧ t.slot = k ∧ t.joined = false ∧ slot.isJoined = false ∧
      slot.isActive = t.pc.beforeFinish ∧
      slot.clientFd = if t.pc.beforeClose then (t.fd : ℤ) else -1 := by
  cases h.slotOk k slot hslot with
  | free _ hnone => exact absurd (hnone.symm.trans hhandle) (by simp)
  | busy j t hj ht hk hunjoined hjoined hactive hfd =>
      obtain rfl := Option.some.inj (hj.symm.trans hhandle)
      exact ⟨t, ht, hk, hunjoined, hjoined, hactive, hfd⟩

/-- A free slot may change its flag `is_joined`. -/
theorem setFree (h : Table slots tasks) (hslot : slots[k]? = some slot)
    (hfree : slot.taskerHandle = none) (hactive' : slot'.isActive = false)
    (hhandle' : slot'.taskerHandle = none) (hfd' : slot'.clientFd = -1) :
    Table (slots.set k slot') tasks := by
  have hlt := (List.getElem?_eq_some_iff.1 hslot).1
  refine { slotOk := ?_, hasSlot := ?_, order := h.order }
  · intro l s hs
    by_cases hkl : k = l
    · subst hkl
      rw [List.getElem?_set_self hlt] at hs
      obtain rfl := Option.some.inj hs
      exact .free hactive' hhandle' hfd'
    · rw [List.getElem?_set_ne hkl] at hs
      exact h.slotOk l s hs
  · intro i t ht
    rcases h.hasSlot i t ht with hret | ⟨s, hs, hi⟩
    · exact Or.inl hret
    · have hkt : k ≠ t.slot := by
        rintro rfl
        obtain rfl := Option.some.inj (hs.symm.trans hslot)
        exact absurd (hi.symm.trans hfree) (by simp)
      exact Or.inr ⟨s, by rw [List.getElem?_set_ne hkt, hs], hi⟩

/-- The tasker `i` and its slot change together. -/
theorem update (h : Table slots tasks) (ht : tasks[i]? = some t)
    (hslot : slots[t.slot]? = some slot) (hhandle : slot.taskerHandle = some i)
    (hsame : t'.slot = t.slot)
    (hnew : Retired t' ∨ slot'.taskerHandle = some i)
    (hok : SlotOk (tasks.set i t') t.slot slot') :
    Table (slots.set t.slot slot') (tasks.set i t') := by
  have hlt := (List.getElem?_eq_some_iff.1 hslot).1
  have hlti := (List.getElem?_eq_some_iff.1 ht).1
  refine { slotOk := ?_, hasSlot := ?_, order := ?_ }
  · intro l s hs
    by_cases hkl : t.slot = l
    · subst hkl
      rw [List.getElem?_set_self hlt] at hs
      obtain rfl := Option.some.inj hs
      exact hok
    · rw [List.getElem?_set_ne hkl] at hs
      cases h.slotOk l s hs with
      | free hactive hnone hfd => exact .free hactive hnone hfd
      | busy j u hj hu hl hunjoined hjoined hactive hfd =>
          have hij : i ≠ j := by
            rintro rfl
            obtain rfl := Option.some.inj (ht.symm.trans hu)
            exact hkl hl
          exact .busy j u hj (by rw [List.getElem?_set_ne hij, hu]) hl hunjoined hjoined hactive hfd
  · intro j u hu
    by_cases hij : i = j
    · subst hij
      rw [List.getElem?_set_self hlti] at hu
      obtain rfl := Option.some.inj hu
      rcases hnew with hret | hi
      · exact Or.inl hret
      · exact Or.inr ⟨slot', by rw [hsame, List.getElem?_set_self hlt], hi⟩
    · rw [List.getElem?_set_ne hij] at hu
      rcases h.hasSlot j u hu with hret | ⟨s, hs, hj⟩
      · exact Or.inl hret
      · have hne : t.slot ≠ u.slot := by
          intro heq
          rw [← heq, hslot] at hs
          obtain rfl := Option.some.inj hs
          exact hij (Option.some.inj (hhandle.symm.trans hj))
        exact Or.inr ⟨s, by rw [List.getElem?_set_ne hne, hs], hj⟩
  · -- an earlier tasker of a slot is retired, and `i` is not
    obtain ⟨u, hu, -, hunjoined, -⟩ := h.busy hslot hhandle
    obtain rfl := Option.some.inj (ht.symm.trans hu)
    intro j l a b ha hb hjl heq
    have hold : ∀ m c, (tasks.set i t')[m]? = some c →
        ∃ c₀, tasks[m]? = some c₀ ∧ c₀.slot = c.slot ∧ (m ≠ i → c₀ = c) ∧ (m = i → c₀ = t) := by
      intro m c hc
      by_cases him : i = m
      · subst him
        rw [List.getElem?_set_self hlti] at hc
        obtain rfl := Option.some.inj hc
        exact ⟨t, ht, hsame.symm, fun hne => absurd rfl hne, fun _ => rfl⟩
      · rw [List.getElem?_set_ne him] at hc
        exact ⟨c, hc, rfl, fun _ => rfl, fun heq => absurd heq.symm him⟩
    obtain ⟨a₀, ha₀, haslot, hasame, haself⟩ := hold j a ha
    obtain ⟨b₀, hb₀, hbslot, -⟩ := hold l b hb
    have hret := h.order j l a₀ b₀ ha₀ hb₀ hjl (by rw [haslot, hbslot, heq])
    by_cases hji : j = i
    · rw [haself hji] at hret
      exact absurd (hunjoined.symm.trans hret.joined) (by simp)
    · exact hasame hji ▸ hret

/-- A free slot passes to a new tasker. -/
theorem assign (h : Table slots tasks) (hslot : slots[k]? = some slot)
    (hfree : slot.taskerHandle = none) (hhandle' : slot'.taskerHandle = some tasks.length)
    (hk : t.slot = k) (hunjoined : t.joined = false) (hjoined : slot'.isJoined = false)
    (hactive : slot'.isActive = t.pc.beforeFinish)
    (hfd : slot'.clientFd = if t.pc.beforeClose then (t.fd : ℤ) else -1) :
    Table (slots.set k slot') (tasks ++ [t]) := by
  have hlt := (List.getElem?_eq_some_iff.1 hslot).1
  have hgrow : ∀ {m : ℕ} {c : ClientTask}, tasks[m]? = some c → (tasks ++ [t])[m]? = some c := by
    intro m c hc
    rw [List.getElem?_append_left (List.getElem?_eq_some_iff.1 hc).1, hc]
  have hget : ∀ (m : ℕ) (c : ClientTask), (tasks ++ [t])[m]? = some c →
      tasks[m]? = some c ∨ m = tasks.length ∧ c = t := by
    intro m c hc
    by_cases hm : m < tasks.length
    · rw [List.getElem?_append_left hm] at hc
      exact Or.inl hc
    · have hle := (List.getElem?_eq_some_iff.1 hc).1
      rw [List.length_append, List.length_singleton] at hle
      obtain rfl : m = tasks.length := by omega
      rw [List.getElem?_concat_length] at hc
      exact Or.inr ⟨rfl, (Option.some.inj hc).symm⟩
  refine { slotOk := ?_, hasSlot := ?_, order := ?_ }
  · intro l s hs
    by_cases hkl : k = l
    · subst hkl
      rw [List.getElem?_set_self hlt] at hs
      obtain rfl := Option.some.inj hs
      exact .busy _ t hhandle' (List.getElem?_concat_length ..) hk hunjoined hjoined hactive hfd
    · rw [List.getElem?_set_ne hkl] at hs
      cases h.slotOk l s hs with
      | free hactive hnone hfd => exact .free hactive hnone hfd
      | busy j u hj hu hl hunjoined hjoined hactive hfd =>
          exact .busy j u hj (hgrow hu) hl hunjoined hjoined hactive hfd
  · intro i u hu
    rcases hget i u hu with hu | ⟨rfl, rfl⟩
    · rcases h.hasSlot i u hu with hret | ⟨s, hs, hi⟩
      · exact Or.inl hret
      · have hne : k ≠ u.slot := by
          rintro rfl
          obtain rfl := Option.some.inj (hs.symm.trans hslot)
          exact absurd (hi.symm.trans hfree) (by simp)
        exact Or.inr ⟨s, by rw [List.getElem?_set_ne hne, hs], hi⟩
    · exact Or.inr ⟨slot', by rw [hk, List.getElem?_set_self hlt], hhandle'⟩
  · intro i j a b ha hb hij heq
    rcases hget i a ha with ha₀ | ⟨rfl, rfl⟩
    · rcases hget j b hb with hb₀ | ⟨rfl, rfl⟩
      · exact h.order i j a b ha₀ hb₀ hij heq
      · -- the slot was free, so its earlier taskers are retired
        rcases h.hasSlot i a ha₀ with hret | ⟨s, hs, hi⟩
        · exact hret
        · rw [heq, hk] at hs
          obtain rfl := Option.some.inj (hs.symm.trans hslot)
          exact absurd (hi.symm.trans hfree) (by simp)
    · have hlen := (List.getElem?_eq_some_iff.1 hb).1
      rw [List.length_append, List.length_singleton] at hlen
      omega

/-- A tasker that is not retired may take a step; its slot follows. -/
theorem advance (h : Table slots tasks) (ht : tasks[i]? = some t) (hlive : t.pc ≠ .exited) :
    ∃ slot, slots[t.slot]? = some slot ∧ slot.taskerHandle = some i ∧
      slot.isActive = t.pc.beforeFinish ∧
      slot.clientFd = (if t.pc.beforeClose then (t.fd : ℤ) else -1) ∧
      ∀ t' slot', t'.slot = t.slot → t'.joined = t.joined → slot'.taskerHandle = slot.taskerHandle →
        slot'.isJoined = slot.isJoined → slot'.isActive = t'.pc.beforeFinish →
        slot'.clientFd = (if t'.pc.beforeClose then (t'.fd : ℤ) else -1) →
        Table (slots.set t.slot slot') (tasks.set i t') := by
  rcases h.hasSlot i t ht with hret | ⟨slot, hslot, hhandle⟩
  · exact absurd hret.exited hlive
  · obtain ⟨u, hu, -, hunjoined, hjoined, hactive, hfd⟩ := h.busy hslot hhandle
    obtain rfl := Option.some.inj (ht.symm.trans hu)
    refine ⟨slot, hslot, hhandle, hactive, hfd, ?_⟩
    intro t' slot' hsame hjoined' hhandle' hslotJoined hactive' hfd'
    refine h.update ht hslot hhandle hsame (Or.inr (hhandle'.trans hhandle)) ?_
    exact .busy i t' (hhandle'.trans hhandle)
      (List.getElem?_set_self (List.getElem?_eq_some_iff.1 ht).1) hsame
      (hjoined'.trans hunjoined) (hslotJoined.trans hjoined) hactive' hfd'

end Table

/-! ## The invariant -/

/-- The connections of the threads, and whether they are still open. -/
def owners (tasks : List ClientTask) : List (ℕ × Bool) :=
  tasks.map fun t => (t.fd, t.pc.beforeClose)

theorem owners_append (tasks : List ClientTask) (t : ClientTask) :
    owners (tasks ++ [t]) = owners tasks ++ [(t.fd, t.pc.beforeClose)] := List.map_append ..

theorem owners_set (tasks : List ClientTask) (i : ℕ) (t : ClientTask) :
    owners (tasks.set i t) = (owners tasks).set i (t.fd, t.pc.beforeClose) := List.map_set ..

/-- The connection the accept loop holds for itself. -/
def AcceptPc.held : AcceptPc → Option ℕ
  | .accepted fd => some fd
  | .rejecting fd => some fd
  | .cleanup fd => some fd
  | _ => none

/-- The active slot that is not counted yet. -/
def AcceptPc.uncounted : AcceptPc → ℤ
  | .starting _ _ _ => 1
  | _ => 0

/-- **The invariant.** -/
structure Inv (s : State) : Prop where
  table : Table s.slots s.tasks
  handoff : Handoff (owners s.tasks) s.acceptPc.held s.accepted s.closes
  count : s.activeClientCount + s.acceptPc.uncounted = s.slots.countP (·.isActive)
  bound : s.activeClientCount + s.acceptPc.uncounted ≤ s.maxConcurrentConnections
  length : s.maxConcurrentConnections = s.slots.length

theorem set_self {α : Type*} {l : List α} {k : ℕ} {a : α} (h : l[k]? = some a) : l.set k a = l := by
  obtain ⟨hlt, rfl⟩ := List.getElem?_eq_some_iff.1 h
  exact List.set_getElem_self hlt

/-- Counting after a change at one place. -/
theorem countP_set_add {α : Type*} {p : α → Bool} {l : List α} {k : ℕ} {a : α} (b : α)
    (h : l[k]? = some a) :
    (l.set k b).countP p + (if p a then 1 else 0) = l.countP p + (if p b then 1 else 0) := by
  obtain ⟨hlt, rfl⟩ := List.getElem?_eq_some_iff.1 h
  rw [List.countP_set hlt]
  by_cases hp : p l[k]
  · have hpos := List.countP_pos_iff.2 ⟨l[k], List.getElem_mem hlt, hp⟩
    rw [if_pos hp]
    omega
  · rw [if_neg hp]
    omega

/-- A change that keeps `is_active` keeps the number of active slots. -/
theorem countP_set_of_eq {slots : List Slot} {k : ℕ} {slot slot' : Slot}
    (h : slots[k]? = some slot) (heq : slot'.isActive = slot.isActive) :
    (slots.set k slot').countP (·.isActive) = slots.countP (·.isActive) := by
  have hcount := countP_set_add (p := (·.isActive)) slot' h
  rw [heq] at hcount
  omega

variable {s s' : State}

theorem owners_set_of_eq {tasks : List ClientTask} {i : ℕ} {t t' : ClientTask}
    (ht : tasks[i]? = some t) (hfd : t'.fd = t.fd)
    (hclose : t'.pc.beforeClose = t.pc.beforeClose) : owners (tasks.set i t') = owners tasks := by
  rw [owners_set, hfd, hclose]
  exact set_self (by rw [owners, List.getElem?_map, ht]; rfl)

/-! ## Reaping -/

/-- The slots and taskers may change so that no flag `is_active` and no connection does. -/
theorem Inv.update (h : Inv s) {k : ℕ} {slot slot' : Slot} {tasks : List ClientTask}
    (hslot : s.slots[k]? = some slot) (hactive : slot'.isActive = slot.isActive)
    (howners : owners tasks = owners s.tasks)
    (htable : Table (s.slots.set k slot') tasks) :
    Inv ({ s with tasks := tasks }.setSlot k slot') where
  table := htable
  handoff := by
    show Handoff (owners tasks) _ _ _
    exact howners ▸ h.handoff
  count := by
    show _ = ((s.slots.set k slot').countP _ : ℤ)
    rw [countP_set_of_eq hslot hactive]
    exact h.count
  bound := h.bound
  length := by
    show _ = ((s.slots.set k slot').length : ℤ)
    rw [List.length_set]
    exact h.length

/-- The slot of a thread that has exited is freed, after the join. -/
theorem reap_inv (h : Inv s) {k i : ℕ} {slot : Slot} {t : ClientTask}
    (hslot : s.slots[k]? = some slot) (hhandle : slot.taskerHandle = some i)
    (ht : s.tasks[i]? = some t) (hexited : t.pc = .exited) :
    Inv (((s.setTask i { t with joined := true }).dispose i).setSlot k
      { slot with isJoined := true, taskerHandle := none }) ∧
    (((s.setTask i { t with joined := true }).dispose i).setSlot k
      { slot with isJoined := true, taskerHandle := none }).acceptPc = s.acceptPc := by
  obtain ⟨u, hu, rfl, -, -, hactive, hfd⟩ := h.table.busy hslot hhandle
  obtain rfl := Option.some.inj (ht.symm.trans hu)
  have hlt := (List.getElem?_eq_some_iff.1 ht).1
  rw [hexited] at hactive hfd
  have hdispose : (s.setTask i { t with joined := true }).dispose i =
      s.setTask i { t with joined := true, disposed := true } := by
    simp [State.dispose, State.setTask, hlt]
  rw [hdispose]
  have htable : Table (s.slots.set t.slot { slot with isJoined := true, taskerHandle := none })
      (s.tasks.set i { t with joined := true, disposed := true }) :=
    h.table.update ht hslot hhandle rfl (Or.inl ⟨hexited, rfl, rfl⟩) (.free hactive rfl hfd)
  exact ⟨h.update hslot rfl (owners_set_of_eq ht rfl rfl) htable, rfl⟩

/-- Reaping a slot that is not active keeps the invariant. -/
theorem tryReapFinishedSlot_inv (h : Inv s) {k : ℕ} {slot : Slot} (hslot : s.slots[k]? = some slot)
    (join : Option Dterr) :
    Inv (tryReapFinishedSlot s k slot join).1 ∧
      (tryReapFinishedSlot s k slot join).1.acceptPc = s.acceptPc := by
  unfold tryReapFinishedSlot
  split
  · exact ⟨h, rfl⟩
  · rename_i hactive
    rw [Bool.not_eq_true] at hactive
    split
    · rename_i hhandle
      have hfd : slot.clientFd = -1 := by
        cases h.table.slotOk k slot hslot with
        | free _ _ hfd => exact hfd
        | busy i t hi => exact absurd (hhandle.symm.trans hi) (by simp)
      exact ⟨h.update hslot rfl rfl (h.table.setFree hslot hhandle hactive hhandle hfd), rfl⟩
    · rename_i i hhandle
      obtain ⟨t, ht, -, -, hjoined, -⟩ := h.table.busy hslot hhandle
      rw [if_pos (by rw [hjoined]; rfl)]
      cases join with
      | some err => exact ⟨h, rfl⟩
      | none =>
          by_cases hexited : t.pc = .exited
          · have hjoin : s.join i = (s.setTask i { t with joined := true }, false) := by
              simp [State.join, ht, hexited]
            simp only [hjoin]
            exact reap_inv h hslot hhandle ht hexited
          · have hjoin : s.join i = (s, true) := by simp [State.join, ht, hexited]
            rw [hjoin]
            exact ⟨h, rfl⟩

theorem reapFinishedSlotsLocked_inv (joins : ℕ → Option Dterr) (ks : List ℕ) :
    ∀ {s : State}, Inv s → Inv (reapFinishedSlotsLocked joins ks s).1 ∧
      (reapFinishedSlotsLocked joins ks s).1.acceptPc = s.acceptPc := by
  induction ks with
  | nil => exact fun h => ⟨h, rfl⟩
  | cons k ks ih =>
      intro s h
      unfold reapFinishedSlotsLocked
      cases hslot : s.slots[k]? with
      | none => exact ⟨h, rfl⟩
      | some slot =>
          obtain ⟨hinv, hpc⟩ := tryReapFinishedSlot_inv h hslot (joins k)
          rcases hreap : tryReapFinishedSlot s k slot (joins k) with ⟨s', _ | err⟩
          · rw [hreap] at hinv hpc
            obtain ⟨hinv', hpc'⟩ := ih hinv
            simp only [hreap]
            exact ⟨hinv', hpc'.trans hpc⟩
          · rw [hreap] at hinv hpc
            simp only [hreap]
            exact ⟨hinv, hpc⟩

/-! ## The accept loop -/

/-- The accept loop moves on, with the connection it holds. -/
theorem Inv.moveTo (h : Inv s) {pc : AcceptPc} (hheld : pc.held = s.acceptPc.held)
    (huncounted : pc.uncounted = s.acceptPc.uncounted) : Inv { s with acceptPc := pc } where
  table := h.table
  handoff := by
    show Handoff (owners s.tasks) pc.held s.accepted s.closes
    exact hheld ▸ h.handoff
  count := by
    show s.activeClientCount + pc.uncounted = _
    exact huncounted ▸ h.count
  bound := by
    show s.activeClientCount + pc.uncounted ≤ _
    exact huncounted ▸ h.bound
  length := h.length

theorem findFreeSlot_spec {k : ℕ} (hfind : findFreeSlot s = some k) :
    ∃ slot, s.slots[k]? = some slot ∧ slot.isActive = false ∧ slot.taskerHandle = none := by
  obtain ⟨hlt, hfree, -⟩ := List.findIdx?_eq_some_iff_getElem.1 hfind
  rw [Bool.and_eq_true, Bool.not_eq_true', Option.isNone_iff_eq_none] at hfree
  exact ⟨_, List.getElem?_eq_getElem hlt, hfree.1, hfree.2⟩

/-- After an error of `dttasker_create` or `dttasker_start`, the slot is free again. -/
theorem release_slot_inv (h : Inv s) {fd k : ℕ} {slot : Slot} (hpc : s.acceptPc = .accepted fd)
    (hslot : s.slots[k]? = some slot) (hactive : slot.isActive = false)
    (hfree : slot.taskerHandle = none) :
    Inv { s.setSlot k .init with acceptPc := .cleanup fd } := by
  have hinv : Inv (s.setSlot k .init) :=
    h.update hslot hactive.symm rfl (h.table.setFree hslot hfree rfl rfl rfl)
  have hheld : (AcceptPc.cleanup fd).held = s.acceptPc.held := by rw [hpc]; rfl
  have huncounted : (AcceptPc.cleanup fd).uncounted = s.acceptPc.uncounted := by rw [hpc]; rfl
  exact hinv.moveTo hheld huncounted

theorem assignSlot_inv (h : Inv s) {fd k : ℕ} {slot : Slot} (hpc : s.acceptPc = .accepted fd)
    (hlimit : s.activeClientCount < s.maxConcurrentConnections)
    (hslot : s.slots[k]? = some slot) (hactive : slot.isActive = false)
    (hfree : slot.taskerHandle = none) (calls : AssignCalls) :
    Inv (assignSlot s fd k calls) := by
  unfold assignSlot
  split
  · exact release_slot_inv h hpc hslot hactive hfree
  · split
    · exact release_slot_inv h hpc hslot hactive hfree
    · -- the thread is created
      have hcount := h.count
      rw [hpc] at hcount
      have hset := countP_set_add (p := fun s : Slot => s.isActive)
        { isActive := true, isJoined := false, clientFd := fd, taskerHandle := some s.tasks.length }
        hslot
      rw [hactive] at hset
      simp only [Bool.false_eq_true, if_false, if_true] at hset
      exact {
        table := h.table.assign hslot hfree rfl rfl rfl rfl rfl rfl
        handoff := by
          have hgive : Handoff (owners s.tasks ++ [(fd, true)]) none s.accepted s.closes :=
            Handoff.give (by have := h.handoff; rwa [hpc] at this)
          show Handoff (owners (s.tasks ++ [_])) none s.accepted s.closes
          rw [owners_append]
          exact hgive
        count := by
          show s.activeClientCount + 1 = ((s.slots.set k _).countP _ : ℤ)
          replace hcount : s.activeClientCount + 0 = _ := hcount
          omega
        bound := by
          show s.activeClientCount + 1 ≤ s.maxConcurrentConnections
          omega
        length := by
          show _ = ((s.slots.set k _).length : ℤ)
          rw [List.length_set]
          exact h.length }

theorem assign_inv (h : Inv s) {fd : ℕ} (hpc : s.acceptPc = .accepted fd) (calls : AssignCalls) :
    Inv (assign s fd calls) := by
  unfold assign
  obtain ⟨hinv, hpc'⟩ := reapFinishedSlotsLocked_inv calls.joins (List.range s.slots.length) h
  rcases hreap : reapFinishedSlotsLocked calls.joins (List.range s.slots.length) s with ⟨s', _ | err⟩
  · rw [hreap] at hinv hpc'
    replace hpc' : s'.acceptPc = .accepted fd := hpc'.trans hpc
    show Inv (if _ then _ else _)
    split
    · exact hinv.moveTo (by rw [hpc']; rfl) (by rw [hpc']; rfl)
    · rename_i hlimit
      split
      · exact hinv.moveTo (by rw [hpc']; rfl) (by rw [hpc']; rfl)
      · rename_i k hfind
        obtain ⟨slot, hslot, hactive, hfree⟩ := findFreeSlot_spec hfind
        exact assignSlot_inv hinv hpc' (Int.not_le.1 hlimit) hslot hactive hfree calls
  · rw [hreap] at hinv hpc'
    replace hpc' : s'.acceptPc = .accepted fd := hpc'.trans hpc
    exact hinv.moveTo (by rw [hpc']; rfl) (by rw [hpc']; rfl)

/-- `dttasker_start` succeeds: the connection is counted. -/
theorem started_inv (h : Inv s) (hstart : started s none = some s') : Inv s' := by
  unfold started at hstart
  split at hstart
  · rename_i fd k i hpc
    have hcount := h.count
    have hbound := h.bound
    have hhandoff := h.handoff
    rw [hpc] at hcount hbound hhandoff
    simp only [Option.ite_none_right_eq_some, Option.some.injEq] at hstart
    obtain ⟨-, rfl⟩ := hstart
    exact {
      table := h.table
      handoff := hhandoff
      count := by
        show s.activeClientCount + 1 + 0 = _
        rw [Int.add_zero]
        exact hcount
      bound := by
        show s.activeClientCount + 1 + 0 ≤ _
        rw [Int.add_zero]
        exact hbound
      length := h.length }
  · exact absurd hstart (by simp)

/-- The accept loop closes the connection it holds. -/
theorem close_held_inv (h : Inv s) {fd : ℕ} (hheld : s.acceptPc.held = some fd)
    (huncounted : s.acceptPc.uncounted = 0) :
    Inv { s.closeIfOpen .dispatcher fd with acceptPc := .top } := by
  have hclose : s.closeIfOpen .dispatcher fd =
      { s with closes := (.dispatcher, fd) :: s.closes } := by
    simp [State.closeIfOpen]
  rw [hclose]
  have hhandoff := h.handoff
  rw [hheld] at hhandoff
  have hcount := h.count
  have hbound := h.bound
  rw [huncounted] at hcount hbound
  exact { table := h.table, handoff := hhandoff.releaseHeld, count := hcount, bound := hbound
          length := h.length }

/-! ## The threads -/

/-- A thread moves on, and neither closes its connection nor marks its slot finished. -/
theorem task_inv (h : Inv s) {i : ℕ} {t t' : ClientTask} (ht : s.tasks[i]? = some t)
    (hlive : t.pc ≠ .exited) (hslot : t'.slot = t.slot) (hfd : t'.fd = t.fd)
    (hjoined : t'.joined = t.joined) (hclose : t'.pc.beforeClose = t.pc.beforeClose)
    (hfinish : t'.pc.beforeFinish = t.pc.beforeFinish) : Inv (s.setTask i t') := by
  obtain ⟨slot, hget, -, hactive, hclientFd, hnext⟩ := h.table.advance ht hlive
  have htable : Table (s.slots.set t.slot slot) (s.tasks.set i t') :=
    hnext t' slot hslot hjoined rfl rfl (hactive.trans hfinish.symm)
      (by rw [hclose, hfd]; exact hclientFd)
  rw [set_self hget] at htable
  exact {
    table := htable
    handoff := by
      show Handoff (owners (s.tasks.set i t')) _ _ _
      rw [owners_set_of_eq ht hfd hclose]
      exact h.handoff
    count := h.count, bound := h.bound, length := h.length }

/-- A thread closes its connection. -/
theorem close_inv (h : Inv s) {i : ℕ} {t : ClientTask} {slot : Slot} (ht : s.tasks[i]? = some t)
    (hpc : t.pc = .closing) (hslot : s.slots[t.slot]? = some slot) :
    Inv (((s.closeIfOpen (.worker i) slot.clientFd).setSlot t.slot
      { slot with clientFd := -1 }).setTask i { t with pc := .finishing }) := by
  obtain ⟨slot₀, hget, hhandle, hactive, hclientFd, hnext⟩ :=
    h.table.advance ht (by rw [hpc]; simp)
  obtain rfl := Option.some.inj (hslot.symm.trans hget)
  rw [hpc] at hactive hclientFd
  have hclose : s.closeIfOpen (.worker i) slot.clientFd =
      { s with closes := (.worker i, t.fd) :: s.closes } := by
    rw [hclientFd]
    simp [State.closeIfOpen, TaskPc.beforeClose]
  rw [hclose]
  exact {
    table := hnext { t with pc := .finishing } { slot with clientFd := -1 } rfl rfl rfl rfl hactive rfl
    handoff := by
      have howner : (owners s.tasks)[i]? = some (t.fd, true) := by
        simp [owners, ht, hpc, TaskPc.beforeClose]
      have hrelease := h.handoff.releaseOwned howner
      show Handoff (owners (s.tasks.set i _)) s.acceptPc.held s.accepted (_ :: s.closes)
      rw [owners_set]
      exact hrelease
    count := by
      have hcount : (s.slots.set t.slot { slot with clientFd := -1 }).countP (·.isActive) =
          s.slots.countP (·.isActive) := countP_set_of_eq hslot rfl
      show _ = ((s.slots.set t.slot { slot with clientFd := -1 }).countP _ : ℤ)
      rw [hcount]
      exact h.count
    bound := h.bound
    length := by
      show _ = ((s.slots.set t.slot _).length : ℤ)
      rw [List.length_set]
      exact h.length }

/-- A thread marks its slot finished, while the lock is free. -/
theorem markFinished_inv (h : Inv s) {i : ℕ} {t : ClientTask} {slot : Slot}
    (ht : s.tasks[i]? = some t) (hpc : t.pc = .finishing) (hlock : s.LockFree)
    (hslot : s.slots[t.slot]? = some slot) :
    Inv ((markSlotFinished s t.slot slot).setTask i { t with pc := .returning }) := by
  obtain ⟨slot₀, hget, hhandle, hactive, hclientFd, hnext⟩ :=
    h.table.advance ht (by rw [hpc]; simp)
  obtain rfl := Option.some.inj (hslot.symm.trans hget)
  rw [hpc] at hactive hclientFd
  replace hactive : slot.isActive = true := hactive
  have huncounted : s.acceptPc.uncounted = 0 := by
    cases hacc : s.acceptPc with
    | starting fd k task => exact absurd hacc (hlock fd k task)
    | _ => rfl
  have hcount := h.count
  have hbound := h.bound
  rw [huncounted, Int.add_zero] at hcount hbound
  have hset := countP_set_add (p := fun s : Slot => s.isActive) { slot with isActive := false } hslot
  rw [hactive] at hset
  simp only [Bool.false_eq_true, if_false, if_true] at hset
  have hpos : s.activeClientCount > 0 := by omega
  have hmark : markSlotFinished s t.slot slot =
      { s.setSlot t.slot { slot with isActive := false } with
        activeClientCount := s.activeClientCount - 1 } := by
    simp [markSlotFinished, hactive, hpos]
  rw [hmark]
  exact {
    table := hnext { t with pc := .returning } { slot with isActive := false } rfl rfl rfl rfl rfl
      hclientFd
    handoff := by
      have howners : owners (s.tasks.set i { t with pc := .returning }) = owners s.tasks :=
        owners_set_of_eq ht rfl (by rw [hpc]; rfl)
      show Handoff (owners (s.tasks.set i { t with pc := .returning })) _ _ _
      rw [howners]
      exact h.handoff
    count := by
      show s.activeClientCount - 1 + s.acceptPc.uncounted = ((s.slots.set t.slot _).countP _ : ℤ)
      rw [huncounted]
      omega
    bound := by
      show s.activeClientCount - 1 + s.acceptPc.uncounted ≤ s.maxConcurrentConnections
      rw [huncounted]
      omega
    length := by
      show _ = ((s.slots.set t.slot _).length : ℤ)
      rw [List.length_set]
      exact h.length }

/-! ## Runs -/

/-- The wait of `dttasker_start` for the thread it created does not fail. -/
def WaitSucceeds (_ : State) : Event → Prop
  | .started wait => wait = none
  | _ => True

instance (s : State) : (e : Event) → Decidable (WaitSucceeds s e)
  | .started wait => inferInstanceAs (Decidable (wait = none))
  | .accept _ => .isTrue trivial
  | .assign _ => .isTrue trivial
  | .reject => .isTrue trivial
  | .cleanup => .isTrue trivial
  | .task _ _ => .isTrue trivial

theorem taskStep_inv (h : Inv s) {i : ℕ} {t : ClientTask} {slot : Slot} (ht : s.tasks[i]? = some t)
    (hslot : s.slots[t.slot]? = some slot) {e : TaskEvent} (hstep : taskStep s i t slot e = some s') :
    Inv s' := by
  cases e with
  | ready dterr =>
      simp only [taskStep, Option.ite_none_right_eq_some] at hstep
      obtain ⟨hpc, hstep⟩ := hstep
      have hlive : t.pc ≠ .exited := by rw [hpc]; simp
      cases dterr with
      | none =>
          obtain rfl := Option.some.inj hstep
          exact task_inv h ht hlive rfl rfl rfl (by rw [hpc]; rfl) (by rw [hpc]; rfl)
      | some err =>
          obtain rfl := Option.some.inj hstep
          exact task_inv h ht hlive rfl rfl rfl (by rw [hpc]; rfl) (by rw [hpc]; rfl)
  | served =>
      simp only [taskStep, Option.ite_none_right_eq_some, Option.some.injEq] at hstep
      obtain ⟨hpc, rfl⟩ := hstep
      exact task_inv h ht (by rw [hpc]; simp) rfl rfl rfl (by rw [hpc]; rfl) (by rw [hpc]; rfl)
  | close =>
      simp only [taskStep, Option.ite_none_right_eq_some, Option.some.injEq] at hstep
      obtain ⟨hpc, rfl⟩ := hstep
      exact close_inv h ht hpc hslot
  | markFinished =>
      simp only [taskStep, Option.ite_none_right_eq_some, Option.some.injEq] at hstep
      obtain ⟨⟨hpc, hlock⟩, rfl⟩ := hstep
      exact markFinished_inv h ht hpc hlock hslot
  | exit dterr =>
      simp only [taskStep, Option.ite_none_right_eq_some, Option.some.injEq] at hstep
      obtain ⟨hpc, rfl⟩ := hstep
      exact task_inv h ht (by rw [hpc]; simp) rfl rfl rfl (by rw [hpc]; rfl) (by rw [hpc]; rfl)

/-- Every step keeps the invariant, unless the wait of `dttasker_start` fails. -/
theorem step_inv (s : State) (e : Event) (s' : State) (h : Inv s) (hwait : WaitSucceeds s e)
    (hstep : step s e = some s') : Inv s' := by
  cases e with
  | accept result =>
      simp only [step, Option.ite_none_right_eq_some] at hstep
      obtain ⟨hpc, hstep⟩ := hstep
      cases result with
      | stop =>
          obtain rfl := Option.some.inj hstep
          exact h.moveTo (by rw [hpc]; rfl) (by rw [hpc]; rfl)
      | failed ends =>
          obtain rfl := Option.some.inj hstep
          cases ends
          · exact h.moveTo (by rw [hpc]; rfl) (by rw [hpc]; rfl)
          · exact h.moveTo (by rw [hpc]; rfl) (by rw [hpc]; rfl)
      | client =>
          obtain rfl := Option.some.inj hstep
          have hhandoff := h.handoff
          have hcount := h.count
          have hbound := h.bound
          rw [hpc] at hhandoff hcount hbound
          exact { table := h.table, handoff := hhandoff.accept, count := hcount, bound := hbound
                  length := h.length }
  | assign calls =>
      simp only [step] at hstep
      split at hstep
      · rename_i fd hpc
        obtain rfl := Option.some.inj hstep
        exact assign_inv h hpc calls
      · exact absurd hstep (by simp)
  | started wait =>
      obtain rfl : wait = none := hwait
      exact started_inv h hstep
  | reject =>
      simp only [step] at hstep
      split at hstep
      · rename_i fd hpc
        obtain rfl := Option.some.inj hstep
        exact close_held_inv h (by rw [hpc]; rfl) (by rw [hpc]; rfl)
      · exact absurd hstep (by simp)
  | cleanup =>
      simp only [step] at hstep
      split at hstep
      · rename_i fd hpc
        obtain rfl := Option.some.inj hstep
        exact close_held_inv h (by rw [hpc]; rfl) (by rw [hpc]; rfl)
      · exact absurd hstep (by simp)
  | task i e =>
      simp only [step] at hstep
      split at hstep
      · exact absurd hstep (by simp)
      · rename_i t ht
        split at hstep
        · exact absurd hstep (by simp)
        · rename_i slot hslot
          exact taskStep_inv h ht hslot hstep

/-- The limit the server takes is positive when the default is. -/
theorem configured_inv {default : ℤ} (hdefault : 0 < default) (limit : ℤ) :
    Inv (State.configured default limit) := by
  have hpos : 0 < (State.configured default limit).maxConcurrentConnections := by
    show 0 < if limit ≤ 0 then default else limit
    split <;> omega
  generalize hn : (State.configured default limit).maxConcurrentConnections = n at hpos
  have hslots : (State.configured default limit).slots = List.replicate n.toNat .init := by
    rw [← hn]
    rfl
  exact {
    table := {
      slotOk := by
        intro k slot hslot
        rw [hslots, List.getElem?_replicate] at hslot
        simp only [Option.ite_none_right_eq_some, Option.some.injEq] at hslot
        obtain ⟨-, rfl⟩ := hslot
        exact .free rfl rfl rfl
      hasSlot := fun i t ht => absurd ht (by simp [State.configured])
      order := fun i j a b ha => absurd ha (by simp [State.configured]) }
    handoff := Handoff.start
    count := by
      show (0 : ℤ) + 0 = _
      rw [hslots, List.countP_replicate]
      rfl
    bound := by
      show (0 : ℤ) + 0 ≤ _
      omega
    length := by
      rw [hn, hslots, List.length_replicate]
      omega }

/-- What the slots and the connections look like in every state. -/
structure SlotsRight (s : State) : Prop where
  /-- While the lock is free, the counter is right and within the limit. -/
  count : s.LockFree → s.activeClientCount = s.slots.countP (·.isActive) ∧
    s.activeClientCount ≤ s.maxConcurrentConnections
  limit : s.maxConcurrentConnections = s.slots.length
  /-- Before a slot has its next thread, the one before is joined and its tasker disposed. -/
  reuse : ∀ (i j : ℕ) (a b : ClientTask), s.tasks[i]? = some a → s.tasks[j]? = some b → i < j →
    a.slot = b.slot → a.joined = true ∧ a.disposed = true
  /-- A connection is in at most one slot. -/
  oneSlot : ∀ (k l : ℕ) (a b : Slot), s.slots[k]? = some a → s.slots[l]? = some b →
    0 ≤ a.clientFd → a.clientFd = b.clientFd → k = l
  /-- No connection is closed twice. -/
  closedOnce : (released s.closes).Nodup
  /-- The accept loop closes what it gave to no thread. -/
  byAcceptLoop : ∀ fd, (Party.dispatcher, fd) ∈ s.closes → ∀ t ∈ s.tasks, t.fd ≠ fd
  /-- A thread closes the connection it was given. -/
  byTask : ∀ i fd, (Party.worker i, fd) ∈ s.closes → ∃ t, s.tasks[i]? = some t ∧ t.fd = fd
  /-- An accepted connection is open exactly while the accept loop, or a thread that has not come to
      its `close`, has it. -/
  openIff : ∀ fd < s.accepted, fd ∉ released s.closes ↔
    s.acceptPc.held = some fd ∨ ∃ t ∈ s.tasks, t.fd = fd ∧ t.pc.beforeClose = true

theorem Inv.slotsRight (h : Inv s) : SlotsRight s where
  count hlock := by
    have huncounted : s.acceptPc.uncounted = 0 := by
      cases hacc : s.acceptPc with
      | starting fd k task => exact absurd hacc (hlock fd k task)
      | _ => rfl
    have hcount := h.count
    have hbound := h.bound
    rw [huncounted, Int.add_zero] at hcount hbound
    exact ⟨hcount, hbound⟩
  limit := h.length
  reuse i j a b ha hb hij hslot :=
    ⟨(h.table.order i j a b ha hb hij hslot).joined, (h.table.order i j a b ha hb hij hslot).disposed⟩
  oneSlot k l a b ha hb hopen heq := by
    have hbusy : ∀ (m : ℕ) (c : Slot), s.slots[m]? = some c → 0 ≤ c.clientFd →
        ∃ (i : ℕ) (t : ClientTask), s.tasks[i]? = some t ∧ t.slot = m ∧ (t.fd : ℤ) = c.clientFd := by
      intro m c hc hnonneg
      cases h.table.slotOk m c hc with
      | free _ _ hfd => omega
      | busy i t _ ht hslot _ _ _ hfd =>
          by_cases hclose : t.pc.beforeClose
          · rw [if_pos hclose] at hfd
            exact ⟨i, t, ht, hslot, hfd.symm⟩
          · rw [if_neg hclose] at hfd
            omega
    obtain ⟨i, t, ht, rfl, htfd⟩ := hbusy k a ha hopen
    obtain ⟨j, u, hu, rfl, hufd⟩ := hbusy l b hb (heq ▸ hopen)
    have hij : i = j := h.handoff.distinct i j (t.fd, t.pc.beforeClose) (u.fd, u.pc.beforeClose)
      (by simp [owners, ht]) (by simp [owners, hu])
      (Int.ofNat.inj (htfd.trans (heq.trans hufd.symm)))
    subst hij
    rw [Option.some.inj (ht.symm.trans hu)]
  closedOnce := h.handoff.nodup
  byAcceptLoop fd hclose t ht :=
    h.handoff.byDispatcher fd hclose (t.fd, t.pc.beforeClose) (List.mem_map_of_mem ht)
  byTask i fd hclose := by
    obtain ⟨b, hb⟩ := h.handoff.byWorker i fd hclose
    rw [owners, List.getElem?_map, Option.map_eq_some_iff] at hb
    obtain ⟨t, ht, heq⟩ := hb
    exact ⟨t, ht, (Prod.mk.inj heq).1⟩
  openIff fd hfd := by
    have howner : ∀ t ∈ s.tasks, (t.fd, t.pc.beforeClose) ∈ owners s.tasks := fun t ht =>
      List.mem_map_of_mem ht
    constructor
    · intro hopen
      rcases h.handoff.covered fd hfd with hrel | hheld | ⟨o, ho, rfl⟩
      · exact absurd hrel hopen
      · exact Or.inl hheld
      · obtain ⟨t, ht, rfl⟩ := List.mem_map.1 ho
        refine Or.inr ⟨t, ht, rfl, ?_⟩
        rw [h.handoff.released_iff _ (howner t ht)] at hopen
        exact Bool.not_eq_false _ ▸ hopen
    · rintro (hheld | ⟨t, ht, rfl, hclose⟩)
      · exact (h.handoff.heldOk fd hheld).2.1
      · rw [h.handoff.released_iff _ (howner t ht), hclose]
        simp

/-- **The slots over every run.** The configured server uses its slots and closes its connections as
    it should, in every run in which the wait of `dttasker_start` for its thread does not fail. -/
theorem slots_right (default limit : ℤ) (hdefault : 0 < default) (es : List Event)
    (hwait : Run.AllSteps step WaitSucceeds (State.configured default limit) es) :
    Run.AllStates step SlotsRight (State.configured default limit) es :=
  (Run.allStates_of_allSteps step_inv es _ (configured_inv hdefault limit) hwait).imp
    fun _ h => h.slotsRight

/-- Every call succeeds. -/
def AssignCalls.succeed : AssignCalls := { joins := fun _ => none, create := none, start := none }

/-- With one slot: a client is rejected while the first is served, and the slot is used again. -/
def reuseRun : List Event :=
  [.accept .client, .assign .succeed, .task 0 (.ready none), .started none, .accept .client,
   .assign .succeed, .reject, .task 0 .served, .task 0 .close, .task 0 .markFinished,
   .task 0 (.exit none), .accept .client, .assign .succeed, .task 1 (.ready none), .started none,
   .task 1 .served, .task 1 .close]

theorem slots_right_reuseRun :
    Run.AllStates step SlotsRight (State.configured 4 1) reuseRun ∧
      (Run.exec step (State.configured 4 1) reuseRun).map (fun s => s.closes) =
        some [(.worker 1, 2), (.worker 0, 0), (.dispatcher, 1)] :=
  ⟨slots_right 4 1 (by decide) reuseRun (by decide +kernel), by decide +kernel⟩

/-- The thread serves its client and closes the connection; then the wait of `dttasker_start` fails,
    and the accept loop closes the connection again. -/
def lateStartError : List Event :=
  [.accept .client, .assign .succeed, .task 0 (.ready none), .task 0 .served, .task 0 .close,
   .started (some (.new .fail "cond_wait failed: 22")), .cleanup]

theorem lateStartError_closes_twice :
    ¬ ∀ es, Run.AllStates step SlotsRight (State.configured 4 1) es := by
  intro h
  have hrun : (Run.exec step (State.configured 4 1) lateStartError).map (fun s => s.closes) =
      some [(.dispatcher, 0), (.worker 0, 0)] := by decide +kernel
  obtain ⟨t, ht, hcloses⟩ := Option.map_eq_some_iff.1 hrun
  have hnodup := ((h lateStartError).last ht).closedOnce
  rw [hcloses] at hnodup
  exact absurd hnodup (by decide)

end DthttpdLinuxSocket
