import DtmcLinux.Dtcore.DterrObjects
import DtmcLinux.Dttasker.Basic
import Mathlib.Logic.Function.Basic

set_option autoImplicit false

/-! # The ADC web socket service

`svc_adcws.c`. `svc_start` starts three tasks and polls `dttasker_get_info` of each until one has an
error, which it returns; `main` disposes what it gets. The thread of a task stores the error its
entry function ended with in the tasker, and calls the info callback with a copy of the tasker's
info; the callback logs the error, disposes it, and clears the pointer of the copy. A step is a
critical section of the tasker, a call of the callback, or a call made by the main thread. The entry
functions leave their loops only with an error. -/

namespace SvcAdcws

open Ownership

/-- The tasks of the service. -/
inductive Service where
  | rx
  | tx
  | zz
  deriving DecidableEq

/-- The order in which `svc_start` creates, starts and polls the tasks. -/
def Service.next : Service → Option Service
  | .rx => some .tx
  | .tx => some .zz
  | .zz => none

/-- `dttasker_info_t`. -/
structure Info where
  status : Dttasker.Status
  dterr : Option DterrPtr

/-- Where the thread of a task is. -/
inductive TaskPc where
  /-- not created yet -/
  | absent
  /-- in the entry function, before `dttasker_ready` -/
  | entry
  /-- in the loop of the entry function -/
  | looping
  /-- the entry function has returned; about to store the info -/
  | returned (dterr : DterrPtr)
  /-- the info is stored; about to call the info callback -/
  | calling (dterr : DterrPtr)
  /-- about to call `dttasker__post_ready_once` -/
  | posting (dterr : DterrPtr)
  | exited (dterr : DterrPtr)

/-- The error the entry function has returned. -/
def TaskPc.dterr : TaskPc → Option DterrPtr
  | .absent | .entry | .looping => none
  | .returned dterr | .calling dterr | .posting dterr | .exited dterr => some dterr

/-- The info callback has returned. -/
def TaskPc.calledBack : TaskPc → Bool
  | .posting _ | .exited _ => true
  | .absent | .entry | .looping | .returned _ | .calling _ => false

/-- Where the main thread is. -/
inductive MainPc where
  /-- in `svc_start`, about to describe the service -/
  | describing
  | creating (k : Service)
  | starting (k : Service)
  /-- in `dttasker_start`, waiting until the task is ready -/
  | waiting (k : Service)
  | polling (k : Service)
  /-- `svc_start` has returned -/
  | returned (dterr : DterrPtr)
  /-- the error has been disposed; `main` is cleaning up -/
  | disposed
  /-- `main` has returned, and the process is gone -/
  | exited

/-- An error that `svc_start` has found through `dttasker_get_info`: the task, the error, and the
    log of the error objects at that moment. -/
structure Reading where
  task : Service
  dterr : DterrPtr
  log : List (Use ℕ)

/-- The taskers, their threads, the main thread, and the error objects. `posted` tells whether the
    ready semaphore of a task has been posted. -/
structure State where
  infos : Service → Info
  readyPosted : Service → Bool
  posted : Service → Bool
  threads : Service → TaskPc
  main : MainPc
  ledger : Ledger
  reading : Option Reading

/-- `svc_start` is called. -/
def State.initial : State where
  infos := fun _ => { status := .initialized, dterr := none }
  readyPosted := fun _ => false
  posted := fun _ => false
  threads := fun _ => .absent
  main := .describing
  ledger := .empty
  reading := none

/-- The events. An error is that of the call, made by it. -/
inductive Event where
  | describe (dterr : Option Dterr)
  | create (dterr : Option Dterr)
  /-- `dttasker_start` up to its wait -/
  | start (dterr : Option Dterr)
  /-- the wait in `dttasker_start` returns -/
  | started (dterr : Option Dterr)
  /-- one turn of the polling: `dttasker_get_info` and the test of the error -/
  | poll (dterr : Option Dterr)
  /-- `main` logs and disposes the error -/
  | dispose
  | exit
  /-- the entry function of a task calls `dttasker_ready`, whose post may fail -/
  | ready (k : Service) (dterr : Option Dterr)
  /-- the entry function returns -/
  | ends (k : Service) (dterr : Dterr)
  /-- the critical section of `dttasker_set_info` -/
  | setInfo (k : Service)
  /-- `svc__task_info_callback` -/
  | callback (k : Service)
  /-- `dttasker__post_ready_once`, whose post may fail -/
  | post (k : Service) (dterr : Option Dterr)

namespace State

/-- `svc_start` returns an error that a call has made. -/
def fails (s : State) (dterr : Dterr) : State :=
  { s with
    main := .returned (s.ledger.fresh dterr).2
    ledger := (s.ledger.fresh dterr).1.giveBack (some (s.ledger.fresh dterr).2) }

/-- A call of `svc_start` under `DTERR_C`: on success the main thread goes on to `pc`. -/
def calls (s : State) (dterr : Option Dterr) (pc : MainPc) : State :=
  match dterr with
  | some dterr => s.fails dterr
  | none => { s with main := pc }

/-- The thread of task `k` is at `pc` from now on. -/
def setThread (s : State) (k : Service) (pc : TaskPc) : State :=
  { s with threads := Function.update s.threads k pc }

/-- The entry function of task `k` returns an error that it has made. -/
def entryReturns (s : State) (k : Service) (dterr : Dterr) : State :=
  { s.setThread k (.returned (s.ledger.fresh dterr).2) with
    ledger := (s.ledger.fresh dterr).1 }

/-- `dttasker__post_ready_once`, where `dterr` is the error of the post. -/
def postReadyOnce (s : State) (k : Service) (dterr : Option Dterr) : State × Option Dterr :=
  if s.readyPosted k then (s, none)
  else
    ({ s with
        readyPosted := Function.update s.readyPosted k true
        posted := Function.update s.posted k dterr.isNone }, dterr)

end State

/-- One step. -/
def step (s : State) : Event → Option State
  | .describe dterr =>
    match s.main with
    | .describing => some (s.calls dterr (.creating .rx))
    | _ => none
  | .create dterr =>
    match s.main with
    | .creating k => some (s.calls dterr (k.next.elim (.starting .rx) .creating))
    | _ => none
  | .start dterr =>
    match s.main with
    | .starting k =>
      match dterr with
      | some dterr => some (s.fails dterr)
      | none => some { s.setThread k .entry with main := .waiting k }
    | _ => none
  | .started dterr =>
    match s.main with
    | .waiting k =>
      if s.posted k || dterr.isSome then
        some (s.calls dterr (k.next.elim (.polling .rx) .starting))
      else none
    | _ => none
  | .poll dterr =>
    match s.main with
    | .polling k =>
      match dterr with
      | some dterr => some (s.fails dterr)
      | none =>
        match (s.infos k).dterr with
        | some p =>
          some { s with
            main := .returned p
            ledger := s.ledger.giveBack (some p)
            reading := some { task := k, dterr := p, log := s.ledger.log } }
        | none => some { s with main := .polling (k.next.getD .rx) }
    | _ => none
  | .dispose =>
    match s.main with
    | .returned p =>
      some { s with
        main := .disposed
        ledger := (s.ledger.touch p.objects).disposeHeld p.objects }
    | _ => none
  | .exit =>
    match s.main with
    | .disposed => some { s with main := .exited }
    | _ => none
  | .ready k dterr =>
    match s.main, s.threads k with
    | .exited, _ => none
    | _, .entry =>
      let infos := Function.update s.infos k { status := .running, dterr := none }
      match { s with infos := infos }.postReadyOnce k dterr with
      | (s, some dterr) => some (s.entryReturns k dterr)
      | (s, none) => some (s.setThread k .looping)
    | _, _ => none
  | .ends k dterr =>
    match s.main, s.threads k with
    | .exited, _ => none
    | _, .entry => some (s.entryReturns k dterr)
    | _, .looping => some (s.entryReturns k dterr)
    | _, _ => none
  | .setInfo k =>
    match s.main, s.threads k with
    | .exited, _ => none
    | _, .returned p =>
      some { s.setThread k (.calling p) with
        infos := Function.update s.infos k { status := .stopped, dterr := some p } }
    | _, _ => none
  | .callback k =>
    match s.main, s.threads k with
    | .exited, _ => none
    | _, .calling p =>
      -- only the pointer of the copy is cleared afterwards
      some { s.setThread k (.posting p) with
        ledger := (s.ledger.touch p.objects).dterrDispose p.objects }
    | _, _ => none
  | .post k dterr =>
    match s.main, s.threads k with
    | .exited, _ => none
    | _, .posting p =>
      let (s, dterr) := s.postReadyOnce k dterr
      let (l, dterr) := s.ledger.freshOpt dterr
      -- the error is appended to the one the callback has disposed
      some { s.setThread k (.exited p) with ledger := (l.dterrAppend (some p) dterr).1 }
    | _, _ => none

end SvcAdcws
