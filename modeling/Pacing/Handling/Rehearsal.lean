import Pacing.Handling.Query
import Pacing.Schedule.Store

/-!
# Rehearsals

Scripted collaborators, with which the handling of messages can be rehearsed.
The schedule store is a store in memory behind a script: each read takes the
next cue, and the cue holds until the next read.  A clock shows given times
one after the other and then stays at the last of them; the replies of the
recorder and of the notifier are given as well, and all is well when they are
used up.  Chance draws the middle, and sleeping takes no time.
-/

namespace Pacing

/-- What happens to a store behind the back of the one who uses it. -/
inductive Intrusion where
  | seed (record : ScheduleRecord)
  | reap (now : Int64)
  deriving DecidableEq, Repr

namespace Intrusion

def apply (store : Store) : Intrusion → Store
  | .seed record => store.seed record
  | .reap now => store.reap now

end Intrusion

/-- What a script does to a read and to the write that follows it. -/
structure Cue where
  readError : Option StoreError
  /-- What is read instead of the stored record. -/
  readRecord : Option ScheduleRecord
  beforeWrite : List Intrusion
  /-- Fails the write before it reaches the store. -/
  writeError : Option StoreError
  deriving DecidableEq, Repr

namespace Cue

/-- The cue that changes nothing. -/
def plain : Cue := ⟨none, none, [], none⟩

end Cue

structure Rehearsal where
  store : Store
  script : List Cue
  cue : Cue
  times : List Int64
  lastTime : Int64
  recorderReplies : List (Except MetricsError Unit)
  notifierReplies : List (Except NotifyError Unit)

namespace Rehearsal

def starting (store : Store) : Rehearsal :=
  { store
    script := []
    cue := Cue.plain
    times := []
    lastTime := 0
    recorderReplies := []
    notifierReplies := [] }

/-- The rehearsal with a new script. -/
def direct (rehearsal : Rehearsal) (script : List Cue) : Rehearsal :=
  { rehearsal with script, cue := Cue.plain }

def now (rehearsal : Rehearsal) : Int64 × Rehearsal :=
  match rehearsal.times with
  | [] => (rehearsal.lastTime, rehearsal)
  | time :: times => (time, { rehearsal with times, lastTime := time })

def read (rehearsal : Rehearsal) (key : ScopeKey) :
    Except StoreError (Option ScheduleRecord) × Rehearsal :=
  let cue := rehearsal.script.headD Cue.plain
  let reply :=
    match cue.readError, cue.readRecord with
    | some error, _ => .error error
    | none, some record => .ok (some record)
    | none, none => .ok (rehearsal.store.get? key)
  (reply, { rehearsal with script := rehearsal.script.tail, cue })

def write (rehearsal : Rehearsal) (operation : Store → Except StoreError Unit × Store) :
    Except StoreError Unit × Rehearsal :=
  let store := rehearsal.cue.beforeWrite.foldl Intrusion.apply rehearsal.store
  match rehearsal.cue.writeError with
  | some error => (.error error, { rehearsal with store })
  | none =>
    let written := operation store
    (written.1, { rehearsal with store := written.2 })

def record (rehearsal : Rehearsal) : Except MetricsError Unit × Rehearsal :=
  (rehearsal.recorderReplies.headD (.ok ()),
    { rehearsal with recorderReplies := rehearsal.recorderReplies.tail })

def notify (rehearsal : Rehearsal) : Except NotifyError Unit × Rehearsal :=
  (rehearsal.notifierReplies.headD (.ok ()),
    { rehearsal with notifierReplies := rehearsal.notifierReplies.tail })

/-- The middle of the numbers up to a bound. -/
def middle (bound : Nat) : Fin (bound + 1) :=
  ⟨bound / 2, by omega⟩

def respond (query : Query) (rehearsal : Rehearsal) : query.Reply × Rehearsal :=
  match query with
  | .now => rehearsal.now
  | .draw bound => (middle bound, rehearsal)
  | .sleep _ => ((), rehearsal)
  | .read key => rehearsal.read key
  | .create record => rehearsal.write fun store => store.create record
  | .update key expected record =>
    rehearsal.write fun store => store.update key expected record
  | .record _ => rehearsal.record
  | .notifySuccess .. => rehearsal.notify
  | .notifyFailure .. => rehearsal.notify

end Rehearsal

end Pacing
