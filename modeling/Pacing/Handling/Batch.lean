import Pacing.Handling.Message

/-!
# Handling a batch

An event of the queue holds a batch of records.  Every record is handled on
its own, so that a bad one never stops the others, and the outcomes are
counted.
-/

namespace Pacing

/-- Why an event is not a batch of the queue. -/
inductive BatchError where
  | notQueueEvent
  deriving DecidableEq, Repr

namespace BatchError

def message : BatchError → String
  | .notQueueEvent =>
    "event is not an SQS batch: expected a non-empty Records array from aws:sqs"

end BatchError

/-- A queued message; the defects of a single record are kept in it. -/
structure QueuedMessage where
  id : Option String
  body : Option String
  /-- When the message was sent, in seconds. -/
  sentAt : Option Int64
  deriving DecidableEq, Repr

namespace QueuedMessage

/-- Milliseconds as seconds, rounded down. -/
def secondsOfMillis (millis : Int64) : Int64 :=
  Int64.ofInt (millis.toInt / 1000)

/-- The milliseconds that a text or an integer denotes. -/
def millis? : Json → Option Int64
  | .string text => (Text.readInt64 text).toOption
  | .integer word =>
    if word.value ≤ Int64.maxValue.toInt then some (Int64.ofInt word.value) else none
  | _ => none

def sentAt? (record : Json) : Option Int64 := do
  let attributes ← record.member? "attributes"
  let timestamp ← attributes.member? "SentTimestamp"
  return secondsOfMillis (← millis? timestamp)

def ofRecord (record : Json) : QueuedMessage :=
  { id := (record.member? "messageId").bind Json.text?
    body := (record.member? "body").bind Json.text?
    sentAt := sentAt? record }

/-- Whether a record comes from the queue. -/
def isFromQueue (record : Json) : Bool :=
  match record.member? "eventSource" with
  | some (.string source) => source == "aws:sqs"
  | _ => false

/-- The records of an event. -/
def records (event : Json) : List Json :=
  ((event.member? "Records").bind Json.items?).getD []

/-- An event of the queue has records, and all of them come from it. -/
def isQueueEvent (event : Json) : Bool :=
  !(records event).isEmpty && (records event).all isFromQueue

/-- The messages of an event, in its order. -/
def ofEvent (event : Json) : Except BatchError (List QueuedMessage) :=
  if isQueueEvent event then .ok ((records event).map ofRecord)
  else .error .notQueueEvent

end QueuedMessage

/-- How many messages of a batch ended in which way, under the status that every
batch has. -/
structure Tally where
  status : String
  scheduled : Nat
  failuresReported : Nat
  dropped : Nat
  callbacksUndelivered : Nat
  deriving DecidableEq, Repr

namespace Tally

def zero : Tally := ⟨"ok", 0, 0, 0, 0⟩

def add (tally : Tally) : Disposition → Tally
  | .scheduled .. => { tally with scheduled := tally.scheduled + 1 }
  | .failureReported _ => { tally with failuresReported := tally.failuresReported + 1 }
  | .dropped _ => { tally with dropped := tally.dropped + 1 }
  | .callbackUndelivered _ =>
    { tally with callbacksUndelivered := tally.callbacksUndelivered + 1 }

def total (tally : Tally) : Nat :=
  tally.scheduled + tally.failuresReported + tally.dropped + tally.callbacksUndelivered

def ofDispositions (dispositions : List Disposition) : Tally :=
  dispositions.foldl add zero

theorem total_add (tally : Tally) (disposition : Disposition) :
    (tally.add disposition).total = tally.total + 1 := by
  cases disposition <;> simp +arith [add, total]

theorem status_add (tally : Tally) (disposition : Disposition) :
    (tally.add disposition).status = tally.status := by
  cases disposition <;> rfl

end Tally

namespace Handling

/-- When a message arrived: when it was sent, or now if that is not known. -/
def arrival (message : QueuedMessage) : Handling Int64 :=
  match message.sentAt with
  | some sentAt => return sentAt
  | none => ask .now

/-- A message without a body cannot be answered: there is no token in it. -/
def dropBodiless (id : Option String) : Handling Disposition := do
  tell (.bodyMissing id)
  return .dropped "record has no string body"

/-- Handles the body of a queued message. -/
def handleBody (terms : Terms) (message : QueuedMessage) (observedAt : Int64) :
    Handling Disposition :=
  match message.body with
  | some body => handleMessage terms body observedAt
  | none => dropBodiless message.id

/-- Handles one queued message. -/
def handleQueued (terms : Terms) (message : QueuedMessage) : Handling Disposition := do
  let observedAt ← arrival message
  let disposition ← handleBody terms message observedAt
  tell (.messageHandled message.id disposition)
  return disposition

/-- Handles queued messages one after the other. -/
def handleAll (terms : Terms) : List QueuedMessage → Handling (List Disposition)
  | [] => return []
  | message :: others => do
    let disposition ← handleQueued terms message
    let dispositions ← handleAll terms others
    return disposition :: dispositions

/-- Handles an event of the queue. -/
def handleEvent (terms : Terms) (event : Json) : Handling (Except BatchError Tally) := do
  match QueuedMessage.ofEvent event with
  | .error error => return .error error
  | .ok messages =>
    let dispositions ← handleAll terms messages
    return .ok (Tally.ofDispositions dispositions)

end Handling

end Pacing
