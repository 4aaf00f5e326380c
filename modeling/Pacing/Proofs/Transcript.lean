import Pacing.Handling.Query

/-!
# Events of the handling of messages

The events that matter for a store, which are the writes that were asked for
and the records that were written, and those that any collaborator can see.
-/

namespace Pacing.Handling

abbrev Event := Dialogue.Event Query Query.Reply Note

/-- Whether an event is a write, acknowledged or not. -/
def isWrite : Event → Bool
  | .exchange (.create _) _ => true
  | .exchange (.update ..) _ => true
  | _ => false

/-- The record that an event has written. -/
def written? : Event → Option ScheduleRecord
  | .exchange (.create record) (.ok ()) => some record
  | .exchange (.update _ _ record) (.ok ()) => some record
  | _ => none

/-- Whether an event is a call of a collaborator.  Notes are for the operators,
and chance is nobody. -/
def isCall : Event → Bool
  | .exchange (.draw _) _ => false
  | .exchange .. => true
  | .note _ => false

/-- The calls of collaborators in a transcript, in their order. -/
def calls (transcript : List Event) : List Event :=
  transcript.filter isCall

@[simp] theorem calls_nil : calls [] = [] := rfl

@[simp] theorem calls_note (note : Note) (transcript : List Event) :
    calls (.note note :: transcript) = calls transcript := rfl

theorem calls_append (earlier later : List Event) :
    calls (earlier ++ later) = calls earlier ++ calls later :=
  List.filter_append earlier later

end Pacing.Handling
