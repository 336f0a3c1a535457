import OatImage.Log.Narration
import OatImage.Proofs.Outcomes

/-!
# What a lookup does to a logger

Writing changes the records of a logger and nothing else, whatever is written and whether
the level reaches the threshold. So when a lookup leaves its operation, the scope that it
leaves is the one that it entered, and the operation around it is open again.
-/
namespace OatImage

namespace Log.Logger

/-- The record that is made of an entry at a time during an operation. -/
def recordOf (l : Logger) (operation : Option String) (e : Instant × Entry) : Record :=
  { made := e.1, level := e.2.level, logger := l.name, tool := l.tool, operation, template := "%s"
    values := [.text e.2.message.toScalarString], context := contextFields e.2.context }

/-- The entries whose level reaches the threshold. -/
def heard (l : Logger) (entries : List (Instant × Entry)) : List (Instant × Entry) :=
  entries.filter fun e => l.threshold ≤ weight e.2.level

/-- The logger with a record for each entry that is heard, all of them during an operation. -/
def heardDuring (l : Logger) (operation : Option String) (entries : List (Instant × Entry)) :
    Logger :=
  { l with records := l.records ++ (l.heard entries).map (l.recordOf operation) }

variable (l : Logger)

/-- What one entry changes. -/
theorem note_eq (now : Instant) (e : Entry) :
    l.note now e = l.heardDuring l.operation [(now, e)] := by
  unfold note write heardDuring
  by_cases h : weight e.level < l.threshold
  · have hheard : l.heard [(now, e)] = [] :=
      List.filter_cons_of_neg (by simpa using h)
    rw [if_pos h, hheard, List.map_nil, List.append_nil]
  · have hheard : l.heard [(now, e)] = [(now, e)] :=
      List.filter_cons_of_pos (by simpa using h)
    rw [if_neg h, hheard]
    rfl

/-- What many entries change: each that is heard adds its record, in order. -/
theorem noteAll_eq (entries : List (Instant × Entry)) :
    l.noteAll entries = l.heardDuring l.operation entries := by
  induction entries generalizing l with
  | nil =>
      have hheard : l.heard [] = [] := rfl
      rw [heardDuring, hheard, List.map_nil, List.append_nil]
      rfl
  | cons e rest ih =>
      have hsplit : l.heard (e :: rest) = l.heard [e] ++ l.heard rest :=
        List.filter_append [e] rest
      have hstep : l.noteAll (e :: rest) = (l.note e.1 e.2).noteAll rest := rfl
      rw [hstep, ih, note_eq, heardDuring, heardDuring, heardDuring, hsplit, List.map_append,
        ← List.append_assoc]
      rfl

/-- Entering an operation, writing and leaving it adds records and changes nothing else. -/
theorem leave_noteAll_enterOperation (operation : String) (entries : List (Instant × Entry)) :
    ((l.enterOperation operation).noteAll entries).leaveOperation =
      l.heardDuring (some operation) entries := by
  rw [noteAll_eq]
  rfl

end Log.Logger

namespace Lookup

variable {times : Nat → Log.Instant} {image : Image} {descriptor name signature : String}
  {location : Option Text}

/-- The outcome of a lookup is the same on every logger. -/
theorem runOn_outcome (l : Log.Logger) :
    (runOn l times image descriptor name signature location).1 =
      (run image descriptor name signature location).outcome := by
  unfold runOn run Image.resolveMethod
  by_cases h : (!image.header.isValid) = true
  · rw [if_pos h, if_pos h]
    rfl
  · rw [if_neg h, if_neg h, Logged.outcome_bind, Logged.outcome_during]
    show ofResolution image _ <$>
      (image.resolveAnyway descriptor name signature location).outcome = _
    cases (image.resolveAnyway descriptor name signature location).outcome with
    | ok resolution => rfl
    | error e => rfl

/-- A lookup with an invalid header leaves the logger as it is; every other one adds a record
for each entry that is heard, all of them during the operation of the lookup. -/
theorem runOn_logger (l : Log.Logger) :
    (runOn l times image descriptor name signature location).2 =
    if image.header.isValid then
      l.heardDuring (some operationName)
        (Log.stamped times (image.resolveAnyway descriptor name signature location).entries)
    else l := by
  unfold runOn
  cases image.header.isValid with
  | false => rfl
  | true => exact l.leave_noteAll_enterOperation _ _

/-- A lookup opens no scope and closes none. -/
theorem runOn_operation (l : Log.Logger) :
    (runOn l times image descriptor name signature location).2.operation = l.operation ∧
      (runOn l times image descriptor name signature location).2.scopes = l.scopes := by
  rw [runOn_logger]
  cases image.header.isValid with
  | false => exact ⟨rfl, rfl⟩
  | true => exact ⟨rfl, rfl⟩

end Lookup

end OatImage
