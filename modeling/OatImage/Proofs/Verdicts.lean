import OatImage.CommandLine.Run
import OatImage.Proofs.Lookups

/-!
# Verdicts on lookups

A lookup is shown with one verdict on it, which agrees with what came of the lookup and with the
exit code. Which fields of a lookup are set decides the verdict, in another order than that in
which they are set.
-/
namespace OatImage

open CommandLine (Query)

/-- What is said of a lookup. -/
inductive Verdict
  | failed
  | noClass
  | noMethod
  | compiled
  | interpreted
deriving DecidableEq, Repr

namespace Verdict

def severity : Verdict → Severity
  | .failed => .error
  | .noClass => .warning
  | .noMethod => .warning
  | .compiled => .success
  | .interpreted => .info

def exitCode : Verdict → Nat
  | .failed => 1
  | .noClass => 2
  | .noMethod => 2
  | .compiled => 0
  | .interpreted => 0

open Display

section
variable (escape : String → String)

/-- The words of a verdict. -/
def text (l : Lookup) : Verdict → String
  | .failed => "Lookup of " ++ target escape l ++ " failed: " ++ escape (l.error.getD "")
  | .noClass => "Class " ++ escape l.descriptor ++ " not found."
  | .noMethod => "Method " ++ target escape l ++ " not found."
  | .compiled => "Compiled code at " ++ address l.codePointer
  | .interpreted => "No compiled code; the method runs interpreted."

/-- The table of the method that was found. -/
def table (l : Lookup) : Verdict → List Shown
  | .compiled => [lookupTable escape l]
  | .interpreted => [lookupTable escape l]
  | _ => []

/-- All that is shown of a lookup with a verdict: a heading, the table and one message. -/
def shown (l : Lookup) (v : Verdict) : List Shown :=
  .section "Method Lookup" :: (v.table escape l ++ [.message v.severity (v.text escape l)])

end

/-- What a verdict says came of a lookup. -/
def Holds (image : Image) (q : Query) (l : Lookup) : Verdict → Prop
  | .failed => l.status = .failure
  | .noClass => l.status = .notFound ∧
      ¬ ∃ c, image.FindsClass q.descriptor (q.location.map Text.ofString) c
  | .noMethod => l.status = .notFound ∧
      ∃ c, image.FindsClass q.descriptor (q.location.map Text.ofString) c
  | .compiled => l.status = .found ∧ l.compiled = true
  | .interpreted => l.status = .found ∧ l.compiled = false

variable {image : Image} {q : Query} {l : Lookup} {v w : Verdict} {escape : String → String}

theorem Holds.lookupCode (h : Holds image q l v) : CommandLine.lookupCode l = v.exitCode := by
  cases v with
  | failed => rw [CommandLine.lookupCode, show l.status = .failure from h, exitCode]
  | noClass => rw [CommandLine.lookupCode, h.1, exitCode]
  | noMethod => rw [CommandLine.lookupCode, h.1, exitCode]
  | compiled => rw [CommandLine.lookupCode, h.1, exitCode]
  | interpreted => rw [CommandLine.lookupCode, h.1, exitCode]

theorem severity_eq (h : v.severity = w.severity) :
    v = w ∨ v = .noClass ∧ w = .noMethod ∨ v = .noMethod ∧ w = .noClass := by
  cases v <;> cases w <;> revert h <;> decide

/-- Different verdicts are shown differently: the two warnings start with different words. -/
theorem shown_injective (escape : String → String) (l : Lookup) :
    Function.Injective (shown escape l) := by
  have hwords : text escape l .noClass ≠ text escape l .noMethod := by
    intro h
    change "Class " ++ escape l.descriptor ++ " not found." =
      "Method " ++ target escape l ++ " not found." at h
    have hletter := congrArg (fun s => s.toList.head?) h
    simp at hletter
  intro v w h
  have htail := List.append_inj' (List.cons.inj h).2 rfl
  obtain ⟨hseverity, htext⟩ := Shown.message.inj (List.cons.inj htail.2).1
  rcases severity_eq hseverity with heq | ⟨rfl, rfl⟩ | ⟨rfl, rfl⟩
  · exact heq
  · exact absurd htext hwords
  · exact absurd htext.symm hwords

/-- The report of a lookup in an image. -/
abbrev Reports (image : Image) (q : Query) (l : Lookup) : Prop :=
  l.IsReport image q.descriptor q.name q.signature (q.location.map Text.ofString)

theorem classIndex_eq_none (hr : Reports image q l) : l.classIndex = none ↔
    ¬ ∃ c, image.FindsClass q.descriptor (q.location.map Text.ofString) c := by
  constructor
  · rintro hnone ⟨c, hc⟩
    cases hnone.symm.trans (hr.hasClass c hc).2.1
  · intro hnone
    exact (hr.hasNoClass hnone).2.1

theorem classIndex_ne_none (hr : Reports image q l) (hfound : l.status = .found) :
    l.classIndex ≠ none := by
  obtain ⟨c, x, hx⟩ := hr.found.mp hfound
  exact fun hnone => (classIndex_eq_none hr).mp hnone ⟨c, hx.1⟩

/-- What is shown of a lookup is shown with the verdict that holds. -/
theorem Holds.lookup_eq (hr : Reports image q l) (h : Holds image q l v) :
    Display.lookup escape l = v.shown escape l := by
  unfold Display.lookup
  cases v with
  | failed =>
      rw [if_pos (show l.status = .failure from h)]
      rfl
  | noClass =>
      rw [if_neg (h.1 ▸ nofun), if_pos ((classIndex_eq_none hr).mpr h.2)]
      rfl
  | noMethod =>
      rw [if_neg (h.1 ▸ nofun), if_neg fun hnone => (classIndex_eq_none hr).mp hnone h.2,
        if_pos h.1]
      rfl
  | compiled =>
      rw [if_neg (h.1 ▸ nofun), if_neg (classIndex_ne_none hr h.1), if_neg (h.1 ▸ nofun),
        if_pos h.2]
      rfl
  | interpreted =>
      rw [if_neg (h.1 ▸ nofun), if_neg (classIndex_ne_none hr h.1), if_neg (h.1 ▸ nofun),
        if_neg (h.2 ▸ nofun)]
      rfl

theorem holds_iff (hr : Reports image q l) (h : Holds image q l v) :
    Holds image q l w ↔ w = v := by
  constructor
  · exact fun hw => shown_injective id l ((hw.lookup_eq hr).symm.trans (h.lookup_eq hr))
  · rintro rfl
    exact h

/-! The rows of the code. -/

/-- What stands before the values in the rows that say where the code of a method is. -/
def codeLabels : List String := ["Code offset", "Entry point", "Code pointer"]

def rowsOf : Shown → List (List String)
  | .table t => t.rows
  | _ => []

/-- The rows of the tables that are shown of a lookup. -/
def rows (escape : String → String) (l : Lookup) : List (List String) :=
  (Display.lookup escape l).flatMap rowsOf

def codeRows (l : Lookup) : List (String × String) :=
  [("Code offset", address l.codeOffset), ("Entry point", address l.entryPoint),
    ("Code pointer", address l.codePointer)]

/-- What a message says; nothing else that is shown is a verdict. -/
def messageOf : Shown → Option (Severity × String)
  | .message severity text => some (severity, text)
  | _ => none

/-- A verdict is the one that holds, and the only one that is shown. -/
structure Settles (v : Verdict) (escape : String → String) (image : Image) (q : Query)
    (l : Lookup) : Prop where
  holds : ∀ w : Verdict, w.Holds image q l ↔ w = v
  display : ∀ w : Verdict, Display.lookup escape l = w.shown escape l ↔ w = v
  message : (Display.lookup escape l).filterMap messageOf = [(v.severity, v.text escape l)]
  codeRows : ∀ label ∈ codeLabels,
    ((∃ value, [label, value] ∈ rows escape l) ↔ l.compiled = true) ∧
      ∀ value, [label, value] ∈ rows escape l → value ≠ "-"
  exitCode : CommandLine.lookupCode l = v.exitCode

end Verdict

end OatImage
