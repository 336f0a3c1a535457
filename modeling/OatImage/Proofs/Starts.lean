import OatImage.CommandLine.Run
import OatImage.Proofs.LegibleTexts
import OatImage.Proofs.Outcomes

/-!
# Sessions that start

Without a settings file and an instruction set a session starts with the usual settings, whatever
else is chosen. Every message is legible if its text is, and so is the greeting.
-/
namespace OatImage

namespace Terminal

variable {ε : Type} {t : Terminal ε} {text : String}

theorem isLabel_sign (severity : Severity) : IsLabel (Console.sign severity) := by
  cases severity with
  | success => exact @IsLabel.signed '✔' " SUCCESS:" (by decide) (isPlain_of_all rfl)
  | warning => exact @IsLabel.signed '⚠' " WARNING:" (by decide) (isPlain_of_all rfl)
  | error => exact @IsLabel.signed '✘' " ERROR:" (by decide) (isPlain_of_all rfl)
  | info => exact @IsLabel.signed 'ℹ' " INFO:" (by decide) (isPlain_of_all rfl)

theorem legible_message (severity : Severity) (h : t.Legible text) :
    t.Legible (Console.messageText severity text) := by
  have hstyle : Console.signStyle severity ∈ Style.consoleNames := by
    cases severity <;> decide
  rw [Console.messageText, String.append_assoc]
  exact .styled hstyle (isLabel_sign severity) (.plain (isPlain_of_all rfl) h)

theorem legible_bannerText {tool version : String} (htool : IsPlain tool)
    (hversion : IsPlain version) : t.Legible (Console.bannerText tool version) := by
  have hfirst : IsLabel ("ArtScope " ++ tool) := .plain (IsPlain.append (isPlain_of_all rfl) htool)
  have hsecond : IsLabel ("Android Runtime image inspection  |  v" ++ version) :=
    .plain (IsPlain.append (isPlain_of_all rfl) hversion)
  have hline : t.Legible
      (Console.styled "artscope.dim" ("Android Runtime image inspection  |  v" ++ version)) := by
    rw [← String.append_empty (s := Console.styled _ _)]
    exact .styled (by decide) hsecond .empty
  rw [Console.bannerText, String.append_assoc]
  exact .styled (by decide) hfirst (.plain (isPlain_of_all rfl) hline)

end Terminal

namespace CommandLine

/-- The greeting is legible. -/
theorem legible_greeting {ε : Type} (t : Terminal ε) :
    ∀ p ∈ [Shown.banner "Oatwalk" Help.version].flatMap Console.printed, t.LegiblePrinted p := by
  intro p hp
  obtain rfl : p = .panel (Console.bannerText "Oatwalk" Help.version) := by
    simpa [Console.printed] using hp
  exact Terminal.legible_bannerText (Terminal.isPlain_of_all rfl) (Terminal.isPlain_of_all rfl)

/-! The usual settings. -/

theorem knownThreshold_of_capitals {name : String}
    (h : ∀ c ∈ name.toList, 65 ≤ c.toNat ∧ c.toNat ≤ 90)
    (hweight : (Log.weights.lookup name).isSome = true) :
    ∃ weight, Log.knownThreshold name = .ok weight := by
  have hformat : name ≠ "BASIC_FORMAT" := by
    rintro rfl
    exact absurd hweight (by decide)
  have hstyles : name ≠ "_STYLES" := by
    rintro rfl
    exact absurd hweight (by decide)
  rw [Log.knownThreshold, LetterCase.upper_of_capitals h, Log.thresholdOfKey, if_neg hformat,
    if_neg hstyles]
  simp only [bind, Except.bind, hweight, if_true]
  exact ⟨_, rfl⟩

theorem Session.checkLog_usual (files : Files) (verbose : Bool) :
    Session.checkLog files {} verbose = .ok () := by
  have hlevel : Session.levelName {} verbose = .ok (if verbose then "DEBUG" else "INFO") := by
    cases verbose <;> rfl
  have hname : ∃ weight,
      Log.knownThreshold (if verbose then "DEBUG" else "INFO") = .ok weight := by
    cases verbose with
    | false => exact knownThreshold_of_capitals (by simp) (by decide)
    | true => exact knownThreshold_of_capitals (by simp) (by decide)
  obtain ⟨weight, hweight⟩ := hname
  unfold Session.checkLog
  simp only [hlevel, bind, Except.bind, hweight, Except.mapError]
  rfl

/-- Without a settings file and an instruction set a session starts with the usual settings. -/
theorem Session.start_usual (files : Files) {c : Choices} (hconfig : c.config = none)
    (hisa : c.isa = none) :
    Session.start files c = .ok ⟨Session.withChoices {} c, none, c.json⟩ := by
  have hsettings : Session.settings c = .ok {} := by
    rw [Session.settings, hconfig]
  have hjson : Session.wantsJson {} c = c.json := by
    have hconsole : decide ((Value.text "console") = .text "json") = false := by decide
    rw [Session.wantsJson, hconsole, Bool.or_false]
  have hparse : InstructionSet.parse (Text.ofString "auto") = .ok none := rfl
  have hasked : Session.askedFor (Session.withChoices {} c) c.json = .ok none := by
    simp only [Session.askedFor, Session.withChoices, hisa, Option.map_none, Option.getD_none,
      hparse, Except.mapError]
  unfold Session.start
  simp only [hsettings, Session.checkLog_usual, hjson, hasked, bind, Except.bind, Except.mapError,
    pure, Except.pure]

end CommandLine

end OatImage
