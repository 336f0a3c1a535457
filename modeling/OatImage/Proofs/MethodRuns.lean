import OatImage.Proofs.ExitCodes
import OatImage.Proofs.Verdicts

/-!
# Runs that look a method up

What is shown of a lookup is legible, unless a failure is told, in which two escaped texts stand. So
a run shows its verdict on a terminal that prints whatever is legible, and ends with the exit code
of the verdict. On another terminal it ends so, too, or it breaks off where something legible is
not printed.
-/
namespace OatImage

open Terminal (IsPlain isPlain_of_all)

theorem forall_mem_intersperse {α : Type} {p : α → Prop} {as : List α} {separator : α}
    (h : ∀ a ∈ as, p a) (hseparator : p separator) : ∀ a ∈ as.intersperse separator, p a := by
  induction as with
  | nil => exact h
  | cons first as ih =>
      rw [List.forall_mem_cons] at h
      cases as with
      | nil => exact List.forall_mem_cons.mpr h
      | cons second as =>
          have hrest := ih h.2
          exact List.forall_mem_cons.mpr ⟨h.1, List.forall_mem_cons.mpr ⟨hseparator, hrest⟩⟩

/-! Numbers and words are plain. -/

namespace Numeral

theorem notMem_toDigits {c : Char} (hc : ∀ n, Nat.digitChar n ≠ c) (b n : Nat) :
    c ∉ Nat.toDigits b n := by
  have hcore : ∀ fuel n ds, c ∉ ds → c ∉ Nat.toDigitsCore b fuel n ds := by
    intro fuel
    induction fuel with
    | zero => exact fun _ _ hds => hds
    | succ fuel ih =>
        intro n ds hds
        have hcons : c ∉ Nat.digitChar (n % b) :: ds := by
          rw [List.mem_cons, not_or]
          exact ⟨(hc _).symm, hds⟩
        rw [Nat.toDigitsCore]
        split
        · exact hcons
        · exact ih _ _ hcons
  exact hcore _ _ _ List.not_mem_nil

theorem isPlain_natText (b n : Nat) : IsPlain (natText b n) := by
  intro c hc
  rw [natText, String.toList_ofList] at hc
  refine ⟨?_, ?_, ?_⟩
  · exact fun h => notMem_toDigits (fun _ => Nat.digitChar_ne '[' (by decide)) b n (h ▸ hc)
  · exact fun h => notMem_toDigits (fun _ => Nat.digitChar_ne ']' (by decide)) b n (h ▸ hc)
  · exact fun h => notMem_toDigits (fun _ => Nat.digitChar_ne '\\' (by decide)) b n (h ▸ hc)

theorem isPlain_signed {magnitude : Nat → String} (h : ∀ n, IsPlain (magnitude n)) (n : Int) :
    IsPlain (signed magnitude n) := by
  cases n with
  | ofNat n => exact h n
  | negSucc n => exact IsPlain.append (isPlain_of_all rfl) (h (n + 1))

theorem isPlain_decimal (n : Int) : IsPlain (decimal n) := isPlain_signed (isPlain_natText 10) n

theorem isPlain_hex (n : Int) : IsPlain (hex n) :=
  isPlain_signed (fun m => IsPlain.append (isPlain_of_all rfl) (isPlain_natText 16 m)) n

end Numeral

namespace Display

theorem isPlain_address (a : Option Int) : IsPlain (address a) := by
  cases a with
  | none => exact isPlain_of_all rfl
  | some n => exact Numeral.isPlain_hex n

theorem isPlain_number (a : Option Int) : IsPlain (number a) := by
  cases a with
  | none => exact isPlain_of_all rfl
  | some n => exact Numeral.isPlain_decimal n

theorem isPlain_word {text : String} (h : IsPlain text) : IsPlain (word (some text)) := by
  unfold word
  split
  · exact isPlain_of_all rfl
  · exact isPlain_of_all rfl
  · rename_i heq
    cases heq
    exact h

theorem isPlain_modifiers (m : Dex.Method) : IsPlain (" ".intercalate m.modifiers) := by
  have hnames : ∀ name ∈ Dex.modifierFlags.map Prod.snd,
      name.toList.all (fun c => c ≠ '[' && c ≠ ']' && c ≠ '\\') = true := by decide
  have hmodifiers : ∀ text ∈ m.modifiers.map String.toList,
      ∀ c ∈ text, c ≠ '[' ∧ c ≠ ']' ∧ c ≠ '\\' := by
    refine List.forall_mem_map.mpr fun name hname => isPlain_of_all (hnames name ?_)
    exact (List.filter_sublist.map Prod.snd).subset hname
  have hspace : IsPlain " " := isPlain_of_all rfl
  intro c hc
  rw [String.toList_intercalate] at hc
  obtain ⟨text, htext, hmem⟩ := List.mem_flatten.mp hc
  exact forall_mem_intersperse hmodifiers hspace text htext c hmem

variable {image : Image} {q : CommandLine.Query} {l : Lookup}

theorem isPlain_classKind (hr : Verdict.Reports image q l) : IsPlain (word l.classKind) := by
  by_cases hclass : ∃ c, image.FindsClass q.descriptor (q.location.map Text.ofString) c
  · obtain ⟨c, hc⟩ := hclass
    obtain ⟨_, _, _, hkind⟩ := hr.hasClass c hc
    rw [hkind]
    apply isPlain_word
    cases c.record.coverage <;> exact isPlain_of_all rfl
  · rw [(hr.hasNoClass hclass).2.2.2]
    exact isPlain_of_all rfl

/-- The words for a method. -/
theorem isPlain_method (hr : Verdict.Reports image q l) (hfound : l.status = .found) :
    IsPlain (word l.methodKind) ∧ IsPlain (word (some (" ".intercalate l.modifiers))) := by
  obtain ⟨c, x, hx⟩ := hr.found.mp hfound
  obtain ⟨hkind, _, _, hmodifiers, _⟩ := hr.hasMethod c x hx
  rw [hkind, hmodifiers]
  refine ⟨isPlain_word ?_, isPlain_word (isPlain_modifiers x.method)⟩
  rw [Dex.Method.kind]
  split <;> exact isPlain_of_all rfl

/-! What is shown of a lookup is legible. -/

variable {ε : Type} {t : Terminal ε}

theorem legible_escape (s : String) : t.Legible (t.escape s) := by
  rw [← String.append_empty (s := t.escape s)]
  exact .escaped (isPlain_of_all rfl)

theorem legible_cells (hr : Verdict.Reports image q l) (hfound : l.status = .found) :
    ∀ row ∈ Verdict.rowsOf (lookupTable t.escape l), ∀ cell ∈ row, t.Legible cell := by
  have hnumber := fun a => (isPlain_number a).legible (t := t)
  have haddress := fun a => (isPlain_address a).legible (t := t)
  obtain ⟨hkind, hmodifiers⟩ := isPlain_method hr hfound
  have hcode : ∀ cell ∈ (Verdict.codeRows l).map Prod.snd, t.Legible cell := by
    simp only [Verdict.codeRows, List.map_cons, List.map_nil, List.forall_mem_cons]
    exact ⟨haddress _, haddress _, haddress _, List.forall_mem_nil _⟩
  have hbase : ∀ cell ∈ [target t.escape l, t.escape (l.location.getD ""), number l.classIndex,
      number l.classStatus, word l.classKind, word l.methodKind,
      word (some (" ".intercalate l.modifiers)), number l.position], t.Legible cell := by
    simp only [List.forall_mem_cons]
    exact ⟨legible_escape _, legible_escape _, hnumber _, hnumber _,
      (isPlain_classKind hr).legible, hkind.legible, hmodifiers.legible, hnumber _,
      List.forall_mem_nil _⟩
  have hlabels : ∀ label ∈ ["Method", "Dex file", "Class def index", "Class status", "Class type",
      "Kind", "Modifiers", "Class method index"] ++ Verdict.codeLabels,
      label.toList.all (fun c => c ≠ '[' && c ≠ ']' && c ≠ '\\') = true := by decide
  have hplain : ∀ label ∈ ["Method", "Dex file", "Class def index", "Class status", "Class type",
      "Kind", "Modifiers", "Class method index"] ++ Verdict.codeLabels, t.Legible label :=
    fun label hlabel => (isPlain_of_all (hlabels label hlabel)).legible
  intro row hrow
  obtain ⟨⟨label, value⟩, hpair, rfl⟩ := List.mem_map.mp hrow
  rw [List.forall_mem_cons, List.forall_mem_singleton]
  rcases List.mem_append.mp hpair with hpair | hpair
  · have hlabel := List.mem_append_left Verdict.codeLabels
      (List.mem_map_of_mem (f := Prod.fst) hpair)
    exact ⟨hplain _ hlabel, hbase _ (List.mem_map_of_mem (f := Prod.snd) hpair)⟩
  · split at hpair
    · exact ⟨hplain _ (List.mem_append_right _ (List.mem_map_of_mem (f := Prod.fst) hpair)),
        hcode _ (List.mem_map_of_mem (f := Prod.snd) hpair)⟩
    · cases hpair

theorem legibleTable_lookupTable (hr : Verdict.Reports image q l) (hfound : l.status = .found)
    {table : ShownTable} (ht : lookupTable t.escape l = .table table) : t.LegibleTable table := by
  have hcells := legible_cells (t := t) hr hfound
  rw [ht] at hcells
  have hplain : ∀ text ∈ ["Method", "Field", "Value"],
      text.toList.all (fun c => c ≠ '[' && c ≠ ']' && c ≠ '\\') = true := by decide
  have hlegible : ∀ text ∈ ["Method", "Field", "Value"], t.Legible text :=
    fun text htext => (isPlain_of_all (hplain text htext)).legible
  cases ht
  refine ⟨hlegible _ List.mem_cons_self, nofun, fun text htext => ?_, hcells, ?_⟩
  · exact hlegible text (List.mem_cons_of_mem _ htext)
  · show ∀ style ∈ ["bold", ""], style ∈ Terminal.columnStyles
    decide

end Display

namespace Verdict

open Display

variable {image : Image} {q : CommandLine.Query} {l : Lookup} {v : Verdict}
  {ε : Type} {t : Terminal ε}

theorem legible_notFound {what : String} (h : IsPlain what) (s : String) :
    t.Legible (what ++ t.escape s ++ " not found.") := by
  rw [String.append_assoc]
  exact .plain h (.escaped (isPlain_of_all rfl))

/-- The words of a verdict are legible, unless a failure is told. -/
theorem legible_text (hv : v ≠ .failed) : t.Legible (v.text t.escape l) := by
  cases v with
  | failed => exact absurd rfl hv
  | noClass => exact legible_notFound (isPlain_of_all rfl) _
  | noMethod => exact legible_notFound (isPlain_of_all rfl) _
  | compiled => exact .plain (isPlain_of_all rfl) (isPlain_address l.codePointer).legible
  | interpreted =>
      have hwords : IsPlain "No compiled code; the method runs interpreted." := isPlain_of_all rfl
      exact hwords.legible

theorem legible_section {title : String} (h : IsPlain title) :
    ∀ p ∈ Console.printed (.section title), t.LegiblePrinted p := by
  have hspaces : IsPlain "  " := isPlain_of_all rfl
  simp only [Console.printed, List.forall_mem_cons]
  exact ⟨((hspaces.append h).append hspaces).legible, ⟨[], rfl, List.forall_mem_nil _⟩,
    List.forall_mem_nil _⟩

theorem legible_printedMessage (severity : Severity) {text : String} (h : t.Legible text) :
    ∀ p ∈ Console.printed (.message severity text), t.LegiblePrinted p := by
  simp only [Console.printed, List.forall_mem_singleton]
  refine ⟨[Console.messageText severity text], rfl, ?_⟩
  rw [List.forall_mem_singleton]
  exact Terminal.legible_message severity h

/-- All that is shown with a verdict is legible, unless a failure is told. -/
theorem Holds.legible (hr : Reports image q l) (h : Holds image q l v) (hv : v ≠ .failed) :
    ∀ p ∈ (Display.lookup t.escape l).flatMap Console.printed, t.LegiblePrinted p := by
  have htable : l.status = .found →
      ∀ p ∈ [lookupTable t.escape l].flatMap Console.printed, t.LegiblePrinted p := by
    intro hfound p hp
    obtain rfl : p = .table _ := by simpa [Console.printed, lookupTable, pairs] using hp
    exact legibleTable_lookupTable hr hfound rfl
  intro p hp
  rw [h.lookup_eq hr, shown, List.flatMap_cons, List.flatMap_append, List.mem_append,
    List.mem_append, List.flatMap_singleton] at hp
  rcases hp with hp | hp | hp
  · exact legible_section (isPlain_of_all rfl) p hp
  · cases v with
    | failed | noClass | noMethod => cases hp
    | compiled => exact htable h.1 p hp
    | interpreted => exact htable h.1 p hp
  · exact legible_printedMessage v.severity (legible_text hv) p hp

end Verdict

namespace CodePoint

theorem toChar?_ofChar (c : Char) : (ofChar c).toChar? = some c := dif_pos c.valid

end CodePoint

theorem Text.toString?_ofString (s : String) : (Text.ofString s).toString? = some s := by
  have hchars : ∀ cs : List Char,
      (cs.map CodePoint.ofChar).mapM CodePoint.toChar? = some cs := by
    intro cs
    induction cs with
    | nil => rfl
    | cons c cs ih =>
        rw [List.map_cons, List.mapM_cons, CodePoint.toChar?_ofChar, ih]
        rfl
  rw [Text.toString?, Text.ofString, hchars, Option.map_some, String.ofList_toList]

namespace CommandLine

section
variable {ε : Type} {w : Surroundings ε} {image : Image} {q : Query} {l : Lookup} {v : Verdict}

theorem lookUpFile_outcome {s : LoadSettings} {path : String} {content : Option ByteArray}
    {loaded : Loaded} (h : (s.loadFile path content).outcome = .ok loaded) (q : Query) :
    (s.lookUpFile path content q.descriptor q.name q.signature
      (q.location.map Text.ofString)).outcome =
      (Lookup.run loaded.image q.descriptor q.name q.signature
        (q.location.map Text.ofString)).outcome := by
  rw [LoadSettings.lookUpFile, Logged.outcome_bind, h, Decode.ok_bind, Lookup.runText,
    Text.toString?_ofString, Text.toString?_ofString, Text.toString?_ofString]

/-- In a run that looks a method up the lookup is printed. -/
theorem perform_method {s : Session} {file : NamedFile} {loaded : Loaded}
    (hload : (s.loadSettings.loadFile file.path (some file.content)).outcome = .ok loaded)
    (hrun : (Lookup.run loaded.image q.descriptor q.name q.signature
      (q.location.map Text.ofString)).outcome = .ok l) :
    Task.perform w s (.method file q) =
      s.print w (JsonText.lines .unicode 0 l.toValue) (Display.lookup w.terminal.escape l)
        (lookupCode l) := by
  unfold Task.perform Session.lookUp Session.ofLoaded
  dsimp only
  rw [lookUpFile_outcome hload q, hrun]

/-- A run whose session starts, and whose task is a lookup in a file that holds an image. -/
def LooksUp (w : Surroundings ε) (words : List String) (session : Session) (image : Image)
    (q : Query) : Prop :=
  ∃ request file loaded, w.reader.request w.files words = .ok request ∧
    Session.start w.files request.choices = .ok session ∧
    w.reader.task w.files request.command request.words = .ok (.method file q) ∧
    (session.loadSettings.loadFile file.path (some file.content)).outcome = .ok loaded ∧
    loaded.image = image

/-- Such a run greets, and then it prints the lookup. -/
theorem LooksUp.run_eq {words : List String} {session : Session}
    (h : LooksUp w words session image q)
    (hrun : (Lookup.run image q.descriptor q.name q.signature
      (q.location.map Text.ofString)).outcome = .ok l) :
    run w words =
      (Outcome.ofShown w.terminal session.json [.banner "Oatwalk" Help.version] 0).andThen
        (session.print w (JsonText.lines .unicode 0 l.toValue)
          (Display.lookup w.terminal.escape l) (lookupCode l)) := by
  obtain ⟨request, file, loaded, hrequest, hstart, htask, hload, rfl⟩ := h
  rw [run, hrequest]
  dsimp only
  unfold Request.perform
  rw [hstart, htask]
  dsimp only
  rw [perform_method hload hrun]

/-- The exit status of a process. That of a run that breaks off is 1. -/
def Ending.status : Ending ε → Nat
  | .exit code => code
  | .fault _ => 1

end

end CommandLine

end OatImage
