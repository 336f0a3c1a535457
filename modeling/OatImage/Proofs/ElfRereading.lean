import OatImage.Proofs.ElfMemory
import OatImage.Proofs.ElfSymbols
import OatImage.Proofs.Outcomes

/-!
# Reading a file again

A container that reads its file again adds the sections and the segments once more to those that
it has. The symbols that it knew stay as they are, and so do the images between them, as a
segment that is placed again puts the same bytes there. But what the segments reserve counts once
for every read: a span that is refused after one read as too long for the memory is accepted
after more. And a table that is linked to a section beyond the last one finds names there once
the sections are there twice.
-/
namespace OatImage.Elf.Container

/-- The container after a number of further reads. -/
def reread (c : Container) : Nat → Container
  | 0 => c
  | n + 1 => (c.reread n).read.2

/-- Every symbol table is linked to a section of the file. -/
def LinksInside (c : Container) : Prop :=
  ∀ table ∈ symbolTables c.sections, table.link < c.sections.length

instance (c : Container) : Decidable c.LinksInside :=
  inferInstanceAs (Decidable (∀ table ∈ symbolTables c.sections, _))

/-- What a number of further reads leaves as it is. A symbol that was found is found, and an image
that was loaded is loaded. Where all symbol tables are linked to sections of the file, every name
stands for what it did, every load ends as it did unless it was refused for the memory, and the
memory that counts as reserved has grown by one time for each read. -/
structure KeepsAfter (c : Container) (n : Nat) (c' : Container) : Prop where
  symbol : ∀ name s, c.symbol name = some s → c'.symbol name = some s
  image : ∀ startName lastName limit loaded, c.load startName lastName limit = .ok loaded →
    c'.load startName lastName limit = .ok loaded
  symbol_eq : c.LinksInside → ∀ name, c'.symbol name = c.symbol name
  load_eq : c.LinksInside → ∀ startName lastName limit,
    (∀ span, c.load startName lastName limit ≠ .error (.load (.spanOverMemory span c.reserved))) →
      c'.load startName lastName limit = c.load startName lastName limit
  load_eq_loadWithin : c.LinksInside → ∀ startName lastName limit,
    c'.load startName lastName limit =
      c.loadWithin ((n + 1) * c.reserved) startName lastName limit

/-! One more read. -/

/-- What a container holds after a number of further reads, beside what it held after the first. -/
structure Repeats (data : ByteArray) (c : Container) (n : Nat) (c' : Container) : Prop where
  shows : c'.Shows (Encoding.ofFile data.data.toList) data.data.toList
  sections : c'.sections = (List.replicate (n + 1) c.sections).flatten
  segments : c'.segments = (List.replicate (n + 1) c.segments).flatten
  symbols : ∃ added, c'.symbols = c.symbols ++ added ∧
    (c.LinksInside → ∀ s ∈ added, s ∈ c.symbols)
  isRead : c'.isRead = true

variable {data : ByteArray} {c c' : Container} {n : Nat}

theorem copies_succ {α : Type} (n : Nat) (xs : List α) :
    (List.replicate (n + 1) xs).flatten = (List.replicate n xs).flatten ++ xs := by
  rw [List.replicate_succ', List.flatten_append, List.flatten_singleton]

theorem reservedBy_copies (n : Nat) (segments : List Segment) :
    reservedBy (List.replicate n segments).flatten = n * reservedBy segments := by
  induction n with
  | zero => exact (Nat.zero_mul _).symm
  | succ n ih =>
      have happend (xs ys : List Segment) :
          reservedBy (xs ++ ys) = reservedBy xs + reservedBy ys := by
        rw [reservedBy, List.filter_append, List.map_append, Numeral.total_append]
        rfl
      rw [copies_succ, happend, ih, Nat.succ_mul]

theorem mem_of_mem_copies {α : Type} {xs : List α} {x : α}
    (h : x ∈ (List.replicate n xs).flatten) : x ∈ xs := by
  obtain ⟨ys, hys, hx⟩ := List.mem_flatten.mp h
  rwa [List.eq_of_mem_replicate hys] at hx

theorem mem_symbolTables_of_copies {sections : List Section} {table : Section}
    (h : table ∈ symbolTables (List.replicate n sections).flatten) :
    table ∈ symbolTables sections := by
  simp only [symbolTables, List.mem_append, List.mem_filter] at h ⊢
  rcases h with ⟨htable, hkind⟩ | ⟨htable, hkind⟩
  · exact .inl ⟨mem_of_mem_copies htable, hkind⟩
  · exact .inr ⟨mem_of_mem_copies htable, hkind⟩

/-- A copy of a table contributes what the table does, as its link leads to the same section. -/
theorem Shows.allSymbols_of_copies {e : Encoding} {file : List UInt8} (h : c.Shows e file)
    (h' : c'.Shows e file) (hsections : c'.sections = (List.replicate (n + 1) c.sections).flatten)
    (hlinks : c.LinksInside) {s : Symbol} (hs : s ∈ c'.allSymbols) : s ∈ c.allSymbols := by
  rw [allSymbols_eq_flatMap] at hs ⊢
  obtain ⟨table, htable, hs⟩ := List.mem_flatMap.mp hs
  have hold : table ∈ symbolTables c.sections := mem_symbolTables_of_copies (hsections ▸ htable)
  have hlink : c'.sections[table.link]? = c.sections[table.link]? := by
    rw [hsections, List.replicate_succ, List.flatten_cons]
    exact List.getElem?_append_left (hlinks table hold)
  rw [h.tableSymbols_congr h' hlink] at hs
  exact List.mem_flatMap.mpr ⟨table, hold, hs⟩

theorem Gains.repeats (h : Gains { data } c) : c.Repeats data 0 c where
  shows := h.shows
  sections := (List.append_nil _).symm
  segments := (List.append_nil _).symm
  symbols := ⟨[], (List.append_nil _).symm, fun _ _ hs => nomatch hs⟩
  isRead := h.isRead

theorem Repeats.read (hfirst : Gains { data } c) (helf : IsElf data.data.toList)
    (h : c.Repeats data n c') : ∃ c'', c'.read = (true, c'') ∧ c.Repeats data (n + 1) c'' := by
  rcases c'.read_cases with ⟨_, c'', hread, hgains⟩ | ⟨hnot, _⟩
  · have hdata : c'.data.data.toList = data.data.toList := h.shows.data
    have hshows : c''.Shows (Encoding.ofFile data.data.toList) data.data.toList :=
      hdata ▸ hgains.shows
    have hsections : c''.sections = (List.replicate (n + 2) c.sections).flatten := by
      have hfirstSections : c.sections = c.sectionTable := hfirst.sections
      rw [hgains.sections, hfirst.shows.sectionTable_congr hshows, ← hfirstSections, h.sections,
        copies_succ (n + 1)]
    have hsegments : c''.segments = (List.replicate (n + 2) c.segments).flatten := by
      have hfirstSegments : c.segments = c.segmentTable := hfirst.segments
      rw [hgains.segments, hfirst.shows.segmentTable_congr hshows, ← hfirstSegments, h.segments,
        copies_succ (n + 1)]
    refine ⟨c'', hread, hshows, hsections, hsegments, ?_, hgains.isRead⟩
    obtain ⟨added, hadded, hold⟩ := h.symbols
    refine ⟨added ++ c''.allSymbols, ?_, ?_⟩
    · rw [hgains.symbols, hadded, List.append_assoc]
    · intro hlinks s hs
      rcases List.mem_append.mp hs with hs | hs
      · exact hold hlinks s hs
      · have hfirstSymbols : c.symbols = c.allSymbols := hfirst.symbols
        rw [hfirstSymbols]
        exact hfirst.shows.allSymbols_of_copies hshows hsections hlinks hs
  · exact absurd (show IsElf c'.data.data.toList from h.shows.data ▸ helf) hnot

theorem reread_repeats (hfirst : Gains { data } c) (helf : IsElf data.data.toList) (n : Nat) :
    c.Repeats data n (c.reread n) := by
  induction n with
  | zero => exact hfirst.repeats
  | succ n ih =>
      obtain ⟨c', hread, hnext⟩ := ih.read hfirst helf
      rw [reread, hread]
      exact hnext

/-! What the copies change. -/

/-- More memory changes a load only if it was refused for the memory. -/
theorem loadWithin_mono {reserved reserved' : Nat} {startName lastName limit : Value}
    (hle : reserved ≤ reserved')
    (h : ∀ span, c.loadWithin reserved startName lastName limit ≠
      .error (.load (.spanOverMemory span reserved))) :
    c.loadWithin reserved' startName lastName limit =
      c.loadWithin reserved startName lastName limit := by
  cases hread : c.isRead with
  | false => simp only [loadWithin, hread, Bool.not_false, if_true]
  | true =>
      cases hstart : c.named startName with
      | error e =>
          simp only [loadWithin, hread, hstart, Bool.not_true, Bool.false_eq_true, if_false,
            Decode.error_bind]
      | ok start =>
          cases hlast : c.named lastName with
          | error e =>
              simp only [loadWithin, hread, hstart, hlast, Bool.not_true, Bool.false_eq_true,
                if_false, Decode.ok_bind, Decode.error_bind]
          | ok last =>
              rw [loadWithin_of_named _ _ hread hstart hlast] at h ⊢
              rw [loadWithin_of_named _ _ hread hstart hlast]
              by_cases hinverted : last.stop ≤ start.value
              · rw [if_pos hinverted, if_pos hinverted]
              by_cases hover : reserved < last.stop - start.value
              · rw [if_neg hinverted, if_pos hover] at h
                exact absurd rfl (h _)
              have hwithin : ¬ reserved' < last.stop - start.value := by omega
              rw [if_neg hinverted, if_neg hinverted, if_neg hover, if_neg hwithin]

namespace Repeats

variable (h : c.Repeats data n c')
include h

theorem symbol_of_some {name : String} {s : Symbol} (hs : c.symbol name = some s) :
    c'.symbol name = some s := by
  obtain ⟨added, hadded, _⟩ := h.symbols
  rw [symbol] at hs
  rw [symbol, hadded, List.find?_append, hs, Option.some_or]

theorem symbol_eq (hlinks : c.LinksInside) (name : String) : c'.symbol name = c.symbol name := by
  cases hs : c.symbol name with
  | some s => exact h.symbol_of_some hs
  | none =>
      obtain ⟨added, hadded, hold⟩ := h.symbols
      rw [symbol, List.find?_eq_none] at hs
      rw [symbol, hadded, List.find?_eq_none]
      intro s hmem
      rcases List.mem_append.mp hmem with hmem | hmem
      · exact hs s hmem
      · exact hs s (hold hlinks s hmem)

theorem reserved_eq : c'.reserved = (n + 1) * c.reserved := by
  have hsum (c : Container) : c.reserved = reservedBy c.segments := rfl
  rw [hsum, hsum, h.segments, reservedBy_copies]

theorem reserved_le : c.reserved ≤ c'.reserved := by
  rw [h.reserved_eq]
  exact Nat.le_mul_of_pos_left _ n.succ_pos

/-- The last segment that has a byte for an address is the same in the last copy. -/
theorem hasByte_iff (file : List UInt8) (address : Nat) (b : UInt8) :
    HasByte file c'.segments address b ↔ HasByte file c.segments address b := by
  rw [HasByte, HasByte, h.segments, List.filter_flatten, List.map_replicate,
    List.getLast?_flatten, List.reverse_replicate, List.findSome?_replicate,
    if_neg (Nat.succ_ne_zero n)]

/-- The bytes of a span are those of the memory, so they are the same too. -/
theorem spanBytes_eq (hfirst : Gains { data } c) (base stop : Nat) :
    c'.spanBytes base stop = c.spanBytes base stop := by
  obtain ⟨hsize', hbytes'⟩ := h.shows.spanBytes_spec base stop
  obtain ⟨hsize, hbytes⟩ := hfirst.shows.spanBytes_spec base stop
  apply ByteArray.ext_getElem (hsize'.trans hsize.symm)
  intro k hk' hk
  have hagain := (h.hasByte_iff _ _ _).mp (hbytes' k hk')
  exact hagain.unique (hbytes k hk)

theorem makeRoom_eq (hfirst : Gains { data } c) : c'.makeRoom = c.makeRoom := by
  funext size
  rw [h.shows.makeRoom_eq, hfirst.shows.makeRoom_eq]

theorem named_of_ok {name : Value} {s : Symbol} (hs : c.named name = .ok s) :
    c'.named name = .ok s := by
  cases name with
  | text name =>
      cases hsymbol : c.symbol name with
      | some found =>
          rw [named_of_symbol hsymbol] at hs
          rw [named_of_symbol (h.symbol_of_some hsymbol), hs]
      | none =>
          rw [named_of_missing hsymbol] at hs
          cases hs
  | _ => cases hs

/-- An image that is loaded after the first read is loaded after every other one. -/
theorem load_of_ok (hfirst : Gains { data } c) {startName lastName limit : Value}
    {loaded : ByteArray × Nat} (hload : c.load startName lastName limit = .ok loaded) :
    c'.load startName lastName limit = .ok loaded := by
  obtain ⟨start, last, hstart, hlast, _⟩ := named_of_load hload
  have hsame : c'.load startName lastName limit =
      c.loadWithin c'.reserved startName lastName limit := by
    rw [load_eq_loadWithin, loadWithin_of_named _ _ hfirst.isRead hstart hlast,
      loadWithin_of_named _ _ h.isRead (h.named_of_ok hstart) (h.named_of_ok hlast),
      h.spanBytes_eq hfirst, h.makeRoom_eq hfirst]
  rw [load_eq_loadWithin] at hload
  rw [hsame, loadWithin_mono h.reserved_le (by rw [hload]; exact fun _ he => nomatch he), hload]

/-- If the symbols are the same all that counts is the memory that is reserved. -/
theorem load_eq (hfirst : Gains { data } c) (hlinks : c.LinksInside) :
    c'.load = c.loadWithin ((n + 1) * c.reserved) := by
  have hread : c'.isRead = c.isRead := h.isRead.trans hfirst.isRead.symm
  have hnamed : c'.named = c.named := by
    funext name
    cases name with
    | text name => simp only [named, h.symbol_eq hlinks]
    | _ => rfl
  rw [load_eq_loadWithin, h.reserved_eq]
  funext startName lastName limit
  simp only [loadWithin, hread, hnamed, h.spanBytes_eq hfirst, h.makeRoom_eq hfirst]

end Repeats

/-- A file that is read once is read any number of times more. What was found stays, what was
loaded stays, and for tables that are linked to sections of the file only the memory that counts
as reserved grows. -/
theorem reread_keeps (hread : read { data } = (true, c)) (n : Nat) :
    (c.reread n).read.1 = true ∧ c.KeepsAfter n (c.reread n) := by
  rcases read_cases { data } with ⟨helf, c', hread', hfirst⟩ | ⟨_, c', hread'⟩
  · rw [hread] at hread'
    cases hread'
    have hrepeats := reread_repeats hfirst helf n
    obtain ⟨c', hnext, _⟩ := hrepeats.read hfirst helf
    refine ⟨by rw [hnext], ?_, ?_, ?_, ?_, ?_⟩
    · intro name s hs
      exact hrepeats.symbol_of_some hs
    · intro startName lastName limit loaded hload
      exact hrepeats.load_of_ok hfirst hload
    · intro hlinks name
      exact hrepeats.symbol_eq hlinks name
    · intro hlinks startName lastName limit hload
      rw [hrepeats.load_eq hfirst hlinks, ← hrepeats.reserved_eq]
      exact loadWithin_mono hrepeats.reserved_le hload
    · intro hlinks startName lastName limit
      rw [hrepeats.load_eq hfirst hlinks]
  · rw [hread] at hread'
    cases hread'

/-- A span of twelve bytes is refused for ten bytes of memory, and is loaded after another read. -/
theorem reread_keeps_overlappingSegments :
    ∃ c, read { data := overlappingSegments 5 } = (true, c) ∧ c.LinksInside ∧
      c.load (.text "a") (.text "b") .none = .error (.load (.spanOverMemory 12 10)) ∧
      (c.reread 1).load (.text "a") (.text "b") .none = .ok (c.spanBytes 4096 4108, 4096) ∧
      ∀ n, (c.reread n).read.1 = true ∧ c.KeepsAfter n (c.reread n) := by
  have helf : (read { data := overlappingSegments 5 }).1 = true := by decide +kernel
  obtain ⟨c, hread, hisRead, hstart, hlast, hreserved, hlinks⟩ :
      ∃ c, read { data := overlappingSegments 5 } = (true, c) ∧ c.isRead = true ∧
        c.symbol "a" = some ⟨"a", 4096, 0⟩ ∧ c.symbol "b" = some ⟨"b", 4104, 0⟩ ∧
        c.reserved = 10 ∧ c.LinksInside := by
    refine ⟨(read { data := overlappingSegments 5 }).2, by rw [← helf], ?_⟩
    decide +kernel
  have hkeeps := fun n => reread_keeps hread n
  have hload (reserved : Nat) := loadWithin_of_named reserved .none hisRead
    (named_of_symbol hstart) (named_of_symbol hlast)
  refine ⟨c, hread, hlinks, ?_, ?_, hkeeps⟩
  · rw [load_eq_loadWithin, hload, hreserved]
    rfl
  · rw [(hkeeps 1).2.load_eq_loadWithin hlinks, hload, hreserved]
    rfl

end OatImage.Elf.Container
