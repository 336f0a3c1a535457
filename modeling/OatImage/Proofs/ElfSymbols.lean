import OatImage.Proofs.ElfTables

/-!
# The symbols of any file

A name stands for the first symbol with it in the symbol tables of a file, the dynamic ones
before the others and each kind in the order of the section headers. What a table contributes is
the same for every file: its entries up to the first that crosses the end of the file, and
nothing if its entries have no size or its names are not in the file. So a file bounds the
symbols that are read from it, whatever size a table declares.
-/
namespace OatImage.Elf

/-- A symbol table is linked to a string table that is there, is not empty and lies in the file
as a whole. -/
structure HasNames (file : List UInt8) (sections : List Section) (table : Section)
    (names : List UInt8) : Prop where
  nonempty : names ≠ []
  linked : ∃ s, sections[table.link]? = some s ∧ s.size = names.length ∧ At file s.offset names

/-- The entries that a symbol table contributes, those without a name among them. -/
inductive SymbolsOf (e : Encoding) (file : List UInt8) (sections : List Section)
    (table : Section) : List Symbol → Prop
  | nothing (h : table.entrySize = 0 ∨ ∀ names, ¬ HasNames file sections table names) :
      SymbolsOf e file sections table []
  | entries (names : List UInt8) (symbols : List Symbol) (hsize : table.entrySize ≠ 0)
      (hnames : HasNames file sections table names)
      (h : TableAt file (ShowsSymbol e file names) e.symbolSize table.entrySize
        (table.size / table.entrySize) table.offset symbols) :
      SymbolsOf e file sections table symbols

/-- The symbol tables of a file, the dynamic ones first. -/
def symbolTables (sections : List Section) : List Section :=
  (sections.filter fun s => s.kind = dynamicSymbolTable) ++
    sections.filter fun s => s.kind = symbolTable

/-- A name stands for the first symbol with it that the symbol tables of a file contribute. Each
table contributes at most as many symbols as the file has bytes. -/
def Container.Resolves (c : Container) (file : List UInt8) : Prop :=
  ∃ sections segments, Declares file sections segments ∧
    ∃ contributed : Section → List Symbol,
      (∀ table ∈ symbolTables sections,
        SymbolsOf (Encoding.ofFile file) file sections table (contributed table) ∧
          (contributed table).length ≤ file.length) ∧
      ∀ name, c.symbol name = ((symbolTables sections).flatMap contributed).find?
        fun s => s.name ≠ "" ∧ s.name = name

theorem SymbolsOf.length_le {e : Encoding} {file : List UInt8} {sections : List Section}
    {table : Section} {symbols : List Symbol} (h : SymbolsOf e file sections table symbols) :
    symbols.length ≤ file.length := by
  cases h with
  | nothing h => exact Nat.zero_le _
  | entries names _ hsize hnames h =>
      have hpos : 0 < e.symbolSize := Encoding.le_place (by decide) (by decide)
      rcases h.length_le hpos (Nat.pos_of_ne_zero hsize) with rfl | hlen
      · exact Nat.zero_le _
      · omega

namespace Container

/-- The entries of a symbol table, with or without a name. -/
def tableEntries (c : Container) (table : Section) : List Symbol :=
  let names := c.linkedNames table
  if table.entrySize = 0 || names.isEmpty then []
  else
    c.entries c.symbolSize table.entrySize (c.symbolAt names) (table.size / table.entrySize)
      table.offset

theorem tableSymbols_eq_filter (c : Container) (table : Section) :
    c.tableSymbols table = (c.tableEntries table).filter fun s => s.name ≠ "" := by
  rw [tableSymbols, tableEntries]
  split
  · rfl
  · rfl

theorem allSymbols_eq_flatMap (c : Container) :
    c.allSymbols = (symbolTables c.sections).flatMap c.tableSymbols := by
  rw [allSymbols, symbolTables, List.flatMap_append, List.flatMap_cons, List.flatMap_singleton]

theorem allSymbols_eq_filter (c : Container) :
    c.allSymbols =
      ((symbolTables c.sections).flatMap c.tableEntries).filter fun s => s.name ≠ "" := by
  rw [allSymbols_eq_flatMap, List.filter_flatMap]
  congr 1
  funext table
  exact c.tableSymbols_eq_filter table

namespace Shows

variable {c : Container} {e : Encoding} {file : List UInt8} (h : c.Shows e file)
include h

/-- The string table is what the container finds behind the link, unless it finds nothing. -/
theorem hasNames_iff {table : Section} {names : List UInt8} :
    HasNames file c.sections table names ↔ names ≠ [] ∧ c.linkedNames table = names := by
  constructor
  · rintro ⟨hne, s, hlink, hsize, hat⟩
    refine ⟨hne, ?_⟩
    simp only [linkedNames, hlink]
    rw [if_pos (h.holds_of_at hat (Nat.le_of_eq hsize)), hsize, h.bytes_of_at hat rfl]
  · rintro ⟨hne, rfl⟩
    refine ⟨hne, ?_⟩
    cases hlink : c.sections[table.link]? with
    | none =>
        rw [linkedNames, hlink] at hne
        exact absurd rfl hne
    | some s =>
        by_cases hin : c.holds s.offset s.size = true
        · have hnames : c.linkedNames table = (file.drop s.offset).take s.size := by
            simp only [linkedNames, hlink]
            rw [if_pos hin, bytes, toList_eq, Region.contents_cut, h.data,
              Nat.add_sub_cancel_left]
          have hlen : ((file.drop s.offset).take s.size).length = s.size := by
            rw [h.holds_iff] at hin
            rw [List.length_take, List.length_drop]
            omega
          rw [hnames]
          refine ⟨s, rfl, hlen.symm, ?_, ?_⟩
          · rw [hlen]
            exact h.holds_iff.mp hin
          · rw [hlen]
        · simp only [linkedNames, hlink] at hne
          rw [if_neg hin] at hne
          exact absurd rfl hne

theorem symbolsOf_tableEntries (table : Section) :
    SymbolsOf e file c.sections table (c.tableEntries table) := by
  rw [tableEntries]
  by_cases hnone : (table.entrySize = 0 || (c.linkedNames table).isEmpty) = true
  · rw [if_pos hnone]
    apply SymbolsOf.nothing
    rw [Bool.or_eq_true, decide_eq_true_eq, List.isEmpty_iff] at hnone
    refine hnone.imp_right fun hempty names hnames => ?_
    obtain ⟨hne, heq⟩ := h.hasNames_iff.mp hnames
    exact hne (heq.symm.trans hempty)
  · rw [if_neg hnone]
    rw [Bool.or_eq_true, decide_eq_true_eq, List.isEmpty_iff, not_or] at hnone
    have hsize : c.symbolSize = e.symbolSize := h.place_eq 16 24
    rw [hsize]
    exact .entries (c.linkedNames table) _ hnone.1 (h.hasNames_iff.mpr ⟨hnone.2, rfl⟩)
      (h.tableAt_entries (fun o => h.showsSymbol _) _ _ _)

end Shows

/-- Any bytes are read or refused, and read exactly if they begin as an ELF file does and hold the
header. What a name stands for is then read off the tables of the file. -/
theorem read_resolvesSymbols (data : ByteArray) :
    ((read { data }).1 = true ↔ IsElf data.data.toList) ∧
      ∀ c, read { data } = (true, c) → c.Resolves data.data.toList := by
  constructor
  · rcases read_cases { data } with ⟨helf, c, hread, _⟩ | ⟨helf, c, hread⟩
    · rw [hread]
      exact ⟨fun _ => helf, fun _ => rfl⟩
    · rw [hread]
      exact ⟨fun h => (nomatch h), fun h => absurd h helf⟩
  · intro c hread
    rcases read_cases { data } with ⟨helf, c', hread', hgains⟩ | ⟨_, c', hread'⟩
    · rw [hread] at hread'
      cases hread'
      have hshows := hgains.shows
      have hsections : c.sections = c.sectionTable := hgains.sections
      have hdeclares := hshows.declares rfl helf.headerSize_le
      rw [← hsections] at hdeclares
      refine ⟨c.sections, c.segmentTable, hdeclares, c.tableEntries, ?_, ?_⟩
      · intro table _
        have hsymbols := hshows.symbolsOf_tableEntries table
        exact ⟨hsymbols, hsymbols.length_le⟩
      · intro name
        have hsymbols : c.symbols = c.allSymbols := hgains.symbols
        rw [symbol, hsymbols, c.allSymbols_eq_filter, List.find?_filter]
        simp only [Bool.decide_and, Bool.decide_eq_true]
    · rw [hread] at hread'
      cases hread'

/-- A file with narrow addresses and the most significant byte first. Its one symbol table declares
more than two hundred million entries, of which one and a half are in the file. -/
def cutTable : ByteArray :=
  let e : Encoding := ⟨false, true⟩
  let header : FileHeader :=
    { identification := List.replicate 10 0, kind := 3, machine := 40, version := 1, entry := 0
      segmentTable := 0, sectionTable := 52, flags := 0, headerSize := 52, segmentSize := 0
      segmentCount := 0, sectionSize := 40, sectionCount := 2, sectionNames := 0 }
  let table : SectionHeader :=
    { kind := symbolTable, offset := 135, size := 4294967295, link := 1, entrySize := 16
      name := 0, flags := 0, address := 0, info := 0, alignment := 0 }
  let names : SectionHeader :=
    { table with kind := 3, offset := 132, size := 3, link := 0, entrySize := 0 }
  ⟨(header.encode e ++ table.encode e ++ names.encode e ++ [0, 97, 0] ++
    (⟨1, 4096, 8, 0, 0, 0⟩ : SymbolEntry).encode e ++ List.replicate 8 0).toArray⟩

theorem read_resolvesSymbols_cutTable :
    ∃ c, read { data := cutTable } = (true, c) ∧ c.symbol "a" = some ⟨"a", 4096, 8⟩ ∧
      c.symbol "" = none ∧ c.Resolves cutTable.data.toList := by
  have helf : (read { data := cutTable }).1 = true :=
    (read_resolvesSymbols cutTable).1.mpr (by decide +kernel)
  have hread : read { data := cutTable } = (true, (read { data := cutTable }).2) := by
    rw [← helf]
  refine ⟨_, hread, by decide +kernel, by decide +kernel, ?_⟩
  exact (read_resolvesSymbols cutTable).2 _ hread

end Container

end OatImage.Elf
