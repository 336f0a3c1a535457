import OatImage.Lookup
import OatImage.Report

/-!
# Reports as values

Reports of images and of lookups as tables, every field under its name and in a fixed order.
A field that says nothing is none.
-/
namespace OatImage

def HeaderSummary.toValue (h : HeaderSummary) : Value :=
  .table
    [("version", .text h.version), ("valid", .flag h.isValid),
     ("adler32_checksum", .integer h.checksum),
     ("instruction_set", .text h.instructionSet.name),
     ("instruction_set_features", .integer h.features),
     ("dex_file_count", .integer h.dexFileCount),
     ("executable_offset", .integer h.executableOffset),
     ("image_patch_delta", .integer h.imagePatchDelta),
     ("key_value_store_size", .integer h.keyValueStoreSize),
     ("header_size", .integer h.headerSize),
     ("trampolines", .table (h.trampolines.map fun (name, offset) => (name, .integer offset)))]

def DexFileSummary.toValue (f : DexFileSummary) : Value :=
  .table
    [("index", .integer f.index), ("location", .text f.location),
     ("location_checksum", .integer f.checksum), ("dex_file_offset", .integer f.dexOffset),
     ("class_def_count", .integer f.classCount), ("record_size", .integer f.recordSize)]

namespace Report

def filesValue (r : Report) : Value := .list (r.files.map DexFileSummary.toValue)

def toValue (r : Report) : Value :=
  .table
    [("path", .text r.path), ("container", .text r.wrapping.name),
     ("base_address", .integer r.base), ("size", .integer r.size), ("header", r.header.toValue),
     ("key_value_store", .table (r.store.map fun (key, value) => (key, .text value))),
     ("dex_files", r.filesValue), ("walk_error", .orNone .text r.walkError)]

end Report

def Lookup.toValue (l : Lookup) : Value :=
  .table
    [("status", .text l.status.name), ("class_descriptor", .text l.descriptor),
     ("method_name", .text l.method), ("signature", .text l.signature),
     ("dex_location", .orNone .text l.location),
     ("class_def_index", .orNone .integer l.classIndex),
     ("class_status", .orNone .integer l.classStatus),
     ("class_type", .orNone .text l.classKind), ("method_kind", .orNone .text l.methodKind),
     ("class_method_index", .orNone .integer l.position),
     ("access_flags", .orNone .integer l.accessFlags),
     ("modifiers", .list (l.modifiers.map .text)), ("compiled", .flag l.compiled),
     ("code_offset", .orNone .integer l.codeOffset),
     ("entry_point", .orNone .integer l.entryPoint),
     ("code_pointer", .orNone .integer l.codePointer), ("error", .orNone .text l.error)]

end OatImage
