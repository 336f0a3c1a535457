import OatImage.Log.Logger
import OatImage.Lookup

/-!
# Lookups on a logger

A lookup made through a logger writes its entries there, during an operation of its own that
it leaves at the end, however the lookup ends. Only the header is looked at before the
operation is entered. A message is written as a value, so that percent signs in it stand for
themselves, with every lone surrogate replaced, as values hold strings. When each entry is written
is not the lookup's to decide; it is given the times.
-/
namespace OatImage

namespace Log

/-- The context of an entry, as a record holds it. -/
def contextFields (c : Context) : List (Field × Value) :=
  let descriptor := c.descriptor.map fun t => (Field.descriptor, Value.text t.toScalarString)
  let index := c.index.map fun n => (Field.index, Value.integer n)
  let location := c.location.map fun s => (Field.location, Value.text s)
  let address := c.address.map fun n => (Field.address, Value.integer n)
  [descriptor, index, location, address].filterMap id

namespace Logger

def note (l : Logger) (now : Instant) (e : Entry) : Logger :=
  l.write now e.level "%s" [.text e.message.toScalarString] (contextFields e.context)

def noteAll (l : Logger) (entries : List (Instant × Entry)) : Logger :=
  entries.foldl (fun l e => l.note e.1 e.2) l

end Logger

/-- Entries, each with the time at which it is written. -/
def stamped (times : Nat → Instant) (entries : List Entry) : List (Instant × Entry) :=
  entries.mapIdx fun k e => (times k, e)

end Log

def Lookup.operationName : String := "find_method"

/-- Looks a method up and writes the entries to a logger: the outcome, and the logger after
the lookup. -/
def Lookup.runOn (l : Log.Logger) (times : Nat → Log.Instant) (image : Image)
    (descriptor name signature : String) (location : Option Text) :
    Decode Lookup × Log.Logger :=
  let asked : Lookup := { descriptor, method := name, signature }
  if !image.header.isValid then (.ok (ofResolution image asked .invalidHeader), l)
  else
    let step := image.resolveAnyway descriptor name signature location
    (ofResolution image asked <$> step.outcome,
      ((l.enterOperation operationName).noteAll (Log.stamped times step.entries)).leaveOperation)

end OatImage
