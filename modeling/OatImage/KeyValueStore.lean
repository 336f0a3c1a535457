import OatImage.Region

/-!
# The key-value store

The store behind the header is a sequence of keys and values, each ended by a zero byte.
A later value for a key replaces the earlier one and keeps its place. A search for a zero
byte answers -1 when it finds none, and a negative address counts as none found.
-/
namespace OatImage

/-- Keys with their values, each key once, in the order in which the keys were first set. -/
abbrev KeyValueStore := List (String × String)

namespace KeyValueStore

/-- Sets the value of a key. A key that is present keeps its place. -/
def set : KeyValueStore → String → String → KeyValueStore
  | [], key, value => [(key, value)]
  | (k, v) :: rest, key, value =>
    if k = key then (k, value) :: rest else (k, v) :: set rest key value

def get? (store : KeyValueStore) (key : String) : Option String := List.lookup key store

/-- Reads pairs from `cursor` on until `limit`, each into the store read so far. Every
pair takes two bytes or more, so as many steps as there are bytes are enough. -/
def readFrom (r : Region) (limit : Int) :
    (steps : Nat) → (cursor : Int) → KeyValueStore → Decode KeyValueStore
  | 0, _, store => .ok store
  | steps + 1, cursor, store =>
    if limit ≤ cursor then .ok store
    else
      let keyEnd := r.findByte cursor 0 limit
      if keyEnd < 0 then .error (.inImage .unterminatedKey cursor)
      else
        let valueEnd := r.findByte (keyEnd + 1) 0 limit
        if valueEnd < 0 then .error (.inImage .unterminatedValue (keyEnd + 1))
        else do
          let key ← r.readBytes cursor (keyEnd - cursor) "read"
          let value ← r.readBytes (keyEnd + 1) (valueEnd - keyEnd - 1) "read"
          readFrom r limit steps (valueEnd + 1)
            (store.set (Utf8.decodeReplacing key) (Utf8.decodeReplacing value))

/-- Reads the store that takes `size` bytes from an address on. -/
def read (r : Region) (start size : Int) : Decode KeyValueStore := do
  r.check start size "key-value store"
  readFrom r (start + size) size.toNat start []

/-- The value stored under a key, if the whole store can be read. -/
def lookup (r : Region) (start size : Int) (key : String) : Decode (Option String) := do
  pure ((← read r start size).get? key)

/-- The packed form of pairs: each key and each value followed by a zero byte. -/
def encode (pairs : List (String × String)) : List UInt8 :=
  pairs.flatMap fun (key, value) => key.toUTF8.toList ++ [0] ++ value.toUTF8.toList ++ [0]

end KeyValueStore

end OatImage
