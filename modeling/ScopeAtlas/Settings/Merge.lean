import ScopeAtlas.Data.Key

/-!
# Merging settings

A table is laid over another one: where both have a table under a key, the two are
merged in the same way, and everywhere else the upper one wins.
-/

namespace ScopeAtlas.Settings

open ScopeAtlas.Data

mutual
/-- Lays a value over what was there before. -/
def overlay (lower : Option Value) : Value → Value
  | .table upper =>
      match lower with
      | some (.table entries) => .table (deepMerge entries upper)
      | some (.keyed entries) => .keyed (mergeTexts entries upper)
      | _ => .table upper
  | .keyed upper =>
      match lower with
      | some (.table entries) => .keyed (mergeKeyed (Value.keyedEntries entries) upper)
      | some (.keyed entries) => .keyed (mergeKeyed entries upper)
      | _ => .keyed upper
  | value => value

/-- Lays the entries of a table over those of another. -/
def deepMerge (lower : List (String × Value)) : List (String × Value) → List (String × Value)
  | [] => lower
  | (key, value) :: rest =>
      deepMerge (putEntry key (overlay (lower.lookup key) value) lower) rest

/-- Lays the entries of a table over those of one with keys of any kind. -/
def mergeTexts (lower : List (Value × Value)) : List (String × Value) → List (Value × Value)
  | [] => lower
  | (key, value) :: rest =>
      mergeTexts (Value.putKeyed (.text key) (overlay (Value.lookupKeyed (.text key) lower) value) lower)
        rest

/-- Lays the entries of a table with keys of any kind over those of another. -/
def mergeKeyed (lower : List (Value × Value)) : List (Value × Value) → List (Value × Value)
  | [] => lower
  | (key, value) :: rest =>
      mergeKeyed (Value.putKeyed key (overlay (Value.lookupKeyed key lower) value) lower) rest
end

end ScopeAtlas.Settings
