import DataContract.Target.Content
/-!
# Filling containers

A sequence is filled place by place and a dictionary name by name, each part starting
from fresh content.  The parts are gathered first; only when all of them are filled do
they replace what the container held.
-/

namespace DataContract
namespace Content

section Gathering

variable {m : Type → Type} [Monad m]

/-- Fill `count` parts from a place on. -/
def fillItems (fresh : Content) (fill : Nat → Content → m Content) (place : Nat) :
    Nat → m (List Content)
  | 0 => return []
  | count + 1 => do
      let item ← fill place fresh
      let items ← fillItems fresh fill (place + 1) count
      return item :: items

/-- Fill a part for each name, in order.  The last part of a name counts. -/
def fillEntries (fresh : Content) (fill : String → Content → m Content) :
    List String → Entries Content → m (Entries Content)
  | [], entries => return entries
  | name :: names, entries => do
      let c ← fill name fresh
      fillEntries fresh fill names (entries.insert name c)

end Gathering

/-- New content for a container, or its old content after a failure. -/
def commit {ε : Type} (old : Content) : Except ε Content → Except ε Unit × Content
  | .ok c => (.ok (), c)
  | .error e => (.error e, old)

/-- Replace the items of a sequence. -/
def refillItems {ε : Type} (types : Catalog) (element : Shape) (count : Nat)
    (fill : Nat → Content → Except ε Content) (old : Content) : Except ε Unit × Content :=
  commit old ((fillItems (.fresh types element) fill 0 count).map .sequence)

/-- Replace the entries of a dictionary, which asks for each name with its suffix. -/
def refillEntries {ε : Type} (types : Catalog) (suffix : String) (element : Shape)
    (names : List String) (fill : String → Content → Except ε Content) (old : Content) :
    Except ε Unit × Content :=
  commit old
    ((fillEntries (.fresh types element) fill (names.map (· ++ suffix)) []).map .dictionary)

section Effects

variable {ε : Type} {m : Type → Type} [Monad m]

/-- Replace the items of a sequence by what a callback with effects makes of fresh ones. -/
def refillItemsM (types : Catalog) (element : Shape) (count : Nat)
    (fill : Nat → Content → ExceptT ε m Content) (old : Content) :
    m (Except ε Unit × Content) := do
  let filled ← (fillItems (.fresh types element) fill 0 count).run
  return commit old (filled.map .sequence)

/-- Replace the entries of a dictionary by what a callback with effects makes of fresh ones. -/
def refillEntriesM (types : Catalog) (suffix : String) (element : Shape) (names : List String)
    (fill : String → Content → ExceptT ε m Content) (old : Content) :
    m (Except ε Unit × Content) := do
  let filled ← (fillEntries (.fresh types element) fill (names.map (· ++ suffix)) []).run
  return commit old (filled.map .dictionary)

/-- Show a fresh part of a container to a callback with effects.  The part is given up. -/
def probeM (types : Catalog) (element : Shape) (look : Content → m (Except ε Unit × Content))
    (old : Content) : m (Except ε Unit × Content) := do
  let (result, _) ← look (.fresh types element)
  return (result, old)

end Effects

end Content
end DataContract
