import LuaAssist.Text.Measure

/-!
# Values of texts

The values of the texts that were asked for last. When there are too many, the one that
has not been asked for the longest is forgotten.
-/

namespace LuaAssist

/-- Values computed from texts. -/
structure TextCache (α : Type) where
  /-- How many values are kept. -/
  capacity : Nat
  /-- The texts with their values, the last request first. -/
  entries : List (Text × α)

namespace TextCache

variable {α : Type}

/-- How many values a cache keeps unless it is told otherwise. -/
def defaultCapacity : Nat := 64

/-- An empty cache. Capacity zero means the default. -/
def new (capacity : Nat) : TextCache α :=
  ⟨if capacity = 0 then defaultCapacity else capacity, []⟩

/-- The value that is served without computing. -/
def served? (cache : TextCache α) (text : Text) : Option α := cache.entries.lookup text

/-- Puts a text in front and forgets what is too much. -/
def touch (cache : TextCache α) (text : Text) (value : α) : TextCache α :=
  { cache with
    entries := ((text, value) :: cache.entries.filter fun (other, _) => other ≠ text).take
      cache.capacity }

/-- The value of a text, computed if it has to be. -/
def get (parse : Text → α) (text : Text) (cache : TextCache α) : α × TextCache α :=
  let value := (cache.served? text).getD (parse text)
  (value, cache.touch text value)

end TextCache

end LuaAssist
