import Slideshow.Timeline.Item

/-!
# Timelines

All items of a show. An item covers those declared after it, so each new item goes beneath the
others.

## Main definitions

* `Timeline.add`: a further item, beneath all others.
* `Timeline.layers`, `Timeline.declared`: the items from bottom to top, and as they were declared.
* `Timeline.length`: when the last item is gone, which is when the show starts again.
* `Timeline.sources`: the pictures of the show, each once.
-/

namespace Slideshow

/-- The items of a show from bottom to top. -/
structure Timeline (α : Type) where
  layers : List (Item α)
  deriving DecidableEq, Repr

namespace Timeline

variable {α : Type}

def empty : Timeline α := ⟨[]⟩

/-- A further item, beneath all others. -/
def add (t : Timeline α) (item : Item α) : Timeline α :=
  ⟨item :: t.layers⟩

/-- Further items, each beneath the one before. -/
def addAll (t : Timeline α) (items : List (Item α)) : Timeline α :=
  items.foldl add t

/-- The items in the order of their declaration. -/
def declared (t : Timeline α) : List (Item α) :=
  t.layers.reverse

def size (t : Timeline α) : Nat :=
  t.layers.length

def isEmpty (t : Timeline α) : Bool :=
  t.layers.isEmpty

/-- The pictures of the show, each once, in the order of their first declaration. -/
def sources (t : Timeline α) : List String :=
  (t.declared.map Item.source).eraseDups

@[simp] theorem declared_add (t : Timeline α) (item : Item α) :
    (t.add item).declared = t.declared ++ [item] := by
  simp [declared, add]

theorem declared_addAll (t : Timeline α) (items : List (Item α)) :
    (t.addAll items).declared = t.declared ++ items := by
  induction items generalizing t with
  | nil => simp [addAll]
  | cons item items ih =>
    have h := ih (t.add item)
    rw [declared_add, List.append_assoc] at h
    exact h

@[simp] theorem size_add (t : Timeline α) (item : Item α) : (t.add item).size = t.size + 1 :=
  rfl

variable [Scalar α]

/-- The later of `finish` and `latest`. A finish that is no number is not later. -/
def later (finish latest : α) : α :=
  if latest < finish then finish else latest

/-- The length of the show: the latest finish of an item, and zero if none is positive. -/
def length (t : Timeline α) : α :=
  t.layers.foldr (fun item latest => later item.finish latest) 0

theorem length_add (t : Timeline α) (item : Item α) :
    (t.add item).length = later item.finish t.length :=
  rfl

end Timeline

end Slideshow
