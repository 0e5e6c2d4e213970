import Mathlib.Order.Bounds.Basic
import Slideshow.Proofs.Timeline.Opacity
import Slideshow.Proofs.Timeline.Sources

/-!
# Additions to a timeline

A timeline keeps its items and nothing else. How long the show is, how it is painted and which
pictures it needs follows from the items that were added, with repeated pictures and with times of
either sign.

## Main definitions

* `Timeline.ends`: the times that a show of some items lasts for at least.

## Main statements

* `Timeline.layers_addAll`: what is added last lies lowest.
* `Timeline.isGreatest_length`: a show is over when its last item is gone.
* `Timeline.length_eq_of_perm`: it does not matter which of its items was added first.
* `Timeline.views_of_additions`: all that follows from the items that were added.
-/

namespace Slideshow.Timeline

theorem layers_addAll {α : Type} (t : Timeline α) (items : List (Item α)) :
    (t.addAll items).layers = items.reverse ++ t.layers := by
  have h := congrArg List.reverse (t.declared_addAll items)
  simpa only [declared, List.reverse_append, List.reverse_reverse] using h

/-! ### The length of a show -/

/-- The times that a show of some items lasts for at least: its beginning, and whenever one of them
is gone. -/
def ends (items : List (Item Rat)) : Set Rat :=
  {time | time = 0 ∨ ∃ item ∈ items, time = item.start + item.duration}

theorem ends_cons (item : Item Rat) (items : List (Item Rat)) :
    ends (item :: items) = insert item.finish (ends items) := by
  ext time
  simp only [ends, Set.mem_ofPred_eq, Set.mem_insert_iff, List.exists_mem_cons_iff, Item.finish]
  exact or_left_comm

theorem ends_eq_of_perm {items items' : List (Item Rat)} (h : items.Perm items') :
    ends items = ends items' := by
  ext time
  simp only [ends, h.mem_iff]

/-- A show is over when its last item is gone. A further item puts that off, or does not. -/
theorem isGreatest_length (t : Timeline Rat) : IsGreatest (ends t.layers) t.length := by
  obtain ⟨layers⟩ := t
  induction layers with
  | nil => exact ⟨.inl rfl, fun time h => h.elim le_of_eq (by simp)⟩
  | cons item layers ih =>
    have hlength : length ⟨item :: layers⟩ = max item.finish (length ⟨layers⟩) :=
      (length_add ⟨layers⟩ item).trans (later_eq_max ..)
    rw [hlength, ends_cons]
    exact ih.insert item.finish

theorem isGreatest_length_addAll (items : List (Item Rat)) :
    IsGreatest (ends items) (empty.addAll items).length := by
  have h := isGreatest_length (empty.addAll items)
  rwa [layers_addAll, empty, List.append_nil, ends_eq_of_perm items.reverse_perm] at h

/-- It does not matter which of the items was added first. -/
theorem length_eq_of_perm {items items' : List (Item Rat)} (h : items.Perm items') :
    (empty.addAll items).length = (empty.addAll items').length := by
  have hgreatest := isGreatest_length_addAll items'
  rw [← ends_eq_of_perm h] at hgreatest
  exact (isGreatest_length_addAll items).unique hgreatest

/-! ### All views -/

/-- Take the items that were added to an empty timeline, whatever their times are. The show lasts
until the last of them is gone, and no time at all if that is never after the beginning; another
order of the additions makes no difference. The show is painted in the reverse of the order of
declaration, with every item as often as it was added. Its sources are those of the items, each
named once, in the order of their first declaration. -/
theorem views_of_additions (items : List (Item Rat)) :
    let t : Timeline Rat := empty.addAll items
    let sources := items.map Item.source
    (IsGreatest (ends items) t.length ∧
      ∀ items', items'.Perm items → (empty.addAll items').length = t.length) ∧
    (t.declared = items ∧ t.layers = t.declared.reverse ∧
      ∀ item, t.layers.count item = items.count item) ∧
    t.sources.Nodup ∧ (∀ source, source ∈ t.sources ↔ ∃ item ∈ items, item.source = source) ∧
      t.sources.Pairwise fun a b => sources.idxOf a < sources.idxOf b := by
  intro t sources
  have hdeclared : t.declared = items := declared_addAll empty items
  have hlayers : t.layers = items.reverse := by
    rw [← hdeclared, declared, List.reverse_reverse]
  have hpairwise := t.pairwise_sources
  rw [hdeclared] at hpairwise
  refine ⟨⟨isGreatest_length_addAll items, fun items' h => length_eq_of_perm h⟩,
    ⟨hdeclared, by rw [hdeclared, hlayers], fun item => ?_⟩, t.nodup_sources, fun source => ?_,
    hpairwise⟩
  · rw [hlayers, List.count_reverse]
  · rw [mem_sources, hlayers]
    simp only [List.mem_reverse]

/-- A picture that is shown twice, another one between, and a third one that is over before the show
begins. They may as well be added from the last to the first. -/
theorem views_of_additions_repeated :
    let item (source : String) (start duration : Rat) : Item Rat :=
      ⟨source, ⟨0, 0⟩, ⟨1, 1⟩, start, duration, 1, 1⟩
    let items := [item "b" 5 3, item "a" 18 4, item "b" (-1) 2, item "c" (-9) 4]
    let t : Timeline Rat := empty.addAll items
    items.reverse.Perm items ∧ t.length = 22 ∧ (empty.addAll items.reverse).length = 22 ∧
      t.sources = ["b", "a", "c"] := by
  intro item items t
  have hperm : items.reverse.Perm items := items.reverse_perm
  obtain ⟨⟨-, hlength⟩, -⟩ := views_of_additions items
  have htotal : t.length = 22 := by decide +kernel
  exact ⟨hperm, htotal, (hlength _ hperm).trans htotal, by decide +kernel⟩

end Slideshow.Timeline
