import Mathlib.Data.List.Basic
import Mathlib.Data.List.Induction
import Slideshow.Timeline.Basic

/-!
# The sources of a timeline

The sources of a timeline are those of its items. Each of them is named once, in the order of their
first declaration.

## Main statements

* `Timeline.mem_sources`, `Timeline.nodup_sources`: which sources there are.
* `Timeline.pairwise_sources`: in which order.
-/

namespace Slideshow

/-- Without its repetitions a list goes by first occurrences. -/
theorem pairwise_idxOf_eraseDups {β : Type} [BEq β] [LawfulBEq β] (l : List β) :
    l.eraseDups.Pairwise fun a b => l.idxOf a < l.idxOf b := by
  induction l using List.reverseRecOn with
  | nil => exact .nil
  | append_singleton l b ih =>
    -- Where something occurs in `l`, it still does so first.
    have hfirst : ∀ a ∈ l.eraseDups, (l ++ [b]).idxOf a = l.idxOf a := fun a ha =>
      List.idxOf_append_of_mem (List.mem_eraseDups.mp ha)
    have hbefore : l.eraseDups.Pairwise fun a a' => (l ++ [b]).idxOf a < (l ++ [b]).idxOf a' :=
      ih.imp_of_mem fun ha ha' hlt => by rwa [hfirst _ ha, hfirst _ ha']
    rw [List.eraseDups_append]
    by_cases hb : b ∈ l
    · have hnone : [b].removeAll l = [] := by simp [List.removeAll, hb]
      rwa [hnone, List.eraseDups_nil, List.append_nil]
    · have hnew : [b].removeAll l = [b] := by simp [List.removeAll, hb]
      rw [hnew]
      refine List.pairwise_append.mpr ⟨hbefore, List.pairwise_singleton _ _, fun a ha b' hb' => ?_⟩
      cases List.mem_singleton.mp hb'
      rw [hfirst a ha, List.idxOf_append_of_notMem hb, List.idxOf_cons_self, Nat.add_zero]
      exact List.idxOf_lt_length_of_mem (List.mem_eraseDups.mp ha)

namespace Timeline

variable {α : Type}

/-- Sources go by their first declaration. -/
theorem pairwise_sources (t : Timeline α) : t.sources.Pairwise fun a b =>
    (t.declared.map Item.source).idxOf a < (t.declared.map Item.source).idxOf b :=
  pairwise_idxOf_eraseDups _

theorem nodup_sources (t : Timeline α) : t.sources.Nodup :=
  t.pairwise_sources.imp fun hlt heq => by simp [heq] at hlt

theorem mem_sources {t : Timeline α} {source : String} :
    source ∈ t.sources ↔ ∃ item ∈ t.layers, item.source = source := by
  rw [sources, List.mem_eraseDups, List.mem_map, declared]
  simp only [List.mem_reverse]

end Timeline

end Slideshow
