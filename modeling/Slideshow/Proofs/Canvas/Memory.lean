import Mathlib.Data.List.Nodup
import Mathlib.Data.List.Perm.Subperm
import Slideshow.Proofs.Canvas.Painting
import Slideshow.Proofs.Timeline.Sources

/-!
# What a cache holds

Once the pictures of a timeline are loaded, drawing its items loads no other picture and none again.
It makes no more copies than there are items, all of sizes that the items have on the window.

## Main definitions

* `Timeline.copyKeys`: the copies that the items of a timeline ask for on a window.
* `TextureCache.Holds`: a cache with given pictures, and with copies that are asked for.
* `Canvas.Leaves`: what a drawing leaves behind.

## Main statements

* `TextureCache.Holds.length_le`: how many copies there are.
* `TextureCache.Holds.scale`, `TextureCache.Holds.clearCopies`, ...: what the operations preserve.
* `Canvas.leaves_draw`: a drawing, whether it is finished or not.
-/

namespace Slideshow

section Keys

variable {α : Type} [Scalar α]

/-- The copy that an item asks for on a window, if it has a place there. -/
def Item.copyKey? (size : WindowSize) (item : Item α) : Option CopyKey :=
  match Rect.ofItem item size.width size.height with
  | .ok r => some ⟨item.source, r.width, r.height⟩
  | .error _ => none

/-- The copies that the items of a timeline ask for on a window. -/
def Timeline.copyKeys (size : WindowSize) (t : Timeline α) : List CopyKey :=
  t.layers.filterMap (Item.copyKey? size)

theorem Timeline.mem_copyKeys {size : WindowSize} {t : Timeline α} {key : CopyKey} :
    key ∈ t.copyKeys size ↔ ∃ item ∈ t.layers, ∃ r,
      Rect.ofItem item size.width size.height = .ok r ∧
        key = ⟨item.source, r.width, r.height⟩ := by
  rw [copyKeys, List.mem_filterMap]
  refine exists_congr fun item => and_congr_right fun _ => ?_
  rw [Item.copyKey?]
  cases Rect.ofItem item size.width size.height with
  | ok r => simp [eq_comm]
  | error kind => simp

theorem Timeline.length_copyKeys_le (size : WindowSize) (t : Timeline α) :
    (t.copyKeys size).length ≤ t.size :=
  List.length_filterMap_le ..

end Keys

namespace TextureCache

variable {π : Type} [Pictorial π] {gallery : Gallery π} {sources : List String}
  {keys : List CopyKey} {cache : TextureCache π}

/-- The pictures of the sources, each loaded once and in that order, and copies of theirs, each of
them asked for and none made twice. -/
structure Holds (gallery : Gallery π) (sources : List String) (keys : List CopyKey)
    (cache : TextureCache π) : Prop where
  loaded : cache.loaded = sources.map fun source => (source, gallery.picture source)
  loads : cache.loads = sources.map fun source => (source, (gallery source).isSome)
  asked : ∀ key ∈ cache.copies.map Prod.fst, key ∈ keys
  nodup : (cache.copies.map Prod.fst).Nodup

theorem isSome_lookup_iff {κ β : Type} [BEq κ] [LawfulBEq κ] {entries : List (κ × β)} {key : κ} :
    (entries.lookup key).isSome = true ↔ key ∈ entries.map Prod.fst := by
  rw [List.lookup_isSome_iff, List.mem_map]
  exact exists_congr fun _ => and_congr_right fun _ => beq_iff_eq.trans eq_comm

namespace Holds

theorem length_le (h : Holds gallery sources keys cache) : cache.copies.length ≤ keys.length := by
  have hsub : (cache.copies.map Prod.fst).Subperm keys := h.nodup.subperm h.asked
  simpa using hsub.length_le

theorem clearCopies (h : Holds gallery sources keys cache) (keys' : List CopyKey) :
    Holds gallery sources keys' cache.clearCopies :=
  ⟨h.loaded, h.loads, nofun, .nil⟩

/-- A source that is loaded is not loaded again. -/
theorem load (h : Holds gallery sources keys cache) {source : String} (hsource : source ∈ sources) :
    cache.load gallery source = cache := by
  refine if_pos (isSome_lookup_iff.mpr ?_)
  rw [h.loaded, List.map_map]
  exact List.mem_map.mpr ⟨source, hsource, rfl⟩

theorem loadAll (hnodup : sources.Nodup) (keys : List CopyKey) :
    Holds gallery sources keys (TextureCache.empty.loadAll gallery sources) := by
  induction sources using List.reverseRecOn with
  | nil => exact ⟨rfl, rfl, nofun, .nil⟩
  | append_singleton sources source ih =>
    obtain ⟨hnodup, -, hdisjoint⟩ := List.nodup_append.mp hnodup
    have hbefore := ih hnodup
    have hnew : ¬((TextureCache.empty.loadAll gallery sources).loaded.lookup source).isSome := by
      rw [isSome_lookup_iff, hbefore.loaded, List.map_map]
      intro hmem
      obtain ⟨source', hsource', rfl⟩ := List.mem_map.mp hmem
      exact hdisjoint _ hsource' _ List.mem_cons_self rfl
    have hload : TextureCache.empty.loadAll gallery (sources ++ [source]) =
        (TextureCache.empty.loadAll gallery sources).load gallery source :=
      List.foldl_concat ..
    rw [hload, TextureCache.load, if_neg hnew]
    exact ⟨by rw [hbefore.loaded, List.map_append]; rfl,
      by rw [hbefore.loads, List.map_append]; rfl, hbefore.asked, hbefore.nodup⟩

theorem scale (h : Holds gallery sources keys cache) {key : CopyKey}
    (hsource : key.source ∈ sources) (hkey : key ∈ keys) :
    Holds gallery sources keys (cache.scale gallery key) := by
  rw [TextureCache.scale]
  split
  · exact h
  · next hnew =>
    rw [isSome_lookup_iff] at hnew
    rw [h.load hsource]
    refine ⟨h.loaded, h.loads, ?_, ?_⟩
    · rw [List.map_append, List.forall_mem_append]
      exact ⟨h.asked, List.forall_mem_singleton.mpr hkey⟩
    · rw [List.map_append]
      exact h.nodup.append (List.nodup_singleton _) (List.disjoint_singleton.mpr hnew)

theorem setLevel (h : Holds gallery sources keys cache) (key : CopyKey) (level : Nat) :
    Holds gallery sources keys (cache.setLevel key level) := by
  have hkeys : (cache.setLevel key level).copies.map Prod.fst = cache.copies.map Prod.fst := by
    rw [TextureCache.setLevel, List.map_map]
    rfl
  exact ⟨h.loaded, h.loads, by rw [hkeys]; exact h.asked, by rw [hkeys]; exact h.nodup⟩

end Holds

end TextureCache

namespace Canvas

variable {α π : Type} [Scalar α] [Pictorial π] {gallery : Gallery π} {size : WindowSize}
  {t : Timeline α} {cache : TextureCache π}

open TextureCache (Holds)

/-- What drawing leaves behind on a surface of a size: a cache that holds what it held, and a
surface of that size if it could be finished. -/
def Leaves (gallery : Gallery π) (size : WindowSize) (t : Timeline α) :
    EStateM.Result NonFinite (TextureCache π) Canvas → Prop
  | .ok canvas cache =>
    canvas.surface.size = size ∧ Holds gallery t.sources (t.copyKeys size) cache
  | .error _ cache => Holds gallery t.sources (t.copyKeys size) cache

omit [Scalar α] in
theorem size_stamped (surface : Surface) (r : Rect) (copy : Option (ScaledCopy π)) :
    ((copy.map (stamp surface r)).getD surface).size = surface.size := by
  cases copy <;> rfl

theorem leaves_drawItem (h : Holds gallery t.sources (t.copyKeys size) cache) {canvas : Canvas}
    (hsize : canvas.surface.size = size) {entry : Item α × α} (hentry : entry.1 ∈ t.layers) :
    Leaves gallery size t (drawItem gallery canvas entry cache) := by
  subst hsize
  simp only [drawItem]
  cases hrect : Rect.ofItem entry.1 canvas.surface.size.width canvas.surface.size.height with
  | error kind => exact h
  | ok r =>
    by_cases hempty : r.isEmpty = true
    · simp only [bind, EStateM.bind, convert, pure, EStateM.pure, if_pos hempty]
      exact ⟨rfl, h⟩
    · simp only [bind, EStateM.bind, convert, pure, EStateM.pure, if_neg hempty]
      have hscale := h.scale (Timeline.mem_sources.mpr ⟨entry.1, hentry, rfl⟩)
        (Timeline.mem_copyKeys.mpr ⟨entry.1, hentry, r, hrect, rfl⟩)
      rw [drawCopy_apply]
      cases levelOf entry.2 with
      | error kind => exact hscale
      | ok level => exact ⟨size_stamped canvas.surface r _, hscale.setLevel _ level⟩

theorem leaves_foldlM (h : Holds gallery t.sources (t.copyKeys size) cache) {canvas : Canvas}
    (hsize : canvas.surface.size = size) {entries : List (Item α × α)}
    (hentries : ∀ entry ∈ entries, entry.1 ∈ t.layers) :
    Leaves gallery size t (entries.foldlM (drawItem gallery) canvas cache) := by
  induction entries generalizing canvas cache with
  | nil => exact ⟨hsize, h⟩
  | cons entry entries ih =>
    obtain ⟨hentry, hentries⟩ := List.forall_mem_cons.mp hentries
    have hleaves := leaves_drawItem h hsize hentry
    simp only [List.foldlM_cons, bind, EStateM.bind]
    cases hdraw : drawItem gallery canvas entry cache with
    | error kind after =>
      rw [hdraw] at hleaves
      exact hleaves
    | ok canvas after =>
      rw [hdraw] at hleaves
      exact ih hleaves.2 hleaves.1 hentries

/-- Items of a timeline are drawn with what its pictures are loaded for. -/
theorem leaves_draw (h : Holds gallery t.sources (t.copyKeys size) cache) (background : Colour)
    {entries : List (Item α × α)} (hentries : ∀ entry ∈ entries, entry.1 ∈ t.layers) :
    Leaves gallery size t (draw gallery size background entries cache) :=
  leaves_foldlM h rfl hentries

end Canvas

end Slideshow
