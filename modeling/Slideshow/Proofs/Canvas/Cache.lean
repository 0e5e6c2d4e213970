import Slideshow.Canvas.Texture

/-!
# Faithful caches

A texture cache is faithful to a gallery if it holds nothing but the pictures of the gallery and
copies of them. Whatever is done with a faithful cache, it stays faithful. The opacities of the
copies may be any: they are those of the last drawing.

## Main definitions

* `Gallery.picture`: what is loaded for a source.
* `TextureCache.Faithful`: caches filled from a gallery.

## Main statements

* `TextureCache.Faithful.scale`, `TextureCache.Faithful.setLevel`, ...: faithful caches stay so.
* `TextureCache.Faithful.exists_lookup_scale`: a copy that is needed is there, and of the right
  picture.
-/

namespace Slideshow

variable {π : Type} [Pictorial π]

/-- What is loaded for a source: its picture, or what stands for it if there is none. -/
def Gallery.picture (gallery : Gallery π) (source : String) : π :=
  (gallery source).getD Pictorial.missing

namespace TextureCache

/-- Nothing but pictures of the gallery and copies of them. -/
structure Faithful (gallery : Gallery π) (cache : TextureCache π) : Prop where
  loaded : ∀ source texture, (source, texture) ∈ cache.loaded → texture = gallery.picture source
  copies : ∀ (key : CopyKey) copy, (key, copy) ∈ cache.copies →
    copy.texture = Pictorial.resize (gallery.picture key.source) key.width key.height

variable {gallery : Gallery π} {cache : TextureCache π}

theorem faithful_empty (gallery : Gallery π) : Faithful gallery .empty where
  loaded _ _ h := nomatch h
  copies _ _ h := nomatch h

theorem mem_of_lookup_eq_some {κ β : Type} [BEq κ] [LawfulBEq κ] {entries : List (κ × β)} {key : κ}
    {b : β} (h : entries.lookup key = some b) : (key, b) ∈ entries := by
  obtain ⟨before, behind, rfl, -⟩ := List.lookup_eq_some_iff.mp h
  exact List.mem_append_right _ List.mem_cons_self

theorem lookup_map_snd {κ β γ : Type} [BEq κ] [LawfulBEq κ] (f : κ → β → γ)
    (entries : List (κ × β)) (key : κ) :
    (entries.map fun (k, b) => (k, f k b)).lookup key = (entries.lookup key).map (f key) := by
  induction entries with
  | nil => rfl
  | cons entry entries ih =>
    rw [List.map_cons, List.lookup_cons, List.lookup_cons]
    cases h : key == entry.1 with
    | true => rw [eq_of_beq h]; rfl
    | false => exact ih

namespace Faithful

theorem load (h : Faithful gallery cache) (source : String) :
    Faithful gallery (cache.load gallery source) := by
  unfold TextureCache.load
  split
  · exact h
  · refine ⟨fun source' texture hmem => ?_, h.copies⟩
    obtain hmem | hmem := List.mem_append.mp hmem
    · exact h.loaded source' texture hmem
    · cases List.mem_singleton.mp hmem
      rfl

/-- A source that was needed is loaded, and from the gallery. -/
theorem texture_load (h : Faithful gallery cache) (source : String) :
    (cache.load gallery source).texture source = gallery.picture source := by
  have hload := h.load source
  have hsome : ((cache.load gallery source).loaded.lookup source).isSome = true := by
    unfold TextureCache.load
    split
    · assumption
    · simp [List.lookup_append]
  obtain ⟨texture, htexture⟩ := Option.isSome_iff_exists.mp hsome
  rw [TextureCache.texture, htexture]
  exact hload.loaded source texture (mem_of_lookup_eq_some htexture)

theorem loadAll (h : Faithful gallery cache) (sources : List String) :
    Faithful gallery (cache.loadAll gallery sources) := by
  induction sources generalizing cache with
  | nil => exact h
  | cons source sources ih => exact ih (h.load source)

theorem scale (h : Faithful gallery cache) (key : CopyKey) :
    Faithful gallery (cache.scale gallery key) := by
  unfold TextureCache.scale
  split
  · exact h
  · refine ⟨(h.load key.source).loaded, fun key' copy hmem => ?_⟩
    obtain hmem | hmem := List.mem_append.mp hmem
    · exact (h.load key.source).copies key' copy hmem
    · cases List.mem_singleton.mp hmem
      rw [h.texture_load]

theorem setLevel (h : Faithful gallery cache) (key : CopyKey) (level : Nat) :
    Faithful gallery (cache.setLevel key level) := by
  refine ⟨h.loaded, fun key' copy hmem => ?_⟩
  obtain ⟨⟨_, copy'⟩, hmem', heq⟩ := List.mem_map.mp hmem
  cases heq
  have htexture := h.copies _ copy' hmem'
  split <;> exact htexture

theorem clearCopies (h : Faithful gallery cache) : Faithful gallery cache.clearCopies where
  loaded := h.loaded
  copies _ _ hmem := nomatch hmem

/-- A copy that was needed is there, and made of the picture of its source. -/
theorem exists_lookup_scale (h : Faithful gallery cache) (key : CopyKey) :
    ∃ copy, (cache.scale gallery key).copies.lookup key = some copy ∧
      copy.texture = Pictorial.resize (gallery.picture key.source) key.width key.height := by
  have hsome : ((cache.scale gallery key).copies.lookup key).isSome = true := by
    unfold TextureCache.scale
    split
    · assumption
    · simp [List.lookup_append]
  obtain ⟨copy, hcopy⟩ := Option.isSome_iff_exists.mp hsome
  exact ⟨copy, hcopy, (h.scale key).copies key copy (mem_of_lookup_eq_some hcopy)⟩

end Faithful

omit [Pictorial π] in
/-- The copy that was tinted has its new opacity, whatever it was before. -/
theorem lookup_setLevel (cache : TextureCache π) (key : CopyKey) (level : Nat) :
    (cache.setLevel key level).copies.lookup key =
      (cache.copies.lookup key).map fun copy => { copy with level := level } := by
  have h := lookup_map_snd (fun k copy => if k = key then { copy with level := level } else copy)
    cache.copies key
  simpa [setLevel] using h

end TextureCache

end Slideshow
