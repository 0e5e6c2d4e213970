import Slideshow.Canvas.Surface
import Slideshow.Log

/-!
# Textures

The pictures of a show, loaded once, and the copies of them at the sizes at which they are drawn.

## Main definitions

* `Pictorial`: what a show does with pictures in memory.
* `Texture`: a picture of one colour.
* `Gallery`: what can be loaded.
* `TextureCache`: the textures loaded so far and their scaled copies.
* `TextureCache.load`, `TextureCache.scale`, `TextureCache.setLevel`, `TextureCache.clearCopies`:
  what changes it.
* `TextureCache.report`: what is reported of the loads.

## Design notes

The cache never looks into a picture. What it keeps may be any pictures that can be resized and
painted; where nothing else is said they are of one colour.

A scaled copy keeps the opacity that it was last drawn with, like a sheet that stays tinted. Whoever
draws a copy has to tint it first.
-/

namespace Slideshow

/-- A picture of one colour, or without any where it is transparent throughout. -/
structure Texture where
  width : Int
  height : Int
  colour : Option Colour
  deriving DecidableEq, Repr

namespace Texture

/-- What stands for a picture that cannot be loaded: one transparent pixel. -/
def missing : Texture := ⟨1, 1, none⟩

def resize (t : Texture) (width height : Int) : Texture :=
  ⟨width, height, t.colour⟩

/-- The pixels of a surface with a picture laid over a rectangle. A transparent one leaves no
trace. -/
def paint (surface : Surface) (r : Rect) (level : Nat) (t : Texture) : Int → Int → Colour :=
  match t.colour with
  | none => surface.pixel
  | some colour => (surface.paint r level colour).pixel

end Texture

/-- Pictures in memory, as far as a show handles them. -/
class Pictorial (π : Type) where
  /-- What stands for a picture that cannot be loaded. -/
  missing : π
  /-- A picture brought to a width and a height. -/
  resize : π → Int → Int → π
  /-- The pixels of a surface with a picture laid over a rectangle, its opacity in steps of
  255. -/
  paint : Surface → Rect → Nat → π → Int → Int → Colour

instance : Pictorial Texture where
  missing := .missing
  resize := .resize
  paint := Texture.paint

/-- The pictures that can be loaded, by their sources. -/
abbrev Gallery (π : Type := Texture) := String → Option π

/-- What a scaled copy is a copy of, and its size. -/
structure CopyKey where
  source : String
  width : Int
  height : Int
  deriving DecidableEq, Repr

/-- A scaled copy with the opacity of 255 that it was last given. -/
structure ScaledCopy (π : Type := Texture) where
  texture : π
  level : Nat
  deriving DecidableEq, Repr

/-- Loaded textures in the order of their loading, and scaled copies. `loads` is what was asked of
the gallery, each time with whether there was a picture. -/
structure TextureCache (π : Type := Texture) where
  loaded : List (String × π)
  copies : List (CopyKey × ScaledCopy π)
  loads : List (String × Bool)
  deriving DecidableEq, Repr

namespace TextureCache

variable {π : Type}

def empty : TextureCache π := ⟨[], [], []⟩

/-- The cache with the opacity of one copy changed. -/
def setLevel (key : CopyKey) (level : Nat) (cache : TextureCache π) : TextureCache π :=
  { cache with copies := cache.copies.map fun (k, copy) =>
      (k, if k = key then { copy with level := level } else copy) }

def clearCopies (cache : TextureCache π) : TextureCache π :=
  { cache with copies := [] }

/-- What is reported of the loads, in their order: the sources that there was no picture for. -/
def report (cache : TextureCache π) : List Log.Entry :=
  cache.loads.filterMap fun (source, found) =>
    if found then none else some ⟨.warning, .textures, "could not load " ++ source⟩

variable [Pictorial π]

/-- The cache after a source is needed: it is loaded unless it was before. -/
def load (gallery : Gallery π) (source : String) (cache : TextureCache π) : TextureCache π :=
  if (cache.loaded.lookup source).isSome then cache
  else
    { cache with
      loaded := cache.loaded ++ [(source, (gallery source).getD Pictorial.missing)]
      loads := cache.loads ++ [(source, (gallery source).isSome)] }

def loadAll (gallery : Gallery π) (sources : List String) (cache : TextureCache π) :
    TextureCache π :=
  sources.foldl (fun cache source => cache.load gallery source) cache

/-- The texture of a source that was loaded. -/
def texture (cache : TextureCache π) (source : String) : π :=
  (cache.loaded.lookup source).getD Pictorial.missing

/-- The cache after a scaled copy is needed: it is made from the texture unless it was before. A
new copy is opaque. -/
def scale (gallery : Gallery π) (key : CopyKey) (cache : TextureCache π) : TextureCache π :=
  if (cache.copies.lookup key).isSome then cache
  else
    let cache := cache.load gallery key.source
    let copy := Pictorial.resize (cache.texture key.source) key.width key.height
    { cache with copies := cache.copies ++ [(key, ⟨copy, 255⟩)] }

end TextureCache

end Slideshow
