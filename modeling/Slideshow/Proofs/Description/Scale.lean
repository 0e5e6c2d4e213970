import Slideshow.Proofs.Cursor.Taken
import Slideshow.Proofs.Description.Strokes

/-!
# One scale for all items

Every item is placed in fractions of the screen. At no moment of a run is there a place to work out
and no screen to divide by: the screen is set once, to a size with width and height, and before
anything is placed.

## Main definitions

* `Stroke.AllApt`: strokes that keep to this order.
* `Moment.InScale`: what the draft owes to the strokes behind a moment.

## Main statements

* `Moment.InScale.step`, `Moment.inScale_of_reaches`: steps keep moments in scale, and so do runs.
* `Interpreter.run_of_shows`: without a screen nothing is read behind a keyword that shows
  something.
* `Interpreter.scaled_of_reaches`: no moment of a run divides by a screen that is missing or zero.
-/

namespace Slideshow

variable {α : Type} [Scalar α]

/-- The keyword begins a directive that shows something. -/
def Keyword.shows : Keyword → Bool
  | .slide | .customImage | .image => true
  | .screen | .imageDir | .captionDir => false

/-! ### The order of strokes -/

namespace Stroke

/-- The size that a stroke gives to the screen. -/
def size? : Stroke α → Option (Vec α)
  | .setScreen size => some size
  | _ => none

/-- The item that a stroke places, in units of the screen. -/
def item? : Stroke α → Option (Item α)
  | .place item => some item
  | _ => none

/-- A stroke sets the screen where it is not set, to a size with width and height, and places
something only where it is set. -/
def Apt (screenSet : Bool) : Stroke α → Prop
  | .setScreen size => screenSet = false ∧ size.Divides
  | .place _ => screenSet = true
  | .setImageDir _ | .setCaptionDir _ | .countImage | .postpone _ => True

/-- Strokes are apt one after the other. -/
def AllApt : Bool → List (Stroke α) → Prop
  | _, [] => True
  | screenSet, s :: strokes => s.Apt screenSet ∧ AllApt (screenSet || s.size?.isSome) strokes

/-- A directive that is apt makes apt strokes. -/
theorem allApt_strokes (draft : Draft α) {d : Directive α} {screenSet : Bool}
    (h : d.Apt screenSet) : AllApt screenSet (draft.strokes d) := by
  cases d with
  | screen size => exact ⟨h, trivial⟩
  | imageDir | captionDir => exact ⟨trivial, trivial⟩
  | slide | image | customImage =>
    cases (show screenSet = true from h)
    simp [Draft.strokes, AllApt, Apt]
  | compact =>
    cases (show screenSet = true from h)
    simp [Draft.strokes, AllApt, Apt]

/-- A stroke that neither sets the screen nor places anything leaves both alone. -/
theorem perform_idle {s : Stroke α} {p p' : Progress α} (hsize : s.size? = none)
    (hitem : s.item? = none) (h : s.perform p = .ok () p') :
    p'.draft.screen = p.draft.screen ∧ p'.draft.timeline = p.draft.timeline := by
  cases s with
  | setScreen => cases hsize
  | place => cases hitem
  | setImageDir | setCaptionDir | countImage | postpone =>
    cases h
    exact ⟨rfl, rfl⟩

end Stroke

namespace Moment

open Interpreter Stroke

variable {dialect : Dialect} {m m' : Moment α} {history history' strokes : List (Stroke α)}
  {p p' : Progress α} {s : Stroke α}

/-- The screen of a moment is what the strokes behind it have set, once at most, and it has a width
and a height. While it is not set nothing has been placed, and whatever has been placed is measured
by it. The strokes to come are apt. -/
structure InScale (history : List (Stroke α)) (m : Moment α) : Prop where
  sizes : history.filterMap size? = m.draft.screen.toList
  divides : m.draft.Scaled
  unset : m.draft.screen = none → history.filterMap item? = [] ∧ m.draft.timeline = .empty
  scaled : ∀ screen, m.draft.screen = some screen →
    m.draft.timeline.declared = (history.filterMap item?).map (·.onScreen screen)
  pending : AllApt m.draft.screen.isSome m.pending

/-! ### Steps -/

theorem inScale_ofText (text : String) : InScale [] (ofText text : Moment α) where
  sizes := rfl
  divides := Draft.scaled_initial
  unset _ := ⟨rfl, rfl⟩
  scaled _ h := nomatch h
  pending := trivial

/-- Reading leaves the draft alone, and what is read is apt. -/
theorem InScale.read {c : Cursor} (h : InScale history ⟨[], p⟩)
    (hstrokes : AllApt p.draft.screen.isSome strokes) :
    InScale history ⟨strokes, ⟨c, p.draft⟩⟩ :=
  ⟨h.sizes, h.divides, h.unset, h.scaled, hstrokes⟩

theorem InScale.idle (h : InScale history ⟨s :: strokes, p⟩) (hsize : s.size? = none)
    (hitem : s.item? = none) (hscreen : p'.draft.screen = p.draft.screen)
    (htimeline : p'.draft.timeline = p.draft.timeline) :
    InScale (history ++ [s]) ⟨strokes, p'⟩ := by
  obtain ⟨hsizes, hdivides, hunset, hscaled, -, hpending⟩ := h
  simp only [draft, Draft.Scaled] at hsizes hdivides hunset hscaled hpending
  constructor <;> simp only [draft, Draft.Scaled, hscreen, htimeline, List.filterMap_append]
  case sizes => simpa [hsize] using hsizes
  case divides => exact hdivides
  case unset => simpa [hitem] using hunset
  case scaled => simpa [hitem] using hscaled
  case pending => simpa [hsize] using hpending

theorem InScale.setScreen {size : Vec α} (h : InScale history ⟨.setScreen size :: strokes, p⟩) :
    InScale (history ++ [.setScreen size])
      ⟨strokes, { p with draft := { p.draft with screen := some size } }⟩ := by
  obtain ⟨⟨hset, hdivides⟩, hpending⟩ := h.pending
  have hnone : p.draft.screen = none := by simpa [draft] using hset
  have hsizes := h.sizes
  -- Nothing is there yet that the screen could have been missing for.
  obtain ⟨hitems, hempty⟩ := h.unset hnone
  simp only [draft, hnone] at hsizes hempty hpending
  constructor
  case sizes => simp [hsizes, draft, size?]
  case divides =>
    rintro screen ⟨⟩
    exact hdivides
  case unset => exact fun hunset => nomatch hunset
  case scaled =>
    intro screen _
    simp [draft, hempty, hitems, item?, Timeline.declared, Timeline.empty]
  case pending => simpa [draft, size?] using hpending

theorem InScale.place {item : Item α} {screen : Vec α}
    (h : InScale history ⟨.place item :: strokes, p⟩) (hset : p.draft.screen = some screen) :
    InScale (history ++ [.place item])
      ⟨strokes, { p with draft :=
        { p.draft with timeline := p.draft.timeline.add (item.onScreen screen) } }⟩ := by
  have hsize : (Stroke.place item).size? = none := rfl
  have hscaled := h.scaled screen hset
  obtain ⟨-, hpending⟩ := h.pending
  constructor
  case sizes => simpa [hsize, draft] using h.sizes
  case divides => exact h.divides
  case unset =>
    intro hunset
    rw [draft] at hunset
    exact nomatch hset.symm.trans hunset
  case scaled =>
    intro screen' hset'
    cases hset.symm.trans hset'
    simp only [draft] at hscaled ⊢
    simp [hscaled, item?]
  case pending => simpa [hsize, draft] using hpending

/-- An item that is about to be placed has a screen to be measured by. -/
theorem InScale.exists_screen {item : Item α} (h : InScale history m)
    (hpending : m.pending = .place item :: strokes) :
    ∃ screen, m.draft.screen = some screen ∧ screen.Divides := by
  have hapt := h.pending
  rw [hpending] at hapt
  obtain ⟨screen, hset⟩ := Option.isSome_iff_exists.mp hapt.1
  exact ⟨screen, hset, h.divides screen hset⟩

theorem InScale.step (h : InScale history m) {made : Option (Stroke α)}
    (hstep : Step dialect m made m') : InScale (history ++ made.toList) m' := by
  cases hstep with
  | read hphrase =>
    rw [Option.toList_none, List.append_nil]
    exact h.read (allApt_strokes _ (dialect.yields_phrase _ _ _ _ hphrase _ rfl))
  | skip =>
    rw [Option.toList_none, List.append_nil]
    exact h.read trivial
  | @stroke s strokes p p' hperform =>
    rw [Option.toList_some]
    cases s with
    | setScreen size =>
      cases hperform
      exact h.setScreen
    | place item =>
      obtain ⟨screen, hset, hdivides⟩ := h.exists_screen rfl
      have hpresent := present_apply p.cursor item hset hdivides
      cases hpresent.symm.trans hperform
      exact h.place hset
    | setImageDir | setCaptionDir | countImage | postpone =>
      obtain ⟨hscreen, htimeline⟩ := perform_idle rfl rfl hperform
      exact h.idle rfl rfl hscreen htimeline

/-! ### Runs -/

theorem InScale.reaches (h : InScale history m) (hreach : Reaches dialect m history' m') :
    InScale (history ++ history') m' := by
  induction hreach with
  | refl => rwa [List.append_nil]
  | tail _ hstep ih =>
    rw [← List.append_assoc]
    exact ih.step hstep

theorem inScale_of_reaches {text : String}
    (h : Reaches dialect (ofText text : Moment α) history m) : InScale history m :=
  (inScale_ofText text).reaches h

/-- A screen that is set stays. -/
theorem InScale.screen_of_reaches (h : InScale history m) (hreach : Reaches dialect m history' m')
    {screen : Vec α} (hset : m.draft.screen = some screen) : m'.draft.screen = some screen := by
  have hsizes := (h.reaches hreach).sizes
  rw [List.filterMap_append, h.sizes, hset] at hsizes
  cases hscreen : m'.draft.screen with
  | none => simp [hscreen] at hsizes
  | some screen' =>
    simp only [hscreen, Option.toList_some, List.singleton_append, List.cons.injEq] at hsizes
    rw [hsizes.1]

end Moment

namespace Interpreter

open Moment Reader

variable {dialect : Dialect} {keyword : Keyword}

/-- Without a screen, what shows something is refused before anything of it is read. -/
theorem directive_of_shows (h : keyword.shows = true) (c : Cursor) :
    (dialect.directive false keyword : Reader (Directive α)) c =
      .error (.grammar .screenUnset c.line c.column) c := by
  cases keyword <;> first | rfl | cases h

/-- So a run stops directly behind its keyword. -/
theorem run_of_shows (hkeyword : keyword ∈ dialect.keywords) {p : Progress α}
    (hshows : keyword.shows = true) (hunset : p.draft.screen = none)
    (hword : (p.cursor.skipBlanks true).hasWord keyword.spelling = true) :
    let c := (p.cursor.skipBlanks true).forward keyword.spelling.toList.length
    run dialect p = .error (.failure (.grammar .screenUnset c.line c.column)) ⟨c, p.draft⟩ := by
  intro c
  obtain ⟨rest, hrest, hend⟩ := Cursor.hasWord_iff.mp hword
  have hskip := dialect.skips_phrase (α := α) p.draft.screen.isSome _ _
    (.symm (.skipBlanks true p.cursor))
  have hphrase : dialect.phrase (α := α) p.draft.screen.isSome p.cursor =
      .error (.grammar .screenUnset c.line c.column) c := by
    rw [hskip, dialect.continues_phrase _ hkeyword hend _ hrest, Reader.bind_apply, hunset,
      Option.isSome_none, directive_of_shows hshows]
  rw [run_eq_phrase, hphrase]

/-- Take any moment of the interpretation of a text, whether or not it succeeds in the end. The
screen is not set, or it was set just once, to a size with width and height, and stays as it is from
there on. While it is not set the timeline is empty, and once it is set all items on the timeline
are measured by it. An item that is about to be placed has a screen, and no division fails; what
shows something before there is a screen is refused directly behind its keyword. The interpretation
stops at one of these moments, and never for a division. -/
theorem scaled_of_reaches (strictNewlines : Bool) (text : String) :
    let dialect : Dialect := { strictNewlines }
    (∀ (history : List (Stroke α)) (m : Moment α), Reaches dialect (.ofText text) history m →
      m.InScale history ∧ m.outcome dialect = interpret dialect .initial text ∧
      (∀ item strokes, m.pending = .place item :: strokes → ∃ screen,
        m.draft.screen = some screen ∧
          ∀ v, normalize v m.progress = .ok (v.fractionOf screen) m.progress) ∧
      (∀ history' m' screen, Reaches dialect m history' m' → m.draft.screen = some screen →
        m'.draft.screen = some screen) ∧
      ∀ keyword : Keyword, keyword.shows = true → m.pending = [] → m.draft.screen = none →
        (m.cursor.skipBlanks true).hasWord keyword.spelling = true →
        let c := (m.cursor.skipBlanks true).forward keyword.spelling.toList.length
        interpret dialect .initial text =
          .error (.failure (.grammar .screenUnset c.line c.column)) ⟨c, m.draft⟩) ∧
    (∃ history last, Reaches dialect (.ofText text : Moment α) history last ∧
      Stops dialect last (interpret dialect .initial text)) ∧
    (∀ p : Progress α, interpret dialect .initial text ≠ .error .division p) ∧
    Fault.screenUnset.message =
      "screen dimensions have not been set, cannot define an image" := by
  intro dialect
  refine ⟨fun history m hreach => ?_, exists_stops dialect (.ofText text), fun p h => ?_, rfl⟩
  · have hscale := inScale_of_reaches hreach
    have houtcome := outcome_of_reaches hreach
    refine ⟨hscale, houtcome.symm, fun item strokes hpending => ?_,
      fun _ _ _ hlater hset => hscale.screen_of_reaches hlater hset,
      fun keyword hshows hpending hunset hword => ?_⟩
    · obtain ⟨screen, hset, hdivides⟩ := hscale.exists_screen hpending
      exact ⟨screen, hset, fun v => normalize_apply _ v hset hdivides⟩
    · obtain ⟨pending, p⟩ := m
      cases hpending
      exact houtcome.trans (run_of_shows keyword.mem_all hshows hunset hword)
  · rw [interpret_eq dialect Draft.scaled_initial] at h
    simp only at h
    split at h <;> cases h

/-- A slide before the screen is refused at the sixth column. Behind the screen it is about to be
placed, and the screen is still the same when it has been. -/
theorem scaled_of_reaches_slide :
    let dialect : Dialect := { strictNewlines := true }
    let text := "screen = 4, 2\nslide \"a\" 3"
    let item : Item Rat := ⟨"a", ⟨1, 0⟩, ⟨4, 4⟩, 0, 5, 1, 1⟩
    (∃ c, interpret dialect (.initial : Draft Rat) "slide \"a\" 3" =
      .error (.failure (.grammar .screenUnset 1 6)) ⟨c, .initial⟩) ∧
    ∃ m m' : Moment Rat, Reaches dialect (.ofText text) [.setScreen ⟨4, 2⟩] m ∧
      Reaches dialect m [.place item] m' ∧ m.pending = [.place item, .postpone 6] ∧
      (∃ w, normalize item.size m.progress = .ok w m.progress) ∧
      m.draft.screen = some ⟨4, 2⟩ ∧ m'.draft.screen = some ⟨4, 2⟩ := by
  intro dialect text item
  refine ⟨?refused, ?placed⟩
  case refused =>
    obtain ⟨hmoments, -⟩ := scaled_of_reaches (α := Rat) true "slide \"a\" 3"
    obtain ⟨-, -, -, -, hrefuse⟩ := hmoments [] _ .refl
    have hword : ((Cursor.ofText "slide \"a\" 3").skipBlanks true).hasWord "slide" = true := by
      decide +kernel
    have hplace : ((Cursor.ofText "slide \"a\" 3").skipBlanks true).forward
        Keyword.slide.spelling.toList.length = ⟨" \"a\" 3".toList, 5, 1, 6⟩ := by
      decide +kernel
    have hslide := hrefuse .slide rfl rfl rfl hword
    simp only [ofText, cursor, draft, hplace] at hslide
    exact ⟨_, hslide⟩
  case placed =>
    -- The places in the text, which what follows does not look into.
    obtain ⟨c₀, hc₀⟩ : ∃ c : Cursor, c = Cursor.ofText text := ⟨_, rfl⟩
    obtain ⟨c₁, hc₁⟩ : ∃ c : Cursor, c = ⟨"slide \"a\" 3".toList, 14, 2, 1⟩ := ⟨_, rfl⟩
    obtain ⟨c₂, hc₂⟩ : ∃ c : Cursor, c = ⟨[], 25, 2, 12⟩ := ⟨_, rfl⟩
    have hscreen : dialect.phrase (α := Rat) false c₀ =
        .ok (some (.directive (.screen ⟨4, 2⟩))) c₁ := by
      rw [hc₀, hc₁]
      decide +kernel
    have hslide : dialect.phrase (α := Rat) true c₁ =
        .ok (some (.directive (.slide "a" 3))) c₂ := by
      rw [hc₁, hc₂]
      decide +kernel
    let draft : Draft Rat := { Draft.initial with screen := some ⟨4, 2⟩ }
    have hstrokes : draft.strokes (.slide "a" 3) = [.place item, .postpone 6] := by
      decide +kernel
    have hset : Reaches dialect ⟨[], ⟨c₀, .initial⟩⟩ [.setScreen ⟨4, 2⟩] ⟨[], ⟨c₁, draft⟩⟩ :=
      (Reaches.refl.tail (.read (p := ⟨c₀, .initial⟩) hscreen)).tail (.stroke rfl)
    have hm : Reaches dialect ⟨[], ⟨c₀, .initial⟩⟩ [.setScreen ⟨4, 2⟩]
        ⟨[.place item, .postpone 6], ⟨c₂, draft⟩⟩ := by
      rw [← hstrokes]
      exact hset.tail (.read (p := ⟨c₁, draft⟩) hslide)
    have hdivides : Vec.Divides (⟨4, 2⟩ : Vec Rat) := by
      constructor <;> decide +kernel
    have hpresent := present_apply c₂ item (show draft.screen = some ⟨4, 2⟩ from rfl) hdivides
    have hplace : Reaches dialect ⟨[.place item, .postpone 6], ⟨c₂, draft⟩⟩ [.place item] _ :=
      Reaches.refl.tail (.stroke (s := .place item) hpresent)
    rw [hc₀] at hm
    obtain ⟨hmoments, -⟩ := scaled_of_reaches (α := Rat) true text
    obtain ⟨-, -, hready, hlater, -⟩ := hmoments _ _ hm
    obtain ⟨screen, -, hnormalize⟩ := hready item _ rfl
    exact ⟨_, _, hm, hplace, rfl, ⟨_, hnormalize item.size⟩, rfl, hlater _ _ _ hplace rfl⟩

end Interpreter

end Slideshow
