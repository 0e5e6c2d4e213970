import Mathlib.Algebra.Order.Ring.Rat
import Mathlib.Data.List.Chain
import Mathlib.Tactic.Linarith
import Mathlib.Tactic.Ring
import Slideshow.Proofs.Description.Screen
import Slideshow.Proofs.Timeline.Opacity

/-!
# The schedule of a description

Slides and compact images take turns: each comes on one second after the one before it is gone,
whatever else the description says in between. Pictures with a block name their own time and have no
part in that.

## Main definitions

* `Stage`, `Draft.stages`: a directive of a description with what comes before it, and all of them.
* `Directive.takesTurn`, `Directive.span`: which directives take turns, and how long their turn is.
* `Stage.turns`: the turns of a description.
* `Schedule`: what the directives of a description make of its show.

## Main statements

* `Draft.time_of_mem_items`, `Draft.nextStart_obey`, `Draft.index_obey`: the time and the count of a
  single directive.
* `Draft.isChain_turns`, `Draft.nextStart_takeAll`: those of a whole description.
* `Draft.pairwise_turns`: turns do not overlap unless one is of negative length.
* `Draft.schedule`, `Reading.schedule_of_parse`: the schedule of phrases, and of a text.
-/

namespace Slideshow

section Stages

variable {α : Type} [Scalar α]

/-- A directive at its place in a description: what comes before it amounts to, and what it says. -/
structure Stage (α : Type) where
  before : Draft α
  directive : Directive α

/-- The items that a directive adds at its place. -/
def Stage.items (s : Stage α) : List (Item α) :=
  s.before.items s.directive

/-- The directives among phrases that follow a draft, each with what comes before it. -/
def Draft.stages (draft : Draft α) : List (Phrase α) → List (Stage α)
  | [] => []
  | .directive d :: phrases => ⟨draft, d⟩ :: (draft.obey d).stages phrases
  | .skipped .. :: phrases => draft.stages phrases

namespace Directive

def isCompact : Directive α → Bool
  | .compact .. => true
  | _ => false

/-- Whether a directive comes on when the one before it is gone. -/
def takesTurn : Directive α → Bool
  | .slide .. | .compact .. => true
  | _ => false

/-- How long a turn is: the seconds of a slide and two for its fades, or twelve seconds. -/
def span : Directive α → α
  | .slide _ seconds => seconds + 2
  | .compact .. => 12
  | _ => 0

end Directive

def Property.start? : Property α → Option α
  | .start value => some value
  | _ => none

def Property.duration? : Property α → Option α
  | .duration value => some value
  | _ => none

/-- When the turn of a stage is over. -/
def Stage.finish (s : Stage α) : α :=
  s.before.nextStart + s.directive.span

/-- The stages at which something takes its turn. -/
def Stage.turns (stages : List (Stage α)) : List (Stage α) :=
  stages.filter (·.directive.takesTurn)

/-! ### Items and their time -/

/-- Of the properties of a block, the last ones that name a time count. -/
theorem Property.time_itemOf (source : String) (block : List (Property α)) :
    (itemOf source block).start = (block.reverse.findSome? start?).getD 0 ∧
      (itemOf source block).duration = (block.reverse.findSome? duration?).getD 5 := by
  unfold itemOf
  induction block using List.reverseRecOn with
  | nil => exact ⟨rfl, rfl⟩
  | append_singleton block property ih =>
    obtain ⟨hstart, hduration⟩ := ih
    rw [List.foldl_concat, List.reverse_concat, List.findSome?_cons, List.findSome?_cons]
    cases property <;> simp [set, start?, duration?, hstart, hduration]

namespace Draft

variable {draft : Draft α} {d : Directive α} {item : Item α}

theorem exists_of_mem_items (h : item ∈ draft.items d) :
    ∃ raw ∈ draft.rawItems d, item.start = raw.start ∧ item.duration = raw.duration := by
  unfold items at h
  split at h
  · cases h
  · next screen _ =>
    obtain ⟨raw, hraw, rfl⟩ := List.mem_map.mp h
    exact ⟨raw, hraw, rfl, rfl⟩

/-- All items of a turn are on for the whole of it. -/
theorem time_of_mem_items (hturn : d.takesTurn = true) (h : item ∈ draft.items d) :
    item.start = draft.nextStart ∧ item.duration = d.span := by
  obtain ⟨raw, hraw, hstart, hduration⟩ := exists_of_mem_items h
  rw [hstart, hduration]
  cases d with
  | slide name seconds =>
    cases List.mem_singleton.mp hraw
    exact ⟨rfl, rfl⟩
  | compact number size image caption =>
    obtain rfl | rfl : raw = _ ∨ raw = _ := by simpa [rawItems] using hraw
    · exact ⟨rfl, rfl⟩
    · exact ⟨rfl, rfl⟩
  | _ => cases hturn

/-- A picture with a block is on when its block says so. -/
theorem time_of_block {block : List (Property α)} (hblock : d.block? = some block)
    (h : item ∈ draft.items d) :
    item.start = (block.reverse.findSome? Property.start?).getD 0 ∧
      item.duration = (block.reverse.findSome? Property.duration?).getD 5 := by
  obtain ⟨raw, hraw, hstart, hduration⟩ := exists_of_mem_items h
  rw [hstart, hduration]
  cases d with
  | image name block' | customImage name block' =>
    cases hblock
    cases List.mem_singleton.mp hraw
    exact Property.time_itemOf _ block
  | _ => cases hblock

/-- On a screen a slide shows one item, and a compact image two. -/
theorem length_items (hscreen : draft.screen.isSome = true) (hturn : d.takesTurn = true) :
    (draft.items d).length = if d.isCompact then 2 else 1 := by
  obtain ⟨screen, hscreen⟩ := Option.isSome_iff_exists.mp hscreen
  rw [items, hscreen]
  cases d with
  | slide | compact => rfl
  | _ => cases hturn

theorem nextStart_obey (draft : Draft Rat) (d : Directive Rat) :
    (draft.obey d).nextStart =
      if d.takesTurn then draft.nextStart + d.span + 1 else draft.nextStart := by
  cases d with
  | slide name seconds =>
    show draft.nextStart + (seconds + 2 + 1) = draft.nextStart + (seconds + 2) + 1
    ring
  | compact number size image caption =>
    show draft.nextStart + (12 + 1) = draft.nextStart + 12 + 1
    ring
  | _ => rfl

theorem index_obey (draft : Draft α) (d : Directive α) :
    (draft.obey d).index = draft.index + if d.isCompact then 1 else 0 := by
  cases d <;> rfl

/-! ### Runs over a description -/

theorem stages_directive (draft : Draft α) (d : Directive α) (phrases : List (Phrase α)) :
    draft.stages (.directive d :: phrases) = ⟨draft, d⟩ :: (draft.obey d).stages phrases :=
  rfl

theorem declared_takeAll (draft : Draft α) (phrases : List (Phrase α)) :
    (draft.takeAll phrases).timeline.declared =
      draft.timeline.declared ++ (draft.stages phrases).flatMap Stage.items := by
  induction phrases generalizing draft with
  | nil => simp [takeAll, stages]
  | cons phrase phrases ih =>
    rw [takeAll_cons, ih]
    cases phrase with
    | skipped => rfl
    | directive d =>
      rw [take, timeline_obey, Timeline.declared_addAll, stages_directive, List.flatMap_cons,
        List.append_assoc]
      rfl

theorem index_takeAll (draft : Draft α) (phrases : List (Phrase α)) :
    (draft.takeAll phrases).index =
      draft.index + (draft.stages phrases).countP (·.directive.isCompact) := by
  induction phrases generalizing draft with
  | nil => rfl
  | cons phrase phrases ih =>
    rw [takeAll_cons, ih]
    cases phrase with
    | skipped => rfl
    | directive d =>
      rw [take, index_obey, stages_directive, List.countP_cons]
      show draft.index + (if d.isCompact = true then 1 else 0) + _ =
        draft.index + (_ + if d.isCompact = true then 1 else 0)
      omega

/-- The count of compact images never goes back. -/
theorem index_le_of_mem_stages {draft : Draft α} {phrases : List (Phrase α)} {s : Stage α}
    (h : s ∈ draft.stages phrases) : draft.index ≤ s.before.index := by
  induction phrases generalizing draft with
  | nil => cases h
  | cons phrase phrases ih =>
    cases phrase with
    | skipped => exact ih h
    | directive d =>
      obtain rfl | h := List.mem_cons.mp h
      · exact le_rfl
      · have hle := ih h
        rw [index_obey] at hle
        omega

/-- No two compact images have the same number in the count. -/
theorem pairwise_index (draft : Draft α) (phrases : List (Phrase α)) :
    (draft.stages phrases).Pairwise fun s s' =>
      s.directive.isCompact = true → s.before.index < s'.before.index := by
  induction phrases generalizing draft with
  | nil => exact .nil
  | cons phrase phrases ih =>
    cases phrase with
    | skipped => exact ih draft
    | directive d =>
      refine .cons (fun s' hs' hcompact => ?_) (ih _)
      have hle := index_le_of_mem_stages hs'
      replace hcompact : d.isCompact = true := hcompact
      rw [index_obey, if_pos hcompact] at hle
      exact hle

theorem turns_directive (draft : Draft α) (d : Directive α) (phrases : List (Phrase α)) :
    Stage.turns (draft.stages (.directive d :: phrases)) =
      if d.takesTurn then ⟨draft, d⟩ :: Stage.turns ((draft.obey d).stages phrases)
      else Stage.turns ((draft.obey d).stages phrases) :=
  List.filter_cons

/-- The first turn begins when the draft has it, and each further one a second after the one before
it is over. -/
theorem isChain_turns (draft : Draft Rat) (phrases : List (Phrase Rat)) :
    (∀ s ∈ (Stage.turns (draft.stages phrases)).head?, s.before.nextStart = draft.nextStart) ∧
      (Stage.turns (draft.stages phrases)).IsChain fun s s' =>
        s'.before.nextStart = s.finish + 1 := by
  induction phrases generalizing draft with
  | nil => simp [stages, Stage.turns]
  | cons phrase phrases ih =>
    cases phrase with
    | skipped => exact ih draft
    | directive d =>
      obtain ⟨hfirst, hchain⟩ := ih (draft.obey d)
      rw [nextStart_obey] at hfirst
      rw [turns_directive]
      by_cases hturn : d.takesTurn = true
      · rw [if_pos hturn] at hfirst
        rw [if_pos hturn, List.isChain_cons]
        refine ⟨fun s hs => ?_, fun s' hs' => ?_, hchain⟩
        · cases hs
          rfl
        · rw [hfirst s' hs', Stage.finish]
      · rw [if_neg hturn] at hfirst
        rw [if_neg hturn]
        exact ⟨hfirst, hchain⟩

/-- The next turn would begin a second after the last one is over. -/
theorem nextStart_takeAll (draft : Draft Rat) (phrases : List (Phrase Rat)) :
    (draft.takeAll phrases).nextStart =
      ((Stage.turns (draft.stages phrases)).getLast?.map (·.finish + 1)).getD draft.nextStart := by
  induction phrases generalizing draft with
  | nil => rfl
  | cons phrase phrases ih =>
    rw [takeAll_cons, ih]
    cases phrase with
    | skipped => rfl
    | directive d =>
      rw [take, turns_directive, nextStart_obey]
      by_cases hturn : d.takesTurn = true
      · rw [if_pos hturn, if_pos hturn, List.getLast?_cons]
        cases (Stage.turns ((draft.obey d).stages phrases)).getLast? <;> rfl
      · rw [if_neg hturn, if_neg hturn]

/-! ### Turns without overlap -/

/-- Turns that are not of negative length never move the schedule back. -/
theorem nextStart_le_of_mem_stages {draft : Draft Rat} {phrases : List (Phrase Rat)}
    (hspan : ∀ s ∈ Stage.turns (draft.stages phrases), 0 ≤ s.directive.span) {s : Stage Rat}
    (h : s ∈ draft.stages phrases) : draft.nextStart ≤ s.before.nextStart := by
  induction phrases generalizing draft with
  | nil => cases h
  | cons phrase phrases ih =>
    cases phrase with
    | skipped => exact ih hspan h
    | directive d =>
      obtain rfl | h := List.mem_cons.mp h
      · exact le_rfl
      · rw [turns_directive] at hspan
        by_cases hturn : d.takesTurn = true
        · rw [if_pos hturn] at hspan
          have hd : 0 ≤ d.span := hspan _ List.mem_cons_self
          have hle := ih (fun s hs => hspan s (List.mem_cons_of_mem _ hs)) h
          rw [nextStart_obey, if_pos hturn] at hle
          linarith
        · rw [if_neg hturn] at hspan
          have hle := ih hspan h
          rwa [nextStart_obey, if_neg hturn] at hle

/-- Each turn begins after all turns before it are over. -/
theorem pairwise_turns {draft : Draft Rat} {phrases : List (Phrase Rat)}
    (hspan : ∀ s ∈ Stage.turns (draft.stages phrases), 0 ≤ s.directive.span) :
    (Stage.turns (draft.stages phrases)).Pairwise fun s s' => s.finish < s'.before.nextStart := by
  induction phrases generalizing draft with
  | nil => exact .nil
  | cons phrase phrases ih =>
    cases phrase with
    | skipped => exact ih hspan
    | directive d =>
      rw [turns_directive] at hspan ⊢
      by_cases hturn : d.takesTurn = true
      · rw [if_pos hturn] at hspan ⊢
        replace hspan s hs := hspan s (List.mem_cons_of_mem _ hs)
        refine .cons (fun s' hs' => ?_) (ih hspan)
        have hle := nextStart_le_of_mem_stages hspan (List.mem_of_mem_filter hs')
        rw [nextStart_obey, if_pos hturn] at hle
        exact (lt_add_one _).trans_le hle
      · rw [if_neg hturn] at hspan ⊢
        exact ih hspan

end Draft

/-! ### Pictures of compact images -/

/-- A number ends before a dash. -/
theorem takeWhile_isDigit_toString (n : Nat) (rest : List Char) :
    ((toString n).toList ++ ("-".toList ++ rest)).takeWhile Char.isDigit = Nat.toDigits 10 n := by
  rw [Nat.toString_eq_repr, Nat.toList_repr, List.takeWhile_append_of_pos fun x hx =>
    Nat.isDigit_of_mem_toDigits (by decide) (by decide) hx]
  exact List.append_nil _

omit [Scalar α] in
/-- The count can be read off the name of a picture. -/
theorem Draft.compactSource_ne {draft draft' : Draft α} (hdir : draft.imageDir = draft'.imageDir)
    (hindex : draft.index ≠ draft'.index) (number number' : Int) :
    draft.compactSource number ≠ draft'.compactSource number' := by
  intro h
  replace h := congrArg String.toList h
  simp only [compactSource, hdir, String.toList_append, List.append_assoc,
    List.append_cancel_left_eq] at h
  replace h := congrArg (List.takeWhile Char.isDigit) h
  rw [takeWhile_isDigit_toString, takeWhile_isDigit_toString] at h
  replace h := congrArg (Nat.ofDigitChars 10 · 0) h
  exact hindex (by simpa using h)

/-- The first item of a compact image shows its picture. -/
theorem Draft.exists_source_eq {draft : Draft α} {d : Directive α} {item : Item α}
    (hcompact : d.isCompact = true) (h : item ∈ (draft.items d).head?) :
    ∃ number, item.source = draft.compactSource number := by
  cases d with
  | compact number size image caption =>
    unfold items at h
    split at h
    · cases h
    · cases h
      exact ⟨number, rfl⟩
  | _ => cases hcompact

/-! ### Schedules of texts -/

/-- A directive of a text has a screen to show something on. -/
theorem Reading.apt_of_mem_stages (dialect : Dialect) (draft : Draft α) (c : Cursor) :
    ∀ s ∈ draft.stages (onward dialect draft c).phrases,
      s.directive.Apt s.before.screen.isSome := by
  induction draft, c using Reading.induction (α := α) dialect with
  | step draft c ih =>
    cases h : dialect.phrase (α := α) draft.screen.isSome c with
    | error e c' =>
      rw [onward_of_error h]
      exact fun s hs => absurd hs List.not_mem_nil
    | ok phrase c' =>
      cases phrase with
      | none =>
        rw [onward_of_none h]
        exact fun s hs => absurd hs List.not_mem_nil
      | some phrase =>
        have hapt := dialect.yields_phrase _ _ _ _ h phrase rfl
        have hrest := ih phrase c' h
        rw [onward_of_some h]
        cases phrase with
        | skipped => exact hrest
        | directive d =>
          intro s hs
          obtain rfl | hs := List.mem_cons.mp hs
          · exact hapt
          · exact hrest s hs

theorem Directive.Apt.isSome_of_takesTurn {screenSet : Bool} {d : Directive α}
    (h : d.Apt screenSet) (hturn : d.takesTurn = true) : screenSet = true := by
  cases d with
  | slide | compact => exact h
  | _ => cases hturn

end Stages

/-- What the directives of a description make of its show. Its turns are its slides and its compact
images in their order, whatever stands between them. -/
structure Schedule (stages : List (Stage Rat)) (after : Draft Rat) : Prop where
  /-- The show consists of what the directives add. -/
  declared : after.timeline.declared = stages.flatMap Stage.items
  /-- A compact image adds a picture and a caption, a slide adds a picture. -/
  length_items : ∀ s ∈ Stage.turns stages, s.items.length = if s.directive.isCompact then 2 else 1
  /-- They are on together. -/
  together : ∀ s ∈ Stage.turns stages, ∀ item ∈ s.items, ∀ item' ∈ s.items,
    item.start = item'.start ∧ item.duration = item'.duration
  /-- The first turn begins with the show. -/
  first : ∀ s ∈ (Stage.turns stages).head?, ∀ item ∈ s.items, item.start = 0
  /-- Each further turn begins a second after the one before it is over. -/
  next : (Stage.turns stages).IsChain fun s s' =>
    ∀ item ∈ s.items, ∀ item' ∈ s'.items, item'.start = item.finish + 1
  /-- So would one more turn, -/
  last : ∀ s ∈ (Stage.turns stages).getLast?, ∀ item ∈ s.items, after.nextStart = item.finish + 1
  /-- or it would be the first one. -/
  empty : Stage.turns stages = [] → after.nextStart = 0
  /-- The time of a picture with a block is what its block says of it, -/
  block_time : ∀ s ∈ stages, ∀ block ∈ s.directive.block?, ∀ item ∈ s.items,
    item.start = (block.reverse.findSome? Property.start?).getD 0 ∧
      item.duration = (block.reverse.findSome? Property.duration?).getD 5
  /-- and the turns go on behind it as they would have without it. -/
  block_nextStart : ∀ s ∈ stages, s.directive.block?.isSome = true →
    (s.before.obey s.directive).nextStart = s.before.nextStart
  /-- Compact images are counted from one. -/
  index : after.index = 1 + stages.countP (·.directive.isCompact)
  /-- With the same directory of pictures no two of them show the same picture. -/
  sources : stages.Pairwise fun s s' => s.directive.isCompact = true →
    s'.directive.isCompact = true → s.before.imageDir = s'.before.imageDir →
      ∀ item ∈ s.items.head?, ∀ item' ∈ s'.items.head?, item.source ≠ item'.source
  /-- If no slide has a negative number of seconds, no two turns are seen at the same time. -/
  apart : (∀ s ∈ stages, ∀ name seconds, s.directive = .slide name seconds → 0 ≤ seconds) →
    (Stage.turns stages).Pairwise fun s s' => ∀ item ∈ s.items, ∀ item' ∈ s'.items,
      ∀ time, ¬(0 < item.opacityAt time ∧ 0 < item'.opacityAt time)

/-- Directives that have a screen where they need one keep the schedule. -/
theorem Draft.schedule (phrases : List (Phrase Rat))
    (hapt : ∀ s ∈ initial.stages phrases, s.directive.Apt s.before.screen.isSome) :
    Schedule (initial.stages phrases) (initial.takeAll phrases) := by
  obtain ⟨hfirst, hchain⟩ := isChain_turns initial phrases
  have hlast := nextStart_takeAll initial phrases
  have hmem {s : Stage Rat} (hs : s ∈ Stage.turns (initial.stages phrases)) :
      s ∈ initial.stages phrases ∧ s.directive.takesTurn = true :=
    List.mem_filter.mp hs
  have htime {s : Stage Rat} (hs : s ∈ Stage.turns (initial.stages phrases)) {item : Item Rat}
      (hitem : item ∈ s.items) : item.start = s.before.nextStart ∧ item.finish = s.finish := by
    obtain ⟨hstart, hduration⟩ := time_of_mem_items (hmem hs).2 hitem
    exact ⟨hstart, by rw [Item.finish, Stage.finish, hstart, hduration]⟩
  refine ⟨?declared, ?length, ?together, ?first, ?next, ?last, ?empty, ?block_time,
    ?block_nextStart, ?index, ?sources, ?apart⟩
  case declared => exact declared_takeAll initial phrases
  case length =>
    intro s hs
    have hturn := (hmem hs).2
    exact length_items ((hapt s (hmem hs).1).isSome_of_takesTurn hturn) hturn
  case together =>
    intro s hs item hitem item' hitem'
    obtain ⟨hstart, hduration⟩ := time_of_mem_items (hmem hs).2 hitem
    obtain ⟨hstart', hduration'⟩ := time_of_mem_items (hmem hs).2 hitem'
    exact ⟨hstart.trans hstart'.symm, hduration.trans hduration'.symm⟩
  case first =>
    intro s hs item hitem
    exact (htime (List.mem_of_mem_head? hs) hitem).1.trans (hfirst s hs)
  case next =>
    refine hchain.imp_of_mem_imp fun s s' hs hs' hnext item hitem item' hitem' => ?_
    rw [(htime hs' hitem').1, (htime hs hitem).2, hnext]
  case last =>
    intro s hs item hitem
    rw [hlast, hs, (htime (List.mem_of_getLast? hs) hitem).2]
    rfl
  case empty =>
    intro hnone
    rw [hlast, hnone]
    rfl
  case block_time =>
    intro s _ block hblock item hitem
    exact time_of_block hblock hitem
  case block_nextStart =>
    intro s _ hblock
    rw [nextStart_obey, if_neg]
    cases hd : s.directive <;> simp_all [Directive.block?, Directive.takesTurn]
  case index => exact index_takeAll initial phrases
  case sources =>
    refine (pairwise_index initial phrases).imp ?_
    intro s s' hindex hcompact hcompact' hdir item hitem item' hitem'
    obtain ⟨number, hsource⟩ := exists_source_eq hcompact hitem
    obtain ⟨number', hsource'⟩ := exists_source_eq hcompact' hitem'
    rw [hsource, hsource']
    exact compactSource_ne hdir (hindex hcompact).ne number number'
  case apart =>
    intro hseconds
    have hspan : ∀ s ∈ Stage.turns (initial.stages phrases), 0 ≤ s.directive.span := by
      intro s hs
      cases hd : s.directive with
      | slide name seconds =>
        have hle := hseconds s (hmem hs).1 name seconds hd
        show 0 ≤ seconds + 2
        linarith
      | compact => show (0 : Rat) ≤ 12; norm_num
      | _ => exact le_rfl
    refine (pairwise_turns hspan).imp_of_mem ?_
    intro s s' hs hs' hbefore item hitem item' hitem' time hseen
    have hfinish := (Item.mem_of_opacityAt_pos hseen.1).2
    have hstart := (Item.mem_of_opacityAt_pos hseen.2).1
    rw [(htime hs hitem).2] at hfinish
    rw [(htime hs' hitem').1] at hstart
    linarith

/-- The schedule of a text. -/
theorem Reading.schedule_of_parse {dialect : Dialect} {text : String} {draft : Draft Rat}
    (h : parse dialect text = .ok draft) :
    Schedule (Draft.initial.stages (ofText dialect text : Reading Rat).phrases) draft := by
  have hdraft : draft = Draft.initial.takeAll (ofText dialect text).phrases := by
    simp only [parse] at h
    split at h
    · cases h
    · exact (Except.ok.inj h).symm
  rw [hdraft]
  exact Draft.schedule _ (apt_of_mem_stages dialect .initial (.ofText text))

/-- Slides and compact images about a picture of its own time. -/
theorem Reading.schedule_of_parse_mixed :
    let dialect : Dialect := { strictNewlines := true }
    let text := "screen = 4, 2\nslide \"a.jpg\" 3\nimage \"b.jpg\" \x7b\n  start = 1\n\x7d\n" ++
      "image 7 2, 2 1a 2b\nimage 7 2, 2 1a 2b\n"
    ∃ draft : Draft Rat, parse dialect text = .ok draft ∧
      draft.timeline.declared.map Item.start = [0, 1, 6, 6, 19, 19] ∧
      Schedule (Draft.initial.stages (ofText dialect text : Reading Rat).phrases) draft := by
  intro dialect text
  have hfailure : (ofText dialect text : Reading Rat).failure = none := by decide +kernel
  have hparse : parse dialect text = .ok (ofText dialect text : Reading Rat).draft := by
    simp only [parse, hfailure]
  refine ⟨_, hparse, ?_, schedule_of_parse hparse⟩
  decide +kernel

end Slideshow
