import Slideshow.Proofs.Cursor.Coordinates
import Slideshow.Proofs.Description.Extension
import Slideshow.Proofs.Description.Relocation

/-!
# Descriptions one below the other

Two descriptions with a line end between them describe what the second one does after the first. The
end of the first text is looked at in many places: behind an assignment, behind a block, behind a
number or a word, behind a carriage return. In none of them does it matter that a line end stands
there now.

## Main statements

* `Reading.conclude_extend`: a text that has been read to its end is read again before more lines.
* `Reading.resume_append_newline`: the second text goes on from what the first one leaves.
-/

namespace Slideshow

namespace Cursor

/-- The end of the text. -/
def last (c : Cursor) : Cursor :=
  c.forward c.rest.length

theorem rest_last (c : Cursor) : c.last.rest = [] := by
  simp [last]

theorem last_of_rest_eq_nil {c : Cursor} (h : c.rest = []) : c.last = c := by
  rw [last, h]
  rfl

theorem last_step (c : Cursor) : c.step.last = c.last := by
  cases hrest : c.rest with
  | nil => simp [step, hrest]
  | cons x rest => simp [last, step, hrest, forward]

theorem last_forward (n : Nat) (c : Cursor) : (c.forward n).last = c.last := by
  induction n generalizing c with
  | zero => rfl
  | succ n ih => rw [forward, ih, last_step]

end Cursor

theorem Reader.last_eq_of_forward {β : Type} {r : Reader β} (hr : Forward r) {c c' : Cursor} {b : β}
    (h : r c = .ok b c') : c'.last = c.last := by
  obtain ⟨n, hn⟩ := hr c
  rw [h] at hn
  replace hn : c' = c.forward n := hn
  rw [hn, Cursor.last_forward]

/-- The same complaint `n` lines further down. -/
def Failure.down (n : Nat) : Failure → Failure
  | .grammar fault line column => .grammar fault (line + n) column
  | .conversion kind => .conversion kind

variable {α : Type} [Scalar α]

namespace Reading

/-- A phrase has the same effect before more lines. -/
theorem conclude_extend_of_some {dialect : Dialect} {draft : Draft α} {c c' : Cursor}
    {phrase : Phrase α} (rest : List Char)
    (h : dialect.phrase draft.screen.isSome c = .ok (some phrase) c') :
    conclude dialect draft (c.extend ('\n' :: rest)) =
      conclude dialect (draft.take phrase) (c'.extend ('\n' :: rest)) := by
  have hskip : (c.extend ('\n' :: rest)).SameAhead ((c.skipBlanks true).extend ('\n' :: rest)) :=
    (Cursor.skipBlanks_extend true ('\n' :: rest) c).symm
  by_cases hsettled : (c.skipBlanks true).Settled
  · obtain ⟨d, hd, hahead⟩ := Dialect.exists_phrase_extend rest hsettled h
    rw [conclude_eq, hd]
    exact conclude_of_sameAhead dialect _ hahead
  · have hne : (c.skipBlanks true).rest ≠ [] := by
      intro hnil
      rw [dialect.phrase_eq, if_pos hnil] at h
      cases h
    have hreturn : (c.skipBlanks true).rest = ['\r'] :=
      Classical.byContradiction fun hreturn => hsettled ⟨hne, hreturn⟩
    -- A carriage return that was skipped belongs to the line end that follows now.
    rw [dialect.phrase_of_not_mem _ hreturn (by decide)] at h
    cases h
    have hblank : ((c.skipBlanks true).extend ('\n' :: rest)).step.SameAhead
        ((c.skipBlanks true).extend ('\n' :: rest)) :=
      .step (by simp [hreturn, Cursor.blankAhead])
    rw [Cursor.step_extend hne] at hblank
    exact conclude_of_sameAhead dialect draft (hskip.trans hblank.symm)

/-- A text that has been read to its end is read again before more lines. -/
theorem conclude_extend (dialect : Dialect) (draft : Draft α) (c : Cursor) (rest : List Char)
    (h : (conclude dialect draft c).2 = none) :
    conclude dialect draft (c.extend ('\n' :: rest)) =
      conclude dialect (conclude dialect draft c).1 (c.last.extend ('\n' :: rest)) := by
  -- By induction on the phrases of the first text, each of which is read again.
  induction draft, c using induction (α := α) dialect with
  | step draft c ih =>
    have hconclude := conclude_eq dialect draft c
    cases hphrase : dialect.phrase (α := α) draft.screen.isSome c with
    | error e c' =>
      rw [hphrase] at hconclude
      rw [hconclude] at h
      cases h
    | ok phrase c' =>
      have hlast : c'.last = c.last :=
        Reader.last_eq_of_forward (dialect.forward_phrase draft.screen.isSome) hphrase
      rw [hphrase] at hconclude
      cases phrase with
      | none =>
        -- Only blanks are left, and those run on into the next line.
        obtain ⟨hc', hnil⟩ := Dialect.phrase_eq_none hphrase
        have hskip : (c.extend ('\n' :: rest)).SameAhead (c'.extend ('\n' :: rest)) :=
          hc' ▸ (Cursor.skipBlanks_extend true ('\n' :: rest) c).symm
        rw [hconclude, conclude_of_sameAhead dialect draft hskip, ← hlast,
          Cursor.last_of_rest_eq_nil hnil]
      | some phrase =>
        simp only at hconclude
        rw [hconclude] at h ⊢
        rw [conclude_extend_of_some rest hphrase, ih phrase c' hphrase h, hlast]

/-- The line that follows a text begins a text of its own, further down. -/
theorem conclude_below (dialect : Dialect) (draft : Draft α) (p q : String) :
    conclude dialect draft ((Cursor.ofText p).last.extend ('\n' :: q.toList)) =
      ((conclude dialect draft (.ofText q)).1,
        (conclude dialect draft (.ofText q)).2.map (·.down (1 + p.toList.count '\n'))) := by
  -- The second text begins behind the line end, in the first column of a new line.
  let c := (Cursor.ofText p).last.extend ('\n' :: q.toList)
  let o : Offset := ⟨p.toList.length + 1, 1 + p.toList.count '\n', 0⟩
  have hrest : c.rest = '\n' :: q.toList := by
    simp [c, Cursor.rest_last]
  have hstands : (Cursor.ofText p).last.StandsIn p.toList :=
    (Cursor.StandsIn.ofText p).forward p.toList.length
  have hposition : c.position = p.toList.length := by
    have hlength := hstands.position_add_length
    rwa [Cursor.rest_last] at hlength
  have hline : c.line = 1 + p.toList.count '\n' := by
    have hline := hstands.line
    rwa [show (Cursor.ofText p).last.position = p.toList.length from hposition,
      List.take_length] at hline
  have hstep : c.step = (Cursor.ofText q).behind o := by
    simp only [Cursor.step, hrest, Cursor.past, hposition, hline]
    simp [Cursor.behind, Cursor.ofText, Offset.moveColumn, o, Nat.add_comm]
  have hdown : Failure.behind o = Failure.down (1 + p.toList.count '\n') := by
    funext e
    cases e <;> simp [Failure.behind, Failure.down, Offset.moveColumn, o]
  have hblank : c.step.SameAhead c := .step (by rw [hrest]; rfl)
  show conclude dialect draft c = _
  rw [← conclude_of_sameAhead dialect draft hblank, hstep,
    conclude_behind dialect draft _ (Nat.le_refl 1), hdown]

/-- Two descriptions with a line end between them. If the first is read without a failure, what the
two describe, and how the reading fails, is what the second does by itself after the first, with its
complaint as many lines further down as the first takes up. -/
theorem resume_append_newline (dialect : Dialect) (draft : Draft α) (p q : String)
    (h : (resume dialect draft p).failure = none) :
    let whole := resume dialect draft (p ++ "\n" ++ q)
    let left := draft.takeAll (resume dialect draft p).phrases
    let below := resume dialect left q
    draft.takeAll whole.phrases = left.takeAll below.phrases ∧
      whole.failure = below.failure.map (·.down (1 + p.toList.count '\n')) := by
  intro whole left below
  have htext : Cursor.ofText (p ++ "\n" ++ q) = (Cursor.ofText p).extend ('\n' :: q.toList) := by
    simp [Cursor.ofText, Cursor.extend]
  have hwhole : conclude dialect draft (.ofText (p ++ "\n" ++ q)) =
      ((conclude dialect left (.ofText q)).1,
        (conclude dialect left (.ofText q)).2.map (·.down (1 + p.toList.count '\n'))) := by
    rw [htext, conclude_extend dialect draft _ _ h]
    exact conclude_below dialect left p q
  exact ⟨congrArg Prod.fst hwhole, congrArg Prod.snd hwhole⟩

/-- The second text goes on with the screen of the first, whose last character is now part of the
line end, and fails on its own first line. -/
theorem resume_append_newline_screen :
    (resume { strictNewlines := false } (.initial : Draft Rat) "screen = 4, 2\r").failure = none ∧
      (resume { strictNewlines := false } (.initial : Draft Rat)
        ("screen = 4, 2\r" ++ "\n" ++ "image 7 2, 2")).failure =
          some (.grammar .noNumber 2 13) := by
  have h : (resume { strictNewlines := false } (.initial : Draft Rat) "screen = 4, 2\r").failure =
      none := by
    decide +kernel
  refine ⟨h, ?_⟩
  rw [(resume_append_newline { strictNewlines := false } .initial "screen = 4, 2\r" "image 7 2, 2"
    h).2]
  decide +kernel

end Reading

end Slideshow
