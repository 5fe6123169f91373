import PapyrusScript.Proofs.LineEnds
import PapyrusScript.Proofs.Stretches

/-!
# Texts that are cut alike

The tokens of two texts stand for each other if their stretches do, one by
one: two gaps both have a line feed or neither has one, and the lexemes behind
them are of the same kind.  Then the same is known of the tokens so far, so
each line break of one text is a line break of the other.
-/

namespace PapyrusScript

variable {wording : Wording}

namespace Wording

section

variable {front twinFront : List Token}

theorem Pairs.kinds (pairs : List.Forall₂ wording.Pairs front twinFront) :
    twinFront.map Token.kind = front.map Token.kind := by
  induction pairs with
  | nil => rfl
  | cons pair _ ih =>
    rw [List.map_cons, List.map_cons, pair.kind, ih]

theorem Rows.append {row twinRow : List Token}
    (pairs : List.Forall₂ wording.Pairs front twinFront)
    (rows : wording.Rows row twinRow) :
    wording.Rows (front ++ row) (twinFront ++ twinRow) := by
  induction pairs with
  | nil => exact rows
  | cons pair _ ih => exact .cons pair ih

/-- Tokens that stand for each other one by one do so as rows. -/
theorem Pairs.rows (pairs : List.Forall₂ wording.Pairs front twinFront) :
    wording.Rows front twinFront := by
  simpa using Rows.append pairs .nil

end

/-- The first stretch of what is left of one text stands for that of the
other. -/
structure Couples
    (stretch twin : Stretch) (start twinStart : Position) : Prop where
  feeds : .lineFeed ∈ twin.gap ↔ .lineFeed ∈ stretch.gap
  pair : wording.Pairs (stretch.token start) (twin.token twinStart)

/-- A gap breaks the line in both texts or in neither. -/
theorem pairs_lineBreak?
    {gap twinGap : List Filler} (feeds : .lineFeed ∈ twinGap ↔ .lineFeed ∈ gap)
    (layout : Layout) (start twinStart : Position) (next : Kind) :
    List.Forall₂ wording.Pairs (lineBreak? layout start gap next).toList
      (lineBreak? layout twinStart twinGap next).toList := by
  unfold lineBreak? beforeLineFeed?
  split
  · by_cases broken : .lineFeed ∈ gap
    · have here := List.contains_iff_mem.2 broken
      have there := List.contains_iff_mem.2 (feeds.2 broken)
      rw [if_pos here, if_pos there]
      exact .cons (.of_not_isFixed rfl rfl nofun) .nil
    · have here := mt List.contains_iff_mem.1 broken
      have there := mt List.contains_iff_mem.1 (mt feeds.1 broken)
      rw [if_neg here, if_neg there]
      exact .nil
  · exact .nil

variable {stretch twin : Stretch} {start twinStart : Position}

theorem Couples.tokens (couple : wording.Couples stretch twin start twinStart)
    (layout : Layout) :
    List.Forall₂ wording.Pairs (stretch.tokens layout start)
      (twin.tokens layout twinStart) := by
  have same : twin.kind = stretch.kind := couple.pair.kind
  unfold Stretch.tokens
  rw [same]
  exact List.rel_append
    (pairs_lineBreak? couple.feeds layout start twinStart stretch.kind)
    (.cons couple.pair .nil)

theorem Couples.behind (couple : wording.Couples stretch twin start twinStart)
    (layout : Layout) :
    layout.behind (twin.tokens layout twinStart) =
      layout.behind (stretch.tokens layout start) :=
  Layout.behind_congr_kind (Pairs.kinds (couple.tokens layout)) layout

section

variable {rest twinRest : List Stretch}

/-- The tokens of the texts stand for each other one by one if those behind
the first stretches do. -/
theorem Couples.pairs_layOut
    (couple : wording.Couples stretch twin start twinStart)
    (pairs : ∀ layout, List.Forall₂ wording.Pairs
      (layOut layout (start.advance stretch.allText) rest)
      (layOut layout (twinStart.advance twin.allText) twinRest))
    (layout : Layout) :
    List.Forall₂ wording.Pairs (layOut layout start (stretch :: rest))
      (layOut layout twinStart (twin :: twinRest)) := by
  rw [layOut, layOut, couple.behind]
  exact List.rel_append (couple.tokens layout) (pairs _)

/-- The tokens of the texts stand for each other as rows if those behind the
first stretches do. -/
theorem Couples.rows_layOut
    (couple : wording.Couples stretch twin start twinStart)
    (rows : ∀ layout, wording.Rows
      (layOut layout (start.advance stretch.allText) rest)
      (layOut layout (twinStart.advance twin.allText) twinRest))
    (layout : Layout) :
    wording.Rows (layOut layout start (stretch :: rest))
      (layOut layout twinStart (twin :: twinRest)) := by
  rw [layOut, layOut, couple.behind]
  exact Rows.append (couple.tokens layout) (rows _)

end

end Wording

/-- Invalid tokens stand for each other if they are of the same kind. -/
theorem Stretch.pairs_of_isInvalid
    {stretch twin : Stretch} (same : twin.kind = stretch.kind)
    (invalid : stretch.kind.isInvalid = true) (start twinStart : Position) :
    wording.Pairs (stretch.token start) (twin.token twinStart) := by
  refine .of_not_isFixed same ?_ ?_
  · simp [Kind.isFixed, invalid]
  · rw [kind_token]
    intro documented
    rw [documented] at invalid
    cases invalid

theorem Stretch.pairs_of_endOfText
    {stretch twin : Stretch} (ends : stretch.kind = .endOfText)
    (twinEnds : twin.kind = .endOfText) (start twinStart : Position) :
    wording.Pairs (stretch.token start) (twin.token twinStart) := by
  refine .of_not_isFixed (twinEnds.trans ends.symm) ?_ ?_
  · rw [kind_token, ends]
    rfl
  · rw [kind_token, ends]
    nofun

end PapyrusScript
