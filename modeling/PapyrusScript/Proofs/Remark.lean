import PapyrusScript.Proofs.Take

/-!
# Readers that take a row and report something

`reader.Remarks row rest news fact` says of a reader what `Takes` says of one
that is quiet: it passes exactly the tokens of `row`, and it reports exactly
`news` on the way, in this order.  The reports of consecutive readers are
joined as their rows are.
-/

namespace PapyrusScript

open Cursor

variable {α β : Type} {row behind rest : List Token}
  {news more : List Diagnostic}

/-- Exactly some errors have been reported between two cursors, and the same
blocks are open. -/
structure Cursor.Remarked
    (source target : Cursor) (news : List Diagnostic) : Prop where
  reported : target.reported = news.reverse ++ source.reported
  openBlocks : target.openBlocks = source.openBlocks

namespace Cursor

variable {source middle target : Cursor}

theorem Quiet.remarked (quiet : source.Quiet target) :
    source.Remarked target [] :=
  ⟨quiet.reported, quiet.openBlocks⟩

theorem Remarked.quiet (remarked : source.Remarked target []) :
    source.Quiet target :=
  ⟨remarked.reported, remarked.openBlocks⟩

theorem Remarked.trans (first : source.Remarked middle news)
    (second : middle.Remarked target more) :
    source.Remarked target (news ++ more) where
  reported := by
    rw [second.reported, first.reported, List.reverse_append, List.append_assoc]
  openBlocks := second.openBlocks.trans first.openBlocks

end Cursor

/-- The reader passes a row of tokens with something behind it, reports some
errors, and answers with a value of which a fact holds. -/
def Recovery.Remarks
    (reader : Recovery α) (row rest : List Token) (news : List Diagnostic)
    (fact : α → Prop) : Prop :=
  ∀ cursor : Cursor, cursor.budget = row ++ rest →
    reader.Ends cursor fun value after =>
      fact value ∧ after.budget = rest ∧ cursor.Remarked after news

/-- The same for a reader that may fail, but does not. -/
def Reader.Remarks
    (reader : Reader α) (row rest : List Token) (news : List Diagnostic)
    (fact : α → Prop) : Prop :=
  ∀ cursor : Cursor, cursor.budget = row ++ rest →
    reader.Ends cursor
      (fun value after =>
        fact value ∧ after.budget = rest ∧ cursor.Remarked after news)
      (fun _ _ => False)

namespace Recovery

variable {fact known : α → Prop} {token : Token}
variable {reader : Recovery α} {following : α → Recovery β}

theorem Takes.remarks (takes : reader.Takes row rest fact) :
    reader.Remarks row rest [] fact := by
  intro cursor here
  apply (takes cursor here).mono
  rintro value after ⟨holds, place, quiet⟩
  exact ⟨holds, place, quiet.remarked⟩

theorem Remarks.takes (remarks : reader.Remarks row rest [] fact) :
    reader.Takes row rest fact := by
  intro cursor here
  apply (remarks cursor here).mono
  rintro value after ⟨holds, place, remarked⟩
  exact ⟨holds, place, remarked.quiet⟩

theorem Remarks.mono (remarks : reader.Remarks row rest news known)
    (implied : ∀ value, known value → fact value) :
    reader.Remarks row rest news fact := by
  intro cursor here
  apply (remarks cursor here).mono
  rintro value after ⟨holds, reached⟩
  exact ⟨implied value holds, reached⟩

theorem Remarks.bind
    {fact : β → Prop} (first : reader.Remarks row (behind ++ rest) news known)
    (second : ∀ value, known value →
      (following value).Remarks behind rest more fact) :
    Remarks (reader >>= following) (row ++ behind) rest (news ++ more)
      fact := by
  intro cursor here
  rw [ends_bind]
  apply (first cursor (by rw [here, List.append_assoc])).mono
  rintro value middle ⟨holds, place, remarked⟩
  apply (second value holds middle place).mono
  rintro other after ⟨holdsToo, placeToo, remarkedToo⟩
  exact ⟨holdsToo, placeToo, remarked.trans remarkedToo⟩

theorem Takes.bindRemarks
    {fact : β → Prop} (first : reader.Takes row (behind ++ rest) known)
    (second : ∀ value, known value →
      (following value).Remarks behind rest news fact) :
    Remarks (reader >>= following) (row ++ behind) rest news fact :=
  Remarks.bind first.remarks second

/-- The same when the first part is quiet and takes nothing. -/
theorem Takes.afterRemarks
    {fact : β → Prop} (first : reader.Takes [] (row ++ rest) known)
    (second : ∀ value, known value →
      (following value).Remarks row rest news fact) :
    Remarks (reader >>= following) row rest news fact :=
  first.bindRemarks second

theorem Remarks.bind_nil
    {fact : β → Prop} (first : reader.Remarks row rest news known)
    (second : ∀ value, known value → (following value).Takes [] rest fact) :
    Remarks (reader >>= following) row rest news fact := by
  have remarks : Remarks (reader >>= following) (row ++ []) rest (news ++ [])
      fact := .bind first fun value holds => (second value holds).remarks
  rwa [List.append_nil, List.append_nil] at remarks

theorem Remarks.after
    {fact : β → Prop} (first : reader.Remarks [] (row ++ rest) news known)
    (second : ∀ value, known value →
      (following value).Remarks row rest more fact) :
    Remarks (reader >>= following) row rest (news ++ more) fact :=
  first.bind second

theorem Remarks.beforeTakes
    {fact : β → Prop} (first : reader.Remarks [] (row ++ rest) news known)
    (second : ∀ value, known value → (following value).Takes row rest fact) :
    Remarks (reader >>= following) row rest news fact := by
  have remarks := first.after fun value holds => (second value holds).remarks
  rwa [List.append_nil] at remarks

theorem Remarks.get {following : Cursor → Recovery β} {fact : β → Prop}
    (remarks : ∀ cursor : Cursor, cursor.budget = row ++ rest →
      (following cursor).Remarks row rest news fact) :
    Remarks (MonadState.get >>= following) row rest news fact :=
  fun cursor here => remarks cursor here cursor here

theorem Remarks.advance {following : Token → Recovery β} {fact : β → Prop}
    (inside : token.kind ≠ .endOfText)
    (remarks : (following token).Remarks row rest news fact) :
    Remarks (Reader.advance >>= following) (token :: row) rest news fact := by
  intro cursor here
  have next := budget_next_of_budget here inside
  rw [ends_bind, ends_advance, current_of_budget here]
  apply (remarks cursor.next next).mono
  rintro value after ⟨holds, place, remarked⟩
  exact ⟨holds, place, (quiet_next cursor).remarked.trans remarked⟩

theorem remarks_report (diagnostic : Diagnostic) :
    (Reader.report diagnostic).Remarks [] rest [diagnostic] fun _ => True :=
  fun _ here => ⟨trivial, here, rfl, rfl⟩

theorem remarks_complain (position : Position) (cause : Cause) :
    (Reader.complain position cause).Remarks [] rest [⟨position, cause⟩]
      fun _ => True :=
  remarks_report ⟨position, cause⟩

theorem Remarks.inBlock {body : Recovery α} {block : Block}
    (remarks : body.Remarks row rest news fact) :
    Remarks (Reader.inBlock block body) row rest news fact := by
  intro cursor here
  rw [ends_inBlock]
  apply (remarks (cursor.enter block) here).mono
  rintro value after ⟨holds, place, remarked⟩
  refine ⟨holds, place, remarked.reported, ?_⟩
  rw [openBlocks_leave, remarked.openBlocks]
  rfl

/-! ## Loops -/

section Loop

variable {step : α → Recovery (Step α)} {value : α}
  (proceeds : ∀ value cursor, (step value).Proceeds cursor)

include proceeds

/-- A loop that goes on reports what its step does, and then the rest. -/
theorem Remarks.again
    (first : (step value).Remarks row (behind ++ rest) news fun decision =>
      ∃ following, decision = .again following ∧ known following)
    (others : ∀ following, known following →
      (Recovery.iterate step following).Remarks behind rest more fact) :
    (Recovery.iterate step value).Remarks (row ++ behind) rest (news ++ more)
      fact := by
  intro cursor here
  rw [ends_bind, ends_get, ends_loop proceeds]
  apply (first cursor (by rw [here, List.append_assoc])).mono
  rintro _ middle ⟨⟨following, rfl, holds⟩, place, remarked⟩
  have ends := others following holds middle place
  rw [ends_bind, ends_get] at ends
  apply ends.mono
  rintro final after ⟨holdsToo, placeToo, remarkedToo⟩
  exact ⟨holdsToo, placeToo, remarked.trans remarkedToo⟩

theorem Takes.againRemarks
    (first : (step value).Takes row (behind ++ rest) fun decision =>
      ∃ following, decision = .again following ∧ known following)
    (others : ∀ following, known following →
      (Recovery.iterate step following).Remarks behind rest news fact) :
    (Recovery.iterate step value).Remarks (row ++ behind) rest news fact :=
  Remarks.again proceeds first.remarks others

end Loop

end Recovery

/-- What follows a loop goes on with its value, and takes nothing. -/
theorem Recovery.Remarks.iterate_nil
    {step : α → Recovery (Step α)} {following : α → Recovery β}
    {known : α → Prop} {fact : β → Prop} {value : α}
    (first : (Recovery.iterate step value).Remarks row rest news known)
    (second : ∀ final, known final → (following final).Takes [] rest fact) :
    Remarks
      (MonadState.get >>= fun cursor =>
        loop step cursor.budget value >>= following)
      row rest news fact := by
  have remarks : Remarks (Recovery.iterate step value >>= following) row rest
      news fact := .bind_nil first second
  intro cursor here
  have ends := remarks cursor here
  rw [ends_bind, ends_bind, ends_get] at ends
  rw [ends_bind, ends_get, ends_bind]
  exact ends

namespace Reader

variable {fact known : α → Prop} {token : Token}
variable {reader : Reader α} {following : α → Reader β}

theorem Remarks.get {following : Cursor → Reader β} {fact : β → Prop}
    (remarks : ∀ cursor : Cursor, cursor.budget = row ++ rest →
      (following cursor).Remarks row rest news fact) :
    Remarks (MonadState.get >>= following) row rest news fact :=
  fun cursor here => remarks cursor here cursor here

theorem Remarks.lift
    {reader : Recovery α} (remarks : reader.Remarks row rest news fact) :
    Remarks (liftM reader) row rest news fact :=
  remarks

theorem Takes.remarks (takes : reader.Takes row rest fact) :
    reader.Remarks row rest [] fact := by
  intro cursor here
  apply (takes cursor here).mono
  · rintro value after ⟨holds, place, quiet⟩
    exact ⟨holds, place, quiet.remarked⟩
  · exact fun _ _ never => never

theorem Remarks.takes (remarks : reader.Remarks row rest [] fact) :
    reader.Takes row rest fact := by
  intro cursor here
  apply (remarks cursor here).mono
  · rintro value after ⟨holds, place, remarked⟩
    exact ⟨holds, place, remarked.quiet⟩
  · exact fun _ _ never => never

theorem Remarks.mono (remarks : reader.Remarks row rest news known)
    (implied : ∀ value, known value → fact value) :
    reader.Remarks row rest news fact := by
  intro cursor here
  apply (remarks cursor here).mono
  · rintro value after ⟨holds, reached⟩
    exact ⟨implied value holds, reached⟩
  · exact fun _ _ never => never

/-- In a text of nothing but the row, nothing else is reported. -/
theorem Remarks.ends_start
    (remarks : reader.Remarks row (missingEnd row) news fact) :
    reader.Ends (start row)
      (fun value after => fact value ∧ after.reported = news.reverse)
      (fun _ _ => False) := by
  apply (remarks (start row) (budget_start row)).mono
  · rintro value after ⟨holds, -, remarked⟩
    rw [remarked.reported, reported_start, List.append_nil]
    exact ⟨holds, rfl⟩
  · exact fun _ _ never => never

/-- A reader that does not fail answers with its value. -/
theorem Remarks.run (remarks : reader.Remarks row rest news fact) :
    Recovery.Remarks reader.run row rest news fun answer =>
      ∃ value, answer = .ok value ∧ fact value := by
  intro cursor here
  rw [Recovery.ends_run]
  apply (remarks cursor here).mono
  · rintro value after ⟨holds, reached⟩
    exact ⟨⟨value, rfl, holds⟩, reached⟩
  · exact fun _ _ never => never.elim

/-- Rows and reports of two readers are joined. -/
theorem Remarks.bind
    {fact : β → Prop} (first : reader.Remarks row (behind ++ rest) news known)
    (second : ∀ value, known value →
      (following value).Remarks behind rest more fact) :
    Remarks (reader >>= following) (row ++ behind) rest (news ++ more)
      fact := by
  intro cursor here
  rw [ends_bind]
  apply (first cursor (by rw [here, List.append_assoc])).mono
  · rintro value middle ⟨holds, place, remarked⟩
    apply (second value holds middle place).mono
    · rintro other after ⟨holdsToo, placeToo, remarkedToo⟩
      exact ⟨holdsToo, placeToo, remarked.trans remarkedToo⟩
    · exact fun _ _ never => never
  · exact fun _ _ never => never

theorem Takes.bindRemarks
    {fact : β → Prop} (first : reader.Takes row (behind ++ rest) known)
    (second : ∀ value, known value →
      (following value).Remarks behind rest news fact) :
    Remarks (reader >>= following) (row ++ behind) rest news fact :=
  Remarks.bind first.remarks second

/-- The same when the first part is quiet and takes nothing. -/
theorem Takes.afterRemarks
    {fact : β → Prop} (first : reader.Takes [] (row ++ rest) known)
    (second : ∀ value, known value →
      (following value).Remarks row rest news fact) :
    Remarks (reader >>= following) row rest news fact :=
  first.bindRemarks second

theorem Remarks.bind_nil
    {fact : β → Prop} (first : reader.Remarks row rest news known)
    (second : ∀ value, known value → (following value).Takes [] rest fact) :
    Remarks (reader >>= following) row rest news fact := by
  have remarks : Remarks (reader >>= following) (row ++ []) rest (news ++ [])
      fact := .bind first fun value holds => (second value holds).remarks
  rwa [List.append_nil, List.append_nil] at remarks

theorem Remarks.map {change : α → β} {fact : β → Prop}
    (remarks : reader.Remarks row rest news fun value =>
      fact (change value)) :
    Remarks (change <$> reader) row rest news fact := by
  intro cursor here
  rw [ends_map]
  exact remarks cursor here

/-- A token that is expected is passed without a report. -/
theorem Remarks.expect
    {following : Token → Reader β} {fact : β → Prop} {kind : Kind}
    {purpose : String} (found : token.kind = kind)
    (inside : token.kind ≠ .endOfText)
    (remarks : (following token).Remarks row rest news fact) :
    Remarks (Reader.expect kind purpose >>= following) (token :: row) rest
      news fact := by
  have first : (Reader.expect kind purpose).Takes [token] (row ++ rest)
      (· = token) := by
    intro cursor here
    rw [ends_expect ((kind_of_budget here).trans found), current_of_budget here]
    exact ⟨rfl, budget_next_of_budget here inside, quiet_next cursor⟩
  apply first.bindRemarks
  rintro _ rfl
  exact remarks

/-- A name is passed without a report. -/
theorem Remarks.identifier
    {following : Identifier → Reader β} {fact : β → Prop} {what : String}
    (named : token.kind = .identifier)
    (remarks : (following ⟨token.text, token.span⟩).Remarks row rest news
      fact) :
    Remarks (Reader.identifier what >>= following) (token :: row) rest news
      fact := by
  have first : (Reader.identifier what).Takes [token] (row ++ rest)
      (· = ⟨token.text, token.span⟩) := by
    intro cursor here
    rw [ends_identifier ((kind_of_budget here).trans named),
      current_of_budget here]
    exact ⟨rfl, budget_next_of_budget here (by simp [named]), quiet_next cursor⟩
  apply first.bindRemarks
  rintro _ rfl
  exact remarks

end Reader

end PapyrusScript
