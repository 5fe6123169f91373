import PapyrusScript.Proofs.Reading

/-!
# Readers that take a row of tokens

`reader.Takes row rest fact` says that the reader passes exactly the tokens of
`row` when `rest` follows them, reports nothing, and answers with a value of
which the fact holds.  Rows of the steps of a reader are joined to the row of
the reader.

What follows a row matters where a reader looks ahead; `Heads` speaks of the
first token of a row.
-/

namespace PapyrusScript

open Cursor

variable {α β : Type}
variable {allowed : Kind → Prop} {row rest : List Token}

def Heads (allowed : Kind → Prop) : List Token → Prop
  | [] => False
  | token :: _ => allowed token.kind

/-- The reader passes a row of tokens with something behind it, reports
nothing, and answers with a value of which a fact holds. -/
def Recovery.Takes
    (reader : Recovery α) (row rest : List Token) (fact : α → Prop) : Prop :=
  ∀ cursor : Cursor, cursor.budget = row ++ rest →
    reader.Ends cursor fun value after =>
      fact value ∧ after.budget = rest ∧ cursor.Quiet after

def Reader.Takes
    (reader : Reader α) (row rest : List Token) (fact : α → Prop) : Prop :=
  ∀ cursor : Cursor, cursor.budget = row ++ rest →
    reader.Ends cursor
      (fun value after =>
        fact value ∧ after.budget = rest ∧ cursor.Quiet after)
      (fun _ _ => False)

theorem Heads.kind
    {row : List Token} {cursor : Cursor} (heads : Heads allowed row)
    (here : cursor.budget = row) :
    allowed cursor.kind := by
  cases row with
  | nil => exact heads.elim
  | cons token row =>
    rw [kind_of_budget here]
    exact heads

theorem heads_ne {token : Token} {rest : List Token} {kind other : Kind}
    (found : token.kind = kind) (apart : kind ≠ other) :
    Heads (· ≠ other) (token :: rest) := by
  show token.kind ≠ other
  rw [found]
  exact apart

theorem heads_of_budget
    {row : List Token} {cursor : Cursor} (here : cursor.budget = row)
    (holds : allowed cursor.kind) :
    Heads allowed row := by
  rw [← here]
  exact holds

theorem Heads.mono {allowed weaker : Kind → Prop} {row : List Token}
    (heads : Heads allowed row)
    (implied : ∀ kind, allowed kind → weaker kind) : Heads weaker row := by
  cases row with
  | nil => exact heads
  | cons token row => exact implied _ heads

theorem Heads.append (heads : Heads allowed row) :
    Heads allowed (row ++ rest) := by
  cases row with
  | nil => exact heads.elim
  | cons token row => exact heads

namespace Recovery

variable {row rest : List Token} {fact known : α → Prop} {token : Token}
variable {reader : Recovery α} {following : α → Recovery β}

theorem Takes.mono (takes : reader.Takes row rest known)
    (implied : ∀ value, known value → fact value) :
    reader.Takes row rest fact := by
  intro cursor here
  apply (takes cursor here).mono
  intro value after reached
  obtain ⟨holds, place⟩ := reached
  exact ⟨implied value holds, place⟩

theorem Takes.pure {value : α} (holds : fact value) :
    Takes (Pure.pure value) [] rest fact :=
  fun cursor here => ⟨holds, here, .refl cursor⟩

theorem Takes.bind {behind : List Token} {fact : β → Prop}
    (first : reader.Takes row (behind ++ rest) known)
    (second : ∀ value, known value → (following value).Takes behind rest fact) :
    Takes (reader >>= following) (row ++ behind) rest fact := by
  intro cursor here
  rw [ends_bind]
  apply (first cursor (by rw [here, List.append_assoc])).mono
  intro value middle reached
  obtain ⟨holds, place, quiet⟩ := reached
  apply (second value holds middle place).mono
  intro other after reached
  obtain ⟨holdsToo, placeToo, quietToo⟩ := reached
  exact ⟨holdsToo, placeToo, quiet.trans quietToo⟩

theorem Takes.bind_nil {fact : β → Prop} (first : reader.Takes row rest known)
    (second : ∀ value, known value → (following value).Takes [] rest fact) :
    Takes (reader >>= following) row rest fact := by
  have takes : Takes (reader >>= following) (row ++ []) rest fact :=
    .bind first second
  rwa [List.append_nil] at takes

theorem Takes.after
    {fact : β → Prop} (first : reader.Takes [] (row ++ rest) known)
    (second : ∀ value, known value → (following value).Takes row rest fact) :
    Takes (reader >>= following) row rest fact :=
  Takes.bind first second

theorem Takes.get {following : Cursor → Recovery β} {fact : β → Prop}
    (takes : ∀ cursor : Cursor, cursor.budget = row ++ rest →
      (following cursor).Takes row rest fact) :
    Takes (MonadState.get >>= following) row rest fact :=
  fun cursor here => takes cursor here cursor here

theorem Takes.advance {following : Token → Recovery β} {fact : β → Prop}
    (inside : token.kind ≠ .endOfText)
    (takes : (following token).Takes row rest fact) :
    Takes (Reader.advance >>= following) (token :: row) rest fact := by
  intro cursor here
  have next := budget_next_of_budget here inside
  rw [ends_bind, ends_advance, current_of_budget here]
  apply (takes cursor.next next).mono
  intro value after reached
  obtain ⟨holds, place, quiet⟩ := reached
  exact ⟨holds, place, (quiet_next cursor).trans quiet⟩

end Recovery

namespace Reader

variable {row rest : List Token} {fact known : α → Prop} {token : Token}
variable {reader : Reader α} {following : α → Reader β}

theorem Takes.mono (takes : reader.Takes row rest known)
    (implied : ∀ value, known value → fact value) :
    reader.Takes row rest fact := by
  intro cursor here
  apply (takes cursor here).mono
  · intro value after reached
    obtain ⟨holds, place⟩ := reached
    exact ⟨implied value holds, place⟩
  · intro _ _ never
    exact never

theorem Takes.pure {value : α} (holds : fact value) :
    Takes (Pure.pure value) [] rest fact :=
  fun cursor here => ⟨holds, here, .refl cursor⟩

/-- Rows of two readers are joined. -/
theorem Takes.bind {behind : List Token} {fact : β → Prop}
    (first : reader.Takes row (behind ++ rest) known)
    (second : ∀ value, known value → (following value).Takes behind rest fact) :
    Takes (reader >>= following) (row ++ behind) rest fact := by
  intro cursor here
  rw [ends_bind]
  apply (first cursor (by rw [here, List.append_assoc])).mono
  · intro value middle reached
    obtain ⟨holds, place, quiet⟩ := reached
    apply (second value holds middle place).mono
    · intro other after reached
      obtain ⟨holdsToo, placeToo, quietToo⟩ := reached
      exact ⟨holdsToo, placeToo, quiet.trans quietToo⟩
    · intro _ _ never
      exact never
  · intro _ _ never
    exact never

theorem Takes.bind_nil {fact : β → Prop} (first : reader.Takes row rest known)
    (second : ∀ value, known value → (following value).Takes [] rest fact) :
    Takes (reader >>= following) row rest fact := by
  have takes : Takes (reader >>= following) (row ++ []) rest fact :=
    .bind first second
  rwa [List.append_nil] at takes

theorem Takes.after
    {fact : β → Prop} (first : reader.Takes [] (row ++ rest) known)
    (second : ∀ value, known value → (following value).Takes row rest fact) :
    Takes (reader >>= following) row rest fact :=
  Takes.bind first second

theorem Takes.get {following : Cursor → Reader β} {fact : β → Prop}
    (takes : ∀ cursor : Cursor, cursor.budget = row ++ rest →
      (following cursor).Takes row rest fact) :
    Takes (MonadState.get >>= following) row rest fact :=
  fun cursor here => takes cursor here cursor here

theorem Takes.lift {reader : Recovery α} (takes : reader.Takes row rest fact) :
    Takes (liftM reader) row rest fact :=
  takes

theorem Takes.advance {following : Token → Reader β} {fact : β → Prop}
    (inside : token.kind ≠ .endOfText)
    (takes : (following token).Takes row rest fact) :
    Takes (liftM Reader.advance >>= following) (token :: row) rest fact := by
  intro cursor here
  have next := budget_next_of_budget here inside
  rw [ends_bind, ends_lift, Recovery.ends_advance, current_of_budget here]
  apply (takes cursor.next next).mono
  · intro value after reached
    obtain ⟨holds, place, quiet⟩ := reached
    exact ⟨holds, place, (quiet_next cursor).trans quiet⟩
  · intro _ _ never
    exact never

theorem Takes.map {change : α → β} {fact : β → Prop}
    (takes : reader.Takes row rest fun value => fact (change value)) :
    Takes (change <$> reader) row rest fact := by
  intro cursor here
  rw [ends_map]
  exact takes cursor here

/-- A reader that does not fail answers with its value. -/
theorem Takes.run (takes : reader.Takes row rest fact) :
    Recovery.Takes reader.run row rest fun answer =>
      ∃ value, answer = .ok value ∧ fact value := by
  intro cursor here
  rw [Recovery.ends_run]
  apply (takes cursor here).mono
  · intro value after reached
    obtain ⟨holds, place⟩ := reached
    exact ⟨⟨value, rfl, holds⟩, place⟩
  · intro _ _ never
    exact never.elim

/-- A token that is expected is taken. -/
theorem Takes.expect
    {following : Token → Reader β} {fact : β → Prop} {kind : Kind}
    {purpose : String} (found : token.kind = kind)
    (inside : token.kind ≠ .endOfText)
    (takes : (following token).Takes row rest fact) :
    Takes (Reader.expect kind purpose >>= following) (token :: row) rest
      fact := by
  intro cursor here
  have kind := (kind_of_budget here).trans found
  have next := budget_next_of_budget here inside
  rw [ends_bind, ends_expect kind, current_of_budget here]
  apply (takes cursor.next next).mono
  · intro value after reached
    obtain ⟨holds, place, quiet⟩ := reached
    exact ⟨holds, place, (quiet_next cursor).trans quiet⟩
  · intro _ _ never
    exact never

/-- A name is taken. -/
theorem Takes.identifier
    {following : Identifier → Reader β} {fact : β → Prop} {what : String}
    (named : token.kind = .identifier)
    (takes : (following ⟨token.text, token.span⟩).Takes row rest fact) :
    Takes (Reader.identifier what >>= following) (token :: row) rest fact := by
  intro cursor here
  have kind := (kind_of_budget here).trans named
  have next := budget_next_of_budget here (by simp [named])
  rw [ends_bind, ends_identifier kind, current_of_budget here]
  apply (takes cursor.next next).mono
  · intro value after reached
    obtain ⟨holds, place, quiet⟩ := reached
    exact ⟨holds, place, (quiet_next cursor).trans quiet⟩
  · intro _ _ never
    exact never

end Reader

/-! ## Loops -/

namespace Recovery

abbrev iterate (step : α → Recovery (Step α)) (value : α) : Recovery α := do
  loop step (← get).budget value

variable {step : α → Recovery (Step α)} {row behind rest : List Token}
  {fact known : α → Prop} {value : α}
  (proceeds : ∀ value cursor, (step value).Proceeds cursor)

include proceeds

/-- A loop that goes on takes the row of its step, and then the rest. -/
theorem Takes.again
    (first : (step value).Takes row (behind ++ rest) fun decision =>
      ∃ following, decision = .again following ∧ known following)
    (more : ∀ following, known following →
      (iterate step following).Takes behind rest fact) :
    (iterate step value).Takes (row ++ behind) rest fact := by
  intro cursor here
  rw [ends_bind, ends_get, ends_loop proceeds]
  apply (first cursor (by rw [here, List.append_assoc])).mono
  intro _ middle reached
  obtain ⟨⟨following, rfl, holds⟩, place, quiet⟩ := reached
  have ends := more following holds middle place
  rw [ends_bind, ends_get] at ends
  apply ends.mono
  intro final after reached
  obtain ⟨holdsToo, placeToo, quietToo⟩ := reached
  exact ⟨holdsToo, placeToo, quiet.trans quietToo⟩

theorem Takes.done (last : (step value).Takes row rest fun decision =>
      ∃ final, decision = .done final ∧ fact final) :
    (iterate step value).Takes row rest fact := by
  intro cursor here
  rw [ends_bind, ends_get, ends_loop proceeds]
  apply (last cursor here).mono
  intro _ after reached
  obtain ⟨⟨final, rfl, holds⟩, place, quiet⟩ := reached
  exact ⟨holds, place, quiet⟩

theorem Takes.again_of_eq {following : α}
    (first : (step value).Takes row (behind ++ rest) (· = .again following))
    (more : (iterate step following).Takes behind rest fact) :
    (iterate step value).Takes (row ++ behind) rest fact := by
  have goesOn : (step value).Takes row (behind ++ rest) fun decision =>
      ∃ next, decision = .again next ∧ next = following :=
    first.mono fun _ same => ⟨following, same, rfl⟩
  apply Takes.again proceeds goesOn
  intro next same
  rw [same]
  exact more

theorem Takes.done_of_eq
    {final : α} (last : (step value).Takes row rest (· = .done final))
    (holds : fact final) : (iterate step value).Takes row rest fact :=
  Takes.done proceeds (last.mono fun _ same => ⟨final, same, holds⟩)

end Recovery

/-- What follows a loop takes its row behind that of the loop. -/
theorem Recovery.Takes.iterate
    {step : α → Recovery (Step α)} {following : α → Recovery β}
    {row behind rest : List Token} {known : α → Prop} {fact : β → Prop}
    {value : α}
    (first : (Recovery.iterate step value).Takes row (behind ++ rest) known)
    (second : ∀ final, known final → (following final).Takes behind rest fact) :
    Takes
      (MonadState.get >>= fun cursor =>
        loop step cursor.budget value >>= following)
      (row ++ behind) rest fact := by
  have takes : Takes (Recovery.iterate step value >>= following)
      (row ++ behind) rest fact := .bind first second
  intro cursor here
  have ends := takes cursor here
  rw [ends_bind, ends_bind, ends_get] at ends
  rw [ends_bind, ends_get, ends_bind]
  exact ends

theorem Recovery.Takes.iterate_nil
    {step : α → Recovery (Step α)} {following : α → Recovery β}
    {known : α → Prop} {fact : β → Prop} {value : α}
    (first : (Recovery.iterate step value).Takes row rest known)
    (second : ∀ final, known final → (following final).Takes [] rest fact) :
    Takes
      (MonadState.get >>= fun cursor =>
        loop step cursor.budget value >>= following)
      row rest fact := by
  rw [← List.append_nil row]
  exact .iterate first second

theorem Recovery.Takes.inBlock
    {body : Recovery α} {block : Block} {fact : α → Prop}
    (takes : body.Takes row rest fact) :
    Takes (Reader.inBlock block body) row rest fact := by
  intro cursor here
  rw [ends_inBlock]
  apply (takes (cursor.enter block) here).mono
  intro value after reached
  obtain ⟨holds, place, quiet⟩ := reached
  refine ⟨holds, place, quiet.reported, ?_⟩
  rw [openBlocks_leave, quiet.openBlocks]
  rfl

end PapyrusScript
