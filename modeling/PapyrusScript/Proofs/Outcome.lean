import PapyrusScript.Grammar.Reader

/-!
# Outcomes of readers

What a reader does at a cursor is described by what may hold at its end:

* `Recovery.Ends reader cursor post` says that the answer and the cursor after
  it satisfy `post`;
* `Reader.Ends reader cursor accepted refused` says that a value and the
  cursor after it satisfy `accepted`, or a diagnostic and the cursor where the
  reader gave up satisfy `refused`.

Both go through the steps of a reader one by one.
-/

namespace PapyrusScript

variable {α β : Type}

/-- A reader that always answers ends in what `post` allows. -/
def Recovery.Ends
    (reader : Recovery α) (cursor : Cursor) (post : α → Cursor → Prop) :
    Prop :=
  post (reader.run cursor).1 (reader.run cursor).2

/-- A reader that may fail ends in what `accepted` allows when it succeeds,
and in what `refused` allows when it fails. -/
def Reader.Ends
    (reader : Reader α) (cursor : Cursor) (accepted : α → Cursor → Prop)
    (refused : Diagnostic → Cursor → Prop) : Prop :=
  Recovery.Ends reader.run cursor fun answer after =>
    match answer with
    | .ok value => accepted value after
    | .error diagnostic => refused diagnostic after

namespace Recovery

variable {cursor : Cursor} {post weaker : α → Cursor → Prop}
variable {reader : Recovery α}

theorem Ends.mono (ends : reader.Ends cursor post)
    (implied : ∀ value after, post value after → weaker value after) :
    reader.Ends cursor weaker :=
  implied _ _ ends

theorem ends_of_forall (holds : ∀ value after, post value after) :
    reader.Ends cursor post :=
  holds _ _

theorem ends_congr
    (same : ∀ value after, post value after ↔ weaker value after) :
    reader.Ends cursor post ↔ reader.Ends cursor weaker :=
  same _ _

theorem Ends.and
    (first : reader.Ends cursor post) (second : reader.Ends cursor weaker) :
    reader.Ends cursor fun value after =>
      post value after ∧ weaker value after :=
  ⟨first, second⟩

@[simp]
theorem ends_pure (value : α) :
    Ends (pure value) cursor post ↔ post value cursor :=
  Iff.rfl

@[simp]
theorem ends_bind (reader : Recovery α) (following : α → Recovery β)
    (post : β → Cursor → Prop) :
    Ends (reader >>= following) cursor post ↔
      reader.Ends cursor fun value after => (following value).Ends after post :=
  Iff.rfl

theorem Ends.bind {following : α → Recovery β} {known : α → Cursor → Prop}
    {post : β → Cursor → Prop} (first : reader.Ends cursor known)
    (rest : ∀ value after, known value after →
      (following value).Ends after post) :
    Ends (reader >>= following) cursor post :=
  rest _ _ first

theorem ends_bind_of_forall
    {following : α → Recovery β} {post : β → Cursor → Prop}
    (holds : ∀ value after, (following value).Ends after post) :
    Ends (reader >>= following) cursor post :=
  holds _ _

@[simp]
theorem ends_get (post : Cursor → Cursor → Prop) :
    Ends get cursor post ↔ post cursor cursor :=
  Iff.rfl

@[simp]
theorem ends_run
    (reader : Reader α) (post : Except Diagnostic α → Cursor → Prop) :
    Ends reader.run cursor post ↔
      reader.Ends cursor (fun value after => post (.ok value) after)
        (fun diagnostic after => post (.error diagnostic) after) := by
  refine ends_congr fun answer after => ?_
  cases answer <;> rfl

@[simp]
theorem ends_advance (post : Token → Cursor → Prop) :
    Ends Reader.advance cursor post ↔ post cursor.current cursor.next :=
  Iff.rfl

@[simp]
theorem ends_report (diagnostic : Diagnostic) (post : Unit → Cursor → Prop) :
    Ends (Reader.report diagnostic) cursor post ↔
      post () (cursor.report diagnostic) :=
  Iff.rfl

@[simp]
theorem ends_unexpected
    (expected : String) (post : Diagnostic → Cursor → Prop) :
    Ends (Reader.unexpected expected) cursor post ↔
      post (Diagnostic.unexpected cursor.current expected) cursor :=
  Iff.rfl

/-- A loop with a budget for every token that is left takes a step. -/
theorem ends_loop_budget (step : α → Recovery (Step α)) (value : α) :
    Ends (loop step cursor.budget value) cursor post ↔
      (step value).Ends cursor fun decision after =>
        match decision with
        | .again following =>
          Ends (loop step cursor.ahead following) after post
        | .done final => post final after := by
  rw [Cursor.budget, loop, ends_bind]
  refine ends_congr fun decision after => ?_
  cases decision <;> rfl

@[simp]
theorem ends_inBlock (block : Block) (body : Recovery α) :
    Ends (Reader.inBlock block body) cursor post ↔
      body.Ends (cursor.enter block) fun value after =>
        post value after.leave :=
  Iff.rfl

end Recovery

namespace Reader

variable {cursor : Cursor} {accepted : α → Cursor → Prop}
  {refused : Diagnostic → Cursor → Prop}
variable {reader : Reader α}

theorem Ends.mono
    {accepted' : α → Cursor → Prop} {refused' : Diagnostic → Cursor → Prop}
    (ends : reader.Ends cursor accepted refused)
    (onValue : ∀ value after, accepted value after → accepted' value after)
    (onError :
      ∀ diagnostic after,
        refused diagnostic after → refused' diagnostic after) :
    reader.Ends cursor accepted' refused' := by
  unfold Reader.Ends at *
  refine Recovery.Ends.mono ends fun answer after holds => ?_
  cases answer with
  | ok value => exact onValue value after holds
  | error diagnostic => exact onError diagnostic after holds

theorem Ends.and
    {accepted' : α → Cursor → Prop} {refused' : Diagnostic → Cursor → Prop}
    (first : reader.Ends cursor accepted refused)
    (second : reader.Ends cursor accepted' refused') :
    reader.Ends cursor
      (fun value after => accepted value after ∧ accepted' value after)
      fun diagnostic after =>
        refused diagnostic after ∧ refused' diagnostic after := by
  unfold Reader.Ends at *
  refine (Recovery.Ends.and first second).mono fun answer after holds => ?_
  cases answer <;> exact holds

/-- A reader that may end wherever another one does is that reader. -/
theorem eq_of_ends {first second : Reader α}
    (implied : ∀ cursor accepted refused,
      second.Ends cursor accepted refused →
        first.Ends cursor accepted refused) : first = second := by
  refine funext fun cursor => ?_
  show first.run.run cursor = second.run.run cursor
  cases answered : second.run.run cursor with
  | mk answer after =>
    have ends := implied cursor
      (fun value place => (.ok value, place) = (answer, after))
      (fun diagnostic place => (.error diagnostic, place) = (answer, after))
      (by
        unfold Ends Recovery.Ends
        rw [answered]
        cases answer <;> rfl)
    unfold Ends Recovery.Ends at ends
    cases found : first.run.run cursor with
    | mk other place =>
      rw [found] at ends
      cases other <;> exact ends

/-- Two statements about the value amount to the same if they do so for the
values that are known to come out. -/
theorem ends_congr_of_ends {known accepted' : α → Cursor → Prop}
    {knownError : Diagnostic → Cursor → Prop}
    (ends : reader.Ends cursor known knownError)
    (same : ∀ value after, known value after →
      (accepted value after ↔ accepted' value after)) :
    reader.Ends cursor accepted refused ↔
      reader.Ends cursor accepted' refused := by
  unfold Reader.Ends Recovery.Ends at *
  cases answered : (reader.run.run cursor).1 with
  | ok value =>
    rw [answered] at ends
    exact same value _ ends
  | error diagnostic => rfl

@[simp]
theorem ends_pure (value : α) :
    Ends (pure value) cursor accepted refused ↔ accepted value cursor :=
  Iff.rfl

@[simp]
theorem ends_bind (reader : Reader α) (following : α → Reader β)
    (accepted : β → Cursor → Prop) :
    Ends (reader >>= following) cursor accepted refused ↔
      reader.Ends cursor
        (fun value after => (following value).Ends after accepted refused)
        refused := by
  unfold Ends
  rw [ExceptT.run_bind, Recovery.ends_bind]
  refine Recovery.ends_congr fun answer after => ?_
  cases answer <;> rfl

@[simp]
theorem ends_map
    (change : α → β) (reader : Reader α) (accepted : β → Cursor → Prop) :
    Ends (change <$> reader) cursor accepted refused ↔
      reader.Ends cursor (fun value after => accepted (change value) after)
        refused := by
  rw [map_eq_pure_bind, ends_bind]
  rfl

@[simp]
theorem ends_get (accepted : Cursor → Cursor → Prop) :
    Ends get cursor accepted refused ↔ accepted cursor cursor :=
  Iff.rfl

@[simp]
theorem ends_lift (reader : Recovery α) :
    Ends (liftM reader) cursor accepted refused ↔ reader.Ends cursor accepted :=
  Iff.rfl

@[simp]
theorem ends_reject (expected : String) :
    Ends (reject expected : Reader α) cursor accepted refused ↔
      refused (Diagnostic.unexpected cursor.current expected) cursor :=
  Iff.rfl

end Reader

end PapyrusScript
