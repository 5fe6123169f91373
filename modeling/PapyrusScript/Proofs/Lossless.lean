import Mathlib.Data.List.Induction
import PapyrusScript.Proofs.LexicalReports
import PapyrusScript.Proofs.Lossless.Lexeme
import PapyrusScript.Token.Lexer

/-!
# Nothing of a text is lost

Tokens and the filler between them tile the text: every character belongs to
exactly one token or one piece of filler, and they stand in the text one
behind the other.

The tokens of a script and the filler between them make up its text.  Every
token stands where its span says, and its value is what tokens of its kind say
of that stretch of text.  The last token, and no other, is the end of the
text, and a lexer hands out these tokens and nothing more.
-/

namespace PapyrusScript

/-! ## Places -/

/-- The place behind a text: one line for each line feed, and one column for
each character since the last one. -/
def placeAfter (before : List Char) : Position where
  line := 1 + before.count '\n'
  column := 1 + (before.reverse.takeWhile fun letter => letter ≠ '\n').length

/-- Counting places while reading gives the place behind what has been
read. -/
theorem advance_origin (before : List Char) :
    Position.origin.advance before = placeAfter before := by
  induction before using List.reverseRecOn with
  | nil => rfl
  | append_singleton before letter ih =>
    rw [Position.advance_append, ih]
    simp only [Position.advance_cons, Position.advance_nil]
    by_cases feed : letter = '\n'
    · simp [Position.step, placeAfter, feed]
      omega
    · simp [Position.step, placeAfter, feed, List.count_append]
      omega

/-! ## Tiles -/

/-- A part of a text: a piece of filler, or a token and its source text. -/
inductive Tile where
  | filler (piece : Filler)
  | token (found : Token) (text : List Char)
  deriving Repr, Inhabited

namespace Tile

/-- The source text of a part. -/
def text : Tile → List Char
  | .filler piece => piece.text
  | .token _ text => text

/-- The token of a part, if it is one. -/
def token? : Tile → Option Token
  | .filler _ => none
  | .token found _ => some found

/-- The source text of several parts. -/
def allText (tiles : List Tile) : List Char := tiles.flatMap text

/-- A part of a text between the text in front of it and the text behind it:
filler is whole, and a token has its place and says of its text what tokens of
its kind do. -/
def Fits (before following : List Char) : Tile → Prop
  | .filler piece => piece.IsWhole following
  | .token found text =>
    found.span = ⟨placeAfter before, placeAfter (before ++ text)⟩ ∧
      found.kind.Carries text found.text.toList

/-- Every part fits where it stands. -/
def AllFit (before : List Char) : List Tile → Prop
  | [] => True
  | tile :: rest =>
    tile.Fits before (allText rest) ∧ AllFit (before ++ tile.text) rest

@[simp]
theorem allText_nil : allText [] = [] := rfl

@[simp]
theorem allText_cons (tile : Tile) (rest : List Tile) :
    allText (tile :: rest) = tile.text ++ allText rest :=
  rfl

@[simp]
theorem allText_append (first second : List Tile) :
    allText (first ++ second) = allText first ++ allText second :=
  List.flatMap_append

@[simp]
theorem allText_filler (pieces : List Filler) :
    allText (pieces.map .filler) = Filler.allText pieces := by
  simp only [allText, Filler.allText, List.flatMap_map]
  rfl

@[simp]
theorem tokens_filler (pieces : List Filler) :
    (pieces.map Tile.filler).filterMap token? = [] := by
  rw [List.filterMap_map, List.filterMap_eq_nil_iff]
  exact fun _ _ => rfl

theorem allFit_filler_append
    (before : List Char) (pieces : List Filler) (rest : List Tile) :
    AllFit before (pieces.map .filler ++ rest) ↔
      Filler.AreWhole (allText rest) pieces ∧
        AllFit (before ++ Filler.allText pieces) rest := by
  induction pieces generalizing before with
  | nil => simp [Filler.AreWhole, Filler.allText]
  | cons piece pieces ih =>
    simp only [List.map_cons, List.cons_append, AllFit, Filler.AreWhole,
      ih, Fits, text, allText_append, allText_filler]
    simp only [Filler.allText, List.flatMap_cons, List.append_assoc, and_assoc]

theorem fits_covering
    {kind : Kind} {value text : List Char} (before following : List Char)
    (carries : kind.Carries text value) :
    (Tile.token ⟨kind, String.ofList value,
      Span.covering (Position.origin.advance before) text⟩ text).Fits before
        following := by
  refine ⟨?_, by simpa using carries⟩
  rw [Span.covering, ← Position.advance_append, advance_origin, advance_origin]

/-- The tokens of parts that fit stand behind what is in front of them, one
behind the other. -/
theorem AllFit.places
    {before : List Char} {tiles : List Tile} (fit : AllFit before tiles) :
    (∀ found ∈ tiles.filterMap token?, placeAfter before ≤ found.span.start) ∧
      (tiles.filterMap token?).Pairwise fun first second =>
        first.span.stop ≤ second.span.start := by
  have further (before text : List Char) {place : Position}
      (behind : placeAfter (before ++ text) ≤ place) :
      placeAfter before ≤ place := by
    refine Position.le_trans ?_ behind
    rw [← advance_origin, ← advance_origin, Position.advance_append]
    exact Position.le_advance _ _
  induction tiles generalizing before with
  | nil => simp
  | cons tile rest ih =>
    obtain ⟨here, fit⟩ := fit
    obtain ⟨behind, sorted⟩ := ih fit
    cases tile with
    | filler piece =>
      exact ⟨fun next member => further _ _ (behind next member), sorted⟩
    | token found text =>
      obtain ⟨place, _⟩ := here
      simp only [List.filterMap_cons, token?, List.forall_mem_cons,
        List.pairwise_cons, place]
      refine ⟨⟨Position.le_refl _, ?_⟩, behind, sorted⟩
      exact fun next member => further _ _ (behind next member)

end Tile

/-! ## Nothing of a text is lost -/

theorem exists_of_lineBreak?
    {layout : Layout} {start : Position} {pieces : List Filler} {next : Kind}
    {found : Token}
    (isFound : lineBreak? layout start pieces next = some found) :
    ∃ front back, pieces = front ++ .lineFeed :: back ∧
      found = ⟨.newline, "\n",
        Span.covering (start.advance (Filler.allText front)) ['\n']⟩ := by
  unfold lineBreak? at isFound
  split at isFound
  · obtain ⟨front, split, rfl⟩ := Option.map_eq_some_iff.1 isFound
    obtain ⟨back, shape⟩ := beforeLineFeed?_append split
    exact ⟨front, back, shape, rfl⟩
  · cases isFound

/-- A lexeme other than the end of the text leaves less of the text. -/
theorem length_rest_lt {source : List Char}
    (inside : (Lexeme.read (Filler.readAll source).2).kind ≠ .endOfText) :
    (Lexeme.read (Filler.readAll source).2).rest.length < source.length := by
  have parts := Filler.readAll_append source
  have shape := Lexeme.read_append (Filler.readAll source).2
  have characters := List.length_pos_iff.2 (Lexeme.text_ne_nil_of_read inside)
  have whole := congrArg List.length parts
  rw [← shape] at whole
  simp only [List.length_append] at whole
  omega

namespace Tile

/-- The filler in front of a lexeme is tiled by its pieces, where a line feed
may be a token. -/
theorem exists_gap (layout : Layout) (before : List Char) (pieces : List Filler)
    (next : Kind) :
    ∃ tiles,
      allText tiles = Filler.allText pieces ∧
        tiles.filterMap token? =
          (lineBreak? layout (Position.origin.advance before) pieces
            next).toList ∧
        ∀ rest, Filler.AreWhole (allText rest) pieces →
          AllFit (before ++ Filler.allText pieces) rest →
            AllFit before (tiles ++ rest) := by
  cases broken : lineBreak? layout (.advance .origin before) pieces next with
  | none =>
    refine ⟨pieces.map .filler, allText_filler pieces,
      tokens_filler pieces, fun rest whole fit => ?_⟩
    exact (allFit_filler_append before pieces rest).2 ⟨whole, fit⟩
  | some found =>
    obtain ⟨front, back, rfl, place⟩ := exists_of_lineBreak? broken
    have feed : Filler.allText (front ++ .lineFeed :: back) =
        Filler.allText front ++ ['\n'] ++ Filler.allText back := by
      simp [Filler.allText, Filler.text]
    refine ⟨front.map .filler ++ .token found ['\n'] :: back.map .filler,
      by simp [feed, text], ?_, fun rest whole fit => ?_⟩
    · rw [List.filterMap_append, tokens_filler, List.filterMap_cons,
        tokens_filler]
      rfl
    · rw [List.append_assoc, List.cons_append]
      obtain ⟨ahead, _, behind⟩ := (Filler.areWhole_append _ _ _).1 whole
      apply (allFit_filler_append _ _ _).2
      constructor
      · simpa [Filler.allText, Filler.text, text] using ahead
      · refine ⟨?_, (allFit_filler_append _ _ _).2 ⟨behind, ?_⟩⟩
        · rw [place, ← Position.advance_append]
          have carries : Kind.Carries ['\n'] ['\n'] .newline := rfl
          exact fits_covering _ _ carries
        · rw [feed] at fit
          simpa [text] using fit

/-- Behind what has been read, filler, lexemes and the end of the text tile
what is left. -/
theorem exists_tiles (count : Nat) (layout : Layout) (before source : List Char)
    (enough : source.length < count) :
    ∃ tiles,
      allText tiles = source ∧
        tiles.filterMap token? =
          tokensUpTo count layout (Position.origin.advance before) source ∧
        AllFit before tiles := by
  induction count generalizing layout before source with
  | zero => exact absurd enough (Nat.not_lt_zero _)
  | succ count ih =>
    have parts := Filler.readAll_append source
    have whole := Filler.areWhole_readAll source
    have visible := Filler.read?_readAll source
    have shorter := @length_rest_lt source
    rw [tokensUpTo]
    generalize Filler.readAll source = read at *
    obtain ⟨pieces, text⟩ := read
    dsimp only at *
    have shape := Lexeme.read_append text
    have carries := Lexeme.carries_read visible
    -- the end of the text leaves nothing, any other lexeme leaves less
    have further : ∀ layout : Layout, ∃ rest,
        allText rest = (Lexeme.read text).rest ∧
          rest.filterMap token? =
            (if (Lexeme.read text).kind = .endOfText then []
            else tokensUpTo count layout (Position.origin.advance
              (before ++ Filler.allText pieces ++ (Lexeme.read text).text))
              (Lexeme.read text).rest) ∧
          AllFit (before ++ Filler.allText pieces ++
            (Lexeme.read text).text) rest := by
      intro layout
      split
      · rename_i ended
        obtain rfl := Lexeme.eq_nil_of_kind_read ended
        exact ⟨[], rfl, rfl, trivial⟩
      · rename_i inside
        exact ih _ _ _
          (Nat.lt_of_lt_of_le (shorter inside) (Nat.le_of_lt_succ enough))
    obtain ⟨gap, gapText, gapTokens, gapFits⟩ :=
      exists_gap layout before pieces (Lexeme.read text).kind
    obtain ⟨rest, restText, restTokens, restFits⟩ := further _
    let token : Token :=
      ⟨(Lexeme.read text).kind, String.ofList (Lexeme.read text).value,
        Span.covering (Position.origin.advance
          (before ++ Filler.allText pieces)) (Lexeme.read text).text⟩
    refine ⟨gap ++ .token token (Lexeme.read text).text :: rest, ?_, ?_, ?_⟩
    · rw [allText_append, allText_cons, gapText, restText, ← parts]
      exact congrArg _ shape
    · rw [List.filterMap_append, gapTokens, List.filterMap_cons, restTokens]
      simp only [token, token?, Position.advance_append]
      rfl
    · apply gapFits
      · rw [allText_cons, restText]
        exact shape.symm ▸ whole
      · exact ⟨fits_covering _ _ carries, restFits⟩

end Tile

/-! ## The end of the text -/

/-- If there is room for every token, the last one is the end of the text. -/
theorem getLast?_tokensUpTo
    (count : Nat) (layout : Layout) (start : Position) (source : List Char)
    (enough : source.length < count) :
    (tokensUpTo count layout start source).getLast? =
      some (.endOfText (start.advance source)) := by
  induction count generalizing layout start source with
  | zero => exact absurd enough (Nat.not_lt_zero _)
  | succ count ih =>
    have parts := Filler.readAll_append source
    have shorter := @length_rest_lt source
    rw [tokensUpTo]
    generalize Filler.readAll source = read at *
    obtain ⟨pieces, text⟩ := read
    dsimp only at *
    have shape := Lexeme.read_append text
    split
    · rename_i ended
      obtain rfl := Lexeme.eq_nil_of_kind_read ended
      rw [List.getLast?_concat, ← parts, List.append_nil]
      rfl
    · rename_i inside
      have place : start.advance source =
          ((start.advance (Filler.allText pieces)).advance
            (Lexeme.read text).text).advance (Lexeme.read text).rest := by
        rw [← Position.advance_append, shape, ← Position.advance_append, parts]
      rw [List.getLast?_append, List.getLast?_cons, place,
        ih _ _ _ <|
          Nat.lt_of_lt_of_le (shorter inside) (Nat.le_of_lt_succ enough)]
      rfl

/-! ## Tokens one at a time -/

/-- The first token behind the filler that a text starts with. -/
def Token.first (place : Position) (source : List Char) : Token :=
  let (pieces, visible) := Filler.readAll source
  let lexeme := Lexeme.read visible
  ⟨lexeme.kind, String.ofList lexeme.value,
    Span.covering (place.advance (Filler.allText pieces)) lexeme.text⟩

def textBehind (source : List Char) : List Char :=
  (Lexeme.read (Filler.readAll source).2).rest

theorem tokensUpTo_succ
    (room : Nat) (layout : Layout) (place : Position) (source : List Char) :
    tokensUpTo (room + 1) layout place source =
      let token := Token.first place source
      let line := lineBreak? layout place (Filler.readAll source).1 token.kind
      let layout := match line with
        | some found => layout.after found.kind
        | none => layout
      line.toList ++ token ::
        if token.kind = .endOfText then []
        else tokensUpTo room (layout.after token.kind) token.span.stop
          (textBehind source) :=
  rfl

namespace Lexer

/-- A lexer that keeps nothing back reads a token, and keeps it back if a
line break stands in front of it. -/
theorem next_fresh (layout : Layout) (place : Position) (source : List Char) :
    (Lexer.mk layout place source none false).next =
      let token := Token.first place source
      match lineBreak? layout place (Filler.readAll source).1 token.kind with
      | some line =>
        (Lexer.mk layout token.span.stop (textBehind source) (some token)
          false).emit line
      | none =>
        (Lexer.mk layout token.span.stop (textBehind source) none
          false).emit token :=
  rfl

/-- A token that has been kept back is handed out behind its line break. -/
theorem next_queued (layout : Layout) (place : Position) (source : List Char)
    (token : Token) {line : Token} (breaks : line.kind = .newline) :
    ((Lexer.mk layout place source (some token) false).emit line).2.next =
      (Lexer.mk (layout.after line.kind) place source none false).emit
        token := by
  rw [emit, breaks]
  rfl

theorem answer_of_finished
    {lexer : Lexer} (finished : lexer.finished = true) (count : Nat) :
    lexer.answer count = none := by
  have next : lexer.next = (none, lexer) := if_pos finished
  induction count with
  | zero => rw [answer, next]
  | succ count ih => rw [answer, next, ih]

/-- A lexer that hands out a token goes on with those behind it. -/
theorem answer_emit
    {layout : Layout} {place : Position} {rest : List Char} {token : Token}
    {room : Nat}
    (goesOn : token.kind ≠ .endOfText → ∀ count,
      (Lexer.mk (layout.after token.kind) place rest none false).answer count =
        (tokensUpTo room (layout.after token.kind) place rest)[count]?)
    (count : Nat) :
    ((Lexer.mk layout place rest none false).emit token).2.answer count =
      (if token.kind = .endOfText then []
        else tokensUpTo room (layout.after token.kind) place rest)[count]? := by
  split
  · rename_i ended
    exact answer_of_finished (decide_eq_true ended) count
  · rename_i inside
    rw [← goesOn inside, emit, decide_eq_false inside]

/-- With room for every token, what a lexer hands out are the tokens. -/
theorem answer_eq_tokensUpTo
    (room : Nat) (layout : Layout) (place : Position) (source : List Char)
    (enough : source.length < room) (count : Nat) :
    (Lexer.mk layout place source none false).answer count =
      (tokensUpTo room layout place source)[count]? := by
  induction room generalizing layout place source count with
  | zero => exact absurd enough (Nat.not_lt_zero _)
  | succ room ih =>
    have shorter := @length_rest_lt source
    have goesOn (layout : Layout)
        (inside : (Token.first place source).kind ≠ .endOfText) :=
      ih layout (Token.first place source).span.stop
        (textBehind source)
        (Nat.lt_of_lt_of_le (shorter inside) (Nat.le_of_lt_succ enough))
    have next := next_fresh layout place source
    rw [tokensUpTo_succ]
    dsimp only at next ⊢
    generalize Token.first place source = token at *
    cases broken : lineBreak? layout place (Filler.readAll source).1
        token.kind with
    | none =>
      rw [broken] at next
      cases count with
      | zero =>
        rw [answer, next]
        rfl
      | succ count =>
        rw [answer, next]
        exact answer_emit (goesOn _) count
    | some line =>
      rw [broken] at next
      have breaks := (place_of_lineBreak? broken).1
      match count with
      | 0 =>
        rw [answer, next]
        rfl
      | 1 =>
        rw [answer, answer, next, next_queued _ _ _ _ breaks]
        rfl
      | count + 2 =>
        rw [answer, answer, next, next_queued _ _ _ _ breaks]
        exact answer_emit (goesOn _) count

end Lexer

/-- Whole filler and the tokens make up the text, each token at its place and
with the value that its kind asks for.  The tokens start one behind the other
without overlapping, the last one is the only end of the text, and a lexer
hands out these tokens and then nothing. -/
theorem tokens_lossless (source : String) :
    (∃ tiles, Tile.allText tiles = source.toList ∧
        tiles.filterMap Tile.token? = tokens source ∧
        Tile.AllFit [] tiles) ∧
      ((tokens source).Pairwise fun first second =>
        first.span.start < second.span.start ∧
          first.span.stop ≤ second.span.start) ∧
      (∃ front,
        tokens source = front ++ [Token.endOfText (placeAfter source.toList)] ∧
          ∀ token ∈ front, token.kind ≠ .endOfText) ∧
      ∀ count, (Lexer.ofText source).answer count = (tokens source)[count]? := by
  have room : source.toList.length < source.length + 1 := by
    rw [String.length_toList]
    exact Nat.lt_succ_self _
  obtain ⟨tiles, text, found, fit⟩ :=
    Tile.exists_tiles (source.length + 1) .initial [] source.toList room
  have ascends := ascends_tokens source
  have ordered := fit.places.2
  rw [found] at ordered
  have last := getLast?_tokensUpTo _ .initial .origin source.toList room
  rw [advance_origin] at last
  refine ⟨⟨tiles, text, found, fit⟩, ascends.sorted.and ordered, ?_, ?_⟩
  · obtain ⟨front, whole⟩ := List.getLast?_eq_some_iff.1 last
    refine ⟨front, whole, fun token member => ?_⟩
    have ends := ascends.ends
    rw [tokens, whole] at ends
    exact (List.pairwise_append.1 ends).2.2 token member _
      (List.mem_singleton_self _)
  · exact Lexer.answer_eq_tokensUpTo _ _ _ _ room

end PapyrusScript
