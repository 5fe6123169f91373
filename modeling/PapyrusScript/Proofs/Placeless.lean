import Mathlib.Data.List.Pairwise
import PapyrusScript.Proofs.Matching.Script
import PapyrusScript.Proofs.Relexing

/-!
# Where tokens stand matters for places only

Two lists of tokens that say the same are parsed to the same script up to
places.  The tokens of the two lists stand for each other by their number, and
the runs over them stay together.

The errors are the same too, up to their places, if no two invalid tokens of
one list start at the same place.  Without that a run may take an invalid
token for one that has been reported.
-/

namespace PapyrusScript

open Cursor

variable {tokens twins : List Token}

/-- Lists that say the same are given an end of the text in the same cases. -/
theorem said_append_missingEnd
    (same : twins.map Token.said = tokens.map Token.said) :
    (twins ++ missingEnd twins).map Token.said =
      (tokens ++ missingEnd tokens).map Token.said :=
  Pairing.view_append_missingEnd same (fun said => congrArg Prod.fst said)
    fun _ => rfl

/-! ## Tokens with the same number stand for each other -/

theorem said_of_mem_zip (same : twins.map Token.said = tokens.map Token.said)
    {token twin : Token} (member : (token, twin) ∈ tokens.zip twins) :
    twin.said = token.said := by
  have equal : List.Forall₂ Eq (tokens.map Token.said)
      (twins.map Token.said) := by
    rw [List.forall₂_eq_eq_eq, same]
  rw [List.forall₂_map_left_iff, List.forall₂_map_right_iff,
    List.forall₂_iff_zip] at equal
  exact (equal.2 member).symm

/-- Where the tokens on one side of some pairs have places of their own, two
pairs with invalid tokens have different places there. -/
theorem OwnPlaces.start_ne
    {pairs : List (Token × Token)} {side : Token × Token → Token}
    (own : OwnPlaces (pairs.map side)) {first second : Token × Token}
    (member : first ∈ pairs) (otherMember : second ∈ pairs)
    (different : first ≠ second) (invalid : (side first).kind.isInvalid = true)
    (otherInvalid : (side second).kind.isInvalid = true) :
    (side first).span.start ≠ (side second).span.start := by
  rw [OwnPlaces, invalidTokens, List.pairwise_filter, List.pairwise_map] at own
  have symmetric : Std.Symm fun first second : Token × Token =>
      (side first).kind.isInvalid = true →
        (side second).kind.isInvalid = true →
          (side first).span.start ≠ (side second).span.start :=
    ⟨fun _ _ apart second first => (apart first second).symm⟩
  exact own.forall member otherMember different invalid otherInvalid

namespace Pairing

def byNumber (same : twins.map Token.said = tokens.map Token.said) :
    Pairing where
  pairs token twin := (token, twin) ∈ tokens.zip twins
  kind member := congrArg Prod.fst (said_of_mem_zip same member)
  text member _ := congrArg Prod.snd (said_of_mem_zip same member)
  Still := False
  span still := still.elim
  told := []
  toldTwin := []

variable (same : twins.map Token.said = tokens.map Token.said)
include same

theorem length_eq_of_said : tokens.length = twins.length := by
  have lengths := congrArg List.length same
  simpa using lengths.symm

/-- Invalid tokens with places of their own are told apart by their places in
both lists. -/
theorem distinct_byNumber
    (own : OwnPlaces tokens) (ownTwins : OwnPlaces twins) :
    (byNumber same).Distinct := by
  have length := length_eq_of_said same
  rw [← List.map_fst_zip length.le] at own
  rw [← List.map_snd_zip length.ge] at ownTwins
  intro token twin other otherTwin member otherMember invalid otherInvalid
  by_cases equal : (token, twin) = (other, otherTwin)
  · obtain ⟨rfl, rfl⟩ := Prod.mk.inj equal
    exact iff_of_true rfl rfl
  · have twinInvalid : twin.kind.isInvalid = true := by
      rwa [(byNumber same).kind member]
    have otherTwinInvalid : otherTwin.kind.isInvalid = true := by
      rwa [(byNumber same).kind otherMember]
    apply iff_of_false
    · exact own.start_ne member otherMember equal invalid otherInvalid
    · exact ownTwins.start_ne member otherMember equal twinInvalid
        otherTwinInvalid

end Pairing

/-- Two lists of tokens that say the same are parsed to the same script up to
places.  The errors are the same too, up to their places and the lines that
they quote, if in neither list two invalid tokens start at one place. -/
theorem ofTokens_depends_on_said
    (same : twins.map Token.said = tokens.map Token.said) :
    (Parsed.ofTokens twins).script.bare = (Parsed.ofTokens tokens).script.bare ∧
      (OwnPlaces tokens → OwnPlaces twins →
        (Parsed.ofTokens twins).diagnostics.map Diagnostic.bare =
          (Parsed.ofTokens tokens).diagnostics.map Diagnostic.bare) := by
  have whole := said_append_missingEnd same
  have rows : List.Forall₂ (Pairing.byNumber whole).pairs
      (tokens ++ missingEnd tokens) (twins ++ missingEnd twins) := by
    rw [List.forall₂_iff_zip]
    exact ⟨Pairing.length_eq_of_said whole, id⟩
  have verbatim : (Pairing.byNumber whole).Verbatim := fun _ _ member =>
    congrArg Prod.snd (said_of_mem_zip whole member)
  obtain ⟨scripts, reports⟩ := Pairing.twins_ofTokens rows rfl rfl
  refine ⟨scripts.known, fun own ownTwins => ?_⟩
  exact reports (Pairing.distinct_byNumber _ own.append_missingEnd
    ownTwins.append_missingEnd) fun tells => tells.bare verbatim

/-! ## An unfinished function with two invalid tokens -/

/-- A function without its end, and two characters that mean nothing. -/
def Token.unfinished : List Token :=
  Heading.door.tokens ++
    [.onLine 4 (.keyword .function) "Function",
      .onLine 5 .identifier "Open", .onLine 6 (.symbol .openParen) "(",
      .onLine 7 (.symbol .closeParen) ")", .onLine 8 .newline "\n",
      .onLine 9 (.invalid .unexpectedCharacter) "$",
      .onLine 10 (.invalid .unexpectedCharacter) "$"]

/-- A token moved so far up as it was below the first line. -/
def Token.upwards (token : Token) : Token :=
  ⟨token.kind, token.text, .point ⟨20 - token.span.start.line, 7⟩⟩

/-- From the bottom to the top the same is reported, at other places. -/
theorem unfinished_upwards :
    (Token.unfinished.map Token.upwards).map Token.said =
        Token.unfinished.map Token.said ∧
      OwnPlaces Token.unfinished ∧
      OwnPlaces (Token.unfinished.map Token.upwards) ∧
      (Parsed.ofTokens (Token.unfinished.map Token.upwards)).script.bare =
        (Parsed.ofTokens Token.unfinished).script.bare ∧
      (Parsed.ofTokens (Token.unfinished.map Token.upwards)).diagnostics.map
          Diagnostic.bare =
        (Parsed.ofTokens Token.unfinished).diagnostics.map
          Diagnostic.bare ∧
      (Parsed.ofTokens Token.unfinished).diagnostics =
        [⟨⟨9, 1⟩, .lexical .unexpectedCharacter "$"⟩,
          ⟨⟨10, 1⟩, .lexical .unexpectedCharacter "$"⟩,
          ⟨⟨4, 1⟩, .unterminated .function 4 .endOfText⟩] := by
  have same : (Token.unfinished.map Token.upwards).map Token.said =
      Token.unfinished.map Token.said := by
    rfl
  have own : OwnPlaces Token.unfinished := by decide
  have ownUpwards : OwnPlaces (Token.unfinished.map Token.upwards) := by
    decide
  obtain ⟨scripts, diagnostics⟩ := ofTokens_depends_on_said same
  refine ⟨same, own, ownUpwards, scripts, diagnostics own ownUpwards, ?_⟩
  decide

end PapyrusScript
