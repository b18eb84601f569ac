import RiscvSim.Assembler.Equiv.Lines

/-!
# The passes of the parser

What holds of the parser after a pass follows from what its rounds in the
sections keep: the other rounds move on or report an error.

* **`Parser.firstPass_invariant`**, **`Parser.secondPass_invariant`**: the two passes.
-/

namespace RiscvSim

open Lib

namespace Parser

variable {cfg : VmConfig} {reader : FloatReader} {fuel : Nat} {p p' : Parser}

/-! ### The rounds of a pass -/

/-- Where a round of the first pass enters a data section. -/
def dataStart (p : Parser) : Option Parser :=
  if p.atDirective "section" then none
  else if p.atDirective "data" then some p.nextToken
  else none

/-- Where a round of the second pass enters a text section. -/
def textStart (p : Parser) : Option Parser :=
  if p.atDirective "section" || p.atDirective "data" || p.atDirective "bss" then none
  else if p.atDirective "text" then some p.nextToken
  else if p.currentToken.type = .label ∨ p.currentToken.type = .opcode then some p
  else none

/-- The parser at each item of the data sections, in the order of the first pass. -/
def dataItems (reader : FloatReader) (fuel : Nat) (p : Parser) : List Parser :=
  visited (fun p => p.currentToken.type == .eof) (firstPassItem reader fuel) dataStart
    (fun p => endsSection p.currentToken) (parseDataItem reader) fuel p

/-- The parser at each item of the text sections, in the order of the second pass. -/
def textItems (cfg : VmConfig) (fuel : Nat) (p : Parser) : List Parser :=
  visited (fun p => p.currentToken.type == .eof) (secondPassItem cfg fuel) textStart
    (fun p => endsText p.currentToken) (parseTextItem cfg) fuel p

/-- The parser before the second pass. -/
def rewind (tokens : List Token) (p : Parser) : Parser :=
  { p with rest := tokens, instructionIndex := 0#32 }

/-- The items of the text sections of a program. -/
def parsedText (cfg : VmConfig) (reader : FloatReader) (fuel : Nat) (tokens : List Token) :
    List Parser :=
  match firstPass reader fuel { rest := tokens } with
  | .ok p => textItems cfg fuel (p.rewind tokens)
  | .error _ => []

/-- An invariant that the rounds outside of the sections keep: they move on, and
report an error only about a token they leave behind. -/
structure Stable (Inv : List Parser → Parser → Prop) : Prop where
  move : ∀ {l q rest}, rest <:+ q.rest → Inv l q → Inv l { q with rest := rest }
  report : ∀ {l q line message}, q.currentToken.type ≠ .eof → Inv l q →
    Inv l (q.reportError line message).nextToken

namespace Stable

variable {Inv : List Parser → Parser → Prop} {l : List Parser}

/-- An invariant that an error keeps, wherever it is found. -/
theorem of_report (hmove : ∀ {l q rest}, rest <:+ q.rest → Inv l q → Inv l { q with rest := rest })
    (hreport : ∀ {l q line message}, Inv l q → Inv l (q.reportError line message)) :
    Stable Inv where
  move := hmove
  report := fun _ h => hmove (List.tail_suffix _) (hreport h)

variable (hstable : Stable Inv)

include hstable

theorem nextToken (h : Inv l p) : Inv l p.nextToken :=
  hstable.move (List.tail_suffix p.rest) h

theorem skipWhile (h : Inv l p) (test : Token → Bool) : Inv l (p.skipWhile test) :=
  hstable.move (List.dropWhile_suffix test) h

end Stable

theorem firstPass_invariant (Inv : List Parser → Parser → Prop) (hstable : Stable Inv)
    (hitem : ∀ l q q', Inv l q → endsSection q.currentToken = false →
      q.parseDataItem reader = .ok q' → Inv (l ++ [q]) q')
    (h0 : Inv [] p) (h : firstPass reader fuel p = .ok p') : Inv (dataItems reader fuel p) p' := by
  refine visited_invariant Inv ?_ hitem h0 h
  intro l q q' hinv hgo hround
  have ht : q.currentToken.type ≠ .eof := by simpa using hgo
  unfold firstPassItem at hround
  unfold dataStart
  split at hround
  · cases hround
    exact .inl ⟨if_pos ‹_›, hstable.nextToken hinv⟩
  rw [if_neg ‹_›]
  split at hround
  · exact .inr ⟨_, if_pos ‹_›, hstable.nextToken hinv, hround⟩
  rw [if_neg ‹_›]
  refine .inl ⟨rfl, ?_⟩
  split at hround
  · cases hround
    exact hstable.skipWhile (hstable.nextToken hinv) _
  split at hround
  · cases hround
    exact hstable.skipWhile hinv _
  · cases hround
    exact hstable.report ht hinv

theorem secondPass_invariant (Inv : List Parser → Parser → Prop) (hstable : Stable Inv)
    (hitem : ∀ l q q', Inv l q → endsText q.currentToken = false →
      q.parseTextItem cfg = .ok q' → Inv (l ++ [q]) q')
    (h0 : Inv [] p) (h : secondPass cfg fuel p = .ok p') : Inv (textItems cfg fuel p) p' := by
  refine visited_invariant Inv ?_ hitem h0 h
  intro l q q' hinv hgo hround
  have ht : q.currentToken.type ≠ .eof := by simpa using hgo
  unfold secondPassItem at hround
  unfold textStart
  split at hround
  · cases hround
    rename_i hsection
    exact .inl ⟨by simp [hsection], hstable.nextToken hinv⟩
  split at hround
  · cases hround
    rename_i hdata
    exact .inl ⟨by simp_all, hstable.skipWhile hinv _⟩
  rw [if_neg (by simp_all)]
  split at hround
  · exact .inr ⟨_, if_pos ‹_›, hstable.nextToken hinv, hround⟩
  rw [if_neg ‹_›]
  split at hround
  · exact .inr ⟨_, if_pos ‹_›, hinv, hround⟩
  · cases hround
    exact .inl ⟨if_neg ‹_›, hstable.report ht hinv⟩

/-- The three parts of a parse. -/
theorem parse_eq_ok {tokens : List Token} (h : parse cfg reader fuel tokens = .ok p') :
    ∃ p₁ p₂, firstPass reader fuel { rest := tokens } = .ok p₁ ∧
      secondPass cfg fuel (p₁.rewind tokens) = .ok p₂ ∧
      parsedText cfg reader fuel tokens = textItems cfg fuel (p₁.rewind tokens) ∧
      p' = p₂.backPatch.foldl backPatchUnit p₂ := by
  obtain ⟨p₁, hfirst, h⟩ := bind_eq_ok.mp h
  obtain ⟨p₂, hsecond, h⟩ := bind_eq_ok.mp h
  refine ⟨p₁, p₂, hfirst, hsecond, ?_, (Except.ok.inj h).symm⟩
  unfold parsedText
  rw [hfirst]

end Parser

end RiscvSim
