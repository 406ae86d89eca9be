/-
# SciCalc.Proofs.Syntax.Leniency -- what a lenient reading adds to a strict one

Both readings go through the same pieces with the same last token in mind.  They part at a
character that begins no lexeme: the strict one ends there, the lenient one makes a note and
goes on behind it, the last token being what it was (`outcome_lenient_skipping`).

So a strict reading is the lenient one of the pieces in front of the first such character
(`ofText_strict_lenient`), and of all pieces if there is none (`tokenize_of_splits`).  The notes
of the lenient one, one for each such character in order, tell which of the two it is.
-/
import SciCalc.Proofs.Syntax.SignPosition

namespace SciCalc.Syntax

set_option autoImplicit false

variable {text : String} {front behind : List Piece} {c : Char}

/-! ## Skipped characters -/

/-- The character that a piece is if it is no lexeme. -/
def Piece.skipped? : Piece → Option Char
  | lexeme _ => none
  | skipped c => some c

theorem Piece.filterMap_skipped?_lexemes (ls : List Lexeme) :
    (ls.map Piece.lexeme).filterMap Piece.skipped? = [] := by
  induction ls with
  | nil => rfl
  | cons l ls ih => exact ih

/-- A lenient reading skips the characters that are no lexemes, in order. -/
theorem Reading.skipped_ofPieces_lenient (previous : Option Token) {ps : List Piece}
    (read : ∀ l, .lexeme l ∈ ps → l.isUnread = false) :
    (ofPieces false previous ps).skipped = ps.filterMap Piece.skipped? := by
  induction ps generalizing previous with
  | nil => rfl
  | cons p ps ih =>
      have later (previous : Option Token) :=
        ih previous fun m inside => read m (List.mem_cons_of_mem p inside)
      cases p with
      | lexeme l =>
          rw [ofPieces_cons previous (read l List.mem_cons_self)]
          exact later _
      | skipped c => exact congrArg (c :: ·) (later previous)

theorem notes_tokenize_lenient (text : String) :
    (tokenize false text).notes =
      ((pieces (Text.squeeze text.toList)).filterMap Piece.skipped?).map
        (.skipped · (String.ofList (Text.squeeze text.toList))) := by
  rw [tokenize, Reading.notes, Reading.ofText,
    Reading.skipped_ofPieces_lenient none (isUnread_of_mem_pieces Digits.agree_table)]

/-! ## The two readings -/

/-- A lenient reading goes on behind a character that it skips as if that were not there. -/
theorem outcome_lenient_skipping
    (split : pieces (Text.squeeze text.toList) = front ++ .skipped c :: behind) :
    (tokenize false text).outcome = .ok ((Reading.ofPieces false none front).tokens ++
      (Reading.ofPieces false (Reading.ofPieces false none front).tokens.getLast?
        behind).tokens) := by
  have all : ∀ l, .lexeme l ∈ pieces (Text.squeeze text.toList) → l.isUnread = false :=
    isUnread_of_mem_pieces Digits.agree_table
  have read : ∀ l, .lexeme l ∈ front → l.isUnread = false := fun l inside =>
    all l (split ▸ List.mem_append_left _ inside)
  have passed : (Reading.ofPieces false none front).refused = none :=
    (Reading.ofPieces_lenient none read).2.1
  have whole : (Reading.ofText false text).tokens = (Reading.ofPieces false none front).tokens ++
      (Reading.ofPieces false (Reading.ofPieces false none front).tokens.getLast?
        behind).tokens := by
    rw [Reading.ofText, split, Reading.tokens_append read passed, Option.or_none]
    rfl
  rw [← whole, Reading.ofText, (Reading.ofPieces_lenient none all).1]
  exact outcome_tokenize_lenient text

/-- A strict reading is the lenient one of what is in front of the first character that is no
lexeme, and refuses the text from there on. -/
theorem ofText_strict_lenient {ls : List Lexeme}
    (first : pieces (Text.squeeze text.toList) = ls.map .lexeme ++ .skipped c :: behind) :
    Reading.ofText true text =
      ⟨(Reading.ofPieces false none (ls.map .lexeme)).tokens, [],
        some (c :: behind.flatMap Piece.text), none⟩ := by
  rw [ofText_strict Digits.agree_table first,
    Reading.ofPieces_lexemes false none (isUnread_of_pieces Digits.agree_table first)]

/-- **A lenient reading extends the strict one.**  The text without its white space falls into
pieces, and the lenient reading makes one warning for each character among them that is no
lexeme, in order, and goes on behind it as if it were not there.  The strict reading succeeds
if and only if there is no warning, and then both have the same tokens.  Otherwise it fails at
the first character that the lenient one skips: it has read by then what the lenient one has,
and its message quotes the text from there on. -/
theorem tokenize_lenient_extends (text : String) :
    ∃ ps : List Piece, Splits (Text.squeeze text.toList) ps ∧
      (tokenize false text).notes = (ps.filterMap Piece.skipped?).map
        (.skipped · (String.ofList (Text.squeeze text.toList))) ∧
      (∀ note ∈ (tokenize false text).notes, note.level = .warning) ∧
      (∀ front c behind, ps = front ++ .skipped c :: behind →
        (tokenize false text).outcome = .ok ((Reading.ofPieces false none front).tokens ++
          (Reading.ofPieces false (Reading.ofPieces false none front).tokens.getLast?
            behind).tokens)) ∧
      ((∃ ts, (tokenize true text).outcome = .ok ts) ↔ (tokenize false text).notes = []) ∧
      (∀ ts, (tokenize true text).outcome = .ok ts → (tokenize false text).outcome = .ok ts) ∧
      ((tokenize false text).notes ≠ [] → ∃ front c behind fault,
        ps = front ++ .skipped c :: behind ∧ front.filterMap Piece.skipped? = [] ∧
          (Reading.ofText true text).tokens = (Reading.ofPieces false none front).tokens ∧
          (tokenize true text).outcome = .error fault ∧ fault.kind = .malformed ∧
          ∃ rest, Text.squeeze text.toList = front.flatMap Piece.text ++ c :: rest ∧
            fault.message = "Couldn't lex " ++ String.ofList (c :: rest)) := by
  have splits := splits_pieces (Text.squeeze text.toList)
  have notes := notes_tokenize_lenient text
  have warnings : ∀ note ∈ (tokenize false text).notes, note.level = .warning := by
    intro note made
    rw [notes] at made
    obtain ⟨c, -, rfl⟩ := List.mem_map.1 made
    rfl
  refine ⟨pieces (Text.squeeze text.toList), splits, notes, warnings,
    fun front c behind => outcome_lenient_skipping, ?_⟩
  rcases Piece.all_or_first (pieces (Text.squeeze text.toList)) with
    ⟨ls, all⟩ | ⟨ls, c, behind, first⟩
  · rw [all] at splits
    have read (strict : Bool) : tokenize strict text = ⟨[], .ok (tokensAfter none ls)⟩ :=
      tokenize_of_splits splits
    rw [read true, read false]
    exact ⟨⟨fun _ => rfl, fun _ => ⟨_, rfl⟩⟩, fun ts same => same, fun some => absurd rfl some⟩
  · have refused := ofText_strict_lenient first
    have failed : (tokenize true text).outcome =
        .error (.unreadable (String.ofList (c :: behind.flatMap Piece.text))) := by
      rw [tokenize, refused]
      rfl
    have noted : (tokenize false text).notes ≠ [] := by
      rw [notes, first]
      simp [Piece.skipped?]
    refine ⟨⟨fun read => ?_, fun none => absurd none noted⟩, fun ts read => ?_,
      fun _ => ⟨ls.map .lexeme, c, behind, _, first, Piece.filterMap_skipped?_lexemes ls, ?_,
        failed, rfl, behind.flatMap Piece.text, ?_, rfl⟩⟩
    · obtain ⟨ts, read⟩ := read
      cases failed.symm.trans read
    · cases failed.symm.trans read
    · rw [refused]
    · rw [← splits.flatMap_text, first, List.flatMap_append]
      rfl

/-- Behind a skipped character a minus is still the sign that it is behind the operator. -/
example : (Reading.ofText false "2*$-3").tokens =
    [.number 2.0, .operator "*" false, .number (-1.0), .signProduct, .number 3.0] := by
  decide +kernel

end SciCalc.Syntax
