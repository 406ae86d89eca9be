/-
# SciCalc.Proofs.Syntax.Splitting -- how a text is read, piece by piece

A text falls into pieces in one way only, and that is the way it is split
(`splits_iff_eq_pieces`): at every position the lexeme that leads the rest, or a single
character where none does.  So nothing is lost (`Splits.flatMap_text`).

Reading turns the lexemes into tokens in order; what a lenient reading skips between them
leaves no trace, and a strict reading ends in front of it (`outcome_tokenize_lenient`,
`ofText_strict`, together `tokenize_splits`).  Numbers do not end a reading, since every
lexeme is spelled as its kind is (`isUnread_of_mem_pieces`).
-/
import SciCalc.Proofs.Syntax.NumeralValue

namespace SciCalc.Syntax

set_option autoImplicit false

variable {text rest : List Char} {ps : List Piece} {l : Lexeme}

/-! ## Pieces -/

theorem LexemeKind.Spells.ne_nil {kind : LexemeKind} (spelled : kind.Spells text) : text ≠ [] := by
  rintro rfl
  cases shaped_of_spells spelled

theorem pieces_lexeme (leads : l.Leads (l.text ++ rest)) :
    pieces (l.text ++ rest) = .lexeme l :: pieces rest := by
  have found := lexeme?_eq_some_iff.2 leads
  obtain ⟨c, cs, whole⟩ := List.exists_cons_of_ne_nil leads.spelled.ne_nil
  rw [whole, List.cons_append] at found ⊢
  rw [pieces, splitAfter, found]
  have behind : (cs ++ rest).drop (l.text.length - 1) = rest := by
    rw [whole]
    exact List.drop_left
  simp only [splitAfter_eq_drop lexeme? (l.text.length - 1), behind, pieces]

theorem pieces_skipped {c : Char} (unled : Unled (c :: rest)) :
    pieces (c :: rest) = .skipped c :: pieces rest := by
  rw [pieces, splitAfter, lexeme?_eq_none_iff.2 unled, pieces]

theorem Splits.eq_pieces (splits : Splits text ps) : ps = pieces text := by
  induction splits with
  | nil => rfl
  | lexeme leads _ ih => rw [pieces_lexeme leads, ih]
  | skipped unled _ ih => rw [pieces_skipped unled, ih]

theorem splits_pieces (text : List Char) : Splits text (pieces text) := by
  cases text with
  | nil => exact .nil
  | cons c cs =>
      cases found : lexeme? (c :: cs) with
      | none =>
          have unled := lexeme?_eq_none_iff.1 found
          rw [pieces_skipped unled]
          exact .skipped unled (splits_pieces cs)
      | some l =>
          have leads := lexeme?_eq_some_iff.1 found
          have nonempty := List.length_pos_iff.2 leads.spelled.ne_nil
          obtain ⟨rest, split⟩ := leads.begins
          have shorter : rest.length < (c :: cs).length := by
            rw [← split, List.length_append]
            omega
          rw [← split] at leads ⊢
          rw [pieces_lexeme leads]
          exact .lexeme leads (splits_pieces rest)
  termination_by text.length
  decreasing_by
    · exact Nat.lt_succ_self cs.length
    · exact shorter

/-- **A text falls into its pieces**, and into no others. -/
theorem splits_iff_eq_pieces : Splits text ps ↔ ps = pieces text :=
  ⟨Splits.eq_pieces, fun same => same ▸ splits_pieces text⟩

/-- The pieces of a text together are the text. -/
theorem Splits.flatMap_text (splits : Splits text ps) : ps.flatMap Piece.text = text := by
  induction splits with
  | nil => rfl
  | lexeme _ _ ih => rw [List.flatMap_cons, ih, Piece.text]
  | skipped _ _ ih => rw [List.flatMap_cons, ih, Piece.text, List.singleton_append]

/-! ## Numbers -/

theorem exists_of_mem_splitAfter {next? : List Char → Option Lexeme} {passed : Nat}
    (inside : .lexeme l ∈ splitAfter next? passed text) : ∃ rest, next? rest = some l := by
  induction text generalizing passed with
  | nil => cases passed <;> cases inside
  | cons c cs ih =>
      cases passed with
      | succ n => exact ih inside
      | zero =>
          rw [splitAfter] at inside
          split at inside
          · rename_i found
            rcases List.mem_cons.1 inside with same | later
            · cases same
              exact ⟨_, found⟩
            · exact ih later
          · rcases List.mem_cons.1 inside with same | later
            · cases same
            · exact ih later

section Digits

variable [Digits]

/-- The lexemes among the pieces of a text are spelled as their kinds are. -/
theorem spelled_of_mem_pieces (agree : Digits.Agree) (inside : .lexeme l ∈ pieces text) :
    l.kind.Spells l.text := by
  obtain ⟨rest, found⟩ := exists_of_mem_splitAfter inside
  exact spells_of_text? agree (text?_of_lexeme? found)

theorem Lexeme.isUnread_eq_false (agree : Digits.Agree) (spelled : l.kind.Spells l.text) :
    l.isUnread = false := by
  rw [Lexeme.isUnread]
  by_cases number : l.kind = .number
  · rw [number] at spelled
    rw [double?_of_numeral agree (LexemeKind.spells_number.1 spelled), Option.isNone_some,
      Bool.and_false]
  · rw [decide_eq_false number, Bool.false_and]

theorem isUnread_of_mem_pieces (agree : Digits.Agree) :
    ∀ l, .lexeme l ∈ pieces text → l.isUnread = false := fun _ inside =>
  Lexeme.isUnread_eq_false agree (spelled_of_mem_pieces agree inside)

end Digits

/-! ## Tokens -/

theorem tokensAfter_append (previous : Option Token) (front back : List Lexeme) :
    tokensAfter previous (front ++ back) =
      tokensAfter previous front ++
        tokensAfter ((tokensAfter previous front).getLast?.or previous) back := by
  induction front generalizing previous with
  | nil => simp [tokensAfter]
  | cons l front ih =>
      rw [List.cons_append, tokensAfter, tokensAfter, ih, List.append_assoc, List.getLast?_append,
        Option.or_assoc]

theorem mem_tokensAfter {previous : Option Token} {ls : List Lexeme} {t : Token}
    (inside : t ∈ tokensAfter previous ls) : ∃ l ∈ ls, ∃ before, t ∈ l.tokens before := by
  induction ls generalizing previous with
  | nil => cases inside
  | cons l ls ih =>
      rcases List.mem_append.1 inside with first | later
      · exact ⟨l, List.mem_cons_self, previous, first⟩
      · obtain ⟨m, among, own⟩ := ih later
        exact ⟨m, List.mem_cons_of_mem l among, own⟩

namespace Reading

theorem ofPieces_cons {strict : Bool} (previous : Option Token) (read : l.isUnread = false) :
    ofPieces strict previous (.lexeme l :: ps) =
      let further := ofPieces strict ((l.tokens previous).getLast?.or previous) ps
      { further with tokens := l.tokens previous ++ further.tokens } := by
  rw [ofPieces, read, if_neg Bool.false_ne_true]

/-- A lenient reading has the tokens of the lexemes and has skipped the rest. -/
theorem ofPieces_lenient (previous : Option Token)
    (read : ∀ l, .lexeme l ∈ ps → l.isUnread = false) :
    (ofPieces false previous ps).tokens = tokensAfter previous (ps.filterMap Piece.lexeme?) ∧
      (ofPieces false previous ps).refused = none ∧
      (ofPieces false previous ps).unread = none := by
  induction ps generalizing previous with
  | nil => exact ⟨rfl, rfl, rfl⟩
  | cons p ps ih =>
      have later (previous : Option Token) :=
        ih previous fun m inside => read m (List.mem_cons_of_mem p inside)
      cases p with
      | lexeme l =>
          obtain ⟨tokens, ends⟩ := later ((l.tokens previous).getLast?.or previous)
          rw [ofPieces_cons previous (read l List.mem_cons_self)]
          exact ⟨congrArg (l.tokens previous ++ ·) tokens, ends⟩
      | skipped c => exact later previous

/-- Lexemes alone are read alike in both modes. -/
theorem ofPieces_lexemes (strict : Bool) (previous : Option Token) {ls : List Lexeme}
    (read : ∀ l ∈ ls, l.isUnread = false) :
    ofPieces strict previous (ls.map .lexeme) = ⟨tokensAfter previous ls, [], none, none⟩ := by
  induction ls generalizing previous with
  | nil => rfl
  | cons l ls ih =>
      rw [List.map_cons, ofPieces_cons previous (read l List.mem_cons_self),
        ih _ fun m inside => read m (List.mem_cons_of_mem l inside), tokensAfter]

/-- A strict reading ends at the first character that it would have to skip. -/
theorem ofPieces_strict (previous : Option Token) {front : List Lexeme}
    (read : ∀ l ∈ front, l.isUnread = false) (c : Char) (behind : List Piece) :
    ofPieces true previous (front.map .lexeme ++ .skipped c :: behind) =
      ⟨tokensAfter previous front, [], some (c :: behind.flatMap Piece.text), none⟩ := by
  induction front generalizing previous with
  | nil => rfl
  | cons l front ih =>
      rw [List.map_cons, List.cons_append, ofPieces_cons previous (read l List.mem_cons_self),
        ih _ fun m inside => read m (List.mem_cons_of_mem l inside), tokensAfter]

end Reading

/-- Pieces are all lexemes, or there is a first character that is none. -/
theorem Piece.all_or_first (ps : List Piece) :
    (∃ ls : List Lexeme, ps = ls.map .lexeme) ∨
      ∃ (front : List Lexeme) (c : Char) (behind : List Piece),
        ps = front.map .lexeme ++ .skipped c :: behind := by
  induction ps with
  | nil => exact .inl ⟨[], rfl⟩
  | cons p ps ih =>
      cases p with
      | skipped c => exact .inr ⟨[], c, ps, rfl⟩
      | lexeme l =>
          rcases ih with ⟨ls, rfl⟩ | ⟨front, c, behind, rfl⟩
          · exact .inl ⟨l :: ls, rfl⟩
          · exact .inr ⟨l :: front, c, behind, rfl⟩

theorem Piece.all_lexemes_iff :
    (∃ ls : List Lexeme, ps = ls.map .lexeme) ↔ ∀ c, Piece.skipped c ∉ ps := by
  constructor
  · rintro ⟨ls, rfl⟩ c inside
    simp at inside
  · intro unskipped
    rcases Piece.all_or_first ps with all | ⟨front, c, behind, rfl⟩
    · exact all
    · exact absurd (List.mem_append_right _ List.mem_cons_self) (unskipped c)

/-- Where the first lexemes of a text are, they can be read. -/
theorem isUnread_of_pieces [Digits] (agree : Digits.Agree) {front : List Lexeme}
    {behind : List Piece} (first : pieces text = front.map .lexeme ++ behind) :
    ∀ l ∈ front, l.isUnread = false := fun l inside =>
  isUnread_of_mem_pieces agree l
    (first ▸ List.mem_append_left behind (List.mem_map_of_mem inside))

/-- A text all of whose pieces are lexemes is read without a note. -/
theorem tokenize_of_splits {strict : Bool} {text : String} {ls : List Lexeme}
    (splits : Splits (Text.squeeze text.toList) (ls.map .lexeme)) :
    tokenize strict text = ⟨[], .ok (tokensAfter none ls)⟩ := by
  have all := splits.eq_pieces
  have read : Reading.ofText strict text = ⟨tokensAfter none ls, [], none, none⟩ := by
    rw [Reading.ofText, ← all, Reading.ofPieces_lexemes strict none
      (isUnread_of_pieces Digits.agree_table (all.symm.trans (List.append_nil _).symm))]
  rw [tokenize, read]
  rfl

/-- A lenient reading does not fail. -/
theorem outcome_tokenize_lenient (text : String) :
    (tokenize false text).outcome = .ok (tokensAfter none
      ((pieces (Text.squeeze text.toList)).filterMap Piece.lexeme?)) := by
  obtain ⟨tokens, refused, unread⟩ :=
    Reading.ofPieces_lenient none (isUnread_of_mem_pieces Digits.agree_table)
  rw [tokenize, Reading.fault?, Reading.ofText, refused, unread, ← tokens]

/-- A strict reading of a text with a first character that is no lexeme. -/
theorem ofText_strict [Digits] (agree : Digits.Agree) {text : String} {front : List Lexeme}
    {c : Char} {behind : List Piece}
    (first : pieces (Text.squeeze text.toList) = front.map .lexeme ++ .skipped c :: behind) :
    Reading.ofText true text =
      ⟨tokensAfter none front, [], some (c :: behind.flatMap Piece.text), none⟩ := by
  rw [Reading.ofText, first, Reading.ofPieces_strict none (isUnread_of_pieces agree first)]

/-- What is read, up to a refused character if there is one, are the tokens of well-spelled
lexemes, and numbers are all read. -/
theorem Reading.tokens_ofText [Digits] (agree : Digits.Agree) (strict : Bool) (text : String) :
    ∃ ls : List Lexeme, (∀ l ∈ ls, l.kind.Spells l.text) ∧
      (Reading.ofText strict text).tokens = tokensAfter none ls ∧
      (Reading.ofText strict text).unread = none := by
  cases strict with
  | false =>
      obtain ⟨tokens, -, unread⟩ := ofPieces_lenient none (isUnread_of_mem_pieces agree)
      refine ⟨_, fun l inside => ?_, tokens, unread⟩
      obtain ⟨p, member, found⟩ := List.mem_filterMap.1 inside
      cases p with
      | lexeme own =>
          cases found
          exact spelled_of_mem_pieces agree member
      | skipped _ => cases found
  | true =>
      rcases Piece.all_or_first (pieces (Text.squeeze text.toList)) with
        ⟨ls, all⟩ | ⟨front, c, behind, first⟩
      · have read := isUnread_of_pieces agree (all.trans (List.append_nil _).symm)
        refine ⟨ls, fun l inside => spelled_of_mem_pieces agree (all ▸ List.mem_map_of_mem inside),
          ?_⟩
        rw [ofText, all, ofPieces_lexemes true none read]
        exact ⟨rfl, rfl⟩
      · refine ⟨front, fun l inside => spelled_of_mem_pieces agree
          (first ▸ List.mem_append_left _ (List.mem_map_of_mem inside)), ?_⟩
        rw [ofText_strict agree first]
        exact ⟨rfl, rfl⟩

/-- A reading has the tokens of well-spelled lexemes, or finds a text unreadable. -/
theorem outcome_tokenize [Digits] (agree : Digits.Agree) (strict : Bool) (text : String) :
    (∃ rest, (tokenize strict text).outcome = .error (.unreadable rest)) ∨
      ∃ ls : List Lexeme, (∀ l ∈ ls, l.kind.Spells l.text) ∧
        (tokenize strict text).outcome = .ok (tokensAfter none ls) := by
  obtain ⟨ls, spelled, tokens, unread⟩ := Reading.tokens_ofText agree strict text
  rw [tokenize, Reading.fault?, unread]
  cases (Reading.ofText strict text).refused with
  | some rest => exact .inl ⟨String.ofList rest, rfl⟩
  | none => exact .inr ⟨ls, spelled, congrArg Except.ok tokens⟩

/-- **Reading takes the longest lexeme everywhere and loses nothing.**  The text without its
white space falls into pieces in one way.  A lenient reading has the tokens of the lexemes
among them in order.  A strict one has the same if all pieces are lexemes; otherwise it has
the tokens of those in front of the first character that is none, and its fault quotes the
text from there on. -/
theorem tokenize_splits (text : String) :
    ∃ ps : List Piece,
      (∀ qs, Splits (Text.squeeze text.toList) qs ↔ qs = ps) ∧
        ps.flatMap Piece.text = Text.squeeze text.toList ∧
        (tokenize false text).outcome = .ok (tokensAfter none (ps.filterMap Piece.lexeme?)) ∧
        ((∃ ls : List Lexeme, ps = ls.map .lexeme ∧
            (tokenize true text).outcome = .ok (tokensAfter none ls)) ∨
          ∃ (front : List Lexeme) (c : Char) (behind : List Piece) (fault : Fault),
            ps = front.map .lexeme ++ .skipped c :: behind ∧
              (Reading.ofText true text).tokens = tokensAfter none front ∧
              (tokenize true text).outcome = .error fault ∧ fault.kind = .malformed ∧
              fault.message =
                "Couldn't lex " ++ String.ofList (c :: behind.flatMap Piece.text)) := by
  have splits := splits_pieces (Text.squeeze text.toList)
  refine ⟨pieces (Text.squeeze text.toList), fun qs => splits_iff_eq_pieces,
    splits.flatMap_text, outcome_tokenize_lenient text, ?_⟩
  rcases Piece.all_or_first (pieces (Text.squeeze text.toList)) with
    ⟨ls, all⟩ | ⟨front, c, behind, first⟩
  · rw [all] at splits
    refine .inl ⟨ls, all, ?_⟩
    rw [tokenize_of_splits splits]
  · refine .inr ⟨front, c, behind, .unreadable (String.ofList (c :: behind.flatMap Piece.text)),
      first, ?_, ?_, rfl, rfl⟩
    · rw [ofText_strict Digits.agree_table first]
    · rw [tokenize, ofText_strict Digits.agree_table first]
      rfl

/-- The name of an inverse function is read whole, and so is the constant `e`; a character
that begins no lexeme is skipped alone. -/
example : pieces "asinh2#e".toList =
    [.lexeme ⟨.function, "asinh".toList⟩, .lexeme ⟨.number, "2".toList⟩, .skipped '#',
      .lexeme ⟨.constant, "e".toList⟩] := by
  decide +kernel

end SciCalc.Syntax
