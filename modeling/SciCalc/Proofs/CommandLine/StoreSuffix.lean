/-
# SciCalc.Proofs.CommandLine.StoreSuffix -- the arrow that a line is split at

A line asks to store its result if it ends in an arrow, blanks, a word and blanks
(`EndsInStore`).  Blanks, words and tips of arrows have no characters in common, so reading the
line from its end takes each of these parts as a whole, and there is one way only to take the
line apart (`splitStore_eq_some_iff`).  Every other arrow of the line ends in the expression
(`EndsInStore.arrow_last`).

A search for the pattern from the beginning of the line finds the same.  Taking as much as
possible and giving back makes nothing up and loses nothing (`takeMost_sound`,
`takeMost_complete`), so the pattern begins at a place exactly if the line ends in a store from
there (`storeAt?_eq_some_iff`); and there is one such place at most, so that the first is also
the last (`searchStore_eq`).
-/
import SciCalc.CommandLine.StoreSearch

namespace SciCalc.CommandLine

set_option autoImplicit false

/-! ## Characters -/

theorem isBlank_eq_false_of_isWord {c : Char} (letter : Text.isWord c = true) :
    Text.isBlank c = false := by
  have apart : (Text.wordRanges.all fun word => Text.blankRanges.all fun blank =>
      word.2 < blank.1 || blank.2 < word.1) = true := by
    decide +kernel
  obtain ⟨word, inWords, low, high⟩ := (Text.inRanges_eq_true_iff _ c).1 letter
  refine Text.inRanges_eq_false fun blank inBlanks => ?_
  have disjoint := List.all_eq_true.1 (List.all_eq_true.1 apart word inWords) blank inBlanks
  rw [Bool.or_eq_true, decide_eq_true_iff, decide_eq_true_iff] at disjoint
  omega

/-- The character that an arrow ends with. -/
def IsTip (c : Char) : Prop := c = '>' ∨ c = '→'

theorem IsTip.apart {c : Char} (tip : IsTip c) :
    Text.isBlank c = false ∧ Text.isWord c = false := by
  rcases tip with rfl | rfl
  · exact ⟨by decide +kernel, by decide +kernel⟩
  · exact ⟨by decide +kernel, by decide +kernel⟩

/-- The ways to write an arrow. -/
def IsArrow (arrow : List Char) : Prop := arrow = ['-', '>'] ∨ arrow = ['→']

theorem IsArrow.tip {arrow : List Char} (pointed : IsArrow arrow) :
    ∃ shaft tip, arrow = shaft ++ [tip] ∧ IsTip tip := by
  rcases pointed with rfl | rfl
  · exact ⟨['-'], '>', rfl, .inl rfl⟩
  · exact ⟨[], '→', rfl, .inr rfl⟩

theorem mem_of_head?_append {c : Char} {front behind : List Char}
    (first : c ∈ (front ++ behind).head?) : c ∈ front ∨ front = [] ∧ c ∈ behind.head? := by
  cases front with
  | nil => exact .inr ⟨rfl, first⟩
  | cons d front =>
      cases first
      exact .inl List.mem_cons_self

/-- Blanks, a word and blanks are peeled off a text one after the other, if the rest begins with
no character of either class. -/
theorem peel {margin word gap rest : List Char} (trailing : ∀ c ∈ margin, Text.isBlank c = true)
    (named : word ≠ []) (spelled : ∀ c ∈ word, Text.isWord c = true)
    (spaced : ∀ c ∈ gap, Text.isBlank c = true)
    (apart : ∀ c ∈ rest.head?, Text.isBlank c = false ∧ Text.isWord c = false) :
    (margin ++ (word ++ (gap ++ rest))).dropWhile Text.isBlank = word ++ (gap ++ rest) ∧
      (word ++ (gap ++ rest)).takeWhile Text.isWord = word ∧
      (word ++ (gap ++ rest)).dropWhile Text.isWord = gap ++ rest ∧
      (gap ++ rest).dropWhile Text.isBlank = rest := by
  have wordFirst : ∀ c ∈ (word ++ (gap ++ rest)).head?, Text.isBlank c = false := by
    intro c first
    rcases mem_of_head?_append first with inside | ⟨none, -⟩
    · exact isBlank_eq_false_of_isWord (spelled c inside)
    · exact absurd none named
  have wordLast : ∀ c ∈ (gap ++ rest).head?, Text.isWord c = false := by
    intro c first
    rcases mem_of_head?_append first with inside | ⟨-, first⟩
    · rw [Bool.eq_false_iff]
      intro letter
      exact Bool.eq_false_iff.1 (isBlank_eq_false_of_isWord letter) (spaced c inside)
    · exact (apart c first).2
  obtain ⟨read, left⟩ := Text.takeWhile_dropWhile_append spelled wordLast
  exact ⟨(Text.takeWhile_dropWhile_append trailing wordFirst).2, read, left,
    (Text.takeWhile_dropWhile_append spaced fun c first => (apart c first).1).2⟩

/-! ## Reading from the end -/

theorem beforeArrow?_eq_some_iff {reversed expression : List Char} :
    beforeArrow? reversed = some expression ↔
      ∃ arrow, IsArrow arrow ∧ reversed = arrow.reverse ++ expression.reverse := by
  constructor
  · intro found
    unfold beforeArrow? at found
    split at found
    · cases found
      exact ⟨['→'], .inr rfl, by simp⟩
    · cases found
      exact ⟨['-', '>'], .inl rfl, by simp⟩
    · cases found
  · rintro ⟨arrow, rfl | rfl, rfl⟩
    · simp [beforeArrow?]
    · simp [beforeArrow?]

section Reading

variable {line expression word : List Char}

/-- What `splitStore` looks at: the last word of a line, and what is in front of it, both in
reverse. -/
theorem splitStore_eq_some_iff_reverse :
    splitStore line = (expression, some word) ↔
      word ≠ [] ∧ (line.reverse.dropWhile Text.isBlank).takeWhile Text.isWord = word.reverse ∧
        beforeArrow? (((line.reverse.dropWhile Text.isBlank).dropWhile Text.isWord).dropWhile
          Text.isBlank) = some expression := by
  constructor
  · intro stored
    unfold splitStore at stored
    dsimp only at stored
    split at stored
    · rename_i read arrow
      cases stored
      rw [List.reverse_reverse, read]
      exact ⟨by simp, rfl, arrow⟩
    · cases stored
  · rintro ⟨named, read, arrow⟩
    unfold splitStore
    simp only [read, arrow]
    cases letters : word.reverse with
    | nil => exact absurd (List.reverse_eq_nil_iff.1 letters) named
    | cons c cs =>
        rw [← List.reverse_reverse word, letters]

/-- Without a word there is the whole line. -/
theorem splitStore_of_none (unstored : (splitStore line).2 = none) :
    splitStore line = (line, none) := by
  unfold splitStore at unstored ⊢
  dsimp only at unstored ⊢
  split at unstored
  · cases unstored
  · rfl

end Reading

/-- A line is an expression, an arrow and a word, with blanks before and behind the word. -/
structure EndsInStore (line expression arrow gap word margin : List Char) : Prop where
  whole : line = expression ++ arrow ++ gap ++ word ++ margin
  pointed : IsArrow arrow
  spaced : ∀ c ∈ gap, Text.isBlank c = true
  named : word ≠ []
  spelled : ∀ c ∈ word, Text.isWord c = true
  trailing : ∀ c ∈ margin, Text.isBlank c = true

namespace EndsInStore

variable {line expression arrow gap word margin : List Char}

/-- Read from its end, a line that ends in a store is split there. -/
theorem splitStore_eq (ends : EndsInStore line expression arrow gap word margin) :
    splitStore line = (expression, some word) := by
  have reversed : line.reverse = margin.reverse ++
      (word.reverse ++ (gap.reverse ++ (arrow.reverse ++ expression.reverse))) := by
    rw [ends.whole]
    simp only [List.reverse_append, List.append_assoc]
  have apart : ∀ c ∈ (arrow.reverse ++ expression.reverse).head?,
      Text.isBlank c = false ∧ Text.isWord c = false := by
    obtain ⟨shaft, tip, shape, isTip⟩ := ends.pointed.tip
    intro c first
    rw [shape, List.reverse_append] at first
    cases first
    exact isTip.apart
  obtain ⟨margins, read, left, front⟩ := peel
    (fun c inside => ends.trailing c (List.mem_reverse.1 inside))
    (fun none => ends.named (List.reverse_eq_nil_iff.1 none))
    (fun c inside => ends.spelled c (List.mem_reverse.1 inside))
    (fun c inside => ends.spaced c (List.mem_reverse.1 inside)) apart
  refine splitStore_eq_some_iff_reverse.2 ⟨ends.named, ?_, ?_⟩
  · rw [reversed, margins, read]
  · rw [reversed, margins, left, front]
    exact beforeArrow?_eq_some_iff.2 ⟨arrow, ends.pointed, rfl⟩

/-- There is no tip of an arrow behind the one that the line is split at. -/
theorem tip_notMem (ends : EndsInStore line expression arrow gap word margin) {c : Char}
    (tip : IsTip c) : c ∉ gap ++ word ++ margin := by
  obtain ⟨notBlank, notWord⟩ := tip.apart
  intro inside
  rw [List.mem_append, List.mem_append] at inside
  rcases inside with (inGap | inWord) | inMargin
  · rw [ends.spaced c inGap] at notBlank
    cases notBlank
  · rw [ends.spelled c inWord] at notWord
    cases notWord
  · rw [ends.trailing c inMargin] at notBlank
    cases notBlank

end EndsInStore

/-- A line that is split ends in a store. -/
theorem exists_of_splitStore {line expression word : List Char}
    (stored : splitStore line = (expression, some word)) :
    ∃ arrow gap margin, EndsInStore line expression arrow gap word margin := by
  obtain ⟨named, read, found⟩ := splitStore_eq_some_iff_reverse.1 stored
  obtain ⟨arrow, pointed, front⟩ := beforeArrow?_eq_some_iff.1 found
  have taken (isIn : Char → Bool) (text : List Char) :
      ∀ c ∈ (text.takeWhile isIn).reverse, isIn c = true := fun c inside =>
    List.all_eq_true.1 List.all_takeWhile c (List.mem_reverse.1 inside)
  obtain ⟨rest, peeled⟩ : ∃ rest, line.reverse.dropWhile Text.isBlank = rest := ⟨_, rfl⟩
  rw [peeled] at read front
  have reversed : line.reverse = line.reverse.takeWhile Text.isBlank ++ (word.reverse ++
      ((rest.dropWhile Text.isWord).takeWhile Text.isBlank ++
        (arrow.reverse ++ expression.reverse))) := by
    rw [← front, List.takeWhile_append_dropWhile, ← read, List.takeWhile_append_dropWhile, ← peeled,
      List.takeWhile_append_dropWhile]
  have whole := congrArg List.reverse reversed
  simp only [List.reverse_append, List.reverse_reverse] at whole
  refine ⟨arrow, _, _, whole, pointed, taken _ _, named, ?_, taken _ _⟩
  have spelled := taken Text.isWord rest
  rw [read, List.reverse_reverse] at spelled
  exact spelled

/-- A line is split into an expression and a word exactly if it ends in a store of them. -/
theorem splitStore_eq_some_iff {line expression word : List Char} :
    splitStore line = (expression, some word) ↔
      ∃ arrow gap margin, EndsInStore line expression arrow gap word margin :=
  ⟨exists_of_splitStore, fun ⟨_, _, _, ends⟩ => ends.splitStore_eq⟩

theorem splitStore_eq_self {line : List Char}
    (none : ∀ expression arrow gap word margin,
      ¬ EndsInStore line expression arrow gap word margin) :
    splitStore line = (line, .none) := by
  refine splitStore_of_none ?_
  cases stored : (splitStore line).2 with
  | none => rfl
  | some word =>
      obtain ⟨arrow, gap, margin, ends⟩ := exists_of_splitStore (Prod.ext rfl stored)
      exact absurd ends (none _ _ _ _ _)

/-! ## The last arrow -/

/-- Two texts that end in arrows are the same if both parts are. -/
theorem arrow_unique {front other expression arrow : List Char} (pointedOther : IsArrow other)
    (pointed : IsArrow arrow) (same : front ++ other = expression ++ arrow) :
    front = expression ∧ other = arrow := by
  have ending := congrArg List.getLast? same
  rcases pointedOther with rfl | rfl <;> rcases pointed with rfl | rfl
  · exact List.append_inj' same rfl
  · simp at ending
  · simp at ending
  · exact List.append_inj' same rfl

/-- Of an arrow only the end is a tip. -/
theorem IsArrow.eq_nil_of_tip {arrow front behind : List Char} {tip : Char}
    (pointed : IsArrow arrow) (isTip : IsTip tip) (shape : arrow = front ++ [tip] ++ behind) :
    behind = [] := by
  rcases pointed with rfl | rfl
  · cases front with
    | nil =>
        cases shape
        rcases isTip with same | same <;> cases same
    | cons c front =>
        cases front with
        | nil =>
            cases shape
            rfl
        | cons d front => simp at shape
  · cases front with
    | nil =>
        cases shape
        rfl
    | cons c front => simp at shape

/-- Where a text ends in a tip, so does what it has behind another text. -/
theorem eq_nil_or_tip {front shaft text extra : List Char} {tip : Char}
    (same : front ++ (shaft ++ [tip]) = text ++ extra) :
    extra = [] ∨ ∃ between, extra = between ++ [tip] := by
  rcases List.eq_nil_or_concat extra with rfl | ⟨between, last, rfl⟩
  · exact .inl rfl
  · rw [List.concat_eq_append, ← List.append_assoc, ← List.append_assoc] at same
    cases (List.append_inj' same rfl).2
    exact .inr ⟨between, List.concat_eq_append⟩

namespace EndsInStore

variable {line expression arrow gap word margin : List Char}

/-- Every other arrow of the line ends in the expression. -/
theorem arrow_last (ends : EndsInStore line expression arrow gap word margin)
    {front other behind : List Char} (pointed : IsArrow other)
    (found : line = front ++ other ++ behind) :
    front = expression ∧ other = arrow ∨ front ++ other <+: expression := by
  obtain ⟨shaft, tip, shape, isTip⟩ := pointed.tip
  have same : front ++ other ++ behind = expression ++ arrow ++ (gap ++ word ++ margin) := by
    rw [← found, ends.whole]
    simp only [List.append_assoc]
  -- The other arrow ends in the expression, at the end of this one, or behind it.
  rcases List.append_eq_append_iff.1 same with ⟨extra, upTo, -⟩ | ⟨extra, reach, tail⟩
  · rcases List.append_eq_append_iff.1 upTo with ⟨part, reach, split⟩ | ⟨rest, inside, -⟩
    · rcases eq_nil_or_tip (shape ▸ reach) with rfl | ⟨between, rfl⟩
      · exact .inr ⟨[], by rw [reach, List.append_nil, List.append_nil]⟩
      · obtain rfl := ends.pointed.eq_nil_of_tip isTip split
        rw [List.append_nil] at split
        exact .inl (arrow_unique pointed ends.pointed (split ▸ reach))
    · exact .inr ⟨rest, inside.symm⟩
  · rcases eq_nil_or_tip (shape ▸ reach) with rfl | ⟨between, rfl⟩
    · rw [List.append_nil] at reach
      exact .inl (arrow_unique pointed ends.pointed reach)
    · refine absurd ?_ (ends.tip_notMem isTip)
      rw [tail]
      exact List.mem_append_left _ (List.mem_append_right _ (List.mem_singleton_self tip))

end EndsInStore

/-! ## Searching from the beginning -/

section Taking

variable {β : Type} {isIn : Char → Bool} {next : List Char → List Char → Option β}

/-- What is found is found behind some characters of the class. -/
theorem takeMost_sound {text : List Char} {result : β}
    (found : takeMost isIn next text = some result) :
    ∃ taken rest, text = taken ++ rest ∧ (∀ c ∈ taken, isIn c = true) ∧
      next taken rest = some result := by
  -- A character that is taken is put in front of what `next` is given.
  induction text generalizing next with
  | nil => exact ⟨[], [], rfl, List.forall_mem_nil _, found⟩
  | cons c cs ih =>
      rw [takeMost, Option.or_eq_some_iff] at found
      rcases found with more | ⟨-, here⟩
      · split at more
        · rename_i inside
          obtain ⟨taken, rest, rfl, all, result⟩ := ih more
          exact ⟨c :: taken, rest, rfl, List.forall_mem_cons.2 ⟨inside, all⟩, result⟩
        · cases more
      · exact ⟨[], c :: cs, rfl, List.forall_mem_nil _, here⟩

/-- Nothing is missed behind any characters of the class. -/
theorem takeMost_complete {taken rest : List Char} (all : ∀ c ∈ taken, isIn c = true)
    (missed : takeMost isIn next (taken ++ rest) = none) : next taken rest = none := by
  induction taken generalizing next with
  | nil =>
      cases rest with
      | nil => exact missed
      | cons c rest => exact (Option.or_eq_none_iff.1 missed).2
  | cons c taken ih =>
      obtain ⟨inside, all⟩ := List.forall_mem_cons.1 all
      have more := (Option.or_eq_none_iff.1 missed).1
      rw [if_pos inside] at more
      exact ih all more

end Taking

theorem behindArrow?_eq_some_iff {text rest : List Char} :
    behindArrow? text = some rest ↔ ∃ arrow, IsArrow arrow ∧ text = arrow ++ rest := by
  constructor
  · intro found
    unfold behindArrow? at found
    split at found
    · cases found
      exact ⟨['-', '>'], .inl rfl, rfl⟩
    · cases found
      exact ⟨['→'], .inr rfl, rfl⟩
    · cases found
  · rintro ⟨arrow, rfl | rfl, rfl⟩
    · rfl
    · rfl

theorem marginAt?_sound {word text result : List Char}
    (found : marginAt? word text = some result) :
    result = word ∧ ∀ c ∈ text, Text.isBlank c = true := by
  obtain ⟨taken, rest, rfl, blank, ended⟩ := takeMost_sound found
  split at ended
  · rename_i last
    cases ended
    rw [atEnd, Bool.or_eq_true, decide_eq_true_iff, decide_eq_true_iff] at last
    refine ⟨rfl, List.forall_mem_append.2 ⟨blank, ?_⟩⟩
    rcases last with rfl | rfl
    · exact List.forall_mem_nil _
    · exact List.forall_mem_singleton.2 (by decide +kernel)
  · cases ended

theorem marginAt?_complete {word margin : List Char}
    (trailing : ∀ c ∈ margin, Text.isBlank c = true) : marginAt? word margin ≠ none := by
  intro missed
  rw [← List.append_nil margin] at missed
  cases takeMost_complete trailing missed

theorem wordAt?_sound {text word : List Char} (found : wordAt? text = some word) :
    ∃ margin, text = word ++ margin ∧ word ≠ [] ∧ (∀ c ∈ word, Text.isWord c = true) ∧
      ∀ c ∈ margin, Text.isBlank c = true := by
  obtain ⟨taken, margin, rfl, spelled, ended⟩ := takeMost_sound found
  split at ended
  · cases ended
  · rename_i named
    obtain ⟨rfl, trailing⟩ := marginAt?_sound ended
    exact ⟨margin, rfl, named, spelled, trailing⟩

theorem wordAt?_complete {word margin : List Char} (named : word ≠ [])
    (spelled : ∀ c ∈ word, Text.isWord c = true)
    (trailing : ∀ c ∈ margin, Text.isBlank c = true) : wordAt? (word ++ margin) ≠ none := by
  intro missed
  have behind := takeMost_complete spelled missed
  rw [if_neg named] at behind
  exact marginAt?_complete trailing behind

/-- The pattern begins where a line begins that is nothing but a store. -/
theorem storeAt?_eq_some_iff {text word : List Char} :
    storeAt? text = some word ↔ ∃ arrow gap margin, EndsInStore text [] arrow gap word margin := by
  have sound (found : List Char) (begins : storeAt? text = some found) :
      ∃ arrow gap margin, EndsInStore text [] arrow gap found margin := by
    obtain ⟨behind, opened, read⟩ := Option.bind_eq_some_iff.1 begins
    obtain ⟨arrow, pointed, rfl⟩ := behindArrow?_eq_some_iff.1 opened
    obtain ⟨gap, rest, rfl, spaced, read⟩ := takeMost_sound read
    obtain ⟨margin, rfl, named, spelled, trailing⟩ := wordAt?_sound read
    exact ⟨arrow, gap, margin, by simp, pointed, spaced, named, spelled, trailing⟩
  refine ⟨sound word, fun ⟨arrow, gap, margin, ends⟩ => ?_⟩
  cases begins : storeAt? text with
  | some found =>
      -- There is only one way to take the text apart, so this is the word.
      obtain ⟨_, _, _, endsFound⟩ := sound found begins
      cases endsFound.splitStore_eq.symm.trans ends.splitStore_eq
      rfl
  | none =>
      have behind : behindArrow? text = some (gap ++ (word ++ margin)) :=
        behindArrow?_eq_some_iff.2 ⟨arrow, ends.pointed, by rw [ends.whole]; simp⟩
      rw [storeAt?, behind] at begins
      exact absurd (takeMost_complete ends.spaced begins)
        (wordAt?_complete ends.named ends.spelled ends.trailing)

/-- A line that ends in a store does so behind one more character too. -/
theorem EndsInStore.cons {line expression arrow gap word margin : List Char} (c : Char)
    (ends : EndsInStore line expression arrow gap word margin) :
    EndsInStore (c :: line) (c :: expression) arrow gap word margin :=
  { ends with whole := by rw [ends.whole]; rfl }

theorem EndsInStore.of_cons {line expression arrow gap word margin : List Char} {c d : Char}
    (ends : EndsInStore (c :: line) (d :: expression) arrow gap word margin) :
    c = d ∧ EndsInStore line expression arrow gap word margin := by
  obtain ⟨same, whole⟩ := List.cons.inj ends.whole
  exact ⟨same, { ends with whole := whole }⟩

/-- A search for the pattern from the beginning of the line splits it as reading it from its end
does. -/
theorem searchStore_eq (line : List Char) : searchStore line = splitStore line := by
  induction line with
  | nil => rfl
  | cons c line ih =>
      rw [searchStore]
      split
      · rename_i word begins
        obtain ⟨_, _, _, ends⟩ := storeAt?_eq_some_iff.1 begins
        exact ends.splitStore_eq.symm
      · -- Then the line does not end in a store from here, but it may from further behind.
        rename_i missed
        rw [ih]
        cases stored : (splitStore line).2 with
        | some word =>
            obtain ⟨_, _, _, ends⟩ := exists_of_splitStore (Prod.ext rfl stored)
            exact (ends.cons c).splitStore_eq.symm
        | none =>
            rw [splitStore_of_none stored, splitStore_eq_self]
            intro expression arrow gap word margin ends
            cases expression with
            | nil =>
                rw [storeAt?_eq_some_iff.2 ⟨_, _, _, ends⟩] at missed
                cases missed
            | cons d expression =>
                rw [ends.of_cons.2.splitStore_eq] at stored
                cases stored

/-- **A line is split at its last arrow.**  It is split into an expression and a word exactly if
it is the expression, an arrow, blanks, the word and blanks; then every other arrow of the line
is part of the expression.  Any other line is kept as a whole, without a word.  Searching for
the first place from which the line ends in this way gives the same. -/
theorem splitStore_last_arrow (line : List Char) :
    (∀ expression word, splitStore line = (expression, some word) ↔
      ∃ arrow gap margin, EndsInStore line expression arrow gap word margin) ∧
    (∀ expression arrow gap word margin, EndsInStore line expression arrow gap word margin →
      ∀ front other behind, IsArrow other → line = front ++ other ++ behind →
        front = expression ∧ other = arrow ∨ front ++ other <+: expression) ∧
    (splitStore line = (line, none) ↔
      ∀ expression arrow gap word margin,
        ¬ EndsInStore line expression arrow gap word margin) ∧
    searchStore line = splitStore line := by
  refine ⟨fun _ _ => splitStore_eq_some_iff, fun _ _ _ _ _ ends _ _ _ => ends.arrow_last,
    ⟨fun kept _ _ _ _ _ ends => ?_, splitStore_eq_self⟩, searchStore_eq line⟩
  cases kept.symm.trans ends.splitStore_eq

/-- A line with arrows of both kinds, the second with a minus in front of it. -/
theorem splitStore_last_arrow_mixed :
    EndsInStore "1->2-→ A ".toList "1->2-".toList ['→'] [' '] ['A'] [' '] ∧
      splitStore "1->2-→ A ".toList = ("1->2-".toList, some ['A']) ∧
      searchStore "1->2-→ A ".toList = ("1->2-".toList, some ['A']) ∧
      "1->".toList <+: "1->2-".toList := by
  have ends : EndsInStore "1->2-→ A ".toList "1->2-".toList ['→'] [' '] ['A'] [' '] :=
    ⟨by decide, .inr rfl, List.forall_mem_singleton.2 (by decide +kernel), by decide,
      List.forall_mem_singleton.2 (by decide +kernel),
      List.forall_mem_singleton.2 (by decide +kernel)⟩
  obtain ⟨split, last, -, search⟩ := splitStore_last_arrow "1->2-→ A ".toList
  have stored := (split _ _).2 ⟨_, _, _, ends⟩
  refine ⟨ends, stored, search.trans stored, ?_⟩
  rcases last _ _ _ _ _ ends ['1'] ['-', '>'] "2-→ A ".toList (.inl rfl) (by decide)
    with same | inside
  · cases same.1
  · exact inside

end SciCalc.CommandLine
