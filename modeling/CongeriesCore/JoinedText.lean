import Mathlib.Data.List.Basic

/-! # Texts joined with a separator

Texts joined with a separator of one character spell the same if and only if the pieces that
the separator cuts them into are the same, read one text after another. -/

namespace JoinedText

/-- What lies between the separators of a text. -/
def pieces (separator : Char) (text : String) : List (List Char) := text.toList.splitOn separator

/-- The pieces of some texts, one text after another. -/
def allPieces (separator : Char) (texts : List String) : List (List Char) :=
  texts.flatMap (pieces separator)

variable {separator : Char}

theorem splitOn_injective {first second : List Char}
    (same : first.splitOn separator = second.splitOn separator) : first = second := by
  have joined := congrArg [separator].intercalate same
  rwa [List.intercalate_splitOn, List.intercalate_splitOn] at joined

theorem not_mem_of_mem_splitOn {text piece : List Char} (member : piece ∈ text.splitOn separator) :
    separator ∉ piece := by
  induction text generalizing piece with
  | nil =>
    rw [List.splitOn_nil, List.mem_singleton] at member
    simp [member]
  | cons char text ih =>
    rw [List.splitOn_cons_eq_if_modifyHead] at member
    split at member
    · rcases List.mem_cons.mp member with rfl | later
      · exact List.not_mem_nil
      · exact ih later
    · rename_i different
      cases cut : text.splitOn separator with
      | nil => exact absurd cut (List.splitOn_ne_nil _ _)
      | cons first others =>
        rw [cut, List.modifyHead_cons] at member
        rw [cut] at ih
        rcases List.mem_cons.mp member with rfl | later
        · have plain := ih (.head _)
          simp only [beq_iff_eq] at different
          intro found
          rcases List.mem_cons.mp found with same | later
          · exact different same.symm
          · exact plain later
        · exact ih (.tail _ later)

theorem pieces_ne_nil (text : String) : pieces separator text ≠ [] := List.splitOn_ne_nil _ _

/-- Cutting the joined texts gives the pieces of all of them. -/
theorem pieces_intercalate (text : String) (texts : List String) :
    pieces separator ((String.singleton separator).intercalate (text :: texts)) =
      allPieces separator (text :: texts) := by
  induction texts generalizing text with
  | nil => simp [allPieces]
  | cons other texts ih =>
    have cut := ih other
    rw [pieces] at cut ⊢
    have spelled : ((String.singleton separator).intercalate (text :: other :: texts)).toList =
        text.toList ++ separator ::
          ((String.singleton separator).intercalate (other :: texts)).toList := by
      simp
    rw [spelled, List.splitOn_append_cons_self, cut]
    rfl

/-- Joined texts are the same if and only if their pieces are. -/
theorem intercalate_eq_iff {text text' : String} {texts texts' : List String} :
    (String.singleton separator).intercalate (text :: texts) =
        (String.singleton separator).intercalate (text' :: texts') ↔
      allPieces separator (text :: texts) = allPieces separator (text' :: texts') := by
  rw [← pieces_intercalate, ← pieces_intercalate]
  constructor
  · intro same
    rw [same]
  · intro same
    exact String.toList_inj.mp (splitOn_injective same)

/-- The last separator is found again if nothing after it has one. -/
theorem append_cons_inj {first first' last last' : List Char} (plain : separator ∉ last)
    (plain' : separator ∉ last')
    (same : first ++ separator :: last = first' ++ separator :: last') :
    first = first' ∧ last = last' := by
  have cut := congrArg (List.splitOn separator) same
  rw [List.splitOn_append_cons_self, List.splitOn_append_cons_self,
    List.splitOn_eq_singleton plain, List.splitOn_eq_singleton plain'] at cut
  obtain ⟨front, back⟩ := List.append_inj' cut rfl
  exact ⟨splitOn_injective front, List.singleton_inj.mp back⟩

/-- Where a text is cut before the first character that is not allowed. -/
theorem cut_inj {allowed : Char → Bool} {first first' rest rest' : List Char}
    (inside : ∀ char ∈ first, allowed char = true) (inside' : ∀ char ∈ first', allowed char = true)
    (stop : ∀ char ∈ rest.head?, allowed char = false)
    (stop' : ∀ char ∈ rest'.head?, allowed char = false) (same : first ++ rest = first' ++ rest') :
    first = first' ∧ rest = rest' := by
  have taken : ∀ {text : List Char}, (∀ char ∈ text.head?, allowed char = false) →
      text.takeWhile allowed = [] := by
    intro text stop
    cases text with
    | nil => rfl
    | cons char text => simp [stop char rfl]
  have cut := congrArg (List.takeWhile allowed) same
  rw [List.takeWhile_append_of_pos inside, List.takeWhile_append_of_pos inside', taken stop,
    taken stop', List.append_nil, List.append_nil] at cut
  subst cut
  exact ⟨rfl, List.append_cancel_left same⟩

theorem mem_intercalate {char : Char} {items : List (List Char)}
    (member : char ∈ [separator].intercalate items) :
    char = separator ∨ ∃ item ∈ items, char ∈ item := by
  induction items with
  | nil => simp at member
  | cons item items ih =>
    cases items with
    | nil => exact .inr ⟨item, .head _, by simpa using member⟩
    | cons other items =>
      rw [List.intercalate_cons_cons, List.append_assoc, List.mem_append] at member
      rcases member with inside | later
      · exact .inr ⟨item, .head _, inside⟩
      · rcases List.mem_cons.mp later with same | later
        · exact .inl same
        · rcases ih later with same | ⟨found, listed, inside⟩
          · exact .inl same
          · exact .inr ⟨found, .tail _ listed, inside⟩

theorem mem_intercalate_of_mem {char : Char} {items : List (List Char)} {item : List Char}
    (listed : item ∈ items) (member : char ∈ item) : char ∈ [separator].intercalate items := by
  induction items with
  | nil => cases listed
  | cons first items ih =>
    cases items with
    | nil =>
      rw [List.mem_singleton.mp listed] at member
      simpa using member
    | cons other items =>
      rw [List.intercalate_cons_cons]
      rcases List.mem_cons.mp listed with rfl | later
      · simp [member]
      · exact List.mem_append_right _ (ih later)

/-- Items without the separator are found again. -/
theorem intercalate_inj {items items' : List (List Char)} (some_ : items ≠ []) (some' : items' ≠ [])
    (plain : ∀ item ∈ items, separator ∉ item) (plain' : ∀ item ∈ items', separator ∉ item)
    (same : [separator].intercalate items = [separator].intercalate items') : items = items' := by
  rw [← List.splitOn_intercalate separator plain some_, same,
    List.splitOn_intercalate separator plain' some']

end JoinedText
